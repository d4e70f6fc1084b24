import ApiBlueprint.CommonMark.Block
import ApiBlueprint.CommonMark.Inline

/-!
The plain text of a Markdown text: no markup, and single spaces between words.

In a tight list an item has no paragraphs: the tokens of all its paragraphs, with the other blocks
between them, are the tokens of one text.
-/

namespace ApiBlueprint.CommonMark
namespace Block

def start : Block → Nat
  | leaf _ start _ _ => start
  | group _ _ start _ _ => start

def stop : Block → Nat
  | leaf _ _ stop _ => stop
  | group _ _ _ stop _ => stop

mutual

def parts : Block → List Part
  | leaf _ start stop tokens => ⟨start, stop, false⟩ :: tokens.flatMap Token.parts
  | group _ _ start stop blocks => ⟨start, stop, false⟩ :: partsOf blocks

def partsOf : List Block → List Part
  | [] => []
  | block :: rest => parts block ++ partsOf rest

end

def openParagraph (start stop : Nat) : List Token → List Token
  | [] => [{ start, stop, body := .block [] [⟨start, stop, false⟩] }]
  | token :: rest => { token with opens := some ⟨start, stop, false⟩ } :: rest

def startsEmpty : List Block → Bool
  | .leaf .paragraph _ _ [] :: _ => true
  | _ => false

mutual

/-- The text of a block in containers, the outermost first; `spliced` says that it is an item of a
tight list. -/
def text (source : Source) (labels : List Text) (containers : List Container) (spliced : Bool) :
    Block → Text
  | leaf _ _ stop tokens => Inline.toText ⟨source, containers, labels, stop⟩ tokens
  | group container tight _ stop blocks =>
    let containers := containers ++ [container]
    if spliced then
      if startsEmpty blocks then []
      else Inline.toText ⟨source, containers, labels, stop⟩ (splice source labels containers blocks)
    else textOf source labels containers (tight && container.isList) blocks

def textOf (source : Source) (labels : List Text) (containers : List Container) (spliced : Bool) :
    List Block → Text
  | [] => []
  | block :: rest =>
    text source labels containers spliced block ++ textOf source labels containers spliced rest

def splice (source : Source) (labels : List Text) (containers : List Container) :
    List Block → List Token
  | [] => []
  | block :: rest =>
    let tokens :=
      match block with
      | leaf .paragraph start stop tokens => openParagraph start stop tokens
      | _ =>
        [{ start := block.start
           stop := block.stop
           body := .block (text source labels containers false block) block.parts }]
    tokens ++ splice source labels containers rest

end
end Block

def plainText (text : Text) : Text :=
  let outline := Outline.ofText text
  Text.squeeze (Block.textOf { text } outline.labels [] false outline.blocks.reverse)

end ApiBlueprint.CommonMark
