import ApiBlueprint.Include.Table
import ApiBlueprint.Proofs.Outcome
import ApiBlueprint.Proofs.Path.Normal
import ApiBlueprint.Proofs.Text.Cut
import Mathlib.Data.List.Chain
import Mathlib.Logic.Relation

/-!
The graph of includes of a table. Its nodes are locations; the directives of a document lead to the
locations of their links. A text is transcluded exactly if what it reaches in this graph resolves
without a cycle and within the depth, and the outcome is the text with every directive replaced by
the document it leads to.
-/

namespace ApiBlueprint

/-- A text, and the folder from which its links are seen. -/
structure IncludeSource where
  base : Option Path
  text : Text
  deriving DecidableEq, Repr

namespace IncludeSource

def Mentions (source : IncludeSource) (link indent : Text) : Prop :=
  .directive link indent ∈ Directive.pieces source.text

instance (source : IncludeSource) (link indent : Text) : Decidable (source.Mentions link indent) :=
  inferInstanceAs (Decidable (.directive link indent ∈ Directive.pieces source.text))

def LeadsTo (source : IncludeSource) (location : Path) : Prop :=
  ∃ link indent, source.Mentions link indent ∧ Transclusion.locate link source.base = location

end IncludeSource

namespace IncludeTable

open Relation Transclusion

variable (table : IncludeTable)

def source? (location : Path) : Option IncludeSource :=
  (table.find? location).map fun text => ⟨location.parent?, text⟩

def Includes (parent child : Path) : Prop :=
  ∃ source, table.source? parent = some source ∧ source.LeadsTo child

def Reaches (source : IncludeSource) (location : Path) : Prop :=
  ∃ first, source.LeadsTo first ∧ ReflTransGen table.Includes first location

/-- The source itself and the documents at the locations that it reaches. -/
def Visits (source visited : IncludeSource) : Prop :=
  visited = source ∨ ∃ location, table.Reaches source location ∧ table.source? location = some visited

/-- Locations of which the source includes the first, and each one includes the next. -/
def IsIncludeChain (source : IncludeSource) (chain : List Path) : Prop :=
  (∀ first ∈ chain.head?, source.LeadsTo first) ∧ chain.IsChain table.Includes

/-- Every directive reachable from the source resolves, no cycle is reachable, and no chain of
includes is longer than the limit. -/
structure Includable (limit : Nat) (source : IncludeSource) : Prop where
  resolves : ∀ visited, table.Visits source visited → ∀ link indent, visited.Mentions link indent →
    isRemote link = false ∧ ∃ included, table.source? (locate link visited.base) = some included
  acyclic : ∀ location, table.Reaches source location → ¬ TransGen table.Includes location location
  bounded : ∀ chain, table.IsIncludeChain source chain → chain.length ≤ limit

/-- Every directive among the pieces is replaced by the expansion of the document it leads to: the
inserts of the cut are the replacements, and the literals stand in its gaps. -/
inductive ExpandsTo : Option Path → List DocumentPiece → Cut → Prop where
  | nil {base} : ExpandsTo base [] ⟨[], []⟩
  | literal {base c pieces cut} (rest : ExpandsTo base pieces cut) :
      ExpandsTo base (.literal c :: pieces) (cut.delay c)
  | directive {base link indent pieces cut included inner}
      (found : table.source? (locate link base) = some included)
      (nested : ExpandsTo included.base (Directive.pieces included.text) inner)
      (rest : ExpandsTo base pieces cut) :
      ExpandsTo base (.directive link indent :: pieces) (cut.push (splice indent inner.text))

/-- The text of the source with all directives replaced, recursively; the cut shows where. -/
def Substitutes (source : IncludeSource) (cut : Cut) : Prop :=
  table.ExpandsTo source.base (Directive.pieces source.text) cut

variable {table}

theorem expandsTo_unique {base : Option Path} {pieces : List DocumentPiece} {cut other : Cut}
    (left : table.ExpandsTo base pieces cut) (right : table.ExpandsTo base pieces other) :
    cut = other := by
  induction left generalizing other with
  | nil =>
    cases right
    rfl
  | literal rest ih =>
    cases right with
    | literal rest' => rw [ih rest']
  | directive found nested rest ihNested ihRest =>
    cases right with
    | directive found' nested' rest' =>
      obtain rfl := Option.some.inj (found.symm.trans found')
      rw [ihNested nested', ihRest rest']

theorem reaches_of_included {source included : IncludeSource} {first location : Path}
    (leads : source.LeadsTo first) (found : table.source? first = some included)
    (reaches : table.Reaches included location) : table.Reaches source location := by
  obtain ⟨next, leadsNext, path⟩ := reaches
  exact ⟨first, leads, ReflTransGen.head ⟨included, found, leadsNext⟩ path⟩

theorem visits_of_included {source included visited : IncludeSource} {first : Path}
    (leads : source.LeadsTo first) (found : table.source? first = some included)
    (visits : table.Visits included visited) : table.Visits source visited := by
  rcases visits with rfl | ⟨location, reaches, foundVisited⟩
  · exact Or.inr ⟨first, ⟨first, leads, ReflTransGen.refl⟩, found⟩
  · exact Or.inr ⟨location, reaches_of_included leads found reaches, foundVisited⟩

theorem visits_cases {source visited : IncludeSource} (visits : table.Visits source visited) :
    visited = source ∨ ∃ first included, source.LeadsTo first ∧
      table.source? first = some included ∧ table.Visits included visited := by
  rcases visits with rfl | ⟨location, ⟨first, leads, path⟩, found⟩
  · exact Or.inl rfl
  · right
    rcases ReflTransGen.cases_head path with rfl | ⟨next, ⟨included, foundFirst, leadsNext⟩, more⟩
    · exact ⟨first, visited, leads, found, Or.inl rfl⟩
    · exact ⟨first, included, leads, foundFirst, Or.inr ⟨location, ⟨next, leadsNext, more⟩, found⟩⟩

theorem chain_cons {source included : IncludeSource} {first : Path} {chain : List Path}
    (leads : source.LeadsTo first) (found : table.source? first = some included)
    (isChain : table.IsIncludeChain included chain) :
    table.IsIncludeChain source (first :: chain) := by
  refine ⟨by simpa using leads, ?_⟩
  rw [List.isChain_cons]
  exact ⟨fun next member => ⟨included, found, isChain.1 next member⟩, isChain.2⟩

theorem chain_cases {source : IncludeSource} {first : Path} {rest : List Path}
    (isChain : table.IsIncludeChain source (first :: rest)) :
    source.LeadsTo first ∧ (rest = [] ∨ ∃ included, table.source? first = some included ∧
      table.IsIncludeChain included rest) := by
  obtain ⟨leads, edges⟩ := isChain
  refine ⟨leads first rfl, ?_⟩
  cases rest with
  | nil => exact Or.inl rfl
  | cons next more =>
    rw [List.isChain_cons_cons] at edges
    obtain ⟨⟨included, found, leadsNext⟩, edges⟩ := edges
    exact Or.inr ⟨included, found, by simpa using leadsNext, edges⟩

theorem chain_concat {source : IncludeSource} {chain : List Path} {location : Path}
    (isChain : table.IsIncludeChain source chain)
    (leads : (chain = [] ∧ source.LeadsTo location) ∨
      ∃ last, chain.getLast? = some last ∧ table.Includes last location) :
    table.IsIncludeChain source (chain ++ [location]) := by
  rcases leads with ⟨rfl, leads⟩ | ⟨last, ends, includes⟩
  · exact ⟨by simpa using leads, List.isChain_singleton location⟩
  · have nonempty : chain ≠ [] := by
      rintro rfl
      simp at ends
    refine ⟨?_, List.isChain_append.mpr ⟨isChain.2, List.isChain_singleton location, ?_⟩⟩
    · rw [List.head?_append_of_ne_nil _ nonempty]
      exact isChain.1
    · intro before isLast after isFirst
      obtain rfl := Option.some.inj (ends.symm.trans isLast)
      obtain rfl : location = after := by simpa using isFirst
      exact includes

theorem reaches_of_chain {source : IncludeSource} {chain : List Path}
    (isChain : table.IsIncludeChain source chain) : ∀ location ∈ chain, table.Reaches source location := by
  induction chain generalizing source with
  | nil => simp
  | cons first rest ih =>
    obtain ⟨leads, more⟩ := chain_cases isChain
    refine List.forall_mem_cons.mpr ⟨⟨first, leads, ReflTransGen.refl⟩, ?_⟩
    rcases more with rfl | ⟨included, found, isChain⟩
    · simp
    · exact fun location member => reaches_of_included leads found (ih isChain location member)

theorem Includable.of_leadsTo {limit : Nat} {source included : IncludeSource} {first : Path}
    (includable : table.Includable (limit + 1) source) (leads : source.LeadsTo first)
    (found : table.source? first = some included) : table.Includable limit included where
  resolves visited visits := includable.resolves visited (visits_of_included leads found visits)
  acyclic location reaches := includable.acyclic location (reaches_of_included leads found reaches)
  bounded chain isChain := by
    have longer := includable.bounded _ (chain_cons leads found isChain)
    simpa using longer

theorem Includable.below {limit : Nat} {source included : IncludeSource} {first : Path}
    (includable : table.Includable limit source) (leads : source.LeadsTo first)
    (found : table.source? first = some included) :
    ∃ less, less < limit ∧ table.Includable less included := by
  have long := includable.bounded [first] ⟨by simpa using leads, List.isChain_singleton first⟩
  obtain ⟨less, rfl⟩ := Nat.exists_eq_succ_of_ne_zero (Nat.ne_of_gt long)
  exact ⟨less, Nat.lt_succ_self less, includable.of_leadsTo leads found⟩

def HasChainTo (table : IncludeTable) (source : IncludeSource) (location : Path) (length : Nat) : Prop :=
  ∃ chain, table.IsIncludeChain source chain ∧ chain.getLast? = some location ∧ length ≤ chain.length

theorem HasChainTo.step {source : IncludeSource} {parent child : Path} {length : Nat}
    (hasChain : HasChainTo table source parent length) (includes : table.Includes parent child) :
    HasChainTo table source child (length + 1) := by
  obtain ⟨chain, isChain, last, long⟩ := hasChain
  exact ⟨chain ++ [child], chain_concat isChain (Or.inr ⟨parent, last, includes⟩),
    List.getLast?_concat, by simpa using long⟩

theorem HasChainTo.of_reaches {source : IncludeSource} {location : Path}
    (reaches : table.Reaches source location) : HasChainTo table source location 0 := by
  obtain ⟨first, leads, path⟩ := reaches
  induction path with
  | refl => exact ⟨[first], ⟨by simpa using leads, List.isChain_singleton first⟩, rfl, Nat.zero_le _⟩
  | tail path includes ih =>
    obtain ⟨chain, isChain, last, -⟩ := ih.step includes
    exact ⟨chain, isChain, last, Nat.zero_le _⟩

theorem HasChainTo.around {source : IncludeSource} {start stop : Path} {length : Nat}
    (hasChain : HasChainTo table source start length) (path : TransGen table.Includes start stop) :
    HasChainTo table source stop (length + 1) := by
  induction path with
  | single includes => exact hasChain.step includes
  | tail path includes ih =>
    obtain ⟨chain, isChain, last, long⟩ := ih.step includes
    exact ⟨chain, isChain, last, by omega⟩

theorem acyclic_of_bounded {limit : Nat} {source : IncludeSource}
    (bounded : ∀ chain, table.IsIncludeChain source chain → chain.length ≤ limit) (location : Path)
    (reaches : table.Reaches source location) : ¬ TransGen table.Includes location location := by
  intro cycle
  have long (length : Nat) : HasChainTo table source location length := by
    induction length with
    | zero => exact HasChainTo.of_reaches reaches
    | succ length ih => exact ih.around cycle
  obtain ⟨chain, isChain, -, longer⟩ := long (limit + 1)
  have shorter := bounded chain isChain
  omega

end IncludeTable
end ApiBlueprint
