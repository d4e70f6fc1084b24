import ApiBlueprint.Text.Basic

/-! What can be wrong with a blueprint, and on which line. -/

namespace ApiBlueprint

inductive GrammarFault where
  | requestSignature (signature : Text)
  | responseSignature (signature : Text)
  | responseStatus (token : Text)
  | headerLine (text : Text)
  | requestOutsideAction
  | responseOutsideAction
  | actionOutsideResource (heading : Text)
  | unclosedFence
  deriving DecidableEq, Repr

structure GrammarError where
  line : Nat
  fault : GrammarFault
  deriving DecidableEq, Repr

def GrammarFault.message : GrammarFault → Text
  | requestSignature signature => "malformed request signature '".toList ++ signature ++ ['\x27']
  | responseSignature signature => "malformed response signature '".toList ++ signature ++ ['\x27']
  | responseStatus token => "invalid response status '".toList ++ token ++ ['\x27']
  | headerLine text => "malformed header line '".toList ++ text ++ ['\x27']
  | requestOutsideAction => "request declared outside of an action".toList
  | responseOutsideAction => "response declared outside of an action".toList
  | actionOutsideResource heading =>
    "action '".toList ++ heading ++ "' declared outside of a resource".toList
  | unclosedFence => "unclosed code fence".toList

def GrammarError.message (error : GrammarError) : Text :=
  "line ".toList ++ Text.ofNat error.line ++ ": ".toList ++ error.fault.message

end ApiBlueprint
