import SpendScript.Operation.Eval
/-!
# Tokens

A word of a script is a token. A word without the shape of an operation's
name pushes itself; one with that shape is the operation of that name, or
an unknown one, which is harmless until it is reached. Tokens can also be
made by hand, and then a pushed text may be anything.
-/

namespace SpendScript

/-- One step of a script. -/
inductive Token where
  /-- Pushes a text. -/
  | push (text : String)
  /-- Runs an operation. -/
  | operation (op : Operation)
  /-- Names an operation that does not exist. -/
  | unknown (name : String)
  deriving DecidableEq, Repr

namespace Token

/-- The token that a word stands for. -/
def parse (word : String) : Token :=
  if isOpcode word then
    match Operation.ofName? word with
    | some op => operation op
    | none => unknown word
  else push word

/-- The word for a token. -/
def text : Token → String
  | push t => t
  | operation op => op.name
  | unknown t => t

/-- Whether a token pushes a text. -/
def isPush : Token → Bool
  | push _ => true
  | operation _ => false
  | unknown _ => false

/-- Runs a token. -/
def eval (flags : Flags) (checker : SignatureChecker) (t : Token) (s : Stack) :
    Outcome Fault Unit :=
  match t with
  | push v => ⟨.ok (), .literal v :: s⟩
  | operation op => op.eval flags checker s
  | unknown name => ⟨.error (.unsupportedOpcode name), s⟩

/-- The fault that a token raises on every stack, if it does. -/
def analyze : Token → Option Fault
  | push _ => none
  | operation _ => none
  | unknown name => some (.unsupportedOpcode name)

end Token

end SpendScript
