import SpendScript.Text.Blank
import SpendScript.Token
/-!
# Code

A script is a list of tokens, run from the first on until one fails. There
are no jumps, so a run is a fold over the tokens, and the run of two
scripts put together is the run of one after the other.

As text a script is its words with blanks between them. Reading a text
never fails, since an unknown name is a token too.
-/

namespace SpendScript

/-- A script. -/
structure Code where
  tokens : List Token
  deriving DecidableEq, Repr

/-- Why a script, or the two scripts of a spend, give no verdict. -/
inductive ScriptError where
  /-- A token failed; it is given where it is known. -/
  | interpreter (token? : Option Token) (fault : Fault)
  /-- Nothing is left on the stack. -/
  | emptyStack
  /-- A text with the shape of an operation's name is left on the stack. -/
  | unconsumedOpcode (text : String)
  /-- The unlock script does more than push. -/
  | sigPushOnly
  /-- More than the result is left on the stack. -/
  | cleanStack (size : Nat)
  deriving DecidableEq, Repr

namespace ScriptError

/-- The text of the error. -/
def message : ScriptError → String
  | interpreter (some token) fault =>
    "interpreter error at " ++ token.text ++ ": " ++ fault.message
  | interpreter none fault => "interpreter error: " ++ fault.message
  | emptyStack => "stack is empty after evaluation"
  | unconsumedOpcode text => "an opcode was left on the stack: " ++ text
  | sigPushOnly => "unlock script contains an opcode"
  | cleanStack size => "expected exactly one stack element after evaluation, found " ++ size.repr

end ScriptError

namespace Code

/-- The script that a text writes. -/
def parse (text : String) : Code :=
  ⟨(Text.words text.toList).map fun word => Token.parse (String.ofList word)⟩

/-- The text of a script, its words one space apart. -/
def text (c : Code) : String :=
  Text.unwords (c.tokens.map Token.text)

/-- Whether a script does nothing but push. -/
def isPushOnly (c : Code) : Bool :=
  c.tokens.all Token.isPush

/-- The faults that the tokens raise on every stack, in order. -/
def analyze (c : Code) : List Fault :=
  c.tokens.filterMap Token.analyze

/-- Runs tokens until one fails, and names the one that did. -/
def runTokens (flags : Flags) (checker : SignatureChecker) :
    List Token → Stack → Outcome ScriptError Unit
  | [], s => ⟨.ok (), s⟩
  | t :: ts, s =>
    ((t.eval flags checker s).mapError (.interpreter (some t))).andThen fun _ s =>
      runTokens flags checker ts s

/-- **The run of two lists of tokens put together** is the run of the one
and, if that succeeds, of the other on what it left. -/
theorem runTokens_append (flags : Flags) (checker : SignatureChecker) (ts us : List Token)
    (s : Stack) :
    runTokens flags checker (ts ++ us) s =
      (runTokens flags checker ts s).andThen fun _ s => runTokens flags checker us s := by
  induction ts generalizing s with
  | nil => rfl
  | cons t ts ih =>
    simp only [List.cons_append, runTokens, Outcome.andThen_assoc]
    congr 1
    funext _ s
    exact ih s

/-- Runs a script. -/
def run (flags : Flags) (checker : SignatureChecker) (c : Code) (s : Stack) :
    Outcome ScriptError Unit :=
  runTokens flags checker c.tokens s

/-- What each token in turn ended with, up to and with the first that
fails. -/
def traceTokens (flags : Flags) (checker : SignatureChecker) :
    List Token → Stack → List (Outcome Fault Unit)
  | [], _ => []
  | t :: ts, s =>
    let o := t.eval flags checker s
    match o.result with
    | .ok () => o :: traceTokens flags checker ts o.stack
    | .error _ => [o]

/-- What each token of a script in turn ended with. -/
def trace (flags : Flags) (checker : SignatureChecker) (c : Code) (s : Stack) :
    List (Outcome Fault Unit) :=
  traceTokens flags checker c.tokens s

end Code

end SpendScript
