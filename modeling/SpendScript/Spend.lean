import SpendScript.Code
/-!
# Spends

What can be spent is guarded by a lock script, and whoever spends it
brings an unlock script. The unlock script runs first, on an empty stack;
the lock script runs on what it left, and the top element then gives the
verdict. A spend fails where a script does, and then it is known in which
of the two.
-/

namespace SpendScript

/-- One of the two scripts of a spend. -/
inductive Component where
  | unlock
  | lock
  deriving DecidableEq, Repr

namespace Code

/-- Runs an unlock script. It has to leave something, and nothing with the
shape of an operation's name; the lowest such element is blamed. -/
def evalUnlock (flags : Flags) (checker : SignatureChecker) (c : Code) :
    Except ScriptError Stack :=
  let o := c.run flags checker []
  match o.result with
  | .error e => .error e
  | .ok () =>
    if o.stack.isEmpty then .error .emptyStack
    else
      match o.stack.bottomFirst.find? Value.isOpcode with
      | some v => .error (.unconsumedOpcode v.text)
      | none => .ok o.stack

/-- Runs a lock script on what an unlock script left. The verdict is no
where the top element is `0`, whatever lies below, and else yes. -/
def evalLock (flags : Flags) (checker : SignatureChecker) (c : Code) (s : Stack) :
    Except ScriptError Bool :=
  let o := c.run flags checker s
  match o.result with
  | .error e => .error e
  | .ok () =>
    match o.stack with
    | [] => .error .emptyStack
    | v :: rest =>
      -- A zero is an answer before anything below it is looked at.
      if v.isFalse then .ok false
      else if flags.cleanStack && !rest.isEmpty then .error (.cleanStack (rest.length + 1))
      else .ok true

end Code

/-- An unlock script and the lock script it is to satisfy. -/
structure Spend where
  unlock : Code
  lock : Code
  deriving DecidableEq, Repr

namespace Spend

/-- The spend that two texts write. -/
def parse (unlock lock : String) : Spend :=
  ⟨Code.parse unlock, Code.parse lock⟩

/-- Evaluates a spend: the verdict, or the error and the script it arose
in. -/
def eval (flags : Flags) (checker : SignatureChecker) (spend : Spend) :
    Except (Component × ScriptError) Bool :=
  if flags.sigPushOnly && !spend.unlock.isPushOnly then .error (.unlock, .sigPushOnly)
  else
    match spend.unlock.evalUnlock flags checker with
    | .error e => .error (.unlock, e)
    | .ok s => (spend.lock.evalLock flags checker s).mapError fun e => (.lock, e)

/-- Whether a spend with signatures over a message goes through, under the
standard flags. An error counts as no. -/
def verify (spend : Spend) (message : Bytes) : Bool :=
  match spend.eval .standard (.ofMessage message) with
  | .ok verdict => verdict
  | .error _ => false

/-- Looks for faults that need no run: those of the unlock script or, if it
has none, those of the lock script. -/
def analyze (spend : Spend) : Except (Component × List Fault) Unit :=
  if spend.unlock.analyze ≠ [] then .error (.unlock, spend.unlock.analyze)
  else if spend.lock.analyze ≠ [] then .error (.lock, spend.lock.analyze)
  else .ok ()

end Spend

end SpendScript
