import SpendScript.Fault
import SpendScript.Value
/-!
# The stack

A stack is the list of its elements with the top at the head, so that what
lies below the elements an operation touches is the tail. Outside it is
shown the other way round, bottom first.

Whatever runs on a stack leaves one, also when it fails: an element that
was taken off before the failure stays off. An `Outcome` is the two
together.
-/

namespace SpendScript

/-- The elements of a stack, the top first. -/
abbrev Stack := List Value

/-- How a run ended and the stack it left, on success and on failure
alike. -/
structure Outcome (ε α : Type) where
  result : Except ε α
  stack : Stack

namespace Outcome

variable {ε α β : Type}

/-- Goes on from a success with its value and its stack. A failure stays
as it is. -/
def andThen (o : Outcome ε α) (next : α → Stack → Outcome ε β) : Outcome ε β :=
  match o.result with
  | .ok a => next a o.stack
  | .error e => ⟨.error e, o.stack⟩

/-- Pushes the value of a success. -/
def push (o : Outcome ε Value) : Outcome ε Unit :=
  o.andThen fun v s => ⟨.ok (), v :: s⟩

/-- Pushes the truth value of a success. -/
def pushBool (o : Outcome ε Bool) : Outcome ε Unit :=
  o.andThen fun b s => ⟨.ok (), Value.ofBool b :: s⟩

/-- Changes what is said of a failure. -/
def mapError {ε' : Type} (f : ε → ε') (o : Outcome ε α) : Outcome ε' α :=
  ⟨o.result.mapError f, o.stack⟩

@[simp] theorem andThen_ok (a : α) (s : Stack) (next : α → Stack → Outcome ε β) :
    (Outcome.mk (.ok a) s).andThen next = next a s :=
  rfl

@[simp] theorem andThen_error (e : ε) (s : Stack) (next : α → Stack → Outcome ε β) :
    (Outcome.mk (.error e) s).andThen next = ⟨.error e, s⟩ :=
  rfl

/-- Going on twice is going on once with both. -/
theorem andThen_assoc {γ : Type} (o : Outcome ε α) (f : α → Stack → Outcome ε β)
    (g : β → Stack → Outcome ε γ) :
    (o.andThen f).andThen g = o.andThen fun a s => (f a s).andThen g := by
  obtain ⟨result, s⟩ := o
  cases result with
  | ok a => rfl
  | error e => rfl

end Outcome

namespace Stack

/-- The elements, bottom first. -/
def bottomFirst (s : Stack) : List Value :=
  s.reverse

/-- The stack with the given elements, bottom first. -/
def ofBottomFirst (vs : List Value) : Stack :=
  vs.reverse

/-- The texts of the elements, bottom first. -/
def snapshot (s : Stack) : List String :=
  s.bottomFirst.map Value.text

/-- Whether two stacks have as many elements, and equal ones at each
place. -/
def equal : Stack → Stack → Bool
  | [], [] => true
  | v :: s, w :: t => v.equal w && equal s t
  | _, _ => false

/-- Fails unless there are as many elements as needed. -/
def require (needed : Nat) (s : Stack) : Except Fault Unit :=
  if needed ≤ s.length then .ok () else .error (.stackUnderflow needed s.length)

/-- The top element. -/
def top : Stack → Except Fault Value
  | [] => .error (.stackUnderflow 1 0)
  | v :: _ => .ok v

/-- Takes the top element off. -/
def pop : Stack → Outcome Fault Value
  | [] => ⟨.error (.stackUnderflow 1 0), []⟩
  | v :: s => ⟨.ok v, s⟩

/-- Takes the top element off and reads it as a number. -/
def popNum (s : Stack) : Outcome Fault Int64 :=
  s.pop.andThen fun v s => ⟨v.toNum.mapError .notANumber, s⟩

/-- Takes the top element off and hands it to `f`. -/
def consumeOne {α : Type} (f : Value → Except Fault α) : Stack → Outcome Fault α
  | [] => ⟨.error (.stackUnderflow 1 0), []⟩
  | v :: s => ⟨f v, s⟩

/-- Takes two elements off and hands them to `f` in the order in which they
were pushed, so that the former top comes second. With fewer than two
nothing is taken off. -/
def consumeTwo {α : Type} (f : Value → Value → Except Fault α) : Stack → Outcome Fault α
  | w :: v :: s => ⟨f v w, s⟩
  | s => ⟨.error (.stackUnderflow 2 s.length), s⟩

end Stack

end SpendScript
