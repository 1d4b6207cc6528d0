import SpendScript.Checker
import SpendScript.Flags
import SpendScript.Hash.Ripemd160
import SpendScript.Hash.Sha1
import SpendScript.Operation
import SpendScript.Stack
/-!
# What operations do

An operation takes elements off the stack, reads them as it needs and
pushes at most one. Too few elements are noticed before any is taken off,
except that the operation on many signatures, which learns from the stack
how many it needs, takes them off as it goes.

Keys and signatures that cannot be decoded are faults. A signature that is
merely wrong is an answer, and only the verifying form of an operation
makes a fault of it.
-/

namespace SpendScript

/-- The credential in an element: what its bytes decode to. -/
def Value.toCredential {α : Type} (decode : Bytes → Except CredentialError α) (v : Value) :
    Except Fault α :=
  match v.toBytes with
  | .error e => .error (.invalidEncoding e)
  | .ok b => (decode b).mapError .malformedCredential

/-- The public key in an element. -/
def Value.toKey (flags : Flags) : Value → Except Fault PublicKey :=
  Value.toCredential (PublicKey.decode flags.strictEnc)

/-- The signature in an element. -/
def Value.toSignature (flags : Flags) : Value → Except Fault Signature :=
  Value.toCredential (Signature.decode flags.lowS)

namespace Operation

/-- Fails unless the answer is yes. -/
def ensure (answer : Bool) : Except Fault Unit :=
  if answer then .ok () else .error .verificationFailed

/-- A number as an element, if it fits. -/
def number (v : Int) : Except Fault Value :=
  match Numeral.fit? v with
  | some n => .ok (.num n)
  | none => .error .overflow

/-- Computes with two elements as numbers. The second is read first. -/
def arithmetic (f : Int → Int → Int) (v w : Value) : Except Fault Value :=
  -- Of two elements that are no numbers, the former top is blamed.
  match w.toNum with
  | .error e => .error (.notANumber e)
  | .ok n =>
    match v.toNum with
    | .error e => .error (.notANumber e)
    | .ok m => number (f m.toInt n.toInt)

/-- The digest of an element's bytes. -/
def digest (hash : Bytes → Bytes) (v : Value) : Except Fault Value :=
  match v.toBytes with
  | .error e => .error (.invalidEncoding e)
  | .ok b => .ok (.bytes (hash b))

/-- Checks one signature against one key. The key is decoded first. -/
def checkOne (flags : Flags) (checker : SignatureChecker) (sig key : Value) :
    Except Fault Bool :=
  match key.toKey flags with
  | .error e => .error e
  | .ok k =>
    match sig.toSignature flags with
    | .error e => .error e
    | .ok d => .ok (checker d k)

/-- Takes a number of elements off, from the top down, and decodes each. -/
def popDecoded {α : Type} (decode : Value → Except Fault α) :
    (count : Nat) → Stack → Outcome Fault (List α)
  | 0, s => ⟨.ok [], s⟩
  | count + 1, s =>
    s.pop.andThen fun v s =>
      match decode v with
      | .error e => ⟨.error e, s⟩
      | .ok a => (popDecoded decode count s).andThen fun as s => ⟨.ok (a :: as), s⟩

/-- Takes a count off, then as many elements as it says, and decodes each.
A count below zero is a fault of its own. -/
def popCounted {α : Type} (negative : Int64 → Fault) (decode : Value → Except Fault α)
    (s : Stack) : Outcome Fault (List α) :=
  s.popNum.andThen fun n s =>
    if n < 0 then ⟨.error (negative n), s⟩
    else
      let count := n.toInt.toNat
      match s.require count with
      | .error e => ⟨.error e, s⟩
      | .ok () => popDecoded decode count s

/-- Checks many signatures against many keys: each signature has to be
right under some key, and a key may serve more than one. -/
def checkMany (flags : Flags) (checker : SignatureChecker) (s : Stack) : Outcome Fault Bool :=
  (popCounted .negativeKeyCount (Value.toKey flags) s).andThen fun keys s =>
    (popCounted .negativeSignatureCount (Value.toSignature flags) s).andThen fun sigs s =>
      ⟨.ok (sigs.all fun sig => keys.any fun key => checker sig key), s⟩

/-- Runs an operation. Dropping from and doubling on an empty stack do
nothing. -/
def eval (flags : Flags) (checker : SignatureChecker) (op : Operation) (s : Stack) :
    Outcome Fault Unit :=
  match op with
  | pushFalse => ⟨.ok (), Value.ofBool false :: s⟩
  | pushTrue => ⟨.ok (), Value.ofBool true :: s⟩
  | verify => s.consumeOne fun v => ensure v.isTrue
  | halt => ⟨.error .intentionalHalt, s⟩
  | drop => ⟨.ok (), s.tail⟩
  | dup => ⟨.ok (), s.head?.toList ++ s⟩
  | equal => (s.consumeTwo fun v w => .ok (v.equal w)).pushBool
  | equalVerify => s.consumeTwo fun v w => ensure (v.equal w)
  | not => (s.consumeOne fun v => .ok v.isFalse).pushBool
  | add => (s.consumeTwo (arithmetic (· + ·))).push
  | sub => (s.consumeTwo (arithmetic (· - ·))).push
  | boolAnd => (s.consumeTwo fun v w => .ok (v.isTrue && w.isTrue)).pushBool
  | boolOr => (s.consumeTwo fun v w => .ok (v.isTrue || w.isTrue)).pushBool
  | ripemd160 => (s.consumeOne (digest Hash.ripemd160)).push
  | sha1 => (s.consumeOne (digest Hash.sha1)).push
  | sha256 => (s.consumeOne (digest Hash.sha256)).push
  | hash160 => (s.consumeOne (digest fun b => Hash.ripemd160 (Hash.sha256 b))).push
  | hash256 => (s.consumeOne (digest fun b => Hash.sha256 (Hash.sha256 b))).push
  | checkSig => (s.consumeTwo (checkOne flags checker)).pushBool
  | checkSigVerify =>
    (s.consumeTwo (checkOne flags checker)).andThen fun answer s => ⟨ensure answer, s⟩
  | checkMultisig => (checkMany flags checker s).pushBool
  | checkMultisigVerify =>
    (checkMany flags checker s).andThen fun answer s => ⟨ensure answer, s⟩

end Operation

end SpendScript
