/-!
# Operations

The operations a script can name, in the order in which they are listed
and compared. A name is the mark `OP_` and a word; the two constants also
go by a digit.
-/

namespace SpendScript

/-- An operation. -/
inductive Operation where
  | pushFalse
  | pushTrue
  | verify
  | halt
  | drop
  | dup
  | equal
  | equalVerify
  | not
  | add
  | sub
  | boolAnd
  | boolOr
  | ripemd160
  | sha1
  | sha256
  | hash160
  | hash256
  | checkSig
  | checkSigVerify
  | checkMultisig
  | checkMultisigVerify
  deriving DecidableEq, Repr

namespace Operation

/-- All operations, in order. -/
def all : List Operation :=
  [pushFalse, pushTrue, verify, halt, drop, dup, equal, equalVerify, not, add, sub, boolAnd,
    boolOr, ripemd160, sha1, sha256, hash160, hash256, checkSig, checkSigVerify, checkMultisig,
    checkMultisigVerify]

/-- The place of an operation in the order. -/
def rank (op : Operation) : Nat :=
  all.idxOf op

/-- The name of an operation. -/
def name : Operation → String
  | pushFalse => "OP_FALSE"
  | pushTrue => "OP_TRUE"
  | verify => "OP_VERIFY"
  | halt => "OP_RETURN"
  | drop => "OP_DROP"
  | dup => "OP_DUP"
  | equal => "OP_EQUAL"
  | equalVerify => "OP_EQUALVERIFY"
  | not => "OP_NOT"
  | add => "OP_ADD"
  | sub => "OP_SUB"
  | boolAnd => "OP_BOOLAND"
  | boolOr => "OP_BOOLOR"
  | ripemd160 => "OP_RIPEMD160"
  | sha1 => "OP_SHA1"
  | sha256 => "OP_SHA256"
  | hash160 => "OP_HASH160"
  | hash256 => "OP_HASH256"
  | checkSig => "OP_CHECKSIG"
  | checkSigVerify => "OP_CHECKSIGVERIFY"
  | checkMultisig => "OP_CHECKMULTISIG"
  | checkMultisigVerify => "OP_CHECKMULTISIGVERIFY"

/-- The operation that goes by a name. -/
def ofName? (name : String) : Option Operation :=
  if name = "OP_0" then some pushFalse
  else if name = "OP_1" then some pushTrue
  else all.find? fun op => op.name == name

/-- **An operation goes by its own name.** -/
theorem ofName?_name (op : Operation) : ofName? op.name = some op := by
  cases op <;> rfl

theorem mem_all (op : Operation) : op ∈ all := by
  cases op <;> decide

end Operation

end SpendScript
