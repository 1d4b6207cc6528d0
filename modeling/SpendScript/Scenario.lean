import SpendScript.Spend
import SpendScript.Wallet
/-!
# Scenarios

Spends from end to end, each with what is to come of it. Among them are
verdicts of both kinds, scripts that leave too little or too much, an
unlock script that does more than push, and lock scripts with operations
that fail.
-/

namespace SpendScript

/-- A spend and what is to come of it. -/
structure Scenario where
  name : String
  unlock : String
  lock : String
  flags : Flags
  expected : Except (Component × ScriptError) Bool

namespace Scenario

/-- The message that every signature of the scenarios is over. -/
def message : Bytes :=
  [0x74, 0x78, 0x73, 0x63, 0x72, 0x69, 0x70, 0x74, 0x20, 0x74, 0x65, 0x73, 0x74, 0x20, 0x76, 0x65,
    0x63, 0x74, 0x6f, 0x72, 0x73]

/-- Evaluates the spend of a scenario. -/
def run (scenario : Scenario) : Except (Component × ScriptError) Bool :=
  (Spend.parse scenario.unlock scenario.lock).eval scenario.flags (.ofMessage message)

/-- A scenario under the standard flags. -/
def standard (name unlock lock : String) (expected : Except (Component × ScriptError) Bool) :
    Scenario :=
  ⟨name, unlock, lock, .standard, expected⟩

/-- The lock script fails at an operation. -/
def lockFails (op : Operation) (fault : Fault) : Except (Component × ScriptError) Bool :=
  .error (.lock, .interpreter (some (.operation op)) fault)

/-- The word of the signature with a fixed key. -/
def signatureWord (seed : UInt8) : String :=
  (KeyPair.ofSeed seed).signatureWord message

/-- The word of a fixed key. -/
def keyWord (seed : UInt8) : String :=
  (KeyPair.ofSeed seed).keyWord

/-- The lock that asks for two signatures by three keys. -/
def twoOfThree : String :=
  Multisig.lockText 2 [.ofSeed 1, .ofSeed 2, .ofSeed 3]

/-- The scenarios about numbers, results and the ways to stop. -/
def plain : List Scenario :=
  [standard "add and compare" "2 3" "OP_ADD 5 OP_EQUAL" (.ok true),
    standard "failed equal verify" "2 1" "OP_ADD 5 OP_EQUALVERIFY OP_TRUE"
      (lockFails .equalVerify .verificationFailed),
    standard "radix literals" "0x10 0b1" "OP_ADD 17 OP_EQUAL" (.ok true),
    standard "subtraction order" "10 3" "OP_SUB 7 OP_EQUAL" (.ok true),
    standard "overflow" "9223372036854775807 1" "OP_ADD" (lockFails .add .overflow),
    standard "not a number" "abc 1" "OP_ADD"
      (lockFails .add (.notANumber (.invalidDigit "abc" .decimal))),
    standard "zero result" "1" "OP_NOT" (.ok false),
    standard "too many results" "1 2" "OP_DUP" (.error (.lock, .cleanStack 3)),
    ⟨"too many results without a clean stack", "1 2", "OP_DUP", .none, .ok true⟩,
    standard "empty unlock" "" "OP_TRUE" (.error (.unlock, .emptyStack)),
    standard "empty result" "1" "OP_DROP" (.error (.lock, .emptyStack)),
    standard "return" "1" "OP_RETURN" (lockFails .halt .intentionalHalt),
    standard "unsupported opcode" "1" "OP_MUL"
      (.error (.lock, .interpreter (some (.unknown "OP_MUL")) (.unsupportedOpcode "OP_MUL"))),
    ⟨"unlock with an opcode", "1 OP_DUP", "OP_EQUAL", { Flags.standard with sigPushOnly := true },
      .error (.unlock, .sigPushOnly)⟩,
    standard "hash preimage" "616263"
      "OP_SHA256 ba7816bf8f01cfea414140de5dae2223b00361a396177a9cb410ff61f20015ad OP_EQUAL"
      (.ok true),
    standard "odd-length hex" "abc" "OP_SHA256" (lockFails .sha256 (.invalidEncoding .oddLength))]

/-- The scenarios about signatures. -/
def signed : List Scenario :=
  [standard "checksig" (signatureWord 1 ++ " " ++ keyWord 1) "OP_CHECKSIG" (.ok true),
    standard "checksig with the wrong key" (signatureWord 1 ++ " " ++ keyWord 2) "OP_CHECKSIG"
      (.ok false),
    standard "checksigverify with the wrong key" (signatureWord 1 ++ " " ++ keyWord 2)
      "OP_CHECKSIGVERIFY OP_TRUE" (lockFails .checkSigVerify .verificationFailed),
    standard "checksig with a truncated key" (signatureWord 1) "02 OP_CHECKSIG"
      (lockFails .checkSig (.malformedCredential .malformedKey)),
    standard "two of three" (signatureWord 1 ++ " " ++ signatureWord 2) twoOfThree (.ok true),
    standard "two of three with a repeated signer" (signatureWord 3 ++ " " ++ signatureWord 3)
      twoOfThree (.ok true),
    standard "two of three with one signature" (signatureWord 1) twoOfThree
      (lockFails .checkMultisig (.stackUnderflow 2 1)),
    standard "zero of zero" "1" "OP_DROP 0 0 OP_CHECKMULTISIG" (.ok true)]

/-- All scenarios, in order. -/
def all : List Scenario :=
  plain ++ signed

end Scenario

end SpendScript
