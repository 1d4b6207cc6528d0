import SpendScript.Credential
import SpendScript.Hex
import SpendScript.Numeral
/-!
# Faults

Everything that can stop an operation, with what it has to say about it.
-/

namespace SpendScript

/-- Why an operation fails. -/
inductive Fault where
  /-- The stack has fewer elements than are needed. -/
  | stackUnderflow (needed available : Nat)
  /-- An element that is used as a number is none. -/
  | notANumber (cause : NumeralError)
  /-- An element that is used as bytes is no hexadecimal. -/
  | invalidEncoding (cause : HexError)
  /-- The bytes of a key or a signature are not one. -/
  | malformedCredential (cause : CredentialError)
  /-- No operation has this name. -/
  | unsupportedOpcode (name : String)
  /-- What was to be verified is not so. -/
  | verificationFailed
  /-- The script said to stop. -/
  | intentionalHalt
  /-- A negative number of public keys is asked for. -/
  | negativeKeyCount (count : Int64)
  /-- A negative number of signatures is asked for. -/
  | negativeSignatureCount (count : Int64)
  /-- A sum or difference is outside the 64-bit signed range. -/
  | overflow
  deriving DecidableEq, Repr

namespace Fault

/-- The text of the fault. -/
def message : Fault → String
  | stackUnderflow needed available =>
    "expected " ++ needed.repr ++ " stack elements, but only " ++ available.repr ++ " available"
  | notANumber cause => "stack element isn’t a number: " ++ cause.message
  | invalidEncoding cause => "stack element isn’t valid hex: " ++ cause.message
  | malformedCredential cause => "malformed key or signature: " ++ cause.message
  | unsupportedOpcode name => "unsupported opcode: " ++ name
  | verificationFailed => "verify operation failed"
  | intentionalHalt => "OP_RETURN encountered"
  | negativeKeyCount count => "public key count is negative: " ++ Numeral.render count
  | negativeSignatureCount count => "signature count is negative: " ++ Numeral.render count
  | overflow => "arithmetic result doesn’t fit in a 64-bit signed integer"

end Fault

end SpendScript
