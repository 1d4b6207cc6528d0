import SpendScript.Curve.PublicKey
import SpendScript.Curve.Signature
/-!
# Credentials

A script carries public keys and signatures as bytes. Before an operation
can use them they are decoded, under rules that may be strict: a key may
have to be in a plain encoding, and a signature may have to be low. A
decoded signature is always low, since a high one is either refused or
normalized.
-/

namespace SpendScript

/-- Why bytes are no key or no signature. -/
inductive CredentialError where
  /-- The bytes encode no public key. -/
  | malformedKey
  /-- The encoding is not one that strict decoding allows. -/
  | keyForm
  /-- The bytes are no DER encoding of a signature. -/
  | malformedSignature
  /-- The signature is high where a low one is required. -/
  | highS
  deriving DecidableEq, Repr

namespace CredentialError

/-- The text of the error. -/
def message : CredentialError → String
  | malformedKey => "public key couldn’t be parsed: malformed public key"
  | keyForm => "public key is neither a compressed nor an uncompressed encoding"
  | malformedSignature => "signature isn’t a valid DER encoding: malformed signature"
  | highS => "signature s value is too high"

end CredentialError

/-- The public key that bytes encode. Strict decoding refuses all but the
plain encodings, whatever else may be wrong. -/
def PublicKey.decode (strict : Bool) (b : Bytes) : Except CredentialError PublicKey :=
  if strict && !PublicKey.isPlain b then .error .keyForm
  else
    match PublicKey.parse? b with
    | some key => .ok key
    | none => .error .malformedKey

/-- The low signature that bytes encode. A high one is normalized, unless
a low one is required. -/
def Signature.decode (requireLow : Bool) (b : Bytes) : Except CredentialError Signature :=
  match Signature.ofDer? b with
  | none => .error .malformedSignature
  | some sig =>
    if sig.isLow then .ok sig
    else if requireLow then .error .highS
    else .ok sig.normalize

end SpendScript
