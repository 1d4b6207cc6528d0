import SpendScript.Checker
import SpendScript.Curve.KeyPair
import SpendScript.Hex
import SpendScript.Numeral
import SpendScript.Text.Blank
/-!
# Wallets

The other side of a spend: what is signed with a key pair, and the texts
of the scripts that keys and signatures go into.
-/

namespace SpendScript

/-- The compressed encoding of a key as a word of a script. -/
def PublicKey.word (key : PublicKey) : String :=
  Hex.encode key.compressed

namespace KeyPair

/-- The secret as thirty-two bytes. -/
def secretBytes (pair : KeyPair) : Bytes :=
  Bytes.ofNat 32 pair.secret

/-- The DER encoding of the signature over a message. -/
def sign (pair : KeyPair) (message : Bytes) : Bytes :=
  (Signature.sign pair.secret (messageDigest message)).toDer

/-- The signature over a message as a word of a script. -/
def signatureWord (pair : KeyPair) (message : Bytes) : String :=
  Hex.encode (pair.sign message)

/-- The word of the public key. -/
def keyWord (pair : KeyPair) : String :=
  pair.publicKey.word

end KeyPair

namespace Multisig

/-- The lock that asks for a number of signatures by the given keys. -/
def lockOf (required : Nat) (keys : List PublicKey) : String :=
  required.repr ++ " " ++ Text.unwords (keys.map PublicKey.word) ++ " " ++ keys.length.repr ++
    " OP_CHECKMULTISIG"

/-- The lock on the public keys of the given pairs. -/
def lockText (required : Nat) (keys : List KeyPair) : String :=
  lockOf required (keys.map KeyPair.publicKey)

/-- The unlock with the signatures over a message, in the order of the
signers. -/
def unlockText (signers : List KeyPair) (message : Bytes) : String :=
  Text.unwords (signers.map fun pair => pair.signatureWord message)

end Multisig

end SpendScript
