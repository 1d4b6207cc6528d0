import SpendScript.Code
/-!
# The machine on texts

A second machine, whose stack holds texts and nothing else. It has the
same operations, and each says for itself what it makes of the texts it
takes off: numbers are computed as integers and written in decimal, bytes
are read and written in hexadecimal, truth is the text `1`.

It is what a script means to whoever only sees texts. That the machine on
elements does the same is `SpendScript.Proofs.Parity`.
-/

namespace SpendScript

/-- How a run on texts ended, and the texts it left, the top first. -/
structure TextOutcome (ε α : Type) where
  result : Except ε α
  texts : List String

namespace TextOutcome

variable {ε α β : Type}

/-- Goes on from a success. A failure stays as it is. -/
def andThen (o : TextOutcome ε α) (next : α → List String → TextOutcome ε β) : TextOutcome ε β :=
  match o.result with
  | .ok a => next a o.texts
  | .error e => ⟨.error e, o.texts⟩

end TextOutcome

namespace TextMachine

/-! ## What texts are read as, and what is written -/

/-- The text of a truth value. -/
def truth (b : Bool) : String :=
  if b then "1" else "0"

/-- Nothing to push where the answer is yes, and a fault where it is no. -/
def verified (b : Bool) : Except Fault (List String) :=
  if b then .ok [] else .error .verificationFailed

/-- The number a text denotes. -/
def readNumber (t : String) : Except Fault Int :=
  match Numeral.parse t with
  | .ok n => .ok n.toInt
  | .error e => .error (.notANumber e)

/-- The bytes a text writes. -/
def readBytes (t : String) : Except Fault Bytes :=
  (Hex.decode t).mapError .invalidEncoding

/-- The credential a text writes. -/
def readCredential {α : Type} (decode : Bytes → Except CredentialError α) (t : String) :
    Except Fault α := do
  let b ← readBytes t
  (decode b).mapError .malformedCredential

/-- The public key a text writes. -/
def readKey (flags : Flags) : String → Except Fault PublicKey :=
  readCredential (PublicKey.decode flags.strictEnc)

/-- The signature a text writes. -/
def readSignature (flags : Flags) : String → Except Fault Signature :=
  readCredential (Signature.decode flags.lowS)

/-- The decimal text of what `f` makes of two numbers, if it fits. -/
def compute (f : Int → Int → Int) (t u : String) : Except Fault (List String) := do
  let n ← readNumber u
  let m ← readNumber t
  if Numeral.InRange (f m n) then .ok [String.ofList (Numeral.decimal (f m n))]
  else .error .overflow

/-- The hexadecimal text of a digest. -/
def hashed (hash : Bytes → Bytes) (t : String) : Except Fault (List String) := do
  let b ← readBytes t
  .ok [Hex.encode (hash b)]

/-- Whether the signature in one text is right under the key in another. -/
def checked (flags : Flags) (checker : SignatureChecker) (sig key : String) :
    Except Fault Bool := do
  let k ← readKey flags key
  let d ← readSignature flags sig
  .ok (checker d k)

/-! ## The steps -/

/-- Pushes the texts that were made, or stops with the fault. -/
def leave (made : Except Fault (List String)) (s : List String) : TextOutcome Fault Unit :=
  match made with
  | .ok ts => ⟨.ok (), ts ++ s⟩
  | .error e => ⟨.error e, s⟩

/-- Replaces the top text by those that `f` makes of it. -/
def onOne (f : String → Except Fault (List String)) : List String → TextOutcome Fault Unit
  | [] => ⟨.error (.stackUnderflow 1 0), []⟩
  | t :: s => leave (f t) s

/-- Replaces two texts by those that `f` makes of them, the top one being
its second argument. -/
def onTwo (f : String → String → Except Fault (List String)) :
    List String → TextOutcome Fault Unit
  | u :: t :: s => leave (f t u) s
  | s => ⟨.error (.stackUnderflow 2 s.length), s⟩

/-- Reads a number of texts from the top down and takes each off. -/
def readEach {α : Type} (read : String → Except Fault α) :
    (count : Nat) → List String → TextOutcome Fault (List α)
  | 0, s => ⟨.ok [], s⟩
  | _ + 1, [] => ⟨.error (.stackUnderflow 1 0), []⟩
  | count + 1, t :: s =>
    match read t with
    | .ok a => (readEach read count s).andThen fun as s => ⟨.ok (a :: as), s⟩
    | .error e => ⟨.error e, s⟩

/-- Reads a count, and then as many texts as it says. -/
def readCounted {α : Type} (negative : Int64 → Fault) (read : String → Except Fault α) :
    List String → TextOutcome Fault (List α)
  | [] => ⟨.error (.stackUnderflow 1 0), []⟩
  | t :: s =>
    match Numeral.parse t with
    | .error e => ⟨.error (.notANumber e), s⟩
    | .ok n =>
      if n.toInt < 0 then ⟨.error (negative n), s⟩
      else if s.length < n.toInt.toNat then
        ⟨.error (.stackUnderflow n.toInt.toNat s.length), s⟩
      else readEach read n.toInt.toNat s

/-- Whether each of the signatures is right under some key. -/
def checkedMany (flags : Flags) (checker : SignatureChecker) (s : List String) :
    TextOutcome Fault Bool :=
  (readCounted .negativeKeyCount (readKey flags) s).andThen fun keys s =>
    (readCounted .negativeSignatureCount (readSignature flags) s).andThen fun sigs s =>
      ⟨.ok (sigs.all fun sig => keys.any fun key => checker sig key), s⟩

/-- One operation on texts. -/
def step (flags : Flags) (checker : SignatureChecker) (op : Operation) (s : List String) :
    TextOutcome Fault Unit :=
  match op with
  | .pushFalse => ⟨.ok (), "0" :: s⟩
  | .pushTrue => ⟨.ok (), "1" :: s⟩
  | .verify => onOne (fun t => verified (t == "1")) s
  | .halt => ⟨.error .intentionalHalt, s⟩
  | .drop => ⟨.ok (), s.drop 1⟩
  | .dup => ⟨.ok (), s.take 1 ++ s⟩
  | .equal => onTwo (fun t u => .ok [truth (t == u)]) s
  | .equalVerify => onTwo (fun t u => verified (t == u)) s
  | .not => onOne (fun t => .ok [truth (t == "0")]) s
  | .add => onTwo (compute (· + ·)) s
  | .sub => onTwo (compute (· - ·)) s
  | .boolAnd => onTwo (fun t u => .ok [truth (t == "1" && u == "1")]) s
  | .boolOr => onTwo (fun t u => .ok [truth (t == "1" || u == "1")]) s
  | .ripemd160 => onOne (hashed Hash.ripemd160) s
  | .sha1 => onOne (hashed Hash.sha1) s
  | .sha256 => onOne (hashed Hash.sha256) s
  | .hash160 => onOne (hashed (Hash.ripemd160 ∘ Hash.sha256)) s
  | .hash256 => onOne (hashed (Hash.sha256 ∘ Hash.sha256)) s
  | .checkSig => onTwo (fun sig key => (checked flags checker sig key).map fun b => [truth b]) s
  | .checkSigVerify => onTwo (fun sig key => checked flags checker sig key >>= verified) s
  | .checkMultisig => (checkedMany flags checker s).andThen fun b s => leave (.ok [truth b]) s
  | .checkMultisigVerify => (checkedMany flags checker s).andThen fun b s => leave (verified b) s

/-- One token on texts. -/
def stepToken (flags : Flags) (checker : SignatureChecker) (t : Token) (s : List String) :
    TextOutcome Fault Unit :=
  match t with
  | .push text => ⟨.ok (), text :: s⟩
  | .operation op => step flags checker op s
  | .unknown name => ⟨.error (.unsupportedOpcode name), s⟩

/-- Tokens in turn, until one fails. -/
def run (flags : Flags) (checker : SignatureChecker) :
    List Token → List String → TextOutcome ScriptError Unit
  | [], s => ⟨.ok (), s⟩
  | t :: ts, s =>
    let o := stepToken flags checker t s
    match o.result with
    | .ok () => run flags checker ts o.texts
    | .error e => ⟨.error (.interpreter (some t) e), o.texts⟩

/-- The verdict on what a lock script left. -/
def verdict (flags : Flags) (o : TextOutcome ScriptError Unit) : Except ScriptError Bool :=
  match o.result, o.texts with
  | .error e, _ => .error e
  | .ok (), [] => .error .emptyStack
  | .ok (), t :: rest =>
    if t = "0" then .ok false
    else if flags.cleanStack && !rest.isEmpty then .error (.cleanStack (rest.length + 1))
    else .ok true

end TextMachine

end SpendScript
