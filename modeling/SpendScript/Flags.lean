/-!
# Evaluation flags

Four rules that an evaluation may be held to on top of the ones that
always hold. A set of flags is written as a number, one bit for each
flag; bits that stand for none are dropped.
-/

namespace SpendScript

/-- Which of the extra rules are in force. -/
structure Flags where
  /-- A public key must be in one of its plain encodings. -/
  strictEnc : Bool
  /-- A signature must be low; otherwise a high one is normalized. -/
  lowS : Bool
  /-- The unlock script must do nothing but push. -/
  sigPushOnly : Bool
  /-- A result other than `0` must be all that is left on the stack. -/
  cleanStack : Bool
  deriving DecidableEq, Repr

namespace Flags

/-- No extra rule. -/
def none : Flags :=
  ⟨false, false, false, false⟩

/-- The rule that a spend is held to by default. -/
def standard : Flags :=
  { none with cleanStack := true }

/-- The flags whose bits are set in a number. -/
def ofBits (bits : Nat) : Flags :=
  ⟨bits.testBit 1, bits.testBit 3, bits.testBit 5, bits.testBit 8⟩

/-- The number of a set of flags. -/
def toBits (flags : Flags) : Nat :=
  (if flags.strictEnc then 2 else 0) + (if flags.lowS then 8 else 0) +
    (if flags.sigPushOnly then 32 else 0) + (if flags.cleanStack then 256 else 0)

/-- The flags of a number that sets no other bits. -/
def ofBits? (bits : Nat) : Option Flags :=
  if (ofBits bits).toBits = bits then some (ofBits bits) else Option.none

/-- The names of the flags in a set, by increasing bit. -/
def names (flags : Flags) : List String :=
  (if flags.strictEnc then ["StrictEnc"] else []) ++ (if flags.lowS then ["LowS"] else []) ++
    (if flags.sigPushOnly then ["SigPushOnly"] else []) ++
    (if flags.cleanStack then ["CleanStack"] else [])

/-- Whether every flag of one set is in another. -/
def isSubset (f g : Flags) : Bool :=
  (!f.strictEnc || g.strictEnc) && (!f.lowS || g.lowS) && (!f.sigPushOnly || g.sigPushOnly) &&
    (!f.cleanStack || g.cleanStack)

/-- **A set of flags is read back from its number.** -/
@[simp] theorem ofBits_toBits (flags : Flags) : ofBits flags.toBits = flags := by
  obtain ⟨strictEnc, lowS, sigPushOnly, cleanStack⟩ := flags
  cases strictEnc <;> cases lowS <;> cases sigPushOnly <;> cases cleanStack <;> rfl

end Flags

end SpendScript
