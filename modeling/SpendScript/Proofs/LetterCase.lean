import SpendScript.Fault
import SpendScript.Proofs.Grammar
import SpendScript.Proofs.Hex
/-!
# Letter case

Whoever reads a text as a number or as bytes takes letters in either case.
So the lower case of a text reads as the text does: the same number
(`Numeral.parse_toLower`), the same bytes (`Hex.decode_toLower`), or the
same complaint about the text in lower case. What is written has no
capitals, and a text without letters is the lower case of no other.

Only the letters of ASCII have a case here. Bytes of other characters in
UTF-8 are all beyond ASCII, so the byte that is blamed has a case when it
is a letter of its own.
-/

namespace SpendScript

/-! ## Characters and texts -/

namespace Text

/-- To show something of characters and their lower case, try ASCII and
take it that other characters are their own. -/
theorem toLower_cases {P : Char → Char → Prop}
    (hascii : ∀ n < 128, P (Char.ofNat n) (Char.ofNat n).toLower)
    (hrest : ∀ c : Char, 128 ≤ c.toNat → P c c) (c : Char) : P c c.toLower := by
  by_cases h : c.toNat < 128
  · obtain ⟨n, hn, rfl⟩ := exists_eq_ofNat h
    exact hascii n hn
  · rw [toLower_eq_self_of_le (by omega)]
    exact hrest c (by omega)

theorem toLower_toLower (c : Char) : c.toLower.toLower = c.toLower :=
  toLower_cases (P := fun _ d => d.toLower = d) (by decide +kernel)
    (fun _ h => toLower_eq_self_of_le h) c

/-- Lower case makes letters of letters, and changes nothing else. -/
theorem toLower_eq_self_or_isAlpha (c : Char) :
    c.toLower = c ∨ c.isAlpha = true ∧ c.toLower.isAlpha = true :=
  toLower_cases (P := fun c d => d = c ∨ c.isAlpha = true ∧ d.isAlpha = true) (by decide +kernel)
    (fun _ _ => .inl rfl) c

/-- What is no letter is the lower case of itself alone. -/
theorem toLower_eq_iff_of_not_isAlpha {c d : Char} (hd : d.isAlpha = false) :
    c.toLower = d ↔ c = d := by
  constructor
  · rintro rfl
    rcases toLower_eq_self_or_isAlpha c with h | ⟨-, h⟩
    · exact h.symm
    · rw [hd] at h
      cases h
  · rintro rfl
    rcases toLower_eq_self_or_isAlpha c with h | ⟨h, -⟩
    · exact h
    · rw [hd] at h
      cases h

@[simp] theorem toList_toLower (t : String) : t.toLower.toList = t.toList.map Char.toLower :=
  String.toList_map

/-- Texts are the same in lower case when their characters are. -/
theorem toLower_eq_toLower_iff {t u : String} :
    t.toLower = u.toLower ↔ t.toList.map Char.toLower = u.toList.map Char.toLower := by
  rw [← String.toList_inj, toList_toLower, toList_toLower]

/-- A text without capitals is its own lower case. -/
theorem toLower_eq_self {t : String} (h : ∀ c ∈ t.toList, c.toLower = c) : t.toLower = t := by
  rw [← String.toList_inj, toList_toLower]
  exact (List.map_congr_left h).trans (List.map_id _)

/-- And a text without letters is the lower case of no other. -/
theorem toLower_eq_iff {t u : String} (h : ∀ c ∈ u.toList, c.isAlpha = false) :
    t.toLower = u ↔ t = u := by
  constructor
  · rintro rfl
    refine (toLower_eq_self fun c hc => ?_).symm
    have hlower : c.toLower ∈ t.toLower.toList := by
      rw [toList_toLower]
      exact List.mem_map_of_mem hc
    exact ((toLower_eq_iff_of_not_isAlpha (h _ hlower)).mp rfl).symm
  · rintro rfl
    exact toLower_eq_self fun c hc => (toLower_eq_iff_of_not_isAlpha (h c hc)).mpr rfl

end Text

/-! ## Numerals -/

/-- The error about a text in lower case. -/
def NumeralError.toLower : NumeralError → NumeralError
  | empty => empty
  | invalidDigit text radix => invalidDigit text.toLower radix
  | overflow text => overflow text.toLower

namespace Numeral

/-- A digit is read as its lower case is. -/
theorem digit?_toLower (radix : Radix) (c : Char) : digit? radix c.toLower = digit? radix c := by
  have hdigit : radix.IsDigit c.toLower ↔ radix.IsDigit c := by
    rw [Radix.IsDigit, Text.toLower_toLower, Radix.IsDigit]
  have hvalue : Radix.digitValue c.toLower = Radix.digitValue c := by
    rw [Radix.digitValue, Text.toLower_toLower, Radix.digitValue]
  simp only [digit?_eq, hdigit, hvalue]

theorem digitValues?_map_toLower (radix : Radix) (cs : List Char) :
    digitValues? radix (cs.map Char.toLower) = digitValues? radix cs := by
  rw [digitValues?, List.mapM_map, digitValues?]
  congr 1
  funext c
  exact digit?_toLower radix c

/-- The sign stays where it is. -/
theorem Signed.map_toLower {cs rest : List Char} {negative : Bool} (h : Signed cs negative rest) :
    Signed (cs.map Char.toLower) negative (rest.map Char.toLower) := by
  cases h with
  | minus => exact .minus _
  | plus => exact .plus _
  | bare hminus hplus =>
    -- A sign is no letter, so what is a sign in lower case was one before.
    have hhead : ∀ {d : Char}, d.isAlpha = false → cs.head? ≠ some d →
        (cs.map Char.toLower).head? ≠ some d := by
      intro d hd hne heq
      rw [List.head?_map, Option.map_eq_some_iff] at heq
      obtain ⟨c, hc, hcd⟩ := heq
      rw [Text.toLower_eq_iff_of_not_isAlpha hd] at hcd
      exact hne (hcd ▸ hc)
    exact .bare (hhead rfl hminus) (hhead rfl hplus)

/-- And so does the marker, whose letter is taken in either case. -/
theorem Marked.map_toLower {cs rest : List Char} {radix : Radix} (h : Marked cs radix rest) :
    Marked (cs.map Char.toLower) radix (rest.map Char.toLower) := by
  cases h with
  | hexadecimal _ hx => rcases hx with rfl | rfl <;> exact .hexadecimal _ (.inl rfl)
  | octal _ hx => rcases hx with rfl | rfl <;> exact .octal _ (.inl rfl)
  | binary _ hx => rcases hx with rfl | rfl <;> exact .binary _ (.inl rfl)
  | decimal hnone =>
    have hletter : ∀ c : Char, c.toLower ∈ ['x', 'X', 'o', 'O', 'b', 'B'] →
        c ∈ ['x', 'X', 'o', 'O', 'b', 'B'] :=
      Text.toLower_cases (P := fun c d => d ∈ ['x', 'X', 'o', 'O', 'b', 'B'] →
        c ∈ ['x', 'X', 'o', 'O', 'b', 'B']) (by decide +kernel) fun _ _ => id
    refine .decimal fun x hx hpre => ?_
    obtain ⟨tail, htail⟩ := hpre
    obtain ⟨zero, more, rfl, hzero, hmore⟩ := List.map_eq_cons_iff.mp htail.symm
    obtain ⟨mark, after, rfl, rfl, -⟩ := List.map_eq_cons_iff.mp hmore
    rw [Text.toLower_eq_iff_of_not_isAlpha rfl] at hzero
    exact hnone mark (hletter mark hx) ⟨after, by rw [hzero]; rfl⟩

theorem splitSign_map_toLower (cs : List Char) :
    splitSign (cs.map Char.toLower) = ((splitSign cs).1, (splitSign cs).2.map Char.toLower) :=
  signed_iff.mp (signed_iff.mpr rfl).map_toLower

theorem splitRadix_map_toLower (cs : List Char) :
    splitRadix (cs.map Char.toLower) = ((splitRadix cs).1, (splitRadix cs).2.map Char.toLower) :=
  marked_iff.mp (marked_iff.mpr rfl).map_toLower

/-- **The lower case of a numeral is read as the numeral is.** -/
theorem parse_toLower (t : String) :
    parse t.toLower = (parse t).mapError NumeralError.toLower := by
  simp only [parse, Text.toList_toLower, List.map_eq_nil_iff, splitSign_map_toLower,
    splitRadix_map_toLower, digitValues?_map_toLower]
  generalize (splitSign t.toList).1 = negative
  generalize splitRadix (splitSign t.toList).2 = marked
  obtain ⟨radix, digits⟩ := marked
  by_cases hnil : t.toList = []
  · simp only [if_pos hnil]
    rfl
  · simp only [if_neg hnil]
    -- What is looked at is the same from here on, and only the errors show the text.
    cases digitValues? radix digits with
    | none => rfl
    | some ds =>
      cases ds with
      | nil => rfl
      | cons d ds =>
        dsimp only
        cases accumulate? radix (d :: ds) with
        | none => rfl
        | some m =>
          dsimp only
          cases fit? (if negative then -(m.toNat : Int) else m.toNat) with
          | none => rfl
          | some n => rfl

/-- What is written for a number has no capitals. -/
theorem toLower_decimal (v : Int) :
    (String.ofList (decimal v)).toLower = String.ofList (decimal v) := by
  refine Text.toLower_eq_self fun c hc => ?_
  rw [String.toList_ofList] at hc
  rcases eq_minus_or_isDigit_of_mem_decimal hc with rfl | hdigit
  · rfl
  · exact Text.toLower_cases (P := fun c d => c.isDigit = true → d = c) (by decide +kernel)
      (fun _ _ _ => rfl) c hdigit

end Numeral

/-! ## Hexadecimal text -/

/-- A byte of UTF-8, in lower case if it is a letter. -/
def Hex.lowerByte (b : UInt8) : UInt8 :=
  if 65 ≤ b.toNat ∧ b.toNat ≤ 90 then b + 32 else b

/-- The error about a text in lower case. -/
def HexError.toLower : HexError → HexError
  | oddLength => oddLength
  | invalidCharacter byte position => invalidCharacter (Hex.lowerByte byte) position

namespace Hex

/-- A byte is read as its lower case is. -/
theorem digitValue?_lowerByte (b : UInt8) : digitValue? (lowerByte b) = digitValue? b := by
  have hall : ∀ n < 256, digitValue? (lowerByte (UInt8.ofNat n)) = digitValue? (UInt8.ofNat n) := by
    decide +kernel
  have hb := hall b.toNat b.toNat_lt
  rwa [UInt8.ofNat_toNat] at hb

/-- The bytes of a character beyond ASCII are all beyond it. -/
theorem le_of_mem_utf8EncodeChar {c : Char} (h : 128 ≤ c.toNat) {b : UInt8}
    (hb : b ∈ String.utf8EncodeChar c) : 128 ≤ b.toNat := by
  have hval : ¬ c.val.toNat ≤ 127 := Nat.not_le.mpr h
  have hmark : ∀ {n : Nat}, 128 ≤ n → n < 256 → 128 ≤ (UInt8.ofNat n).toNat := by
    intro n hlow hhigh
    rwa [UInt8.toNat_ofNat', Nat.mod_eq_of_lt hhigh]
  simp only [String.utf8EncodeChar, if_neg hval] at hb
  split at hb
  · simp only [List.mem_cons, List.not_mem_nil, or_false] at hb
    rcases hb with rfl | rfl <;> exact hmark (by omega) (by omega)
  · split at hb
    · simp only [List.mem_cons, List.not_mem_nil, or_false] at hb
      rcases hb with rfl | rfl | rfl <;> exact hmark (by omega) (by omega)
    · simp only [List.mem_cons, List.not_mem_nil, or_false] at hb
      rcases hb with rfl | rfl | rfl | rfl <;> exact hmark (by omega) (by omega)

/-- **Lower case does not move a byte.** -/
theorem utf8EncodeChar_toLower (c : Char) :
    String.utf8EncodeChar c.toLower = (String.utf8EncodeChar c).map lowerByte := by
  refine Text.toLower_cases
    (P := fun c d => String.utf8EncodeChar d = (String.utf8EncodeChar c).map lowerByte)
    (by decide +kernel) (fun c hc => ?_) c
  refine ((List.map_congr_left fun b hb => ?_).trans (List.map_id _)).symm
  have hle := le_of_mem_utf8EncodeChar hc hb
  rw [lowerByte, if_neg (by omega)]
  rfl

theorem utf8_map_toLower (cs : List Char) :
    utf8 (cs.map Char.toLower) = (utf8 cs).map lowerByte := by
  simp only [utf8, List.flatMap_map, List.map_flatMap, utf8EncodeChar_toLower]

theorem decodeFrom_map_lowerByte (position : Nat) (b : Bytes) :
    decodeFrom position (b.map lowerByte) = (decodeFrom position b).mapError HexError.toLower := by
  fun_induction decodeFrom position b with
  | case1 position hi lo rest hhi =>
    simp only [List.map_cons, decodeFrom, digitValue?_lowerByte, hhi]
    rfl
  | case2 position hi lo rest h hhi hlo =>
    simp only [List.map_cons, decodeFrom, digitValue?_lowerByte, hhi, hlo]
    rfl
  | case3 position hi lo rest h hhi l hlo e hrest ih =>
    rw [hrest] at ih
    simp only [List.map_cons, decodeFrom, digitValue?_lowerByte, hhi, hlo, ih]
    rfl
  | case4 position hi lo rest h hhi l hlo bytes hrest ih =>
    rw [hrest] at ih
    simp only [List.map_cons, decodeFrom, digitValue?_lowerByte, hhi, hlo, ih]
    rfl
  | case5 position x => rfl
  | case6 position => rfl

/-- **The lower case of a hexadecimal text is read as the text is.** -/
theorem decode_toLower (t : String) : decode t.toLower = (decode t).mapError HexError.toLower := by
  simp only [decode, Text.toList_toLower, utf8_map_toLower, List.length_map]
  split
  · rfl
  · exact decodeFrom_map_lowerByte 0 _

/-- What is written for bytes has no capitals. -/
theorem toLower_encode (b : Bytes) : (encode b).toLower = encode b := by
  have hall : ∀ n < 16, (digit n).toLower = digit n := by decide
  refine Text.toLower_eq_self fun c hc => ?_
  obtain ⟨n, hn, rfl⟩ := exists_digit_of_mem_encode hc
  exact hall n hn

end Hex

end SpendScript
