import SpendScript.Value
import SpendScript.Text.Blank
/-!
# Numerals, read back

Digits are taken together in a word without a sign, one at a time. A step
that does not fit loses nothing: what comes after it only makes the number
larger, so the word is too small exactly when it is too small for the
number that the digits denote (`accumulate?_eq`), and a number too large
for it is out of range with either sign.

The decimal text of a number that fits in 64 bits reads as that number:
its digits are decimal, so no sign and no marker of another base is found
where none was written. The same holds of the counts that scripts carry.
A decimal text has no blank in it, and is never the name of an operation.
-/

namespace SpendScript

namespace Numeral

/-! ## Digits in a word -/

/-- The number that digits denote, the first weighing most. -/
def magnitude (radix : Radix) (ds : List Nat) : Nat :=
  ds.foldl (fun acc d => acc * radix.base + d) 0

theorem base_pos (radix : Radix) : 0 < radix.base := by
  cases radix <;> decide

/-- One more digit is put behind the others whenever the number that this
makes fits in the word: where the product does not, neither does the sum. -/
theorem appendDigit?_eq (radix : Radix) (acc : UInt64) (d : Nat) :
    appendDigit? radix acc d =
      if acc.toNat * radix.base + d < UInt64.size then
        some (UInt64.ofNat (acc.toNat * radix.base + d))
      else none := by
  unfold appendDigit?
  by_cases hmul : acc.toNat * radix.base < UInt64.size
  · have hshift : acc * UInt64.ofNat radix.base = UInt64.ofNat (acc.toNat * radix.base) := by
      rw [UInt64.ofNat_mul, UInt64.ofNat_toNat]
    simp only [if_pos hmul, hshift, UInt64.toNat_ofNat_of_lt' hmul, UInt64.ofNat_add]
  · rw [if_neg hmul, if_neg (by omega)]

/-- More digits do not make a number smaller. -/
theorem le_foldl_digits (radix : Radix) (ds : List Nat) (start : Nat) :
    start ≤ ds.foldl (fun acc d => acc * radix.base + d) start := by
  induction ds generalizing start with
  | nil => exact Nat.le_refl start
  | cons d ds ih =>
    have hmul : start ≤ start * radix.base := Nat.le_mul_of_pos_right start (base_pos radix)
    have hrest := ih (start * radix.base + d)
    rw [List.foldl_cons]
    omega

theorem foldlM_appendDigit? (radix : Radix) (ds : List Nat) (acc : UInt64) :
    ds.foldlM (appendDigit? radix) acc =
      if ds.foldl (fun acc d => acc * radix.base + d) acc.toNat < UInt64.size then
        some (UInt64.ofNat (ds.foldl (fun acc d => acc * radix.base + d) acc.toNat))
      else none := by
  induction ds generalizing acc with
  | nil =>
    rw [List.foldl_nil, if_pos acc.toNat_lt_size, UInt64.ofNat_toNat]
    rfl
  | cons d ds ih =>
    rw [List.foldlM_cons, List.foldl_cons, appendDigit?_eq]
    by_cases hfits : acc.toNat * radix.base + d < UInt64.size
    · rw [if_pos hfits]
      refine (ih _).trans ?_
      rw [UInt64.toNat_ofNat_of_lt' hfits]
    · -- The number is too large already, and the digits to come do not change that.
      have hlarge := le_foldl_digits radix ds (acc.toNat * radix.base + d)
      rw [if_neg hfits, if_neg (by omega)]
      rfl

/-- **Digits fit in the word when the number they denote does**, and then
the word holds that number. -/
theorem accumulate?_eq (radix : Radix) (ds : List Nat) :
    accumulate? radix ds =
      if magnitude radix ds < UInt64.size then some (UInt64.ofNat (magnitude radix ds))
      else none :=
  foldlM_appendDigit? radix ds 0

/-- The number that a magnitude and a sign make, or that it is too large. -/
def withSign (text : String) (negative : Bool) (m : Nat) : Except NumeralError Int64 :=
  match fit? (if negative then -(m : Int) else m) with
  | none => .error (.overflow text)
  | some n => .ok n

/-- What does not fit in the word does not fit with a sign. -/
theorem withSign_of_size_le {m : Nat} (h : UInt64.size ≤ m) (text : String) (negative : Bool) :
    withSign text negative m = .error (.overflow text) := by
  have hsize : UInt64.size = 18446744073709551616 := rfl
  have hout : ¬ InRange (if negative then -(m : Int) else m) := by
    unfold InRange
    cases negative with
    | true =>
      simp only [if_true]
      omega
    | false =>
      simp only [Bool.false_eq_true, if_false]
      omega
  rw [withSign, fit?, if_neg hout]

/-- **A text with digits** is read as the number they denote, whatever the
steps on the way. -/
theorem parse_of_digitValues {text : String} {negative : Bool} {radix : Radix}
    {unsigned digits : List Char} {ds : List Nat} (htext : text.toList ≠ [])
    (hsign : splitSign text.toList = (negative, unsigned))
    (hradix : splitRadix unsigned = (radix, digits))
    (hds : digitValues? radix digits = some ds) (hsome : ds ≠ []) :
    parse text = withSign text negative (magnitude radix ds) := by
  obtain ⟨d, rest, rfl⟩ := List.exists_cons_of_ne_nil hsome
  simp only [parse, if_neg htext, hsign, hradix, hds, accumulate?_eq]
  by_cases hfits : magnitude radix (d :: rest) < UInt64.size
  · simp only [if_pos hfits, UInt64.toNat_ofNat_of_lt' hfits]
    rfl
  · simp only [if_neg hfits]
    exact (withSign_of_size_le (Nat.le_of_not_lt hfits) text negative).symm

/-! ## Decimal text -/

/-- A decimal digit has the value of its place after `0`. -/
theorem digit?_decimal {c : Char} (h : c.isDigit = true) :
    digit? .decimal c = some (c.toNat - 48) := by
  have hrange : '0' ≤ c ∧ c ≤ '9' := by
    simpa [Char.isDigit, Char.le_def] using h
  have hle : c.toNat ≤ 57 := UInt32.le_iff_toNat_le.mp (Char.le_def.mp hrange.2)
  have hlt : c.toNat - 48 < Radix.decimal.base := by
    simp only [Radix.base]
    omega
  simp only [digit?, charValue?, if_pos hrange, if_pos hlt]

/-- The values of decimal digits. -/
theorem digitValues?_decimal {cs : List Char} (h : ∀ c ∈ cs, c.isDigit = true) :
    digitValues? .decimal cs = some (cs.map fun c => c.toNat - 48) := by
  induction cs with
  | nil => rfl
  | cons c cs ih =>
    have hc := digit?_decimal (h c List.mem_cons_self)
    have hcs := ih fun d hd => h d (List.mem_cons_of_mem _ hd)
    simp only [digitValues?] at hcs ⊢
    rw [List.mapM_cons, hc, hcs]
    rfl

/-- The number that decimal digits denote. -/
theorem magnitude_decimal (cs : List Char) :
    magnitude .decimal (cs.map fun c => c.toNat - 48) = Nat.ofDigitChars 10 cs 0 := by
  rw [magnitude, Nat.ofDigitChars_eq_foldl, List.foldl_map]
  simp only [Radix.base, Nat.mul_comm, Char.reduceToNat]

/-- Digits have no sign before them. -/
theorem splitSign_of_isDigit {cs : List Char} (h : ∀ c ∈ cs, c.isDigit = true) :
    splitSign cs = (false, cs) := by
  unfold splitSign
  split
  · exact absurd (h '-' List.mem_cons_self) (by decide)
  · exact absurd (h '+' List.mem_cons_self) (by decide)
  · rfl

/-- And no marker of another base: its second character is a letter. -/
theorem splitRadix_of_isDigit {cs : List Char} (h : ∀ c ∈ cs, c.isDigit = true) :
    splitRadix cs = (.decimal, cs) := by
  have hletter : ∀ {a b : Char} {rest : List Char}, b.isDigit = false → cs ≠ a :: b :: rest := by
    rintro a b rest hb rfl
    have := h b (List.mem_cons_of_mem _ List.mem_cons_self)
    rw [hb] at this
    exact absurd this (by decide)
  unfold splitRadix
  split
  · exact absurd rfl (hletter (by decide))
  · exact absurd rfl (hletter (by decide))
  · exact absurd rfl (hletter (by decide))
  · exact absurd rfl (hletter (by decide))
  · exact absurd rfl (hletter (by decide))
  · exact absurd rfl (hletter (by decide))
  · rfl

/-- The digits of a number are decimal. -/
theorem isDigit_of_mem_toDigits {n : Nat} : ∀ c ∈ Nat.toDigits 10 n, c.isDigit = true :=
  fun _ hc => Nat.isDigit_of_mem_toDigits (by decide) (by decide) hc

/-- The sign and the digits are found again in a decimal text. -/
theorem splitSign_decimal (v : Int) :
    splitSign (decimal v) = (decide (v < 0), Nat.toDigits 10 v.natAbs) := by
  unfold decimal
  split
  · rename_i hneg
    simp [splitSign, hneg]
  · rename_i hpos
    rw [splitSign_of_isDigit isDigit_of_mem_toDigits]
    simp [hpos]

theorem decimal_ne_nil (v : Int) : decimal v ≠ [] := by
  unfold decimal
  split
  · exact List.cons_ne_nil _ _
  · exact Nat.toDigits_ne_nil

/-- A number is its magnitude with its sign. -/
theorem signed_natAbs (v : Int) :
    (if decide (v < 0) = true then -((v.natAbs : Nat) : Int) else (v.natAbs : Nat)) = v := by
  by_cases hneg : v < 0
  · simp only [hneg, decide_true, if_true]
    omega
  · simp only [hneg, decide_false, Bool.false_eq_true, if_false]
    omega

/-- **A number that fits is read back from its decimal text.** -/
theorem parse_decimal {v : Int} (h : InRange v) :
    parse (String.ofList (decimal v)) = .ok (Int64.ofInt v) := by
  have hds : digitValues? .decimal (Nat.toDigits 10 v.natAbs) =
      some ((Nat.toDigits 10 v.natAbs).map fun c => c.toNat - 48) :=
    digitValues?_decimal isDigit_of_mem_toDigits
  have hmag : magnitude .decimal ((Nat.toDigits 10 v.natAbs).map fun c => c.toNat - 48) =
      v.natAbs := by
    rw [magnitude_decimal, Nat.ofDigitChars_ten_toDigits]
  have hsome : (Nat.toDigits 10 v.natAbs).map (fun c => c.toNat - 48) ≠ [] := by simp
  have htext : (String.ofList (decimal v)).toList = decimal v := String.toList_ofList
  rw [parse_of_digitValues (by rw [htext]; exact decimal_ne_nil v)
    (by rw [htext]; exact splitSign_decimal v)
    (splitRadix_of_isDigit isDigit_of_mem_toDigits) hds hsome, hmag, withSign, signed_natAbs, fit?,
    if_pos h]

/-- And so is a count that fits. -/
theorem parse_repr {n : Nat} (h : n < 9223372036854775808) :
    parse n.repr = .ok (Int64.ofNat n) := by
  have hrange : InRange (n : Int) := by
    unfold InRange
    omega
  have htext : n.repr = String.ofList (decimal n) := by
    rw [Nat.repr_eq_ofList_toDigits, decimal, if_neg (by omega), Int.natAbs_natCast]
  rw [htext, parse_decimal hrange, Int64.ofInt_eq_ofNat]

/-- Every 64-bit number is in range. -/
theorem inRange_toInt (n : Int64) : InRange n.toInt := by
  have hlo := n.le_toInt
  have hhi := n.toInt_lt
  unfold InRange
  omega

/-- And a number in range is kept as it is. -/
theorem toInt_ofInt_of_inRange {v : Int} (h : InRange v) : (Int64.ofInt v).toInt = v := by
  unfold InRange at h
  exact Int64.toInt_ofInt_of_le (by omega) (by omega)

/-- **Every number is read back from its canonical text.** -/
@[simp] theorem parse_render (n : Int64) : parse (render n) = .ok n := by
  rw [render, parse_decimal (inRange_toInt n), Int64.ofInt_toInt]

/-- So no two numbers have the same text. -/
theorem render_inj {m n : Int64} : render m = render n ↔ m = n := by
  constructor
  · intro h
    have hread : parse (render m) = parse (render n) := by rw [h]
    rw [parse_render, parse_render] at hread
    exact Except.ok.inj hread
  · rintro rfl
    rfl

/-! ## The characters of the text -/

/-- A decimal text is made of digits, but for the sign. -/
theorem eq_minus_or_isDigit_of_mem_decimal {v : Int} {c : Char} (h : c ∈ decimal v) :
    c = '-' ∨ c.isDigit = true := by
  unfold decimal at h
  split at h
  · rcases List.mem_cons.mp h with hc | hc
    · exact Or.inl hc
    · exact Or.inr (isDigit_of_mem_toDigits c hc)
  · exact Or.inr (isDigit_of_mem_toDigits c h)

/-- The text of a number lacks the first letter of an operation's name. -/
theorem not_mem_mark_render (n : Int64) : 'O' ∉ (render n).toList := by
  intro h
  rw [render, String.toList_ofList] at h
  rcases eq_minus_or_isDigit_of_mem_decimal h with hc | hc
  · exact absurd hc (by decide)
  · exact absurd hc (by decide)

/-- A digit parts no two words. -/
theorem isBlank_of_isDigit {c : Char} (h : c.isDigit = true) : Text.isBlank c = false := by
  have hlo : 48 ≤ c.toNat := by
    simp only [Char.isDigit, Bool.and_eq_true, decide_eq_true_eq] at h
    exact UInt32.le_iff_toNat_le.mp h.1
  have hhi : c.toNat ≤ 57 := by
    simp only [Char.isDigit, Bool.and_eq_true, decide_eq_true_eq] at h
    exact UInt32.le_iff_toNat_le.mp h.2
  simp only [Text.isBlank, Bool.or_eq_false_iff, Bool.and_eq_false_iff, decide_eq_false_iff_not,
    beq_eq_false_iff_ne]
  omega

/-- The digits of a count are decimal. -/
theorem isDigit_of_mem_repr {n : Nat} {c : Char} (h : c ∈ n.repr.toList) : c.isDigit = true :=
  isDigit_of_mem_toDigits c (by rwa [Nat.toList_repr] at h)

end Numeral

end SpendScript
