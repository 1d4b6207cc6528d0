import Mathlib.Data.Nat.Digits.Defs
import SpendScript.Proofs.Numeral
/-!
# The grammar of numerals

What a text has to be to denote a number, said without the reader: a sign
or none, a marker of the base or none, and digits. Every text has these
parts, and has them in one way (`existsUnique_hasParts`). Its digits denote
a number by the weight of their places.

The reader accepts exactly that. A text whose digits are missing, or are
not all digits of the base, is none, however large the rest would be; and
of a text that is one the number is read exactly, or is out of range.
-/

namespace SpendScript

/-! ## Characters -/

namespace Text

/-- A character of ASCII is that of one of the first code points. -/
theorem exists_eq_ofNat {c : Char} (h : c.toNat < 128) : ∃ n < 128, c = Char.ofNat n :=
  ⟨c.toNat, h, (Char.ofNat_toNat c).symm⟩

/-- A character that is none of ASCII has no case. -/
theorem toLower_eq_self_of_le {c : Char} (h : 128 ≤ c.toNat) : c.toLower = c := by
  unfold Char.toLower
  rw [dif_neg]
  rintro ⟨-, hle⟩
  have hc : c.toNat ≤ 90 := UInt32.le_iff_toNat_le.mp hle
  omega

end Text

/-! ## Digits and what they denote -/

namespace Radix

/-- The digits, each at the place of its value. -/
def symbols : List Char :=
  ['0', '1', '2', '3', '4', '5', '6', '7', '8', '9', 'a', 'b', 'c', 'd', 'e', 'f']

/-- It is a digit of the base, a letter in either case. -/
def IsDigit (radix : Radix) (c : Char) : Prop :=
  c.toLower ∈ symbols.take radix.base

instance (radix : Radix) (c : Char) : Decidable (radix.IsDigit c) :=
  inferInstanceAs (Decidable (_ ∈ _))

/-- What a digit is worth in the last place. -/
def digitValue (c : Char) : Nat :=
  symbols.idxOf c.toLower

end Radix

namespace Numeral

/-- The number that digits behind a sign denote, each weighing the base
times as much as the next. -/
def denoted (negative : Bool) (radix : Radix) (digits : List Char) : Int :=
  let m := Nat.ofDigits radix.base (digits.map Radix.digitValue).reverse
  if negative then -(m : Int) else m

/-! ## The parts of a text -/

/-- A sign, if there is one, and what comes after it. -/
inductive Signed : List Char → Bool → List Char → Prop
  | minus (rest : List Char) : Signed ('-' :: rest) true rest
  | plus (rest : List Char) : Signed ('+' :: rest) false rest
  | bare {cs : List Char} : cs.head? ≠ some '-' → cs.head? ≠ some '+' → Signed cs false cs

/-- A marker of the base, if there is one, and what comes after it. -/
inductive Marked : List Char → Radix → List Char → Prop
  | hexadecimal {x : Char} (rest : List Char) : x = 'x' ∨ x = 'X' →
      Marked ('0' :: x :: rest) .hexadecimal rest
  | octal {x : Char} (rest : List Char) : x = 'o' ∨ x = 'O' →
      Marked ('0' :: x :: rest) .octal rest
  | binary {x : Char} (rest : List Char) : x = 'b' ∨ x = 'B' →
      Marked ('0' :: x :: rest) .binary rest
  | decimal {cs : List Char} : (∀ x ∈ ['x', 'X', 'o', 'O', 'b', 'B'], ¬ ['0', x] <+: cs) →
      Marked cs .decimal cs

/-- A text is a sign, a marker and then these characters. -/
def HasParts (cs : List Char) (negative : Bool) (radix : Radix) (digits : List Char) : Prop :=
  ∃ unsigned, Signed cs negative unsigned ∧ Marked unsigned radix digits

/-- **The sign is found where there is one.** -/
theorem signed_iff {cs rest : List Char} {negative : Bool} :
    Signed cs negative rest ↔ splitSign cs = (negative, rest) := by
  constructor
  · intro h
    cases h with
    | minus => rfl
    | plus => rfl
    | bare hminus hplus =>
      unfold splitSign
      split
      · exact absurd rfl hminus
      · exact absurd rfl hplus
      · rfl
  · intro h
    unfold splitSign at h
    split at h
    · cases h
      exact .minus rest
    · cases h
      exact .plus rest
    · rename_i hminus hplus
      cases h
      refine .bare (fun hhead => ?_) fun hhead => ?_
      · obtain ⟨tail, rfl⟩ := List.head?_eq_some_iff.mp hhead
        exact hminus tail rfl
      · obtain ⟨tail, rfl⟩ := List.head?_eq_some_iff.mp hhead
        exact hplus tail rfl

/-- **And so is the marker.** -/
theorem marked_iff {cs rest : List Char} {radix : Radix} :
    Marked cs radix rest ↔ splitRadix cs = (radix, rest) := by
  constructor
  · intro h
    cases h with
    | hexadecimal _ hx => rcases hx with rfl | rfl <;> rfl
    | octal _ hx => rcases hx with rfl | rfl <;> rfl
    | binary _ hx => rcases hx with rfl | rfl <;> rfl
    | decimal hnone =>
      have hmark : ∀ {x : Char} {tail : List Char}, cs = '0' :: x :: tail →
          x ∉ ['x', 'X', 'o', 'O', 'b', 'B'] := by
        rintro x tail rfl hx
        exact hnone x hx ⟨tail, rfl⟩
      unfold splitRadix
      split
      · exact absurd (by decide) (hmark rfl)
      · exact absurd (by decide) (hmark rfl)
      · exact absurd (by decide) (hmark rfl)
      · exact absurd (by decide) (hmark rfl)
      · exact absurd (by decide) (hmark rfl)
      · exact absurd (by decide) (hmark rfl)
      · rfl
  · intro h
    unfold splitRadix at h
    split at h
    · cases h
      exact .hexadecimal rest (.inl rfl)
    · cases h
      exact .hexadecimal rest (.inr rfl)
    · cases h
      exact .octal rest (.inl rfl)
    · cases h
      exact .octal rest (.inr rfl)
    · cases h
      exact .binary rest (.inl rfl)
    · cases h
      exact .binary rest (.inr rfl)
    · rename_i hx hX ho hO hb hB
      cases h
      refine .decimal fun x hmem hpre => ?_
      obtain ⟨tail, rfl⟩ := hpre
      simp only [List.mem_cons, List.not_mem_nil, or_false] at hmem
      rcases hmem with rfl | rfl | rfl | rfl | rfl | rfl
      · exact hx tail rfl
      · exact hX tail rfl
      · exact ho tail rfl
      · exact hO tail rfl
      · exact hb tail rfl
      · exact hB tail rfl

theorem hasParts_iff {cs digits : List Char} {negative : Bool} {radix : Radix} :
    HasParts cs negative radix digits ↔
      ∃ unsigned, splitSign cs = (negative, unsigned) ∧ splitRadix unsigned = (radix, digits) := by
  simp only [HasParts, signed_iff, marked_iff]

/-- **Every text has its parts, and in one way.** -/
theorem existsUnique_hasParts (cs : List Char) :
    ∃! parts : Bool × Radix × List Char, HasParts cs parts.1 parts.2.1 parts.2.2 := by
  refine ⟨((splitSign cs).1, splitRadix (splitSign cs).2), ?_, ?_⟩
  · exact hasParts_iff.mpr ⟨(splitSign cs).2, rfl, rfl⟩
  · rintro ⟨negative, radix, digits⟩ h
    obtain ⟨unsigned, hsign, hradix⟩ := hasParts_iff.mp h
    rw [hsign, hradix]

/-! ## Digits, read -/

/-- A character that is none of ASCII has no value as a digit. -/
theorem charValue?_of_le {c : Char} (h : 128 ≤ c.toNat) : charValue? c = none := by
  have hle : ∀ {d : Char}, c ≤ d → c.toNat ≤ d.toNat := fun hcd =>
    UInt32.le_iff_toNat_le.mp (Char.le_def.mp hcd)
  have hnine : ¬ ('0' ≤ c ∧ c ≤ '9') := fun hc => by
    have hc' : c.toNat ≤ 57 := hle hc.2
    omega
  have hlower : ¬ ('a' ≤ c ∧ c ≤ 'z') := fun hc => by
    have hc' : c.toNat ≤ 122 := hle hc.2
    omega
  have hupper : ¬ ('A' ≤ c ∧ c ≤ 'Z') := fun hc => by
    have hc' : c.toNat ≤ 90 := hle hc.2
    omega
  rw [charValue?, if_neg hnine, if_neg hlower, if_neg hupper]

/-- And it is no digit: it is no capital letter, and so stays what it is. -/
theorem not_isDigit_of_le {c : Char} (h : 128 ≤ c.toNat) (radix : Radix) : ¬ radix.IsDigit c := by
  intro hdigit
  rw [Radix.IsDigit, Text.toLower_eq_self_of_le h] at hdigit
  have hall : (Radix.symbols.all fun d => decide (d.toNat < 128)) = true := by decide
  have hsmall := of_decide_eq_true (List.all_eq_true.mp hall c (List.mem_of_mem_take hdigit))
  omega

/-- **A character is read as a digit when it is one**, and for its value. -/
theorem digit?_eq (radix : Radix) (c : Char) :
    digit? radix c = if radix.IsDigit c then some (Radix.digitValue c) else none := by
  by_cases hascii : c.toNat < 128
  · -- There are few enough characters of ASCII to try them all.
    have hall : ∀ n < 128, digit? radix (Char.ofNat n) =
        if radix.IsDigit (Char.ofNat n) then some (Radix.digitValue (Char.ofNat n)) else none := by
      cases radix <;> decide +kernel
    obtain ⟨n, hn, rfl⟩ := Text.exists_eq_ofNat hascii
    exact hall n hn
  · rw [digit?, charValue?_of_le (by omega), if_neg (not_isDigit_of_le (by omega) radix)]

theorem digitValues?_of_isDigit {radix : Radix} {cs : List Char}
    (h : ∀ c ∈ cs, radix.IsDigit c) :
    digitValues? radix cs = some (cs.map Radix.digitValue) := by
  induction cs with
  | nil => rfl
  | cons c cs ih =>
    have hc : digit? radix c = some (Radix.digitValue c) := by
      rw [digit?_eq, if_pos (h c List.mem_cons_self)]
    have hcs := ih fun d hd => h d (List.mem_cons_of_mem _ hd)
    rw [digitValues?] at hcs ⊢
    rw [List.mapM_cons, hc, hcs]
    rfl

theorem digitValues?_of_not_isDigit {radix : Radix} {cs : List Char} {c : Char} (hmem : c ∈ cs)
    (hc : ¬ radix.IsDigit c) : digitValues? radix cs = none := by
  induction cs with
  | nil => cases hmem
  | cons d cs ih =>
    rw [digitValues?, List.mapM_cons]
    rcases List.mem_cons.mp hmem with rfl | hrest
    · rw [digit?_eq, if_neg hc]
      rfl
    · have hcs := ih hrest
      rw [digitValues?] at hcs
      rw [hcs]
      cases digit? radix d with
      | none => rfl
      | some v => rfl

/-- Taking digits together from the first on gives the number that they
denote by their places. -/
theorem magnitude_eq_ofDigits (radix : Radix) (ds : List Nat) :
    magnitude radix ds = Nat.ofDigits radix.base ds.reverse := by
  rw [magnitude, Nat.ofDigits_eq_foldr, List.foldr_reverse]
  congr 1
  funext acc d
  rw [Nat.mul_comm, Nat.add_comm]
  rfl

/-! ## What is read -/

/-- **A digit is missing, or a character is none**, and nothing else is
looked at. -/
theorem parse_of_not_digits {text : String} {negative : Bool} {radix : Radix}
    {digits : List Char} (htext : text ≠ "") (hparts : HasParts text.toList negative radix digits)
    (h : digits = [] ∨ ∃ c ∈ digits, ¬ radix.IsDigit c) :
    parse text = .error (.invalidDigit text radix) := by
  obtain ⟨unsigned, hsign, hradix⟩ := hasParts_iff.mp hparts
  have hnil : text.toList ≠ [] := fun hnil => htext (String.toList_eq_nil_iff.mp hnil)
  simp only [parse, if_neg hnil, hsign, hradix]
  rcases h with rfl | ⟨c, hmem, hc⟩
  · rfl
  · rw [digitValues?_of_not_isDigit hmem hc]

/-- **Digits are read as the number they denote.** -/
theorem parse_of_digits {text : String} {negative : Bool} {radix : Radix} {digits : List Char}
    (htext : text ≠ "") (hparts : HasParts text.toList negative radix digits)
    (hsome : digits ≠ []) (h : ∀ c ∈ digits, radix.IsDigit c) :
    parse text = match fit? (denoted negative radix digits) with
      | none => .error (.overflow text)
      | some n => .ok n := by
  obtain ⟨unsigned, hsign, hradix⟩ := hasParts_iff.mp hparts
  have hnil : text.toList ≠ [] := fun hnil => htext (String.toList_eq_nil_iff.mp hnil)
  rw [parse_of_digitValues hnil hsign hradix (digitValues?_of_isDigit h) (by simpa using hsome),
    magnitude_eq_ofDigits]
  rfl

/-- Of a text that there is something else is said: it is no numeral, or it
is one and its number fits or does not. -/
theorem parse_eq_empty_iff {text : String} : parse text = .error .empty ↔ text = "" := by
  refine ⟨fun h => Classical.byContradiction fun htext => ?_, fun h => h ▸ rfl⟩
  obtain ⟨⟨negative, radix, digits⟩, hparts, -⟩ := existsUnique_hasParts text.toList
  by_cases hbad : digits = [] ∨ ∃ c ∈ digits, ¬ radix.IsDigit c
  · rw [parse_of_not_digits htext hparts hbad] at h
    cases h
  · rw [not_or] at hbad
    have hdigits : ∀ c ∈ digits, radix.IsDigit c := fun c hc =>
      Classical.byContradiction fun hnot => hbad.2 ⟨c, hc, hnot⟩
    rw [parse_of_digits htext hparts hbad.1 hdigits] at h
    split at h
    · cases h
    · cases h

/-- **The reader and the grammar.** A text is empty exactly when the reader
says so. Every text has a sign, a marker and the rest in exactly one way.
If that rest is empty, or has a character in it that is no digit of the
base, the reader says so, whatever the number might have been. Otherwise
it gives the number that the digits denote, if that number is in the
64-bit signed range, and else says that it does not fit. -/
theorem parse_accepts_grammar (text : String) :
    (parse text = .error .empty ↔ text = "") ∧
      (∃! parts : Bool × Radix × List Char,
        HasParts text.toList parts.1 parts.2.1 parts.2.2) ∧
      ∀ (negative : Bool) (radix : Radix) (digits : List Char), text ≠ "" →
        HasParts text.toList negative radix digits →
          ((digits = [] ∨ ∃ c ∈ digits, ¬ radix.IsDigit c) →
            parse text = .error (.invalidDigit text radix)) ∧
          (digits ≠ [] → (∀ c ∈ digits, radix.IsDigit c) →
            (InRange (denoted negative radix digits) →
              ∃ n, parse text = .ok n ∧ n.toInt = denoted negative radix digits) ∧
            (¬ InRange (denoted negative radix digits) →
              parse text = .error (.overflow text))) := by
  refine ⟨parse_eq_empty_iff, existsUnique_hasParts text.toList,
    fun negative radix digits htext hparts =>
      ⟨parse_of_not_digits htext hparts, fun hsome hdigits => ?_⟩⟩
  rw [parse_of_digits htext hparts hsome hdigits]
  refine ⟨fun hin => ⟨Int64.ofInt (denoted negative radix digits), ?_, ?_⟩, fun hout => ?_⟩
  · rw [fit?, if_pos hin]
  · unfold InRange at hin
    exact Int64.toInt_ofInt_of_le (by omega) (by omega)
  · rw [fit?, if_neg hout]

/-- The lowest number, written in capital hexadecimal behind zeros. Its
digits make a number that is out of range without the sign. -/
theorem parse_accepts_grammar_of_lowest :
    let text := "-0X008000000000000000"
    let digits := ['0', '0', '8', '0', '0', '0', '0', '0', '0', '0', '0', '0', '0', '0', '0', '0',
      '0', '0']
    text ≠ "" ∧ HasParts text.toList true .hexadecimal digits ∧ digits ≠ [] ∧
      (∀ c ∈ digits, Radix.hexadecimal.IsDigit c) ∧
      InRange (denoted true .hexadecimal digits) ∧
      ∃ n, parse text = .ok n ∧ n.toInt = denoted true .hexadecimal digits := by
  intro text digits
  have htext : text ≠ "" := by decide
  have hlist : text.toList = '-' :: '0' :: 'X' :: digits := by decide
  have hparts : HasParts text.toList true .hexadecimal digits := by
    rw [hlist]
    exact ⟨'0' :: 'X' :: digits, .minus _, .hexadecimal _ (.inr rfl)⟩
  have hall : (digits.all fun c => decide (Radix.hexadecimal.IsDigit c)) = true := by decide
  have hdigits : ∀ c ∈ digits, Radix.hexadecimal.IsDigit c := fun c hc =>
    of_decide_eq_true (List.all_eq_true.mp hall c hc)
  have hin : InRange (denoted true .hexadecimal digits) := by decide
  obtain ⟨-, hread⟩ := (parse_accepts_grammar text).2.2 true .hexadecimal digits htext hparts
  exact ⟨htext, hparts, List.cons_ne_nil _ _, hdigits, hin,
    (hread (List.cons_ne_nil _ _) hdigits).1 hin⟩

end Numeral

end SpendScript
