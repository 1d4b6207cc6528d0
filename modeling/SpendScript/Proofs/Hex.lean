import SpendScript.Value
import SpendScript.Text.Blank
/-!
# Hexadecimal text, read back

Writing bytes and reading the text gives the bytes again, so no two byte
strings share a text. The digits that are written are sixteen characters,
none of which is a blank or the first letter of an operation's name, and
so the text of bytes is never taken for anything else.
-/

namespace SpendScript

namespace Hex

/-- A written digit takes one byte, and that byte reads as its value. -/
theorem utf8EncodeChar_digit {n : Nat} (h : n < 16) :
    String.utf8EncodeChar (digit n) = [UInt8.ofNat (digit n).toNat] ∧
      digitValue? (UInt8.ofNat (digit n).toNat) = some n := by
  revert n
  decide

/-- The two digits of a byte, and what is written after them. -/
theorem utf8_digits_cons (x : UInt8) (b : Bytes) :
    utf8 (digits (x :: b)) =
      UInt8.ofNat (digit (x.toNat / 16)).toNat :: UInt8.ofNat (digit (x.toNat % 16)).toNat ::
        utf8 (digits b) := by
  have hx : x.toNat < 256 := x.toNat_lt
  have hhi := (utf8EncodeChar_digit (n := x.toNat / 16) (by omega)).1
  have hlo := (utf8EncodeChar_digit (n := x.toNat % 16) (by omega)).1
  simp only [utf8, digits, List.flatMap_cons, List.cons_append, List.nil_append, hhi, hlo]

/-- The text of bytes is twice as long as they are. -/
theorem length_utf8_digits (b : Bytes) : (utf8 (digits b)).length = 2 * b.length := by
  induction b with
  | nil => rfl
  | cons x b ih =>
    rw [utf8_digits_cons, List.length_cons, List.length_cons, List.length_cons, ih]
    omega

/-- Reading the digits of bytes gives the bytes, wherever they stand. -/
theorem decodeFrom_digits (position : Nat) (b : Bytes) :
    decodeFrom position (utf8 (digits b)) = .ok b := by
  induction b generalizing position with
  | nil => rfl
  | cons x b ih =>
    have hx : x.toNat < 256 := x.toNat_lt
    have hhi := (utf8EncodeChar_digit (n := x.toNat / 16) (by omega)).2
    have hlo := (utf8EncodeChar_digit (n := x.toNat % 16) (by omega)).2
    have hjoin : UInt8.ofNat (16 * (x.toNat / 16) + x.toNat % 16) = x := by
      rw [Nat.div_add_mod]
      exact UInt8.ofNat_toNat
    rw [utf8_digits_cons, decodeFrom, hhi, hlo, ih]
    simp only [hjoin]

/-- **Bytes are read back from their text.** -/
@[simp] theorem decode_encode (b : Bytes) : decode (encode b) = .ok b := by
  have heven : ¬ 2 * b.length % 2 = 1 := by omega
  simp only [decode, encode, String.toList_ofList, length_utf8_digits, if_neg heven]
  exact decodeFrom_digits 0 b

/-- So no two byte strings have the same text. -/
theorem encode_inj {a b : Bytes} : encode a = encode b ↔ a = b := by
  constructor
  · intro h
    have hread : decode (encode a) = decode (encode b) := by rw [h]
    rw [decode_encode, decode_encode] at hread
    exact Except.ok.inj hread
  · rintro rfl
    rfl

/-! ## The characters of the text -/

/-- Every character of the text is a digit. -/
theorem exists_digit_of_mem_encode {b : Bytes} {c : Char} (h : c ∈ (encode b).toList) :
    ∃ n, n < 16 ∧ c = digit n := by
  simp only [encode, String.toList_ofList, digits, List.mem_flatMap, List.mem_cons,
    List.not_mem_nil, or_false] at h
  obtain ⟨x, -, rfl | rfl⟩ := h
  · have hx : x.toNat < 256 := x.toNat_lt
    exact ⟨x.toNat / 16, by omega, rfl⟩
  · exact ⟨x.toNat % 16, by omega, rfl⟩

theorem digit_ne_mark {n : Nat} (h : n < 16) : digit n ≠ 'O' := by
  revert n
  decide

theorem isBlank_digit {n : Nat} (h : n < 16) : Text.isBlank (digit n) = false := by
  revert n
  decide

/-- The text of bytes lacks the first letter of an operation's name. -/
theorem not_mem_mark_encode (b : Bytes) : 'O' ∉ (encode b).toList := by
  intro h
  obtain ⟨n, hn, hc⟩ := exists_digit_of_mem_encode h
  exact digit_ne_mark hn hc.symm

/-- No character of the text parts two words. -/
theorem isBlank_of_mem_encode {b : Bytes} {c : Char} (h : c ∈ (encode b).toList) :
    Text.isBlank c = false := by
  obtain ⟨n, hn, rfl⟩ := exists_digit_of_mem_encode h
  exact isBlank_digit hn

/-- The text of some bytes is not empty. -/
theorem toList_encode_ne_nil {b : Bytes} (h : b ≠ []) : (encode b).toList ≠ [] := by
  cases b with
  | nil => exact absurd rfl h
  | cons x b => simp [encode, digits]

end Hex

end SpendScript
