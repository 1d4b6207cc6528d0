import SpendScript.Proofs.Hex
import SpendScript.Proofs.Numeral
import SpendScript.Stack
/-!
# Elements and their text

How an element came about does not matter: each reading of it is the
reading of its text. For numbers and bytes this is the round trip through
their canonical text, and for equality that the texts of two numbers, or
of two byte strings, differ when they do.

A stack is read from its top and shown from its bottom; two stacks are
shown alike exactly when their elements have the same texts.
-/

namespace SpendScript

/-- A text without the first letter of the mark has no operation's shape. -/
theorem isOpcode_eq_false_of_not_mem {t : String} (h : 'O' ∉ t.toList) : isOpcode t = false := by
  unfold isOpcode
  split
  · rename_i heq
    exact absurd (heq ▸ List.mem_cons_self) h
  · rfl

/-- The text of bytes has none. -/
theorem Hex.isOpcode_encode (b : Bytes) : isOpcode (encode b) = false :=
  isOpcode_eq_false_of_not_mem (not_mem_mark_encode b)

namespace Value

/-- The text of a truth value. -/
@[simp] theorem text_ofBool (b : Bool) : (ofBool b).text = if b then "1" else "0" := by
  cases b with
  | false => decide
  | true => decide

/-- **The number of an element is the number its text denotes.** -/
theorem toNum_eq_parse_text (v : Value) : v.toNum = Numeral.parse v.text := by
  cases v with
  | literal t => rfl
  | num n => exact (Numeral.parse_render n).symm
  | bytes b => rfl

/-- **The bytes of an element are those its text writes.** -/
theorem toBytes_eq_decode_text (v : Value) : v.toBytes = Hex.decode v.text := by
  cases v with
  | literal t => rfl
  | num n => rfl
  | bytes b => exact (Hex.decode_encode b).symm

/-- **An element has the shape of an operation's name when its text has.** -/
theorem isOpcode_eq_isOpcode_text (v : Value) : v.isOpcode = SpendScript.isOpcode v.text := by
  cases v with
  | literal t => rfl
  | num n => exact (isOpcode_eq_false_of_not_mem (Numeral.not_mem_mark_render n)).symm
  | bytes b => exact (Hex.isOpcode_encode b).symm

/-- **Elements are equal to a script when their texts are.** -/
theorem equal_eq_beq_text (v w : Value) : v.equal w = (v.text == w.text) := by
  have hnum : ∀ m n : Int64, (m == n) = (Numeral.render m == Numeral.render n) := fun m n => by
    rw [Bool.eq_iff_iff, beq_iff_eq, beq_iff_eq]
    exact Numeral.render_inj.symm
  have hbytes : ∀ a b : Bytes, (a == b) = (Hex.encode a == Hex.encode b) := fun a b => by
    rw [Bool.eq_iff_iff, beq_iff_eq, beq_iff_eq]
    exact Hex.encode_inj.symm
  cases v with
  | literal t => rfl
  | num m =>
    cases w with
    | literal t => rfl
    | num n => exact hnum m n
    | bytes b => rfl
  | bytes a =>
    cases w with
    | literal t => rfl
    | num n => rfl
    | bytes b => exact hbytes a b

theorem equal_eq_true_iff {v w : Value} : v.equal w = true ↔ v.text = w.text := by
  rw [equal_eq_beq_text, beq_iff_eq]

/-- So it is an equivalence, and carries over between elements that came
about in different ways. -/
theorem equivalence_equal : Equivalence fun v w : Value => v.equal w = true := by
  simp only [equal_eq_true_iff]
  exact ⟨fun _ => rfl, Eq.symm, Eq.trans⟩

/-- **An element is its text to whoever reads it.** Two elements are equal
exactly when their texts are, whichever way each of them came about, and
so equality is an equivalence on all of them; an element is equal to a
text when that is its text. And the number of an element, its bytes and
whether it has the shape of an operation's name are those of its text
pushed as it stands, and where it has none so is the error. -/
theorem readings_follow_text :
    (∀ v w : Value, v.equal w = true ↔ v.text = w.text) ∧
      (Equivalence fun v w : Value => v.equal w = true) ∧
      (∀ (v : Value) (t : String), v.equalText t = true ↔ v.text = t) ∧
      ∀ v : Value, v.toNum = (literal v.text).toNum ∧ v.toBytes = (literal v.text).toBytes ∧
        v.isOpcode = (literal v.text).isOpcode := by
  refine ⟨fun v w => equal_eq_true_iff, equivalence_equal, fun v t => ?_, fun v => ⟨?_, ?_, ?_⟩⟩
  · rw [equalText, beq_iff_eq]
  · exact v.toNum_eq_parse_text
  · exact v.toBytes_eq_decode_text
  · exact v.isOpcode_eq_isOpcode_text

-- A number and bytes that are written with the same digits: each is read as the other.
example : (num 12).equal (bytes [0x12]) = true ∧ (bytes [0x12]).toNum = .ok 12 ∧
    (num 12).toBytes = .ok [0x12] :=
  ⟨rfl, rfl, rfl⟩

end Value

namespace Stack

/-- Two stacks are shown alike when their elements' texts agree, from the
top down as well as from the bottom up. -/
theorem snapshot_eq_iff {s t : Stack} :
    s.snapshot = t.snapshot ↔ s.map Value.text = t.map Value.text := by
  simp only [snapshot, bottomFirst, List.map_reverse, List.reverse_inj]

/-- Taking a number off gives the number of the top element. -/
theorem popNum_of_toNum_eq_ok {v : Value} {n : Int64} (h : v.toNum = .ok n) (s : Stack) :
    popNum (v :: s) = ⟨.ok n, s⟩ := by
  rw [popNum, pop, Outcome.andThen_ok, h]
  rfl

/-- And fails as its reading does, with the element off all the same. -/
theorem popNum_of_toNum_eq_error {v : Value} {e : NumeralError} (h : v.toNum = .error e)
    (s : Stack) :
    popNum (v :: s) = ⟨.error (.notANumber e), s⟩ := by
  rw [popNum, pop, Outcome.andThen_ok, h]
  rfl

end Stack

end SpendScript
