import SpendScript.Code
import SpendScript.Proofs.Value
/-!
# Words and the scripts they write

A text is cut at each blank, and from that one law the rest follows: a
word is cut into itself, words put in a row with spaces between them are
found again, and a script written in two parts is read in two parts.
-/

namespace SpendScript

namespace Text

/-- Some characters, and no blank among them. -/
def IsWord (t : String) : Prop :=
  t.toList ≠ [] ∧ ∀ c ∈ t.toList, isBlank c = false

-- Named, so that the characters of the text are gone through and not all there are.
instance decidableForallNotBlank (cs : List Char) : Decidable (∀ c ∈ cs, isBlank c = false) :=
  List.decidableBAll _ cs

instance (t : String) : Decidable (IsWord t) :=
  inferInstanceAs (Decidable (_ ∧ _))

theorem consWord_append (w : List Char) (us vs : List (List Char)) :
    consWord w (us ++ vs) = consWord w us ++ vs := by
  cases w with
  | nil => rfl
  | cons c cs => rfl

/-- What stands before a blank is cut as if the text ended there. -/
theorem firstAndRest_append_blank {c : Char} (hc : isBlank c = true) (x y : List Char) :
    firstAndRest (x ++ c :: y) =
      ((firstAndRest x).1, (firstAndRest x).2 ++ words y) := by
  induction x with
  | nil => simp [firstAndRest, hc, words]
  | cons d x ih =>
    simp only [List.cons_append, firstAndRest, ih]
    by_cases hd : isBlank d = true
    · simp only [if_pos hd, consWord_append]
    · simp only [if_neg hd]

/-- **A text is cut at each blank.** -/
theorem words_append_blank {c : Char} (hc : isBlank c = true) (x y : List Char) :
    words (x ++ c :: y) = words x ++ words y := by
  rw [words, firstAndRest_append_blank hc]
  exact consWord_append (firstAndRest x).1 (firstAndRest x).2 (words y)

/-- Characters without a blank are one piece. -/
theorem firstAndRest_of_forall_not_blank {w : List Char} (h : ∀ c ∈ w, isBlank c = false) :
    firstAndRest w = (w, []) := by
  induction w with
  | nil => rfl
  | cons c w ih =>
    have hc : isBlank c = false := h c List.mem_cons_self
    simp [firstAndRest, hc, ih fun d hd => h d (List.mem_cons_of_mem _ hd)]

/-- A word is cut into itself. -/
theorem words_of_isWord {t : String} (h : IsWord t) : words t.toList = [t.toList] := by
  obtain ⟨c, cs, hcons⟩ := List.exists_cons_of_ne_nil h.1
  rw [words, firstAndRest_of_forall_not_blank h.2, hcons]
  rfl

/-- **Words put in a row are found again.** -/
theorem words_unwords {ts : List String} (h : ∀ t ∈ ts, IsWord t) :
    words (unwords ts).toList = ts.map String.toList := by
  rw [unwords, String.toList_ofList]
  induction ts with
  | nil => rfl
  | cons t ts ih =>
    have ht : words t.toList = [t.toList] := words_of_isWord (h t List.mem_cons_self)
    cases ts with
    | nil => simpa using ht
    | cons u us =>
      have hspace : List.intercalate [' '] ((t :: u :: us).map String.toList) =
          t.toList ++ ' ' :: List.intercalate [' '] ((u :: us).map String.toList) := rfl
      have hus := ih fun v hv => h v (List.mem_cons_of_mem _ hv)
      rw [hspace, words_append_blank (by decide), ht, hus]
      rfl

end Text

/-- The text of some bytes is a word. -/
theorem Hex.isWord_encode {b : Bytes} (h : b ≠ []) : Text.IsWord (encode b) :=
  ⟨toList_encode_ne_nil h, fun _ hc => isBlank_of_mem_encode hc⟩

/-- And so is the text of a count. -/
theorem Numeral.isWord_repr (n : Nat) : Text.IsWord n.repr := by
  refine ⟨?_, fun c hc => isBlank_of_isDigit (isDigit_of_mem_repr hc)⟩
  rw [Nat.toList_repr]
  exact Nat.toDigits_ne_nil

/-- A word without the shape of an operation's name pushes itself. -/
theorem Token.parse_of_isOpcode_eq_false {t : String} (h : isOpcode t = false) :
    Token.parse t = .push t := by
  simp [Token.parse, h]

namespace Code

/-- **A script in two parts with a space between them is read part by
part.** -/
theorem tokens_parse_append (a b : String) :
    (parse (a ++ " " ++ b)).tokens = (parse a).tokens ++ (parse b).tokens := by
  have hlist : (a ++ " " ++ b).toList = a.toList ++ ' ' :: b.toList := by
    simp [String.toList_append]
  simp only [parse]
  rw [hlist, Text.words_append_blank (by decide), List.map_append]

/-- A single word is a single token. -/
theorem tokens_parse_of_isWord {t : String} (h : Text.IsWord t) :
    (parse t).tokens = [Token.parse t] := by
  simp only [parse, Text.words_of_isWord h, List.map_cons, List.map_nil, String.ofList_toList]

/-- And words put in a row are a token each. -/
theorem tokens_parse_unwords {ts : List String} (h : ∀ t ∈ ts, Text.IsWord t) :
    (parse (Text.unwords ts)).tokens = ts.map Token.parse := by
  simp only [parse, Text.words_unwords h, List.map_map, Function.comp_def, String.ofList_toList]

/-- Those that are no names push themselves. -/
theorem tokens_parse_pushes {ts : List String} (hword : ∀ t ∈ ts, Text.IsWord t)
    (hname : ∀ t ∈ ts, isOpcode t = false) :
    (parse (Text.unwords ts)).tokens = ts.map Token.push := by
  rw [tokens_parse_unwords hword]
  exact List.map_congr_left fun t ht => Token.parse_of_isOpcode_eq_false (hname t ht)

end Code

end SpendScript
