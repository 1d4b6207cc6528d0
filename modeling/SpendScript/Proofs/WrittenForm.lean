import SpendScript.Proofs.Words
/-!
# The written form of a script

A script is written as the words of its tokens and read back word by word.
A token survives this when it is the one that its own word stands for
(`Token.Writable`): an operation always, a push if what it pushes is one
word and no name, an unknown name if it is one. Tokens that were read are
of this kind, so a script is read back from its text exactly when all its
tokens are, and a script that was read from some text always is.
-/

namespace SpendScript

namespace Text

/-- A piece without a blank, put in front of words unless it is empty,
leaves only words. -/
theorem isWord_of_mem_consWord {first : List Char} {rest : List (List Char)}
    (hfirst : ∀ c ∈ first, isBlank c = false) (hrest : ∀ w ∈ rest, IsWord (String.ofList w)) :
    ∀ w ∈ consWord first rest, IsWord (String.ofList w) := by
  cases first with
  | nil => exact hrest
  | cons c cs =>
    intro w hw
    rcases List.mem_cons.mp hw with rfl | hmem
    · rw [IsWord, String.toList_ofList]
      exact ⟨List.cons_ne_nil c cs, hfirst⟩
    · exact hrest w hmem

/-- The first piece of a text has no blank, and after it there are only
words. -/
theorem firstAndRest_pieces (cs : List Char) :
    (∀ c ∈ (firstAndRest cs).1, isBlank c = false) ∧
      ∀ w ∈ (firstAndRest cs).2, IsWord (String.ofList w) := by
  induction cs with
  | nil => exact ⟨List.forall_mem_nil _, List.forall_mem_nil _⟩
  | cons c cs ih =>
    obtain ⟨hfirst, hrest⟩ := ih
    by_cases hc : isBlank c = true
    · simp only [firstAndRest, if_pos hc]
      exact ⟨List.forall_mem_nil _, isWord_of_mem_consWord hfirst hrest⟩
    · simp only [firstAndRest, if_neg hc]
      refine ⟨fun d hd => ?_, hrest⟩
      rcases List.mem_cons.mp hd with rfl | hmem
      · simpa using hc
      · exact hfirst d hmem

/-- **The words of a text are words.** -/
theorem isWord_of_mem_words {cs w : List Char} (h : w ∈ words cs) : IsWord (String.ofList w) := by
  obtain ⟨hfirst, hrest⟩ := firstAndRest_pieces cs
  exact isWord_of_mem_consWord hfirst hrest w h

end Text

/-! ## Tokens -/

namespace Operation

/-- A name that no operation goes by is neither the name of one nor one of
the digits that the constants also go by. -/
theorem ofName?_eq_none_iff {name : String} :
    ofName? name = none ↔ name ≠ "OP_0" ∧ name ≠ "OP_1" ∧ ∀ op : Operation, op.name ≠ name := by
  unfold ofName?
  by_cases hzero : name = "OP_0"
  · simp [hzero]
  · by_cases hone : name = "OP_1"
    · simp [hone]
    · rw [if_neg hzero, if_neg hone, List.find?_eq_none]
      simp [mem_all, hzero, hone]

/-- The name of an operation has the shape of one. -/
theorem isOpcode_name (op : Operation) : isOpcode op.name = true := by
  cases op <;> decide +kernel

theorem isWord_name (op : Operation) : Text.IsWord op.name := by
  cases op <;> decide +kernel

end Operation

namespace Token

/-- A token that is written so that it can be read back. -/
def Writable : Token → Prop
  | operation _ => True
  | push text => Text.IsWord text ∧ isOpcode text = false
  | unknown name =>
    (∀ c ∈ name.toList, Text.isBlank c = false) ∧ isOpcode name = true ∧
      name ≠ "OP_0" ∧ name ≠ "OP_1" ∧ ∀ op : Operation, op.name ≠ name

instance : DecidablePred Writable
  | operation _ => .isTrue trivial
  | push _ => inferInstanceAs (Decidable (_ ∧ _))
  | unknown name =>
    decidable_of_iff
      ((∀ c ∈ name.toList, Text.isBlank c = false) ∧ isOpcode name = true ∧
        Operation.ofName? name = none)
      (and_congr_right fun _ => and_congr_right fun _ => Operation.ofName?_eq_none_iff)

/-- Its word is one word. -/
theorem Writable.isWord_text {t : Token} (h : t.Writable) : Text.IsWord t.text := by
  cases t with
  | push text => exact h.1
  | operation op => exact op.isWord_name
  | unknown name =>
    refine ⟨fun hempty => ?_, h.1⟩
    have hnil : name.toList = [] := hempty
    have hshape : isOpcode name = false := isOpcode_eq_false_of_not_mem (by simp [hnil])
    rw [h.2.1] at hshape
    cases hshape

/-- **Its word stands for it.** -/
theorem Writable.parse_text {t : Token} (h : t.Writable) : parse t.text = t := by
  cases t with
  | push text => exact parse_of_isOpcode_eq_false h.2
  | operation op => simp [parse, text, op.isOpcode_name, Operation.ofName?_name]
  | unknown name =>
    have hname : Operation.ofName? name = none := Operation.ofName?_eq_none_iff.mpr h.2.2
    simp [parse, text, h.2.1, hname]

/-- And what a word stands for is such a token. -/
theorem writable_parse {word : String} (h : Text.IsWord word) : (parse word).Writable := by
  unfold parse
  by_cases hshape : isOpcode word = true
  · rw [if_pos hshape]
    cases hname : Operation.ofName? word with
    | some op => trivial
    | none => exact ⟨h.2, hshape, Operation.ofName?_eq_none_iff.mp hname⟩
  · rw [if_neg hshape]
    exact ⟨h, by simpa using hshape⟩

end Token

/-! ## Scripts -/

namespace Code

/-- **A script that was read has only such tokens.** -/
theorem writable_of_mem_parse {text : String} {t : Token} (ht : t ∈ (parse text).tokens) :
    t.Writable := by
  obtain ⟨word, hword, rfl⟩ := List.mem_map.mp ht
  exact Token.writable_parse (Text.isWord_of_mem_words hword)

/-- **And one that has only such tokens is read back.** -/
theorem parse_text_of_writable {c : Code} (h : ∀ t ∈ c.tokens, t.Writable) : parse c.text = c := by
  have hwords : ∀ w ∈ c.tokens.map Token.text, Text.IsWord w := by
    intro w hw
    obtain ⟨t, ht, rfl⟩ := List.mem_map.mp hw
    exact (h t ht).isWord_text
  have htokens : (parse c.text).tokens = c.tokens := by
    rw [text, tokens_parse_unwords hwords, List.map_map]
    calc c.tokens.map (Token.parse ∘ Token.text) = c.tokens.map id :=
          List.map_congr_left fun t ht => (h t ht).parse_text
      _ = c.tokens := List.map_id _
  exact congrArg Code.mk htokens

/-- **The written form of a script.** A script is read back from its text
exactly when each of its tokens is an operation, a push of one word that
is no name, or an unknown name of one word. Every script that was read is
such, so reading its text again gives the same script, and writing that
the same text. -/
theorem parse_text_eq_self_iff_writable :
    (∀ c : Code, parse c.text = c ↔ ∀ t ∈ c.tokens, t.Writable) ∧
      (∀ written, ∀ t ∈ (parse written).tokens, t.Writable) ∧
      (∀ written, parse (parse written).text = parse written) ∧
      ∀ written, (parse (parse written).text).text = (parse written).text := by
  have hread : ∀ written, ∀ t ∈ (parse written).tokens, t.Writable :=
    fun written t ht => writable_of_mem_parse ht
  have hagain : ∀ written, parse (parse written).text = parse written :=
    fun written => parse_text_of_writable (hread written)
  refine ⟨fun c => ⟨fun h t ht => ?_, parse_text_of_writable⟩, hread, hagain, fun written => ?_⟩
  · -- What is read back was read, whatever it was before.
    rw [← h] at ht
    exact hread c.text t ht
  · rw [hagain]

/-- The mark alone is no name and can be pushed, while an operation's name
is not unknown, be it only by its digit. -/
example : (Token.push "OP_").Writable ∧ (Token.unknown "OP_NOP").Writable ∧
    ¬ (Token.unknown "OP_1").Writable ∧ ¬ (Token.push "").Writable := by
  decide

end Code

end SpendScript
