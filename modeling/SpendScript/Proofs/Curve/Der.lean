import Mathlib.Algebra.Group.Fin.Basic
import SpendScript.Credential
import SpendScript.Proofs.Bytes
/-!
# The curve — signatures and their encodings

An integer has one shortest form and a length below 128 has one form, so a
signature without a zero in it has one DER encoding: reading undoes writing
(`ofDer?_toDer`), and what reads as the signature is what is written for it
(`eq_toDer_of_ofDer?`). Zeros are left out because whatever is no scalar
reads as zero.

Decoding gives a low signature and takes a high one for its low twin. So
two encodings decode to a signature, its own and that of its twin, or just
its own where a low one is asked for.
-/

namespace SpendScript

namespace Signature

/-! ## Integers in their shortest form -/

/-- The contents of an integer that is not negative, without a byte more
than it needs. -/
def IsContents (c : Bytes) : Prop :=
  isShortest c = true ∧ ∃ x rest, c = x :: rest ∧ x < 0x80

/-- A shortest form has nothing to trim. -/
theorem trim_of_isShortest {c : Bytes} (h : isShortest c = true) : trim c = c := by
  unfold trim
  split
  · rename_i x rest
    have hx : ¬ x < 0x80 := by
      intro hx
      simp [isShortest, hx] at h
    rw [if_neg hx]
  · rfl

/-- Zeros before it are trimmed away. -/
theorem trim_replicate_append {c : Bytes} (h : IsContents c) (count : ℕ) :
    trim (List.replicate count 0 ++ c) = c := by
  induction count with
  | zero => exact trim_of_isShortest h.1
  | succ count ih =>
    obtain ⟨x, rest, hrest, hx⟩ : ∃ x rest, List.replicate count 0 ++ c = x :: rest ∧ x < 0x80 := by
      cases count with
      | zero => exact h.2
      | succ count => exact ⟨0, List.replicate count 0 ++ c, rfl, by decide⟩
    rw [List.replicate_succ, List.cons_append, hrest, trim, if_pos hx, ← hrest, ih]

/-- Trimming keeps the number and leaves the shortest form, if what is
trimmed is not negative. -/
theorem isContents_trim {b : Bytes} (h : ∃ x rest, b = x :: rest ∧ x < 0x80) :
    IsContents (trim b) ∧ Bytes.toNat (trim b) = Bytes.toNat b := by
  fun_induction trim b with
  | case1 y rest hy ih =>
    obtain ⟨hcontents, hvalue⟩ := ih ⟨y, rest, rfl, hy⟩
    refine ⟨hcontents, ?_⟩
    rw [hvalue, Bytes.toNat_cons 0]
    simp
  | case2 y rest hy => exact ⟨⟨by simp [isShortest, hy], 0, y :: rest, rfl, by decide⟩, rfl⟩
  | case3 bs hno =>
    obtain ⟨x, rest, rfl, hx⟩ := h
    refine ⟨⟨?_, x, rest, rfl, hx⟩, rfl⟩
    cases rest with
    | nil => rfl
    | cons y rest =>
      have hzero : x ≠ 0 := by
        rintro rfl
        exact hno y rest rfl
      have hsign : x ≠ 0xFF := by
        rintro rfl
        exact absurd hx (by decide)
      simp [isShortest, hzero, hsign]

/-- **A number of at most 256 bits takes at most thirty-three bytes**, the
first of which may be there for the sign only. -/
theorem length_le_of_isContents {c : Bytes} (h : IsContents c) (hlt : Bytes.toNat c < 256 ^ 32) :
    c.length ≤ 33 := by
  obtain ⟨hshort, x, rest, rfl, hx⟩ := h
  cases rest with
  | nil => simp
  | cons y rest =>
    rw [Bytes.toNat_cons, Bytes.toNat_cons, List.length_cons] at hlt
    have hweight : 256 ^ rest.length < 256 ^ 32 := by
      by_cases hzero : x = 0
      · -- The second byte has its highest bit set, or the first could be spared.
        have hy : 0 < y.toNat := by
          rcases Nat.eq_zero_or_pos y.toNat with hy | hy
          · have : y = 0 := UInt8.toNat_inj.mp hy
            simp [isShortest, hzero, this] at hshort
          · exact hy
        calc 256 ^ rest.length ≤ y.toNat * 256 ^ rest.length := Nat.le_mul_of_pos_left _ hy
          _ < 256 ^ 32 := by omega
      · have hpos : 0 < x.toNat := by
          refine Nat.pos_of_ne_zero fun h => hzero ?_
          exact UInt8.toNat_inj.mp h
        calc 256 ^ rest.length
          _ ≤ 256 ^ (rest.length + 1) := Nat.pow_le_pow_right (by decide) (by omega)
          _ ≤ x.toNat * 256 ^ (rest.length + 1) := Nat.le_mul_of_pos_left _ hpos
          _ < 256 ^ 32 := by omega
    have hlen : rest.length < 32 := (Nat.pow_lt_pow_iff_right (by decide)).mp hweight
    simp only [List.length_cons]
    omega

/-- **The shortest form of a number is the one that is written.** -/
theorem eq_integerContents {c : Bytes} (h : IsContents c) (hlt : Bytes.toNat c < 256 ^ 32) :
    c = integerContents (Bytes.toNat c) := by
  rw [integerContents, Bytes.ofNat_toNat (length_le_of_isContents h hlt),
    trim_replicate_append h]

/-- A scalar has at most 256 bits. -/
theorem scalar_lt (n : Curve.Scalar) : (n : ℕ) < 256 ^ 32 := by
  have horder : Curve.order < 256 ^ 32 := by decide
  exact n.isLt.trans horder

/-- And what is written for a scalar is its shortest form. -/
theorem isContents_integerContents (n : Curve.Scalar) :
    IsContents (integerContents n) ∧ Bytes.toNat (integerContents n) = n := by
  have hlt := scalar_lt n
  have hvalue : Bytes.toNat (Bytes.ofNat 33 n) = n :=
    Bytes.toNat_ofNat_of_lt (hlt.trans (by decide))
  have hlen : (Bytes.ofNat 33 n).length = 33 := Bytes.length_ofNat 33 n
  -- There is a byte to spare, so the first is zero.
  have hfirst : ∃ x rest, Bytes.ofNat 33 n = x :: rest ∧ x < 0x80 := by
    cases hb : Bytes.ofNat 33 n with
    | nil =>
      rw [hb] at hlen
      cases hlen
    | cons x rest =>
      rw [hb, Bytes.toNat_cons] at hvalue
      rw [hb, List.length_cons, Nat.succ_inj] at hlen
      rw [hlen] at hvalue
      have hx : x.toNat = 0 := by omega
      refine ⟨x, rest, rfl, UInt8.lt_iff_toNat_lt.mpr ?_⟩
      rw [hx]
      decide
  obtain ⟨hcontents, htrim⟩ := isContents_trim hfirst
  exact ⟨hcontents, htrim.trans hvalue⟩

theorem length_integerContents (n : Curve.Scalar) : (integerContents n).length ≤ 33 := by
  obtain ⟨hcontents, hvalue⟩ := isContents_integerContents n
  exact length_le_of_isContents hcontents (by rw [hvalue]; exact scalar_lt n)

/-! ## Lengths -/

/-- A length below 128 is read from one byte, -/
theorem readLength?_cons {n : ℕ} (h : n < 128) (rest : Bytes) :
    readLength? (UInt8.ofNat n :: rest) = some (n, rest) := by
  have hbyte : (UInt8.ofNat n).toNat = n := by
    rw [UInt8.toNat_ofNat']
    omega
  have hlt : UInt8.ofNat n < 0x80 := by
    rw [UInt8.lt_iff_toNat_lt, hbyte]
    exact h
  rw [readLength?, if_pos hlt, hbyte]

/-- and in no other way, since the long form has to be of use. -/
theorem eq_cons_of_readLength? {b rest : Bytes} {n : ℕ} (h : readLength? b = some (n, rest))
    (hn : n < 128) : b = UInt8.ofNat n :: rest := by
  cases b with
  | nil => cases h
  | cons x tail =>
    rw [readLength?] at h
    split at h
    · cases h
      rw [UInt8.ofNat_toNat]
    · dsimp only at h
      split at h
      · cases h
      · rename_i hlong
        simp only [Option.some.injEq, Prod.mk.injEq] at h
        simp only [not_or] at hlong
        omega

/-! ## Scalars -/

/-- Contents that have the value of a scalar denote it. -/
theorem scalarOf_eq {c : Bytes} {n : Curve.Scalar} (h : IsContents c)
    (hvalue : Bytes.toNat c = n) : scalarOf c = n := by
  obtain ⟨-, x, rest, rfl, hx⟩ := h
  have hlt : Bytes.toNat (x :: rest) < Curve.order := hvalue ▸ n.isLt
  unfold scalarOf
  dsimp only
  rw [dif_pos ⟨hx, hlt⟩]
  exact Fin.ext hvalue

/-- What is no scalar reads as zero, so shortest contents that read as
anything else are those of a scalar. -/
theorem isContents_of_scalarOf {c : Bytes} (hshort : isShortest c = true)
    (h : scalarOf c ≠ 0) : IsContents c ∧ Bytes.toNat c = scalarOf c := by
  unfold scalarOf at h ⊢
  dsimp only at h ⊢
  split at h
  · exact absurd rfl h
  · rename_i sign rest
    split at h
    · rename_i hrange
      refine ⟨⟨hshort, sign, rest, rfl, hrange.1⟩, ?_⟩
      rw [dif_pos hrange]
    · exact absurd rfl h

/-- A scalar is read back from its integer. -/
theorem readScalar?_tagged (n : Curve.Scalar) (rest : Bytes) :
    readScalar? (tagged 0x02 (integerContents n) ++ rest) = some (n, rest) := by
  have hlen := length_integerContents n
  obtain ⟨hcontents, hvalue⟩ := isContents_integerContents n
  rw [tagged, List.cons_append, List.cons_append, readScalar?, if_pos rfl,
    readLength?_cons (by omega)]
  simp [hcontents.1, scalarOf_eq hcontents hvalue]

/-- **An integer that reads as a scalar other than zero** is the one that
is written for it. -/
theorem eq_tagged_of_readScalar? {b rest : Bytes} {n : Curve.Scalar}
    (h : readScalar? b = some (n, rest)) (hn : n ≠ 0) :
    b = tagged 0x02 (integerContents n) ++ rest := by
  cases b with
  | nil => cases h
  | cons tag tail =>
    rw [readScalar?] at h
    split at h
    · rename_i htag
      split at h
      · cases h
      · rename_i length after hread
        dsimp only at h
        split at h
        · rename_i htaken
          obtain ⟨hfits, hshort⟩ := htaken
          obtain ⟨rfl, hrest⟩ := Prod.mk.inj (Option.some.inj h)
          obtain ⟨hcontents, hvalue⟩ := isContents_of_scalarOf hshort hn
          have hwritten : after.take length =
              integerContents (scalarOf (after.take length)) := by
            have hbound : Bytes.toNat (after.take length) < 256 ^ 32 := hvalue ▸ scalar_lt _
            rw [← hvalue]
            exact eq_integerContents hcontents hbound
          have hafter : after = integerContents (scalarOf (after.take length)) ++ rest := by
            rw [← hwritten, ← hrest, List.take_append_drop]
          have hlength : length = (integerContents (scalarOf (after.take length))).length := by
            rw [← hwritten, List.length_take]
            omega
          -- So short an integer has a short length, and that has one form.
          have hsize := length_integerContents (scalarOf (after.take length))
          rw [htag, eq_cons_of_readLength? hread (by omega)]
          rw [tagged, List.cons_append, List.cons_append, ← hafter, ← hlength]
        · cases h
    · cases h

/-! ## Signatures -/

theorem length_tagged (tag : UInt8) (c : Bytes) : (tagged tag c).length = c.length + 2 := by
  simp [tagged]

/-- **A signature is read back from its encoding.** -/
theorem ofDer?_toDer (sig : Signature) : ofDer? sig.toDer = some sig := by
  have hlenr := length_integerContents sig.r
  have hlens := length_integerContents sig.s
  have hreads : readScalar? (tagged 0x02 (integerContents sig.s)) = some (sig.s, []) := by
    simpa using readScalar?_tagged sig.s []
  rw [toDer, tagged, ofDer?, if_pos rfl, readLength?_cons]
  · simp only [if_true, readScalar?_tagged sig.r, hreads]
  · rw [List.length_append, length_tagged, length_tagged]
    omega

/-- **And it has no other**, unless a part of it is zero. -/
theorem eq_toDer_of_ofDer? {b : Bytes} {sig : Signature} (h : ofDer? b = some sig)
    (hr : sig.r ≠ 0) (hs : sig.s ≠ 0) : b = sig.toDer := by
  cases b with
  | nil => cases h
  | cons tag tail =>
    rw [ofDer?] at h
    split at h
    · rename_i htag
      split at h
      · cases h
      · rename_i length body hread
        split at h
        · rename_i hcovers
          split at h
          · cases h
          · rename_i r afterR hreadr
            split at h
            · rename_i s hreads
              cases h
              have hbody := eq_tagged_of_readScalar? hreadr hr
              rw [eq_tagged_of_readScalar? hreads hs, List.append_nil] at hbody
              have hsizer := length_integerContents r
              have hsizes := length_integerContents s
              have hsize : body.length < 128 := by
                rw [hbody, List.length_append, length_tagged, length_tagged]
                omega
              rw [htag, eq_cons_of_readLength? hread (by omega), hcovers, hbody]
              rfl
            · cases h
        · cases h
    · cases h

/-! ## Low signatures -/

theorem isLow_iff {sig : Signature} : sig.isLow = true ↔ (sig.s : ℕ) ≤ (Curve.order - 1) / 2 := by
  rw [isLow, decide_eq_true_iff]

/-- The twin of the twin is the signature. -/
theorem twin_twin (sig : Signature) : sig.twin.twin = sig := by
  rw [twin, twin, neg_neg]

/-- **Of a signature and its twin just one is low**, since the order is odd and
so no scalar but zero is its own opposite. -/
theorem isLow_twin {sig : Signature} (hs : sig.s ≠ 0) : sig.twin.isLow = !sig.isLow := by
  have hodd : Curve.order % 2 = 1 := by decide
  have hlt := sig.s.isLt
  have htwin : (sig.twin.s : ℕ) = Curve.order - sig.s := by rw [twin, Fin.val_neg, if_neg hs]
  rw [isLow, isLow, ← decide_not, decide_eq_decide, htwin]
  omega

/-- Zero is low, so a high signature has no zero for `s`. -/
theorem s_ne_zero_of_isLow_eq_false {sig : Signature} (h : sig.isLow = false) : sig.s ≠ 0 := by
  intro hzero
  rw [isLow, hzero] at h
  cases h

/-- **What is normalized is low.** -/
theorem isLow_normalize (sig : Signature) : sig.normalize.isLow = true := by
  unfold normalize
  split
  · assumption
  · rename_i hhigh
    rw [Bool.not_eq_true] at hhigh
    rw [isLow_twin (s_ne_zero_of_isLow_eq_false hhigh), hhigh]
    rfl

/-- **To be low is to be normal**: comparing a signature with what it is
normalized to is a test for it. -/
theorem normalize_eq_self_iff {sig : Signature} : sig.normalize = sig ↔ sig.isLow = true := by
  constructor
  · intro h
    rw [← h]
    exact isLow_normalize sig
  · intro hlow
    rw [normalize, if_pos hlow]

/-- **What is normalized to a signature** is the signature or its twin. -/
theorem normalize_eq_iff {sig d : Signature} (hlow : d.isLow = true) (hs : d.s ≠ 0) :
    sig.normalize = d ↔ sig = d ∨ sig = d.twin := by
  constructor
  · intro h
    unfold normalize at h
    split at h
    · exact .inl h
    · rw [← h, twin_twin]
      exact .inr rfl
  · rintro (rfl | rfl)
    · exact normalize_eq_self_iff.mpr hlow
    · have hhigh : ¬ d.twin.isLow = true := by
        rw [isLow_twin hs, hlow]
        exact Bool.false_ne_true
      rw [normalize, if_neg hhigh, twin_twin]

/-! ## Decoding -/

/-- Where a low signature is asked for, one is decoded that reads so. -/
theorem decode_true_eq_ok_iff {b : Bytes} {d : Signature} :
    decode true b = .ok d ↔ ofDer? b = some d ∧ d.isLow = true := by
  unfold decode
  cases ofDer? b with
  | none => simp
  | some sig =>
    cases hlow : sig.isLow with
    | true =>
      simp only [hlow, if_true, Except.ok.injEq, Option.some.injEq]
      constructor
      · rintro rfl
        exact ⟨rfl, hlow⟩
      · exact fun h => h.1
    | false =>
      simp only [hlow, Bool.false_eq_true, if_false, if_true, reduceCtorEq, false_iff, not_and,
        Option.some.injEq]
      rintro rfl
      rw [hlow]
      exact Bool.false_ne_true

/-- Where none is, the one that is decoded is the low one of the two. -/
theorem decode_false_eq_ok_iff {b : Bytes} {d : Signature} :
    decode false b = .ok d ↔ ∃ sig, ofDer? b = some sig ∧ sig.normalize = d := by
  unfold decode
  cases ofDer? b with
  | none => simp
  | some sig =>
    cases hlow : sig.isLow with
    | true => simp [hlow, normalize]
    | false => simp [hlow]

/-- **What is decoded is low**, asked for or not. -/
theorem isLow_of_decode {low : Bool} {b : Bytes} {d : Signature} (h : decode low b = .ok d) :
    d.isLow = true := by
  cases low with
  | true => exact (decode_true_eq_ok_iff.mp h).2
  | false =>
    obtain ⟨sig, -, rfl⟩ := decode_false_eq_ok_iff.mp h
    exact isLow_normalize sig

/-- **A signature is refused for being high** exactly when it reads so. -/
theorem decode_true_eq_highS_iff {b : Bytes} :
    decode true b = .error .highS ↔ ∃ sig, ofDer? b = some sig ∧ sig.isLow = false := by
  unfold decode
  cases ofDer? b with
  | none => simp
  | some sig => cases hlow : sig.isLow <;> simp [hlow]

/-- **A low signature is decoded from its encoding**, under any rule. -/
theorem decode_toDer {sig : Signature} (hlow : sig.isLow = true) (low : Bool) :
    decode low sig.toDer = .ok sig := by
  cases low with
  | true => exact decode_true_eq_ok_iff.mpr ⟨ofDer?_toDer sig, hlow⟩
  | false =>
    exact decode_false_eq_ok_iff.mpr ⟨sig, ofDer?_toDer sig, normalize_eq_self_iff.mpr hlow⟩

/-- **A signature has one encoding up to the sign of `s`.** Whatever is
decoded is low. If neither of its parts is zero, then where a low signature
is asked for its own encoding is the only one that is decoded to it, and
where none is there are just two, its own and that of its twin. And a
signature is refused for being high exactly when it reads with an `s` in
the upper half. -/
theorem encodings_up_to_negation :
    (∀ (low : Bool) (b : Bytes) (d : Signature), decode low b = .ok d →
      (d.s : ℕ) ≤ (Curve.order - 1) / 2) ∧
      (∀ d : Signature, d.r ≠ 0 → d.s ≠ 0 → (∃ low b, decode low b = .ok d) →
        (∀ b, decode true b = .ok d ↔ b = d.toDer) ∧
          (∀ b, decode false b = .ok d ↔ b = d.toDer ∨ b = toDer ⟨d.r, -d.s⟩) ∧
          d.toDer ≠ toDer ⟨d.r, -d.s⟩) ∧
      ∀ b, decode true b = .error .highS ↔
        ∃ sig, ofDer? b = some sig ∧ (Curve.order - 1) / 2 < (sig.s : ℕ) := by
  refine ⟨fun low b d h => isLow_iff.mp (isLow_of_decode h), ?_, fun b => ?_⟩
  · rintro d hr hs ⟨low, b₀, hdecode⟩
    have hlow := isLow_of_decode hdecode
    have htwin : d.twin.s ≠ 0 := neg_ne_zero.mpr hs
    refine ⟨fun b => ?_, fun b => ?_, fun heq => ?_⟩
    · rw [decode_true_eq_ok_iff]
      constructor
      · rintro ⟨h, -⟩
        exact eq_toDer_of_ofDer? h hr hs
      · rintro rfl
        exact ⟨ofDer?_toDer d, hlow⟩
    · simp only [decode_false_eq_ok_iff, normalize_eq_iff hlow hs]
      constructor
      · rintro ⟨sig, h, rfl | rfl⟩
        · exact .inl (eq_toDer_of_ofDer? h hr hs)
        · exact .inr (eq_toDer_of_ofDer? h hr htwin)
      · rintro (rfl | rfl)
        · exact ⟨d, ofDer?_toDer d, .inl rfl⟩
        · exact ⟨d.twin, ofDer?_toDer d.twin, .inr rfl⟩
    · -- Both encodings would read as one signature, which is low and is not.
      have hself : some d = some d.twin := by
        rw [← ofDer?_toDer d, heq]
        exact ofDer?_toDer d.twin
      have hother := isLow_twin hs
      rw [← Option.some.inj hself, hlow] at hother
      cases hother
  · rw [decode_true_eq_highS_iff]
    refine exists_congr fun sig => and_congr_right fun _ => ?_
    rw [← Bool.not_eq_true, isLow_iff, Nat.not_le]

/-- The pair of ones: eight bytes and no others are decoded to it where
low signatures are asked for. -/
theorem encodings_up_to_negation_of_ones :
    (∃ low b, decode low b = .ok ⟨1, 1⟩) ∧
      ∀ b, decode true b = .ok ⟨1, 1⟩ ↔ b = [0x30, 6, 0x02, 1, 1, 0x02, 1, 1] := by
  have hdecode : ∃ low b, decode low b = .ok ⟨1, 1⟩ :=
    ⟨true, [0x30, 6, 0x02, 1, 1, 0x02, 1, 1], rfl⟩
  exact ⟨hdecode, (encodings_up_to_negation.2.1 ⟨1, 1⟩ (by decide) (by decide) hdecode).1⟩

end Signature

end SpendScript
