import SpendScript.Proofs.Curve.Encoding
/-!
# The curve — the forms of a key

A key is read from three byte strings and from no others: its compressed,
its uncompressed and its hybrid form (`parse?_eq_some_iff`). Where both
coordinates are given this is plain. Where only `x` is, the parity that is
asked for must be that of the `y` that is found, and so `y` must not be
zero; it never is, since the curve has no point there (`rhs_ne_zero`).

Strict decoding looks at the first byte and the length before anything
else. What it lets through are the first two forms, and what it refuses of
the keys is the third, which says no more than the second.
-/

namespace SpendScript

namespace Curve

/-- **No point of the curve has a zero for `y`.** Its `x` would be a cube
root of minus seven, and minus seven is not a cube: its power to a third of
Fermat's exponent is not one. -/
theorem rhs_ne_zero (x : ℕ) : rhs x ≠ 0 := by
  intro h
  have hsum : (x : ZMod prime) ^ 3 + ((7 : ℕ) : ZMod prime) = 0 := by
    have hdvd := (ZMod.natCast_eq_zero_iff _ _).mpr (Nat.dvd_of_mod_eq_zero h)
    rw [Nat.cast_add, Nat.cast_mul, ZMod.natCast_mod, Nat.cast_mul] at hdvd
    rw [← hdvd, pow_succ, pow_two]
  have hcube : (x : ZMod prime) ^ 3 = ((prime - 7 : ℕ) : ZMod prime) := by
    rw [cast_opposite (by decide)]
    exact eq_neg_of_add_eq_zero_left hsum
  have hx : (x : ZMod prime) ≠ 0 := by
    intro hzero
    rw [hzero, zero_pow (by decide), zero_add, ZMod.natCast_eq_zero_iff] at hsum
    exact absurd (Nat.le_of_dvd (by decide) hsum) (by decide)
  have hone : ((prime - 7 : ℕ) : ZMod prime) ^ ((prime - 1) / 3) = 1 := by
    have hexp : 3 * ((prime - 1) / 3) = prime - 1 := by decide
    rw [← hcube, ← pow_mul, hexp, ZMod.pow_card_sub_one_eq_one hx]
  exact absurd ((pow_eq_one_iff_powMod (by decide) (by decide)).mp hone) (by decide +kernel)

end Curve

namespace PublicKey

/-- The hybrid form: 65 bytes, of which the first tells the parity of the
`y` that follows. -/
def hybrid (k : PublicKey) : Bytes :=
  (if k.y % 2 = 0 then 0x06 else 0x07) :: (Bytes.ofNat 32 k.x ++ Bytes.ofNat 32 k.y)

/-! ## What is read -/

theorem y_ne_zero (k : PublicKey) : k.y ≠ 0 := by
  intro hzero
  have hcurve := k.onCurve.2.2
  rw [hzero] at hcurve
  exact Curve.rhs_ne_zero k.x hcurve.symm

/-- **From `x` and a parity** the one key is found that has them. -/
theorem ofX?_eq_some_iff {odd : Bool} {x : ℕ} {k : PublicKey} :
    ofX? odd x = some k ↔ k.x = x ∧ (k.y % 2 == 1) = odd := by
  constructor
  · intro h
    unfold ofX? at h
    split at h
    · cases h
    · rename_i y hroot
      obtain ⟨hx, hy⟩ := ofXY?_eq_some_iff.mp h
      refine ⟨hx, ?_⟩
      split at hy
      · rename_i hparity
        rw [hy]
        exact beq_iff_eq.mp hparity
      · rename_i hparity
        -- A root that is not zero has an opposite of the other parity.
        have hlt := Curve.lt_of_sqrt?_eq_some hroot
        have hpos : 0 < y := Nat.pos_of_ne_zero fun hzero => k.y_ne_zero (by
          rw [hy, hzero, Nat.sub_zero, Nat.mod_self])
        have hsub : (Curve.prime - y) % Curve.prime = Curve.prime - y :=
          Nat.mod_eq_of_lt (by omega)
        rw [hy, hsub, Curve.odd_opposite hlt]
        exact (Bool.eq_not_of_ne fun heq => hparity (beq_iff_eq.mpr heq.symm)).symm
  · rintro ⟨rfl, rfl⟩
    exact ofX?_self k

/-- As many bytes as there is room for are written back from their number. -/
theorem ofNat_toNat_of_length {width : ℕ} {b : Bytes} (h : b.length = width) :
    Bytes.ofNat width (Bytes.toNat b) = b := by
  rw [Bytes.ofNat_toNat h.le, h, Nat.sub_self, List.replicate_zero, List.nil_append]

/-- What is read as an `x` behind a byte for a parity is the compressed
form of the key that is found. -/
theorem eq_compressed_of_ofX? {odd : Bool} {rest : Bytes} {k : PublicKey}
    (hlen : rest.length = 32) (h : ofX? odd (Bytes.toNat rest) = some k) :
    (if odd then 0x03 else 0x02) :: rest = k.compressed := by
  obtain ⟨hx, hparity⟩ := ofX?_eq_some_iff.mp h
  rw [compressed, hx, ofNat_toNat_of_length hlen]
  rcases Nat.mod_two_eq_zero_or_one k.y with hy | hy
  · rw [← hparity, hy]
    rfl
  · rw [← hparity, hy]
    rfl

/-- And what is read as both coordinates is one of the other two forms. -/
theorem eq_uncompressed_or_hybrid_of_ofXY? {tag : UInt8} {rest : Bytes} {k : PublicKey}
    (hlen : rest.length = 64)
    (h : ofXY? (Bytes.toNat (rest.take 32)) (Bytes.toNat (rest.drop 32)) = some k)
    (htag : tag = 0x04 ∨ (tag = 0x06 ∧ k.y % 2 = 0) ∨ (tag = 0x07 ∧ k.y % 2 = 1)) :
    tag :: rest = k.uncompressed ∨ tag :: rest = k.hybrid := by
  obtain ⟨hx, hy⟩ := ofXY?_eq_some_iff.mp h
  have hrest : rest = Bytes.ofNat 32 k.x ++ Bytes.ofNat 32 k.y := by
    rw [hx, hy, ofNat_toNat_of_length (by simp [hlen]), ofNat_toNat_of_length (by simp [hlen]),
      List.take_append_drop]
  rw [uncompressed, hybrid, ← hrest]
  rcases htag with rfl | ⟨rfl, hparity⟩ | ⟨rfl, hparity⟩
  · exact .inl rfl
  · exact .inr (by rw [if_pos hparity])
  · exact .inr (by rw [if_neg (by omega)])

/-- Both coordinates are read as the key, behind `04` and behind the byte
that tells the parity of `y`. -/
theorem parse?_coordinates {tag : UInt8} {k : PublicKey}
    (htag : tag = 0x04 ∨ (tag = 0x06 ∧ k.y % 2 = 0) ∨ (tag = 0x07 ∧ k.y % 2 = 1)) :
    parse? (tag :: (Bytes.ofNat 32 k.x ++ Bytes.ofNat 32 k.y)) = some k := by
  have hfits : Curve.prime < 256 ^ 32 := by decide
  have hlen := Bytes.length_ofNat 32 k.x
  simp only [parse?, List.length_append, Bytes.length_ofNat, List.take_left' hlen,
    List.drop_left' hlen, Bytes.toNat_ofNat_of_lt (lt_trans k.onCurve.1 hfits),
    Bytes.toNat_ofNat_of_lt (lt_trans k.onCurve.2.1 hfits), if_pos htag]
  exact ofXY?_eq_some_iff.mpr ⟨rfl, rfl⟩

/-- **A key is read from its three forms and from nothing else.** -/
theorem parse?_eq_some_iff {b : Bytes} {k : PublicKey} :
    parse? b = some k ↔ b = k.compressed ∨ b = k.uncompressed ∨ b = k.hybrid := by
  constructor
  · intro h
    cases b with
    | nil => cases h
    | cons tag rest =>
      simp only [parse?] at h
      split at h
      · rename_i hlen
        split at h
        · rename_i htag
          rw [htag]
          exact .inl (eq_compressed_of_ofX? hlen h)
        · split at h
          · rename_i htag
            rw [htag]
            exact .inl (eq_compressed_of_ofX? hlen h)
          · cases h
      · split at h
        · rename_i hlen
          split at h
          · rename_i htag
            rw [← (ofXY?_eq_some_iff.mp h).2] at htag
            exact .inr (eq_uncompressed_or_hybrid_of_ofXY? hlen h htag)
          · cases h
        · cases h
  · rintro (rfl | rfl | rfl)
    · exact parse?_compressed k
    · exact parse?_coordinates (.inl rfl)
    · refine parse?_coordinates (.inr ?_)
      rcases Nat.mod_two_eq_zero_or_one k.y with hparity | hparity
      · simp [hparity]
      · simp [hparity]

/-! ## What strict decoding lets through -/

theorem decode_of_isPlain {b : Bytes} (h : isPlain b = true) : decode true b = decode false b := by
  rw [decode, decode, h]
  rfl

theorem decode_of_not_isPlain {b : Bytes} (h : isPlain b = false) :
    decode true b = .error .keyForm := by
  rw [decode, h]
  rfl

/-- Without the strict rules every form is decoded. -/
theorem decode_false_eq_ok_iff {b : Bytes} {k : PublicKey} :
    decode false b = .ok k ↔ b = k.compressed ∨ b = k.uncompressed ∨ b = k.hybrid := by
  rw [← parse?_eq_some_iff, decode]
  cases parse? b with
  | none => simp
  | some k' => simp

theorem isPlain_uncompressed (k : PublicKey) : isPlain k.uncompressed = true := by
  simp [isPlain, uncompressed]

/-- The hybrid form is neither, by its first byte. -/
theorem isPlain_hybrid (k : PublicKey) : isPlain k.hybrid = false := by
  unfold hybrid
  split
  · rfl
  · rfl

/-- **With them, two forms are.** -/
theorem decode_true_eq_ok_iff {b : Bytes} {k : PublicKey} :
    decode true b = .ok k ↔ b = k.compressed ∨ b = k.uncompressed := by
  constructor
  · intro h
    cases hplain : isPlain b with
    | false =>
      rw [decode_of_not_isPlain hplain] at h
      cases h
    | true =>
      rw [decode_of_isPlain hplain, decode_false_eq_ok_iff] at h
      obtain hform | hform | hform := h
      · exact .inl hform
      · exact .inr hform
      · rw [hform, isPlain_hybrid] at hplain
        cases hplain
  · rintro (rfl | rfl)
    · rw [decode_of_isPlain (isPlain_compressed k), decode_false_eq_ok_iff]
      exact .inl rfl
    · rw [decode_of_isPlain (isPlain_uncompressed k), decode_false_eq_ok_iff]
      exact .inr (.inl rfl)

/-- The first byte tells the hybrid form from the other two. -/
theorem head?_hybrid (k : PublicKey) :
    k.hybrid.head? = some 0x06 ∨ k.hybrid.head? = some 0x07 := by
  unfold hybrid
  split
  · exact .inl rfl
  · exact .inr rfl

theorem head?_of_isPlain {b : Bytes} (h : isPlain b = true) :
    b.head? ≠ some 0x06 ∧ b.head? ≠ some 0x07 := by
  refine ⟨fun hhead => ?_, fun hhead => ?_⟩
  · obtain ⟨rest, rfl⟩ := List.head?_eq_some_iff.mp hhead
    cases h
  · obtain ⟨rest, rfl⟩ := List.head?_eq_some_iff.mp hhead
    cases h

/-- **Strict decoding refuses the hybrid forms and nothing else.** It gives
a key exactly when decoding without the strict rules gives it and the first
byte is none that starts a hybrid form. A key that it refuses is refused
for its form, is 65 bytes with such a first byte, and with `04` in its
place is decoded under the strict rules as the same key. Bytes that have
the first byte and the length of one of the other two forms are decoded as
they are without the strict rules, with the same error where there is one,
and all others are refused for their form, whatever else may be wrong. -/
theorem strict_refuses_hybrid (b : Bytes) :
    (∀ k, decode true b = .ok k ↔
      decode false b = .ok k ∧ b.head? ≠ some 0x06 ∧ b.head? ≠ some 0x07) ∧
      (∀ k e, decode false b = .ok k → decode true b = .error e →
        e = .keyForm ∧ b.length = 65 ∧ (b.head? = some 0x06 ∨ b.head? = some 0x07) ∧
          decode true (b.set 0 0x04) = .ok k) ∧
      (isPlain b = true → decode true b = decode false b) ∧
      (isPlain b = false → decode true b = .error .keyForm) := by
  refine ⟨fun k => ?_, fun k e hfalse htrue => ?_, decode_of_isPlain, decode_of_not_isPlain⟩
  · rw [decode_true_eq_ok_iff, decode_false_eq_ok_iff]
    constructor
    · rintro (rfl | rfl)
      · exact ⟨.inl rfl, head?_of_isPlain k.isPlain_compressed⟩
      · exact ⟨.inr (.inl rfl), head?_of_isPlain k.isPlain_uncompressed⟩
    · rintro ⟨hform, hsix, hseven⟩
      rcases hform with hform | hform | rfl
      · exact .inl hform
      · exact .inr hform
      · rcases k.head?_hybrid with hhead | hhead
        · exact absurd hhead hsix
        · exact absurd hhead hseven
  · have hhybrid : b = k.hybrid := by
      obtain hform | hform | hform := decode_false_eq_ok_iff.mp hfalse
      · rw [decode_true_eq_ok_iff.mpr (.inl hform)] at htrue
        cases htrue
      · rw [decode_true_eq_ok_iff.mpr (.inr hform)] at htrue
        cases htrue
      · exact hform
    subst hhybrid
    rw [decode_of_not_isPlain k.isPlain_hybrid] at htrue
    cases htrue
    refine ⟨rfl, ?_, k.head?_hybrid, decode_true_eq_ok_iff.mpr (.inr rfl)⟩
    simp [hybrid]

/-- The hybrid form of the point that generates the group, and it with `04`
for its first byte. Bytes that are no key by their length are refused for
their form, and a compressed form with an `x` that is too large is not. -/
theorem strict_refuses_hybrid_of_generator :
    let k : PublicKey := ⟨Curve.Point.generator.x, Curve.Point.generator.y, by decide⟩
    let b : Bytes := 0x06 :: (Bytes.ofNat 32 k.x ++ Bytes.ofNat 32 k.y)
    decode false b = .ok k ∧ decode true b = .error .keyForm ∧ b.length = 65 ∧
      decode true (b.set 0 0x04) = .ok k ∧
      isPlain [0x04] = false ∧ decode true [0x04] = .error .keyForm ∧
      isPlain (0x02 :: List.replicate 32 0xff) = true ∧
      decode true (0x02 :: List.replicate 32 0xff) =
        decode false (0x02 :: List.replicate 32 0xff) := by
  intro k b
  have hfalse : decode false b = .ok k := by decide +kernel
  have htrue : decode true b = .error .keyForm := by decide +kernel
  obtain ⟨-, hlen, -, hreplaced⟩ := (strict_refuses_hybrid b).2.1 k .keyForm hfalse htrue
  exact ⟨hfalse, htrue, hlen, hreplaced, rfl, (strict_refuses_hybrid [0x04]).2.2.2 rfl, rfl,
    (strict_refuses_hybrid (0x02 :: List.replicate 32 0xff)).2.2.1 rfl⟩

end PublicKey

end SpendScript
