import WorkflowCanvas.Proofs.Decimal.Rounding
/-!
# Sums of floats

A sum that is packed keeps its value, unless that is too large: then it becomes
infinite (`repacked_value`). So the value of a sum with a finite float is the
exact one, rounded and cut off at the infinities, where a number that is infinite
stays what it is (`sum_value`). Hence to add a finite float, or to subtract one,
keeps the order (`add_mono`, `sub_mono`).
-/


namespace WorkflowCanvas

namespace Decimal

open Float.Model (Format UnpackedFloat)
open Float.Model.UnpackedFloat (Sign Accuracy packComponents unpackSign)

variable {u v : UnpackedFloat} {z : ℤ} {s : Sign} {e : ℤ}

/-! ## Packed floats -/

@[simp] theorem unpackSign_packComponents {f : Format} {s : Sign} {exponent : BitVec f.exponentBits}
    {mantissa : BitVec f.mantissaBitsWithoutImplicit} :
    unpackSign (packComponents f s exponent mantissa) = s.toBitVec := by
  ext i hi
  obtain rfl : i = 0 := by omega
  simp [unpackSign, packComponents, BitVec.getLsbD_append, BitVec.getElem_append]

@[simp] theorem ofBitVec_toBitVec (s : Sign) : Sign.ofBitVec s.toBitVec = s := by
  cases s <;> rfl

theorem finite_congr {m n : ℕ} {e f : ℤ} (s : Sign) (hm : 0 < m) (hn : 0 < n) (h : m = n)
    (he : e = f) : UnpackedFloat.finite s m e hm = .finite s n f hn := by
  subst h he
  rfl

/-- What is packed and unpacked again. -/
def repacked (u : UnpackedFloat) : UnpackedFloat :=
  UnpackedFloat.unpack Format.binary64 (UnpackedFloat.pack Format.binary64 u)

theorem repacked_infinity (s : Sign) : repacked (.infinity s) = .infinity s := by
  cases s <;> rfl

theorem repacked_zero (s : Sign) : repacked (.zero s) = .zero s := by
  cases s <;> rfl

/-- Components are unpacked as they are packed. -/
theorem unpack_packComponents (s : Sign) (exponent : BitVec 11) (mantissa : BitVec 52) :
    UnpackedFloat.unpack Format.binary64 (packComponents Format.binary64 s exponent mantissa) =
      if exponent = -1#11 then if mantissa = 0#52 then .infinity s else .notANumber
      else if exponent = 0#11 then
        if h : mantissa = 0#52 then .zero s
        else .finite s mantissa.toNat (exponent.toNat - 1074)
          (Nat.pos_of_ne_zero fun hzero => h (BitVec.eq_of_toNat_eq hzero))
      else .finite s (1#1 ++ mantissa).toNat (exponent.toNat - 1075)
        (by rw [toNat_one_append]; omega) := by
  rw [UnpackedFloat.unpack]
  simp only [UnpackedFloat.unpackExponent_packComponents,
    UnpackedFloat.unpackMantissa_packComponents, unpackSign_packComponents, ofBitVec_toBitVec]
  have hbias : (Format.binary64.exponentBias : ℤ) + (52 : ℕ) = 1075 := rfl
  simp only [hbias]
  split
  · rfl
  · split
    · split
      · rfl
      · exact finite_congr s _ _ rfl (by omega)
    · rfl

/-- A mantissa that fills its bits loses the first when it is packed, and gets it
back. -/
theorem unpack_normal {m : ℕ} (hpos : 0 < m) (hleast : -1074 ≤ e) (hlarge : e < 972)
    (hnormal : 2 ^ 52 ≤ m) (hbits : m < 2 ^ 53) :
    UnpackedFloat.unpack Format.binary64 (packComponents Format.binary64 s
      (BitVec.ofNat 11 (e + 1075).toNat) (BitVec.ofNat 52 m)) = .finite s m e hpos := by
  have hexponent : (BitVec.ofNat 11 (e + 1075).toNat).toNat = (e + 1075).toNat := by
    rw [BitVec.toNat_ofNat, Nat.mod_eq_of_lt (by omega)]
  have hmantissa : (BitVec.ofNat 52 m).toNat = m - 2 ^ 52 := by
    rw [BitVec.toNat_ofNat, Nat.mod_eq_sub_mod hnormal, Nat.mod_eq_of_lt (by omega)]
  have hne : ∀ b : BitVec 11, (e + 1075).toNat ≠ b.toNat →
      BitVec.ofNat 11 (e + 1075).toNat ≠ b := by
    intro b hb heq
    rw [heq] at hexponent
    exact hb hexponent.symm
  rw [unpack_packComponents, if_neg (hne (-1#11) (show _ ≠ 2047 by omega)),
    if_neg (hne 0#11 (show _ ≠ 0 by omega))]
  refine finite_congr s _ _ ?_ ?_
  · rw [toNat_one_append, hmantissa]
    omega
  · rw [hexponent]
    omega

/-- A mantissa that does not fill its bits has the least exponent. -/
theorem unpack_subnormal {m : ℕ} (hpos : 0 < m) (hbits : m < 2 ^ 52) :
    UnpackedFloat.unpack Format.binary64 (packComponents Format.binary64 s 0#11
      (BitVec.ofNat 52 m)) = .finite s m (-1074) hpos := by
  have hmantissa : (BitVec.ofNat 52 m).toNat = m := by
    rw [BitVec.toNat_ofNat, Nat.mod_eq_of_lt hbits]
  have hne : BitVec.ofNat 52 m ≠ 0#52 := by
    intro heq
    rw [heq] at hmantissa
    exact hpos.ne hmantissa
  rw [unpack_packComponents, if_neg (by decide), if_pos rfl, dif_neg hne]
  exact finite_congr s _ _ hmantissa rfl

/-- **A float that has 53 bits is kept, unless its exponent is too large**: then
it becomes infinite. -/
theorem repacked_finite {m : ℕ} (hpos : 0 < m) (hbits : m < 2 ^ 53) (hleast : -1074 ≤ e)
    (hfull : e = -1074 ∨ 2 ^ 52 ≤ m) :
    repacked (.finite s m e hpos) = if 972 ≤ e then .infinity s else .finite s m e hpos := by
  have hbias : (e + Format.binary64.exponentBias + (52 : ℕ)).toNat = (e + 1075).toNat := by
    show (e + (1023 : ℕ) + (52 : ℕ)).toNat = _
    omega
  have hlog : m.log2 + 1 = Format.binary64.mantissaBits ↔ 2 ^ 52 ≤ m := by
    show m.log2 + 1 = 52 + 1 ↔ _
    rw [Nat.add_right_cancel_iff, Nat.log2_eq_iff hpos.ne']
    exact and_iff_left hbits
  rw [repacked, UnpackedFloat.pack]
  simp only [hbias, hlog]
  by_cases hlarge : 972 ≤ e
  · rw [if_pos (by omega), if_pos hlarge]
    exact repacked_infinity s
  · rw [if_neg (by omega), if_neg hlarge]
    by_cases hnormal : 2 ^ 52 ≤ m
    · rw [if_pos hnormal]
      exact unpack_normal hpos hleast (by omega) hnormal hbits
    · obtain rfl := hfull.resolve_right hnormal
      rw [if_neg hnormal]
      exact unpack_subnormal hpos (by omega)

/-! ## Values of sums -/

/-- From so many steps on a float is infinite. -/
def limit : ℕ := 2 ^ 2098

/-- The value of a number of steps, if it is not too large, and else the infinity
at its end. -/
def clamped (z : ℤ) : Extended := if limit ≤ z then ⊤ else if z ≤ -limit then ⊥ else ofSteps z

theorem clamped_mono : Monotone clamped := by
  intro y z h
  unfold clamped
  split_ifs
  · exact le_refl _
  · omega
  · omega
  · exact le_top
  · exact bot_le
  · exact bot_le
  · exact le_top
  · omega
  · exact ofSteps_le_ofSteps.2 h

/-- When a mantissa of 53 bits that is shifted comes to a power of two. -/
theorem two_pow_le_iff {m : ℕ} (i j : ℕ) (hbits : m < 2 ^ 53) (hfull : 53 + j ≤ i ∨ 2 ^ 52 ≤ m) :
    2 ^ i ≤ m * 2 ^ j ↔ i ≤ 52 + j := by
  constructor
  · intro h
    have hlt : m * 2 ^ j < 2 ^ (53 + j) := by
      rw [pow_add]
      exact Nat.mul_lt_mul_of_pos_right hbits (Nat.two_pow_pos _)
    have hexponent : i < 53 + j := (Nat.pow_lt_pow_iff_right (by omega)).1 (h.trans_lt hlt)
    omega
  · intro h
    have hle : 2 ^ (52 + j) ≤ m * 2 ^ j := by
      rw [pow_add]
      exact Nat.mul_le_mul_right _ (hfull.resolve_left (by omega))
    exact (Nat.pow_le_pow_right (by omega) h).trans hle

theorem limit_le_iff {m : ℕ} {e : ℤ} (hbits : m < 2 ^ 53) (hleast : -1074 ≤ e)
    (hfull : e = -1074 ∨ 2 ^ 52 ≤ m) : limit ≤ m * 2 ^ (e + 1074).toNat ↔ 972 ≤ e := by
  rw [limit, two_pow_le_iff 2098 _ hbits (hfull.imp_left fun hleast => by omega)]
  omega

/-- **The value of what is packed.** -/
theorem repacked_value (hu : Canonical u) (hz : steps? u = some z) :
    unpackedValue? (repacked u) = some (clamped z) := by
  have hlimit : 0 < limit := by
    unfold limit
    positivity
  have hvalue := unpackedValue?_eq hu hz
  cases hu with
  | notANumber => cases hz
  | infinity s => cases hz
  | zero s =>
    cases hz
    rw [repacked_zero, hvalue, clamped, if_neg (by omega), if_neg (by omega)]
  | @finite s m e hpos hbits hleast hfull =>
    cases hz
    rw [repacked_finite hpos hbits hleast hfull]
    have hiff := limit_le_iff hbits hleast hfull
    have hn : 0 < m * 2 ^ (e + 1074).toNat := Nat.mul_pos hpos (Nat.two_pow_pos _)
    generalize m * 2 ^ (e + 1074).toNat = n at hiff hn hvalue ⊢
    by_cases hlarge : 972 ≤ e
    · have hle : limit ≤ n := hiff.2 hlarge
      rw [if_pos hlarge, clamped]
      cases s
      · rw [Sign.apply, if_neg (by omega), if_pos (by omega)]
        rfl
      · rw [Sign.apply, if_pos (by omega)]
        rfl
    · have hlt : n < limit := Nat.not_le.1 (mt hiff.1 hlarge)
      rw [if_neg hlarge, hvalue, clamped]
      cases s
      · rw [Sign.apply, if_neg (by omega), if_neg (by omega)]
      · rw [Sign.apply, if_neg (by omega), if_neg (by omega)]

/-- **The value of a sum with a finite float.** An infinity stays, and otherwise
the exact sum is rounded. -/
theorem sum_value (hu : Canonical u) (hv : Canonical v) (hz : steps? v = some z)
    {a : Extended} (ha : unpackedValue? u = some a) :
    unpackedValue? (repacked (UnpackedFloat.add Format.binary64 u v)) = some
      (match steps? u with
      | some y => clamped (rounded (y + z))
      | none => a) := by
  cases hu with
  | notANumber => cases ha
  | infinity s =>
    have hsum : UnpackedFloat.add Format.binary64 (.infinity s) v = .infinity s := by
      cases hv with
      | notANumber => cases hz
      | infinity t => cases hz
      | zero t => rfl
      | finite t => rfl
    rw [hsum, repacked_infinity, ha]
    rfl
  | zero s =>
    obtain ⟨hcanonical, hsteps⟩ := add_steps (.zero s) hv rfl hz
    exact repacked_value hcanonical hsteps
  | finite s hpos hbits hleast hfull =>
    obtain ⟨hcanonical, hsteps⟩ := add_steps (.finite s hpos hbits hleast hfull) hv rfl hz
    exact repacked_value hcanonical hsteps

/-- What has no steps and is a number is infinite. -/
theorem eq_top_or_bot {a : Extended} (hz : steps? u = none) (ha : unpackedValue? u = some a) :
    a = ⊤ ∨ a = ⊥ := by
  cases u with
  | notANumber => cases ha
  | infinity s =>
    cases s
    · cases ha
      exact Or.inr rfl
    · cases ha
      exact Or.inl rfl
  | zero s => cases hz
  | finite s => cases hz

/-- What is packed as a number is one. -/
theorem exists_value_repacked (hu : u ≠ .notANumber) :
    ∃ a, unpackedValue? (repacked u) = some a := by
  cases u with
  | notANumber => exact absurd rfl hu
  | infinity s =>
    rw [repacked_infinity]
    cases s <;> exact ⟨_, rfl⟩
  | zero s =>
    rw [repacked_zero]
    exact ⟨_, rfl⟩
  | finite s m e hpos =>
    rw [repacked, UnpackedFloat.pack]
    simp only
    split
    · show ∃ a, unpackedValue? (repacked (.infinity s)) = some a
      rw [repacked_infinity]
      cases s <;> exact ⟨_, rfl⟩
    · next hsmall =>
      split
      · -- an exponent that is not too large is not the one of the infinities
        rw [unpack_packComponents, if_neg]
        · split
          · split <;> exact ⟨_, rfl⟩
          · exact ⟨_, rfl⟩
        · intro h
          have hexponent := congrArg BitVec.toNat h
          rw [BitVec.toNat_ofNat, Nat.mod_eq_of_lt (by omega)] at hexponent
          have hlargest : (-1#11).toNat = 2 ^ 11 - 1 := rfl
          omega
      · rw [unpack_packComponents, if_neg (by decide), if_pos rfl]
        split <;> exact ⟨_, rfl⟩

theorem roundWithAccuracy_ne_notANumber {m : ℕ} {accuracy : Accuracy} :
    UnpackedFloat.roundWithAccuracy Format.binary64 s m e accuracy ≠ .notANumber := by
  rw [UnpackedFloat.roundWithAccuracy]
  simp only
  intro h
  split at h <;> cases h

/-- A quotient by a finite float other than zero is a number. -/
theorem div_ne_notANumber {m : ℕ} {hm : 0 < m} (hu : u ≠ .notANumber) :
    UnpackedFloat.div Format.binary64 u (.finite s m e hm) ≠ .notANumber := by
  intro h
  cases u with
  | notANumber => exact hu rfl
  | infinity t => cases h
  | zero t => cases h
  | finite t n f hn => exact roundWithAccuracy_ne_notANumber h

/-- **Adding a finite float keeps the order.** -/
theorem sum_mono {u v w : UnpackedFloat} {a b : Extended} (hu : Canonical u) (hv : Canonical v)
    (hw : Canonical w) (hz : steps? w = some z) (ha : unpackedValue? u = some a)
    (hb : unpackedValue? v = some b) (h : a ≤ b) :
    ∃ a' b', unpackedValue? (repacked (UnpackedFloat.add Format.binary64 u w)) = some a' ∧
      unpackedValue? (repacked (UnpackedFloat.add Format.binary64 v w)) = some b' ∧ a' ≤ b' := by
  have hvalue : ∀ {u : UnpackedFloat} {a : Extended} {y : ℤ}, Canonical u → steps? u = some y →
      unpackedValue? u = some a → a = ofSteps y := fun hu hy ha =>
    Option.some.inj (ha.symm.trans (unpackedValue?_eq hu hy))
  refine ⟨_, _, sum_value hu hw hz ha, sum_value hv hw hz hb, ?_⟩
  rcases hx : steps? u with _ | x <;> rcases hy : steps? v with _ | y
  · exact h
  · rw [hvalue hv hy hb] at h
    rcases eq_top_or_bot hx ha with rfl | rfl
    · exact absurd h (not_le.2 (finite_lt_top _))
    · exact bot_le
  · rw [hvalue hu hx ha] at h
    rcases eq_top_or_bot hy hb with rfl | rfl
    · exact le_top
    · exact absurd h (not_le.2 (bot_lt_finite _))
  · rw [hvalue hu hx ha, hvalue hv hy hb, ofSteps_le_ofSteps] at h
    exact clamped_mono (rounded_mono (by omega))

/-! ## Floats -/

section Floats

variable {x y p : Float}

theorem value?_add (x y : Float) : value? (x + y) = unpackedValue?
    (repacked (UnpackedFloat.add Format.binary64 x.toModel.unpack y.toModel.unpack)) :=
  rfl

/-- A difference is the sum with the opposite. -/
theorem value?_sub (x y : Float) : value? (x - y) = unpackedValue?
    (repacked (UnpackedFloat.add Format.binary64 x.toModel.unpack y.toModel.unpack.neg)) := by
  rw [← sub_eq_add]
  rfl

theorem exists_steps (h : x.isFinite = true) : ∃ z, steps? x.toModel.unpack = some z := by
  have hfinite : x.toModel.unpack.isFinite = true := h
  cases hx : x.toModel.unpack with
  | notANumber =>
    rw [hx] at hfinite
    cases hfinite
  | infinity s =>
    rw [hx] at hfinite
    cases hfinite
  | zero s => exact ⟨_, rfl⟩
  | finite s => exact ⟨_, rfl⟩

/-- **Adding a finite float keeps the order.** -/
theorem add_mono (h : x ≤ y) (hp : p.isFinite = true) : x + p ≤ y + p := by
  obtain ⟨a, b, ha, hb, hab⟩ := le_iff.1 h
  obtain ⟨z, hz⟩ := exists_steps hp
  exact le_iff.2 (sum_mono (canonical_unpack _) (canonical_unpack _) (canonical_unpack _) hz
    ha hb hab)

/-- **Subtracting a finite float keeps the order.** -/
theorem sub_mono (h : x ≤ y) (hp : p.isFinite = true) : x - p ≤ y - p := by
  obtain ⟨a, b, ha, hb, hab⟩ := le_iff.1 h
  obtain ⟨z, hz⟩ := exists_steps hp
  rw [le_iff, value?_sub, value?_sub]
  exact sum_mono (canonical_unpack _) (canonical_unpack _) (canonical_unpack _).neg (steps?_neg hz)
    ha hb hab

/-- The order of the summands makes no difference. -/
theorem sum_comm (x y : Float) : x + y = y + x := by
  show Float.ofModel (.pack (UnpackedFloat.add _ _ _)) = .ofModel (.pack (UnpackedFloat.add _ _ _))
  rw [unpacked_add_comm]

/-! ## What stays a number -/

theorem isNaN_of_isFinite (h : x.isFinite = true) : x.isNaN = false := by
  obtain ⟨z, hz⟩ := exists_steps h
  exact isNaN_eq_false_iff.2 ⟨_, unpackedValue?_eq (canonical_unpack _) hz⟩

/-- A sum with a finite float is a number. -/
theorem isNaN_add (hx : x.isNaN = false) (hp : p.isFinite = true) : (x + p).isNaN = false := by
  obtain ⟨a, ha⟩ := isNaN_eq_false_iff.1 hx
  obtain ⟨z, hz⟩ := exists_steps hp
  rw [isNaN_eq_false_iff, value?_add]
  exact ⟨_, sum_value (canonical_unpack _) (canonical_unpack _) hz ha⟩

/-- The half of a number is a number. -/
theorem isNaN_half (hx : x.isNaN = false) : (x / 2).isNaN = false := by
  obtain ⟨a, ha⟩ := isNaN_eq_false_iff.1 hx
  obtain ⟨m, e, hm, htwo⟩ : ∃ m e hm, (2 : Float).toModel.unpack = .finite .positive m e hm :=
    ⟨2 ^ 52, -51, by decide, rfl⟩
  have hhalf : value? (x / 2) = unpackedValue? (repacked
      (UnpackedFloat.div Format.binary64 x.toModel.unpack (2 : Float).toModel.unpack)) := rfl
  rw [isNaN_eq_false_iff, hhalf, htwo]
  refine exists_value_repacked (div_ne_notANumber fun hnone => ?_)
  rw [value?, hnone] at ha
  cases ha

end Floats

end Decimal

end WorkflowCanvas
