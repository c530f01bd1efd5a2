import Mathlib
import WorkflowCanvas.Decimal.Binary
/-!
# Floats as exact numbers

A float that is a number has an exact value, a rational number or one of two
infinities (`value?`). A float is compared by its sign, its exponent and its
mantissa, in this order. As a mantissa fills its 53 bits wherever the exponent
is not the least (`Canonical`), this is the order of the exact values
(`compare_eq`), and the comparisons of floats are those of their values
(`le_iff`, `lt_iff`, `beq_iff`).
-/


namespace WorkflowCanvas

namespace Decimal

open Float.Model (Format UnpackedFloat)
open Float.Model.UnpackedFloat (Sign)

/-- The rational numbers with an infinity at either end. -/
abbrev Extended : Type := WithBot (WithTop ℚ)

/-- A rational number among the extended ones. -/
def finite (q : ℚ) : Extended := ((q : WithTop ℚ) : Extended)

@[simp] theorem finite_le_finite {p q : ℚ} : finite p ≤ finite q ↔ p ≤ q := by simp [finite]

@[simp] theorem finite_lt_finite {p q : ℚ} : finite p < finite q ↔ p < q := by simp [finite]

/-! ## Unpacked floats -/

/-- The exact value of an unpacked float, if it is a number. -/
def unpackedValue? : UnpackedFloat → Option Extended
  | .notANumber => none
  | .infinity .positive => some ⊤
  | .infinity .negative => some ⊥
  | .zero _ => some (finite 0)
  | .finite s m e _ => some (finite (s.apply m * 2 ^ e))

/-- **What 64 bits are unpacked to.** A mantissa has 53 bits, and fewer only if
the exponent is the least. -/
inductive Canonical : UnpackedFloat → Prop
  | notANumber : Canonical .notANumber
  | infinity (s : Sign) : Canonical (.infinity s)
  | zero (s : Sign) : Canonical (.zero s)
  | finite (s : Sign) {m : ℕ} {e : ℤ} (hpos : 0 < m) (hbits : m < 2 ^ 53) (hleast : -1074 ≤ e)
      (hfull : e = -1074 ∨ 2 ^ 52 ≤ m) : Canonical (.finite s m e hpos)

theorem toNat_one_append (b : BitVec 52) : (1#1 ++ b).toNat = 2 ^ 52 + b.toNat := by
  rw [BitVec.toNat_append, Nat.shiftLeft_eq]
  exact (Nat.two_pow_add_eq_or_of_lt b.isLt 1).symm

theorem canonical_unpack (b : BitVec Format.binary64.numBits) :
    Canonical (UnpackedFloat.unpack Format.binary64 b) := by
  have hbias : (Format.binary64.exponentBias : ℤ) = 1023 := rfl
  have hmantissa : (UnpackedFloat.unpackMantissa b).toNat < 2 ^ 52 := BitVec.isLt _
  rw [UnpackedFloat.unpack]
  split
  · split
    · exact .infinity _
    · exact .notANumber
  · split
    · split
      · exact .zero _
      · next hzero _ =>
        refine .finite _ _ (by omega) ?_ (Or.inl ?_)
        · rw [hzero, hbias]
          simp
        · rw [hzero, hbias]
          simp
    · next hzero =>
      have hexponent : (UnpackedFloat.unpackExponent b).toNat ≠ 0 := fun h =>
        hzero (BitVec.eq_of_toNat_eq (by simpa using h))
      have hfull := toNat_one_append (UnpackedFloat.unpackMantissa b)
      refine .finite _ _ (by omega) ?_ (Or.inr (by omega))
      rw [hbias]
      show (-1074 : ℤ) ≤ _ - (1023 + (52 : ℕ))
      omega

/-- A larger exponent makes the larger number. -/
theorem magnitude_lt {m n : ℕ} {e f : ℤ} (hbits : m < 2 ^ 53) (hleast : -1074 ≤ e)
    (hfull : f = -1074 ∨ 2 ^ 52 ≤ n) (h : e < f) : (m : ℚ) * 2 ^ e < n * 2 ^ f := by
  have hn : 2 ^ 52 ≤ n := hfull.resolve_left (by omega)
  have hstep : (2 : ℚ) ^ (e + 1) ≤ 2 ^ f := zpow_le_zpow_right₀ (by norm_num) h
  calc (m : ℚ) * 2 ^ e < 2 ^ 53 * 2 ^ e := by
        refine mul_lt_mul_of_pos_right ?_ (by positivity)
        exact_mod_cast hbits
    _ = 2 ^ 52 * 2 ^ (e + 1) := by
        rw [zpow_add_one₀ (by norm_num : (2 : ℚ) ≠ 0)]
        ring
    _ ≤ n * 2 ^ f := by
        refine mul_le_mul ?_ hstep (by positivity) (by positivity)
        exact_mod_cast hn

/-- **Exponents and then mantissas order the magnitudes.** -/
theorem compare_magnitudes {m n : ℕ} {e f : ℤ} (hm : m < 2 ^ 53) (he : -1074 ≤ e)
    (hmfull : e = -1074 ∨ 2 ^ 52 ≤ m) (hn : n < 2 ^ 53) (hf : -1074 ≤ f)
    (hnfull : f = -1074 ∨ 2 ^ 52 ≤ n) :
    (compare e f).then (compare m n) = compare ((m : ℚ) * 2 ^ e) (n * 2 ^ f) := by
  rcases lt_trichotomy e f with h | rfl | h
  · rw [compare_lt_iff_lt.2 h, compare_lt_iff_lt.2 (magnitude_lt hm he hnfull h)]
    rfl
  · have hpower : (0 : ℚ) < 2 ^ e := by positivity
    rw [compare_eq_iff_eq.2 rfl]
    show compare m n = _
    rcases lt_trichotomy m n with hlt | rfl | hlt
    · rw [compare_lt_iff_lt.2 hlt,
        compare_lt_iff_lt.2 (mul_lt_mul_of_pos_right (Nat.cast_lt.2 hlt) hpower)]
    · rw [compare_eq_iff_eq.2 rfl, compare_eq_iff_eq.2 rfl]
    · rw [compare_gt_iff_gt.2 hlt,
        compare_gt_iff_gt.2 (mul_lt_mul_of_pos_right (Nat.cast_lt.2 hlt) hpower)]
  · rw [compare_gt_iff_gt.2 h, compare_gt_iff_gt.2 (magnitude_lt hn hf hmfull h)]
    rfl

/-! ## The order of the values -/

section Order

variable {p q : ℚ}

theorem compare_finite (p q : ℚ) : compare (finite p) (finite q) = compare p q := by
  rcases lt_trichotomy p q with h | rfl | h
  · rw [compare_lt_iff_lt.2 h, compare_lt_iff_lt.2 (finite_lt_finite.2 h)]
  · rw [compare_eq_iff_eq.2 rfl, compare_eq_iff_eq.2 rfl]
  · rw [compare_gt_iff_gt.2 h, compare_gt_iff_gt.2 (finite_lt_finite.2 h)]

theorem compare_neg_neg (p q : ℚ) : compare (-p) (-q) = (compare p q).swap := by
  rcases lt_trichotomy p q with h | rfl | h
  · rw [compare_lt_iff_lt.2 h, compare_gt_iff_gt.2 (neg_lt_neg h)]
    rfl
  · rw [compare_eq_iff_eq.2 rfl, compare_eq_iff_eq.2 rfl]
    rfl
  · rw [compare_gt_iff_gt.2 h, compare_lt_iff_lt.2 (neg_lt_neg h)]
    rfl

theorem finite_lt_top (q : ℚ) : finite q < ⊤ := WithBot.coe_lt_coe.2 (WithTop.coe_lt_top q)

theorem bot_lt_finite (q : ℚ) : ⊥ < finite q := WithBot.bot_lt_coe _

end Order

/-- The signed magnitude of a finite float. -/
theorem sign_apply_mul (s : Sign) (m : ℕ) (e : ℤ) :
    ((s.apply m : ℤ) : ℚ) * 2 ^ e = match s with
      | .positive => (m : ℚ) * 2 ^ e
      | .negative => -((m : ℚ) * 2 ^ e) := by
  cases s <;> simp [Sign.apply]

/-- **Unpacked floats compare as their values do.** -/
theorem compare_eq {u v : UnpackedFloat} (hu : Canonical u) (hv : Canonical v) :
    u.compare v =
      (unpackedValue? u).bind fun a => (unpackedValue? v).map fun b => compare a b := by
  have hlt : ∀ {a b : Extended}, a < b → some Ordering.lt = some (compare a b) := fun h =>
    congrArg some (compare_lt_iff_lt.2 h).symm
  have hgt : ∀ {a b : Extended}, b < a → some Ordering.gt = some (compare a b) := fun h =>
    congrArg some (compare_gt_iff_gt.2 h).symm
  have heq : ∀ a : Extended, some Ordering.eq = some (compare a a) := fun _ =>
    congrArg some (compare_eq_iff_eq.2 rfl).symm
  have hpos : ∀ {m : ℕ} {e : ℤ}, 0 < m → (0 : ℚ) < m * 2 ^ e := fun h =>
    mul_pos (Nat.cast_pos.2 h) (by positivity)
  have hneg : ∀ {m : ℕ} {e : ℤ}, 0 < m → -((m : ℚ) * 2 ^ e) < 0 := fun h =>
    neg_neg_of_pos (hpos h)
  cases hu with
  | notANumber => rfl
  | infinity s =>
    cases hv with
    | notANumber => cases s <;> rfl
    | infinity t =>
      cases s <;> cases t
      · exact heq ⊥
      · exact hlt bot_lt_top
      · exact hgt bot_lt_top
      · exact heq ⊤
    | zero t | finite t =>
      cases s
      · exact hlt (bot_lt_finite _)
      · exact hgt (finite_lt_top _)
  | zero s =>
    cases hv with
    | notANumber => rfl
    | infinity t =>
      cases t
      · exact hgt (bot_lt_finite _)
      · exact hlt (finite_lt_top _)
    | zero t => exact heq _
    | finite t ht =>
      simp only [unpackedValue?, Option.bind_some, Option.map_some, sign_apply_mul]
      cases t
      · exact hgt (finite_lt_finite.2 (hneg ht))
      · exact hlt (finite_lt_finite.2 (hpos ht))
  | finite s hs hm he hmfull =>
    cases hv with
    | notANumber => cases s <;> rfl
    | infinity t =>
      cases s <;> cases t
      · exact hgt (bot_lt_finite _)
      · exact hlt (finite_lt_top _)
      · exact hgt (bot_lt_finite _)
      · exact hlt (finite_lt_top _)
    | zero t =>
      simp only [unpackedValue?, Option.bind_some, Option.map_some, sign_apply_mul]
      cases s
      · exact hlt (finite_lt_finite.2 (hneg hs))
      · exact hgt (finite_lt_finite.2 (hpos hs))
    | finite t ht hn hf hnfull =>
      have hmagnitudes := compare_magnitudes hm he hmfull hn hf hnfull
      simp only [unpackedValue?, Option.bind_some, Option.map_some, sign_apply_mul]
      cases s <;> cases t
      · rw [compare_finite, compare_neg_neg, ← hmagnitudes]
        rfl
      · exact hlt (finite_lt_finite.2 ((hneg hs).trans (hpos ht)))
      · exact hgt (finite_lt_finite.2 ((hneg ht).trans (hpos hs)))
      · rw [compare_finite, ← hmagnitudes]
        rfl

/-! ## Floats -/

/-- **The exact value of a float**, if it is a number. -/
def value? (x : Float) : Option Extended := unpackedValue? x.toModel.unpack

variable {x y : Float}

theorem compare_toModel (x y : Float) : x.toModel.compare y.toModel =
    (value? x).bind fun a => (value? y).map fun b => compare a b :=
  compare_eq (canonical_unpack _) (canonical_unpack _)

/-- **What is no number has no value.** -/
theorem isNaN_iff : x.isNaN = true ↔ value? x = none := by
  show x.toModel.unpack.isNaN = true ↔ unpackedValue? x.toModel.unpack = none
  cases x.toModel.unpack with
  | notANumber => exact iff_of_true rfl rfl
  | infinity s => cases s <;> exact iff_of_false Bool.false_ne_true nofun
  | zero s => exact iff_of_false Bool.false_ne_true nofun
  | finite s m e h => exact iff_of_false Bool.false_ne_true nofun

theorem isNaN_eq_false_iff : x.isNaN = false ↔ ∃ a, value? x = some a := by
  rw [← Bool.not_eq_true, isNaN_iff]
  exact Option.ne_none_iff_exists'

/-- **Floats are in the order of their values.** -/
theorem lt_iff : x < y ↔ ∃ a b, value? x = some a ∧ value? y = some b ∧ a < b := by
  have hcompare : x < y ↔ x.toModel.compare y.toModel = some .lt := by
    show decide (x.toModel < y.toModel) = true ↔ _
    rw [decide_eq_true_iff]
    show (x.toModel.compare y.toModel == some .lt) = true ↔ _
    exact beq_iff_eq
  rw [hcompare, compare_toModel]
  rcases value? x with _ | a <;> rcases value? y with _ | b <;>
    simp [compare_lt_iff_lt]

theorem le_iff : x ≤ y ↔ ∃ a b, value? x = some a ∧ value? y = some b ∧ a ≤ b := by
  have hcompare : x ≤ y ↔ (x.toModel.compare y.toModel).any (·.isLE) = true := by
    show decide (x.toModel ≤ y.toModel) = true ↔ _
    rw [decide_eq_true_iff]
    exact Iff.rfl
  rw [hcompare, compare_toModel]
  rcases value? x with _ | a <;> rcases value? y with _ | b <;>
    simp [Ordering.isLE_iff_ne_gt, compare_gt_iff_gt]

/-- A number is at most itself. -/
theorem le_self (hx : x.isNaN = false) : x ≤ x := by
  obtain ⟨a, ha⟩ := isNaN_eq_false_iff.1 hx
  exact le_iff.2 ⟨a, a, ha, ha, le_refl a⟩

theorem trans_le {z : Float} (hxy : x ≤ y) (hyz : y ≤ z) : x ≤ z := by
  obtain ⟨a, b, ha, hb, hab⟩ := le_iff.1 hxy
  obtain ⟨b', c, hb', hc, hbc⟩ := le_iff.1 hyz
  obtain rfl : b = b' := Option.some.inj (hb.symm.trans hb')
  exact le_iff.2 ⟨a, c, ha, hc, hab.trans hbc⟩

theorem not_lt_of_le (h : x ≤ y) : ¬ y < x := by
  obtain ⟨a, b, ha, hb, hab⟩ := le_iff.1 h
  intro hlt
  obtain ⟨b', a', hb', ha', hba⟩ := lt_iff.1 hlt
  obtain rfl : a = a' := Option.some.inj (ha.symm.trans ha')
  obtain rfl : b = b' := Option.some.inj (hb.symm.trans hb')
  exact not_lt.2 hab hba

/-- Two numbers are in order, one way or the other. -/
theorem lt_or_le (hx : x.isNaN = false) (hy : y.isNaN = false) : x < y ∧ x ≤ y ∨ y ≤ x := by
  obtain ⟨a, ha⟩ := isNaN_eq_false_iff.1 hx
  obtain ⟨b, hb⟩ := isNaN_eq_false_iff.1 hy
  rcases lt_or_ge a b with hlt | hle
  · exact Or.inl ⟨lt_iff.2 ⟨a, b, ha, hb, hlt⟩, le_iff.2 ⟨a, b, ha, hb, hlt.le⟩⟩
  · exact Or.inr (le_iff.2 ⟨b, a, hb, ha, hle⟩)

/-- Floats are equal if their values are, though there are two zeros. -/
theorem beq_iff : (x == y) = true ↔ ∃ a, value? x = some a ∧ value? y = some a := by
  have hcompare : (x == y) = true ↔ x.toModel.compare y.toModel = some .eq := by
    show (x.toModel.compare y.toModel == some .eq) = true ↔ _
    exact beq_iff_eq
  rw [hcompare, compare_toModel]
  rcases value? x with _ | a <;> rcases value? y with _ | b <;> simp
  exact eq_comm

example : value? 10000 = some (finite 10000) := by decide +kernel

end Decimal

end WorkflowCanvas
