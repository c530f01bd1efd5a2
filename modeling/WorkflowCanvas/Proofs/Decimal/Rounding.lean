import WorkflowCanvas.Proofs.Decimal.Exact
/-!
# Rounded sums

A finite float is a whole number of least steps (`steps?`), so that the exact
sum of two is one as well. What a sum is rounded to keeps the first 53 bits of
this number, to the nearest and to an even number in the middle (`rounded`). The
sum of unpacked floats comes to the rounded number (`add_steps`), by way of a
shift of the mantissa that remembers in two bits what it drops (`Represents`).
Rounding keeps the order (`rounded_mono`).
-/


namespace WorkflowCanvas

namespace Decimal

open Float.Model (Format UnpackedFloat totalExponent)
open Float.Model.UnpackedFloat (Sign ExtendedMantissa)

/-! ## Rounding to 53 bits -/

/-- How many bits a number has beyond 53. -/
def excess (n : ℕ) : ℕ := n.log2 - 52

/-- A number rounded to its first 53 bits. -/
def roundedMagnitude (n : ℕ) : ℕ := roundDiv n (2 ^ excess n) .toEven * 2 ^ excess n

/-- A number with a sign, rounded to 53 bits. -/
def rounded (z : ℤ) : ℤ := z.sign * roundedMagnitude z.natAbs

variable {m n k : ℕ}

theorem log2_mono (h : m ≤ n) : m.log2 ≤ n.log2 := by
  rcases Nat.eq_zero_or_pos m with rfl | hm
  · rw [Nat.log2_zero]
    exact Nat.zero_le _
  · exact (Nat.le_log2 (by omega)).2 ((Nat.log2_self_le (by omega)).trans h)

theorem log2_mul_two_pow (hm : 0 < m) (k : ℕ) : (m * 2 ^ k).log2 = m.log2 + k := by
  have hpos : 0 < 2 ^ k := Nat.two_pow_pos k
  rw [Nat.log2_eq_iff (Nat.mul_pos hm hpos).ne', Nat.add_right_comm, pow_add, pow_add]
  exact ⟨Nat.mul_le_mul_right _ (Nat.log2_self_le hm.ne'),
    Nat.mul_lt_mul_of_pos_right Nat.lt_log2_self hpos⟩

/-- **A quotient is rounded** down or up by its remainder, and to an even number in
the middle. -/
theorem roundDiv_cases (n d : ℕ) :
    2 * (n % d) < d ∧ roundDiv n d .toEven = n / d ∨
      2 * (n % d) = d ∧ roundDiv n d .toEven = n / d + n / d % 2 ∨
      d < 2 * (n % d) ∧ roundDiv n d .toEven = n / d + 1 := by
  unfold roundDiv
  rcases lt_trichotomy (2 * (n % d)) d with h | h | h
  · rw [compare_lt_iff_lt.2 h]
    exact Or.inl ⟨h, rfl⟩
  · rw [compare_eq_iff_eq.2 h]
    refine Or.inr (Or.inl ⟨h, ?_⟩)
    show (if n / d % 2 = 0 then n / d else n / d + 1) = _
    split <;> omega
  · rw [compare_gt_iff_gt.2 h]
    exact Or.inr (Or.inr ⟨h, rfl⟩)

theorem div_le_roundDiv (n d : ℕ) : n / d ≤ roundDiv n d .toEven := by
  have := roundDiv_cases n d
  omega

theorem roundDiv_le (n d : ℕ) : roundDiv n d .toEven ≤ n / d + 1 := by
  have := roundDiv_cases n d
  omega

/-- Quotients are rounded in order. -/
theorem roundDiv_mono (d : ℕ) (h : m ≤ n) : roundDiv m d .toEven ≤ roundDiv n d .toEven := by
  rcases Nat.eq_or_lt_of_le (Nat.div_le_div_right h : m / d ≤ n / d) with heq | hlt
  · have hmod : m % d ≤ n % d := by
      have hm := Nat.div_add_mod m d
      have hn := Nat.div_add_mod n d
      rw [heq] at hm
      omega
    have hm := roundDiv_cases m d
    have hn := roundDiv_cases n d
    rw [heq] at hm
    omega
  · exact (roundDiv_le m d).trans (hlt.trans_le (div_le_roundDiv n d))

/-- What is divided is rounded to itself. -/
theorem roundDiv_mul (n : ℕ) {d : ℕ} (hd : 0 < d) : roundDiv (n * d) d .toEven = n := by
  have hcases := roundDiv_cases (n * d) d
  rw [Nat.mul_mod_left, Nat.mul_div_cancel n hd] at hcases
  omega

/-- A number is less than the power of two beyond its bits. -/
theorem div_excess_lt (n : ℕ) : n / 2 ^ excess n < 2 ^ 53 := by
  rw [Nat.div_lt_iff_lt_mul (Nat.two_pow_pos _), ← pow_add]
  refine Nat.lt_log2_self.trans_le (Nat.pow_le_pow_right (by omega) ?_)
  unfold excess
  omega

/-- A number with bits beyond the first 53 has these. -/
theorem le_div_excess (h : 0 < excess n) : 2 ^ 52 ≤ n / 2 ^ excess n := by
  unfold excess at h ⊢
  rw [Nat.le_div_iff_mul_le (Nat.two_pow_pos _), ← pow_add]
  refine le_trans (Nat.pow_le_pow_right (by omega) ?_) (Nat.log2_self_le (n := n) ?_)
  · omega
  · rintro rfl
    simp at h

/-- **Numbers are rounded in order.** -/
theorem roundedMagnitude_mono (h : m ≤ n) : roundedMagnitude m ≤ roundedMagnitude n := by
  have hexcess : excess m ≤ excess n := Nat.sub_le_sub_right (log2_mono h) 52
  unfold roundedMagnitude
  rcases Nat.eq_or_lt_of_le hexcess with heq | hlt
  · rw [heq]
    exact Nat.mul_le_mul_right _ (roundDiv_mono _ h)
  · -- the smaller number is rounded to the next power of two at most
    calc roundDiv m (2 ^ excess m) .toEven * 2 ^ excess m
        ≤ 2 ^ 53 * 2 ^ excess m :=
          Nat.mul_le_mul_right _ ((roundDiv_le m _).trans (div_excess_lt m))
      _ ≤ 2 ^ 52 * 2 ^ excess n := by
          rw [← pow_add, ← pow_add]
          exact Nat.pow_le_pow_right (by omega) (by omega)
      _ ≤ roundDiv n (2 ^ excess n) .toEven * 2 ^ excess n :=
          Nat.mul_le_mul_right _ ((le_div_excess (by omega)).trans (div_le_roundDiv n _))

@[simp] theorem rounded_natCast (n : ℕ) : rounded n = roundedMagnitude n := by
  rcases Nat.eq_zero_or_pos n with rfl | hn
  · rfl
  · rw [rounded, Int.sign_eq_one_of_pos (by omega), one_mul, Int.natAbs_natCast]

@[simp] theorem rounded_neg (z : ℤ) : rounded (-z) = -rounded z := by
  rw [rounded, rounded, Int.sign_neg, Int.natAbs_neg, neg_mul]

/-- **Numbers with signs are rounded in order.** -/
theorem rounded_mono : Monotone rounded := by
  intro y z h
  rcases Int.natAbs_eq y with hy | hy <;> rcases Int.natAbs_eq z with hz | hz <;> rw [hy, hz] at h ⊢
  · have hle : y.natAbs ≤ z.natAbs := by omega
    rw [rounded_natCast, rounded_natCast]
    exact Nat.cast_le.2 (roundedMagnitude_mono hle)
  · -- both are zero
    have hzero : y.natAbs = 0 ∧ z.natAbs = 0 := by omega
    rw [hzero.1, hzero.2]
    exact le_refl _
  · simp only [rounded_neg, rounded_natCast]
    omega
  · have hle : z.natAbs ≤ y.natAbs := by omega
    rw [rounded_neg, rounded_neg, rounded_natCast, rounded_natCast]
    exact neg_le_neg (Nat.cast_le.2 (roundedMagnitude_mono hle))

example : rounded (2 ^ 53 + 1) = 2 ^ 53 ∧ rounded (2 ^ 53 + 3) = 2 ^ 53 + 4 := by decide +kernel

theorem rounded_apply (s : Sign) (n : ℕ) : rounded (s.apply n) = s.apply (roundedMagnitude n) := by
  cases s <;> simp [Sign.apply]

/-- What has 53 bits, or ends in as many zeros as it has more, is rounded to
itself. -/
theorem roundedMagnitude_mul (hbits : m < 2 ^ 53) (hfull : k = 0 ∨ 2 ^ 52 ≤ m) :
    roundedMagnitude (m * 2 ^ k) = m * 2 ^ k := by
  have hexcess : excess (m * 2 ^ k) = k := by
    rcases hfull with rfl | hfull
    · have hlog : m.log2 ≤ 52 := (log2_mono (by omega : m ≤ 2 ^ 53 - 1)).trans (by decide)
      rw [pow_zero, mul_one, excess]
      omega
    · have hlog : m.log2 = 52 := (Nat.log2_eq_iff (by omega)).2 ⟨hfull, hbits⟩
      rw [excess, log2_mul_two_pow (by omega), hlog]
      omega
  rw [roundedMagnitude, hexcess, roundDiv_mul m (Nat.two_pow_pos k)]

/-! ## Shifted mantissas -/

/-- **A mantissa with its residual bits is a quotient by a power of two**: the
round bit tells whether the remainder is at least the half, and the sticky bit
whether there is more. -/
structure Represents (em : ExtendedMantissa) (n k : ℕ) : Prop where
  mantissa : em.mantissa = n / 2 ^ k
  roundBit : em.roundBit = decide (2 ^ k ≤ 2 * (n % 2 ^ k))
  stickyBit : em.stickyBit = decide (2 * (n % 2 ^ k) % 2 ^ k ≠ 0)

theorem represents_exact (m k : ℕ) :
    Represents (.ofMantissaAndAccuracy m .exact) (m * 2 ^ k) k := by
  have hpos : 0 < 2 ^ k := Nat.two_pow_pos k
  constructor
  · exact (Nat.mul_div_cancel m hpos).symm
  · simp [ExtendedMantissa.ofMantissaAndAccuracy]
  · simp [ExtendedMantissa.ofMantissaAndAccuracy]

/-- A shift by one bit halves the quotient. -/
theorem Represents.shiftRightOne {em : ExtendedMantissa} (h : Represents em n k) :
    Represents em.shiftRightOne n (k + 1) := by
  have hpos : 0 < 2 ^ k := Nat.two_pow_pos k
  have hlt : n % 2 ^ k < 2 ^ k := Nat.mod_lt n hpos
  have hmod : n % 2 ^ (k + 1) = n % 2 ^ k + 2 ^ k * (n / 2 ^ k % 2) := by
    rw [pow_succ, Nat.mod_mul]
  constructor
  · rw [ExtendedMantissa.shiftRightOne, h.mantissa, Nat.div_div_eq_div_mul, pow_succ]
  · rw [ExtendedMantissa.shiftRightOne, h.mantissa, hmod, pow_succ, Bool.eq_iff_iff, bne_iff_ne,
      decide_eq_true_iff]
    -- the bit that is shifted out is the half of the new remainder
    rcases Nat.mod_two_eq_zero_or_one (n / 2 ^ k) with hbit | hbit
    · rw [hbit]
      omega
    · rw [hbit]
      omega
  · rw [ExtendedMantissa.shiftRightOne, h.roundBit, h.stickyBit, pow_succ, mul_comm (2 ^ k) 2,
      Nat.mul_mod_mul_left, Nat.mod_mul_left_mod]
    -- what is left is not zero, so that twice as much is the whole or no multiple of it
    by_cases hzero : n % 2 ^ k = 0
    · simp [hzero]
    · by_cases hhalf : 2 ^ k ≤ 2 * (n % 2 ^ k)
      · simp [hzero, hhalf]
      · rw [Nat.mod_eq_of_lt (by omega : 2 * (n % 2 ^ k) < 2 ^ k)]
        simp [hzero]

/-- A shift by more bits divides on. -/
theorem Represents.shiftRight {em : ExtendedMantissa} (h : Represents em n k) (j : ℕ) :
    Represents (em >>> j) n (k + j) := by
  induction j with
  | zero => exact h
  | succ j ih => exact ih.shiftRightOne

/-- **The quotient is rounded by its residual bits.** -/
theorem Represents.roundedMantissa_eq {em : ExtendedMantissa} (h : Represents em n k) :
    em.roundedMantissa = roundDiv n (2 ^ k) .toEven := by
  obtain ⟨mantissa, roundBit, stickyBit⟩ := em
  obtain rfl : mantissa = n / 2 ^ k := h.mantissa
  have hround : roundBit = decide (2 ^ k ≤ 2 * (n % 2 ^ k)) := h.roundBit
  have hsticky : stickyBit = decide (2 * (n % 2 ^ k) % 2 ^ k ≠ 0) := h.stickyBit
  have hlt : n % 2 ^ k < 2 ^ k := Nat.mod_lt n (Nat.two_pow_pos k)
  rcases roundDiv_cases n (2 ^ k) with ⟨hless, heq⟩ | ⟨hhalf, heq⟩ | ⟨hmore, heq⟩
  · obtain rfl : roundBit = false := hround.trans (decide_eq_false (by omega))
    rw [heq]
    cases stickyBit <;> rfl
  · obtain rfl : roundBit = true := hround.trans (decide_eq_true (by omega))
    obtain rfl : stickyBit = false := by simpa [hhalf] using hsticky
    rw [heq]
    rfl
  · have hrest : 2 * (n % 2 ^ k) % 2 ^ k ≠ 0 := by
      rw [Nat.mod_eq_sub_mod hmore.le, Nat.mod_eq_of_lt (by omega)]
      omega
    obtain rfl : roundBit = true := hround.trans (decide_eq_true (by omega))
    obtain rfl : stickyBit = true := hsticky.trans (decide_eq_true hrest)
    rw [heq]
    rfl

/-! ## Unpacked floats in steps -/

/-- **How many steps of 2 to the -1074 a finite float has**, the least ones there
are. -/
def steps? : UnpackedFloat → Option ℤ
  | .zero _ => some 0
  | .finite s m e _ => some (s.apply (m * 2 ^ (e + 1074).toNat : ℕ))
  | .infinity _ => none
  | .notANumber => none

/-- The least positive value of a float. -/
def leastStep : ℚ := 2 ^ (-1074 : ℤ)

theorem leastStep_pos : 0 < leastStep := by
  unfold leastStep
  positivity

/-- The value of a number of steps. -/
def ofSteps (z : ℤ) : Extended := finite (z * leastStep)

variable {u v : UnpackedFloat} {y z : ℤ} {s : Sign} {e : ℤ}

theorem ofSteps_le_ofSteps : ofSteps y ≤ ofSteps z ↔ y ≤ z := by
  rw [ofSteps, ofSteps, finite_le_finite, mul_le_mul_iff_left₀ leastStep_pos, Int.cast_le]

/-- The exponent of a float as a number of doubled steps. -/
theorem steps_value (m : ℕ) (he : -1074 ≤ e) :
    ((m * 2 ^ (e + 1074).toNat : ℕ) : ℚ) * leastStep = m * 2 ^ e := by
  have hsplit : e = ((e + 1074).toNat : ℤ) + -1074 := by omega
  have hpower : (2 : ℚ) ^ e = 2 ^ (e + 1074).toNat * leastStep := by
    conv_lhs => rw [hsplit]
    rw [zpow_add₀ two_ne_zero, zpow_natCast, leastStep]
  rw [hpower, Nat.cast_mul, Nat.cast_pow, Nat.cast_ofNat, mul_assoc]

/-- **Steps give the exact value.** -/
theorem unpackedValue?_eq (hu : Canonical u) (hz : steps? u = some z) :
    unpackedValue? u = some (ofSteps z) := by
  cases hu with
  | notANumber => cases hz
  | infinity s => cases hz
  | zero s =>
    cases hz
    simp [unpackedValue?, ofSteps]
  | finite s hpos hbits hleast hfull =>
    cases hz
    rw [unpackedValue?, ofSteps, sign_apply_mul, ← steps_value _ hleast]
    cases s <;> simp [Sign.apply]

/-- What is canonical is rounded already. -/
theorem rounded_steps (hu : Canonical u) (hz : steps? u = some z) : rounded z = z := by
  cases hu with
  | notANumber => cases hz
  | infinity s => cases hz
  | zero s =>
    cases hz
    rfl
  | @finite s m e hpos hbits hleast hfull =>
    cases hz
    have hzeros : e = -1074 → (e + 1074).toNat = 0 := by omega
    rw [rounded_apply, roundedMagnitude_mul hbits (hfull.imp_left hzeros)]

/-- The target exponent, by the bits beyond 53. -/
theorem targetExponent_eq (hm : 0 < m) (he : -1074 ≤ e) :
    Format.binary64.targetExponent (totalExponent m e) =
      excess (m * 2 ^ (e + 1074).toNat) - 1074 := by
  have hmin : Format.binary64.minExponent = -1074 := by decide
  have hbits : (Format.binary64.mantissaBits : ℤ) = 53 := by decide
  rw [Format.targetExponent, totalExponent, hmin, hbits, excess, log2_mul_two_pow hm]
  omega

/-- **A float is shifted to its target exponent** unless that is less than its
exponent. -/
theorem shiftToTargetExponent_eq (hm : 0 < m) (he : -1074 ≤ e)
    (hle : e + 1074 ≤ excess (m * 2 ^ (e + 1074).toNat)) :
    ∃ em, UnpackedFloat.shiftToTargetExponent Format.binary64 m e .exact =
        (em, (excess (m * 2 ^ (e + 1074).toNat) : ℤ) - 1074) ∧
      Represents em (m * 2 ^ (e + 1074).toNat) (excess (m * 2 ^ (e + 1074).toNat)) := by
  rw [UnpackedFloat.shiftToTargetExponent, UnpackedFloat.shiftToExponent, targetExponent_eq hm he]
  have hrep := (represents_exact m (e + 1074).toNat).shiftRight
    ((excess (m * 2 ^ (e + 1074).toNat) : ℤ) - 1074 - e).toNat
  generalize hexcess : excess (m * 2 ^ (e + 1074).toNat) = k at hle hrep ⊢
  have hshift : (e + 1074).toNat + ((k : ℤ) - 1074 - e).toNat = k := by omega
  rw [hshift] at hrep
  exact ⟨_, Prod.ext rfl (by simp only; omega), hrep⟩

/-- A rounded mantissa has 53 bits, or it is the power of two beyond them and is
shifted once more. -/
theorem shiftToTargetExponent_rounded (hm : 0 < m) (hle : m ≤ 2 ^ 53) (he : -1074 ≤ e)
    (hfull : e = -1074 ∨ 2 ^ 52 ≤ m) :
    ∃ em f, UnpackedFloat.shiftToTargetExponent Format.binary64 m e .exact = (em, f) ∧
      em.mantissa * 2 ^ (f + 1074).toNat = m * 2 ^ (e + 1074).toNat ∧
      0 < em.mantissa ∧ em.mantissa < 2 ^ 53 ∧ -1074 ≤ f ∧ (f = -1074 ∨ 2 ^ 52 ≤ em.mantissa) := by
  rw [UnpackedFloat.shiftToTargetExponent, UnpackedFloat.shiftToExponent, targetExponent_eq hm he,
    excess, log2_mul_two_pow hm]
  rcases Nat.eq_or_lt_of_le hle with rfl | hlt
  · rw [Nat.log2_two_pow]
    have hshift : (((53 + (e + 1074).toNat - 52 : ℕ) : ℤ) - 1074 - e).toNat = 1 := by omega
    rw [hshift]
    have hhalf : (ExtendedMantissa.ofMantissaAndAccuracy (2 ^ 53) .exact).shiftRightOne.mantissa =
        2 ^ 52 := rfl
    refine ⟨ExtendedMantissa.shiftRightOne (.ofMantissaAndAccuracy (2 ^ 53) .exact), e + 1, rfl, ?_⟩
    rw [hhalf, show (e + 1 + 1074).toNat = (e + 1074).toNat + 1 by omega]
    refine ⟨by ring, by positivity, by norm_num, by omega, Or.inr (Nat.le_refl _)⟩
  · have hlog : m.log2 ≤ 52 := Nat.lt_succ_iff.1 ((Nat.log2_lt hm.ne').2 hlt)
    have hshift : (((m.log2 + (e + 1074).toNat - 52 : ℕ) : ℤ) - 1074 - e).toNat = 0 := by omega
    rw [hshift]
    exact ⟨.ofMantissaAndAccuracy m .exact, e, Prod.ext rfl (add_zero e), rfl, hm, hlt, he, hfull⟩

/-- **What is rounded with a mantissa and an exponent** has as many steps as come
of rounding theirs. -/
theorem roundWithAccuracy_steps (s : Sign) (hm : 0 < m) (he : -1074 ≤ e)
    (hle : e + 1074 ≤ excess (m * 2 ^ (e + 1074).toNat)) :
    Canonical (UnpackedFloat.roundWithAccuracy Format.binary64 s m e .exact) ∧
      steps? (UnpackedFloat.roundWithAccuracy Format.binary64 s m e .exact) =
        some (s.apply (roundedMagnitude (m * 2 ^ (e + 1074).toNat))) := by
  obtain ⟨em, hfirst, hrep⟩ := shiftToTargetExponent_eq hm he hle
  have hn : 0 < m * 2 ^ (e + 1074).toNat := Nat.mul_pos hm (Nat.two_pow_pos _)
  generalize m * 2 ^ (e + 1074).toNat = n at hn hfirst hrep ⊢
  have hpos : 0 < roundDiv n (2 ^ excess n) .toEven := by
    refine lt_of_lt_of_le (Nat.div_pos ?_ (Nat.two_pow_pos _)) (div_le_roundDiv n _)
    exact (Nat.pow_le_pow_right (by omega) (Nat.sub_le _ _)).trans (Nat.log2_self_le hn.ne')
  have hbits : roundDiv n (2 ^ excess n) .toEven ≤ 2 ^ 53 :=
    (roundDiv_le n _).trans (div_excess_lt n)
  obtain ⟨em', f, hsecond, hsteps, hpos', hbits', hleast, hfull⟩ :=
    shiftToTargetExponent_rounded (e := excess n - 1074) hpos hbits (by omega) (by
      rcases Nat.eq_zero_or_pos (excess n) with hzero | hmore
      · exact Or.inl (by omega)
      · exact Or.inr ((le_div_excess hmore).trans (div_le_roundDiv n _)))
  have hresult : UnpackedFloat.roundWithAccuracy Format.binary64 s m e .exact =
      .finite s em'.mantissa f hpos' := by
    rw [UnpackedFloat.roundWithAccuracy, hfirst]
    simp only [hrep.roundedMantissa_eq, hsecond]
    rw [dif_neg hpos'.ne']
  rw [show ((excess n : ℤ) - 1074 + 1074).toNat = excess n by omega] at hsteps
  rw [hresult]
  refine ⟨.finite s hpos' hbits' hleast hfull, ?_⟩
  rw [steps?, hsteps, roundedMagnitude]

/-- A smaller exponent with a larger mantissa is the same number of steps. -/
theorem shiftLeft_steps (m : ℕ) {j : ℕ} (hj : (j : ℤ) ≤ e + 1074) :
    m <<< j * 2 ^ (e - j + 1074).toNat = m * 2 ^ (e + 1074).toNat := by
  rw [Nat.shiftLeft_eq, mul_assoc, ← pow_add]
  congr 2
  omega

/-- **A mantissa is rounded with its exponent**, be it larger or smaller than the
target. -/
theorem round_steps (s : Sign) (hm : 0 < m) (he : -1074 ≤ e) :
    Canonical (UnpackedFloat.round Format.binary64 s m e) ∧
      steps? (UnpackedFloat.round Format.binary64 s m e) =
        some (s.apply (roundedMagnitude (m * 2 ^ (e + 1074).toNat))) := by
  rw [UnpackedFloat.round, targetExponent_eq hm he]
  simp only [UnpackedFloat.decreaseExponent]
  generalize hj : (e - (excess (m * 2 ^ (e + 1074).toNat) - 1074)).toNat = j
  have hsteps := shiftLeft_steps m (show (j : ℤ) ≤ e + 1074 by omega)
  rw [← hsteps]
  refine roundWithAccuracy_steps s ?_ (by omega) (by rw [hsteps]; omega)
  rw [Nat.shiftLeft_eq]
  positivity

/-- **A sum of mantissas is rounded.** -/
theorem normalize_steps (z : ℤ) (he : -1074 ≤ e) (t : Sign) :
    Canonical (UnpackedFloat.normalize Format.binary64 z e t) ∧
      steps? (UnpackedFloat.normalize Format.binary64 z e t) =
        some (rounded (z * 2 ^ (e + 1074).toNat)) := by
  rw [UnpackedFloat.normalize]
  rcases lt_trichotomy z 0 with hneg | rfl | hpos
  · rw [compare_lt_iff_lt.2 hneg]
    obtain ⟨hcanonical, hsteps⟩ := round_steps .negative (m := (-z).toNat) (by omega) he
    refine ⟨hcanonical, hsteps.trans ?_⟩
    have hz : z * 2 ^ (e + 1074).toNat = -(((-z).toNat * 2 ^ (e + 1074).toNat : ℕ) : ℤ) := by
      push_cast
      rw [Int.toNat_of_nonneg (by omega)]
      ring
    rw [hz, rounded_neg, rounded_natCast]
    rfl
  · rw [compare_eq_iff_eq.2 rfl]
    exact ⟨.zero t, by simp [steps?, rounded]⟩
  · rw [compare_gt_iff_gt.2 hpos]
    obtain ⟨hcanonical, hsteps⟩ := round_steps .positive (m := z.toNat) (by omega) he
    refine ⟨hcanonical, hsteps.trans ?_⟩
    have hz : z * 2 ^ (e + 1074).toNat = ((z.toNat * 2 ^ (e + 1074).toNat : ℕ) : ℤ) := by
      push_cast
      rw [Int.toNat_of_nonneg (by omega)]
    rw [hz, rounded_natCast]
    rfl

/-- A float with its exponent decreased is the same number of steps. -/
theorem decreased_steps (s : Sign) (m : ℕ) {f : ℤ} (hf : -1074 ≤ f) (hle : f ≤ e) :
    s.apply (m <<< (e - f).toNat : ℕ) * 2 ^ (f + 1074).toNat =
      s.apply (m * 2 ^ (e + 1074).toNat : ℕ) := by
  have hsteps := shiftLeft_steps m (show ((e - f).toNat : ℤ) ≤ e + 1074 by omega)
  rw [show e - ((e - f).toNat : ℤ) = f by omega] at hsteps
  rw [← hsteps, Nat.cast_mul, Nat.cast_pow, Nat.cast_ofNat]
  cases s
  · exact neg_mul _ _
  · rfl

theorem neg_apply (s : Sign) (y : ℤ) : (-s).apply y = -s.apply y := by
  cases s
  · exact (neg_neg y).symm
  · rfl

theorem Canonical.neg (hu : Canonical u) : Canonical u.neg := by
  cases hu with
  | notANumber => exact .notANumber
  | infinity s => exact .infinity (-s)
  | zero s => exact .zero (-s)
  | finite s hpos hbits hleast hfull => exact .finite (-s) hpos hbits hleast hfull

theorem steps?_neg (hz : steps? u = some z) : steps? u.neg = some (-z) := by
  cases u with
  | notANumber => cases hz
  | infinity s => cases hz
  | zero s =>
    cases hz
    rfl
  | finite s m e hpos =>
    cases hz
    exact congrArg some (neg_apply s _)

/-- A difference is the sum with the opposite. -/
theorem sub_eq_add (u v : UnpackedFloat) :
    UnpackedFloat.sub Format.binary64 u v = UnpackedFloat.add Format.binary64 u v.neg := by
  cases u with
  | notANumber => rfl
  | infinity s => cases v <;> rfl
  | zero s => cases v <;> rfl
  | finite s m e =>
    cases v with
    | notANumber => rfl
    | infinity t => rfl
    | zero t => rfl
    | finite t n f =>
      simp only [UnpackedFloat.sub, UnpackedFloat.neg, UnpackedFloat.add, neg_apply,
        Int.sub_eq_add_neg]

/-- **The sum of finite floats is rounded.** -/
theorem add_steps (hu : Canonical u) (hv : Canonical v) (hy : steps? u = some y)
    (hz : steps? v = some z) :
    Canonical (UnpackedFloat.add Format.binary64 u v) ∧
      steps? (UnpackedFloat.add Format.binary64 u v) = some (rounded (y + z)) := by
  have hyself := rounded_steps hu hy
  have hzself := rounded_steps hv hz
  cases hu with
  | notANumber => cases hy
  | infinity s => cases hy
  | zero s =>
    cases hy
    rw [zero_add, hzself]
    cases hv with
    | notANumber => cases hz
    | infinity t => cases hz
    | zero t =>
      cases hz
      cases s <;> cases t <;> exact ⟨.zero _, rfl⟩
    | finite t hpos hbits hleast hfull => exact ⟨.finite t hpos hbits hleast hfull, hz⟩
  | @finite s m e hpos hbits hleast hfull =>
    cases hv with
    | notANumber => cases hz
    | infinity t => cases hz
    | zero t =>
      cases hz
      rw [add_zero, hyself]
      exact ⟨.finite s hpos hbits hleast hfull, hy⟩
    | @finite t n f hpos' hbits' hleast' hfull' =>
      cases hy
      cases hz
      have hmin : -1074 ≤ min e f := le_min hleast hleast'
      rw [UnpackedFloat.add]
      simp only [UnpackedFloat.decreaseExponent]
      rw [← decreased_steps s m hmin (min_le_left e f),
        ← decreased_steps t n hmin (min_le_right e f), ← add_mul]
      exact normalize_steps _ hmin .positive

/-- The order of the summands makes no difference. -/
theorem unpacked_add_comm (u v : UnpackedFloat) :
    UnpackedFloat.add Format.binary64 u v = UnpackedFloat.add Format.binary64 v u := by
  cases u with
  | notANumber => cases v <;> rfl
  | infinity s =>
    cases v with
    | infinity t => cases s <;> cases t <;> rfl
    | _ => rfl
  | zero s =>
    cases v with
    | zero t => cases s <;> cases t <;> rfl
    | _ => rfl
  | finite s m e =>
    cases v with
    | finite t n f =>
      simp only [UnpackedFloat.add, min_comm e f, Int.add_comm (s.apply _)]
    | _ => rfl

end Decimal

end WorkflowCanvas
