import WorkflowCanvas.Proofs.Lending.Eligibility
/-!
# Made-up customers

The hash of an id is a polynomial in 31 over the UTF-16 code units of the id
(`InUnits`), in 32 signed bits (`toInt_idHash`). Its magnitude is taken in 32
unsigned bits, so that even the least hash has one (`toNat_magnitude`), and a
figure is made from it in words of 64 bits that are never exceeded
(`exists_figure?`). The documents of a made-up customer are on file and the
balance is never too low, so all that a check looks at is the amount
(`figures_follow_hash`).
-/


namespace WorkflowCanvas

namespace Lending

/-! ## Code units -/

/-- **A text in UTF-16.** A character below `0x10000` is one code unit. What
the others have above that is 20 bits, ten in the first unit of a pair and ten
in the second. -/
inductive InUnits : List Char → List ℕ → Prop
  | nil : InUnits [] []
  | one {c : Char} {cs : List Char} {us : List ℕ} (hc : c.toNat < 0x10000) (h : InUnits cs us) :
      InUnits (c :: cs) (c.toNat :: us)
  | pair {c : Char} {cs : List Char} {us : List ℕ} {high low : ℕ} (hhigh : high < 0x400)
      (hlow : low < 0x400) (hc : c.toNat = 0x10000 + (high * 0x400 + low)) (h : InUnits cs us) :
      InUnits (c :: cs) ((0xD800 + high) :: (0xDC00 + low) :: us)

variable {cs : List Char} {us : List ℕ}

/-- No character has more than 20 bits above `0x10000`. -/
theorem toNat_char_lt (c : Char) : c.toNat < 0x110000 := by
  rcases c.valid with hbelow | ⟨-, hbeyond⟩
  · exact hbelow.trans (by decide)
  · exact hbeyond

theorem inUnits_flatMap (cs : List Char) : InUnits cs (cs.flatMap units) := by
  induction cs with
  | nil => exact .nil
  | cons c cs ih =>
    have hc := toNat_char_lt c
    rw [List.flatMap_cons, units]
    split
    · next hone => exact .one hone ih
    · next htwo => exact .pair (by omega) (by omega) (by omega) ih

/-- **A text has one list of code units.** -/
theorem inUnits_iff : InUnits cs us ↔ us = cs.flatMap units := by
  refine ⟨fun h => ?_, fun h => h ▸ inUnits_flatMap cs⟩
  induction h with
  | nil => rfl
  | one hc h ih => simp [units, hc, ih]
  | @pair c cs us high low hhigh hlow hc h ih =>
    -- the ten high bits and the ten low ones are quotient and remainder
    have htwo : ¬ c.toNat < 0x10000 := by omega
    have hhigh' : (c.toNat - 0x10000) / 0x400 = high := by omega
    have hlow' : (c.toNat - 0x10000) % 0x400 = low := by omega
    simp [units, htwo, hhigh', hlow', ih]

/-! ## The hash -/

/-- Each unit is multiplied by 31 once for every unit that comes after it. -/
theorem foldl_eq_sum (us : List ℕ) (w : ℕ) :
    us.foldl (fun w u => w * 31 + u) w =
      w * 31 ^ us.length + ∑ i : Fin us.length, us[i] * 31 ^ (us.length - (i.val + 1)) := by
  induction us generalizing w with
  | nil => simp
  | cons u us ih =>
    rw [List.foldl_cons, ih]
    simp only [List.length_cons, Fin.sum_univ_succ, Fin.getElem_fin, Fin.val_zero, Fin.val_succ,
      List.getElem_cons_zero, List.getElem_cons_succ, Nat.add_sub_add_right, Nat.sub_zero]
    ring

/-- Wrapping after every unit is the same as wrapping once, at the end. -/
theorem idHash_eq_ofNat (id : String) :
    idHash id = Int32.ofNat ((id.toList.flatMap units).foldl (fun w u => w * 31 + u) 0) := by
  refine List.foldl_hom Int32.ofNat fun w u => ?_
  rw [Int32.ofNat_add, Int32.ofNat_mul]
  rfl

/-- **The hash as a polynomial**, reduced to 32 signed bits. -/
theorem toInt_idHash {id : String} (h : InUnits id.toList us) :
    (idHash id).toInt =
      ((∑ i : Fin us.length, us[i] * 31 ^ (us.length - (i.val + 1)) : ℕ) : ℤ).bmod (2 ^ 32) := by
  obtain rfl := inUnits_iff.1 h
  rw [idHash_eq_ofNat, foldl_eq_sum, Nat.zero_mul, Nat.zero_add]
  exact Int32.toInt_ofNat'

/-! ## Figures in words -/

/-- The magnitude of a hash, in an unsigned word of 32 bits. -/
def magnitude (hash : Int32) : UInt32 := .ofBitVec hash.toBitVec.abs

/-- **No hash is too low for its magnitude**, which is exact for the least hash
as well. -/
theorem toNat_magnitude (hash : Int32) : (magnitude hash).toNat = hash.toInt.natAbs := by
  have hlt := hash.toBitVec.isLt
  show hash.toBitVec.abs.toNat = hash.toBitVec.toInt.natAbs
  -- negation leaves the bits of the least hash as they are: as a word they are 2 ^ 31
  rw [BitVec.toNat_abs, BitVec.toInt_eq_msb_cond]
  split <;> omega

/-- A figure in words of 64 bits: what remains of the magnitude of a hash after
division by a span, on top of a floor. There is none if the span is zero or the
sum exceeds a word. -/
def figure? (span floor : UInt64) (hash : Int32) : Option UInt64 :=
  let rest := (magnitude hash).toUInt64 % span
  if span = 0 ∨ rest.toBitVec.uaddOverflow floor.toBitVec then none else some (rest + floor)

/-- **A figure is exact**, and less than a span above its floor, where that much
has room in a word. -/
theorem exists_figure? (span floor : UInt64) (hash : Int32) (hspan : 0 < span.toNat)
    (hroom : span.toNat + floor.toNat ≤ 2 ^ 64) :
    ∃ figure, figure? span floor hash = some figure ∧
      figure.toNat = hash.toInt.natAbs % span.toNat + floor.toNat ∧
      figure.toNat ∈ Set.Ico floor.toNat (span.toNat + floor.toNat) := by
  have hzero : span ≠ 0 := by
    rintro rfl
    exact absurd hspan (by decide)
  have hrest : ((magnitude hash).toUInt64 % span).toNat = hash.toInt.natAbs % span.toNat := by
    rw [UInt64.toNat_mod, UInt32.toNat_toUInt64, toNat_magnitude]
  have hlt : hash.toInt.natAbs % span.toNat < span.toNat := Nat.mod_lt _ hspan
  have hfits :
      ((magnitude hash).toUInt64 % span).toBitVec.uaddOverflow floor.toBitVec = false := by
    rw [BitVec.uaddOverflow, decide_eq_false_iff_not, UInt64.toNat_toBitVec,
      UInt64.toNat_toBitVec, hrest]
    omega
  have hexact : ((magnitude hash).toUInt64 % span + floor).toNat =
      hash.toInt.natAbs % span.toNat + floor.toNat := by
    rw [UInt64.toNat_add, hrest]
    exact Nat.mod_eq_of_lt (by omega)
  refine ⟨(magnitude hash).toUInt64 % span + floor, ?_, hexact, ?_⟩
  · rw [figure?, hfits]
    simp [hzero]
  · rw [hexact, Set.mem_Ico]
    omega

/-! ## Approvals -/

/-- No limit of a tier is below 10000. -/
theorem Tier.ten_thousand_le_limit (tier : Tier) : 10000 ≤ tier.limit := by
  cases tier <;> decide +kernel

section

variable {c : Customer} {requested : Float}

/-- With documents on file and balance enough, only the amount decides. -/
theorem approves_iff_within (hdocuments : c.HasDocuments) (hbalance : leastBalance ≤ c.balance) :
    Approves c requested ↔ 0 < requested ∧ requested ≤ (Tier.ofBalance c.balance).limit := by
  have hlimit := Tier.value?_limit (Tier.ofBalance c.balance)
  rw [approves_iff]
  constructor
  · intro h
    obtain ⟨v, hv, hpositive, hle⟩ := h.amount
    exact ⟨Decimal.lt_iff.2 ⟨_, v, value?_zero, hv, hpositive⟩,
      Decimal.le_iff.2 ⟨v, _, hv, hlimit, hle⟩⟩
  · rintro ⟨hpositive, hle⟩
    obtain ⟨_, v, hzero, hv, hlt⟩ := Decimal.lt_iff.1 hpositive
    obtain ⟨_, _, hv', hlimit', hle⟩ := Decimal.le_iff.1 hle
    cases value?_zero.symm.trans hzero
    cases hv.symm.trans hv'
    cases hlimit.symm.trans hlimit'
    exact ⟨hdocuments, hbalance, v, hv, hlt, hle⟩

end

namespace Customer

theorem hasDocuments_madeUp (id : String) : (madeUp id).HasDocuments := by
  have hpan : isPresent (some "AAAAA1234A") = true := by decide +kernel
  have haadhar : isPresent (some "123456789012") = true := by decide +kernel
  exact ⟨isPresent_iff.1 hpan, isPresent_iff.1 haadhar⟩

theorem balance_madeUp (id : String) :
    (madeUp id).balance = (idHash id).toInt.natAbs % 500000 + 10000 := rfl

end Customer

/-- **Whoever is made up is served** up to the limit of the tier. -/
theorem approves_madeUp_iff {id : String} {requested : Float} :
    Approves (Customer.madeUp id) requested ↔
      0 < requested ∧ requested ≤ (Tier.ofBalance (Customer.madeUp id).balance).limit := by
  refine approves_iff_within (Customer.hasDocuments_madeUp id) ?_
  rw [Customer.balance_madeUp, leastBalance]
  exact Nat.le_add_left _ _

/-- **Figures follow the hash.** A text has one list of UTF-16 code units, and
the hash of an id is the sum of its units, each times 31 to the power of how many
come after it, reduced to 32 signed bits. The magnitude of a hash, which is
exact whatever the hash, gives a balance and an income in words of 64 bits that no
step exceeds; the least hash is no exception. So a check approves every amount
above zero and up to 10000 for a customer who is made up. -/
theorem figures_follow_hash (id : String) :
    (∃ us, (∀ us', InUnits id.toList us' ↔ us' = us) ∧
      (idHash id).toInt =
        ((∑ i : Fin us.length, us[i] * 31 ^ (us.length - (i.val + 1)) : ℕ) : ℤ).bmod (2 ^ 32)) ∧
    (magnitude (idHash id)).toNat = (idHash id).toInt.natAbs ∧
    (∃ balance, figure? 500000 10000 (idHash id) = some balance ∧
      (Customer.madeUp id).accountBalance? = some balance.toNat ∧
      balance.toNat ∈ Set.Ico 10000 510000) ∧
    (∃ income, figure? 200000 30000 (idHash id) = some income ∧
      (Customer.madeUp id).monthlyIncome? = some income.toNat ∧
      income.toNat ∈ Set.Ico 30000 230000) ∧
    (idHash id = Int32.minValue → (Customer.madeUp id).accountBalance? = some 493648 ∧
      (Customer.madeUp id).monthlyIncome? = some 113648) ∧
    ∀ requested : Float, 0 < requested → requested ≤ 10000 →
      Approves (Customer.madeUp id) requested := by
  refine ⟨⟨_, fun _ => inUnits_iff, toInt_idHash (inUnits_iff.2 rfl)⟩, toNat_magnitude _,
    ?_, ?_, fun hleast => ?_, fun requested hpositive hle => ?_⟩
  · obtain ⟨balance, hbalance, hexact, hrange⟩ :=
      exists_figure? 500000 10000 (idHash id) (by decide) (by decide)
    exact ⟨balance, hbalance, congrArg some hexact.symm, hrange⟩
  · obtain ⟨income, hincome, hexact, hrange⟩ :=
      exists_figure? 200000 30000 (idHash id) (by decide) (by decide)
    exact ⟨income, hincome, congrArg some hexact.symm, hrange⟩
  · rw [Customer.madeUp, hleast]
    exact ⟨rfl, rfl⟩
  · exact approves_madeUp_iff.2
      ⟨hpositive, Decimal.trans_le hle (Tier.ten_thousand_le_limit _)⟩

/-- An id with a pair of code units and the least hash. -/
def leastHashed : String := "C-😀013673393"

/-- Its units, its figures, and an approval of the most and of hardly anything. -/
theorem least_hashed_approved :
    idHash leastHashed = Int32.minValue ∧
    InUnits leastHashed.toList
      [67, 45, 0xD83D, 0xDE00, 48, 49, 51, 54, 55, 51, 51, 57, 51] ∧
    (Customer.madeUp leastHashed).accountBalance? = some 493648 ∧
    (Customer.madeUp leastHashed).monthlyIncome? = some 113648 ∧
    Approves (Customer.madeUp leastHashed) 10000 ∧
    Approves (Customer.madeUp leastHashed) 5e-324 := by
  have hleast : idHash leastHashed = Int32.minValue := by decide +kernel
  obtain ⟨-, -, -, -, hfigures, happroves⟩ := figures_follow_hash leastHashed
  refine ⟨hleast, inUnits_iff.2 (by decide +kernel), (hfigures hleast).1, (hfigures hleast).2,
    happroves 10000 ?_ ?_, happroves 5e-324 ?_ ?_⟩
  all_goals decide +kernel

end Lending

end WorkflowCanvas
