import WorkflowCanvas.Lending.Eligibility
import WorkflowCanvas.Proofs.Decimal.Exact
import WorkflowCanvas.Proofs.Text
/-!
# Approved amounts

A check says one of three things, and the exact value of the amount decides
which (`assess_cases`): it approves an amount above zero and up to the limit of
the tier, it fails for an amount above the limit, and it rejects everything
else. Nowhere is an amount held against the balance. As the limit of a tier is
no more than the least balance of the tier, an amount that is approved is
covered all the same, and as limits grow with the balance, more of it never
turns an approval down (`approvals_covered`).
-/


namespace WorkflowCanvas

namespace Lending

open Decimal (Extended finite value?)
open Operation (Refusal)

/-! ## Documents and balances -/

/-- A text is there and has a character that is not blank. -/
def OnFile (text? : Option String) : Prop :=
  ∃ text, text? = some text ∧ ∃ ch ∈ text.toList, Text.isBlank ch = false

theorem isPresent_iff {text? : Option String} : Customer.isPresent text? = true ↔ OnFile text? := by
  rcases text? with _ | text
  · simp [Customer.isPresent, OnFile]
  · simp [Customer.isPresent, OnFile, Text.isSome_nonBlank?_iff]

namespace Customer

/-- Both identity documents are on file. -/
structure HasDocuments (c : Customer) : Prop where
  pan : OnFile c.pan?
  aadhar : OnFile c.aadhar?

theorem isIdentified_iff {c : Customer} : c.isIdentified = true ↔ c.HasDocuments := by
  rw [isIdentified, Bool.and_eq_true, isPresent_iff, isPresent_iff]
  exact ⟨fun ⟨hpan, haadhar⟩ => ⟨hpan, haadhar⟩, fun h => ⟨h.pan, h.aadhar⟩⟩

/-- The balance, which is nothing where none is known. -/
def balance (c : Customer) : ℕ := c.accountBalance?.getD 0

/-- The customer with another balance. -/
def withBalance (c : Customer) (balance : ℕ) : Customer :=
  { c with accountBalance? := some balance }

end Customer

/-! ## Limits -/

namespace Tier

/-- The limit of a tier as a number. -/
def amount : Tier → ℕ
  | .silver => 10000
  | .gold => 30000
  | .platinum => 50000

/-- The limits of tiers are exact. -/
theorem value?_limit (tier : Tier) : value? tier.limit = some (finite tier.amount) := by
  cases tier <;> decide +kernel

/-- **The limit of a tier is covered** by every balance of the tier that is
eligible for anything. -/
theorem amount_ofBalance_le {balance : ℕ} (h : leastBalance ≤ balance) :
    (ofBalance balance).amount ≤ balance := by
  rw [leastBalance] at h
  unfold ofBalance
  split
  · assumption
  · split <;> assumption

/-- **Limits grow with the balance.** -/
theorem amount_ofBalance_mono {balance balance' : ℕ} (h : balance ≤ balance') :
    (ofBalance balance).amount ≤ (ofBalance balance').amount := by
  unfold ofBalance
  split_ifs <;> first | omega | decide

end Tier

theorem value?_zero : value? 0 = some (finite 0) := by decide +kernel

/-! ## What a check says -/

/-- **The rule of approval**, for any amount that may be no number: documents and
balance are in order, and the amount is above zero and within the limit of the
tier. -/
structure Grants (c : Customer) (requested? : Option Extended) : Prop where
  documents : c.HasDocuments
  balance : leastBalance ≤ c.balance
  amount : ∃ v, requested? = some v ∧ finite 0 < v ∧
    v ≤ finite (Tier.ofBalance c.balance).amount

/-- Documents and balance are in order, and the amount is above the limit. -/
structure Exceeds (c : Customer) (requested? : Option Extended) : Prop where
  documents : c.HasDocuments
  balance : leastBalance ≤ c.balance
  amount : ∃ v, requested? = some v ∧ finite (Tier.ofBalance c.balance).amount < v

/-- The check approves a request. -/
def Approves (c : Customer) (requested : Float) : Prop :=
  ∃ a, assess c requested = .ok a ∧ a.approved = true

variable {c : Customer} {requested : Float} {requested? : Option Extended} {v : Extended}

/-- An amount that is rejected as it is has no value above zero. -/
theorem le_zero_of_invalid (h : (requested.isNaN || decide (requested ≤ 0)) = true)
    (hv : value? requested = some v) : v ≤ finite 0 := by
  rw [Bool.or_eq_true, Decimal.isNaN_iff, decide_eq_true_eq, Decimal.le_iff, hv, value?_zero] at h
  obtain h | ⟨_, _, ⟨⟩, ⟨⟩, hle⟩ := h
  · cases h
  · exact hle

/-- An amount that is not has one. -/
theorem exists_value_of_valid (h : ¬ (requested.isNaN || decide (requested ≤ 0)) = true) :
    ∃ v, value? requested = some v ∧ finite 0 < v := by
  rw [Bool.or_eq_true, not_or, Decimal.isNaN_iff, decide_eq_true_eq, Decimal.le_iff] at h
  obtain ⟨v, hv⟩ := Option.ne_none_iff_exists'.1 h.1
  exact ⟨v, hv, not_le.1 fun hle => h.2 ⟨_, _, hv, value?_zero, hle⟩⟩

/-- **What a check says**: it approves what the rule grants, for the amount that
was requested, fails for what is above the limit, and rejects the rest. -/
theorem assess_cases (c : Customer) (requested : Float) :
    (Grants c (value? requested) ∧ ∃ a, assess c requested = .ok a ∧ a.approved = true ∧
      a.amount = requested) ∨
    (Exceeds c (value? requested) ∧ ∃ refusal, assess c requested = .error refusal) ∨
    ¬ Grants c (value? requested) ∧ ∃ reason, assess c requested = .ok (.rejected reason) := by
  unfold assess
  dsimp only
  split
  · next hunidentified =>
    refine Or.inr (Or.inr ⟨fun h => ?_, _, rfl⟩)
    simp [Customer.isIdentified_iff.2 h.documents] at hunidentified
  · next hidentified =>
    have hdocuments : c.HasDocuments := Customer.isIdentified_iff.1 (by simpa using hidentified)
    split
    · next hlow => exact Or.inr (Or.inr ⟨fun h => absurd hlow (Nat.not_lt.2 h.balance), _, rfl⟩)
    · next hbalance =>
      have hbalance : leastBalance ≤ c.balance := Nat.not_lt.1 hbalance
      have hlimit : value? (Tier.ofBalance (c.accountBalance?.getD 0)).limit =
          some (finite (Tier.ofBalance c.balance).amount) := Tier.value?_limit _
      split
      · next hinvalid =>
        refine Or.inr (Or.inr ⟨fun h => ?_, _, rfl⟩)
        obtain ⟨v, hv, hpositive, -⟩ := h.amount
        exact hpositive.not_ge (le_zero_of_invalid hinvalid hv)
      · next hvalid =>
        obtain ⟨v, hv, hpositive⟩ := exists_value_of_valid hvalid
        split
        · next habove =>
          obtain ⟨_, _, hlimit', hv', hlt⟩ := Decimal.lt_iff.1 habove
          rw [hlimit, Option.some_inj] at hlimit'
          subst hlimit'
          exact Or.inr (Or.inl ⟨⟨hdocuments, hbalance, _, hv', hlt⟩, _, rfl⟩)
        · next hwithin =>
          refine Or.inl ⟨⟨hdocuments, hbalance, v, hv, hpositive, not_lt.1 fun hlt => ?_⟩,
            _, rfl, rfl, rfl⟩
          exact hwithin (Decimal.lt_iff.2 ⟨_, _, hlimit, hv, hlt⟩)

/-- **The check approves what the rule grants.** -/
theorem approves_iff : Approves c requested ↔ Grants c (value? requested) := by
  unfold Approves
  rcases assess_cases c requested with ⟨h, a, ha, happroved, -⟩ | ⟨h, refusal, hr⟩ |
    ⟨h, reason, ha⟩
  · exact iff_of_true ⟨a, ha, happroved⟩ h
  · refine iff_of_false ?_ fun hgrants => ?_
    · rintro ⟨a, ha, -⟩
      cases hr.symm.trans ha
    · obtain ⟨v, hv, -, hle⟩ := hgrants.amount
      obtain ⟨w, hw, hlt⟩ := h.amount
      rw [hv, Option.some_inj] at hw
      exact hle.not_gt (hw ▸ hlt)
  · refine iff_of_false ?_ h
    rintro ⟨a, ha', happroved⟩
    cases ha.symm.trans ha'
    cases happroved

namespace Grants

/-- **What is granted is covered by the balance.** -/
theorem covered (h : Grants c requested?) :
    ∃ v, requested? = some v ∧ finite 0 < v ∧ v ≤ finite (Tier.ofBalance c.balance).amount ∧
      v ≤ finite c.balance := by
  obtain ⟨v, hv, hpositive, hle⟩ := h.amount
  refine ⟨v, hv, hpositive, hle, hle.trans ?_⟩
  rw [Decimal.finite_le_finite, Nat.cast_le]
  exact Tier.amount_ofBalance_le h.balance

/-- **A higher balance grants as much.** -/
theorem withBalance (h : Grants c requested?) {balance : ℕ} (hle : c.balance ≤ balance) :
    Grants (c.withBalance balance) requested? := by
  obtain ⟨v, hv, hpositive, hlimit⟩ := h.amount
  refine ⟨⟨h.documents.pan, h.documents.aadhar⟩, h.balance.trans hle, v, hv, hpositive,
    hlimit.trans ?_⟩
  rw [Decimal.finite_le_finite, Nat.cast_le]
  exact Tier.amount_ofBalance_mono hle

/-- **Less is granted as well**, as long as it is something. -/
theorem less {w : Extended} (h : Grants c (some v)) (hpositive : finite 0 < w) (hle : w ≤ v) :
    Grants c (some w) := by
  obtain ⟨_, ⟨⟩, -, hlimit⟩ := h.amount
  exact ⟨h.documents, h.balance, w, rfl, hpositive, hle.trans hlimit⟩

end Grants

theorem Approves.withBalance (h : Approves c requested) {balance : ℕ}
    (hle : c.balance ≤ balance) : Approves (c.withBalance balance) requested :=
  approves_iff.2 ((approves_iff.1 h).withBalance hle)

theorem Approves.less (h : Approves c requested) {smaller : Float} (hpositive : 0 < smaller)
    (hle : smaller ≤ requested) : Approves c smaller := by
  obtain ⟨_, w, hzero, hw, hlt⟩ := Decimal.lt_iff.1 hpositive
  obtain ⟨_, v, hw', hv, hle⟩ := Decimal.le_iff.1 hle
  cases value?_zero.symm.trans hzero
  cases hw.symm.trans hw'
  refine approves_iff.2 (hw ▸ Grants.less (v := v) ?_ hlt hle)
  exact hv ▸ approves_iff.1 h

/-- **Approved amounts are covered.** The check approves a request exactly if its
exact value is granted, for the amount that was requested, and fails only if
documents and balance are in order and the amount is above the limit of the
tier. Whatever the amount, a number or not, what is granted is above zero and no
more than the limit and the balance, and it is granted at every higher balance,
as is every smaller amount above zero. So approvals stay approvals in the order
of floats. -/
theorem approvals_covered (c : Customer) :
    (∀ requested, Approves c requested ↔ Grants c (value? requested)) ∧
    (∀ requested a, assess c requested = .ok a → a.approved = true → a.amount = requested) ∧
    (∀ requested refusal, assess c requested = .error refusal →
      Exceeds c (value? requested)) ∧
    (∀ requested?, Grants c requested? →
      c.HasDocuments ∧
      (∃ v, requested? = some v ∧ finite 0 < v ∧ v ≤ finite (Tier.ofBalance c.balance).amount ∧
        v ≤ finite c.balance) ∧
      (∀ balance, c.balance ≤ balance → Grants (c.withBalance balance) requested?) ∧
      ∀ v w, requested? = some v → finite 0 < w → w ≤ v → Grants c (some w)) ∧
    ∀ requested, Approves c requested →
      (∀ balance, c.balance ≤ balance → Approves (c.withBalance balance) requested) ∧
      ∀ smaller, 0 < smaller → smaller ≤ requested → Approves c smaller := by
  refine ⟨fun _ => approves_iff, fun requested a ha happroved => ?_,
    fun requested refusal hr => ?_, fun requested? h => ⟨h.documents, h.covered,
      fun _ hle => h.withBalance hle, ?_⟩, fun requested h =>
      ⟨fun _ hle => h.withBalance hle, fun _ hpositive hle => h.less hpositive hle⟩⟩
  · rcases assess_cases c requested with ⟨-, b, hb, -, hamount⟩ | ⟨-, refusal, hr⟩ |
      ⟨-, reason, hb⟩
    · cases ha.symm.trans hb
      exact hamount
    · cases hr.symm.trans ha
    · cases ha.symm.trans hb
      cases happroved
  · rcases assess_cases c requested with ⟨-, b, hb, -⟩ | ⟨h, -⟩ | ⟨-, reason, hb⟩
    · cases hb.symm.trans hr
    · exact h
    · cases hb.symm.trans hr
  · rintro v w rfl hpositive hle
    exact h.less hpositive hle

/-- A made-up customer with a balance at the foot of the middle tier. -/
def goldCustomer : Customer := (Customer.madeUp "C-9").withBalance 30000

/-- The whole of that balance is approved, and so is all of it but a cent, at this
balance and at a higher one. -/
theorem whole_balance_approved :
    Approves goldCustomer 30000 ∧ Approves goldCustomer 29999.99 ∧
      Approves (goldCustomer.withBalance 49999) 30000 := by
  have happroved : Approves goldCustomer 30000 := by
    refine approves_iff.2 ⟨⟨isPresent_iff.1 ?_, isPresent_iff.1 ?_⟩, ?_, _, ?_, ?_, le_rfl⟩
    all_goals decide +kernel
  have hgold := approvals_covered goldCustomer
  obtain ⟨hhigher, hsmaller⟩ := hgold.2.2.2.2 30000 happroved
  exact ⟨happroved, hsmaller 29999.99 (by decide +kernel) (by decide +kernel),
    hhigher 49999 (by decide)⟩

end Lending

end WorkflowCanvas
