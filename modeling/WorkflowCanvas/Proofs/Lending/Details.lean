import WorkflowCanvas.Proofs.Lending.Frame
/-!
# Collected details

The details of a customer are collected one after the other: what was
submitted, or else what is on file. What is collected goes into the details as
it is, and into the record of the customer as far as the record can hold it.
After some fields, both say so for each field (`Collects`). A text can be made
of any value, but an amount cannot; so the details and the record agree
exactly if a submitted income is an amount (`collected_details_agree_iff`).
-/


namespace WorkflowCanvas

namespace Lending

open Operation (Context)

/-! ## Details in the record of a customer -/

namespace Detail

/-- The key of a detail in the value of a customer. -/
def recordKey : Detail → String
  | .name => "customerName"
  | .contactNumber => "contactNumber"
  | .address => "customerAddress"
  | .pan => "panNumber"
  | .aadhar => "aadharNumber"
  | .monthlyIncome => "monthlyIncome"

/-- What the value of a customer holds of a detail. -/
def heldIn? (record : Json) (d : Detail) : Option Json :=
  (record.field? d.recordKey).bind Json.nonNull?

/-- A value as an amount: a number, or a text of digits. -/
def amount? (v : Json) : Option Nat := v.unsigned?.or (unsigned? (Text.trim v.valueText))

/-- What the record of a customer takes of a value. -/
def taken? (v : Json) : Detail → Option Json
  | .monthlyIncome => (amount? v).map fun n : Nat => .int n
  | _ => some (.str v.valueText)

variable {d d' : Detail} {v : Json} {customer : Customer}

theorem ofLabel?_label (d : Detail) : ofLabel? d.label = some d := by cases d <;> rfl

theorem label_inj (h : d.label = d'.label) : d = d' :=
  Option.some.inj ((ofLabel?_label d).symm.trans ((congrArg ofLabel? h).trans (ofLabel?_label d')))

theorem label_of_ofLabel? {field : String} (h : ofLabel? field = some d) : d.label = field := by
  simpa using List.find?_some h

/-- What the value of a customer holds is what is known. -/
theorem heldIn?_toJson (customer : Customer) (d : Detail) :
    d.heldIn? customer.toJson = d.known? customer := by
  obtain ⟨id, name?, contactNumber?, address?, pan?, aadhar?, monthlyIncome?, -⟩ := customer
  cases d with
  | name => cases name? <;> rfl
  | contactNumber => cases contactNumber? <;> rfl
  | address => cases address? <;> rfl
  | pan => cases pan? <;> rfl
  | aadhar => cases aadhar? <;> rfl
  | monthlyIncome => cases monthlyIncome? <;> rfl

/-- A detail that is recorded is known as far as it is taken. -/
theorem known?_record_self (customer : Customer) (v : Json) (d : Detail) :
    d.known? (d.record customer v) = d.taken? v := by
  cases d with
  | monthlyIncome =>
    rw [record, taken?, amount?, known?]
    rcases v.unsigned?.or (unsigned? (Text.trim v.valueText)) with _ | n <;> rfl
  | _ => rfl

/-- Recording one detail leaves the others as they were. -/
theorem known?_record_of_ne (customer : Customer) (v : Json) (h : d' ≠ d) :
    d'.known? (d.record customer v) = d'.known? customer := by
  cases d <;> cases d' <;> first | rfl | exact absurd rfl h

/-- Only an income can be refused by the record. -/
theorem isSome_taken?_iff : (d.taken? v).isSome = true ↔
    (d = .monthlyIncome → (amount? v).isSome = true) := by
  cases d <;> simp [taken?, Option.isSome_map]

end Detail

/-- The income of a customer is an unsigned 64-bit integer. -/
def Customer.InRange (customer : Customer) : Prop :=
  ∀ n, customer.monthlyIncome? = some n → (n : Int) < Json.wordLimit

/-- **What is on file is taken as it is.** -/
theorem Customer.InRange.taken?_known {customer : Customer} (h : customer.InRange) {d : Detail}
    {v : Json} (hv : d.known? customer = some v) : d.taken? v = some v := by
  cases d with
  | monthlyIncome =>
    rcases hn : customer.monthlyIncome? with _ | n
    · rw [Detail.known?, hn] at hv
      cases hv
    · rw [Detail.known?, hn] at hv
      cases hv
      have hword : 0 ≤ (n : Int) ∧ (n : Int) < Json.wordLimit := ⟨Int.natCast_nonneg n, h n hn⟩
      rw [Detail.taken?, Detail.amount?, Json.unsigned?, if_pos hword]
      rfl
  | _ =>
    obtain ⟨text, -, rfl⟩ := Option.map_eq_some_iff.1 hv
    rfl

/-- A customer that is read has an income in range. -/
theorem inRange_of_ofJson? {j : Json} {customer : Customer}
    (h : Customer.ofJson? j = some customer) : customer.InRange := by
  have hread : ∀ {d : Document} {n? : Option Nat},
      d.asOption? Document.asUnsigned? = some n? →
        ∀ n, n? = some n → (n : Int) < Json.wordLimit := by
    rintro d n? hd n rfl
    cases d with
    | int i =>
      obtain ⟨m, hm, hsome⟩ := Option.map_eq_some_iff.1 hd
      cases hsome
      rw [Document.asUnsigned?] at hm
      split at hm
      · next hword =>
        cases hm
        rw [Int.toNat_of_nonneg hword.1]
        exact hword.2
      · cases hm
    | null => cases hd
    | _ => cases hd
  unfold Customer.ofJson? Customer.ofDocument? at h
  simp only [Option.bind_eq_bind, Option.bind_eq_some_iff] at h
  obtain ⟨r, -, id, -, name?, -, contactNumber?, -, address?, -, pan?, -, aadhar?, -, income?,
    hincome, balance?, -, hcustomer⟩ := h
  cases hcustomer
  intro n hn
  rw [Record.optionalDefault, Record.default] at hincome
  split at hincome
  · exact hread hincome n hn
  · cases hincome
    cases hn

/-- The customer on file has an income in range. -/
theorem inRange_currentCustomer (c : Context) : (currentCustomer c).InRange := by
  unfold currentCustomer
  split
  · next customer hcustomer =>
    obtain ⟨j, -, hj⟩ := Option.bind_eq_some_iff.1 hcustomer
    exact inRange_of_ofJson? hj
  · intro n hn
    cases hn

/-! ## One field after the other -/

/-- What was submitted for a detail: a variable that is not null. -/
def submitted? (c : Context) (d : Detail) : Option Json := (c.get? d.label).bind Json.nonNull?

/-- What is collected for a detail: what was submitted, or else what is on
file. -/
def collected? (c : Context) (d : Detail) : Option Json :=
  (submitted? c d).or (d.known? (currentCustomer c))

/-- The fields whose detail was neither submitted nor is on file. -/
def uncollected (c : Context) (fields : List String) : List String :=
  fields.filter fun field => (Detail.ofLabel? field).any fun d => (collected? c d).isNone

/-- **What has been collected for some fields.** -/
structure Collects (c : Context) (fields : List String) (found : Collection) : Prop where
  /-- The record has taken what it can of each of them. -/
  known : ∀ d : Detail, d.known? found.customer =
    if d.label ∈ fields then (collected? c d).bind fun v => d.taken? v
    else d.known? (currentCustomer c)
  /-- The details have each of them as it is, and nothing else. -/
  details : ∀ key, found.details.get? key =
    if key ∈ fields then (Detail.ofLabel? key).bind (collected? c) else none
  /-- Those that cannot be collected are noted. -/
  missing : found.missing = uncollected c fields

variable {c after : Context} {fields : List String} {found : Collection} {field : String}
  {d detail : Detail} {v : Json}

theorem collects_nil (c : Context) : Collects c [] { customer := currentCustomer c } where
  known _ := (if_neg List.not_mem_nil).symm
  details _ := (if_neg List.not_mem_nil).symm
  missing := rfl

/-- One field more does not matter to the others. -/
theorem mem_concat_of_ne {key : String} (h : key ≠ field) :
    key ∈ fields ++ [field] ↔ key ∈ fields := by
  simp [h]

theorem uncollected_concat (c : Context) (fields : List String) (field : String) :
    uncollected c (fields ++ [field]) = uncollected c fields ++ uncollected c [field] :=
  List.filter_append ..

theorem uncollected_of_ofLabel? (h : Detail.ofLabel? field = some d) :
    uncollected c [field] = if collected? c d = none then [field] else [] := by
  simp [uncollected, List.filter_singleton, h]

namespace Collects

/-- Collecting a detail once more comes to the same: what the record has taken
of the file is what was on file. -/
theorem or_known (h : Collects c fields found) (d : Detail) :
    (submitted? c d).or (d.known? found.customer) = collected? c d := by
  rcases hs : submitted? c d with _ | v
  · rw [collected?, hs, Option.none_or, Option.none_or, h.known]
    split
    · rw [collected?, hs, Option.none_or]
      rcases hk : d.known? (currentCustomer c) with _ | v
      · rfl
      · exact (inRange_currentCustomer c).taken?_known hk
    · rfl
  · rw [collected?, hs]
    rfl

/-- A name that is no detail is neither kept nor missed. -/
theorem skip (h : Collects c fields found) (hnone : Detail.ofLabel? field = none) :
    Collects c (fields ++ [field]) found where
  known d := by
    have hne : d.label ≠ field := by
      rintro rfl
      cases (Detail.ofLabel?_label d).symm.trans hnone
    rw [h.known d]
    simp only [mem_concat_of_ne hne]
  details key := by
    rw [h.details key]
    by_cases hkey : key = field
    · rw [hkey, hnone]
      exact (ite_self _).trans (ite_self _).symm
    · simp only [mem_concat_of_ne hkey]
  missing := by
    rw [h.missing, uncollected_concat]
    simp [uncollected, hnone]

/-- A detail that is collected is recorded and kept. -/
theorem keep (h : Collects c fields found) (hv : collected? c detail = some v) :
    Collects c (fields ++ [detail.label]) { found with
      customer := detail.record found.customer v
      details := found.details.insert detail.label v } where
  known d := by
    by_cases hd : d = detail
    · subst hd
      rw [Detail.known?_record_self, if_pos (by simp), hv]
      rfl
    · rw [Detail.known?_record_of_ne _ _ hd, h.known d]
      simp only [mem_concat_of_ne (mt Detail.label_inj hd)]
  details key := by
    by_cases hkey : key = detail.label
    · subst hkey
      rw [Table.get?_insert_self, if_pos (by simp), Detail.ofLabel?_label]
      exact hv.symm
    · rw [Table.get?_insert_of_ne _ _ hkey, h.details key]
      simp only [mem_concat_of_ne hkey]
  missing := by
    rw [h.missing, uncollected_concat, uncollected_of_ofLabel? (Detail.ofLabel?_label detail), hv]
    simp

/-- A detail that is not collected is noted, and nothing is on file of it. -/
theorem miss (h : Collects c fields found) (hnone : collected? c detail = none) :
    Collects c (fields ++ [detail.label])
      { found with missing := found.missing ++ [detail.label] } where
  known d := by
    by_cases hd : d = detail
    · subst hd
      have hfile : d.known? found.customer = none :=
        (Option.or_eq_none_iff.1 ((h.or_known d).trans hnone)).2
      rw [if_pos (by simp), hnone]
      exact hfile
    · simp only [mem_concat_of_ne (mt Detail.label_inj hd)]
      exact h.known d
  details key := by
    by_cases hkey : key = detail.label
    · subst hkey
      have hnil : (Detail.ofLabel? detail.label).bind (collected? c) = none := by
        rw [Detail.ofLabel?_label]
        exact hnone
      rw [h.details, hnil, ite_self, ite_self]
    · rw [h.details key]
      simp only [mem_concat_of_ne hkey]
  missing := by
    rw [h.missing, uncollected_concat, uncollected_of_ofLabel? (Detail.ofLabel?_label detail),
      if_pos hnone]

/-- **Collecting one more field.** -/
theorem collect (h : Collects c fields found) (field : String) :
    Collects c (fields ++ [field]) (collect c found field) := by
  unfold Lending.collect
  split
  · next hnone => exact h.skip hnone
  · next detail hdetail =>
    obtain rfl := Detail.label_of_ofLabel? hdetail
    split
    · next v hv => exact h.keep ((h.or_known detail).symm.trans hv)
    · next hnone => exact h.miss ((h.or_known detail).symm.trans hnone)

end Collects

/-- **Collecting all fields.** -/
theorem collects_foldl (c : Context) (fields : List String) :
    Collects c fields (fields.foldl (collect c) { customer := currentCustomer c }) := by
  induction fields using List.reverseRecOn with
  | nil => exact collects_nil c
  | append_singleton fields field ih =>
    rw [List.foldl_append]
    exact ih.collect field

/-! ## The two outputs -/

/-- The fields that a step requires. -/
def requiredFields (c : Context) : List String := c.extensionList "requiredFields"

/-- What is collected for the required fields. -/
def collection (c : Context) : Collection :=
  (requiredFields c).foldl (collect c) { customer := currentCustomer c }

theorem collectDetails_eq (c : Context) : collectDetails c =
    if uncollected c (requiredFields c) = [] then
      (.ok (), (c.set "customerDetails" (.obj (collection c).details)).set customerKey
        (collection c).customer.toJson)
    else
      (.error (.business "CUSTOMER_DETAILS_INCOMPLETE"
        ("Missing customer details: " ++ ", ".intercalate (uncollected c (requiredFields c)))),
        c) := by
  rw [← (collects_foldl c (requiredFields c)).missing]
  simp only [← List.isEmpty_iff]
  rfl

theorem uncollected_eq_nil_iff : uncollected c fields = [] ↔
    ∀ d : Detail, d.label ∈ fields → (collected? c d).isSome = true := by
  rw [uncollected, List.filter_eq_nil_iff]
  constructor
  · intro h d hd
    simpa [Detail.ofLabel?_label, Option.isSome_iff_ne_none] using h d.label hd
  · intro h field hfield
    rcases hd : Detail.ofLabel? field with _ | d
    · simp
    · obtain rfl := Detail.label_of_ofLabel? hd
      simpa [Option.isSome_iff_ne_none] using h d hfield

/-- **What a step requires is collected, or the step is refused.** The details
succeed exactly if each required detail was submitted or is on file. -/
theorem collectDetails_isOk_iff : (collectDetails c).1.isOk = true ↔
    ∀ d : Detail, d.label ∈ requiredFields c → (collected? c d).isSome = true := by
  rw [← uncollected_eq_nil_iff, collectDetails_eq]
  split
  · next h => exact iff_of_true rfl h
  · next h => exact iff_of_false Bool.false_ne_true h

/-- **What is collected of a detail is taken into the record**, unless it is a
submitted income that is no amount. What is on file is taken in any case. -/
theorem isSome_taken?_iff_of_collected (hv : collected? c d = some v) :
    (d.taken? v).isSome = true ↔ (d = .monthlyIncome →
      ∀ w, submitted? c .monthlyIncome = some w → (Detail.amount? w).isSome = true) := by
  rw [Detail.isSome_taken?_iff]
  constructor
  · rintro h rfl w hw
    rw [collected?, hw] at hv
    cases hv
    exact h rfl
  · rintro h rfl
    rcases hs : submitted? c .monthlyIncome with _ | w
    · rw [collected?, hs, Option.none_or] at hv
      have htaken := (inRange_currentCustomer c).taken?_known hv
      exact Detail.isSome_taken?_iff.1 (Option.isSome_of_eq_some htaken) rfl
    · rw [collected?, hs] at hv
      cases hv
      exact h rfl v hs

/-- **The details and the record agree exactly if a submitted income is an
amount.** When the details of a customer are collected, every required detail
is in the details as it was submitted, or as it is on file, and the record
holds what it takes of that value; other details are as they were on file, and
no other key is in the details. So both have every required detail exactly if
an income that is required and submitted is an amount: an unsigned integer, or
a value whose trimmed text is one. -/
theorem collected_details_agree_iff (c after : Context) (h : collectDetails c = (.ok (), after)) :
    ∃ (details : Table Json) (profile : Json), after.get? "customerDetails" = some (.obj details) ∧
      after.get? customerKey = some profile ∧
      (∀ d : Detail, d.label ∈ requiredFields c → ∃ v, collected? c d = some v ∧
        details.get? d.label = some v ∧ d.heldIn? profile = d.taken? v) ∧
      (∀ d : Detail, d.label ∉ requiredFields c →
        d.heldIn? profile = d.known? (currentCustomer c)) ∧
      (∀ key, (details.get? key).isSome = true →
        ∃ d : Detail, d.label = key ∧ key ∈ requiredFields c) ∧
      ((∀ d : Detail, d.label ∈ requiredFields c →
          (details.get? d.label).isSome = true ∧ (d.heldIn? profile).isSome = true) ↔
        (Detail.monthlyIncome.label ∈ requiredFields c →
          ∀ v, submitted? c .monthlyIncome = some v → (Detail.amount? v).isSome = true)) := by
  have hcollects : Collects c (requiredFields c) (collection c) := collects_foldl c _
  have hsome := collectDetails_isOk_iff.1 (congrArg (fun r => r.1.isOk) h)
  rw [collectDetails_eq, if_pos (uncollected_eq_nil_iff.2 hsome)] at h
  cases h
  have hboth : ∀ d : Detail, d.label ∈ requiredFields c → ∃ v, collected? c d = some v ∧
      (collection c).details.get? d.label = some v ∧
      d.heldIn? (collection c).customer.toJson = d.taken? v := by
    intro d hd
    obtain ⟨v, hv⟩ := Option.isSome_iff_exists.1 (hsome d hd)
    refine ⟨v, hv, ?_, ?_⟩
    · rw [hcollects.details, if_pos hd, Detail.ofLabel?_label]
      exact hv
    · rw [Detail.heldIn?_toJson, hcollects.known, if_pos hd, hv]
      rfl
  refine ⟨(collection c).details, (collection c).customer.toJson, ?_, ?_, hboth, ?_, ?_, ?_⟩
  · exact (Table.get?_insert_of_ne _ _ (by decide)).trans (Table.get?_insert_self _ _ _)
  · exact Table.get?_insert_self _ _ _
  · intro d hd
    rw [Detail.heldIn?_toJson, hcollects.known, if_neg hd]
  · intro key hkey
    rw [hcollects.details] at hkey
    split at hkey
    · next hmem =>
      obtain ⟨v, hv⟩ := Option.isSome_iff_exists.1 hkey
      obtain ⟨d, hd, -⟩ := Option.bind_eq_some_iff.1 hv
      exact ⟨d, Detail.label_of_ofLabel? hd, hmem⟩
    · cases hkey
  · constructor
    · intro hagree hincome
      obtain ⟨v, hv, -, hheld⟩ := hboth .monthlyIncome hincome
      have htaken := (hagree .monthlyIncome hincome).2
      rw [hheld] at htaken
      exact (isSome_taken?_iff_of_collected hv).1 htaken rfl
    · intro hamount d hd
      obtain ⟨v, hv, hdetails, hheld⟩ := hboth d hd
      rw [hdetails, hheld]
      refine ⟨rfl, (isSome_taken?_iff_of_collected hv).2 ?_⟩
      rintro rfl
      exact hamount hd

/-- A step that asks for the income of a customer, with what is submitted. -/
def incomeContext (income : Json) : Context where
  instanceId := "loan"
  workflowKey := "loans"
  step :=
    { id := "details"
      kind := .userTask none [] none
      extensions := ⟨[("requiredFields", "MONTHLY_INCOME")]⟩ }
  store := [("MONTHLY_INCOME", income), ("customerId", .str "C-7")]

/-- An income that is submitted as a text of digits reaches both outputs. -/
theorem written_income_recorded :
    collectDetails (incomeContext (.str " 85000 ")) =
        (.ok (), (collectDetails (incomeContext (.str " 85000 "))).2) ∧
      ∃ (details : Table Json) (profile : Json),
        (collectDetails (incomeContext (.str " 85000 "))).2.get? "customerDetails" =
          some (.obj details) ∧
        (collectDetails (incomeContext (.str " 85000 "))).2.get? customerKey = some profile ∧
        details.get? "MONTHLY_INCOME" = some (.str " 85000 ") ∧
        Detail.monthlyIncome.heldIn? profile = some (.int 85000) := by
  have hok : collectDetails (incomeContext (.str " 85000 ")) =
      (.ok (), (collectDetails (incomeContext (.str " 85000 "))).2) :=
    Prod.ext (by decide +kernel) rfl
  obtain ⟨details, profile, hdetails, hprofile, hrequired, -⟩ :=
    collected_details_agree_iff _ _ hok
  obtain ⟨v, hv, hkept, hheld⟩ := hrequired .monthlyIncome (by decide +kernel)
  obtain rfl : .str " 85000 " = v := Option.some.inj hv
  have hamount : Detail.amount? (.str " 85000 ") = some 85000 := by decide +kernel
  refine ⟨hok, details, profile, hdetails, hprofile, hkept, hheld.trans ?_⟩
  rw [Detail.taken?, hamount]
  rfl

/-- An income that is submitted with a fraction, be it zero, is in the details
but not in the record. -/
theorem fractional_income_unrecorded :
    ∃ (after : Context) (details : Table Json) (profile : Json),
      collectDetails (incomeContext (.float 85000.0)) = (.ok (), after) ∧
      requiredFields (incomeContext (.float 85000.0)) = ["MONTHLY_INCOME"] ∧
      after.get? "customerDetails" = some (.obj details) ∧
      after.get? customerKey = some profile ∧
      details.get? "MONTHLY_INCOME" = some (.float 85000.0) ∧
      Detail.monthlyIncome.heldIn? profile = none := by
  refine ⟨(collectDetails (incomeContext (.float 85000.0))).2, _, _,
    Prod.ext (by decide +kernel) rfl, by decide +kernel, rfl, rfl, rfl, ?_⟩
  decide +kernel

end Lending

end WorkflowCanvas
