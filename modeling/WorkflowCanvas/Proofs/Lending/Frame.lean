import WorkflowCanvas.Lending.Operations
import WorkflowCanvas.Proofs.Engine.Variables
/-!
# What the loan operations change

An operation either gives up, and then its context is as it was, or it
succeeds after some writes. Each of the loan operations writes none but the
variables that its descriptor lists as outputs (`Handler.KeepsTo`). So a
rejected application is never updated in part, and all other variables pass
through an operation unchanged (`declared_outputs_change`).
-/


namespace WorkflowCanvas

namespace Operation

/-! ## Writes to a context -/

namespace Context

variable {c : Context} {writes : List (String × Json)} {key : String}

/-- The keys that are listed after some writes are those listed before and
those written. -/
theorem mem_written_setAll :
    key ∈ (c.setAll writes).written ↔ key ∈ c.written ∨ ∃ w ∈ writes, w.1 = key := by
  induction writes generalizing c with
  | nil => simp [setAll]
  | cons w ws ih =>
    show key ∈ ((c.set w.1 w.2).setAll ws).written ↔ _
    rw [ih, mem_written_set, List.exists_mem_cons_iff, or_assoc, @eq_comm _ key]

/-- A variable that is not written keeps its value. -/
theorem get?_setAll_of_forall (h : ∀ w ∈ writes, w.1 ≠ key) :
    (c.setAll writes).get? key = c.get? key := by
  induction writes generalizing c with
  | nil => rfl
  | cons w ws ih =>
    have hset : (c.set w.1 w.2).get? key = c.get? key :=
      Table.get?_insert_of_ne _ _ (h w List.mem_cons_self).symm
    have hrest : ((c.set w.1 w.2).setAll ws).get? key = (c.set w.1 w.2).get? key :=
      ih fun w' hw' => h w' (List.mem_cons_of_mem _ hw')
    exact hrest.trans hset

end Context

/-- **The handler keeps to some variables**: it gives up in the context that
it was given, or succeeds after writing those alone. -/
def Handler.KeepsTo (h : Handler) (outputs : List String) : Prop :=
  ∀ c, (∃ refusal, h c = (.error refusal, c)) ∨
    ∃ writes, h c = (.ok (), c.setAll writes) ∧ ∀ w ∈ writes, w.1 ∈ outputs

end Operation

namespace Lending

open Operation (Context Declaration Handler Refusal)

/-! ## The operations one by one -/

theorem openApplication_keepsTo :
    openApplication.KeepsTo ["applicationId", "applicationStatus", startTimeKey] := by
  intro c
  unfold openApplication
  split
  · exact Or.inl ⟨_, rfl⟩
  · refine Or.inr ⟨[("applicationId", _), ("applicationStatus", _), (startTimeKey, _)], rfl, ?_⟩
    simp

/-- The duration is written only if a start was recorded. -/
theorem closeApplication_keepsTo :
    closeApplication.KeepsTo ["applicationStatus", "processDurationMs"] := by
  intro c
  unfold closeApplication
  split
  · refine Or.inr ⟨[("processDurationMs", _), ("applicationStatus", _)], rfl, ?_⟩
    simp
  · refine Or.inr ⟨[("applicationStatus", _)], rfl, ?_⟩
    simp

theorem lookUpCustomer_keepsTo : lookUpCustomer.KeepsTo [customerKey] := by
  intro c
  unfold lookUpCustomer
  split
  · exact Or.inl ⟨_, rfl⟩
  · split
    · exact Or.inl ⟨_, rfl⟩
    · refine Or.inr ⟨[(customerKey, _)], rfl, ?_⟩
      simp

/-- Details are collected aside, so that nothing is written before the last
of them is known. -/
theorem collectDetails_keepsTo : collectDetails.KeepsTo [customerKey, "customerDetails"] := by
  intro c
  dsimp only [collectDetails]
  split
  · refine Or.inr ⟨[("customerDetails", _), (customerKey, _)], rfl, ?_⟩
    simp
  · exact Or.inl ⟨_, rfl⟩

theorem checkEligibility_keepsTo :
    checkEligibility.KeepsTo ["eligibilityResult", "eligibilityStatus"] := by
  intro c
  unfold checkEligibility
  split
  · exact Or.inl ⟨_, rfl⟩
  · split
    · exact Or.inl ⟨_, rfl⟩
    · split
      · exact Or.inl ⟨_, rfl⟩
      · refine Or.inr ⟨[("eligibilityStatus", _), ("eligibilityResult", _)], rfl, ?_⟩
        simp

theorem recordApproval_keepsTo : recordApproval.KeepsTo ["customerApproved"] := by
  intro c
  refine Or.inr ⟨[("customerApproved", _)], rfl, ?_⟩
  simp

theorem notifyCustomer_keepsTo :
    notifyCustomer.KeepsTo ["notificationSent", "notificationMessage"] := by
  intro c
  unfold notifyCustomer
  split
  · exact Or.inl ⟨_, rfl⟩
  · refine Or.inr ⟨[("notificationSent", _), ("notificationMessage", _)], rfl, ?_⟩
    simp

/-- **Every operation keeps to the outputs that it declares.** -/
theorem keepsTo_outputs {d : Declaration} (hd : d ∈ declarations) :
    d.handler.KeepsTo d.descriptor.outputs := by
  simp only [declarations, List.mem_cons, List.not_mem_nil, or_false] at hd
  rcases hd with rfl | rfl | rfl | rfl | rfl | rfl | rfl
  · exact openApplication_keepsTo
  · exact collectDetails_keepsTo
  · exact lookUpCustomer_keepsTo
  · exact checkEligibility_keepsTo
  · exact recordApproval_keepsTo
  · exact notifyCustomer_keepsTo
  · exact closeApplication_keepsTo

/-! ## The variables around an operation -/

/-- **Only declared outputs change.** Whatever the step and the variables are,
an operation that gives up leaves the variables and the list of written keys
as they were. One that succeeds adds declared outputs alone to that list, and
every variable that is not declared keeps its value. -/
theorem declared_outputs_change (d : Declaration) (hd : d ∈ declarations) (c : Context) :
    (∀ refusal after, d.handler c = (.error refusal, after) →
      after.store = c.store ∧ after.written = c.written) ∧
    (∀ after, d.handler c = (.ok (), after) →
      (∀ key ∈ after.written, key ∈ c.written ∨ key ∈ d.descriptor.outputs) ∧
      (c.written = [] → ∀ key ∈ after.written, key ∈ d.descriptor.outputs) ∧
      ∀ key, key ∉ d.descriptor.outputs → after.get? key = c.get? key) := by
  rcases keepsTo_outputs hd c with ⟨refusal, hrefused⟩ | ⟨writes, hdone, houtputs⟩
  · constructor
    · intro refusal' after h
      cases hrefused.symm.trans h
      exact ⟨rfl, rfl⟩
    · intro after h
      cases hrefused.symm.trans h
  · constructor
    · intro refusal after h
      cases hdone.symm.trans h
    · intro after h
      cases hdone.symm.trans h
      have hwritten : ∀ key ∈ (c.setAll writes).written,
          key ∈ c.written ∨ key ∈ d.descriptor.outputs := by
        intro key hkey
        rcases Context.mem_written_setAll.1 hkey with hbefore | ⟨w, hw, rfl⟩
        · exact Or.inl hbefore
        · exact Or.inr (houtputs w hw)
      refine ⟨hwritten, ?_, ?_⟩
      · intro hnone key hkey
        rcases hwritten key hkey with hbefore | hout
        · rw [hnone] at hbefore
          cases hbefore
        · exact hout
      · intro key hkey
        refine Context.get?_setAll_of_forall fun w hw heq => ?_
        exact hkey (heq ▸ houtputs w hw)

/-- A step that asks for the name and the PAN of a customer. -/
def detailsStep : Workflow.Element where
  id := "details"
  kind := .userTask none [] none
  extensions := ⟨[("requiredFields", "CUSTOMER_NAME, PAN")]⟩

/-- Its context for a customer whose PAN is known, with what is submitted. -/
def detailsContext (submitted : Table Json) : Context where
  instanceId := "loan"
  workflowKey := "loans"
  step := detailsStep
  store := submitted.insertAll
    [("channel", .str "branch"), (customerKey, .obj [("panNumber", .str "AAAAA1234A")])]

/-- Without a name the details are refused and nothing is written; with one the
channel of the application keeps its value. -/
theorem details_keep_channel :
    collectDetailsDeclaration ∈ declarations ∧
      ((collectDetails (detailsContext [])).1.isOk = false ∧
        (collectDetails (detailsContext [])).2.store = (detailsContext []).store) ∧
      ((collectDetails (detailsContext [("CUSTOMER_NAME", .str "Ann")])).1.isOk = true ∧
        (collectDetails (detailsContext [("CUSTOMER_NAME", .str "Ann")])).2.get? "channel" =
          (detailsContext [("CUSTOMER_NAME", .str "Ann")]).get? "channel") := by
  have hd : collectDetailsDeclaration ∈ declarations := by simp [declarations]
  have hrefused : collectDetails (detailsContext []) =
      (.error (.business "CUSTOMER_DETAILS_INCOMPLETE" "Missing customer details: CUSTOMER_NAME"),
        (collectDetails (detailsContext [])).2) := Prod.ext (by decide +kernel) rfl
  have hdone : collectDetails (detailsContext [("CUSTOMER_NAME", .str "Ann")]) =
      (.ok (), (collectDetails (detailsContext [("CUSTOMER_NAME", .str "Ann")])).2) :=
    Prod.ext (by decide +kernel) rfl
  obtain ⟨hkept, -⟩ := declared_outputs_change collectDetailsDeclaration hd (detailsContext [])
  obtain ⟨-, hframe⟩ := declared_outputs_change collectDetailsDeclaration hd
    (detailsContext [("CUSTOMER_NAME", .str "Ann")])
  obtain ⟨-, -, hothers⟩ := hframe _ hdone
  refine ⟨hd, ⟨?_, (hkept _ _ hrefused).1⟩, ?_, hothers "channel" (by decide)⟩
  · rw [hrefused]
    rfl
  · rw [hdone]
    rfl

end Lending

end WorkflowCanvas
