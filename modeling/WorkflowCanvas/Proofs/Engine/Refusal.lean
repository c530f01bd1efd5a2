import WorkflowCanvas.Proofs.Engine.Lifecycle
/-!
# Calls that fail

A call that answers with an error was refused, and then the engine is
exactly what it was, or the run it began has failed, and then one instance
carries the failure and nothing else has changed. The failure itself tells
which (`Failure.isRefusal`).
-/


namespace WorkflowCanvas

namespace Engine

open Operation (Library)

variable {e : Engine} {c : Call} {ms : List Mark} {f : Failure}
variable {x : Except Failure Answer × Engine}

/-- The instance has failed with a failure, and the last event says so. -/
structure FailedLast (e : Engine) (i : Instance) (f : Failure) : Prop where
  state_eq : i.state = .failed
  detail_eq : i.detail? = some f.message
  pending_eq : i.pending = []
  tokens_eq : i.tokens = []
  head_log : e.log.head? = some (.instanceFailed i.id f.message)

/-- The call has made an instance, or has had one run on, and that instance
is now the given one; all others are as they were. -/
inductive Ran (e e' : Engine) (i : Instance) : Call → Prop
  | started {key : String} {vars : Table Json} :
      e.instance? i.id = none → e'.instances = e.instances ++ [i] → Ran e e' i (.start key vars)
  | resumed {name : String} {vars : Table Json} {before after : List Instance} {j : Instance} :
      e.instances = before ++ j :: after → j.id = i.id → j.state = .active →
      e'.instances = before ++ i :: after → Ran e e' i (.complete i.id name vars)

/-- An outcome that is an error is that of a failed run. -/
theorem failedWith_of_error {o : Except Failure Unit × Run} (h : Run.Ends o)
    (hf : (o.1.map fun _ => Answer.inst o.2.inst) = .error f) : o.2.FailedWith f := by
  rcases o with ⟨f' | ⟨⟩, r⟩
  · cases hf
    exact h
  · cases hf

/-- A failed run that is taken back leaves its failure last. -/
theorem failedLast_takeBack {r : Run} (h : r.FailedWith f) : (e.takeBack r).FailedLast r.inst f where
  state_eq := h.state_eq
  detail_eq := h.detail_eq
  pending_eq := h.pending_eq
  tokens_eq := h.tokens_eq
  head_log := by
    show (r.emitted ++ e.log).head? = _
    rw [List.head?_append, h.head_emitted]
    rfl

/-- **An error is a refusal or a failed run.** -/
theorem Effect.of_error (hx : Effect e c ms x) (h : e.Orderly) (hf : x.1 = .error f) :
    (f.isRefusal = true ∧ x.2 = e) ∨
    (f.isRefusal = false ∧ x.2.deployments = e.deployments ∧
      ∃ i, x.2.FailedLast i f ∧ Ran e x.2 i c) := by
  cases hx with
  | refused href =>
    cases hf
    exact Or.inl ⟨href, rfl⟩
  | asked => cases hf
  | deployed => cases hf
  | @started key vars p o hp ho =>
    have hfailed := failedWith_of_error (ends_started ho) hf
    refine Or.inr ⟨hfailed.not_isRefusal, rfl, o.2.inst, failedLast_takeBack hfailed, ?_⟩
    refine Ran.started ?_ (instances_started h.numbered ho)
    rw [instance?_eq_none_iff, (extends_started ho).id_eq]
    exact fun i hi => h.numbered.ne_identifier hi
  | @resumed id name vars i item others o hi hactive ht ho =>
    obtain ⟨hmem, hid⟩ := mem_of_instance? hi
    have hfailed := failedWith_of_error (h.ends_resumed hmem hactive ho) hf
    have hsame : o.2.inst.id = i.id := (extends_resumed ho).id_eq
    obtain ⟨before, after, hsplit⟩ := List.append_of_mem hmem
    refine Or.inr ⟨hfailed.not_isRefusal, rfl, o.2.inst, failedLast_takeBack hfailed, ?_⟩
    rw [← hid, ← hsame]
    exact Ran.resumed hsplit hsame.symm hactive
      (replace_append_cons h.numbered.toNamed hsplit hsame)
  | suspended => cases hf
  | reactivated => cases hf
  | terminated => cases hf

/-- **A call that answers with an error** was refused, and then nothing has
changed at all, or a start or a completion has failed while it ran. Then
the new or the addressed instance has failed with the text of the error,
with no token and nothing pending, the last event reports it, and all
other instances and the deployments are as they were. -/
theorem failed_call (library : Library) (stepLimit drawn now : Nat) (turns : List Turn) (c : Call)
    (f : Failure) (e' : Engine)
    (herror : ((new library stepLimit drawn now).after turns).perform c = (.error f, e')) :
    let e := (new library stepLimit drawn now).after turns
    (f.isRefusal = true ∧ e' = e) ∨
    (f.isRefusal = false ∧ e'.deployments = e.deployments ∧
      ∃ i, e'.FailedLast i f ∧ Ran e e' i c) := by
  intro e
  have hx : Effect e c (e.marks c) (.error f, e') := herror ▸ effect_perform e c
  exact hx.of_error (orderly_after library stepLimit drawn now turns) rfl

/-- A review whose check runs an operation when it is completed. -/
def ratedReviewWorkflow : Workflow where
  id := "rated"
  elements := [{ id := "begin", kind := .startEvent },
    { id := "check", kind := .userTask none [] none
      extensions := ⟨[(Workflow.delegationIdKey, "Rate")]⟩ }]
  flows := [{ id := "a", source := "begin", target := "check" }]

/-- The check is completed, but nobody has registered its operation: the
instance has failed, and a completion of another check is refused. -/
theorem failed_call_rated_review :
    let e := (new {} 10 0 0).after [.call (.deploy ratedReviewWorkflow), .call (.start "rated" [])]
    let done := e.perform (.complete (identifier 1) "check" [])
    let refused := e.perform (.complete (identifier 1) "recheck" [])
    (done.1 = .error (.unknownOperation "Rate") ∧
      ∃ i, done.2.FailedLast i (.unknownOperation "Rate") ∧
        Ran e done.2 i (.complete (identifier 1) "check" [])) ∧
    refused.1 = .error (.workItemNotFound (identifier 1) "recheck") ∧ refused.2 = e := by
  intro e done refused
  have hdone : done.1 = .error (.unknownOperation "Rate") := rfl
  have hrefused : refused.1 = .error (.workItemNotFound (identifier 1) "recheck") := rfl
  refine ⟨⟨hdone, ?_⟩, hrefused, ?_⟩
  · rcases failed_call {} 10 0 0 _ _ _ done.2 (Prod.ext hdone rfl) with ⟨href, -⟩ | ⟨-, -, hran⟩
    · cases href
    · exact hran
  · rcases failed_call {} 10 0 0 _ _ _ refused.2 (Prod.ext hrefused rfl) with
      ⟨-, hsame⟩ | ⟨hran, -⟩
    · exact hsame
    · cases hran

end Engine

end WorkflowCanvas
