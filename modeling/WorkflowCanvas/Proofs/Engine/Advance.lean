import WorkflowCanvas.Engine.Basic
import WorkflowCanvas.Proofs.Engine.Visit
/-!
# Where a run ends

A run that is underway visits elements until it comes to rest or fails
(`ends_advance`). At rest no token is left, and the instance is completed
if and only if nothing is pending. The same holds of the run that the
completion of a work item begins (`ends_resume`).
-/


namespace WorkflowCanvas

namespace Run

variable {s : Surroundings} {r : Run} {id : String} {rest : List String}

/-! ## Visiting elements in turn -/

theorem advanceFrom_nil {fuel : Nat} (h : r.inst.tokens = []) :
    advanceFrom s fuel r = (.ok (), r.settle) := by
  unfold advanceFrom
  rw [h]

theorem advanceFrom_zero (h : r.inst.tokens = id :: rest) :
    advanceFrom s 0 r =
      (.error (.stepLimit r.inst.id s.stepLimit),
        (r.pop rest).fail (.stepLimit r.inst.id s.stepLimit)) := by
  unfold advanceFrom
  rw [h]
  rfl

theorem advanceFrom_succ {fuel : Nat} (h : r.inst.tokens = id :: rest) :
    advanceFrom s (fuel + 1) r =
      match r.inst.workflow.element? id with
      | none =>
        (.error (.unknownElement r.inst.id id),
          (r.pop rest).fail (.unknownElement r.inst.id id))
      | some e =>
        match (r.pop rest).visit s e with
        | (.ok (), r) => advanceFrom s fuel r
        | (.error failure, r) => (.error failure, r) := by
  rw [advanceFrom.eq_def, h]
  rfl

/-- **Advancing extends the run.** -/
theorem extends_advanceFrom (s : Surroundings) (fuel : Nat) (r : Run) :
    Extends r (advanceFrom s fuel r).2 := by
  induction fuel generalizing r with
  | zero =>
    rcases ht : r.inst.tokens with _ | ⟨id, rest⟩
    · rw [advanceFrom_nil ht]
      exact extends_settle r
    · rw [advanceFrom_zero ht]
      exact (extends_pop r rest).trans (extends_fail _ _)
  | succ fuel ih =>
    rcases ht : r.inst.tokens with _ | ⟨id, rest⟩
    · rw [advanceFrom_nil ht]
      exact extends_settle r
    · rw [advanceFrom_succ ht]
      split
      · exact (extends_pop r rest).trans (extends_fail _ _)
      · next e _ =>
        have hvisit := (extends_pop r rest).trans (extends_visit s (r.pop rest) e)
        split
        · next r' hv => exact (hv ▸ hvisit).trans (ih r')
        · next r' hv => exact hv ▸ hvisit

theorem extends_advance (s : Surroundings) (r : Run) : Extends r (r.advance s).2 :=
  extends_advanceFrom s _ r

/-- **The run is at rest**: no token is left, and the instance is
completed exactly if nothing is pending. -/
structure Rested (r : Run) : Prop where
  tokens_eq : r.inst.tokens = []
  detail_eq : r.inst.detail? = none
  at_rest : r.inst.state = .active ∧ r.inst.pending ≠ [] ∨
    r.inst.state = .completed ∧ r.inst.pending = []

/-- How a run ends: at rest, or failed. -/
def Ends : Except Failure Unit × Run → Prop
  | (.ok (), r) => r.Rested
  | (.error f, r) => r.FailedWith f

theorem rested_settle (ht : r.inst.tokens = []) (h : r.Underway) : r.settle.Rested := by
  obtain ⟨hactive, hdetail⟩ := h
  unfold settle
  by_cases hp : r.inst.pending = []
  · rw [if_pos ⟨hactive, by rw [hp]; rfl⟩]
    exact ⟨ht, hdetail, Or.inr ⟨rfl, hp⟩⟩
  · rw [if_neg (by simp [hp])]
    exact ⟨ht, hdetail, Or.inl ⟨hactive, hp⟩⟩

/-- **A run that is underway comes to rest or fails.** -/
theorem ends_advanceFrom (s : Surroundings) (fuel : Nat) (h : r.Underway) :
    Ends (advanceFrom s fuel r) := by
  induction fuel generalizing r with
  | zero =>
    rcases ht : r.inst.tokens with _ | ⟨id, rest⟩
    · rw [advanceFrom_nil ht]
      exact rested_settle ht h
    · rw [advanceFrom_zero ht]
      exact failedWith_fail _ rfl
  | succ fuel ih =>
    rcases ht : r.inst.tokens with _ | ⟨id, rest⟩
    · rw [advanceFrom_nil ht]
      exact rested_settle ht h
    · rw [advanceFrom_succ ht]
      split
      · exact failedWith_fail _ rfl
      · next e _ =>
        have hvisit : Goes ((r.pop rest).visit s e) := goes_visit h
        split
        · next r' hv => exact ih (by rw [hv] at hvisit; exact hvisit)
        · next r' hv => rw [hv] at hvisit; exact hvisit

theorem ends_advance (s : Surroundings) (h : r.Underway) : Ends (r.advance s) :=
  ends_advanceFrom s _ h

/-! ## Completing a work item -/

/-- Completes a work item that was taken off the pending ones: its
operation runs and the flows after it are followed. -/
def completeItem (s : Surroundings) (r : Run) (item : WorkItem) : Except Failure Unit × Run :=
  match r.inst.workflow.element? item.nodeId with
  | none =>
    (.error (.workItemWithoutElement item.nodeId), r.fail (.workItemWithoutElement item.nodeId))
  | some e =>
    match Engine.completeStep s r e with
    | (.ok (), r) => (.ok (), r.follow e.id)
    | (.error failure, r) => (.error failure, r)

/-- Completes a work item and visits elements from there. -/
def resume (s : Surroundings) (r : Run) (item : WorkItem) : Except Failure Unit × Run :=
  match r.completeItem s item with
  | (.ok (), r) => r.advance s
  | (.error failure, r) => (.error failure, r)

theorem extends_completeStep (s : Surroundings) (r : Run) (e : Workflow.Element) :
    Extends r (Engine.completeStep s r e).2 := by
  unfold Engine.completeStep
  split
  · exact extends_runStep s r e
  · exact extends_emit rfl rfl

theorem extends_completeItem (s : Surroundings) (r : Run) (item : WorkItem) :
    Extends r (r.completeItem s item).2 := by
  unfold completeItem
  split
  · exact extends_fail r _
  · next e _ =>
    have hstep := extends_completeStep s r e
    split
    · next hs => exact (hs ▸ hstep).trans (extends_follow _ _)
    · next hs => exact hs ▸ hstep

theorem extends_resume (s : Surroundings) (r : Run) (item : WorkItem) :
    Extends r (r.resume s item).2 := by
  have hitem := extends_completeItem s r item
  unfold resume
  split
  · next hi => exact (hi ▸ hitem).trans (extends_advance s _)
  · next hi => exact hi ▸ hitem

theorem goes_completeStep (s : Surroundings) (e : Workflow.Element) (h : r.Underway) :
    Goes (Engine.completeStep s r e) := by
  unfold Engine.completeStep
  split
  · exact goes_runStep h
  · exact h

theorem goes_completeItem (s : Surroundings) (item : WorkItem) (h : r.Underway) :
    Goes (r.completeItem s item) := by
  unfold completeItem
  split
  · exact failedWith_fail r rfl
  · next e _ =>
    have hstep := goes_completeStep s e h
    split
    · next hs => rw [hs] at hstep; exact hstep
    · next hs => rw [hs] at hstep; exact hstep

/-- **A completion ends at rest or failed.** -/
theorem ends_resume (s : Surroundings) (item : WorkItem) (h : r.Underway) :
    Ends (r.resume s item) := by
  have hitem := goes_completeItem s item h
  unfold resume
  split
  · next hi => rw [hi] at hitem; exact ends_advance s hitem
  · next hi => rw [hi] at hitem; exact hitem

end Run

end WorkflowCanvas
