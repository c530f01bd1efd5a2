import WorkflowCanvas.Proofs.Engine.Deed
import WorkflowCanvas.Proofs.Engine.Tokens
/-!
# What the step limit bounds

An engine counts the visits of an instance over its whole life and fails it
once they exceed the limit. So no instance ever makes more visits
(`visits_le_after`). Nor does it ever dispatch more operations: an automatic
step dispatches its operation when it is visited, and a user step has paid
with a visit for every work item that is completed later
(`Course.dispatches_le`).

The loop over the tokens has no other measure. `Run.round` is one round of it,
and `Run.Loops` counts the rounds that it takes: at most one more than there
are visits left (`Run.loops_advance`).
-/


namespace WorkflowCanvas

open Operation (Library)

/-- The event says that an operation is dispatched. -/
def Event.isDispatch : Event → Bool
  | .stepStarted .. => true
  | _ => false

namespace Engine

/-- How many operations were dispatched. -/
def dispatches (es : List Event) : Nat := es.countP Event.isDispatch

/-- The dispatches that events tell are deeds. -/
theorem countP_deedsOf (es : List Event) : (deedsOf es).countP Deed.isDispatch = dispatches es := by
  rw [deedsOf, dispatches, List.countP_filterMap]
  congr 1
  funext v
  cases v <;> rfl

theorem countP_deeds (ms : List Mark) :
    (ms.flatMap Mark.deeds).countP Deed.isDispatch = ms.countP Mark.dispatches := by
  have hone : ∀ m : Mark, m.deeds.countP Deed.isDispatch = if m.dispatches then 1 else 0 := by
    intro m
    unfold Mark.deeds
    cases m.parks <;> cases m.dispatches <;> cases m.completes <;> rfl
  induction ms with
  | nil => rfl
  | cons m ms ih =>
    rw [List.flatMap_cons, List.countP_append, ih, hone, List.countP_cons, Nat.add_comm]

end Engine

open Engine (visited)

namespace Mark

variable {m : Mark}

/-- **A lawful mark leaves a work item** where it parks a token, and no other
one. -/
theorem Lawful.length_pending (h : m.Lawful) :
    m.after.pending.length = m.before.pending.length + if m.parks then 1 else 0 := by
  -- the items are counted at each element, so that they are the same up to order
  have hperm : (m.after.pending.map (·.nodeId)).Perm
      (m.before.pending.map (·.nodeId) ++ if m.parks then [m.element.id] else []) := by
    rw [List.perm_iff_count]
    intro u
    have hnew : (if m.parks then [m.element.id] else []).count u =
        if m.isVisit = true ∧ m.element.kind.isUserTask = true ∧ m.element.id = u then 1 else 0 := by
      rw [parks]
      by_cases hid : m.element.id = u <;> cases m.isVisit <;> cases m.element.kind.isUserTask <;>
        simp [hid]
    rw [List.count_append, hnew, List.count_eq_countP, List.count_eq_countP, List.countP_map,
      List.countP_map]
    exact h.pending_eq u
  have hlength := hperm.length_eq
  rw [List.length_append, List.length_map, List.length_map] at hlength
  rw [hlength]
  cases m.parks <;> rfl

/-- An element that dispatches its operation when it is visited leaves no
work item. -/
theorem parks_eq_false_of_dispatches (h : m.dispatches = true) : m.parks = false := by
  have hworks := (Bool.and_eq_true_iff.1 h).1
  rcases Bool.or_eq_true_iff.1 hworks with hv | hauto
  · have hitem : m.isVisit = false := by simpa using hv
    rw [parks, hitem, Bool.false_and]
  · exact (Run.works_of_isAutomatic hauto).2

end Mark

namespace Course

variable {h : List Mark} {i : Instance}

/-- **Every dispatch is paid for by a visit**, and so is every work item that
is still pending. -/
theorem dispatches_add_le (hc : Course h i) :
    ∃ left, h.countP Mark.dispatches + left ≤ (visited h).length ∧
      (i.state.isHalted = false → left = i.pending.length) := by
  induction hc with
  | opened _ _ _ hpend => exact ⟨0, Nat.le_refl _, fun _ => by rw [hpend]; rfl⟩
  | @marked h i m hc hactive ht hs ih =>
    obtain ⟨left, hle, hleft⟩ := ih
    have hleft := hleft (by rw [hactive]; rfl)
    rw [List.countP_append, List.countP_singleton]
    cases ht with
    | @token id rest _ _ hitem hm =>
      have hbefore : m.before.pending.length = left := by rw [hleft, hm]
      rw [Engine.visited_concat_visit hitem, List.length_append, List.length_singleton]
      rcases hs with hl | hf
      · -- the visit pays for the dispatch or for the work item, never for both
        refine ⟨m.after.pending.length, ?_, fun _ => rfl⟩
        rw [hl.length_pending, hbefore]
        by_cases hd : m.dispatches = true
        · rw [if_pos hd, Mark.parks_eq_false_of_dispatches hd]
          simp only [Bool.false_eq_true, if_false]
          omega
        · rw [if_neg hd]
          split <;> omega
      · refine ⟨left, ?_, fun hh => ?_⟩
        · split <;> omega
        · rw [hf.state_eq] at hh
          cases hh
    | @item name w others vars htake _ hitem hm =>
      have hbefore : m.before.pending.length + 1 = left := by
        have hlength := (Engine.perm_takeItem? htake).length_eq
        rw [List.length_cons] at hlength
        have hothers : m.before.pending = others := by rw [hm]; rfl
        rw [hothers, hleft, hlength]
      have hparks : m.parks = false := by simp [Mark.parks, Mark.isVisit, hitem]
      rw [Engine.visited_concat_item hitem]
      refine ⟨m.before.pending.length, ?_, fun hh => ?_⟩
      · split <;> omega
      · rw [(hs.lawful hh).length_pending, hparks]
        rfl
  | halted _ _ _ hh ih =>
    obtain ⟨left, hle, -⟩ := ih
    refine ⟨left, hle, fun hh' => ?_⟩
    rw [hh] at hh'
    cases hh'
  | moved _ hh _ ih =>
    obtain ⟨left, hle, hleft⟩ := ih
    exact ⟨left, hle, fun _ => hleft hh⟩

/-- **An instance dispatches no more operations than it makes visits.** -/
theorem dispatches_le (hc : Course h i) : h.countP Mark.dispatches ≤ (visited h).length := by
  obtain ⟨left, hle, -⟩ := hc.dispatches_add_le
  omega

end Course

namespace Run

variable {s : Surroundings} {r r' : Run} {e : Workflow.Element} {o : Except Failure Unit × Run}

/-! ## The visits of a run -/

/-- A visit is counted before it is made. -/
theorem Visited.steps_eq (hv : Visited s r e (.ok (), r')) : r'.inst.steps = r.inst.steps := by
  cases hv with
  | joined =>
    rw [join_eq]
    split
    · split <;> rfl
    · rfl
  | _ => rfl

theorem Handled.steps_eq (hh : Handled s r e (.ok (), r')) : r'.inst.steps = r.inst.steps := by
  cases hh <;> rfl

/-- **A run makes no more visits than it has left.** -/
theorem length_visited_marksFrom (s : Surroundings) (fuel : Nat) (r : Run) :
    (visited (marksFrom s fuel r)).length ≤ fuel := by
  induction fuel generalizing r with
  | zero =>
    rw [marksFrom_zero]
    exact Nat.le_refl _
  | succ fuel ih =>
    rcases ht : r.inst.tokens with _ | ⟨id, rest⟩
    · rw [marksFrom_nil ht]
      exact Nat.zero_le _
    · rw [marksFrom_succ ht]
      split
      · next e _ =>
        have hcons : ∀ m ms, (visited (m :: ms)).length ≤ (visited ms).length + 1 := by
          intro m ms
          rw [visited, List.length_map, visited, List.length_map, List.filter_cons]
          split
          · exact Nat.le_refl _
          · exact Nat.le_succ _
        refine (hcons _ _).trans (Nat.succ_le_succ ?_)
        split
        · next r' _ => exact ih r'
        · exact Nat.zero_le _
      · exact Nat.zero_le _

theorem length_visited_resumeMarks (s : Surroundings) (r : Run) (item : WorkItem) :
    (visited (r.resumeMarks s item)).length ≤ s.stepLimit - r.inst.steps := by
  unfold resumeMarks
  split
  · next e he =>
    have hhandled := handled_completeItem s he
    have hitem : ∀ ms, visited (r.mark (some item) e (r.completeItem s item) :: ms) = visited ms :=
      fun ms => rfl
    rw [hitem]
    split
    · next r' ho =>
      rw [ho] at hhandled
      rw [← hhandled.steps_eq]
      exact length_visited_marksFrom s _ r'
    · exact Nat.zero_le _
  · exact Nat.zero_le _

/-! ## The loop over the tokens -/

/-- **One round of the loop over the tokens**: either it is the last one, with
the outcome of the run, or the run goes on. -/
def round (s : Surroundings) (r : Run) : (Except Failure Unit × Run) ⊕ Run :=
  match r.inst.tokens with
  | [] => .inl (.ok (), r.settle)
  | id :: rest =>
    let r := r.pop rest
    if s.stepLimit < r.inst.steps then
      .inl (.error (.stepLimit r.inst.id s.stepLimit), r.fail (.stepLimit r.inst.id s.stepLimit))
    else
      match r.inst.workflow.element? id with
      | none => .inl (.error (.unknownElement r.inst.id id), r.fail (.unknownElement r.inst.id id))
      | some e =>
        match r.visit s e with
        | (.ok (), r) => .inr r
        | (.error failure, r) => .inl (.error failure, r)

/-- **The loop ends after some rounds**, and this is its outcome. -/
inductive Loops (s : Surroundings) : Nat → Run → Except Failure Unit × Run → Prop
  | last {r : Run} {o : Except Failure Unit × Run} : r.round s = .inl o → Loops s 1 r o
  | next {r r' : Run} {n : Nat} {o : Except Failure Unit × Run} : r.round s = .inr r' →
      Loops s n r' o → Loops s (n + 1) r o

/-- The loop ends at most one round after the visits that are left. -/
theorem loops_advanceFrom (fuel : Nat) (hfuel : fuel = s.stepLimit - r.inst.steps) :
    ∃ n ≤ fuel + 1, Loops s n r (advanceFrom s fuel r) := by
  induction fuel generalizing r with
  | zero =>
    refine ⟨1, Nat.le_refl _, Loops.last ?_⟩
    rcases ht : r.inst.tokens with _ | ⟨id, rest⟩
    · rw [advanceFrom_nil ht, round, ht]
    · have hover : s.stepLimit < (r.pop rest).inst.steps := by
        show s.stepLimit < r.inst.steps + 1
        omega
      rw [advanceFrom_zero ht, round, ht]
      exact if_pos hover
  | succ fuel ih =>
    rcases ht : r.inst.tokens with _ | ⟨id, rest⟩
    · refine ⟨1, by omega, Loops.last ?_⟩
      rw [advanceFrom_nil ht, round, ht]
    · have hunder : ¬ s.stepLimit < (r.pop rest).inst.steps := by
        show ¬ s.stepLimit < r.inst.steps + 1
        omega
      have hround : r.round s =
          match r.inst.workflow.element? id with
          | none => .inl (.error (.unknownElement r.inst.id id),
              (r.pop rest).fail (.unknownElement r.inst.id id))
          | some e =>
            match (r.pop rest).visit s e with
            | (.ok (), r) => .inr r
            | (.error failure, r) => .inl (.error failure, r) := by
        rw [round, ht]
        exact if_neg hunder
      rw [advanceFrom_succ ht]
      rcases he : r.inst.workflow.element? id with _ | e <;> rw [he] at hround
      · exact ⟨1, by omega, Loops.last hround⟩
      · have hvisited := visited_visit s (r.pop rest) e
        dsimp only at hround ⊢
        rcases hv : (r.pop rest).visit s e with ⟨f | ⟨⟩, r'⟩ <;> rw [hv] at hround hvisited
        · exact ⟨1, by omega, Loops.last hround⟩
        · have hsteps : r'.inst.steps = r.inst.steps + 1 := hvisited.steps_eq
          obtain ⟨n, hn, hloops⟩ := ih (r := r') (by omega)
          exact ⟨n + 1, by omega, Loops.next hround hloops⟩

/-- **Advancing is the loop over the tokens**, and it ends. -/
theorem loops_advance (s : Surroundings) (r : Run) :
    ∃ n ≤ s.stepLimit - r.inst.steps + 1, Loops s n r (r.advance s) :=
  loops_advanceFrom _ rfl

end Run

namespace Engine

/-! ## Every instance stays under the limit -/

/-- The instance has made no more visits than the limit allows. -/
def Under (limit : Nat) (ms : List Mark) (_ : List Event) (_ : Instance) : Prop :=
  (visited ms).length ≤ limit

theorem matched_under (limit : Nat) : Matched (fun s => s.stepLimit = limit) (Under limit) where
  opened {e key p vars o} hs _ := by
    have hvisits := Run.length_visited_marksFrom e.surroundings
      (e.surroundings.stepLimit - (e.opening key p vars).inst.steps) (e.opening key p vars)
    exact hvisits.trans (hs ▸ Nat.sub_le _ _)
  resumed {e i ms es name vars item others o} hs hc h hactive _ _ := by
    have hvisits :=
      Run.length_visited_resumeMarks e.surroundings (e.resuming i others vars) item
    -- what was visited before is what the instance has counted
    have hsteps : (visited ms).length = (e.resuming i others vars).inst.steps :=
      (hc.lawful (by rw [hactive]; rfl)).2
    have hlimit : (visited ms).length ≤ limit := h
    rw [hs] at hvisits
    rw [Under, visited_append, List.length_append]
    omega
  suspended h _ := h
  reactivated h _ := h
  terminated h _ := h

/-- **No instance makes more visits than the limit allows**, and none
dispatches more operations, after any turns. -/
theorem visits_le_after (library : Library) (stepLimit drawn now : Nat) (turns : List Turn) :
    let e := new library stepLimit drawn now
    ∀ i ∈ (e.after turns).instances,
      (visited (e.history turns i.id)).length ≤ stepLimit ∧
      dispatches (eventsOf i.id (e.after turns).log) ≤ stepLimit := by
  intro e i hi
  have hvisits : (visited (e.history turns i.id)).length ≤ stepLimit :=
    (matched_under stepLimit).after (S := fun s => s.stepLimit = stepLimit) rfl
      (fun _ _ _ => rfl) i hi
  have hdispatches := (course_after library stepLimit drawn now turns i hi).dispatches_le
  have hdeeds := deeds_after library stepLimit drawn now turns i hi
  rw [← countP_deedsOf, hdeeds, countP_deeds]
  exact ⟨hvisits, hdispatches.trans hvisits⟩

end Engine

end WorkflowCanvas
