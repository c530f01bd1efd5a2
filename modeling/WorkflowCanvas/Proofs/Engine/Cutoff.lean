import WorkflowCanvas.Proofs.Engine.Limit
/-!
# The step limit only cuts off

A limit decides when an instance is failed, and nothing else. Where no call
fails for it, a larger limit gives the same answers, and leaves the same
engine behind: the same instances, the same events and the same numbers drawn
(`after_withLimit`). Together with what the limit bounds this is
`step_limit_cuts_off`.
-/


namespace WorkflowCanvas

open Operation (Library)

/-- The failure is that an instance has exceeded the step limit. -/
def Failure.isStepLimit : Failure → Bool
  | .stepLimit _ _ => true
  | _ => false

/-- The surroundings with another limit. -/
def Surroundings.withLimit (s : Surroundings) (limit : Nat) : Surroundings :=
  { s with stepLimit := limit }

namespace Run

variable {s : Surroundings} {r : Run} {limit : Nat}

/-- The outcome is not that the limit was exceeded. -/
def Unlimited (o : Except Failure Unit × Run) : Prop :=
  ∀ f, o.1 = .error f → f.isStepLimit = false

/-- A visit does not look at the limit. -/
theorem visit_withLimit (s : Surroundings) (r : Run) (e : Workflow.Element) (limit : Nat) :
    r.visit (s.withLimit limit) e = r.visit s e := rfl

/-- **More visits left give the same outcome**, unless there were too few. -/
theorem advanceFrom_withLimit {fuel fuel' : Nat} (hle : fuel ≤ fuel')
    (h : Unlimited (advanceFrom s fuel r)) :
    advanceFrom (s.withLimit limit) fuel' r = advanceFrom s fuel r := by
  induction fuel generalizing r fuel' with
  | zero =>
    rcases ht : r.inst.tokens with _ | ⟨id, rest⟩
    · rw [advanceFrom_nil ht, advanceFrom_nil ht]
    · rw [advanceFrom_zero ht] at h
      cases h _ rfl
  | succ fuel ih =>
    obtain ⟨fuel', rfl⟩ : ∃ k, fuel' = k + 1 := ⟨fuel' - 1, by omega⟩
    have hle : fuel ≤ fuel' := Nat.le_of_succ_le_succ hle
    rcases ht : r.inst.tokens with _ | ⟨id, rest⟩
    · rw [advanceFrom_nil ht, advanceFrom_nil ht]
    · rw [advanceFrom_succ ht] at h ⊢
      rw [advanceFrom_succ ht]
      rcases he : r.inst.workflow.element? id with _ | e
      · rfl
      · simp only [he, visit_withLimit] at h ⊢
        rcases hv : (r.pop rest).visit s e with ⟨f | ⟨⟩, r'⟩
        · rfl
        · rw [hv] at h
          exact ih hle h

theorem advance_withLimit (hle : s.stepLimit ≤ limit) (h : Unlimited (r.advance s)) :
    r.advance (s.withLimit limit) = r.advance s :=
  advanceFrom_withLimit (Nat.sub_le_sub_right hle _) h

theorem completeItem_withLimit (s : Surroundings) (r : Run) (item : WorkItem) (limit : Nat) :
    r.completeItem (s.withLimit limit) item = r.completeItem s item := rfl

theorem resume_withLimit {item : WorkItem} (hle : s.stepLimit ≤ limit)
    (h : Unlimited (r.resume s item)) :
    r.resume (s.withLimit limit) item = r.resume s item := by
  unfold resume at h ⊢
  rw [completeItem_withLimit]
  rcases ho : r.completeItem s item with ⟨f | ⟨⟩, r'⟩
  · rfl
  · rw [ho] at h
    exact advance_withLimit hle h

end Run

namespace Engine

variable {e : Engine} {c : Call} {limit : Nat}

/-- An engine with another limit. -/
def withLimit (e : Engine) (limit : Nat) : Engine := { e with stepLimit := limit }

/-- **The answers to the calls of some turns**, in order. -/
def answers (e : Engine) : List Turn → List (Except Failure Answer)
  | [] => []
  | .call c :: ts => (e.perform c).1 :: (e.perform c).2.answers ts
  | .lend library now :: ts => (e.turn (.lend library now)).answers ts

/-- A run that is not cut off is answered alike. -/
theorem finish_withLimit {o : Except Failure Unit × Run} (e : Engine) (limit : Nat) :
    answer .inst ((e.withLimit limit).finish o) =
      ((answer .inst (e.finish o)).1, (answer .inst (e.finish o)).2.withLimit limit) := by
  rw [answer_finish, answer_finish]
  rfl

theorem unlimited_of_finish {o : Except Failure Unit × Run}
    (h : ∀ f, (answer .inst (e.finish o)).1 = .error f → f.isStepLimit = false) :
    Run.Unlimited o := by
  intro f hf
  rw [answer_finish, hf] at h
  exact h f rfl

theorem deployments_withLimit (e : Engine) (limit : Nat) :
    (e.withLimit limit).deployments = e.deployments := rfl

theorem instance?_withLimit (e : Engine) (limit : Nat) (id : String) :
    (e.withLimit limit).instance? id = e.instance? id := rfl

theorem start_withLimit {key : String} {vars : Table Json} (hle : e.stepLimit ≤ limit)
    (h : ∀ f, (e.perform (.start key vars)).1 = .error f → f.isStepLimit = false) :
    (e.withLimit limit).perform (.start key vars) =
      ((e.perform (.start key vars)).1, (e.perform (.start key vars)).2.withLimit limit) := by
  rcases hp : e.deployments.get? key with _ | p
  · simp only [perform, start, deployments_withLimit, hp]
    rfl
  · have hp' : (e.withLimit limit).deployments.get? key = some p := hp
    rw [perform, start_eq hp] at h
    have hsame : (e.opening key p vars).advance (e.surroundings.withLimit limit) =
        (e.opening key p vars).advance e.surroundings :=
      Run.advance_withLimit hle (unlimited_of_finish h)
    rw [perform, perform, start_eq hp, start_eq hp']
    show answer .inst (((e.enrol (e.opening key p vars).inst).withLimit limit).finish
      ((e.opening key p vars).advance (e.surroundings.withLimit limit))) = _
    rw [hsame]
    exact finish_withLimit _ limit

theorem complete_withLimit {id name : String} {vars : Table Json} (hle : e.stepLimit ≤ limit)
    (h : ∀ f, (e.perform (.complete id name vars)).1 = .error f → f.isStepLimit = false) :
    (e.withLimit limit).perform (.complete id name vars) =
      ((e.perform (.complete id name vars)).1,
        (e.perform (.complete id name vars)).2.withLimit limit) := by
  rcases hi : e.instance? id with _ | i
  · simp only [perform, complete, instance?_withLimit, hi]
    rfl
  have hi' : (e.withLimit limit).instance? id = some i := hi
  by_cases ha : i.state = .active
  · rcases ht : takeItem? name i.pending with _ | ⟨item, others⟩
    · have hs : i.requireState .active = .ok () := if_pos ha
      simp only [perform, complete, instance?_withLimit, hi, hs, ht]
      rfl
    · rw [perform, complete_eq hi ha ht] at h
      have hsame : (e.resuming i others vars).resume (e.surroundings.withLimit limit) item =
          (e.resuming i others vars).resume e.surroundings item :=
        Run.resume_withLimit hle (unlimited_of_finish h)
      rw [perform, perform, complete_eq hi ha ht, complete_eq hi' ha ht]
      show answer .inst ((e.withLimit limit).finish
        ((e.resuming i others vars).resume (e.surroundings.withLimit limit) item)) = _
      rw [hsame]
      exact finish_withLimit e limit
  · have hs : i.requireState .active = .error (.wrongState i.id i.state) := if_neg ha
    simp only [perform, complete, instance?_withLimit, hi, hs]
    rfl

/-- **A call that is not cut off is answered alike** under a larger limit, and
does the same. -/
theorem perform_withLimit (hle : e.stepLimit ≤ limit)
    (h : ∀ f, (e.perform c).1 = .error f → f.isStepLimit = false) :
    (e.withLimit limit).perform c = ((e.perform c).1, (e.perform c).2.withLimit limit) := by
  cases c with
  | deploy p =>
    simp only [perform, deploy]
    split <;> rfl
  | start key vars => exact start_withLimit hle h
  | complete id name vars => exact complete_withLimit hle h
  -- the other calls run no instance, and so do not look at the limit
  | suspend id =>
    simp only [perform, suspend, instance?_withLimit]
    split
    · rfl
    · split <;> rfl
  | resume id =>
    simp only [perform, resume, instance?_withLimit]
    split
    · rfl
    · split <;> rfl
  | terminate id reason? =>
    simp only [perform, terminate, instance?_withLimit]
    split
    · rfl
    · split <;> rfl
  | status id => rfl
  | pending id => rfl
  | active => rfl
  | completed => rfl
  | deployedKeys => rfl

theorem stepLimit_perform (e : Engine) (c : Call) : (e.perform c).2.stepLimit = e.stepLimit :=
  congrArg Surroundings.stepLimit (effect_perform e c).surroundings_eq

/-- No turn changes the limit. -/
theorem stepLimit_after (e : Engine) (turns : List Turn) :
    (e.after turns).stepLimit = e.stepLimit := by
  refine after_induct (motive := fun e' => e'.stepLimit = e.stepLimit) (fun e' t h => ?_) rfl turns
  cases t with
  | call c => exact (stepLimit_perform e' c).trans h
  | lend library now => exact h

/-- **Turns that are not cut off are answered alike** under a larger limit,
and leave the same engine behind. -/
theorem after_withLimit (turns : List Turn) (hle : e.stepLimit ≤ limit)
    (h : ∀ f, .error f ∈ e.answers turns → f.isStepLimit = false) :
    (e.withLimit limit).answers turns = e.answers turns ∧
      (e.withLimit limit).after turns = (e.after turns).withLimit limit := by
  induction turns generalizing e with
  | nil => exact ⟨rfl, rfl⟩
  | cons t ts ih =>
    cases t with
    | call c =>
      have hperform : (e.withLimit limit).perform c =
          ((e.perform c).1, (e.perform c).2.withLimit limit) :=
        perform_withLimit hle fun f hf => h f (by rw [answers, hf]; exact List.mem_cons_self)
      have hlimit := stepLimit_perform e c
      obtain ⟨hanswers, hafter⟩ := ih (e := (e.perform c).2) (hlimit ▸ hle) fun f hf =>
        h f (List.mem_cons_of_mem _ hf)
      rw [after_cons, after_cons, answers, answers, turn, turn, hperform]
      exact ⟨congrArg _ hanswers, hafter⟩
    | lend library now => exact ih (e := e.turn (.lend library now)) hle h

/-! ## What the step limit means -/

/-- **A call is answered after at most `n` rounds** of the loop over the
tokens of an instance. -/
inductive Answered (e : Engine) (n : Nat) : Call → Except Failure Answer × Engine → Prop
  /-- The call is refused. -/
  | refused {c : Call} {f : Failure} : f.isRefusal = true → Answered e n c (.error f, e)
  /-- A new instance runs. -/
  | started {key : String} {p : Workflow} {vars : Table Json} {k : Nat}
      {o : Except Failure Unit × Run} : e.deployments.get? key = some p → k ≤ n →
      Run.Loops e.surroundings k (e.opening key p vars) o →
      Answered e n (.start key vars)
        (o.1.map fun _ => .inst o.2.inst, (e.enrol (e.opening key p vars).inst).takeBack o.2)
  /-- The operation of a work item gives up. -/
  | gaveUp {id name : String} {vars : Table Json} {i : Instance} {item : WorkItem}
      {others : List WorkItem} {f : Failure} {r : Run} : e.instance? id = some i →
      takeItem? name i.pending = some (item, others) →
      (e.resuming i others vars).completeItem e.surroundings item = (.error f, r) →
      Answered e n (.complete id name vars) (.error f, e.takeBack r)
  /-- A work item is completed, and the instance runs on. -/
  | resumed {id name : String} {vars : Table Json} {i : Instance} {item : WorkItem}
      {others : List WorkItem} {r : Run} {k : Nat} {o : Except Failure Unit × Run} :
      e.instance? id = some i → takeItem? name i.pending = some (item, others) →
      (e.resuming i others vars).completeItem e.surroundings item = (.ok (), r) → k ≤ n →
      Run.Loops e.surroundings k r o →
      Answered e n (.complete id name vars) (o.1.map fun _ => .inst o.2.inst, e.takeBack o.2)

/-- The loop ends one round after the limit at the latest. -/
theorem loops_advance_le (s : Surroundings) (r : Run) :
    ∃ k ≤ s.stepLimit + 1, Run.Loops s k r (r.advance s) := by
  obtain ⟨k, hk, hloops⟩ := Run.loops_advance s r
  exact ⟨k, by omega, hloops⟩

theorem answered_start (e : Engine) (key : String) (vars : Table Json) :
    Answered e (e.stepLimit + 1) (.start key vars) (e.perform (.start key vars)) := by
  rcases hp : e.deployments.get? key with _ | p
  · simp only [perform, start, hp]
    exact Answered.refused rfl
  · obtain ⟨k, hk, hloops⟩ := loops_advance_le e.surroundings (e.opening key p vars)
    rw [perform, start_eq hp, answer_finish]
    exact Answered.started hp hk hloops

theorem answered_complete (e : Engine) (id name : String) (vars : Table Json) :
    Answered e (e.stepLimit + 1) (.complete id name vars) (e.perform (.complete id name vars)) := by
  rcases hi : e.instance? id with _ | i
  · simp only [perform, complete, hi]
    exact Answered.refused rfl
  by_cases ha : i.state = .active
  · rcases ht : takeItem? name i.pending with _ | ⟨item, others⟩
    · have hs : i.requireState .active = .ok () := if_pos ha
      simp only [perform, complete, hi, hs, ht]
      exact Answered.refused rfl
    · rw [perform, complete_eq hi ha ht, answer_finish, Run.resume]
      rcases ho : (e.resuming i others vars).completeItem e.surroundings item with ⟨f | ⟨⟩, r⟩
      · exact Answered.gaveUp hi ht ho
      · obtain ⟨k, hk, hloops⟩ := loops_advance_le e.surroundings r
        exact Answered.resumed hi ht ho hk hloops
  · have hs : i.requireState .active = .error (.wrongState i.id i.state) := if_neg ha
    simp only [perform, complete, hi, hs]
    exact Answered.refused rfl

/-- **The step limit bounds an instance, and only cuts off.** After any turns,
no instance has made more visits or dispatched more operations than the limit
allows. Every start and every completion is answered after a number of rounds
that the limit bounds. And if no call fails for the limit, the same turns under
a larger one are answered alike, and leave the same engine but for its
limit. -/
theorem step_limit_cuts_off (library : Library) (stepLimit drawn now : Nat) (turns : List Turn) :
    let e := new library stepLimit drawn now
    (∀ i ∈ (e.after turns).instances,
      (visited (e.history turns i.id)).length ≤ stepLimit ∧
      dispatches (eventsOf i.id (e.after turns).log) ≤ stepLimit) ∧
    (∀ key vars, Answered (e.after turns) (stepLimit + 1) (.start key vars)
      ((e.after turns).perform (.start key vars))) ∧
    (∀ id name vars, Answered (e.after turns) (stepLimit + 1) (.complete id name vars)
      ((e.after turns).perform (.complete id name vars))) ∧
    ∀ larger, stepLimit ≤ larger →
      (∀ f, .error f ∈ e.answers turns → f.isStepLimit = false) →
      (new library larger drawn now).answers turns = e.answers turns ∧
      (new library larger drawn now).after turns = (e.after turns).withLimit larger := by
  intro e
  have hlimit : (e.after turns).stepLimit = stepLimit := stepLimit_after e turns
  refine ⟨visits_le_after library stepLimit drawn now turns, fun key vars => ?_,
    fun id name vars => ?_, fun larger hle hok => after_withLimit turns hle hok⟩
  · exact hlimit ▸ answered_start (e.after turns) key vars
  · exact hlimit ▸ answered_complete (e.after turns) id name vars

/-- Succeeds at the second attempt. -/
def attempt : Operation.Handler := fun c =>
  (.ok (), c.set (if (c.get? "tried").isSome then "done" else "tried") (.bool true))

/-- The operation that succeeds at the second attempt. -/
def attemptLibrary : Library where
  registry := Registry.registerAll {}
    [{ id := "Try", description := "", category := "", kind := .service, handlerRef? := "try" }]
  catalog := ⟨[("try", .handler attempt)]⟩

/-- A workflow that goes round until an attempt has succeeded, and is then
confirmed with one attempt more. -/
def attemptWorkflow : Workflow where
  id := "attempt"
  elements := [{ id := "begin", kind := .startEvent },
    { id := "try", kind := .serviceTask none false false
      extensions := ⟨[(Workflow.delegationIdKey, "Try")]⟩ },
    { id := "gate", kind := .exclusiveGateway },
    { id := "confirm", kind := .userTask none [] none
      extensions := ⟨[(Workflow.delegationIdKey, "Try")]⟩ },
    { id := "end", kind := .endEvent }]
  flows := [{ id := "a", source := "begin", target := "try" },
    { id := "b", source := "try", target := "gate" },
    { id := "c", source := "gate", target := "confirm", condition? := "done" },
    { id := "d", source := "gate", target := "try" },
    { id := "e", source := "confirm", target := "end" }]

/-- The attempt is started and confirmed. -/
def attemptTurns : List Turn :=
  [.call (.deploy attemptWorkflow), .call (.start "attempt" []),
    .call (.complete (identifier 1) "confirm" [])]

/-- The attempt makes seven visits and dispatches three operations. A limit of
seven is enough, so that any larger one does the same, but six are too few. -/
theorem attempt_cut_off :
    let e := new attemptLibrary 7 0 0
    (∃ i ∈ (e.after attemptTurns).instances, i.state = .completed ∧
      (visited (e.history attemptTurns i.id)).length = 7 ∧
      dispatches (eventsOf i.id (e.after attemptTurns).log) = 3) ∧
    ((new attemptLibrary 6 0 0).answers attemptTurns).all Except.isOk = false ∧
    (new attemptLibrary 1000 0 0).answers attemptTurns = e.answers attemptTurns ∧
    (new attemptLibrary 1000 0 0).after attemptTurns = (e.after attemptTurns).withLimit 1000 := by
  intro e
  obtain ⟨-, -, -, hcut⟩ := step_limit_cuts_off attemptLibrary 7 0 0 attemptTurns
  have hall : (e.answers attemptTurns).all Except.isOk = true := by decide +kernel
  have hok : ∀ f, .error f ∈ e.answers attemptTurns → f.isStepLimit = false := by
    intro f hf
    cases List.all_eq_true.1 hall _ hf
  refine ⟨?_, by decide +kernel, hcut 1000 (by decide) hok⟩
  have hfound : ((e.after attemptTurns).instance? (identifier 1)).map (·.state) =
      some .completed := by decide +kernel
  obtain ⟨i, hi, hstate⟩ := Option.map_eq_some_iff.1 hfound
  obtain ⟨hmem, hid⟩ := mem_of_instance? hi
  refine ⟨i, hmem, hstate, ?_⟩
  rw [hid]
  exact ⟨by decide +kernel, by decide +kernel⟩

end Engine

end WorkflowCanvas
