import WorkflowCanvas.Proofs.Engine.Mark
import WorkflowCanvas.Proofs.Engine.Identifier
import Mathlib.Data.List.Nodup
/-!
# Calls to an engine

A host takes turns: it makes a call, or it changes the operations and the
time that it lends to the engine. An operation is told a number drawn anew
for each use, so that one library also stands for operations that remember
or choose. `Effect` lists all that a call can do, one constructor an
outcome, with the marks it leaves on an instance, and `effect_perform` says
that a call does one of them: what a whole history of turns preserves is
read off it.
-/


namespace WorkflowCanvas

namespace Engine

open Operation (Library)

/-- What is asked of an engine. -/
inductive Call where
  | deploy (p : Workflow)
  | start (key : String) (vars : Table Json)
  | complete (id name : String) (vars : Table Json)
  | suspend (id : String)
  | resume (id : String)
  | terminate (id : String) (reason? : Option String)
  | status (id : String)
  | pending (id : String)
  | active
  | completed
  | deployedKeys

/-- What an engine answers. -/
inductive Answer where
  | deployment (d : Deployment)
  | inst (i : Instance)
  | insts (is : List Instance)
  | items (ws : List WorkItem)
  | keys (ks : List String)
  | done

/-- Makes an answer of what a call yields. -/
def answer {α : Type} (f : α → Answer) (x : Except Failure α × Engine) :
    Except Failure Answer × Engine :=
  (x.1.map f, x.2)

/-- **Makes a call.** -/
def perform (e : Engine) : Call → Except Failure Answer × Engine
  | .deploy p => answer .deployment (e.deploy p)
  | .start key vars => answer .inst (e.start key vars)
  | .complete id name vars => answer .inst (e.complete id name vars)
  | .suspend id => answer (fun _ => .done) (e.suspend id)
  | .resume id => answer (fun _ => .done) (e.resume id)
  | .terminate id reason? => answer (fun _ => .done) (e.terminate id reason?)
  | .status id => answer .inst (e.status id, e)
  | .pending id => answer .items (e.pending id, e)
  | .active => (.ok (.insts e.active), e)
  | .completed => (.ok (.insts e.completed), e)
  | .deployedKeys => (.ok (.keys e.deployedKeys), e)

/-- A turn of the host. -/
inductive Turn where
  | call (c : Call)
  /-- From now on the engine works with other operations or at another
  time. -/
  | lend (library : Library) (now : Nat)

/-- An engine after a turn. -/
def turn (e : Engine) : Turn → Engine
  | .call c => (e.perform c).2
  | .lend library now => { e with library, now }

/-- **An engine after some turns.** -/
def after (e : Engine) (turns : List Turn) : Engine := turns.foldl turn e

/-- An engine that nothing was asked of yet. -/
def new (library : Library) (stepLimit drawn now : Nat) : Engine :=
  { library, stepLimit, drawn, now }

@[simp] theorem after_nil (e : Engine) : e.after [] = e := rfl

@[simp] theorem after_cons (e : Engine) (t : Turn) (ts : List Turn) :
    e.after (t :: ts) = (e.turn t).after ts := rfl

theorem after_append (e : Engine) (turns later : List Turn) :
    e.after (turns ++ later) = (e.after turns).after later :=
  List.foldl_append

/-- **What every turn keeps, all turns keep.** -/
theorem after_induct {motive : Engine → Prop} (step : ∀ e t, motive e → motive (e.turn t))
    {e : Engine} (h : motive e) (turns : List Turn) : motive (e.after turns) := by
  induction turns generalizing e with
  | nil => exact h
  | cons t ts ih => exact ih (step e t h)

/-! ## The two calls that run an instance -/

/-- The run that `start` begins: an instance with its variables and a
token on every start event. -/
def opening (e : Engine) (key : String) (p : Workflow) (vars : Table Json) : Run where
  inst :=
    ({ id := identifier e.drawn, workflow := p, tokens := p.startEvents.map (·.id) } :
      Instance).merge vars
  emitted := [.instanceStarted (identifier e.drawn) key]
  drawn := e.drawn + 1

/-- The run that `complete` begins: an instance without the work item and
with the variables that come with its completion. -/
def resuming (e : Engine) (i : Instance) (others : List WorkItem) (vars : Table Json) : Run where
  inst := { i with pending := others }.merge vars
  drawn := e.drawn

/-- An engine with an instance more. -/
def enrol (e : Engine) (i : Instance) : Engine := { e with roster := e.roster.enrol i }

theorem start_eq {e : Engine} {key : String} {p : Workflow}
    (h : e.deployments.get? key = some p) (vars : Table Json) :
    e.start key vars =
      (e.enrol (e.opening key p vars).inst).finish
        ((e.opening key p vars).advance e.surroundings) := by
  simp only [start, h]
  rfl

theorem complete_eq {e : Engine} {id name : String} {i : Instance} {item : WorkItem}
    {others : List WorkItem} (hi : e.instance? id = some i) (ha : i.state = .active)
    (ht : takeItem? name i.pending = some (item, others)) (vars : Table Json) :
    e.complete id name vars =
      e.finish ((e.resuming i others vars).resume e.surroundings item) := by
  have hs : i.requireState .active = .ok () := if_pos ha
  have hw : (e.resuming i others vars).inst.workflow.element? item.nodeId =
    i.workflow.element? item.nodeId := rfl
  have hr : ({ inst := { i with pending := others }.merge vars, drawn := e.drawn } : Run) =
    e.resuming i others vars := rfl
  simp only [complete, hi, hs, ht, Run.resume, Run.completeItem, hw, hr]
  cases i.workflow.element? item.nodeId with
  | none => rfl
  | some element =>
    dsimp only
    rcases completeStep e.surroundings (e.resuming i others vars) element with ⟨_ | _, r⟩ <;> rfl

@[simp] theorem finish_snd (e : Engine) (o : Except Failure Unit × Run) :
    (e.finish o).2 = e.takeBack o.2 := by
  rcases o with ⟨_ | _, r⟩ <;> rfl

theorem answer_finish (e : Engine) (o : Except Failure Unit × Run) :
    answer .inst (e.finish o) = (o.1.map fun _ => .inst o.2.inst, e.takeBack o.2) := by
  rcases o with ⟨_ | _, r⟩ <;> rfl

/-! ## What a call does -/

/-- An engine with a workflow deployed. -/
def install (e : Engine) (p : Workflow) : Engine :=
  { e with
    deployments := e.deployments.insert p.id p
    log := .deployed (identifier e.drawn) p.id :: e.log
    drawn := e.drawn + 1 }

/-- **The marks that a call leaves** on the instance it runs. -/
def marks (e : Engine) : Call → List Mark
  | .start key vars =>
    match e.deployments.get? key with
    | some p => (e.opening key p vars).marks e.surroundings
    | none => []
  | .complete id name vars =>
    match e.instance? id with
    | some i =>
      if i.state = .active then
        match takeItem? name i.pending with
        | some (item, others) => (e.resuming i others vars).resumeMarks e.surroundings item
        | none => []
      else []
    | none => []
  | _ => []

/-- **What a call does to an engine**, with the marks it leaves, and what
it answers. -/
inductive Effect (e : Engine) : Call → List Mark → Except Failure Answer × Engine → Prop
  /-- The call is refused. -/
  | refused {c : Call} {f : Failure} : f.isRefusal = true → Effect e c [] (.error f, e)
  /-- The call only asks. -/
  | asked {c : Call} {a : Answer} : Effect e c [] (.ok a, e)
  /-- A workflow is deployed. -/
  | deployed {p : Workflow} : p.startEvents ≠ [] →
      Effect e (.deploy p) [] (.ok (.deployment ⟨identifier e.drawn, p.id⟩), e.install p)
  /-- A new instance runs. -/
  | started {key : String} {vars : Table Json} {p : Workflow} {o : Except Failure Unit × Run} :
      e.deployments.get? key = some p → (e.opening key p vars).advance e.surroundings = o →
      Effect e (.start key vars) ((e.opening key p vars).marks e.surroundings)
        (o.1.map fun _ => .inst o.2.inst, (e.enrol (e.opening key p vars).inst).takeBack o.2)
  /-- An instance takes a work item as done and runs on. -/
  | resumed {id name : String} {vars : Table Json} {i : Instance} {item : WorkItem}
      {others : List WorkItem} {o : Except Failure Unit × Run} :
      e.instance? id = some i → i.state = .active →
      takeItem? name i.pending = some (item, others) →
      (e.resuming i others vars).resume e.surroundings item = o →
      Effect e (.complete id name vars) ((e.resuming i others vars).resumeMarks e.surroundings item)
        (o.1.map fun _ => .inst o.2.inst, e.takeBack o.2)
  /-- An active instance is suspended. -/
  | suspended {id : String} {i : Instance} : e.instance? id = some i → i.state = .active →
      Effect e (.suspend id) []
        (.ok .done, e.move { i with state := .suspended } (.instanceSuspended id))
  /-- A suspended instance becomes active. -/
  | reactivated {id : String} {i : Instance} : e.instance? id = some i → i.state = .suspended →
      Effect e (.resume id) []
        (.ok .done, e.move { i with state := .active } (.instanceResumed id))
  /-- An open instance is terminated. -/
  | terminated {id : String} {reason? : Option String} {i : Instance} :
      e.instance? id = some i → i.state.isOpen = true →
      Effect e (.terminate id reason?) [] (.ok .done, e.move
        { i with state := .terminated, detail? := reason?, tokens := [], pending := [] }
        (.instanceTerminated id reason?))

theorem effect_deploy (e : Engine) (p : Workflow) : Effect e (.deploy p) [] (e.perform (.deploy p)) := by
  simp only [perform, deploy]
  split
  · exact Effect.refused rfl
  · next h => exact Effect.deployed (by simpa using h)

theorem effect_start (e : Engine) (key : String) (vars : Table Json) :
    Effect e (.start key vars) (e.marks (.start key vars)) (e.perform (.start key vars)) := by
  rcases h : e.deployments.get? key with _ | p
  · simp only [perform, start, marks, h]
    exact Effect.refused rfl
  · rw [perform, start_eq h, answer_finish, marks, h]
    exact Effect.started h rfl

theorem requireState_error {i : Instance} {expected : InstanceState} {f : Failure}
    (h : i.requireState expected = .error f) : f.isRefusal = true := by
  unfold Instance.requireState at h
  split at h
  · cases h
  · cases h
    rfl

theorem state_of_requireState {i : Instance} {expected : InstanceState}
    (h : i.requireState expected = .ok ()) : i.state = expected := by
  unfold Instance.requireState at h
  split at h
  · assumption
  · cases h

theorem effect_complete (e : Engine) (id name : String) (vars : Table Json) :
    Effect e (.complete id name vars) (e.marks (.complete id name vars))
      (e.perform (.complete id name vars)) := by
  rcases hi : e.instance? id with _ | i
  · simp only [perform, complete, marks, hi]
    exact Effect.refused rfl
  by_cases ha : i.state = .active
  · rcases ht : takeItem? name i.pending with _ | ⟨item, others⟩
    · have hs : i.requireState .active = .ok () := if_pos ha
      simp only [perform, complete, marks, hi, hs, ha, ht]
      exact Effect.refused rfl
    · rw [perform, complete_eq hi ha ht, answer_finish]
      simp only [marks, hi, ha, ht, if_true]
      exact Effect.resumed hi ha ht rfl
  · have hs : i.requireState .active = .error (.wrongState i.id i.state) := if_neg ha
    simp only [perform, complete, marks, hi, hs, ha]
    exact Effect.refused rfl

theorem effect_suspend (e : Engine) (id : String) :
    Effect e (.suspend id) [] (e.perform (.suspend id)) := by
  rcases hi : e.instance? id with _ | i
  · simp only [perform, suspend, hi]
    exact Effect.refused rfl
  rcases hs : i.requireState .active with f | ⟨⟩
  · simp only [perform, suspend, hi, hs]
    exact Effect.refused (requireState_error hs)
  simp only [perform, suspend, hi, hs]
  exact Effect.suspended hi (state_of_requireState hs)

theorem effect_resume (e : Engine) (id : String) :
    Effect e (.resume id) [] (e.perform (.resume id)) := by
  rcases hi : e.instance? id with _ | i
  · simp only [perform, resume, hi]
    exact Effect.refused rfl
  rcases hs : i.requireState .suspended with f | ⟨⟩
  · simp only [perform, resume, hi, hs]
    exact Effect.refused (requireState_error hs)
  simp only [perform, resume, hi, hs]
  exact Effect.reactivated hi (state_of_requireState hs)

theorem effect_terminate (e : Engine) (id : String) (reason? : Option String) :
    Effect e (.terminate id reason?) [] (e.perform (.terminate id reason?)) := by
  rcases hi : e.instance? id with _ | i
  · simp only [perform, terminate, hi]
    exact Effect.refused rfl
  by_cases ho : i.state.isOpen = true
  · simp only [perform, terminate, hi, ho, if_true]
    exact Effect.terminated hi ho
  · simp only [perform, terminate, hi, ho]
    exact Effect.refused rfl

/-- A call that looks an instance up. -/
theorem effect_status {α : Type} {e : Engine} {c : Call} (id : String) (f : Instance → α)
    (g : α → Answer) : Effect e c [] (answer g ((e.status id).map f, e)) := by
  unfold status
  split
  · exact Effect.asked
  · exact Effect.refused rfl

/-- **A call has one of these effects.** -/
theorem effect_perform (e : Engine) (c : Call) : Effect e c (e.marks c) (e.perform c) := by
  cases c with
  | deploy p => exact effect_deploy e p
  | start key vars => exact effect_start e key vars
  | complete id name vars => exact effect_complete e id name vars
  | suspend id => exact effect_suspend e id
  | resume id => exact effect_resume e id
  | terminate id reason? => exact effect_terminate e id reason?
  | status id =>
    have h := effect_status (e := e) (c := .status id) id (fun i => i) .inst
    rcases hs : e.status id with _ | _ <;> rw [hs] at h <;> rw [perform, hs] <;> exact h
  | pending id => exact effect_status id (·.pending) .items
  | active => exact Effect.asked
  | completed => exact Effect.asked
  | deployedKeys => exact Effect.asked

end Engine

end WorkflowCanvas
