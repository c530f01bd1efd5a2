import WorkflowCanvas.Proofs.Engine.Carry
import WorkflowCanvas.Proofs.Engine.Concern
import WorkflowCanvas.Proofs.Operation.Dispatch
import Mathlib.Logic.Function.Basic
/-!
# Runs up to the ids they draw

An instance and its work items are known by ids that are drawn for them.
Two runs that begin alike up to these ids, with handlers that make nothing
of the rest of their context (`Library.Steady`), visit the same elements
and end alike: with the same failure, if any, and with the same instance,
up to the ids (`twins_advance`, `twins_resume`). A renaming of ids has to
map only what the runs have drawn, each id to the one drawn in its place
(`Along`).
-/


namespace WorkflowCanvas

/-! ## Handlers that make nothing of the rest -/

namespace Operation

/-- The contexts are of the same step and hold the same variables. -/
structure Context.Similar (c c' : Context) : Prop where
  step_eq : c'.step = c.step
  store_eq : c'.store = c.store
  written_eq : c'.written = c.written

/-- The handler depends on the step and the variables alone. -/
def Handler.Steady (h : Handler) : Prop :=
  ∀ c c', c.Similar c' → (h c').1 = (h c).1 ∧ (h c).2.store = (h c').2.store ∧
    (h c).2.written = (h c').2.written

/-- The handlers of the library depend on the step and the variables
alone. -/
def Library.Steady (l : Library) : Prop :=
  ∀ ref h, l.catalog.find? ref = some (.handler h) → Handler.Steady h

/-- **A steady operation ends alike in similar contexts.** -/
theorem Library.dispatch_similar {l : Library} {c c' : Context} (hl : l.Steady)
    (h : c.Similar c') : (l.dispatch c').1 = (l.dispatch c).1 ∧
      (l.dispatch c').2.store = (l.dispatch c).2.store ∧
      (l.dispatch c').2.written = (l.dispatch c).2.written := by
  cases l.route c.step with
  | broken f _ hall =>
    rw [hall c rfl, hall c' h.step_eq]
    exact ⟨rfl, h.store_eq, h.written_eq⟩
  | ran operation ref handler href hall =>
    obtain ⟨hresult, hstore, hwritten⟩ := hl ref handler href c c' h
    rw [hall c rfl, hall c' h.step_eq]
    exact ⟨by rw [outcomeOf, hresult]; rfl, hstore.symm, hwritten.symm⟩

end Operation

open Operation (Context Library)

/-! ## Renaming ids -/

section Rename

variable (ρ : String → String)

/-- A failure with the ids of the instance and of work items renamed. -/
def Failure.rename : Failure → Failure
  | .unknownInstance id => .unknownInstance (ρ id)
  | .workItemNotFound id name => .workItemNotFound (ρ id) (ρ name)
  | .wrongState id state => .wrongState (ρ id) state
  | .stepLimit id limit => .stepLimit (ρ id) limit
  | .unknownElement id element => .unknownElement (ρ id) element
  | f => f

/-- A work item with its id renamed. -/
def WorkItem.rename (w : WorkItem) : WorkItem := { w with taskId := ρ w.taskId }

/-- An instance with its id and those of its work items renamed. -/
def Instance.rename (i : Instance) : Instance :=
  { i with id := ρ i.id, pending := i.pending.map (WorkItem.rename ρ) }

end Rename

variable {ρ : String → String}

/-- The failure of an operation tells no ids. -/
theorem Failure.rename_of_isOperational {f : Failure} (h : f.isOperational = true) :
    f.rename ρ = f := by
  cases f <;> first | rfl | cases h

/-- The id that an event is the first to tell. -/
def Event.drawnId? : Event → Option String
  | .instanceStarted id _ => some id
  | .waitingForUser _ _ taskId => some taskId
  | _ => none

/-- **The ids that events tell**, in the order in which they were drawn. -/
def drawnIds (es : List Event) : List String := es.filterMap Event.drawnId?

theorem drawnIds_append (es events : List Event) :
    drawnIds (es ++ events) = drawnIds es ++ drawnIds events :=
  List.filterMap_append

/-- **The renaming goes along with two lists of ids**: it maps each id to
the one in its place. -/
def Along (ρ : String → String) (ids ids' : List String) : Prop :=
  ∀ (k : Nat) (id id' : String), ids[k]? = some id → ids'[k]? = some id' → ρ id = id'

namespace Along

variable {ids ids' more more' : List String} {id id' : String}

/-- A renaming goes along with what was drawn first. -/
theorem of_isPrefix (h : Along ρ more more') (hp : ids <+: more) (hp' : ids' <+: more') :
    Along ρ ids ids' := by
  obtain ⟨rest, rfl⟩ := hp
  obtain ⟨rest', rfl⟩ := hp'
  exact fun k a a' hk hk' => h k a a' (getElem?_append_of_eq_some hk rest)
    (getElem?_append_of_eq_some hk' rest')

/-- A renaming goes along with what was drawn next. -/
theorem of_append (h : Along ρ (ids ++ more) (ids' ++ more')) (hlen : ids'.length = ids.length) :
    Along ρ more more' := by
  intro k a a' hk hk'
  refine h (ids.length + k) a a' ?_ ?_
  · rw [getElem?_append_length_add, hk]
  · rw [← hlen, getElem?_append_length_add, hk']

/-- The ids drawn next to as many others go to each other. -/
theorem eq_of_isPrefix (h : Along ρ more more') (hlen : ids'.length = ids.length)
    (hp : ids ++ [id] <+: more) (hp' : ids' ++ [id'] <+: more') : ρ id = id' :=
  h.of_isPrefix hp hp' ids.length id id' List.getElem?_concat_length
    (hlen ▸ List.getElem?_concat_length)

/-- A renaming goes along with what it makes of ids. -/
theorem map (ρ : String → String) (ids : List String) : Along ρ ids (ids.map ρ) := by
  intro k id id' hk hk'
  rw [List.getElem?_map, hk] at hk'
  exact Option.some.inj hk'

/-- Where as many ids were drawn, the renaming maps them all. -/
theorem map_eq (h : Along ρ ids ids') (hlen : ids'.length = ids.length) : ids' = ids.map ρ := by
  refine List.ext_getElem (by rw [hlen, List.length_map]) fun k hk' hk => ?_
  rw [List.length_map] at hk
  rw [List.getElem_map]
  exact (h k _ _ (List.getElem?_eq_getElem hk) (List.getElem?_eq_getElem hk')).symm

end Along

namespace Run

variable {library : Library} {limit now now' : Nat} {r r' : Run} {e : Workflow.Element} {f : Failure}

/-- The ids that a run has drawn and told. -/
def ids (r : Run) : List String := drawnIds r.emitted.reverse

theorem ids_isPrefix (h : Extends r r') : r.ids <+: r'.ids := by
  obtain ⟨events, hev, -⟩ := h.emitted_eq
  rw [ids, ids, hev, List.reverse_append, drawnIds_append]
  exact List.prefix_append _ _

theorem ids_emit {v : Event} (hv : v.drawnId? = none) : (r.emit v).ids = r.ids := by
  simp [ids, emit, drawnIds, hv]

theorem ids_fail (r : Run) (f : Failure) : (r.fail f).ids = r.ids := ids_emit rfl

theorem ids_worked (r : Run) (e : Workflow.Element) (c : Context) : (r.worked e c).ids = r.ids := by
  simp [ids, worked, drawnIds, Event.drawnId?]

theorem ids_interrupted (r : Run) (e : Workflow.Element) (c : Context) (f : Failure) :
    (r.interrupted e c f).ids = r.ids := by
  simp [ids, interrupted, drawnIds, Event.drawnId?]

theorem ids_park (r : Run) (e : Workflow.Element) :
    (r.park e).ids = r.ids ++ [identifier r.drawn] := by
  simp [ids, park, emit, drawnIds, Event.drawnId?]

/-- **Runs that are alike** up to the ids they have drawn. -/
structure Twins (ρ : String → String) (r r' : Run) : Prop where
  inst_eq : r'.inst = r.inst.rename ρ
  length_eq : r'.ids.length = r.ids.length

/-- **Runs that end alike**: both succeed, or both have failed with the same
failure, up to the ids. -/
inductive TwinEnds (ρ : String → String) :
    Except Failure Unit × Run → Except Failure Unit × Run → Prop
  | ok {r r' : Run} : Twins ρ r r' → TwinEnds ρ (.ok (), r) (.ok (), r')
  | error {r r' : Run} {f : Failure} : Twins ρ r r' →
      TwinEnds ρ (.error f, r.fail f) (.error (f.rename ρ), r'.fail (f.rename ρ))

namespace Twins

theorem id_eq (h : Twins ρ r r') : r'.inst.id = ρ r.inst.id := by rw [h.inst_eq]; rfl

theorem workflow_eq (h : Twins ρ r r') : r'.inst.workflow = r.inst.workflow := by
  rw [h.inst_eq]; rfl

theorem store_eq (h : Twins ρ r r') : r'.inst.store = r.inst.store := by rw [h.inst_eq]; rfl

theorem vars_eq (h : Twins ρ r r') : r'.inst.vars = r.inst.vars := by rw [h.inst_eq]; rfl

theorem tokens_eq (h : Twins ρ r r') : r'.inst.tokens = r.inst.tokens := by rw [h.inst_eq]; rfl

theorem steps_eq (h : Twins ρ r r') : r'.inst.steps = r.inst.steps := by rw [h.inst_eq]; rfl

/-- Runs whose instances have changed alike. -/
theorem of_inst {i : Instance} (h : Twins ρ r r') (i' : Instance) (hi : i' = i.rename ρ) :
    Twins ρ { r with inst := i } { r' with inst := i' } :=
  ⟨hi, h.length_eq⟩

theorem follow (h : Twins ρ r r') (element : String) :
    Twins ρ (r.follow element) (r'.follow element) :=
  h.of_inst _ (by rw [h.inst_eq]; rfl)

theorem pop (h : Twins ρ r r') (rest : List String) : Twins ρ (r.pop rest) (r'.pop rest) :=
  h.of_inst _ (by rw [h.inst_eq]; rfl)

theorem push (h : Twins ρ r r') (target : String) : Twins ρ (r.push target) (r'.push target) :=
  h.of_inst _ (by rw [h.inst_eq]; rfl)

theorem emit (h : Twins ρ r r') {v v' : Event} (hv : v.drawnId? = none) (hv' : v'.drawnId? = none) :
    Twins ρ (r.emit v) (r'.emit v') :=
  ⟨h.inst_eq, by rw [ids_emit hv, ids_emit hv', h.length_eq]⟩

theorem join (h : Twins ρ r r') (gateway : String) : Twins ρ (r.join gateway) (r'.join gateway) := by
  have hwaiting : r'.inst.waiting gateway = r.inst.waiting gateway := by rw [h.inst_eq]; rfl
  rw [join_eq, join_eq, h.workflow_eq, hwaiting]
  split
  · split
    · exact h.of_inst _ (by rw [h.inst_eq]; rfl)
    · exact (h.of_inst _ (by rw [h.inst_eq]; rfl) : Twins ρ (r.release gateway)
        (r'.release gateway)).follow gateway
  · exact h.follow gateway

theorem settle (h : Twins ρ r r') : Twins ρ r.settle r'.settle := by
  have hactive : r'.inst.state = r.inst.state := by rw [h.inst_eq]; rfl
  have hpending : r'.inst.pending.isEmpty = r.inst.pending.isEmpty := by
    rw [h.inst_eq]
    exact List.isEmpty_map
  unfold Run.settle
  rw [hactive, hpending]
  split
  · exact emit (h.of_inst _ (by rw [h.inst_eq]; rfl)) rfl rfl
  · exact h

/-- A work item is left in both, if the renaming maps its ids. -/
theorem park (h : Twins ρ r r') (e : Workflow.Element)
    (hid : ρ (identifier r.drawn) = identifier r'.drawn) : Twins ρ (r.park e) (r'.park e) := by
  refine ⟨?_, by simp [ids_park, h.length_eq]⟩
  simp [Run.park, Run.emit, Instance.rename, WorkItem.rename, h.inst_eq, hid]

/-- The contexts of a step are similar. -/
theorem similar (h : Twins ρ r r') (s s' : Surroundings) (e : Workflow.Element) :
    (r.stepContext s e).Similar (r'.stepContext s' e) :=
  ⟨rfl, h.store_eq, rfl⟩

theorem worked (h : Twins ρ r r') (e : Workflow.Element) {c c' : Context}
    (hstore : c'.store = c.store) (hwritten : c'.written = c.written) :
    Twins ρ (r.worked e c) (r'.worked e c') := by
  refine ⟨?_, by rw [ids_worked, ids_worked, h.length_eq]⟩
  simp [Run.worked, h.inst_eq, hstore, hwritten, Instance.rename]

theorem interrupted (h : Twins ρ r r') (e : Workflow.Element) {c c' : Context} (f : Failure)
    (hstore : c'.store = c.store) : Twins ρ (r.interrupted e c f) (r'.interrupted e c' f) := by
  refine ⟨?_, by rw [ids_interrupted, ids_interrupted, h.length_eq]⟩
  simp [Run.interrupted, h.inst_eq, hstore, Instance.rename]

/-- **A step ends alike in both.** -/
theorem runStep (h : Twins ρ r r') (hl : library.Steady) (e : Workflow.Element) :
    TwinEnds ρ (r.runStep ⟨library, limit, now⟩ e) (r'.runStep ⟨library, limit, now'⟩ e) := by
  have hsimilar := h.similar ⟨library, limit, now⟩ ⟨library, limit, now'⟩ e
  obtain ⟨hresult, hstore, hwritten⟩ := Library.dispatch_similar hl hsimilar
  rw [runStep_eq, runStep_eq]
  rcases hd : library.dispatch (r.stepContext ⟨library, limit, now⟩ e) with ⟨f | ⟨⟩, c⟩ <;>
    rcases hd' : library.dispatch (r'.stepContext ⟨library, limit, now'⟩ e) with ⟨f' | ⟨⟩, c'⟩ <;>
    rw [hd, hd'] at hresult hstore hwritten <;> cases hresult
  · -- an operation tells no ids, so its failure is the same in both
    have hf : f.rename ρ = f :=
      Failure.rename_of_isOperational (Library.isOperational_of_dispatch hd)
    have hends := TwinEnds.error (f := f) (h.interrupted e f hstore)
    rwa [hf] at hends
  · exact TwinEnds.ok (h.worked e hstore hwritten)

end Twins

/-- The flows of an element are followed after a success. -/
def followed (element : String) : Except Failure Unit × Run → Except Failure Unit × Run
  | (.ok (), r) => (.ok (), r.follow element)
  | (.error f, r) => (.error f, r)

theorem TwinEnds.followed {o o' : Except Failure Unit × Run} (h : TwinEnds ρ o o')
    (element : String) : TwinEnds ρ (Run.followed element o) (Run.followed element o') := by
  cases h with
  | ok h => exact TwinEnds.ok (h.follow element)
  | error h => exact TwinEnds.error h

/-- **A visit ends alike in both**, if the renaming maps the id that a user
step draws. -/
theorem twins_visit (h : Twins ρ r r') (hl : library.Steady) (limit now now' : Nat)
    (e : Workflow.Element)
    (hid : e.kind.isUserTask = true → ρ (identifier r.drawn) = identifier r'.drawn) :
    TwinEnds ρ (r.visit ⟨library, limit, now⟩ e) (r'.visit ⟨library, limit, now'⟩ e) := by
  unfold visit
  split
  · exact TwinEnds.ok (h.follow e.id)
  · exact TwinEnds.ok h
  · exact (h.runStep hl e).followed e.id
  · split
    · exact (h.runStep hl e).followed e.id
    · exact TwinEnds.ok (h.follow e.id)
  · next hk => exact TwinEnds.ok (h.park e (hid (by rw [hk]; rfl)))
  · exact TwinEnds.ok (h.join e.id)
  · rw [h.workflow_eq, h.vars_eq]
    split
    · exact TwinEnds.ok (h.push _)
    · exact TwinEnds.error h

theorem visit_of_isUserTask {s : Surroundings} (hk : e.kind.isUserTask = true) :
    r.visit s e = (.ok (), r.park e) := by
  unfold visit
  cases hkind : e.kind <;> simp_all [Workflow.ElementKind.isUserTask]

/-- **Visiting elements ends alike in both**, if the renaming goes along with
the ids that have been drawn in the end. -/
theorem twins_advanceFrom (h : Twins ρ r r') (hl : library.Steady) (fuel : Nat)
    (halong : Along ρ (advanceFrom ⟨library, limit, now⟩ fuel r).2.ids
      (advanceFrom ⟨library, limit, now'⟩ fuel r').2.ids) :
    TwinEnds ρ (advanceFrom ⟨library, limit, now⟩ fuel r)
      (advanceFrom ⟨library, limit, now'⟩ fuel r') := by
  induction fuel generalizing r r' with
  | zero =>
    rcases ht : r.inst.tokens with _ | ⟨id, rest⟩
    · rw [advanceFrom_nil ht, advanceFrom_nil (h.tokens_eq.trans ht)]
      exact TwinEnds.ok h.settle
    · rw [advanceFrom_zero ht, advanceFrom_zero (h.tokens_eq.trans ht), h.id_eq]
      exact TwinEnds.error (f := .stepLimit r.inst.id limit) (h.pop rest)
  | succ fuel ih =>
    rcases ht : r.inst.tokens with _ | ⟨id, rest⟩
    · rw [advanceFrom_nil ht, advanceFrom_nil (h.tokens_eq.trans ht)]
      exact TwinEnds.ok h.settle
    · rw [advanceFrom_succ ht, advanceFrom_succ (h.tokens_eq.trans ht), h.workflow_eq] at halong ⊢
      rcases he : r.inst.workflow.element? id with _ | e
      · dsimp only
        rw [h.id_eq]
        exact TwinEnds.error (f := .unknownElement r.inst.id id) (h.pop rest)
      · simp only [he] at halong ⊢
        have hends := twins_visit (h.pop rest) hl limit now now' e
          fun hk => by
            -- the ids that are drawn at the user step are the next ones
            rw [visit_of_isUserTask hk, visit_of_isUserTask hk] at halong
            refine halong.eq_of_isPrefix (h.pop rest).length_eq ?_ ?_
            · rw [← ids_park]
              exact ids_isPrefix (extends_advanceFrom ..)
            · rw [← ids_park]
              exact ids_isPrefix (extends_advanceFrom ..)
        generalize (r.pop rest).visit ⟨library, limit, now⟩ e = o at halong hends ⊢
        generalize (r'.pop rest).visit ⟨library, limit, now'⟩ e = o' at halong hends ⊢
        cases hends with
        | ok hvisit => exact ih hvisit halong
        | error hvisit => exact TwinEnds.error hvisit

theorem twins_advance (h : Twins ρ r r') (hl : library.Steady)
    (halong : Along ρ (r.advance ⟨library, limit, now⟩).2.ids
      (r'.advance ⟨library, limit, now'⟩).2.ids) :
    TwinEnds ρ (r.advance ⟨library, limit, now⟩) (r'.advance ⟨library, limit, now'⟩) := by
  unfold advance at halong ⊢
  rw [h.steps_eq] at halong ⊢
  exact twins_advanceFrom h hl _ halong

/-- **A completion ends alike in both.** -/
theorem twins_completeItem (h : Twins ρ r r') (hl : library.Steady) (limit now now' : Nat)
    (item : WorkItem) :
    TwinEnds ρ (r.completeItem ⟨library, limit, now⟩ item)
      (r'.completeItem ⟨library, limit, now'⟩ (item.rename ρ)) := by
  have hnode : (item.rename ρ).nodeId = item.nodeId := rfl
  unfold completeItem
  rw [h.workflow_eq, hnode]
  split
  · exact TwinEnds.error (f := .workItemWithoutElement item.nodeId) h
  · next e _ =>
    suffices hstep : TwinEnds ρ (Engine.completeStep ⟨library, limit, now⟩ r e)
        (Engine.completeStep ⟨library, limit, now'⟩ r' e) from hstep.followed e.id
    unfold Engine.completeStep
    split
    · exact h.runStep hl e
    · exact TwinEnds.ok (h.emit rfl rfl)

theorem twins_resume (h : Twins ρ r r') (hl : library.Steady) (item : WorkItem)
    (halong : Along ρ (r.resume ⟨library, limit, now⟩ item).2.ids
      (r'.resume ⟨library, limit, now'⟩ (item.rename ρ)).2.ids) :
    TwinEnds ρ (r.resume ⟨library, limit, now⟩ item)
      (r'.resume ⟨library, limit, now'⟩ (item.rename ρ)) := by
  have hitem := twins_completeItem h hl limit now now' item
  unfold resume at halong ⊢
  generalize r.completeItem ⟨library, limit, now⟩ item = o at halong hitem ⊢
  generalize r'.completeItem ⟨library, limit, now'⟩ (item.rename ρ) = o' at halong hitem ⊢
  cases hitem with
  | ok hdone => exact twins_advance hdone hl halong
  | error hfail => exact TwinEnds.error hfail

end Run

end WorkflowCanvas
