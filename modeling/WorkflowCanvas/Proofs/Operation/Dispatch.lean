import WorkflowCanvas.Operation.Dispatch
import WorkflowCanvas.Proofs.Operation.Registration
/-!
# What a dispatch comes to

The step alone decides which way it is dispatched (`Library.route`): either
no handler is found, and then the context stays as it is, or a handler of
the catalogue runs in it. If that fails, it fails for the operation, never
for the workflow (`Library.isOperational_of_dispatch`).
-/


namespace WorkflowCanvas

/-- The failure is one of an operation: it cannot be found or made, or it
has given up. -/
def Failure.isOperational : Failure → Bool
  | .missingOperationId _ | .unknownOperation _ | .noHandler _ | .notAHandler _ _
  | .instantiation _ _ | .execution _ _ | .business _ _ _ => true
  | _ => false

/-- The failure is that an operation is not found by its id. -/
def Failure.isUnfound : Failure → Bool
  | .missingOperationId _ | .unknownOperation _ => true
  | _ => false

namespace Operation

theorem Catalog.find?_of_instantiate {c : Catalog} {ref : String} {h : Handler}
    (hi : c.instantiate ref = .ok (.handler h)) : c.find? ref = some (.handler h) := by
  unfold instantiate at hi
  split at hi <;> cases hi
  assumption

namespace Library

variable {l : Library} {c : Context} {operation : String} {h : Handler} {f : Failure}

theorem isOperational_of_resolve (hr : l.resolve operation = .error f) :
    f.isOperational = true := by
  unfold resolve at hr
  split at hr
  · cases hr
    rfl
  · split at hr
    · cases hr
      rfl
    · split at hr <;> cases hr <;> rfl

/-- The handler of an operation is in the catalogue. -/
theorem find?_of_resolve (hr : l.resolve operation = .ok h) :
    ∃ ref, l.catalog.find? ref = some (.handler h) := by
  unfold resolve at hr
  split at hr
  · cases hr
  · split at hr
    · cases hr
    · next ref _ =>
      split at hr
      · cases hr
      · next hi =>
        cases hr
        exact ⟨ref, Catalog.find?_of_instantiate hi⟩
      · cases hr

/-- What a handler has made of its context, as an outcome of its
operation. -/
def outcomeOf (operation : String) (x : Except Refusal Unit × Context) :
    Except Failure Unit × Context :=
  (x.1.mapError (failureOf operation), x.2)

/-- **The way that a step is dispatched**, whatever its context. -/
inductive Route (l : Library) (step : Workflow.Element) : Prop
  /-- No handler is found. -/
  | broken (f : Failure) : f.isOperational = true →
      (∀ c, c.step = step → l.dispatch c = (.error f, c)) → Route l step
  /-- The handler runs. -/
  | ran (operation ref : String) (h : Handler) : l.catalog.find? ref = some (.handler h) →
      (∀ c, c.step = step → l.dispatch c = outcomeOf operation (h c)) → Route l step

/-- **Every step is dispatched in one of these ways.** -/
theorem route (l : Library) (step : Workflow.Element) : Route l step := by
  rcases hop : step.operationId? with _ | operation
  · refine Route.broken (.missingOperationId step.id) rfl fun c hc => ?_
    simp only [dispatch, hc, hop]
  · rcases hr : l.resolve operation with f | h
    · refine Route.broken f (isOperational_of_resolve hr) fun c hc => ?_
      simp only [dispatch, hc, hop, hr]
    · obtain ⟨ref, href⟩ := find?_of_resolve hr
      refine Route.ran operation ref h href fun c hc => ?_
      simp only [dispatch, hc, hop, hr]
      rcases h c with ⟨_ | _, _⟩ <;> rfl

/-- A dispatch fails for its operation. -/
theorem isOperational_of_dispatch {c' : Context} (hd : l.dispatch c = (.error f, c')) :
    f.isOperational = true := by
  cases l.route c.step with
  | broken g hg hall =>
    rw [hall c rfl] at hd
    cases hd
    exact hg
  | ran operation ref h _ hall =>
    rw [hall c rfl] at hd
    rcases hx : h c with ⟨refusal | _, c''⟩ <;> rw [hx] at hd <;> cases hd
    cases refusal <;> rfl

/-- A registered operation may lack a handler, but it is found. -/
theorem isUnfound_of_resolve (hop : l.registry.contains operation = true)
    (hr : l.resolve operation = .error f) : f.isUnfound = false := by
  rw [Registry.contains_eq] at hop
  obtain ⟨d, hd⟩ := Option.isSome_iff_exists.1 hop
  simp only [resolve, hd] at hr
  split at hr
  · cases hr
    rfl
  · split at hr <;> cases hr <;> rfl

/-- **The operation of a step is found by its id** in all dispatches of the
step exactly if it has one that is registered. -/
theorem finds_iff (l : Library) (step : Workflow.Element) :
    (∀ c f, c.step = step → (l.dispatch c).1 = .error f → f.isUnfound = false) ↔
      ∃ operation, step.operationId? = some operation ∧ l.registry.contains operation = true := by
  constructor
  · intro h
    -- it would not be found in any context, the empty one to begin with
    let c : Context := { instanceId := "", workflowKey := "", step, store := [] }
    rcases hop : step.operationId? with _ | operation
    · have hd : (l.dispatch c).1 = .error (.missingOperationId step.id) := by
        simp only [dispatch, c, hop]
      cases h c _ rfl hd
    · refine ⟨operation, rfl, ?_⟩
      rcases hfind : l.registry.find? operation with _ | d
      · have hd : (l.dispatch c).1 = .error (.unknownOperation operation) := by
          simp only [dispatch, c, hop, resolve, hfind]
        cases h c _ rfl hd
      · rw [Registry.contains_eq, hfind]
        rfl
  · rintro ⟨operation, hop, hcontains⟩ c f rfl hd
    simp only [dispatch, hop] at hd
    rcases hr : l.resolve operation with g | handler
    · rw [hr] at hd
      cases hd
      exact isUnfound_of_resolve hcontains hr
    · rw [hr] at hd
      rcases hx : handler c with ⟨refusal | _, c'⟩
      · simp only [hx] at hd
        cases hd
        cases refusal <;> rfl
      · simp only [hx] at hd
        cases hd

end Library

end Operation

end WorkflowCanvas
