import WorkflowCanvas.Proofs.Engine.Account
import WorkflowCanvas.Proofs.Engine.Carry
import WorkflowCanvas.Proofs.Engine.Tokens
/-!
# The events tell the marks

An operation that is dispatched, a token that is left for a user and a step
that is completed are deeds of an instance. Its events tell its deeds, and so
do its marks, and both tell the same ones in the same order
(`deeds_after`): what is known of the marks holds of what was reported.
-/


namespace WorkflowCanvas

open Operation (Context Library)

/-- **Something that an instance does at an element** of an id. -/
inductive Deed where
  /-- The operation of the element is dispatched. -/
  | dispatched (node : String)
  /-- A token is left for a user. -/
  | parked (node : String)
  /-- The element is completed. -/
  | completed (node : String)
deriving DecidableEq

namespace Deed

/-- The id of the element. -/
def node : Deed → String
  | .dispatched node | .parked node | .completed node => node

/-- An operation is dispatched. -/
def isDispatch : Deed → Bool
  | .dispatched _ => true
  | _ => false

end Deed

/-- The deed that an event tells. -/
def Event.deed? : Event → Option Deed
  | .stepStarted _ node _ => some (.dispatched node)
  | .waitingForUser _ node _ => some (.parked node)
  | .stepCompleted _ node => some (.completed node)
  | _ => none

/-- **The deeds that events tell**, in order. -/
def deedsOf (es : List Event) : List Deed := es.filterMap Event.deed?

theorem deedsOf_append (es events : List Event) :
    deedsOf (es ++ events) = deedsOf es ++ deedsOf events :=
  List.filterMap_append ..

/-- An event that is emitted tells its deed behind the others. -/
theorem deedsOf_cons (es emitted : List Event) (v : Event) :
    deedsOf (es ++ (v :: emitted).reverse) = deedsOf (es ++ emitted.reverse) ++ v.deed?.toList := by
  have hlast : deedsOf [v] = v.deed?.toList := by
    rcases hv : v.deed? with _ | d <;> simp [deedsOf, hv]
  rw [List.reverse_cons, ← List.append_assoc, deedsOf_append, hlast]

/-- A dispatched operation is one that the step names. -/
theorem Operation.Library.names_of_dispatch {l : Library} {c c' : Context}
    (h : l.dispatch c = (.ok (), c')) : c.step.operationId?.isSome = true := by
  unfold dispatch at h
  split at h
  · cases h
  · next hop => rw [hop, Option.isSome_some]

namespace Mark

/-- The element works: it is an automatic step that is visited, or a work
item of it is completed. -/
def works (m : Mark) : Bool := !m.isVisit || m.element.kind.isAutomatic

/-- An operation is dispatched. An element that works without naming one has
none to dispatch, or fails for that. -/
def dispatches (m : Mark) : Bool := m.works && (m.element.operationId?.isSome || m.failed)

/-- The element is completed. A script that names no operation only lets its
token through. -/
def completes (m : Mark) : Bool :=
  m.works && (!m.isVisit || m.element.operationId?.isSome) && !m.failed

/-- **The deeds that a mark tells**, in order. -/
def deeds (m : Mark) : List Deed :=
  (if m.parks then [.parked m.element.id] else []) ++
    (if m.dispatches then [.dispatched m.element.id] else []) ++
    if m.completes then [.completed m.element.id] else []

/-- A deed is done at the element of its mark. -/
theorem node_of_mem_deeds {m : Mark} {d : Deed} (hd : d ∈ m.deeds) : d.node = m.element.id := by
  have hone : ∀ {b : Bool} {d' : Deed}, d'.node = m.element.id →
      d ∈ (if b then [d'] else []) → d.node = m.element.id := by
    intro b d' hnode hmem
    cases b with
    | false => cases hmem
    | true => exact List.mem_singleton.1 hmem ▸ hnode
  rcases List.mem_append.1 hd with hd | hd
  · rcases List.mem_append.1 hd with hd | hd
    · exact hone rfl hd
    · exact hone rfl hd
  · exact hone rfl hd

end Mark

namespace Run

variable {s : Surroundings} {r r' : Run} {e : Workflow.Element} {f : Failure} {es : List Event}
variable {ms : List Mark} {o : Except Failure Unit × Run}

/-! ## A run tells its marks -/

/-- A visit of an element that does not work, and where no token is left for a
user, is no deed. -/
theorem deeds_of_idle {m : Mark} (hv : m.isVisit = true) (huser : m.element.kind.isUserTask = false)
    (hauto : m.element.kind.isAutomatic = false) : m.deeds = [] := by
  simp [Mark.deeds, Mark.parks, Mark.dispatches, Mark.completes, Mark.works, hv, huser, hauto]

/-- A mark that works without naming an operation is completed at most. -/
theorem deeds_of_unnamed {m : Mark} (hworks : m.works = true) (hparks : m.parks = false)
    (hop : m.element.operationId? = none) (hf : m.failed = false) :
    m.deeds = if m.isVisit then [] else [.completed m.element.id] := by
  cases hv : m.isVisit <;>
    simp [Mark.deeds, Mark.dispatches, Mark.completes, hworks, hparks, hop, hf, hv]

/-- A mark whose operation has succeeded. -/
theorem deeds_of_worked {m : Mark} (hworks : m.works = true) (hparks : m.parks = false)
    (hop : m.element.operationId?.isSome = true) (hf : m.failed = false) :
    m.deeds = [.dispatched m.element.id, .completed m.element.id] := by
  simp [Mark.deeds, Mark.dispatches, Mark.completes, hworks, hparks, hop, hf]

/-- A mark whose operation has given up. -/
theorem deeds_of_gaveUp {m : Mark} (hworks : m.works = true) (hparks : m.parks = false)
    (hf : m.failed = true) : m.deeds = [.dispatched m.element.id] := by
  simp [Mark.deeds, Mark.dispatches, Mark.completes, hworks, hparks, hf]

theorem works_of_isAutomatic {m : Mark} (hk : m.element.kind.isAutomatic = true) :
    m.works = true ∧ m.parks = false := by
  have huser : m.element.kind.isUserTask = false := by
    revert hk
    cases m.element.kind <;> simp [Workflow.ElementKind.isAutomatic, Workflow.ElementKind.isUserTask]
  exact ⟨by simp [Mark.works, hk], by simp [Mark.parks, huser]⟩

/-- The events of an operation that has succeeded tell its deeds. -/
theorem deedsOf_worked (es : List Event) (r : Run) (e : Workflow.Element) (c : Context) :
    deedsOf (es ++ (r.worked e c).emitted.reverse) =
      deedsOf (es ++ r.emitted.reverse) ++ [.dispatched e.id, .completed e.id] := by
  rw [worked, deedsOf_cons, deedsOf_cons, List.append_assoc]
  rfl

/-- The events of an operation that has given up tell that it was
dispatched. -/
theorem deedsOf_interrupted (es : List Event) (r : Run) (e : Workflow.Element) (c : Context)
    (f : Failure) :
    deedsOf (es ++ ((r.interrupted e c f).fail f).emitted.reverse) =
      deedsOf (es ++ r.emitted.reverse) ++ [.dispatched e.id] := by
  rw [fail, emit, deedsOf_cons, interrupted, deedsOf_cons, deedsOf_cons, List.append_assoc,
    List.append_assoc]
  rfl

theorem emitted_join (r : Run) (gateway : String) : (r.join gateway).emitted = r.emitted := by
  rw [join_eq]
  split
  · split <;> rfl
  · rfl

/-- **A visit tells the deeds of its mark.** -/
theorem Visited.deeds (hv : Visited s r e o) (hactive : r.inst.state = .active) :
    deedsOf (es ++ o.2.emitted.reverse) =
      deedsOf (es ++ r.emitted.reverse) ++ (r.mark none e o).deeds := by
  cases hv with
  | ended hk =>
    rw [deeds_of_idle rfl (by rw [mark, hk]; rfl) (by rw [mark, hk]; rfl), List.append_nil]
  | passed hk =>
    have hnone : (r.mark none e (.ok (), r.follow e.id)).deeds = [] := by
      rcases hk with hk | ⟨hk, hop⟩
      · exact deeds_of_idle rfl (by rw [mark, hk]; rfl) (by rw [mark, hk]; rfl)
      · have hauto : e.kind.isAutomatic = true := by
          revert hk
          cases e.kind <;> simp [Workflow.ElementKind.isScriptTask, Workflow.ElementKind.isAutomatic]
        obtain ⟨hworks, hparks⟩ :=
          works_of_isAutomatic (m := r.mark none e (.ok (), r.follow e.id)) hauto
        exact deeds_of_unnamed hworks hparks hop (not_failed_of_underway hactive)
    rw [hnone, List.append_nil]
    rfl
  | @worked c hk hd =>
    obtain ⟨hworks, hparks⟩ :=
      works_of_isAutomatic (m := r.mark none e (.ok (), (r.worked e c).follow e.id)) hk
    rw [deeds_of_worked hworks hparks (Library.names_of_dispatch hd) (not_failed_of_underway hactive)]
    exact deedsOf_worked es r e c
  | @gaveUp c f hk hd =>
    obtain ⟨hworks, hparks⟩ :=
      works_of_isAutomatic (m := r.mark none e (.error f, (r.interrupted e c f).fail f)) hk
    rw [deeds_of_gaveUp hworks hparks rfl]
    exact deedsOf_interrupted es r e c f
  | parked hk =>
    have hauto : e.kind.isAutomatic = false := by
      revert hk
      cases e.kind <;> simp [Workflow.ElementKind.isUserTask, Workflow.ElementKind.isAutomatic]
    have hdeeds : (r.mark none e (.ok (), r.park e)).deeds = [.parked e.id] := by
      simp [Mark.deeds, Mark.parks, Mark.dispatches, Mark.completes, Mark.works, Mark.isVisit, mark,
        hk, hauto]
    rw [hdeeds, park, emit, deedsOf_cons]
    rfl
  | joined hk =>
    rw [deeds_of_idle rfl (by rw [mark, hk]; rfl) (by rw [mark, hk]; rfl), List.append_nil,
      emitted_join]
  | chose hk =>
    rw [deeds_of_idle rfl (by rw [mark, hk]; rfl) (by rw [mark, hk]; rfl), List.append_nil]
    rfl
  | stuck hk =>
    rw [deeds_of_idle rfl (by rw [mark, hk]; rfl) (by rw [mark, hk]; rfl), List.append_nil, fail,
      emit, deedsOf_cons]
    exact List.append_nil _

/-- **A completion tells the deeds of its mark.** -/
theorem Handled.deeds {item : WorkItem} (ho : Handled s r e o) (hactive : r.inst.state = .active) :
    deedsOf (es ++ o.2.emitted.reverse) =
      deedsOf (es ++ r.emitted.reverse) ++ (r.mark (some item) e o).deeds := by
  cases ho with
  | confirmed hop =>
    rw [deeds_of_unnamed rfl rfl hop (not_failed_of_underway hactive)]
    exact deedsOf_cons es r.emitted _
  | @served c hd =>
    rw [deeds_of_worked rfl rfl (Library.names_of_dispatch hd) (not_failed_of_underway hactive)]
    exact deedsOf_worked es r e c
  | @gaveUp c f hd =>
    rw [deeds_of_gaveUp rfl rfl rfl]
    exact deedsOf_interrupted es r e c f

/-- A run that is at work has told the deeds of its marks. -/
structure Telling (es : List Event) (ms : List Mark) (r : Run) : Prop where
  active : r.inst.state = .active
  deeds_eq : deedsOf (es ++ r.emitted.reverse) = ms.flatMap Mark.deeds

theorem flatMap_deeds_concat (ms : List Mark) (m : Mark) :
    (ms ++ [m]).flatMap Mark.deeds = ms.flatMap Mark.deeds ++ m.deeds := by
  rw [List.flatMap_append, List.flatMap_singleton]

theorem deedsOf_fail (es : List Event) (r : Run) (f : Failure) :
    deedsOf (es ++ (r.fail f).emitted.reverse) = deedsOf (es ++ r.emitted.reverse) := by
  rw [fail, emit, deedsOf_cons]
  exact List.append_nil _

theorem deedsOf_settle (es : List Event) (r : Run) :
    deedsOf (es ++ r.settle.emitted.reverse) = deedsOf (es ++ r.emitted.reverse) := by
  unfold settle
  split
  · rw [emit, deedsOf_cons]
    exact List.append_nil _
  · rfl

/-- **A run tells the deeds of its marks.** -/
theorem carries_deeds (s : Surroundings) (es : List Event) :
    Carries s (Telling es)
      (fun ms o => deedsOf (es ++ o.2.emitted.reverse) = ms.flatMap Mark.deeds) where
  pop h _ := ⟨h.active, h.deeds_eq⟩
  visit h _ hv := by
    refine ⟨(hv.lawful h.active rfl).state_eq, ?_⟩
    rw [flatMap_deeds_concat, ← h.deeds_eq]
    exact hv.deeds h.active
  gaveUp h _ hv := by
    rw [flatMap_deeds_concat, ← h.deeds_eq]
    exact hv.deeds h.active
  settle h _ := (deedsOf_settle es _).trans h.deeds_eq
  limit h _ := (deedsOf_fail es _ _).trans h.deeds_eq
  lost h _ _ _ := (deedsOf_fail es _ _).trans h.deeds_eq

end Run

namespace Engine

/-- The events of an instance tell the deeds of its marks. -/
def TellsDeeds (ms : List Mark) (es : List Event) (_ : Instance) : Prop :=
  deedsOf es = ms.flatMap Mark.deeds

/-- An event that tells no deed is told in between. -/
theorem TellsDeeds.concat {ms : List Mark} {es : List Event} {i j : Instance} {v : Event}
    (h : TellsDeeds ms es i) (hv : v.deed? = none) : TellsDeeds ms (es ++ [v]) j := by
  rw [TellsDeeds, deedsOf_append, h]
  simp [deedsOf, hv]

theorem matched_deeds : Matched (fun _ => True) TellsDeeds where
  opened {e key p vars o} _ ho :=
    ho ▸ (Run.carries_deeds e.surroundings []).advance [] ⟨rfl, rfl⟩
  resumed {e i ms es name vars item others o} _ _ h hactive _ ho := by
    have hstart : Run.Telling es ms (e.resuming i others vars) :=
      ⟨hactive, (congrArg deedsOf (List.append_nil es)).trans h⟩
    have hcarries := Run.carries_deeds e.surroundings es
    subst ho
    refine hcarries.resume ms (fun element r' he hh => ⟨?_, ?_⟩) (fun element f r' _ hh => ?_)
      fun f _ _ => (Run.deedsOf_fail es _ f).trans hstart.deeds_eq
    · cases hh <;> exact hactive
    · rw [Run.flatMap_deeds_concat, ← hstart.deeds_eq]
      exact hh.deeds hactive
    · rw [Run.flatMap_deeds_concat, ← hstart.deeds_eq]
      exact hh.deeds hactive
  suspended h _ := h.concat rfl
  reactivated h _ := h.concat rfl
  terminated h _ := h.concat rfl

/-- **The events of an instance tell the deeds of its marks**, in order,
after any turns. -/
theorem deeds_after (library : Library) (stepLimit drawn now : Nat) (turns : List Turn) :
    let e := new library stepLimit drawn now
    ∀ i ∈ (e.after turns).instances,
      deedsOf (eventsOf i.id (e.after turns).log) =
        (e.history turns i.id).flatMap Mark.deeds :=
  matched_deeds.after trivial fun _ _ _ => trivial

end Engine

end WorkflowCanvas
