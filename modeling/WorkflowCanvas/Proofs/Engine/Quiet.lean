import WorkflowCanvas.Proofs.Engine.Renaming
import WorkflowCanvas.Proofs.Engine.Story
/-!
# The turns between two calls to an instance

Of all turns, an instance knows only the calls that are addressed to it
(`callsTo`). Between two of them an engine that keeps its library (`Fit`)
leaves the instance as it is, and draws no id for it (`Fit.quiet`). So any
turns are the calls to an instance with quiet turns before each
(`exists_of_callsTo`).
-/


namespace WorkflowCanvas

namespace Engine

open Operation (Library)

variable {library : Library} {limit : Nat} {id : String} {e : Engine} {i : Instance}
variable {ts : List Turn}

/-! ## Calls to an instance -/

/-- **The calls addressed to an instance** among some turns. -/
def callsTo (id : String) : List Turn → List Call
  | [] => []
  | .call c :: ts => if c.addressee? = some id then c :: callsTo id ts else callsTo id ts
  | .lend .. :: ts => callsTo id ts

/-- What an engine answers to them. -/
def answersTo (id : String) (e : Engine) : List Turn → List (Except Failure Answer)
  | [] => []
  | .call c :: ts =>
    if c.addressee? = some id then (e.perform c).1 :: answersTo id (e.turn (.call c)) ts
    else answersTo id (e.turn (.call c)) ts
  | .lend library now :: ts => answersTo id (e.turn (.lend library now)) ts

/-- The turns lend no other operations than the library's. -/
def Lends (library : Library) (ts : List Turn) : Prop := ∀ l now, .lend l now ∈ ts → l = library

theorem Lends.mono {us : List Turn} (h : Lends library ts) (hsub : us ⊆ ts) : Lends library us :=
  fun l now hm => h l now (hsub hm)

/-! ## Engines that work with one library -/

/-- An engine that works with a library and a limit, as turns have left
it. -/
structure Fit (library : Library) (limit : Nat) (e : Engine) : Prop where
  library_eq : e.library = library
  limit_eq : e.stepLimit = limit
  orderly : e.Orderly
  upholds : e.Upholds Tells

namespace Fit

theorem surroundings_eq (h : Fit library limit e) : e.surroundings = ⟨library, limit, e.now⟩ := by
  rw [← h.library_eq, ← h.limit_eq]
  rfl

theorem numbered (h : Fit library limit e) : e.Numbered := h.upholds.numbered

theorem turn (h : Fit library limit e) (t : Turn) (hl : Lends library [t]) :
    Fit library limit (e.turn t) := by
  have horderly := orderly_turn e t h.orderly
  have hupholds := (upholds_turn kept_tells t trivial (fun _ _ _ => trivial) h.upholds).1
  cases t with
  | call c =>
    have hsame : (e.perform c).2.surroundings = e.surroundings :=
      (effect_perform e c).surroundings_eq
    exact ⟨(congrArg Surroundings.library hsame).trans h.library_eq,
      (congrArg Surroundings.stepLimit hsame).trans h.limit_eq, horderly, hupholds⟩
  | lend l now => exact ⟨hl l now (List.mem_singleton_self _), h.limit_eq, horderly, hupholds⟩

theorem after (h : Fit library limit e) (ts : List Turn) (hl : Lends library ts) :
    Fit library limit (e.after ts) := by
  induction ts generalizing e with
  | nil => exact h
  | cons t ts ih =>
    exact ih (h.turn t (hl.mono (by simp))) (hl.mono (List.subset_cons_self t ts))

theorem new (library : Library) (limit drawn now : Nat) :
    Fit library limit (new library limit drawn now) := by
  have hupholds : ((Engine.new library limit drawn now).after []).Upholds Tells :=
    kept_tells.after trivial fun _ _ _ => trivial
  exact ⟨rfl, rfl, orderly_after library limit drawn now [], hupholds⟩

/-- A pending item is at an element of the workflow. -/
theorem exists_element (h : Fit library limit e) (hi : i ∈ e.instances) {w : WorkItem}
    (hw : w ∈ i.pending) : ∃ element ∈ i.workflow.elements, element.id = w.nodeId := by
  have huser := Told.isUserStep_of_mem (h.upholds.holds i hi) hw
  rcases he : i.workflow.element? w.nodeId with _ | element
  · rw [Workflow.isUserStep, he] at huser
    cases huser
  · exact ⟨element, List.mem_of_find?_eq_some he, Workflow.id_of_element? he⟩

end Fit

/-! ## The ids of an instance -/

section Ids

/-- The ids that were drawn for an instance, its own first. -/
def idsOf (e : Engine) (id : String) : List String := drawnIds (eventsOf id e.log)

variable {c : Call} {ms : List Mark} {x : Except Failure Answer × Engine}

/-- The log of a call begins where the log before it has ended. -/
theorem Effect.exists_log_eq (hx : Effect e c ms x) : ∃ events, x.2.log = events ++ e.log := by
  cases hx with
  | refused => exact ⟨[], rfl⟩
  | asked => exact ⟨[], rfl⟩
  | deployed => exact ⟨[_], rfl⟩
  | @started _ _ _ o => exact ⟨o.2.emitted, rfl⟩
  | @resumed _ _ _ _ _ _ o => exact ⟨o.2.emitted, rfl⟩
  | suspended => exact ⟨[_], rfl⟩
  | reactivated => exact ⟨[_], rfl⟩
  | terminated => exact ⟨[_], rfl⟩

theorem idsOf_turn (e : Engine) (t : Turn) (id : String) : idsOf e id <+: idsOf (e.turn t) id := by
  cases t with
  | call c =>
    obtain ⟨events, hlog⟩ := (effect_perform e c).exists_log_eq
    simp only [idsOf, turn, hlog, eventsOf_append, drawnIds_append]
    exact List.prefix_append _ _
  | lend => exact List.prefix_refl _

/-- **The ids that were drawn stay**, and more may be drawn after them. -/
theorem idsOf_after (e : Engine) (ts : List Turn) (id : String) :
    idsOf e id <+: idsOf (e.after ts) id := by
  induction ts generalizing e with
  | nil => exact List.prefix_refl _
  | cons t ts ih => exact (idsOf_turn e t id).trans (ih (e.turn t))

/-- An event that tells no new id adds none. -/
theorem idsOf_move (e : Engine) (j : Instance) {v : Event} (hv : v.drawnId? = none) (id : String) :
    idsOf (e.move j v) id = idsOf e id := by
  show drawnIds (eventsOf id ([v] ++ e.log)) = _
  have hnone : drawnIds (eventsOf id [v]) = [] := by
    simp only [eventsOf, List.filter_cons, List.filter_nil]
    split <;> simp [drawnIds, hv]
  rw [eventsOf_append, drawnIds_append, hnone, List.append_nil, idsOf]

/-- A run adds the ids that it has drawn. -/
theorem idsOf_takeBack (e : Engine) {r : Run} (h : ∀ v ∈ r.emitted, v.instanceId? = some id) :
    idsOf (e.takeBack r) id = idsOf e id ++ r.ids := by
  show drawnIds (eventsOf id (r.emitted ++ e.log)) = _
  rw [eventsOf_append, eventsOf_of_own h, drawnIds_append]
  rfl

end Ids

/-! ## The turns between two calls -/

theorem callsTo_append (id : String) (ts us : List Turn) :
    callsTo id (ts ++ us) = callsTo id ts ++ callsTo id us := by
  induction ts with
  | nil => rfl
  | cons t ts ih =>
    cases t with
    | call c =>
      simp only [List.cons_append, callsTo]
      split <;> simp [ih]
    | lend => exact ih

theorem answersTo_append (id : String) (e : Engine) (ts us : List Turn) :
    answersTo id e (ts ++ us) = answersTo id e ts ++ answersTo id (e.after ts) us := by
  induction ts generalizing e with
  | nil => rfl
  | cons t ts ih =>
    cases t with
    | call c =>
      simp only [List.cons_append, answersTo, after_cons]
      split <;> simp [ih]
    | lend => exact ih _

theorem answersTo_of_callsTo (e : Engine) (h : callsTo id ts = []) : answersTo id e ts = [] := by
  induction ts generalizing e with
  | nil => rfl
  | cons t ts ih =>
    cases t with
    | call c =>
      simp only [callsTo] at h
      split at h
      · cases h
      · next hc =>
        simp only [answersTo, if_neg hc]
        exact ih _ h
    | lend => exact ih _ h

/-- **The next call to an instance** comes after turns without any. -/
theorem exists_of_callsTo {c : Call} {cs : List Call} (h : callsTo id ts = c :: cs) :
    ∃ quiet rest, ts = quiet ++ .call c :: rest ∧ callsTo id quiet = [] ∧
      c.addressee? = some id ∧ callsTo id rest = cs := by
  induction ts with
  | nil => cases h
  | cons t ts ih =>
    -- a turn that is no call to the instance is one more before the next
    have hskip : callsTo id [t] = [] → callsTo id ts = c :: cs →
        ∃ quiet rest, t :: ts = quiet ++ .call c :: rest ∧ callsTo id quiet = [] ∧
          c.addressee? = some id ∧ callsTo id rest = cs := by
      intro ht hts
      obtain ⟨quiet, rest, rfl, hquiet, hc, hrest⟩ := ih hts
      refine ⟨t :: quiet, rest, rfl, ?_, hc, hrest⟩
      rw [← List.singleton_append, callsTo_append, ht, hquiet, List.append_nil]
    cases t with
    | call d =>
      simp only [callsTo] at h
      split at h
      · next hd =>
        obtain ⟨rfl, rfl⟩ := List.cons.inj h
        exact ⟨[], ts, rfl, rfl, hd, rfl⟩
      · next hd => exact hskip (by simp [callsTo, hd]) h
    | lend => exact hskip rfl h

theorem Fit.quiet_turn (h : Fit library limit e) (hi : i ∈ e.instances) (t : Turn)
    (hq : callsTo i.id [t] = []) : i ∈ (e.turn t).instances ∧ idsOf (e.turn t) i.id = idsOf e i.id := by
  cases t with
  | call c =>
    have hc : c.addressee? ≠ some i.id := by
      intro hc
      simp [callsTo, hc] at hq
    have hx := effect_perform e c
    exact ⟨hx.mem_of_elsewhere h.numbered hi hc,
      congrArg drawnIds (hx.eventsOf_of_elsewhere h.numbered hi hc)⟩
  | lend => exact ⟨hi, rfl⟩

/-- **Turns without a call to it leave an instance and its ids.** -/
theorem Fit.quiet (h : Fit library limit e) (hi : i ∈ e.instances) (hl : Lends library ts)
    (hq : callsTo i.id ts = []) :
    i ∈ (e.after ts).instances ∧ idsOf (e.after ts) i.id = idsOf e i.id := by
  induction ts generalizing e with
  | nil => exact ⟨hi, rfl⟩
  | cons t ts ih =>
    rw [← List.singleton_append, callsTo_append, List.append_eq_nil_iff] at hq
    obtain ⟨hmem, hids⟩ := h.quiet_turn hi t hq.1
    obtain ⟨hmem', hids'⟩ := ih (h.turn t (hl.mono (by simp))) hmem
      (hl.mono (List.subset_cons_self t ts)) hq.2
    exact ⟨hmem', hids'.trans hids⟩

end Engine

end WorkflowCanvas
