import WorkflowCanvas.Proofs.Engine.Deed
import WorkflowCanvas.Proofs.Engine.Join
/-!
# How elements are reached

An instance begins at the start events of its workflow and goes on over its
flows. `Mark.Leads` says over which flows it goes on from a mark, and `Reached`
which ids it has reached so far, by a path of such flows. Whatever it does, it
does at an id that it has reached before (`Course.reached`), and so all that it
reports is at such ids (`elements_reached`).
-/


namespace WorkflowCanvas

open Workflow (Flow Way)
open Operation (Library)
open Engine (visited)

namespace Mark

variable {m : Mark} {w : Way} {f : Flow}

/-- **The instance goes on over a flow** from a mark. -/
structure Leads (m : Mark) (f : Flow) : Prop where
  /-- The flow leaves the element. -/
  outgoing : f ∈ m.after.workflow.outgoing m.element.id
  /-- It has no condition, or one that holds at that moment. -/
  isOpen : Run.isOpen m.after.vars f = true
  /-- A token takes it, and is queued at its target. -/
  taken : f ∈ m.ways.map (·.1)
  queued : f.target ∈ m.queued
  /-- A user step is completed, and not just visited. -/
  completed : m.element.kind.isUserTask = true → m.isVisit = false

theorem isOpen_of_chosenWay? {p : Workflow} {id : String} {vars : Table Json}
    (h : p.chosenWay? id vars = some w) : Run.isOpen vars w.1 = true := by
  rcases Option.or_eq_some_iff.1 h with h | ⟨-, h⟩
  · have hholds := List.find?_some h
    unfold Run.isOpen
    revert hholds
    cases w.1.condition? <;> simp
  · have hnone := List.find?_some h
    rw [Run.isOpen, Option.isNone_iff_eq_none.1 hnone]

/-- The ways that a mark takes are open. -/
theorem isOpen_of_mem_ways (h : w ∈ m.ways) : Run.isOpen m.after.vars w.1 = true := by
  have hopen : w ∈ m.openWays → Run.isOpen m.after.vars w.1 = true :=
    fun h => (List.mem_filter.1 h).2
  unfold ways at h
  split at h
  · cases h
  · split at h
    · split at h
      · cases h
      · cases h
      · exact isOpen_of_chosenWay? (Option.mem_toList.1 h)
      · split at h
        · cases h
        · exact hopen h
      all_goals exact hopen h
    · exact hopen h

/-- **The instance goes on over the ways** that a mark takes. -/
theorem Lawful.leads (hl : m.Lawful) (h : w ∈ m.ways) : m.Leads w.1 where
  outgoing := by
    rw [← m.after.workflow.map_waysFrom]
    exact List.mem_map_of_mem (Mark.mem_waysFrom h)
  isOpen := isOpen_of_mem_ways h
  taken := List.mem_map_of_mem h
  queued := by
    rw [hl.queued_eq]
    exact List.mem_map_of_mem (f := fun w => w.1.target) h
  completed hk := by
    -- a visit of a user step takes no way
    by_contra hv
    rw [Bool.not_eq_false] at hv
    rw [Run.ways_of_kept hl.state_eq hv (Or.inr hk)] at h
    cases h

end Mark

/-- **The ids that an instance has reached** by its marks: a start event, or
the target of a flow over which it has gone on from an id that it had reached
before. -/
inductive Reached (p : Workflow) : List Mark → String → Prop
  | start {h : List Mark} {e : Workflow.Element} : e ∈ p.startEvents → Reached p h e.id
  | flow {h before : List Mark} {m : Mark} {f : Flow} : before ++ [m] <+: h →
      Reached p before m.element.id → m.Leads f → Reached p h f.target

namespace Reached

variable {p : Workflow} {h h' : List Mark} {id : String}

/-- What was reached stays reached. -/
theorem mono (hr : Reached p h id) (hp : h <+: h') : Reached p h' id := by
  cases hr with
  | start he => exact start he
  | flow hbefore hr hf => exact flow (hbefore.trans hp) hr hf

/-- An id is reached from the start, or from an earlier mark. -/
theorem origin (hr : Reached p h id) :
    (∃ e ∈ p.startEvents, e.id = id) ∨ ∃ m ∈ h, ∃ f, m.Leads f ∧ f.target = id := by
  cases hr with
  | start he => exact Or.inl ⟨_, he, rfl⟩
  | @flow _ before m f hbefore _ hf =>
    have hm : m ∈ h := hbefore.subset (List.mem_append_right _ (List.mem_singleton_self m))
    exact Or.inr ⟨m, hm, f, hf, rfl⟩

end Reached

namespace Course

variable {h : List Mark} {i : Instance}

/-- An element that marks are at was reached before the first of them. -/
theorem reached_of_mem {p : Workflow} {m : Mark}
    (hall : ∀ before m, before ++ [m] <+: h → Reached p before m.element.id) (hm : m ∈ h) :
    Reached p h m.element.id := by
  obtain ⟨before, hp⟩ := Engine.exists_isPrefix hm
  exact (hall before m hp).mono ((List.prefix_append before [m]).trans hp)

/-- **An instance does everything where it has come before**: it has reached
the element of each of its marks, and the ids of its tokens. -/
theorem reached (hc : Course h i) :
    (∀ before m, before ++ [m] <+: h → Reached i.workflow before m.element.id) ∧
      (i.state.isHalted = false → ∀ id ∈ i.tokens, Reached i.workflow h id) := by
  induction hc with
  | opened _ htokens =>
    refine ⟨fun before m hp => ?_, fun _ id hid => ?_⟩
    · exact absurd (List.prefix_nil.1 hp) (List.append_ne_nil_of_right_ne_nil _ (by simp))
    · rw [htokens, Instance.starts] at hid
      obtain ⟨e, he, rfl⟩ := List.mem_map.1 hid
      exact Reached.start he
  | @marked h i m hc hactive ht hs ih =>
    obtain ⟨hmarks, htokens⟩ := ih
    have hopen : i.state.isHalted = false := by rw [hactive]; rfl
    have hself : Reached i.workflow h m.element.id := by
      cases ht with
      | @token id rest hqueue he _ _ =>
        rw [Workflow.id_of_element? he]
        exact htokens hopen id (by rw [hqueue]; exact List.mem_cons_self)
      | @item name w others vars htake he _ _ =>
        have hmem := (Engine.perm_takeItem? htake).mem_iff.2 List.mem_cons_self
        obtain ⟨m', hm', -, hid⟩ := hc.parked_of_pending hopen hmem
        rw [Workflow.id_of_element? he, ← hid]
        exact reached_of_mem hmarks hm'
    rw [(ht.of_sound hs).workflow_eq]
    refine ⟨fun before m' hp => ?_, fun hh id hid => ?_⟩
    · rcases List.prefix_concat_iff.1 hp with heq | hp
      · obtain ⟨rfl, hm⟩ := List.append_inj' heq rfl
        rw [List.singleton_inj.1 hm]
        exact hself
      · exact hmarks before m' hp
    · have hl := hs.lawful hh
      rw [hl.tokens_eq, List.mem_append] at hid
      rcases hid with hold | hnew
      · have hbefore : id ∈ i.tokens := by
          cases ht with
          | token hqueue _ _ hm =>
            rw [hm] at hold
            rw [hqueue]
            exact List.mem_cons_of_mem _ hold
          | item _ _ _ hm => rwa [hm] at hold
        exact (htokens hopen id hbefore).mono (List.prefix_append ..)
      · obtain ⟨w, hw, rfl⟩ := List.mem_map.1 hnew
        exact Reached.flow List.prefix_rfl hself (hl.leads hw)
  | halted _ hw _ hh ih =>
    refine ⟨fun before m hp => hw ▸ ih.1 before m hp, fun hh' => ?_⟩
    rw [hh] at hh'
    cases hh'
  | moved _ hh _ ih => exact ⟨ih.1, fun _ => ih.2 hh⟩

end Course

/-! ## What is reported -/

/-- **All that an instance does, it does at elements that it has reached.** -/
structure Instance.Charted (i : Instance) (h : List Mark) (es : List Event) : Prop where
  /-- An id is reached before anything is done there. -/
  marks : ∀ before m, before ++ [m] <+: h → Reached i.workflow before m.element.id
  /-- An element is visited as a start event, or because an earlier mark leads
  to it. Elements go by their ids; if these are distinct, it is the start event
  itself. -/
  visits : ∀ before m, before ++ [m] <+: h → m.isVisit = true →
    (∃ e ∈ i.workflow.startEvents, e.id = m.element.id ∧
      ((i.workflow.elements.map (·.id)).Nodup → m.element = e)) ∨
    ∃ m' ∈ before, ∃ f, m'.Leads f ∧ f.target = m.element.id
  /-- A user step is completed after a token was left there. -/
  completions : ∀ before m, before ++ [m] <+: h → m.isVisit = false →
    ∃ m' ∈ before, m'.parks = true ∧ m'.element = m.element
  dispatched : ∀ node operation?, .stepStarted i.id node operation? ∈ es →
    Reached i.workflow h node
  parked : ∀ node taskId, .waitingForUser i.id node taskId ∈ es → Reached i.workflow h node
  completed : ∀ node, .stepCompleted i.id node ∈ es → Reached i.workflow h node
  pending : ∀ w ∈ i.pending, Reached i.workflow h w.nodeId

namespace Course

variable {h : List Mark} {i : Instance}

/-- What the deeds of the marks tell was done at ids that were reached. -/
theorem reached_of_deed (hc : Course h i) {es : List Event} {v : Event} {d : Deed}
    (hdeeds : deedsOf es = h.flatMap Mark.deeds) (hv : v ∈ es) (hd : v.deed? = some d) :
    Reached i.workflow h d.node := by
  have hmem : d ∈ deedsOf es := List.mem_filterMap.2 ⟨v, hv, hd⟩
  rw [hdeeds] at hmem
  obtain ⟨m, hm, hmd⟩ := List.mem_flatMap.1 hmem
  rw [Mark.node_of_mem_deeds hmd]
  exact reached_of_mem hc.reached.1 hm

theorem charted (hc : Course h i) {es : List Event}
    (hdeeds : deedsOf es = h.flatMap Mark.deeds)
    (hpending : i.state.isHalted = true → i.pending = []) : i.Charted h es where
  marks := hc.reached.1
  visits before m hp _ := by
    rcases (hc.reached.1 before m hp).origin with ⟨e, he, hid⟩ | hled
    · refine Or.inl ⟨e, he, hid, fun hnodup => ?_⟩
      have hm : m ∈ h := hp.subset (List.mem_append_right _ (List.mem_singleton_self m))
      have hof := (hc.sound m hm).1
      exact List.inj_on_of_nodup_map hnodup (List.mem_of_find?_eq_some hof.element?_eq)
        (List.mem_of_mem_filter he) hid.symm
    · exact Or.inr hled
  completions before m hp hv := hc.exists_parks hp hv
  dispatched _ _ hv := hc.reached_of_deed hdeeds hv rfl
  parked _ _ hv := hc.reached_of_deed hdeeds hv rfl
  completed _ hv := hc.reached_of_deed hdeeds hv rfl
  pending w hw := by
    cases hh : i.state.isHalted with
    | true =>
      rw [hpending hh] at hw
      cases hw
    | false =>
      obtain ⟨m, hm, -, hid⟩ := hc.parked_of_pending hh hw
      exact hid ▸ reached_of_mem hc.reached.1 hm

end Course

namespace Engine

/-- **Elements are reached before anything happens there.** After any turns,
every element whose operation was dispatched, where a token was left for a user
or that was completed is at an id that its instance has reached from a start
event, over flows that were taken. -/
theorem elements_reached (library : Library) (stepLimit drawn now : Nat) (turns : List Turn) :
    let e := new library stepLimit drawn now
    ∀ i ∈ (e.after turns).instances,
      i.Charted (e.history turns i.id) (eventsOf i.id (e.after turns).log) := by
  intro e i hi
  have hsettled := (orderly_after library stepLimit drawn now turns).settled i hi
  refine (course_after library stepLimit drawn now turns i hi).charted
    (deeds_after library stepLimit drawn now turns i hi) fun hh => ?_
  -- an instance with pending items is open, and so it was not halted
  by_contra hpending
  have hopen := hsettled.open_iff.2 hpending
  revert hh hopen
  cases i.state <;> simp [InstanceState.isHalted, InstanceState.isOpen]

/-- The user step of the signature was reached before it was completed. -/
theorem signature_reached :
    let e := new {} 20 0 0
    ∃ i ∈ (e.after signedTurns).instances,
      i.Charted (e.history signedTurns i.id) (eventsOf i.id (e.after signedTurns).log) ∧
      .stepCompleted i.id "sign" ∈ eventsOf i.id (e.after signedTurns).log ∧
      Reached i.workflow (e.history signedTurns i.id) "sign" := by
  intro e
  have hfound : ((e.after signedTurns).instance? (identifier 1)).isSome = true := by
    decide +kernel
  obtain ⟨i, hi⟩ := Option.isSome_iff_exists.1 hfound
  obtain ⟨hmem, hid⟩ := mem_of_instance? hi
  have hcharted := elements_reached {} 20 0 0 signedTurns i hmem
  have hcompleted : .stepCompleted i.id "sign" ∈ eventsOf i.id (e.after signedTurns).log := by
    have hthird : (eventsOf (identifier 1) (e.after signedTurns).log)[2]? =
        some (.stepCompleted (identifier 1) "sign") := by decide +kernel
    rw [hid]
    exact List.mem_of_getElem? hthird
  exact ⟨i, hmem, hcharted, hcompleted, hcharted.completed "sign" hcompleted⟩

end Engine

end WorkflowCanvas
