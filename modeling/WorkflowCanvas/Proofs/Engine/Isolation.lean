import WorkflowCanvas.Proofs.Engine.Quiet
import WorkflowCanvas.Proofs.Engine.Variables
import Mathlib.Logic.Equiv.Basic
/-!
# Instances do not meet

What becomes of an instance depends on the workflow it was started with and
on the calls that are addressed to it, and on nothing else that the engine
is asked in between. A call to an instance and the same call to its
counterpart in another engine are answered alike, and leave counterparts
(`Counterparts.perform`); other calls leave both as they are. So the answers
to all calls are alike, and so are the instances in the end
(`instances_isolated`). Ids are drawn anew in each engine: everything is
alike up to a renaming that maps each id to the one drawn in its place.
-/


namespace WorkflowCanvas

open Operation (Library)

/-- **Instances that are alike** up to the ids: they differ in nothing else
but the ids that a failure may tell in its text. -/
structure Instance.Alike (ρ : String → String) (i i' : Instance) : Prop where
  inst_eq : i' = { i.rename ρ with detail? := i'.detail? }
  detail : i'.detail? = i.detail? ∨
    ∃ f : Failure, i.detail? = some f.message ∧ i'.detail? = some (f.rename ρ).message

namespace Instance.Alike

variable {ρ : String → String} {i i' : Instance}

theorem rename (i : Instance) : i.Alike ρ (i.rename ρ) := ⟨rfl, Or.inl rfl⟩

theorem id_eq (h : i.Alike ρ i') : i'.id = ρ i.id := by rw [h.inst_eq]; rfl

theorem state_eq (h : i.Alike ρ i') : i'.state = i.state := by rw [h.inst_eq]; rfl

/-- Instances of which nothing is said differ in the ids alone. -/
theorem eq_rename (h : i.Alike ρ i') (hd : i.detail? = none) (hd' : i'.detail? = none) :
    i' = i.rename ρ := by
  rw [h.inst_eq, hd', Instance.rename, hd]

end Instance.Alike

namespace Engine

variable {ρ : String → String} {library : Library} {limit : Nat} {id name : String}
variable {e e' : Engine} {i i' j j' : Instance} {p : Workflow}

/-! ## Calls and answers up to the ids -/

section Rename

variable (ρ)

/-- A call with the ids in it renamed. -/
def Call.rename : Call → Call
  | .complete id name vars => .complete (ρ id) (ρ name) vars
  | .suspend id => .suspend (ρ id)
  | .resume id => .resume (ρ id)
  | .terminate id reason? => .terminate (ρ id) reason?
  | .status id => .status (ρ id)
  | .pending id => .pending (ρ id)
  | c => c

/-- An answer with the ids of instances and work items renamed. -/
def Answer.rename : Answer → Answer
  | .inst i => .inst (i.rename ρ)
  | .insts is => .insts (is.map (Instance.rename ρ))
  | .items ws => .items (ws.map (WorkItem.rename ρ))
  | a => a

/-- What comes of a call, with the ids renamed. -/
def renameResult : Except Failure Answer → Except Failure Answer
  | .ok a => .ok (a.rename ρ)
  | .error f => .error (f.rename ρ)

end Rename

/-! ## Counterparts -/

/-- **An instance and its counterpart** in another engine: they run the same
workflow, are alike, and as many ids were drawn for either. -/
structure Counterparts (ρ : String → String) (p : Workflow) (e e' : Engine) (i i' : Instance) :
    Prop where
  mem : i ∈ e.instances
  mem' : i' ∈ e'.instances
  workflow_eq : i.workflow = p
  alike : i.Alike ρ i'
  length_eq : (idsOf e' i'.id).length = (idsOf e i.id).length

/-- **The work item that a renamed name names** is the renamed one. -/
theorem takeItem?_rename (hinj : ρ.Injective) (name : String) {ws : List WorkItem}
    (hfix : ∀ w ∈ ws, ρ w.nodeId = w.nodeId) :
    takeItem? (ρ name) (ws.map (WorkItem.rename ρ)) =
      (takeItem? name ws).map (Prod.map (WorkItem.rename ρ) (List.map (WorkItem.rename ρ))) := by
  induction ws with
  | nil => rfl
  | cons w ws ih =>
    have hnode : (w.rename ρ).nodeId = ρ name ↔ w.nodeId = name := by
      show w.nodeId = ρ name ↔ _
      rw [← hfix w List.mem_cons_self, hinj.eq_iff, hfix w List.mem_cons_self]
    have hnamed : (w.rename ρ).nodeId = ρ name ∨ (w.rename ρ).taskId = ρ name ↔
        w.nodeId = name ∨ w.taskId = name := or_congr hnode hinj.eq_iff
    have htail := ih fun w' hw' => hfix w' (List.mem_cons_of_mem _ hw')
    rw [List.map_cons, takeItem?, takeItem?, htail]
    by_cases hw : w.nodeId = name ∨ w.taskId = name
    · rw [if_pos hw, if_pos (hnamed.2 hw)]
      rfl
    · rw [if_neg hw, if_neg fun h => hw (hnamed.1 h), Option.map_map, Option.map_map]
      rfl

/-! ## A call to both -/

/-- What runs that end alike answer, and the instances they leave. -/
theorem alike_of_twinEnds {o o' : Except Failure Unit × Run} (h : Run.TwinEnds ρ o o') :
    (o'.1.map fun _ => Answer.inst o'.2.inst) =
        renameResult ρ (o.1.map fun _ => Answer.inst o.2.inst) ∧
      o.2.inst.Alike ρ o'.2.inst ∧ o'.2.ids.length = o.2.ids.length := by
  cases h with
  | @ok r r' h =>
    refine ⟨?_, ?_, h.length_eq⟩
    · show Except.ok (Answer.inst r'.inst) = .ok (.inst (r.inst.rename ρ))
      rw [h.inst_eq]
    · show r.inst.Alike ρ r'.inst
      rw [h.inst_eq]
      exact Instance.Alike.rename r.inst
  | @error r r' f h =>
    refine ⟨rfl, ⟨?_, Or.inr ⟨f, rfl, rfl⟩⟩, ?_⟩
    · show (r'.fail (f.rename ρ)).inst = _
      simp [Run.fail, Run.emit, Instance.rename, h.inst_eq]
    · show (r'.fail (f.rename ρ)).ids.length = (r.fail f).ids.length
      rw [Run.ids_fail, Run.ids_fail, h.length_eq]

namespace Counterparts

variable {c : Call}

theorem id_eq (h : Counterparts ρ p e e' i i') : i'.id = ρ i.id := h.alike.id_eq

/-- Both are moved to the same state. -/
theorem move (h : Counterparts ρ p e e' i i') (j j' : Instance) (hid : j.id = i.id)
    (hw : j.workflow = i.workflow) (hj : j.Alike ρ j') {v v' : Event} (hv : v.drawnId? = none)
    (hv' : v'.drawnId? = none) :
    Counterparts ρ p (e.move j v) (e'.move j' v') j j' where
  mem := (mem_move h.mem hid).2 (Or.inl rfl)
  mem' := (mem_move h.mem' (by rw [hj.id_eq, hid, h.id_eq])).2 (Or.inl rfl)
  workflow_eq := hw.trans h.workflow_eq
  alike := hj
  length_eq := by
    rw [idsOf_move _ _ hv, idsOf_move _ _ hv', hj.id_eq, hid, ← h.id_eq, h.length_eq]

/-- The counterparts are found under their ids. -/
theorem found (h : Counterparts ρ p e e' i i') (hn : e.Numbered) (hn' : e'.Numbered) :
    e.instance? i.id = some i ∧ e'.instance? (ρ i.id) = some i' :=
  ⟨(instance?_eq_some_iff hn).2 ⟨h.mem, rfl⟩, (instance?_eq_some_iff hn').2 ⟨h.mem', h.id_eq⟩⟩

/-- A call that sees both in a state they should not be in refuses alike. -/
theorem requireState_eq (h : Counterparts ρ p e e' i i') (s : InstanceState) :
    i'.requireState s = match i.requireState s with
      | .ok () => .ok ()
      | .error f => .error (f.rename ρ) := by
  simp only [Instance.requireState, h.alike.state_eq, h.id_eq]
  split <;> rfl

/-- Both are moved to the same state. -/
theorem shift (h : Counterparts ρ p e e' i i') (s : InstanceState) {v v' : Event}
    (hv : v.drawnId? = none) (hv' : v'.drawnId? = none) :
    Counterparts ρ p (e.move { i with state := s } v) (e'.move { i' with state := s } v')
      { i with state := s } { i' with state := s } := by
  refine h.move { i with state := s } { i' with state := s } rfl rfl ⟨?_, h.alike.detail⟩ hv hv'
  exact congrArg (fun k : Instance => { k with state := s }) h.alike.inst_eq

/-- Both are terminated. -/
theorem stop (h : Counterparts ρ p e e' i i') (reason? : Option String) {v v' : Event}
    (hv : v.drawnId? = none) (hv' : v'.drawnId? = none) :
    Counterparts ρ p
      (e.move { i with state := .terminated, detail? := reason?, tokens := [], pending := [] } v)
      (e'.move { i' with state := .terminated, detail? := reason?, tokens := [], pending := [] } v')
      { i with state := .terminated, detail? := reason?, tokens := [], pending := [] }
      { i' with state := .terminated, detail? := reason?, tokens := [], pending := [] } := by
  refine h.move { i with state := .terminated, detail? := reason?, tokens := [], pending := [] }
    { i' with state := .terminated, detail? := reason?, tokens := [], pending := [] } rfl rfl
    ⟨?_, Or.inl rfl⟩ hv hv'
  exact congrArg (fun k : Instance =>
    { k with state := .terminated, detail? := reason?, tokens := [], pending := [] }) h.alike.inst_eq

end Counterparts

/-- **Two calls answer alike** about an instance and its counterpart and
leave counterparts. -/
def AnswersAlike (ρ : String → String) (p : Workflow) (id : String)
    (x x' : Except Failure Answer × Engine) : Prop :=
  x'.1 = renameResult ρ x.1 ∧ ∃ j j', j.id = id ∧ Counterparts ρ p x.2 x'.2 j j'

namespace Counterparts

theorem suspend (h : Counterparts ρ p e e' i i') (hn : e.Numbered) (hn' : e'.Numbered) :
    AnswersAlike ρ p i.id (e.perform (.suspend i.id)) (e'.perform (.suspend (ρ i.id))) := by
  obtain ⟨hi, hi'⟩ := h.found hn hn'
  have hstate := h.requireState_eq .active
  simp only [perform, Engine.suspend, hi, hi']
  rcases hs : i.requireState .active with f | ⟨⟩ <;> rw [hs] at hstate <;> simp only [hstate]
  · exact ⟨rfl, i, i', rfl, h⟩
  · exact ⟨rfl, _, _, by rfl, h.shift .suspended rfl rfl⟩

theorem resume (h : Counterparts ρ p e e' i i') (hn : e.Numbered) (hn' : e'.Numbered) :
    AnswersAlike ρ p i.id (e.perform (.resume i.id)) (e'.perform (.resume (ρ i.id))) := by
  obtain ⟨hi, hi'⟩ := h.found hn hn'
  have hstate := h.requireState_eq .suspended
  simp only [perform, Engine.resume, hi, hi']
  rcases hs : i.requireState .suspended with f | ⟨⟩ <;> rw [hs] at hstate <;> simp only [hstate]
  · exact ⟨rfl, i, i', rfl, h⟩
  · exact ⟨rfl, _, _, by rfl, h.shift .active rfl rfl⟩

theorem terminate (h : Counterparts ρ p e e' i i') (hn : e.Numbered) (hn' : e'.Numbered)
    (reason? : Option String) :
    AnswersAlike ρ p i.id (e.perform (.terminate i.id reason?))
      (e'.perform (.terminate (ρ i.id) reason?)) := by
  obtain ⟨hi, hi'⟩ := h.found hn hn'
  simp only [perform, Engine.terminate, hi, hi', h.alike.state_eq]
  split
  · exact ⟨rfl, _, _, by rfl, h.stop reason? rfl rfl⟩
  · exact ⟨rfl, i, i', rfl, h⟩

/-- **Runs that end alike** answer alike and leave counterparts. -/
theorem takeBack (h : Counterparts ρ p e e' i i') {o o' : Except Failure Unit × Run}
    (hends : Run.TwinEnds ρ o o') (hid : o.2.inst.id = i.id)
    (hw : o.2.inst.workflow = i.workflow) (hown : ∀ v ∈ o.2.emitted, v.instanceId? = some i.id)
    (hown' : ∀ v ∈ o'.2.emitted, v.instanceId? = some (ρ i.id)) :
    AnswersAlike ρ p i.id (o.1.map fun _ => .inst o.2.inst, e.takeBack o.2)
      (o'.1.map fun _ => .inst o'.2.inst, e'.takeBack o'.2) := by
  obtain ⟨hresult, halike, hids⟩ := alike_of_twinEnds hends
  have hid' : o'.2.inst.id = i'.id := by rw [halike.id_eq, hid, h.id_eq]
  refine ⟨hresult, o.2.inst, o'.2.inst, hid, ?_, ?_, hw.trans h.workflow_eq, halike, ?_⟩
  · exact (mem_replace ⟨i, h.mem, hid.symm⟩).2 (Or.inl rfl)
  · exact (mem_replace ⟨i', h.mem', hid'.symm⟩).2 (Or.inl rfl)
  · rw [hid, hid', idsOf_takeBack e hown, idsOf_takeBack e' (h.id_eq ▸ hown'),
      List.length_append, List.length_append, h.length_eq, hids]

/-- Both take a work item as done and run on. -/
theorem runOn (h : Counterparts ρ p e e' i (i.rename ρ)) (hfit : Fit library limit e)
    (hfit' : Fit library limit e') (hl : library.Steady) (item : WorkItem)
    (others : List WorkItem) (vars : Table Json) {o o' : Except Failure Unit × Run}
    (ho : (e.resuming i others vars).resume e.surroundings item = o)
    (ho' : (e'.resuming (i.rename ρ) (others.map (WorkItem.rename ρ)) vars).resume e'.surroundings
      (item.rename ρ) = o')
    (halong : Along ρ (idsOf (e.takeBack o.2) i.id) (idsOf (e'.takeBack o'.2) (ρ i.id))) :
    AnswersAlike ρ p i.id (o.1.map fun _ => .inst o.2.inst, e.takeBack o.2)
      (o'.1.map fun _ => .inst o'.2.inst, e'.takeBack o'.2) := by
  have hown := own_resumed ho
  have hown' : ∀ v ∈ o'.2.emitted, v.instanceId? = some (ρ i.id) := own_resumed ho'
  refine h.takeBack ?_ (extends_resumed ho).id_eq (extends_resumed ho).workflow_eq hown hown'
  -- the renaming goes along with what the runs draw after as many ids
  rw [idsOf_takeBack e hown, idsOf_takeBack e' hown'] at halong
  have hdrawn := halong.of_append h.length_eq
  have htwins : Run.Twins ρ (e.resuming i others vars)
      (e'.resuming (i.rename ρ) (others.map (WorkItem.rename ρ)) vars) := ⟨rfl, rfl⟩
  rw [hfit.surroundings_eq] at ho
  rw [hfit'.surroundings_eq] at ho'
  subst ho ho'
  exact Run.twins_resume htwins hl item hdrawn

/-- **A completion of both** answers alike, if the renaming goes along with
the ids drawn meanwhile. -/
theorem complete (h : Counterparts ρ p e e' i i') (hfit : Fit library limit e)
    (hfit' : Fit library limit e') (hl : library.Steady) (hinj : ρ.Injective)
    (hfix : ∀ element ∈ p.elements, ρ element.id = element.id) (name : String) (vars : Table Json)
    (halong : Along ρ (idsOf (e.perform (.complete i.id name vars)).2 i.id)
      (idsOf (e'.perform (.complete (ρ i.id) (ρ name) vars)).2 (ρ i.id))) :
    AnswersAlike ρ p i.id (e.perform (.complete i.id name vars))
      (e'.perform (.complete (ρ i.id) (ρ name) vars)) := by
  obtain ⟨hi, hi'⟩ := h.found hfit.numbered hfit'.numbered
  by_cases hactive : i.state = .active
  · have hactive' : i'.state = .active := h.alike.state_eq.trans hactive
    -- nothing is said of either, so that they differ in the ids alone
    have hrename : i' = i.rename ρ :=
      h.alike.eq_rename (hfit.orderly.detail_eq_none h.mem (by rw [hactive]; rfl))
        (hfit'.orderly.detail_eq_none h.mem' (by rw [hactive']; rfl))
    subst hrename
    have hitem : takeItem? (ρ name) (i.rename ρ).pending =
        (takeItem? name i.pending).map
          (Prod.map (WorkItem.rename ρ) (List.map (WorkItem.rename ρ))) := by
      refine takeItem?_rename hinj name fun w hw => ?_
      obtain ⟨element, helement, hid⟩ := hfit.exists_element h.mem hw
      exact hid ▸ hfix element (h.workflow_eq ▸ helement)
    rcases ht : takeItem? name i.pending with _ | ⟨item, others⟩ <;> rw [ht] at hitem
    · have hs : i.requireState .active = .ok () := if_pos hactive
      have hs' : (i.rename ρ).requireState .active = .ok () := if_pos hactive'
      simp only [perform, Engine.complete, hi, hi', hs, hs', ht, hitem, Option.map_none]
      exact ⟨rfl, i, i.rename ρ, rfl, h⟩
    · rw [perform, perform, complete_eq hi hactive ht, complete_eq hi' hactive' hitem,
        answer_finish, answer_finish] at halong ⊢
      exact h.runOn hfit hfit' hl item others vars rfl rfl halong
  · have hs : i.requireState .active = .error (.wrongState i.id i.state) := if_neg hactive
    have hs' := h.requireState_eq .active
    rw [hs] at hs'
    simp only [perform, Engine.complete, hi, hi', hs, hs']
    exact ⟨rfl, i, i', rfl, h⟩

/-- **A call to an instance and the same call to its counterpart** answer
alike and leave counterparts. -/
theorem perform (h : Counterparts ρ p e e' i i') (hfit : Fit library limit e)
    (hfit' : Fit library limit e') (hl : library.Steady) (hinj : ρ.Injective)
    (hfix : ∀ element ∈ p.elements, ρ element.id = element.id) (c : Call)
    (hc : c.addressee? = some i.id)
    (halong : Along ρ (idsOf (e.perform c).2 i.id) (idsOf (e'.perform (c.rename ρ)).2 (ρ i.id))) :
    AnswersAlike ρ p i.id (e.perform c) (e'.perform (c.rename ρ)) := by
  cases c with
  | complete id name vars =>
    obtain rfl : id = i.id := Option.some.inj hc
    exact h.complete hfit hfit' hl hinj hfix name vars halong
  | suspend id =>
    obtain rfl : id = i.id := Option.some.inj hc
    exact h.suspend hfit.numbered hfit'.numbered
  | resume id =>
    obtain rfl : id = i.id := Option.some.inj hc
    exact h.resume hfit.numbered hfit'.numbered
  | terminate id reason? =>
    obtain rfl : id = i.id := Option.some.inj hc
    exact h.terminate hfit.numbered hfit'.numbered reason?
  | deploy | start | status | pending | active | completed | deployedKeys => cases hc

/-- Turns without a call to either leave counterparts. -/
theorem quiet (h : Counterparts ρ p e e' i i') (hfit : Fit library limit e)
    (hfit' : Fit library limit e') {ts ts' : List Turn} (hl : Lends library ts)
    (hl' : Lends library ts') (hq : callsTo i.id ts = []) (hq' : callsTo i'.id ts' = []) :
    Counterparts ρ p (e.after ts) (e'.after ts') i i' := by
  obtain ⟨hmem, hids⟩ := hfit.quiet h.mem hl hq
  obtain ⟨hmem', hids'⟩ := hfit'.quiet h.mem' hl' hq'
  exact ⟨hmem, hmem', h.workflow_eq, h.alike, by rw [hids, hids', h.length_eq]⟩

/-- **The same calls to an instance and to its counterpart** are answered
alike, whatever other turns there are in between. -/
theorem after (h : Counterparts ρ p e e' i i') (hfit : Fit library limit e)
    (hfit' : Fit library limit e') (hl : library.Steady) (hinj : ρ.Injective)
    (hfix : ∀ element ∈ p.elements, ρ element.id = element.id) {ts ts' : List Turn}
    (hlends : Lends library ts) (hlends' : Lends library ts')
    (hcalls : callsTo (ρ i.id) ts' = (callsTo i.id ts).map (Call.rename ρ))
    (halong : Along ρ (idsOf (e.after ts) i.id) (idsOf (e'.after ts') (ρ i.id))) :
    answersTo (ρ i.id) e' ts' = (answersTo i.id e ts).map (renameResult ρ) ∧
      ∃ j j', j.id = i.id ∧ Counterparts ρ p (e.after ts) (e'.after ts') j j' := by
  generalize hcs : callsTo i.id ts = cs at hcalls
  -- induction on the calls to the instance, with the quiet turns before each
  induction cs generalizing e e' i i' ts ts' with
  | nil =>
    rw [answersTo_of_callsTo e hcs, answersTo_of_callsTo e' hcalls]
    exact ⟨rfl, i, i', rfl, h.quiet hfit hfit' hlends hlends' hcs (h.id_eq ▸ hcalls)⟩
  | cons c cs ih =>
    obtain ⟨quiet, rest, rfl, hquiet, hc, hrest⟩ := exists_of_callsTo hcs
    obtain ⟨quiet', rest', rfl, hquiet', hc', hrest'⟩ := exists_of_callsTo hcalls
    have hfirst := h.quiet hfit hfit' (hlends.mono (by simp)) (hlends'.mono (by simp)) hquiet
      (h.id_eq ▸ hquiet')
    have hfit₁ := hfit.after quiet (hlends.mono (by simp))
    have hfit₁' := hfit'.after quiet' (hlends'.mono (by simp))
    rw [after_append, after_append] at halong ⊢
    obtain ⟨hresult, j, j', hid, hnext⟩ := hfirst.perform hfit₁ hfit₁' hl hinj hfix c hc
      (halong.of_isPrefix (idsOf_after _ rest _) (idsOf_after _ rest' _))
    rw [← hid] at halong hrest hrest'
    obtain ⟨hanswers, hends⟩ := ih hnext (hfit₁.turn (.call c) (hlends.mono (by simp)))
      (hfit₁'.turn (.call (c.rename ρ)) (hlends'.mono (by simp))) (hlends.mono (by simp))
      (hlends'.mono (by simp)) halong hrest hrest'
    rw [hid] at hanswers hends
    refine ⟨?_, hends⟩
    rw [answersTo_append, answersTo_append, answersTo_of_callsTo e hquiet,
      answersTo_of_callsTo e' hquiet', answersTo, answersTo, if_pos hc, if_pos hc']
    exact congrArg₂ List.cons hresult hanswers

end Counterparts

/-- The ids of a new instance are those that its first run draws. -/
theorem idsOf_started (h : e.Upholds Tells) {key : String} {vars : Table Json}
    {o : Except Failure Unit × Run} (ho : (e.opening key p vars).advance e.surroundings = o) :
    idsOf ((e.enrol (e.opening key p vars).inst).takeBack o.2) (identifier e.drawn) = o.2.ids := by
  have hnone : idsOf (e.enrol (e.opening key p vars).inst) (identifier e.drawn) = [] :=
    congrArg drawnIds h.eventsOf_new
  rw [idsOf_takeBack _ (own_started ho), hnone, List.nil_append]

/-- A start has drawn one id before it runs. -/
theorem length_ids_opening (e : Engine) (key : String) (p : Workflow) (vars : Table Json) :
    (e.opening key p vars).ids.length = 1 := rfl

/-- **Two starts of one workflow** answer alike and leave counterparts. -/
theorem counterparts_started (hfit : Fit library limit e) (hfit' : Fit library limit e')
    (hl : library.Steady) {key : String} (vars : Table Json)
    (hp : e.deployments.get? key = some p) (hp' : e'.deployments.get? key = some p)
    (halong : Along ρ (idsOf (e.perform (.start key vars)).2 (identifier e.drawn))
      (idsOf (e'.perform (.start key vars)).2 (identifier e'.drawn))) :
    ρ (identifier e.drawn) = identifier e'.drawn ∧
      AnswersAlike ρ p (identifier e.drawn) (e.perform (.start key vars))
        (e'.perform (.start key vars)) := by
  rw [perform, perform, start_eq hp, start_eq hp', answer_finish, answer_finish] at halong ⊢
  generalize ho : (e.opening key p vars).advance e.surroundings = o at halong ⊢
  generalize ho' : (e'.opening key p vars).advance e'.surroundings = o' at halong ⊢
  have hids := idsOf_started hfit.upholds ho
  have hids' := idsOf_started hfit'.upholds ho'
  rw [hids, hids'] at halong
  -- the first id that a run tells is that of its instance
  have hfirst : [identifier e.drawn] <+: o.2.ids := Run.ids_isPrefix (extends_started ho)
  have hfirst' : [identifier e'.drawn] <+: o'.2.ids := Run.ids_isPrefix (extends_started ho')
  have hid : ρ (identifier e.drawn) = identifier e'.drawn :=
    halong.of_isPrefix hfirst hfirst' 0 _ _ rfl rfl
  have htwins : Run.Twins ρ (e.opening key p vars) (e'.opening key p vars) := by
    refine ⟨?_, (length_ids_opening e' key p vars).trans (length_ids_opening e key p vars).symm⟩
    simp [opening, Instance.rename, Instance.merge, hid]
  have hends : Run.TwinEnds ρ o o' := by
    rw [hfit.surroundings_eq] at ho
    rw [hfit'.surroundings_eq] at ho'
    subst ho ho'
    exact Run.twins_advance htwins hl halong
  obtain ⟨hresult, halike, hlen⟩ := alike_of_twinEnds hends
  have hnew : o.2.inst.id = identifier e.drawn := (extends_started ho).id_eq
  have hnew' : o'.2.inst.id = identifier e'.drawn := (extends_started ho').id_eq
  refine ⟨hid, hresult, o.2.inst, o'.2.inst, hnew, ?_, ?_, (extends_started ho).workflow_eq, halike, ?_⟩
  · rw [instances_started hfit.numbered ho]
    exact List.mem_append_right _ (List.mem_singleton_self _)
  · rw [instances_started hfit'.numbered ho']
    exact List.mem_append_right _ (List.mem_singleton_self _)
  · rw [hnew, hnew', hids, hids', hlen]

/-! ## Isolation -/

theorem status_of_instance? (h : e.instance? id = some i) : e.status id = .ok i := by
  simp only [status, h]

/-- **Instances are isolated.** Two engines with the same operations, which
make nothing of the rest of their context, start an instance of the same
workflow with the same variables, each after turns of its own. If the calls
that are addressed to it afterwards are the same in both, up to the ids that
were drawn, then so are the answers and what becomes of the instance,
whatever other turns the hosts take in between. The ids are fresh: some
one-to-one renaming maps each id that was drawn for the one instance to the
one drawn in its place for the other, and leaves those of the elements. -/
theorem instances_isolated (library : Library) (stepLimit : Nat) (hsteady : library.Steady)
    (drawn now drawn' now' : Nat) (before before' after after' : List Turn)
    (hlends : Lends library (before ++ after)) (hlends' : Lends library (before' ++ after'))
    (key : String) (vars : Table Json) (p : Workflow) :
    let e := (new library stepLimit drawn now).after before
    let e' := (new library stepLimit drawn' now').after before'
    let s := e.perform (.start key vars)
    let s' := e'.perform (.start key vars)
    let d := s.2.after after
    let d' := s'.2.after after'
    let id := identifier e.drawn
    let id' := identifier e'.drawn
    e.deployments.get? key = some p → e'.deployments.get? key = some p →
    ∀ ρ : String → String, ρ.Injective → (∀ element ∈ p.elements, ρ element.id = element.id) →
    Along ρ (idsOf d id) (idsOf d' id') →
    callsTo id' after' = (callsTo id after).map (Call.rename ρ) →
    s'.1 = renameResult ρ s.1 ∧
    answersTo id' s'.2 after' = (answersTo id s.2 after).map (renameResult ρ) ∧
    idsOf d' id' = (idsOf d id).map ρ ∧
    ∃ i i', d.status id = .ok i ∧ d'.status id' = .ok i' ∧ i.Alike ρ i' := by
  intro e e' s s' d d' id id' hp hp' ρ hinj hfix halong hcalls
  have hfit : Fit library stepLimit e := (Fit.new library stepLimit drawn now).after before
    (hlends.mono (by simp))
  have hfit' : Fit library stepLimit e' := (Fit.new library stepLimit drawn' now').after before'
    (hlends'.mono (by simp))
  obtain ⟨hid, hstart, i, i', hi, hrun⟩ : ρ id = id' ∧ AnswersAlike ρ p id s s' :=
    counterparts_started hfit hfit' hsteady vars hp hp'
      (halong.of_isPrefix (idsOf_after _ after _) (idsOf_after _ after' _))
  have hfitStarted : Fit library stepLimit s.2 := hfit.turn (.call (.start key vars)) (by simp [Lends])
  have hfitStarted' : Fit library stepLimit s'.2 :=
    hfit'.turn (.call (.start key vars)) (by simp [Lends])
  rw [← hid, ← hi] at halong hcalls ⊢
  obtain ⟨hanswers, j, j', hj, hend⟩ := hrun.after hfitStarted hfitStarted' hsteady hinj hfix
    (hlends.mono (by simp)) (hlends'.mono (by simp)) hcalls halong
  obtain ⟨hfound, hfound'⟩ := hend.found
    (hfitStarted.after after (hlends.mono (by simp))).numbered
    (hfitStarted'.after after' (hlends'.mono (by simp))).numbered
  have hlen := hend.length_eq
  rw [hend.id_eq] at hlen
  rw [hj] at hfound hfound' hlen
  exact ⟨hstart, hanswers, halong.map_eq hlen, j, j', status_of_instance? hfound,
    status_of_instance? hfound', hend.alike⟩

theorem ratingLibrary_steady : ratingLibrary.Steady := by
  intro ref h hfind
  obtain ⟨entry, hentry, hcomponent⟩ := Option.map_eq_some_iff.1 hfind
  have hmem := List.mem_of_find?_eq_some hentry
  simp only [ratingLibrary, List.mem_cons, List.not_mem_nil, or_false] at hmem
  intro c c' hsimilar
  rcases hmem with rfl | rfl <;> cases hcomponent <;>
    simp [rate, reject, Operation.Context.set, hsimilar.store_eq, hsimilar.written_eq]

/-- A case is checked, and nothing else is asked. -/
def aloneTurns : List Turn :=
  [.call (.complete (identifier 1) (identifier 3) [("seen", .bool true)])]

/-- A review is started before the case can be. -/
def reviewedTurns : List Turn :=
  [.call (.deploy reviewWorkflow), .call (.start "review" []), .call (.deploy rejectionWorkflow)]

/-- The case is checked after another workflow was deployed under its key
and the review was done. -/
def busyTurns : List Turn :=
  [.call (.deploy { reviewWorkflow with id := "rejection" }),
    .call (.complete (identifier 1) "check" []), .call (.start "rejection" []),
    .call (.complete (identifier 4) (identifier 6) [("seen", .bool true)])]

/-- The ids of the case where it comes second for those where it comes
first. -/
def secondForFirst : Equiv.Perm String :=
  (Equiv.swap (identifier 1) (identifier 4)).trans (Equiv.swap (identifier 3) (identifier 6))

/-- A case is rejected alike, whether it is the only one or comes second. -/
theorem rejection_isolated :
    let s := ((new ratingLibrary 10 0 0).after [.call (.deploy rejectionWorkflow)]).perform
      (.start "rejection" [("amount", .int 5)])
    let s' := ((new ratingLibrary 10 0 7).after reviewedTurns).perform
      (.start "rejection" [("amount", .int 5)])
    s'.1 = renameResult secondForFirst s.1 ∧
    answersTo (identifier 4) s'.2 busyTurns =
      (answersTo (identifier 1) s.2 aloneTurns).map (renameResult secondForFirst) ∧
    ∃ i i', (s.2.after aloneTurns).status (identifier 1) = .ok i ∧
      (s'.2.after busyTurns).status (identifier 4) = .ok i' ∧ i.Alike secondForFirst i' ∧
      i'.state = .failed := by
  intro s s'
  have hids : idsOf (s'.2.after busyTurns) (identifier 4) =
      (idsOf (s.2.after aloneTurns) (identifier 1)).map secondForFirst := by decide +kernel
  have hcalls : callsTo (identifier 4) busyTurns =
      (callsTo (identifier 1) aloneTurns).map (Call.rename secondForFirst) := by
    have hinst : secondForFirst (identifier 1) = identifier 4 := by decide +kernel
    have hitem : secondForFirst (identifier 3) = identifier 6 := by decide +kernel
    have hne : identifier 1 ≠ identifier 4 := identifier_injective.ne (by decide)
    simp [callsTo, busyTurns, aloneTurns, Call.addressee?, Call.rename, hinst, hitem, hne]
  have hisolated := instances_isolated ratingLibrary 10 ratingLibrary_steady 0 0 0 7
    [.call (.deploy rejectionWorkflow)] reviewedTurns aloneTurns busyTurns
    (by simp [Lends, aloneTurns]) (by simp [Lends, reviewedTurns, busyTurns]) "rejection"
    [("amount", .int 5)] rejectionWorkflow
  have hdrawn : ((new ratingLibrary 10 0 0).after [.call (.deploy rejectionWorkflow)]).drawn = 1 :=
    rfl
  have hdrawn' : ((new ratingLibrary 10 0 7).after reviewedTurns).drawn = 4 := rfl
  dsimp only at hisolated
  rw [hdrawn, hdrawn'] at hisolated
  have hp : ((new ratingLibrary 10 0 0).after [.call (.deploy rejectionWorkflow)]).deployments.get?
      "rejection" = some rejectionWorkflow := rfl
  have hp' : ((new ratingLibrary 10 0 7).after reviewedTurns).deployments.get? "rejection" =
      some rejectionWorkflow := rfl
  have halong : Along secondForFirst (idsOf (s.2.after aloneTurns) (identifier 1))
      (idsOf (s'.2.after busyTurns) (identifier 4)) := by
    rw [hids]
    exact Along.map _ _
  have hfix : ∀ element ∈ rejectionWorkflow.elements, secondForFirst element.id = element.id := by
    decide +kernel
  obtain ⟨hstart, hanswers, -, i, i', hi, hi', halike⟩ := hisolated hp hp' secondForFirst
    secondForFirst.injective hfix halong hcalls
  have hfailed : ((s'.2.after busyTurns).status (identifier 4)).map (·.state) = .ok .failed := by
    decide +kernel
  rw [hi'] at hfailed
  exact ⟨hstart, hanswers, i, i', hi, hi', halike, Except.ok.inj hfailed⟩

end Engine

end WorkflowCanvas
