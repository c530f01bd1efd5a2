import WorkflowCanvas.Proofs.Engine.Roster
/-!
# The course of an instance

`Course h i` says how an instance came to be `i`: it was started, did what
its marks `h` tell, and stands where it is now. The relation grows at the
end, one constructor for each thing that can happen to an instance, so that
what holds of all courses is shown by one induction. A run follows a course
(`course_advance`, `course_resume`), and so does every instance of an
engine, after any turns (`course_after`).
-/


namespace WorkflowCanvas

/-- The instance was stopped on its way. -/
def InstanceState.isHalted : InstanceState → Bool
  | .failed | .terminated => true
  | .active | .suspended | .completed => false

/-- The tokens that a new instance has: one on every start event. -/
def Instance.starts (i : Instance) : List String := i.workflow.startEvents.map (·.id)

/-- An element is found under its own id. -/
theorem Workflow.id_of_element? {p : Workflow} {id : String} {e : Element}
    (h : p.element? id = some e) : e.id = id := by
  simpa using List.find?_some h

/-- **What a mark takes from an instance** before it does anything. -/
inductive Mark.Takes (m : Mark) (i : Instance) : Prop
  /-- A token is taken off the queue and visits the element of its id. -/
  | token {id : String} {rest : List String} : i.tokens = id :: rest →
      i.workflow.element? id = some m.element → m.item? = none →
      m.before = { i with tokens := rest, steps := i.steps + 1 } → Takes m i
  /-- A work item is taken off the pending ones and is completed. -/
  | item {name : String} {w : WorkItem} {others : List WorkItem} {vars : Table Json} :
      Engine.takeItem? name i.pending = some (w, others) →
      i.workflow.element? w.nodeId = some m.element → m.item? = some w →
      m.before = { i with pending := others }.merge vars → Takes m i

/-- **What an instance has done, and where it is now.** -/
inductive Course : List Mark → Instance → Prop
  /-- The instance is new. -/
  | opened {i : Instance} : i.state = .active → i.tokens = i.starts → i.arrivals = [] →
      i.pending = [] → i.steps = 0 → Course [] i
  /-- The instance has done one thing more. -/
  | marked {h : List Mark} {i : Instance} {m : Mark} : Course h i → i.state = .active →
      m.Takes i → m.Sound → Course (h ++ [m]) m.after
  /-- The instance was stopped. -/
  | halted {h : List Mark} {i j : Instance} : Course h i → j.workflow = i.workflow →
      j.arrivals = i.arrivals → j.state.isHalted = true → Course h j
  /-- The instance has only changed its state. -/
  | moved {h : List Mark} {i : Instance} {state : InstanceState} : Course h i →
      i.state.isHalted = false → state.isHalted = false → Course h { i with state }

namespace Mark

/-- The mark is of an element of the workflow. -/
structure Of (p : Workflow) (m : Mark) : Prop where
  workflow_eq : m.after.workflow = p
  element?_eq : p.element? m.element.id = some m.element

variable {m : Mark} {i : Instance}

theorem Takes.of_sound (ht : m.Takes i) (hs : m.Sound) : m.Of i.workflow := by
  cases ht with
  | token _ he _ hm =>
    refine ⟨by rw [hs.workflow_eq, hm], ?_⟩
    rw [Workflow.id_of_element? he, he]
  | item _ he _ hm =>
    refine ⟨by rw [hs.workflow_eq, hm]; rfl, ?_⟩
    rw [Workflow.id_of_element? he, he]

end Mark

namespace Course

variable {h h' : List Mark} {i : Instance}

/-- **The marks of a course are of its workflow**, and sound. -/
theorem sound (hc : Course h i) : ∀ m ∈ h, m.Of i.workflow ∧ m.Sound := by
  induction hc with
  | opened => exact fun m hm => absurd hm List.not_mem_nil
  | @marked h i m _ _ ht hs ih =>
    have hof := ht.of_sound hs
    intro m' hm'
    rw [hof.workflow_eq]
    rcases List.mem_append.1 hm' with hm' | hm'
    · exact ih m' hm'
    · rw [List.mem_singleton.1 hm']
      exact ⟨hof, hs⟩
  | halted _ hw _ _ ih =>
    intro m hm
    rw [hw]
    exact ih m hm
  | moved _ _ _ ih => exact ih

/-- **What an instance has done so far is a course, too.** -/
theorem of_isPrefix (hc : Course h i) (hp : h' <+: h) : ∃ j, Course h' j ∧ j.workflow = i.workflow := by
  induction hc with
  | @opened i hs ht ha hpend hsteps =>
    rw [List.prefix_nil.1 hp]
    exact ⟨i, opened hs ht ha hpend hsteps, rfl⟩
  | @marked h i m hc hactive ht hs ih =>
    rcases List.prefix_concat_iff.1 hp with rfl | hp
    · exact ⟨m.after, marked hc hactive ht hs, rfl⟩
    · obtain ⟨j, hj, hjw⟩ := ih hp
      exact ⟨j, hj, hjw.trans (ht.of_sound hs).workflow_eq.symm⟩
  | halted _ hw _ _ ih =>
    obtain ⟨j, hj, hjw⟩ := ih hp
    exact ⟨j, hj, hjw.trans hw.symm⟩
  | moved _ _ _ ih => exact ih hp

end Course

namespace Run

variable {s : Surroundings} {r : Run} {h : List Mark}

/-! ## A run follows a course -/

theorem course_fail {r' : Run} {f : Failure} (hc : Course h r.inst)
    (hw : r'.inst.workflow = r.inst.workflow) (ha : r'.inst.arrivals = r.inst.arrivals) :
    Course h (r'.fail f).inst :=
  hc.halted hw ha rfl

theorem course_settle (hc : Course h r.inst) : Course h r.settle.inst := by
  unfold settle
  split
  · next hs => exact hc.moved (by rw [hs.1]; rfl) rfl
  · exact hc

/-- **Visiting elements follows a course.** -/
theorem course_advanceFrom (s : Surroundings) (fuel : Nat) (hc : Course h r.inst)
    (hactive : r.inst.state = .active) :
    Course (h ++ marksFrom s fuel r) (advanceFrom s fuel r).2.inst := by
  induction fuel generalizing r h with
  | zero =>
    rw [marksFrom_zero, List.append_nil]
    rcases ht : r.inst.tokens with _ | ⟨id, rest⟩
    · rw [advanceFrom_nil ht]
      exact course_settle hc
    · rw [advanceFrom_zero ht]
      exact course_fail hc rfl rfl
  | succ fuel ih =>
    rcases ht : r.inst.tokens with _ | ⟨id, rest⟩
    · rw [advanceFrom_nil ht, marksFrom_nil ht, List.append_nil]
      exact course_settle hc
    · rw [advanceFrom_succ ht, marksFrom_succ ht]
      rcases he : r.inst.workflow.element? id with _ | e
      · rw [List.append_nil]
        exact course_fail hc rfl rfl
      · -- the run and its marks make the same visit and go on from there
        have hvisit : Course (h ++ [(r.pop rest).mark none e ((r.pop rest).visit s e)])
            ((r.pop rest).visit s e).2.inst :=
          hc.marked hactive (.token ht he rfl rfl) (sound_visit s e hactive)
        dsimp only
        rw [List.append_cons]
        rcases hv : (r.pop rest).visit s e with ⟨f | ⟨⟩, r'⟩ <;> rw [hv] at hvisit
        · rw [List.append_nil]
          exact hvisit
        · exact ih hvisit (active_of_visit (r := r.pop rest) hactive hv)

theorem course_advance (s : Surroundings) (hc : Course h r.inst)
    (hactive : r.inst.state = .active) : Course (h ++ r.marks s) (r.advance s).2.inst :=
  course_advanceFrom s _ hc hactive

/-- **A completion follows a course.** -/
theorem course_resume (s : Surroundings) {i : Instance} {name : String} {item : WorkItem}
    {others : List WorkItem} {vars : Table Json} (hc : Course h i) (hactive : i.state = .active)
    (ht : Engine.takeItem? name i.pending = some (item, others))
    (hr : r.inst = { i with pending := others }.merge vars) :
    Course (h ++ r.resumeMarks s item) (r.resume s item).2.inst := by
  have hstate : r.inst.state = .active := by rw [hr]; exact hactive
  have hw : r.inst.workflow = i.workflow := by rw [hr]; rfl
  rcases he : r.inst.workflow.element? item.nodeId with _ | e
  · have hmarks : r.resumeMarks s item = [] := by simp only [resumeMarks, he]
    have hrun : (r.resume s item).2 = r.fail (.workItemWithoutElement item.nodeId) := by
      simp only [resume, completeItem, he]
    rw [hmarks, hrun, List.append_nil]
    exact hc.halted hw (by rw [fail, hr]; rfl) rfl
  · have hitem : Course (h ++ [r.mark (some item) e (r.completeItem s item)])
        (r.completeItem s item).2.inst :=
      hc.marked hactive (.item ht (hw ▸ he) rfl hr) (sound_completeItem s hstate he)
    simp only [resumeMarks, he, resume]
    rw [List.append_cons]
    rcases ho : r.completeItem s item with ⟨f | ⟨⟩, r'⟩ <;> rw [ho] at hitem
    · rw [List.append_nil]
      exact hitem
    · exact course_advance s hitem (active_of_completeItem hstate he ho)

end Run

namespace Engine

open Operation (Library)

variable {e e' : Engine} {h ms : List Mark} {i j : Instance}

/-! ## The history of an instance -/

/-- The marks that a turn leaves. -/
def turnMarks (e : Engine) : Turn → List Mark
  | .call c => e.marks c
  | .lend .. => []

/-- The marks that some turns leave, on all instances. -/
def chronicle (e : Engine) : List Turn → List Mark
  | [] => []
  | t :: ts => e.turnMarks t ++ (e.turn t).chronicle ts

/-- The marks of one instance among those of all. -/
def marksOf (id : String) (h : List Mark) : List Mark := h.filter fun m => m.before.id == id

/-- **What an instance does** in some turns. -/
def history (e : Engine) (turns : List Turn) (id : String) : List Mark :=
  marksOf id (e.chronicle turns)

theorem marksOf_append (id : String) (h h' : List Mark) :
    marksOf id (h ++ h') = marksOf id h ++ marksOf id h' :=
  List.filter_append ..

/-- Marks of one instance are all of them, or none. -/
theorem marksOf_eq {id id' : String} (hms : ∀ m ∈ ms, m.before.id = id) :
    marksOf id' ms = if id = id' then ms else [] := by
  split
  · next heq => exact List.filter_eq_self.2 fun m hm => by simp [hms m hm, heq]
  · next hne => exact List.filter_eq_nil_iff.2 fun m hm => by simp [hms m hm, hne]

/-- **Every instance has come where its marks tell**, and every mark is of
an instance. -/
structure Recorded (e : Engine) (h : List Mark) : Prop where
  numbered : e.Numbered
  course : ∀ i ∈ e.instances, Course (marksOf i.id h) i
  known : ∀ m ∈ h, m.before.id ∈ e.instances.map (·.id)

/-- The record when a call has run one instance. -/
theorem Recorded.update (hr : e.Recorded h) (hn : e'.Numbered)
    (hms : ∀ m ∈ ms, m.before.id = j.id)
    (hmem : ∀ i ∈ e'.instances, i = j ∨ i ∈ e.instances ∧ i.id ≠ j.id)
    (hids : ∀ id ∈ e.instances.map (·.id), id ∈ e'.instances.map (·.id))
    (hj : j.id ∈ e'.instances.map (·.id)) (hcourse : Course (marksOf j.id h ++ ms) j) :
    e'.Recorded (h ++ ms) where
  numbered := hn
  course i hi := by
    rw [marksOf_append, marksOf_eq hms]
    rcases hmem i hi with rfl | ⟨hold, hne⟩
    · rw [if_pos rfl]
      exact hcourse
    · rw [if_neg hne.symm, List.append_nil]
      exact hr.course i hold
  known m hm := by
    rcases List.mem_append.1 hm with hm | hm
    · exact hids _ (hr.known m hm)
    · rw [hms m hm]
      exact hj

/-- The record when an instance has been moved to another state. -/
theorem Recorded.move (hr : e.Recorded h) (hi : i ∈ e.instances) (hid : j.id = i.id) {v : Event}
    (hcourse : Course (marksOf i.id h) i → Course (marksOf i.id h) j) :
    (e.move j v).Recorded (h ++ []) := by
  have hids : (e.move j v).instances.map (·.id) = e.instances.map (·.id) := ids_replace e j
  refine hr.update (j := j) (hr.numbered.move j v)
    (fun _ hm => absurd hm List.not_mem_nil) (fun k hk => ?_) (fun id hk => hids ▸ hk) ?_ ?_
  · exact (mem_replace ⟨i, hi, hid.symm⟩).1 hk
  · rw [hids, hid]
    exact List.mem_map_of_mem hi
  · rw [List.append_nil, hid]
    exact hcourse (hr.course i hi)

/-- **A call keeps the record.** -/
theorem Effect.recorded {c : Call} {x : Except Failure Answer × Engine} (hx : Effect e c ms x)
    (hr : e.Recorded h) : x.2.Recorded (h ++ ms) := by
  have hn := hx.numbered hr.numbered
  cases hx with
  | refused => rwa [List.append_nil]
  | asked => rwa [List.append_nil]
  | deployed =>
    rw [List.append_nil]
    exact ⟨hn, hr.course, hr.known⟩
  | @started key vars p o _ ho =>
    have hid : o.2.inst.id = identifier e.drawn := (extends_started ho).id_eq
    have hinst := instances_started hr.numbered ho
    -- the id is drawn anew, so that nothing was recorded under it
    have hnew : marksOf o.2.inst.id h = [] := by
      refine List.filter_eq_nil_iff.2 fun m hm => ?_
      obtain ⟨i, hi, hmi⟩ := List.mem_map.1 (hr.known m hm)
      rw [← hmi, hid]
      simpa using hr.numbered.ne_identifier hi
    refine hr.update (j := o.2.inst) hn (fun m hm => ?_) (fun i hi => ?_) (fun id hmem => ?_) ?_ ?_
    · exact (Run.id_of_mem_marksFrom hm).trans hid.symm
    · rw [hinst, List.mem_append, List.mem_singleton] at hi
      rcases hi with hi | rfl
      · exact Or.inr ⟨hi, hid ▸ hr.numbered.ne_identifier hi⟩
      · exact Or.inl rfl
    · rw [hinst, List.map_append]
      exact List.mem_append_left _ hmem
    · rw [hinst, List.map_append]
      exact List.mem_append_right _ (List.mem_singleton_self _)
    · rw [hnew, ← ho]
      exact Run.course_advance e.surroundings (Course.opened rfl rfl rfl rfl rfl) rfl
  | @resumed id name vars i item others o hi hactive ht ho =>
    have hmem := (mem_of_instance? hi).1
    have hid : o.2.inst.id = i.id := (extends_resumed ho).id_eq
    have hids : (e.takeBack o.2).instances.map (·.id) = e.instances.map (·.id) :=
      ids_replace e o.2.inst
    refine hr.update (j := o.2.inst) hn (fun m hm => ?_) (fun k hk => (mem_resumed hmem ho).1 hk)
      (fun id hk => hids ▸ hk) ?_ ?_
    · exact (Run.id_of_mem_resumeMarks hm).trans hid.symm
    · rw [hids, hid]
      exact List.mem_map_of_mem hmem
    · rw [hid, ← ho]
      exact Run.course_resume e.surroundings (hr.course i hmem) hactive ht rfl
  | suspended hi hs =>
    exact hr.move (mem_of_instance? hi).1 (by rfl) fun hc => hc.moved (by rw [hs]; rfl) rfl
  | reactivated hi hs =>
    exact hr.move (mem_of_instance? hi).1 (by rfl) fun hc => hc.moved (by rw [hs]; rfl) rfl
  | terminated hi =>
    exact hr.move (mem_of_instance? hi).1 (by rfl) fun hc => hc.halted (by rfl) (by rfl) rfl

theorem recorded_turn (t : Turn) (hr : e.Recorded h) : (e.turn t).Recorded (h ++ e.turnMarks t) := by
  cases t with
  | call c => exact (effect_perform e c).recorded hr
  | lend =>
    rw [turnMarks, List.append_nil]
    exact ⟨numbered_turn e _ hr.numbered, hr.course, hr.known⟩

theorem recorded_after (turns : List Turn) (hr : e.Recorded h) :
    (e.after turns).Recorded (h ++ e.chronicle turns) := by
  induction turns generalizing e h with
  | nil => rwa [chronicle, List.append_nil]
  | cons t ts ih =>
    rw [after_cons, chronicle, ← List.append_assoc]
    exact ih (recorded_turn t hr)

/-- **Every instance follows a course**, after any turns. -/
theorem course_after (library : Library) (stepLimit drawn now : Nat) (turns : List Turn) :
    let e := new library stepLimit drawn now
    ∀ i ∈ (e.after turns).instances, Course (e.history turns i.id) i := by
  intro e i hi
  have hnew : e.Recorded [] := ⟨numbered_new library stepLimit drawn now,
    fun _ hi => absurd hi List.not_mem_nil, fun _ hm => absurd hm List.not_mem_nil⟩
  exact (recorded_after turns hnew).course i hi

end Engine

end WorkflowCanvas
