import WorkflowCanvas.Proofs.Engine.Concern
import WorkflowCanvas.Proofs.Engine.Course
/-!
# The two records of an instance

There are two records of what an instance does: its events, which the engine
writes down, and its marks. `Fate` lists what a call can do to one instance
and to both its records, one constructor for each thing, and `Effect.fate`
says that a call does one of them to every instance that there is
afterwards. So whatever an instance and its two records have in common holds
after any turns, if it holds once the instance has run for the first time
and each of the calls addressed to it keeps it (`Matched.after`).
-/


namespace WorkflowCanvas

namespace Engine

open Operation (Library)

variable {e : Engine} {i j : Instance} {c : Call} {h ms : List Mark} {es events : List Event}
variable {x : Except Failure Answer × Engine}

/-- **What a call does to one instance and its records**, of which `h` is
all that was marked before. -/
inductive Fate (e : Engine) (h : List Mark) : List Mark → List Event → Instance → Prop
  /-- The instance is left where it is. -/
  | spared {i : Instance} : i ∈ e.instances → Fate e h (marksOf i.id h) (eventsOf i.id e.log) i
  /-- The instance is new. -/
  | opened {key : String} {p : Workflow} {vars : Table Json} {o : Except Failure Unit × Run} :
      e.deployments.get? key = some p → (e.opening key p vars).advance e.surroundings = o →
      Fate e h ((e.opening key p vars).marks e.surroundings) o.2.emitted.reverse o.2.inst
  /-- The instance takes a work item as done and runs on. -/
  | resumed {i : Instance} {name : String} {vars : Table Json} {item : WorkItem}
      {others : List WorkItem} {o : Except Failure Unit × Run} :
      i ∈ e.instances → i.state = .active → takeItem? name i.pending = some (item, others) →
      (e.resuming i others vars).resume e.surroundings item = o →
      Fate e h (marksOf i.id h ++ (e.resuming i others vars).resumeMarks e.surroundings item)
        (eventsOf i.id e.log ++ o.2.emitted.reverse) o.2.inst
  /-- The instance is suspended. -/
  | suspended {i : Instance} : i ∈ e.instances → i.state = .active →
      Fate e h (marksOf i.id h) (eventsOf i.id e.log ++ [.instanceSuspended i.id])
        { i with state := .suspended }
  /-- The instance becomes active again. -/
  | reactivated {i : Instance} : i ∈ e.instances → i.state = .suspended →
      Fate e h (marksOf i.id h) (eventsOf i.id e.log ++ [.instanceResumed i.id])
        { i with state := .active }
  /-- The instance is terminated. -/
  | terminated {i : Instance} {reason? : Option String} : i ∈ e.instances → i.state.isOpen = true →
      Fate e h (marksOf i.id h) (eventsOf i.id e.log ++ [.instanceTerminated i.id reason?])
        { i with state := .terminated, detail? := reason?, tokens := [], pending := [] }

theorem Fate.of_eq {ms' : List Mark} (hf : Fate e h ms es i) (hms : ms' = ms)
    (hes : events = es) : Fate e h ms' events i :=
  hms ▸ hes ▸ hf

/-- An instance that is moved has the event of its move behind the others. -/
theorem fate_of_move {id : String} {v : Event} {k : Instance} (hi : e.instance? id = some i)
    (hid : k.id = i.id) (hv : v.instanceId? = some id) (hj : j ∈ (e.move k v).instances)
    (hk : Fate e h (marksOf i.id h) (eventsOf i.id e.log ++ [v]) k) :
    Fate e h (marksOf j.id (h ++ [])) (eventsOf j.id (e.move k v).log) j := by
  obtain ⟨hmem, rfl⟩ := mem_of_instance? hi
  have hown : ∀ u ∈ [v], u.instanceId? = some i.id := by simpa using hv
  show Fate e h _ (eventsOf j.id ([v] ++ e.log)) j
  rw [List.append_nil]
  rcases (mem_replace ⟨i, hmem, hid.symm⟩).1 hj with rfl | ⟨hj, hne⟩
  · exact hk.of_eq (by rw [hid]) (by rw [eventsOf_append, hid, eventsOf_of_own hown]; rfl)
  · exact (Fate.spared hj).of_eq rfl (eventsOf_append_of_ne hown (hid ▸ hne.symm))

/-- **Every instance meets one of these fates** in a call. -/
theorem Effect.fate (hx : Effect e c ms x) (hu : e.Upholds fun _ _ => True) (hr : e.Recorded h)
    (hj : j ∈ x.2.instances) :
    Fate e h (marksOf j.id (h ++ ms)) (eventsOf j.id x.2.log) j := by
  cases hx with
  | refused => exact (Fate.spared hj).of_eq (by rw [List.append_nil]) rfl
  | asked => exact (Fate.spared hj).of_eq (by rw [List.append_nil]) rfl
  | deployed =>
    have hold : j ∈ e.instances := hj
    exact (Fate.spared hold).of_eq (by rw [List.append_nil]) rfl
  | @started key vars p o hp ho =>
    have hid : o.2.inst.id = identifier e.drawn := (extends_started ho).id_eq
    have hnew : ∀ m ∈ (e.opening key p vars).marks e.surroundings, m.before.id = identifier e.drawn :=
      fun m hm => Run.id_of_mem_marksFrom hm
    rw [instances_started hu.numbered ho, List.mem_append, List.mem_singleton] at hj
    show Fate e h _ (eventsOf j.id (o.2.emitted ++ e.log)) j
    rw [marksOf_append, marksOf_eq hnew]
    rcases hj with hj | rfl
    · have hne := hu.numbered.ne_identifier hj
      exact (Fate.spared hj).of_eq (by rw [if_neg hne.symm, List.append_nil])
        (eventsOf_append_of_ne (own_started ho) hne.symm)
    · -- the id is drawn anew, so that neither record has anything under it
      have hnone : marksOf o.2.inst.id h = [] := by
        refine List.filter_eq_nil_iff.2 fun m hm => ?_
        obtain ⟨i, hi, hmi⟩ := List.mem_map.1 (hr.known m hm)
        rw [← hmi, hid]
        simpa using hu.numbered.ne_identifier hi
      refine (Fate.opened hp ho).of_eq ?_ ?_
      · rw [hnone, if_pos hid.symm, List.nil_append]
      · rw [eventsOf_append, hid, hu.eventsOf_new, eventsOf_of_own (own_started ho),
          List.nil_append]
  | @resumed id name vars i item others o hi hactive ht ho =>
    have hmem := (mem_of_instance? hi).1
    have hid : o.2.inst.id = i.id := (extends_resumed ho).id_eq
    have hnew : ∀ m ∈ (e.resuming i others vars).resumeMarks e.surroundings item,
        m.before.id = i.id := fun m hm => Run.id_of_mem_resumeMarks hm
    show Fate e h _ (eventsOf j.id (o.2.emitted ++ e.log)) j
    rw [marksOf_append, marksOf_eq hnew]
    rcases (mem_resumed hmem ho).1 hj with rfl | ⟨hj, hne⟩
    · refine (Fate.resumed hmem hactive ht ho).of_eq ?_ ?_
      · rw [hid, if_pos rfl]
      · rw [eventsOf_append, hid, eventsOf_of_own (own_resumed ho)]
    · have hne : i.id ≠ j.id := hid ▸ hne.symm
      exact (Fate.spared hj).of_eq (by rw [if_neg hne, List.append_nil])
        (eventsOf_append_of_ne (own_resumed ho) hne)
  | suspended hi hs =>
    obtain ⟨hmem, rfl⟩ := mem_of_instance? hi
    exact fate_of_move hi (by rfl) (by rfl) hj (.suspended hmem hs)
  | reactivated hi hs =>
    obtain ⟨hmem, rfl⟩ := mem_of_instance? hi
    exact fate_of_move hi (by rfl) (by rfl) hj (.reactivated hmem hs)
  | terminated hi ho =>
    obtain ⟨hmem, rfl⟩ := mem_of_instance? hi
    exact fate_of_move hi (by rfl) (by rfl) hj (.terminated hmem ho)

/-! ## What the records have in common -/

/-- **A property of an instance and its records is kept**, whatever the
surroundings of each run, as far as they are as `S` says. -/
structure Matched (S : Surroundings → Prop) (P : List Mark → List Event → Instance → Prop) :
    Prop where
  /-- It holds once a new instance has run. -/
  opened : ∀ {e : Engine} {key : String} {p : Workflow} {vars : Table Json}
    {o : Except Failure Unit × Run}, S e.surroundings →
    (e.opening key p vars).advance e.surroundings = o →
    P ((e.opening key p vars).marks e.surroundings) o.2.emitted.reverse o.2.inst
  /-- It still holds once a work item is completed. -/
  resumed : ∀ {e : Engine} {i : Instance} {ms : List Mark} {es : List Event} {name : String}
    {vars : Table Json} {item : WorkItem} {others : List WorkItem} {o : Except Failure Unit × Run},
    S e.surroundings → Course ms i → P ms es i → i.state = .active →
    takeItem? name i.pending = some (item, others) →
    (e.resuming i others vars).resume e.surroundings item = o →
    P (ms ++ (e.resuming i others vars).resumeMarks e.surroundings item)
      (es ++ o.2.emitted.reverse) o.2.inst
  suspended : ∀ {i : Instance} {ms : List Mark} {es : List Event}, P ms es i →
    i.state = .active → P ms (es ++ [.instanceSuspended i.id]) { i with state := .suspended }
  reactivated : ∀ {i : Instance} {ms : List Mark} {es : List Event}, P ms es i →
    i.state = .suspended → P ms (es ++ [.instanceResumed i.id]) { i with state := .active }
  terminated : ∀ {i : Instance} {ms : List Mark} {es : List Event} {reason? : Option String},
    P ms es i → i.state.isOpen = true → P ms (es ++ [.instanceTerminated i.id reason?])
      { i with state := .terminated, detail? := reason?, tokens := [], pending := [] }

variable {S : Surroundings → Prop} {P : List Mark → List Event → Instance → Prop}

/-- **The property holds of every instance and its records.** -/
structure Accords (P : List Mark → List Event → Instance → Prop) (e : Engine) (h : List Mark) :
    Prop where
  upholds : e.Upholds fun _ _ => True
  recorded : e.Recorded h
  holds : ∀ i ∈ e.instances, P (marksOf i.id h) (eventsOf i.id e.log) i

/-- An instance keeps the property, whatever its fate is. -/
theorem Accords.of_fate (ha : e.Accords P h) (hk : Matched S P) (hs : S e.surroundings)
    (hf : Fate e h ms es j) : P ms es j := by
  cases hf with
  | spared hi => exact ha.holds _ hi
  | opened _ ho => exact hk.opened hs ho
  | resumed hi hactive ht ho =>
    exact hk.resumed hs (ha.recorded.course _ hi) (ha.holds _ hi) hactive ht ho
  | suspended hi hactive => exact hk.suspended (ha.holds _ hi) hactive
  | reactivated hi hsuspended => exact hk.reactivated (ha.holds _ hi) hsuspended
  | terminated hi ho => exact hk.terminated (ha.holds _ hi) ho

theorem kept_true : Kept (fun _ => True) fun _ _ => True where
  opened _ _ _ := trivial
  resumed _ _ _ _ _ := trivial
  suspended _ _ := trivial
  reactivated _ _ := trivial
  terminated _ _ := trivial

/-- **A call keeps what the records have in common.** -/
theorem Effect.accords (hk : Matched S P) (hs : S e.surroundings) (hx : Effect e c ms x)
    (ha : e.Accords P h) : x.2.Accords P (h ++ ms) where
  upholds := hx.upholds kept_true trivial ha.upholds
  recorded := hx.recorded ha.recorded
  holds _ hj := ha.of_fate hk hs (hx.fate ha.upholds ha.recorded hj)

theorem accords_turn (hk : Matched S P) (t : Turn) (hs : S e.surroundings)
    (hlend : ∀ library now, t = .lend library now → S ⟨library, e.stepLimit, now⟩)
    (ha : e.Accords P h) :
    (e.turn t).Accords P (h ++ e.turnMarks t) ∧ S (e.turn t).surroundings ∧
      (e.turn t).stepLimit = e.stepLimit := by
  cases t with
  | call c =>
    have hx := effect_perform e c
    have hsame : (e.perform c).2.surroundings = e.surroundings := hx.surroundings_eq
    exact ⟨hx.accords hk hs ha, hsame ▸ hs, congrArg Surroundings.stepLimit hsame⟩
  | lend library now =>
    have hn : (e.turn (.lend library now)).Numbered := numbered_turn e _ ha.upholds.numbered
    rw [turnMarks, List.append_nil]
    exact ⟨⟨⟨hn, ha.upholds.holds, ha.upholds.known⟩,
      ⟨hn, ha.recorded.course, ha.recorded.known⟩, ha.holds⟩, hlend library now rfl, rfl⟩

theorem accords_after (hk : Matched S P) (turns : List Turn) (hs : S e.surroundings)
    (hlend : ∀ library now, .lend library now ∈ turns → S ⟨library, e.stepLimit, now⟩)
    (ha : e.Accords P h) : (e.after turns).Accords P (h ++ e.chronicle turns) := by
  induction turns generalizing e h with
  | nil => rwa [chronicle, List.append_nil]
  | cons t ts ih =>
    obtain ⟨hturn, hs', hlimit⟩ := accords_turn hk t hs
      (fun library now ht => hlend library now (ht ▸ List.mem_cons_self)) ha
    rw [after_cons, chronicle, ← List.append_assoc]
    refine ih hs' (fun library now hmem => ?_) hturn
    rw [hlimit]
    exact hlend library now (List.mem_cons_of_mem _ hmem)

/-- **What the records have in common holds of every instance**, after any
turns in such surroundings. -/
theorem Matched.after (hk : Matched S P) {library : Library} {stepLimit drawn now : Nat}
    {turns : List Turn} (hs : S ⟨library, stepLimit, now⟩)
    (hlend : ∀ library now, .lend library now ∈ turns → S ⟨library, stepLimit, now⟩) :
    let e := new library stepLimit drawn now
    ∀ i ∈ (e.after turns).instances,
      P (e.history turns i.id) (eventsOf i.id (e.after turns).log) i := by
  intro e i hi
  have hnew : e.Accords P [] :=
    ⟨⟨numbered_new library stepLimit drawn now, fun _ _ => trivial,
        fun _ hv => absurd hv List.not_mem_nil⟩,
      ⟨numbered_new library stepLimit drawn now, fun _ hi => absurd hi List.not_mem_nil,
        fun _ hm => absurd hm List.not_mem_nil⟩,
      fun _ hi => absurd hi List.not_mem_nil⟩
  exact (accords_after (e := e) hk turns hs hlend hnew).holds i hi

end Engine

end WorkflowCanvas
