import WorkflowCanvas.Proofs.Engine.Roster
/-!
# Whom a call concerns

A call is addressed to one instance, or to none. It leaves every other
instance where it is, and says nothing of it in the log
(`Effect.mem_of_elsewhere`, `Effect.eventsOf_of_elsewhere`). So whatever an
instance and its events have in common can be shown by looking at that
instance alone: if it holds once the instance has run for the first time,
and each of the calls addressed to it keeps it (`Kept`), then it holds of all
instances after any turns (`Kept.after`).
-/


namespace WorkflowCanvas

/-! ## Lists that grow at the end -/

section Lists

variable {α : Type} {l : List α} {k : Nat} {a : α}

/-- What stands in a list stays there. -/
theorem getElem?_append_of_eq_some (h : l[k]? = some a) (more : List α) :
    (l ++ more)[k]? = some a := by
  rw [List.getElem?_append_left (List.getElem?_eq_some_iff.1 h).1, h]

/-- What is added stands behind what was there. -/
theorem getElem?_append_length_add (l more : List α) (k : Nat) :
    (l ++ more)[l.length + k]? = more[k]? := by
  rw [List.getElem?_append_right (Nat.le_add_right _ _), Nat.add_sub_cancel_left]

end Lists

namespace Engine

open Operation (Library)

/-! ## Whom a call is addressed to -/

/-- The instance that a call is addressed to. A start has its instance
still to make, and a query touches none. -/
def Call.addressee? : Call → Option String
  | .complete id _ _ | .suspend id | .resume id | .terminate id _ => some id
  | _ => none

/-! ## The events of an instance -/

/-- **The events of an instance**, first one first. -/
def eventsOf (id : String) (log : List Event) : List Event :=
  (log.filter fun v => v.instanceId? == some id).reverse

variable {e : Engine} {i j : Instance} {id : String} {c : Call} {ms : List Mark}
variable {log events : List Event} {x : Except Failure Answer × Engine}

theorem eventsOf_append (id : String) (events log : List Event) :
    eventsOf id (events ++ log) = eventsOf id log ++ eventsOf id events := by
  simp [eventsOf]

/-- Events that all belong to an instance are its events. -/
theorem eventsOf_of_own (h : ∀ v ∈ events, v.instanceId? = some id) :
    eventsOf id events = events.reverse := by
  rw [eventsOf, List.filter_eq_self.2 fun v hv => by simp [h v hv]]

/-- Events that belong to no instance, or to others, are none of its
events. -/
theorem eventsOf_of_others (h : ∀ v ∈ events, v.instanceId? ≠ some id) :
    eventsOf id events = [] := by
  rw [eventsOf, List.filter_eq_nil_iff.2 fun v hv => by simp [h v hv], List.reverse_nil]

/-- What another instance has emitted says nothing of this one. -/
theorem eventsOf_append_of_ne {id' : String} (hown : ∀ v ∈ events, v.instanceId? = some id')
    (hne : id' ≠ id) : eventsOf id (events ++ log) = eventsOf id log := by
  have hnone : eventsOf id events = [] := eventsOf_of_others fun v hv => by simp [hown v hv, hne]
  rw [eventsOf_append, hnone, List.append_nil]

section Runs

variable {key : String} {p : Workflow} {vars : Table Json} {o : Except Failure Unit × Run}
variable {item : WorkItem} {others : List WorkItem}

/-- A start emits events of the new instance alone. -/
theorem own_started (ho : (e.opening key p vars).advance e.surroundings = o) :
    ∀ v ∈ o.2.emitted, v.instanceId? = some (identifier e.drawn) := by
  obtain ⟨events, hev, hown⟩ := (extends_started ho).emitted_eq
  intro v hv
  rw [hev, List.mem_append] at hv
  rcases hv with hv | hv
  · exact (hown v hv).1
  · rw [List.mem_singleton.1 hv]
    rfl

/-- A completion emits events of its instance alone. -/
theorem own_resumed (ho : (e.resuming i others vars).resume e.surroundings item = o) :
    ∀ v ∈ o.2.emitted, v.instanceId? = some i.id := by
  obtain ⟨events, hev, hown⟩ := (extends_resumed ho).emitted_eq
  intro v hv
  rw [hev, List.mem_append] at hv
  rcases hv with hv | hv
  · exact (hown v hv).1
  · cases hv

end Runs

/-! ## Elsewhere -/

/-- **A call leaves the instances it is not addressed to.** -/
theorem Effect.mem_of_elsewhere (hx : Effect e c ms x) (h : e.Numbered) (hi : i ∈ e.instances)
    (hc : c.addressee? ≠ some i.id) : i ∈ x.2.instances := by
  -- a call that moves an instance moves the one it is addressed to
  have hmove : ∀ {id : String} {j k : Instance} {v : Event}, id ≠ i.id →
      e.instance? id = some j → k.id = j.id → i ∈ (e.move k v).instances := by
    intro id j k v hne hj hid
    obtain ⟨hmem, rfl⟩ := mem_of_instance? hj
    exact (mem_replace ⟨j, hmem, hid.symm⟩).2 (Or.inr ⟨hi, hid ▸ hne.symm⟩)
  cases hx with
  | refused => exact hi
  | asked => exact hi
  | deployed => exact hi
  | started _ ho =>
    rw [instances_started h ho]
    exact List.mem_append_left _ hi
  | resumed hj _ _ ho =>
    obtain ⟨hmem, rfl⟩ := mem_of_instance? hj
    refine (mem_resumed hmem ho).2 (Or.inr ⟨hi, fun heq => hc ?_⟩)
    rw [heq, (extends_resumed ho).id_eq]
    rfl
  | suspended hj => exact hmove (by simpa [Call.addressee?] using hc) hj (by rfl)
  | reactivated hj => exact hmove (by simpa [Call.addressee?] using hc) hj (by rfl)
  | terminated hj => exact hmove (by simpa [Call.addressee?] using hc) hj (by rfl)

/-- **A call says nothing of the instances it is not addressed to.** -/
theorem Effect.eventsOf_of_elsewhere (hx : Effect e c ms x) (h : e.Numbered) (hi : i ∈ e.instances)
    (hc : c.addressee? ≠ some i.id) : eventsOf i.id x.2.log = eventsOf i.id e.log := by
  have hmove : ∀ {id : String} {v : Event}, v.instanceId? = some id → id ≠ i.id →
      eventsOf i.id (v :: e.log) = eventsOf i.id e.log := by
    intro id v hv hne
    show eventsOf i.id ([v] ++ e.log) = _
    exact eventsOf_append_of_ne (by simpa using hv) hne
  cases hx with
  | refused => rfl
  | asked => rfl
  | deployed => rfl
  | started _ ho => exact eventsOf_append_of_ne (own_started ho) (h.ne_identifier hi).symm
  | resumed hj _ _ ho =>
    obtain ⟨-, rfl⟩ := mem_of_instance? hj
    exact eventsOf_append_of_ne (own_resumed ho) (by simpa [Call.addressee?] using hc)
  | suspended => exact hmove rfl (by simpa [Call.addressee?] using hc)
  | reactivated => exact hmove rfl (by simpa [Call.addressee?] using hc)
  | terminated => exact hmove rfl (by simpa [Call.addressee?] using hc)

/-! ## What an instance keeps -/

/-- **A property of an instance and its events is kept**, whatever the
surroundings of each run, as far as they are as `S` says. -/
structure Kept (S : Surroundings → Prop) (P : List Event → Instance → Prop) : Prop where
  /-- It holds once a new instance has run. -/
  opened : ∀ {e : Engine} {key : String} {p : Workflow} {vars : Table Json}
    {o : Except Failure Unit × Run}, S e.surroundings → e.deployments.get? key = some p →
    (e.opening key p vars).advance e.surroundings = o → P o.2.emitted.reverse o.2.inst
  /-- It still holds once a work item is completed. -/
  resumed : ∀ {e : Engine} {i : Instance} {es : List Event} {name : String} {vars : Table Json}
    {item : WorkItem} {others : List WorkItem} {o : Except Failure Unit × Run},
    S e.surroundings → P es i → i.state = .active →
    takeItem? name i.pending = some (item, others) →
    (e.resuming i others vars).resume e.surroundings item = o →
    P (es ++ o.2.emitted.reverse) o.2.inst
  suspended : ∀ {i : Instance} {es : List Event}, P es i → i.state = .active →
    P (es ++ [.instanceSuspended i.id]) { i with state := .suspended }
  reactivated : ∀ {i : Instance} {es : List Event}, P es i → i.state = .suspended →
    P (es ++ [.instanceResumed i.id]) { i with state := .active }
  terminated : ∀ {i : Instance} {es : List Event} {reason? : Option String}, P es i →
    i.state.isOpen = true → P (es ++ [.instanceTerminated i.id reason?])
      { i with state := .terminated, detail? := reason?, tokens := [], pending := [] }

variable {S : Surroundings → Prop} {P : List Event → Instance → Prop}

/-- The property holds of every instance and its events, and no event is of
an instance that is not there. -/
structure Upholds (P : List Event → Instance → Prop) (e : Engine) : Prop where
  numbered : e.Numbered
  holds : ∀ i ∈ e.instances, P (eventsOf i.id e.log) i
  known : ∀ v ∈ e.log, ∀ id, v.instanceId? = some id → id ∈ e.instances.map (·.id)

/-- Nothing is in the log of an id that is still to be drawn. -/
theorem Upholds.eventsOf_new (h : e.Upholds P) : eventsOf (identifier e.drawn) e.log = [] := by
  refine eventsOf_of_others fun v hv hid => ?_
  obtain ⟨i, hi, heq⟩ := List.mem_map.1 (h.known v hv _ hid)
  exact h.numbered.ne_identifier hi heq

/-- The events that a call adds are known, if they are all of one
instance. -/
theorem Upholds.known_append {e' : Engine} (h : e.Upholds P)
    (hids : ∀ id ∈ e.instances.map (·.id), id ∈ e'.instances.map (·.id))
    (hid : id ∈ e'.instances.map (·.id)) (hown : ∀ v ∈ events, v.instanceId? = some id) :
    ∀ v ∈ events ++ e.log, ∀ id, v.instanceId? = some id → id ∈ e'.instances.map (·.id) := by
  intro v hv id' hv'
  rcases List.mem_append.1 hv with hv | hv
  · rw [hown v hv] at hv'
    exact Option.some.inj hv' ▸ hid
  · exact hids _ (h.known v hv id' hv')

/-- An instance is replaced, and what it has emitted since is added. -/
theorem Upholds.replace (h : e.Upholds P) (events : List Event) (hi : i ∈ e.instances)
    (hid : j.id = i.id) (hown : ∀ v ∈ events, v.instanceId? = some i.id) {n : Nat} (hn : e.drawn ≤ n)
    (hj : P (eventsOf i.id e.log ++ events.reverse) j) :
    ({ e.replace j with log := events ++ e.log, drawn := n } : Engine).Upholds P where
  numbered := ⟨(named_replace h.numbered.toNamed j).mono hn, h.numbered.counted.replace j⟩
  holds k hk := by
    rcases (mem_replace ⟨i, hi, hid.symm⟩).1 hk with rfl | ⟨hk, hne⟩
    · show P (eventsOf k.id (events ++ e.log)) k
      rwa [eventsOf_append, hid, eventsOf_of_own hown]
    · show P (eventsOf k.id (events ++ e.log)) k
      rw [eventsOf_append_of_ne hown (hid ▸ hne.symm)]
      exact h.holds k hk
  known := by
    have hids : (e.replace j).instances.map (·.id) = e.instances.map (·.id) := ids_replace e j
    refine h.known_append (fun id hk => ?_) ?_ hown
    · exact hids ▸ hk
    · show i.id ∈ (e.replace j).instances.map (·.id)
      rw [hids]
      exact List.mem_map_of_mem hi

/-- **A call upholds what is kept.** -/
theorem Effect.upholds (hk : Kept S P) (hs : S e.surroundings) (hx : Effect e c ms x)
    (h : e.Upholds P) : x.2.Upholds P := by
  cases hx with
  | refused => exact h
  | asked => exact h
  | deployed =>
    refine ⟨h.numbered.install _, h.holds, fun v hv id hid => ?_⟩
    rcases List.mem_cons.1 hv with rfl | hv
    · cases hid
    · exact h.known v hv id hid
  | @started key vars p o hp ho =>
    have hinst := instances_started h.numbered ho
    have hid : o.2.inst.id = identifier e.drawn := (extends_started ho).id_eq
    refine ⟨numbered_started h.numbered ho, fun i hi => ?_, ?_⟩
    · rw [hinst, List.mem_append, List.mem_singleton] at hi
      show P (eventsOf i.id (o.2.emitted ++ e.log)) i
      rcases hi with hi | rfl
      · rw [eventsOf_append_of_ne (own_started ho) (h.numbered.ne_identifier hi).symm]
        exact h.holds i hi
      · -- nothing was told under the new id before
        rw [eventsOf_append, hid, h.eventsOf_new, eventsOf_of_own (own_started ho)]
        exact hk.opened hs hp ho
    · refine h.known_append (fun id hmem => ?_) ?_ (own_started ho)
      · rw [hinst, List.map_append]
        exact List.mem_append_left _ hmem
      · rw [hinst, List.map_append, ← hid]
        exact List.mem_append_right _ (List.mem_singleton_self _)
  | @resumed _ _ _ _ _ _ o hi hactive ht ho =>
    have hmem := (mem_of_instance? hi).1
    exact h.replace o.2.emitted hmem (extends_resumed ho).id_eq (own_resumed ho)
      (extends_resumed ho).drawn_le (hk.resumed hs (h.holds _ hmem) hactive ht ho)
  | suspended hi hs =>
    obtain ⟨hmem, rfl⟩ := mem_of_instance? hi
    exact h.replace [_] hmem (by rfl) (by simp [Event.instanceId?]) (Nat.le_refl _)
      (hk.suspended (h.holds _ hmem) hs)
  | reactivated hi hs =>
    obtain ⟨hmem, rfl⟩ := mem_of_instance? hi
    exact h.replace [_] hmem (by rfl) (by simp [Event.instanceId?]) (Nat.le_refl _)
      (hk.reactivated (h.holds _ hmem) hs)
  | terminated hi ho =>
    obtain ⟨hmem, rfl⟩ := mem_of_instance? hi
    exact h.replace [_] hmem (by rfl) (by simp [Event.instanceId?]) (Nat.le_refl _)
      (hk.terminated (h.holds _ hmem) ho)

/-- A call works in the surroundings it found. -/
theorem Effect.surroundings_eq (hx : Effect e c ms x) : x.2.surroundings = e.surroundings := by
  cases hx <;> rfl

/-- A turn upholds what is kept, if the surroundings it lends are as they
should be. -/
theorem upholds_turn (hk : Kept S P) (t : Turn) (hs : S e.surroundings)
    (hlend : ∀ library now, t = .lend library now → S ⟨library, e.stepLimit, now⟩)
    (h : e.Upholds P) :
    (e.turn t).Upholds P ∧ S (e.turn t).surroundings ∧ (e.turn t).stepLimit = e.stepLimit := by
  cases t with
  | call c =>
    have hx := effect_perform e c
    have hsame : (e.perform c).2.surroundings = e.surroundings := hx.surroundings_eq
    exact ⟨hx.upholds hk hs h, hsame ▸ hs, congrArg Surroundings.stepLimit hsame⟩
  | lend library now =>
    exact ⟨⟨numbered_turn e (.lend library now) h.numbered, h.holds, h.known⟩,
      hlend library now rfl, rfl⟩

/-- What is kept is upheld by all turns. -/
theorem upholds_after (hk : Kept S P) (turns : List Turn) (hs : S e.surroundings)
    (hlend : ∀ library now, .lend library now ∈ turns → S ⟨library, e.stepLimit, now⟩)
    (h : e.Upholds P) : (e.after turns).Upholds P := by
  induction turns generalizing e with
  | nil => exact h
  | cons t ts ih =>
    obtain ⟨hturn, hs', hlimit⟩ := upholds_turn hk t hs
      (fun library now ht => hlend library now (ht ▸ List.mem_cons_self)) h
    refine ih hs' (fun library now hmem => ?_) hturn
    rw [hlimit]
    exact hlend library now (List.mem_cons_of_mem _ hmem)

/-- **What is kept holds of every instance**, after any turns in such
surroundings. -/
theorem Kept.after (hk : Kept S P) {library : Library} {stepLimit drawn now : Nat}
    {turns : List Turn} (hs : S ⟨library, stepLimit, now⟩)
    (hlend : ∀ library now, .lend library now ∈ turns → S ⟨library, stepLimit, now⟩) :
    ((new library stepLimit drawn now).after turns).Upholds P :=
  upholds_after hk turns hs hlend
    ⟨numbered_new library stepLimit drawn now, fun _ hi => absurd hi List.not_mem_nil,
      fun _ hv => absurd hv List.not_mem_nil⟩

end Engine

end WorkflowCanvas
