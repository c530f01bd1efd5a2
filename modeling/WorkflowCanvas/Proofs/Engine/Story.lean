import WorkflowCanvas.Proofs.Engine.Carry
import WorkflowCanvas.Proofs.Engine.Concern
import WorkflowCanvas.Proofs.Engine.Refusal
import WorkflowCanvas.Proofs.Engine.Tokens
/-!
# The story of an instance

A host that keeps all events knows from them how each instance has fared
and where it stands. `Story` says what the events of an instance look like:
where it starts, what comes right after a step, how it ends, and that
replaying them gives its state and what is pending. Behind it stands
`Told`, the grammar of all stories, which grows at the end by what an
instance can do at one time; a run carries on the story of its instance
(`Run.carries_tells`), and so does every call (`Engine.kept_tells`).
-/


namespace WorkflowCanvas

/-- The id stands for a user step. -/
def Workflow.isUserStep (p : Workflow) (node : String) : Bool :=
  (p.element? node).any (·.kind.isUserTask)

namespace Event

/-- The event says that a user step waits. -/
def waitsAt (node : String) : Event → Bool
  | .waitingForUser _ node' _ => node' == node
  | _ => false

/-- The event says that a step is done. -/
def completesAt (node : String) : Event → Bool
  | .stepCompleted _ node' => node' == node
  | _ => false

/-- The event says that an instance pauses, or goes on after a pause. -/
def isPause : Event → Bool
  | .instanceSuspended _ | .instanceResumed _ => true
  | _ => false

/-- The event says that an instance has come to its end. -/
def isFinal : Event → Bool
  | .instanceCompleted _ | .instanceFailed .. | .instanceTerminated .. => true
  | _ => false

/-- The state of an instance after an event. -/
def stateAfter (state : InstanceState) : Event → InstanceState
  | .instanceStarted .. | .instanceResumed _ => .active
  | .instanceSuspended _ => .suspended
  | .instanceCompleted _ => .completed
  | .instanceFailed .. => .failed
  | .instanceTerminated .. => .terminated
  | _ => state

end Event

/-- **The state that events lead to.** -/
def replayState (es : List Event) : InstanceState := es.foldl Event.stateAfter .active

/-- **How many items wait at a node after events**: as many as have begun
to wait and are not done, and none once the instance has come to its
end. -/
def replayPending (es : List Event) (node : String) : Nat :=
  if es.any Event.isFinal then 0 else es.countP (Event.waitsAt node) - es.countP (Event.completesAt node)

/-- Pauses that begin and end in turn. -/
def Alternate (id : String) (pauses : List Event) : Prop :=
  ∀ k v, pauses[k]? = some v → v = if k % 2 = 0 then .instanceSuspended id else .instanceResumed id

/-- **The events of an instance tell its story.** -/
structure Story (i : Instance) (es : List Event) : Prop where
  /-- The first event is the start, and no other is. -/
  opening : ∀ k, (∃ key, es[k]? = some (.instanceStarted i.id key)) ↔ k = 0
  /-- A step that has started is done or has failed with the next event. -/
  started : ∀ k node operationId?, es[k]? = some (.stepStarted i.id node operationId?) →
    es[k + 1]? = some (.stepCompleted i.id node) ∨
      ∃ error, es[k + 1]? = some (.stepFailed i.id node error)
  /-- A step that has failed fails the instance with the same text. -/
  failed : ∀ k node error, es[k]? = some (.stepFailed i.id node error) →
    es[k + 1]? = some (.instanceFailed i.id error)
  /-- A step that is done has started right before, or it is a user step
  without an operation, of which an item was waiting. -/
  completed : ∀ k node, es[k]? = some (.stepCompleted i.id node) →
    (∃ j operationId?, k = j + 1 ∧ es[j]? = some (.stepStarted i.id node operationId?)) ∨
      (∃ e, i.workflow.element? node = some e ∧ e.kind.isUserTask = true ∧ e.operationId? = none) ∧
        0 < replayPending (es.take k) node
  /-- Pauses begin and end in turn. -/
  pauses : Alternate i.id (es.filter Event.isPause)
  /-- Nothing comes after the end. -/
  ending : ∀ k v, es[k]? = some v → v.isFinal = true → es[k + 1]? = none
  state_eq : replayState es = i.state
  pending_eq : ∀ node, i.pending.countP (·.nodeId == node) = replayPending es node
  /-- No more items of a user step are done than have waited. -/
  balanced : ∀ node, i.workflow.isUserStep node = true →
    es.countP (Event.completesAt node) ≤ es.countP (Event.waitsAt node)

/-- **The grammar of stories.** What an instance has told, the state it is
in and what is pending. -/
inductive Told (p : Workflow) (id : String) : List Event → InstanceState → List WorkItem → Prop
  /-- The instance is new. -/
  | opened {key : String} : Told p id [.instanceStarted id key] .active []
  /-- An automatic step is done. -/
  | worked {es : List Event} {items : List WorkItem} {e : Workflow.Element} :
      Told p id es .active items → p.element? e.id = some e → e.kind.isUserTask = false →
      Told p id (es ++ [.stepStarted id e.id e.operationId?, .stepCompleted id e.id]) .active items
  /-- A user step waits. -/
  | waited {es : List Event} {items : List WorkItem} {e : Workflow.Element} (item : WorkItem) :
      Told p id es .active items → p.element? e.id = some e → e.kind.isUserTask = true →
      item.nodeId = e.id →
      Told p id (es ++ [.waitingForUser id e.id item.taskId]) .active (items ++ [item])
  /-- A user step is done, and so is its operation. -/
  | served {es : List Event} {items others : List WorkItem} {e : Workflow.Element}
      {item : WorkItem} :
      Told p id es .active items → items.Perm (item :: others) →
      p.element? item.nodeId = some e →
      Told p id (es ++ [.stepStarted id e.id e.operationId?, .stepCompleted id e.id]) .active others
  /-- A user step without an operation is done. -/
  | confirmed {es : List Event} {items others : List WorkItem} {e : Workflow.Element}
      {item : WorkItem} :
      Told p id es .active items → items.Perm (item :: others) →
      p.element? item.nodeId = some e → e.operationId? = none →
      Told p id (es ++ [.stepCompleted id e.id]) .active others
  /-- The operation of a step has given up. -/
  | gaveUp {es : List Event} {items : List WorkItem} {node error : String}
      {operationId? : Option String} : Told p id es .active items →
      Told p id (es ++ [.stepStarted id node operationId?, .stepFailed id node error,
        .instanceFailed id error]) .failed []
  /-- The instance could not go on. -/
  | stopped {es : List Event} {items : List WorkItem} {error : String} :
      Told p id es .active items → Told p id (es ++ [.instanceFailed id error]) .failed []
  /-- Nothing is left to do. -/
  | finished {es : List Event} : Told p id es .active [] →
      Told p id (es ++ [.instanceCompleted id]) .completed []
  | suspended {es : List Event} {items : List WorkItem} : Told p id es .active items →
      Told p id (es ++ [.instanceSuspended id]) .suspended items
  | resumed {es : List Event} {items : List WorkItem} : Told p id es .suspended items →
      Told p id (es ++ [.instanceResumed id]) .active items
  | terminated {es : List Event} {items : List WorkItem} {state : InstanceState}
      {reason? : Option String} : Told p id es state items → state.isOpen = true →
      Told p id (es ++ [.instanceTerminated id reason?]) .terminated []

theorem Alternate.concat {id : String} {pauses : List Event} (h : Alternate id pauses) {v : Event}
    (hv : v = if pauses.length % 2 = 0 then .instanceSuspended id else .instanceResumed id) :
    Alternate id (pauses ++ [v]) := by
  intro k w hw
  rcases Nat.lt_trichotomy k pauses.length with hk | rfl | hk
  · rw [List.getElem?_append_left hk] at hw
    exact h k w hw
  · rw [List.getElem?_append_right (Nat.le_refl _), Nat.sub_self] at hw
    exact (Option.some.inj hw) ▸ hv
  · rw [List.getElem?_eq_none (by simp; omega)] at hw
    cases hw

/-- **What stands next to an event** in a story. -/
def Placed (p : Workflow) (id : String) (es : List Event) (k : Nat) : Event → Prop
  | .instanceStarted .. => k = 0
  | .stepStarted _ node _ => es[k + 1]? = some (.stepCompleted id node) ∨
      ∃ error, es[k + 1]? = some (.stepFailed id node error)
  | .stepFailed _ _ error => es[k + 1]? = some (.instanceFailed id error)
  | .stepCompleted _ node =>
    (∃ j operationId?, k = j + 1 ∧ es[j]? = some (.stepStarted id node operationId?)) ∨
      (∃ e, p.element? node = some e ∧ e.kind.isUserTask = true ∧ e.operationId? = none) ∧
        0 < replayPending (es.take k) node
  | _ => True

/-- The work items at a node are those that have waited there and are not
done; none has waited where no user step is. -/
def Balanced (p : Workflow) (es : List Event) (items : List WorkItem) (node : String) : Prop :=
  (p.isUserStep node = true → es.countP (Event.completesAt node) +
    items.countP (·.nodeId == node) = es.countP (Event.waitsAt node)) ∧
  (p.isUserStep node = false → es.countP (Event.waitsAt node) = 0 ∧
    items.countP (·.nodeId == node) = 0)

/-- A work item is taken and its step is done. -/
theorem Balanced.taken {p : Workflow} {es events : List Event} {items others : List WorkItem}
    {item : WorkItem} {node : String} (h : Balanced p es items node)
    (hperm : items.Perm (item :: others))
    (hdone : events.countP (Event.completesAt node) = if item.nodeId = node then 1 else 0)
    (hwait : events.countP (Event.waitsAt node) = 0) :
    Balanced p (es ++ events) others node := by
  obtain ⟨huser, hother⟩ := h
  have hcount : items.countP (·.nodeId == node) =
      others.countP (·.nodeId == node) + if item.nodeId = node then 1 else 0 := by
    rw [hperm.countP_eq, List.countP_cons]
    simp
  simp only [Balanced, List.countP_append, hdone, hwait]
  refine ⟨fun hn => ?_, fun hn => ?_⟩
  · have := huser hn
    omega
  · have := hother hn
    omega

namespace Told

variable {p : Workflow} {id : String} {es events : List Event} {state : InstanceState}
variable {items others : List WorkItem} {item : WorkItem} {e : Workflow.Element}

/-! ## Replaying a story -/

theorem replayState_append (es events : List Event) :
    replayState (es ++ events) = events.foldl Event.stateAfter (replayState es) :=
  List.foldl_append

/-- **Replaying a story gives the state.** -/
theorem replayState_eq (h : Told p id es state items) : replayState es = state := by
  induction h <;> first | rfl | simp_all [replayState_append, Event.stateAfter]

/-- A story has come to its end exactly if the instance is closed. -/
theorem any_isFinal (h : Told p id es state items) : es.any Event.isFinal = !state.isOpen := by
  induction h <;> simp_all [Event.isFinal, InstanceState.isOpen]

/-- Nothing is pending once the instance is closed. -/
theorem pending_of_closed (h : Told p id es state items) (hc : state.isOpen = false) :
    items = [] := by
  cases h <;> first | rfl | cases hc

/-- **The work items of a user step are those that have waited and are not
done**, and only user steps wait. -/
theorem balance (h : Told p id es state items) (ho : state.isOpen = true) (node : String) :
    Balanced p es items node := by
  -- induction on the grammar: an item comes with a wait and goes with a
  -- completion, and no automatic step stands at the node of a user step
  induction h with
  | opened => simp [Balanced, Event.waitsAt, Event.completesAt]
  | @worked es items e _ he hk ih =>
    have hne : p.isUserStep node = true → ¬ e.id = node := by
      rintro hn rfl
      simp [Workflow.isUserStep, he, hk] at hn
    obtain ⟨huser, hother⟩ := ih rfl
    refine ⟨fun hn => ?_, fun hn => ?_⟩
    · simpa [Event.waitsAt, Event.completesAt, hne hn] using huser hn
    · simpa [Event.waitsAt] using hother hn
  | @waited es items e item _ he hk hitem ih =>
    have hne : p.isUserStep node = false → ¬ e.id = node := by
      rintro hn rfl
      simp [Workflow.isUserStep, he, hk] at hn
    obtain ⟨huser, hother⟩ := ih rfl
    refine ⟨fun hn => ?_, fun hn => ?_⟩
    · have := huser hn
      simp [Event.waitsAt, Event.completesAt, hitem, List.countP_singleton]
      omega
    · simpa [Event.waitsAt, hitem, List.countP_singleton, hne hn] using hother hn
  | served _ hperm he ih =>
    refine (ih rfl).taken hperm ?_ (by simp [Event.waitsAt])
    simp [Event.completesAt, Workflow.id_of_element? he, List.countP_cons]
  | confirmed _ hperm he _ ih =>
    refine (ih rfl).taken hperm ?_ (by simp [Event.waitsAt])
    simp [Event.completesAt, Workflow.id_of_element? he, List.countP_cons]
  | gaveUp => cases ho
  | stopped => cases ho
  | finished => cases ho
  | suspended _ ih => simpa [Balanced, Event.waitsAt, Event.completesAt] using ih rfl
  | resumed _ ih => simpa [Balanced, Event.waitsAt, Event.completesAt] using ih rfl
  | terminated => cases ho

/-- No more is done than has waited. -/
theorem completes_le_waits {node : String} (h : Told p id es state items)
    (hn : p.isUserStep node = true) :
    es.countP (Event.completesAt node) ≤ es.countP (Event.waitsAt node) := by
  have hopen : ∀ {es state items}, Told p id es state items → state.isOpen = true →
      es.countP (Event.completesAt node) ≤ es.countP (Event.waitsAt node) := by
    intro es state items h ho
    have := (h.balance ho node).1 hn
    omega
  by_cases ho : state.isOpen = true
  · exact hopen h ho
  · -- the last thing told is of no work item
    cases h with
    | gaveUp h => simpa [Event.waitsAt, Event.completesAt] using hopen h rfl
    | stopped h => simpa [Event.waitsAt, Event.completesAt] using hopen h rfl
    | finished h => simpa [Event.waitsAt, Event.completesAt] using hopen h rfl
    | terminated h hopened => simpa [Event.waitsAt, Event.completesAt] using hopen h hopened
    | _ => exact absurd rfl ho

/-- **Replaying a story gives what is pending.** -/
theorem replayPending_eq (h : Told p id es state items) (node : String) :
    replayPending es node = items.countP (·.nodeId == node) := by
  rw [replayPending, h.any_isFinal]
  rcases ho : state.isOpen
  · rw [h.pending_of_closed ho]
    rfl
  · obtain ⟨huser, hother⟩ := h.balance ho node
    rw [if_neg (by simp)]
    rcases hn : p.isUserStep node
    · have := hother hn
      omega
    · have := huser hn
      omega

/-- A pending work item is one of a user step. -/
theorem isUserStep_of_mem (h : Told p id es state items) (hi : item ∈ items) :
    p.isUserStep item.nodeId = true := by
  have hpos : 0 < items.countP (·.nodeId == item.nodeId) :=
    List.countP_pos_iff.2 ⟨item, hi, by simp⟩
  by_contra hn
  rcases ho : state.isOpen
  · rw [h.pending_of_closed ho] at hi
    cases hi
  · have := (h.balance ho item.nodeId).2 (by simpa using hn)
    omega

/-! ## The order of a story -/

/-- A story begins with the start. -/
theorem head_eq (h : Told p id es state items) : ∃ key, es[0]? = some (.instanceStarted id key) := by
  have happend : ∀ {es events : List Event}, (∃ key, es[0]? = some (.instanceStarted id key)) →
      ∃ key, (es ++ events)[0]? = some (.instanceStarted id key) := by
    rintro es events ⟨key, hkey⟩
    exact ⟨key, getElem?_append_of_eq_some hkey events⟩
  induction h with
  | opened => exact ⟨_, rfl⟩
  | _ => exact happend (by assumption)

/-- **Pauses begin and end in turn**: one has begun exactly if the instance
is suspended. -/
theorem alternate (h : Told p id es state items) :
    Alternate id (es.filter Event.isPause) ∧
      (state = .active → (es.filter Event.isPause).length % 2 = 0) ∧
      (state = .suspended → (es.filter Event.isPause).length % 2 = 1) := by
  induction h with
  | opened => exact ⟨nofun, fun _ => rfl, nofun⟩
  | suspended _ ih =>
    obtain ⟨halt, hactive, -⟩ := ih
    have heven := hactive rfl
    rw [List.filter_append]
    refine ⟨halt.concat (by rw [if_pos heven]), nofun, fun _ => ?_⟩
    rw [List.length_append, List.filter_cons_of_pos rfl]
    show (_ + 1) % 2 = 1
    omega
  | resumed _ ih =>
    obtain ⟨halt, -, hpaused⟩ := ih
    have hodd := hpaused rfl
    rw [List.filter_append]
    refine ⟨halt.concat (by rw [if_neg (by omega)]), fun _ => ?_, nofun⟩
    rw [List.length_append, List.filter_cons_of_pos rfl]
    show (_ + 1) % 2 = 0
    omega
  | _ => simp_all [Event.isPause]

/-- What was told before the end of a closed story has no end. -/
theorem exists_ending (h : Told p id es state items) (hc : state.isOpen = false) :
    ∃ init v, es = init ++ [v] ∧ init.any Event.isFinal = false := by
  cases h with
  | @gaveUp es items node error operationId? h =>
    refine ⟨es ++ [.stepStarted id node operationId?, .stepFailed id node error], _,
      by rw [List.append_assoc]; rfl, ?_⟩
    rw [List.any_append, h.any_isFinal]
    rfl
  | stopped h => exact ⟨_, _, rfl, h.any_isFinal⟩
  | finished h => exact ⟨_, _, rfl, h.any_isFinal⟩
  | terminated h ho => exact ⟨_, _, rfl, by rw [h.any_isFinal, ho]; rfl⟩
  | _ => cases hc

/-- **Nothing is told after the end.** -/
theorem ending (h : Told p id es state items) {k : Nat} {v : Event} (hv : es[k]? = some v)
    (hfinal : v.isFinal = true) : es[k + 1]? = none := by
  have hany : ∀ {es : List Event}, es.any Event.isFinal = false → es[k]? ≠ some v := by
    intro es hes hv
    have := List.any_eq_false.1 hes v (List.mem_of_getElem? hv)
    exact this hfinal
  rcases ho : state.isOpen
  · -- no end stands before the last event, so this one is the last
    obtain ⟨init, w, rfl, hinit⟩ := h.exists_ending ho
    refine List.getElem?_eq_none ?_
    rcases Nat.lt_or_ge k init.length with hk | hk
    · rw [List.getElem?_append_left hk] at hv
      exact absurd hv (hany hinit)
    · simp
      omega
  · exact absurd hv (hany (by rw [h.any_isFinal, ho]; rfl))

end Told

/-! ## Neighbours in a story -/

namespace Placed

variable {p : Workflow} {id : String} {es events : List Event} {k : Nat} {v : Event}

/-- What stands next to an event stays there. -/
theorem append (h : Placed p id es k v) (hk : k < es.length) (events : List Event) :
    Placed p id (es ++ events) k v := by
  have hnext : ∀ {j : Nat} {w : Event}, es[j]? = some w → (es ++ events)[j]? = some w :=
    fun hj => getElem?_append_of_eq_some hj events
  cases v with
  | instanceStarted => exact h
  | stepStarted => exact h.imp hnext fun ⟨error, herror⟩ => ⟨error, hnext herror⟩
  | stepFailed => exact hnext h
  | stepCompleted =>
    refine h.imp (fun ⟨j, operationId?, hj, hstart⟩ => ⟨j, operationId?, hj, hnext hstart⟩) ?_
    rw [List.take_append_of_le_length (Nat.le_of_lt hk)]
    exact fun h => h
  | _ => trivial

/-- Events are placed one after the other. -/
theorem of_append (h : ∀ k v, es[k]? = some v → Placed p id es k v)
    (hnew : ∀ k v, events[k]? = some v → Placed p id (es ++ events) (es.length + k) v) :
    ∀ k v, (es ++ events)[k]? = some v → Placed p id (es ++ events) k v := by
  intro k v hv
  rcases Nat.lt_or_ge k es.length with hk | hk
  · rw [List.getElem?_append_left hk] at hv
    exact (h k v hv).append hk events
  · rw [List.getElem?_append_right hk] at hv
    have := hnew (k - es.length) v hv
    rwa [Nat.add_sub_of_le hk] at this

/-- A last event is placed if it may come last. -/
theorem concat (h : ∀ k v, es[k]? = some v → Placed p id es k v)
    (hv : Placed p id (es ++ [v]) es.length v) :
    ∀ k w, (es ++ [v])[k]? = some w → Placed p id (es ++ [v]) k w := by
  refine of_append h fun k w hw => ?_
  rcases k with _ | k
  · cases hw
    exact hv
  · cases hw

/-- A step that starts and is done is placed. -/
theorem step (h : ∀ k v, es[k]? = some v → Placed p id es k v) (node : String)
    (operationId? : Option String) :
    ∀ k v, (es ++ [.stepStarted id node operationId?, .stepCompleted id node])[k]? = some v →
      Placed p id (es ++ [.stepStarted id node operationId?, .stepCompleted id node]) k v := by
  refine of_append h fun k v hv => ?_
  rcases k with _ | _ | k <;> cases hv
  · exact Or.inl (getElem?_append_length_add es _ 1)
  · exact Or.inl ⟨es.length, operationId?, rfl, getElem?_append_length_add es _ 0⟩

/-- A step that starts and fails with its instance is placed. -/
theorem failure (h : ∀ k v, es[k]? = some v → Placed p id es k v) (node error : String)
    (operationId? : Option String) :
    ∀ k v, (es ++ [.stepStarted id node operationId?, .stepFailed id node error,
        .instanceFailed id error])[k]? = some v →
      Placed p id (es ++ [.stepStarted id node operationId?, .stepFailed id node error,
        .instanceFailed id error]) k v := by
  refine of_append h fun k v hv => ?_
  rcases k with _ | _ | _ | k <;> cases hv
  · exact Or.inr ⟨error, getElem?_append_length_add es _ 1⟩
  · exact getElem?_append_length_add es _ 2
  · trivial

end Placed

/-- **Every event of a story has its neighbours.** -/
theorem Told.placed {p : Workflow} {id : String} {es : List Event} {state : InstanceState}
    {items : List WorkItem} (h : Told p id es state items) :
    ∀ k v, es[k]? = some v → Placed p id es k v := by
  -- what was told before keeps its neighbours, so each rule has only to
  -- place what it adds
  induction h with
  | opened =>
    intro k v hv
    rcases k with _ | k <;> cases hv
    exact rfl
  | worked _ _ _ ih => exact Placed.step ih _ _
  | waited _ _ _ _ _ ih => exact Placed.concat ih trivial
  | served _ _ _ ih => exact Placed.step ih _ _
  | @confirmed es items others e item h hperm he hop ih =>
    refine Placed.concat ih (Or.inr ?_)
    have hid : e.id = item.nodeId := Workflow.id_of_element? he
    have hmem : item ∈ items := hperm.mem_iff.2 List.mem_cons_self
    have huser := h.isUserStep_of_mem hmem
    rw [Workflow.isUserStep, he] at huser
    rw [hid, List.take_left' rfl, h.replayPending_eq]
    exact ⟨⟨e, he, huser, hop⟩, List.countP_pos_iff.2 ⟨item, hmem, by simp⟩⟩
  | gaveUp _ ih => exact Placed.failure ih _ _ _
  | stopped _ ih => exact Placed.concat ih trivial
  | finished _ ih => exact Placed.concat ih trivial
  | suspended _ ih => exact Placed.concat ih trivial
  | resumed _ ih => exact Placed.concat ih trivial
  | terminated _ _ ih => exact Placed.concat ih trivial

/-- **What the grammar allows is a story.** -/
theorem Told.story {i : Instance} {es : List Event}
    (h : Told i.workflow i.id es i.state i.pending) : Story i es where
  opening k := by
    refine ⟨fun ⟨key, hkey⟩ => h.placed k _ hkey, ?_⟩
    rintro rfl
    exact h.head_eq
  started k _ _ hk := h.placed k _ hk
  failed k _ _ hk := h.placed k _ hk
  completed k _ hk := h.placed k _ hk
  pauses := h.alternate.1
  ending _ _ hv hfinal := h.ending hv hfinal
  state_eq := h.replayState_eq
  pending_eq node := (h.replayPending_eq node).symm
  balanced _ hn := h.completes_le_waits hn

namespace Run

variable {s : Surroundings} {r : Run} {e : Workflow.Element} {base : List Event}
variable {o : Except Failure Unit × Run}

/-! ## A run goes on with the story -/

/-- What the instance has told before the run and what it has told since
are one story. -/
def Tells (base : List Event) (r : Run) : Prop :=
  Told r.inst.workflow r.inst.id (base ++ r.emitted.reverse) r.inst.state r.inst.pending

theorem tells_fail (h : r.Tells base) (hactive : r.inst.state = .active) (f : Failure) :
    (r.fail f).Tells base := by
  rw [Tells, hactive] at h
  simpa [Tells, fail, emit] using h.stopped

theorem tells_gaveUp {items : List WorkItem}
    (h : Told r.inst.workflow r.inst.id (base ++ r.emitted.reverse) .active items)
    (e : Workflow.Element) (c : Operation.Context) (f : Failure) :
    ((r.interrupted e c f).fail f).Tells base := by
  simpa [Tells, interrupted, fail, emit] using h.gaveUp

theorem tells_settle (h : r.Tells base) : r.settle.Tells base := by
  unfold settle
  split
  · next hs =>
    rw [Tells, hs.1, List.isEmpty_iff.1 hs.2] at h
    simpa [Tells, emit, List.isEmpty_iff.1 hs.2] using h.finished
  · exact h

/-- **A visit goes on with the story.** -/
theorem Visited.tells (hv : Visited s r e o) (h : r.Tells base) (hactive : r.inst.state = .active)
    (he : r.inst.workflow.element? e.id = some e) : o.2.Tells base := by
  have htold := h
  rw [Tells, hactive] at htold
  cases hv with
  | ended => exact h
  | passed => exact h
  | worked hk =>
    have hnot : e.kind.isUserTask = false := by
      cases hkind : e.kind <;> simp_all [Workflow.ElementKind.isAutomatic,
        Workflow.ElementKind.isUserTask]
    simpa [Tells, Run.worked, follow, hactive] using htold.worked he hnot
  | @gaveUp c f => exact tells_gaveUp htold e c f
  | parked hk =>
    let item : WorkItem := ⟨identifier r.drawn, e.id, e.name?, e.operationId?⟩
    simpa [Tells, park, emit, hactive] using htold.waited item he hk rfl
  | joined =>
    rw [join_eq]
    split
    · split <;> exact h
    · exact h
  | chose => exact h
  | stuck => exact tells_fail h hactive _

/-- **What a run carries along** is the story of its instance. -/
theorem carries_tells (s : Surroundings) (base : List Event) :
    Carries s (fun _ r => r.Tells base ∧ r.inst.state = .active) (fun _ o => o.2.Tells base) where
  pop h _ := h
  visit h he hv := ⟨hv.tells h.1 h.2 he, (hv.lawful h.2 rfl).state_eq⟩
  gaveUp h he hv := hv.tells h.1 h.2 he
  settle h _ := tells_settle h.1
  limit h _ := tells_fail h.1 h.2 _
  lost {_ r _ rest f} h _ _ _ := tells_fail (r := r.pop rest) h.1 h.2 f

/-- **The completion of a work item goes on with the story** that was told
while the item was pending. -/
theorem Handled.tells {items : List WorkItem} {item : WorkItem} (ho : Handled s r e o)
    (h : Told r.inst.workflow r.inst.id (base ++ r.emitted.reverse) .active items)
    (hperm : items.Perm (item :: r.inst.pending)) (hactive : r.inst.state = .active)
    (he : r.inst.workflow.element? item.nodeId = some e) : o.2.Tells base := by
  cases ho with
  | confirmed hop => simpa [Tells, emit, follow, hactive] using h.confirmed hperm he hop
  | served => simpa [Tells, worked, follow, hactive] using h.served hperm he
  | @gaveUp c f => exact tells_gaveUp h e c f

theorem tells_resume (s : Surroundings) {items : List WorkItem} {item : WorkItem}
    (h : Told r.inst.workflow r.inst.id (base ++ r.emitted.reverse) .active items)
    (hperm : items.Perm (item :: r.inst.pending)) (hactive : r.inst.state = .active) :
    (r.resume s item).2.Tells base := by
  refine (carries_tells s base).resume []
    (fun e r' he ho => ⟨ho.tells h hperm hactive he, ?_⟩)
    (fun e f r' he ho => ho.tells h hperm hactive he) fun f _ _ => ?_
  · cases ho <;> exact hactive
  · simpa [Tells, fail, emit] using h.stopped

end Run

namespace Engine

open Operation (Library)

/-! ## Every call goes on with the story -/

/-- The events of an instance are one story, which tells its state and
what is pending. -/
def Tells (es : List Event) (i : Instance) : Prop := Told i.workflow i.id es i.state i.pending

theorem kept_tells : Kept (fun _ => True) Tells where
  opened {e key p vars o} _ _ ho := by
    have h : (e.opening key p vars).Tells [] := Told.opened
    exact ho ▸ (Run.carries_tells e.surroundings []).advance [] ⟨h, rfl⟩
  resumed {e i es name vars item others o} _ h hactive ht ho := by
    rw [Tells, hactive] at h
    -- the run begins without the item, the story still has it pending
    have hbase : Told i.workflow i.id (es ++ (e.resuming i others vars).emitted.reverse) .active
        i.pending := by rwa [resuming, List.reverse_nil, List.append_nil]
    exact ho ▸ Run.tells_resume (r := e.resuming i others vars) e.surroundings hbase
      (perm_takeItem? ht) hactive
  suspended h hactive := by
    rw [Tells, hactive] at h
    exact h.suspended
  reactivated h hpaused := by
    rw [Tells, hpaused] at h
    exact h.resumed
  terminated h ho := Told.terminated h ho

/-- **The events of an instance tell its story**, after any turns: where it
starts, what comes next to each step, how its pauses begin and end and that
nothing comes after its end. Replaying them gives its state and how many
items are pending at each node. -/
theorem events_tell_story (library : Library) (stepLimit drawn now : Nat) (turns : List Turn) :
    let e := (new library stepLimit drawn now).after turns
    ∀ i ∈ e.instances, Story i (eventsOf i.id e.log) := by
  intro e i hi
  have hupheld : e.Upholds Tells := kept_tells.after trivial fun _ _ _ => trivial
  exact Told.story (hupheld.holds i hi)

/-- A rated review is started, suspended, resumed and checked. -/
def checkedReview : List Turn :=
  [.call (.deploy ratedReviewWorkflow), .call (.start "rated" []), .call (.suspend (identifier 1)),
    .call (.resume (identifier 1)), .call (.complete (identifier 1) "check" [])]

/-- The check of the rated review fails, as its operation is unknown. -/
theorem rated_review_story :
    let e := (new {} 10 0 0).after checkedReview
    ∃ i ∈ e.instances, i.state = .failed ∧ Story i (eventsOf i.id e.log) ∧
      eventsOf i.id e.log =
        [.instanceStarted i.id "rated", .waitingForUser i.id "check" (identifier 2),
          .instanceSuspended i.id, .instanceResumed i.id, .stepStarted i.id "check" (some "Rate"),
          .stepFailed i.id "check" "Unknown operation: Rate",
          .instanceFailed i.id "Unknown operation: Rate"] := by
  intro e
  have hfound : (e.instance? (identifier 1)).map (·.state) = some .failed := by decide +kernel
  obtain ⟨i, hi, hstate⟩ := Option.map_eq_some_iff.1 hfound
  obtain ⟨hmem, hid⟩ := mem_of_instance? hi
  refine ⟨i, hmem, hstate, events_tell_story {} 10 0 0 checkedReview i hmem, ?_⟩
  rw [hid]
  decide +kernel

end Engine

end WorkflowCanvas
