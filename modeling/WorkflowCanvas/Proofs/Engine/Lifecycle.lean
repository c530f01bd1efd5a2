import WorkflowCanvas.Proofs.Engine.Roster
/-!
# The life of an instance

Between two calls an instance is settled: no token is left in its queue,
and it is open exactly if it waits for a user. Its detail is the text of
its failure or the reason of its termination. `Orderly` is the invariant
behind this, with the log as the record of the reasons; every call keeps
it. A suspended instance changes in nothing but its state until it is
active again, and one that is closed never changes.
-/


namespace WorkflowCanvas

namespace Instance

/-- The instance rests: it has no token, and it is open exactly if
something is pending. -/
structure Settled (i : Instance) : Prop where
  tokens_eq : i.tokens = []
  open_iff : i.state.isOpen = true ↔ i.pending ≠ []

/-- The detail of the instance is what its end calls for; the reason of a
termination is the one in the log. -/
def Explained (log : List Event) (i : Instance) : Prop :=
  match i.state with
  | .failed => i.detail?.isSome = true
  | .terminated => .instanceTerminated i.id i.detail? ∈ log
  | _ => i.detail? = none

theorem Explained.mono {log log' : List Event} {i : Instance} (h : i.Explained log)
    (hsub : ∀ v ∈ log, v ∈ log') : i.Explained log' := by
  unfold Explained at h ⊢
  split at h
  · exact h
  · exact hsub _ h
  · exact h

/-- Nothing is said of an instance that is open or completed. -/
theorem explained_iff {log : List Event} {i : Instance} (hf : i.state ≠ .failed)
    (ht : i.state ≠ .terminated) : i.Explained log ↔ i.detail? = none := by
  unfold Explained
  split
  · contradiction
  · contradiction
  · exact Iff.rfl

end Instance

namespace Run

variable {r : Run} {f : Failure} {log : List Event}

theorem Rested.settled (h : r.Rested) : r.inst.Settled := by
  refine ⟨h.tokens_eq, ?_⟩
  rcases h.at_rest with ⟨hs, hp⟩ | ⟨hs, hp⟩ <;> simp [hs, hp, InstanceState.isOpen]

theorem FailedWith.settled (h : r.FailedWith f) : r.inst.Settled :=
  ⟨h.tokens_eq, by simp [h.state_eq, h.pending_eq, InstanceState.isOpen]⟩

theorem Rested.explained (h : r.Rested) : r.inst.Explained log := by
  rcases h.at_rest with ⟨hs, -⟩ | ⟨hs, -⟩ <;> simp [Instance.Explained, hs, h.detail_eq]

theorem FailedWith.explained (h : r.FailedWith f) : r.inst.Explained log := by
  simp [Instance.Explained, h.state_eq, h.detail_eq]

/-- **A run leaves its instance settled**, however it ends. -/
theorem Ends.settled {o : Except Failure Unit × Run} (h : Ends o) : o.2.inst.Settled := by
  rcases o with ⟨f | ⟨⟩, r⟩
  · exact FailedWith.settled h
  · exact Rested.settled h

theorem Ends.explained {o : Except Failure Unit × Run} (h : Ends o) : o.2.inst.Explained log := by
  rcases o with ⟨f | ⟨⟩, r⟩
  · exact FailedWith.explained h
  · exact Rested.explained h

end Run

namespace Engine

open Operation (Library)

variable {e e' : Engine} {i j : Instance} {c : Call} {ms : List Mark}
variable {x : Except Failure Answer × Engine}

/-! ## The invariant -/

/-- **What holds of an engine between calls.** -/
structure Orderly (e : Engine) : Prop where
  numbered : e.Numbered
  settled : ∀ i ∈ e.instances, i.Settled
  explained : ∀ i ∈ e.instances, i.Explained e.log
  /-- A termination in the log is that of a terminated instance. -/
  terminated : ∀ id reason?, .instanceTerminated id reason? ∈ e.log →
    ∃ i ∈ e.instances, i.id = id ∧ i.state = .terminated ∧ i.detail? = reason?

/-- Nothing is said of an open instance. -/
theorem Orderly.detail_eq_none (h : e.Orderly) (hi : i ∈ e.instances)
    (ho : i.state.isOpen = true) : i.detail? = none := by
  refine (Instance.explained_iff ?_ ?_).1 (h.explained i hi)
  · rintro hs
    simp [hs, InstanceState.isOpen] at ho
  · rintro hs
    simp [hs, InstanceState.isOpen] at ho

/-- The invariant when a call has touched one instance: `hkeep` is what
keeps the terminations logged so far true, `hnew` those of the call. -/
theorem Orderly.update (h : e.Orderly) (hn : e'.Numbered) (events : List Event)
    (hlog : e'.log = events ++ e.log)
    (hmem : ∀ j ∈ e'.instances, j = i ∨ j ∈ e.instances)
    (hkeep : ∀ j ∈ e.instances, j.state = .terminated → j ∈ e'.instances)
    (hset : i.Settled) (hexp : i.Explained e'.log)
    (hnew : ∀ id reason?, .instanceTerminated id reason? ∈ events →
      ∃ j ∈ e'.instances, j.id = id ∧ j.state = .terminated ∧ j.detail? = reason?) :
    e'.Orderly := by
  have hsub : ∀ v ∈ e.log, v ∈ e'.log := fun v hv => hlog ▸ List.mem_append_right events hv
  refine ⟨hn, fun j hj => ?_, fun j hj => ?_, fun id reason? hv => ?_⟩
  · rcases hmem j hj with rfl | hold
    · exact hset
    · exact h.settled j hold
  · rcases hmem j hj with rfl | hold
    · exact hexp
    · exact (h.explained j hold).mono hsub
  · rw [hlog, List.mem_append] at hv
    rcases hv with hv | hv
    · exact hnew id reason? hv
    · obtain ⟨j, hj, hid, hstate, hdetail⟩ := h.terminated id reason? hv
      exact ⟨j, hkeep j hj hstate, hid, hstate, hdetail⟩

/-- Replacing an instance leaves those in other states. -/
theorem mem_replace_of_state (h : e.Numbered) (hi : i ∈ e.instances) (hid : j.id = i.id)
    {k : Instance} (hk : k ∈ e.instances) (hne : k.state ≠ i.state) :
    k ∈ (e.replace j).instances := by
  refine (mem_replace ⟨i, hi, hid.symm⟩).2 (Or.inr ⟨hk, fun heq => hne ?_⟩)
  rw [h.eq_of_id_eq hk hi (heq.trans hid)]

theorem mem_move (hi : i ∈ e.instances) (hid : j.id = i.id) {v : Event} {k : Instance} :
    k ∈ (e.move j v).instances ↔ k = j ∨ k ∈ e.instances ∧ k.id ≠ i.id :=
  hid ▸ mem_replace ⟨i, hi, hid.symm⟩

theorem mem_move_of_state (h : e.Numbered) (hi : i ∈ e.instances) (hid : j.id = i.id) {v : Event}
    {k : Instance} (hk : k ∈ e.instances) (hne : k.state ≠ i.state) :
    k ∈ (e.move j v).instances :=
  mem_replace_of_state h hi hid hk hne

/-- The log of a call that runs an instance has no termination in what it
adds. -/
theorem not_terminated_of_isProgress {v : Event} (h : v.isProgress = true) (id : String)
    (reason? : Option String) : v ≠ .instanceTerminated id reason? := by
  rintro rfl
  cases h

/-- Moving an open instance keeps the invariant. -/
theorem Orderly.move (h : e.Orderly) (hi : i ∈ e.instances) (ho : i.state.isOpen = true)
    (hid : j.id = i.id) {v : Event} (hset : j.Settled) (hexp : j.Explained (v :: e.log))
    (hv : ∀ id reason?, v = .instanceTerminated id reason? →
      j.id = id ∧ j.state = .terminated ∧ j.detail? = reason?) :
    (e.move j v).Orderly := by
  refine h.update (h.numbered.move j v) [v] rfl
    (fun k hk => ((mem_move hi hid).1 hk).imp_right And.left) (fun k hk hstate => ?_) hset hexp ?_
  · refine mem_move_of_state h.numbered hi hid hk fun heq => ?_
    rw [← heq, hstate] at ho
    cases ho
  · intro id reason? hterm
    exact ⟨j, (mem_move hi hid).2 (Or.inl rfl), hv id reason? (List.mem_singleton.1 hterm).symm⟩

/-- Moving an open instance to an open state keeps the invariant. -/
theorem Orderly.move_open (h : e.Orderly) (hi : i ∈ e.instances) (ho : i.state.isOpen = true)
    {s : InstanceState} (hs : s.isOpen = true) {v : Event}
    (hv : ∀ id reason?, v ≠ .instanceTerminated id reason?) :
    (e.move { i with state := s } v).Orderly := by
  have hset := h.settled i hi
  have hdetail : i.detail? = none := h.detail_eq_none hi ho
  refine h.move (j := { i with state := s }) hi ho rfl ⟨hset.tokens_eq, ?_⟩ ?_
    fun id reason? heq => absurd heq (hv id reason?)
  · exact iff_of_true hs (hset.open_iff.1 ho)
  · exact (Instance.explained_iff (by rintro rfl; cases hs) (by rintro rfl; cases hs)).2 hdetail

section Runs

variable {key : String} {p : Workflow} {vars : Table Json} {o : Except Failure Unit × Run}
variable {item : WorkItem} {others : List WorkItem}

theorem Orderly.start (h : e.Orderly)
    (ho : (e.opening key p vars).advance e.surroundings = o) :
    ((e.enrol (e.opening key p vars).inst).takeBack o.2).Orderly := by
  have hends := ends_started ho
  have hnum := numbered_started h.numbered ho
  obtain ⟨events, hev, hown⟩ := (extends_started ho).emitted_eq
  have hinst := instances_started h.numbered ho
  refine h.update (i := o.2.inst) hnum o.2.emitted rfl (fun k hk => ?_)
    (fun k hk _ => ?_) hends.settled hends.explained fun id reason? hv => ?_
  · rw [hinst, List.mem_append, List.mem_singleton] at hk
    exact hk.symm
  · rw [hinst]
    exact List.mem_append_left _ hk
  · rw [hev, List.mem_append] at hv
    rcases hv with hv | hv
    · exact absurd rfl (not_terminated_of_isProgress (hown _ hv).2 id reason?)
    · cases List.mem_singleton.1 hv

/-- A completion ends at rest or failed. -/
theorem Orderly.ends_resumed (h : e.Orderly) (hi : i ∈ e.instances) (hactive : i.state = .active)
    (ho : (e.resuming i others vars).resume e.surroundings item = o) : Run.Ends o := by
  have hdetail : i.detail? = none := h.detail_eq_none hi (by rw [hactive]; rfl)
  exact ho ▸ Run.ends_resume e.surroundings item ⟨hactive, hdetail⟩

theorem Orderly.complete (h : e.Orderly) (hi : i ∈ e.instances) (hactive : i.state = .active)
    (ho : (e.resuming i others vars).resume e.surroundings item = o) :
    (e.takeBack o.2).Orderly := by
  have hends := h.ends_resumed hi hactive ho
  have hext := extends_resumed ho
  have hnum := numbered_resumed h.numbered ho
  obtain ⟨events, hev, hown⟩ := hext.emitted_eq
  refine h.update (i := o.2.inst) hnum o.2.emitted rfl
    (fun k hk => ((mem_resumed hi ho).1 hk).imp_right And.left)
    (fun k hk hstate => ?_) hends.settled hends.explained fun id reason? hv => ?_
  · exact mem_replace_of_state h.numbered hi hext.id_eq hk (by simp [hstate, hactive])
  · rw [hev, List.mem_append] at hv
    rcases hv with hv | hv
    · exact absurd rfl (not_terminated_of_isProgress (hown _ hv).2 id reason?)
    · cases hv

end Runs

/-- **Every call keeps the invariant.** -/
theorem Effect.orderly (hx : Effect e c ms x) (h : e.Orderly) : x.2.Orderly := by
  cases hx with
  | refused => exact h
  | asked => exact h
  | deployed =>
    refine ⟨h.numbered.install _, h.settled,
      fun i hi => (h.explained i hi).mono fun v hv => List.mem_cons_of_mem _ hv,
      fun id reason? hv => ?_⟩
    rcases List.mem_cons.1 hv with hv | hv
    · cases hv
    · exact h.terminated id reason? hv
  | started _ ho => exact h.start ho
  | resumed hi hactive _ ho => exact h.complete (mem_of_instance? hi).1 hactive ho
  | suspended hi hs => exact h.move_open (mem_of_instance? hi).1 (by rw [hs]; rfl) rfl (by simp)
  | reactivated hi hs => exact h.move_open (mem_of_instance? hi).1 (by rw [hs]; rfl) rfl (by simp)
  | @terminated id reason? i hi ho =>
    obtain ⟨hi, hid⟩ := mem_of_instance? hi
    refine h.move
      (j := { i with state := .terminated, detail? := reason?, tokens := [], pending := [] })
      hi ho rfl ⟨rfl, by simp [InstanceState.isOpen]⟩ ?_ ?_
    · rw [← hid]
      exact List.mem_cons_self
    · rintro _ _ ⟨⟩
      exact ⟨hid, rfl, rfl⟩

theorem orderly_turn (e : Engine) (t : Turn) (h : e.Orderly) : (e.turn t).Orderly := by
  cases t with
  | call c => exact (effect_perform e c).orderly h
  | lend => exact ⟨numbered_turn e _ h.numbered, h.settled, h.explained, h.terminated⟩

theorem orderly_after (library : Library) (stepLimit drawn now : Nat) (turns : List Turn) :
    ((new library stepLimit drawn now).after turns).Orderly :=
  after_induct orderly_turn
    ⟨numbered_new library stepLimit drawn now, by simp, by simp, by simp [new]⟩ turns

/-- **The detail tells the end**: there is one exactly if the instance has
failed, or was terminated for a reason. -/
theorem Orderly.detail_iff (h : e.Orderly) (hi : i ∈ e.instances) :
    i.detail?.isSome = true ↔ i.state = .failed ∨
      i.state = .terminated ∧ ∃ reason, .instanceTerminated i.id (some reason) ∈ e.log := by
  have hexp := h.explained i hi
  constructor
  · intro hsome
    by_cases hf : i.state = .failed
    · exact Or.inl hf
    · by_cases ht : i.state = .terminated
      · obtain ⟨reason, hreason⟩ := Option.isSome_iff_exists.1 hsome
        rw [Instance.Explained, ht] at hexp
        exact Or.inr ⟨ht, reason, hreason ▸ hexp⟩
      · rw [(Instance.explained_iff hf ht).1 hexp] at hsome
        cases hsome
  · rintro (hf | ⟨-, reason, hlog⟩)
    · rwa [Instance.Explained, hf] at hexp
    · obtain ⟨j, hj, hid, -, hdetail⟩ := h.terminated _ _ hlog
      rw [h.numbered.eq_of_id_eq hi hj hid.symm, hdetail]
      rfl

/-! ## What later calls leave -/

/-- **No call touches an instance that is closed.** -/
theorem Effect.mem_of_closed (hx : Effect e c ms x) (h : e.Numbered) (hi : i ∈ e.instances)
    (hc : i.state.isOpen = false) : i ∈ x.2.instances := by
  -- every instance that a call touches is open
  have hne : ∀ {j : Instance}, j.state.isOpen = true → i.state ≠ j.state := by
    intro j hj heq
    rw [heq, hj] at hc
    cases hc
  cases hx with
  | refused => exact hi
  | asked => exact hi
  | deployed => exact hi
  | started _ ho =>
    rw [instances_started h ho]
    exact List.mem_append_left _ hi
  | resumed hj hs _ ho =>
    exact mem_replace_of_state h (mem_of_instance? hj).1 (extends_resumed ho).id_eq hi
      (hne (by rw [hs]; rfl))
  | suspended hj hs =>
    exact mem_move_of_state h (mem_of_instance? hj).1 (by rfl) hi (hne (by rw [hs]; rfl))
  | reactivated hj hs =>
    exact mem_move_of_state h (mem_of_instance? hj).1 (by rfl) hi (hne (by rw [hs]; rfl))
  | terminated hj ho =>
    exact mem_move_of_state h (mem_of_instance? hj).1 (by rfl) hi (hne ho)

theorem mem_turn_of_closed (t : Turn) (h : e.Numbered) (hi : i ∈ e.instances)
    (hc : i.state.isOpen = false) : i ∈ (e.turn t).instances := by
  cases t with
  | call c => exact (effect_perform e c).mem_of_closed h hi hc
  | lend => exact hi

theorem mem_after_of_closed (turns : List Turn) (h : e.Numbered) (hi : i ∈ e.instances)
    (hc : i.state.isOpen = false) : i ∈ (e.after turns).instances :=
  (after_induct (motive := fun e => e.Numbered ∧ i ∈ e.instances)
    (fun e t he => ⟨numbered_turn e t he.1, mem_turn_of_closed t he.1 he.2 hc⟩) ⟨h, hi⟩ turns).2

/-- **A suspended instance stays as it is** but for its state, unless it is
terminated. -/
theorem Effect.mem_of_suspended (hx : Effect e c ms x) (h : e.Numbered) (hi : i ∈ e.instances)
    (hs : i.state = .suspended) :
    ∃ j ∈ x.2.instances, j.id = i.id ∧
      (j.state = .suspended ∨ j.state = .active → j = { i with state := j.state }) := by
  cases hx with
  | refused => exact ⟨i, hi, rfl, fun _ => rfl⟩
  | asked => exact ⟨i, hi, rfl, fun _ => rfl⟩
  | deployed => exact ⟨i, hi, rfl, fun _ => rfl⟩
  | started _ ho =>
    refine ⟨i, ?_, rfl, fun _ => rfl⟩
    rw [instances_started h ho]
    exact List.mem_append_left _ hi
  | resumed hj hactive _ ho =>
    refine ⟨i, ?_, rfl, fun _ => rfl⟩
    exact mem_replace_of_state h (mem_of_instance? hj).1 (extends_resumed ho).id_eq hi
      (by simp [hs, hactive])
  | suspended hj hactive =>
    refine ⟨i, ?_, rfl, fun _ => rfl⟩
    exact mem_move_of_state h (mem_of_instance? hj).1 (by rfl) hi (by simp [hs, hactive])
  | @reactivated _ k hk _ =>
    have hmem := (mem_of_instance? hk).1
    by_cases hid : i.id = k.id
    · rw [h.eq_of_id_eq hi hmem hid]
      exact ⟨_, (mem_move hmem (by rfl)).2 (Or.inl rfl), rfl, fun _ => rfl⟩
    · exact ⟨i, (mem_move hmem (by rfl)).2 (Or.inr ⟨hi, hid⟩), rfl, fun _ => rfl⟩
  | @terminated _ _ k hk _ =>
    have hmem := (mem_of_instance? hk).1
    by_cases hid : i.id = k.id
    · rw [h.eq_of_id_eq hi hmem hid]
      exact ⟨_, (mem_move hmem (by rfl)).2 (Or.inl rfl), rfl, by simp⟩
    · exact ⟨i, (mem_move hmem (by rfl)).2 (Or.inr ⟨hi, hid⟩), rfl, fun _ => rfl⟩

/-! ## Between calls -/

/-- **The life of an instance between calls.** After any turns, an
instance has no token, is active or suspended exactly if something is
pending, and has a detail exactly if it has failed or was terminated for a
reason. A call that leaves a suspended instance suspended, or resumes it,
changes nothing but its state. A completed, failed or terminated instance
is still there unchanged after any further turns. -/
theorem instances_between_calls (library : Library) (stepLimit drawn now : Nat)
    (turns : List Turn) :
    let e := (new library stepLimit drawn now).after turns
    (∀ i ∈ e.instances,
      i.tokens = [] ∧
      (i.state = .active ∨ i.state = .suspended ↔ i.pending ≠ []) ∧
      (i.detail?.isSome = true ↔ i.state = .failed ∨
        i.state = .terminated ∧ ∃ reason, .instanceTerminated i.id (some reason) ∈ e.log)) ∧
    (∀ (c : Call), ∀ i ∈ e.instances, i.state = .suspended →
      ∃ j, (e.perform c).2.instance? i.id = some j ∧
        (j.state = .suspended ∨ j.state = .active → j = { i with state := j.state })) ∧
    (∀ (later : List Turn), ∀ i ∈ e.instances,
      i.state = .completed ∨ i.state = .failed ∨ i.state = .terminated →
      (e.after later).instance? i.id = some i) := by
  intro e
  have h : e.Orderly := orderly_after library stepLimit drawn now turns
  have hnum : e.Numbered := h.numbered
  refine ⟨fun i hi => ⟨(h.settled i hi).tokens_eq, ?_, h.detail_iff hi⟩, fun c i hi hs => ?_,
    fun later i hi hc => ?_⟩
  · rw [← (h.settled i hi).open_iff]
    cases i.state <;> simp [InstanceState.isOpen]
  · have hx := effect_perform e c
    obtain ⟨j, hj, hid, hstate⟩ := hx.mem_of_suspended hnum hi hs
    exact ⟨j, (instance?_eq_some_iff (hx.numbered hnum)).2 ⟨hj, hid⟩, hstate⟩
  · have hclosed : i.state.isOpen = false := by
      rcases hc with hc | hc | hc <;> rw [hc] <;> rfl
    have hlater : (e.after later).Numbered := after_induct numbered_turn hnum later
    exact (instance?_eq_some_iff hlater).2 ⟨mem_after_of_closed later hnum hi hclosed, rfl⟩

/-- A workflow that waits for a review. -/
def reviewWorkflow : Workflow where
  id := "review"
  elements := [{ id := "begin", kind := .startEvent },
    { id := "check", kind := .userTask none [] none }, { id := "end", kind := .endEvent }]
  flows := [{ id := "a", source := "begin", target := "check" },
    { id := "b", source := "check", target := "end" }]

/-- An instance of the review is started and suspended. -/
def suspendedReview : List Turn :=
  [.call (.deploy reviewWorkflow), .call (.start "review" []), .call (.suspend (identifier 1))]

/-- The suspended review waits for its user and no token is left; resuming
it changes its state alone, and once it is terminated it stays. -/
theorem suspended_review_between_calls :
    let e := (new {} 10 0 0).after suspendedReview
    let e' := (new {} 10 0 0).after (suspendedReview ++ [.call (.terminate (identifier 1) "late")])
    (∃ i ∈ e.instances, i.state = .suspended ∧ i.tokens = [] ∧ i.pending ≠ [] ∧
      (e.perform (.resume (identifier 1))).2.instance? i.id = some { i with state := .active }) ∧
    ∃ i ∈ e'.instances, i.state = .terminated ∧ i.detail? = some "late" ∧
      (e'.after suspendedReview).instance? i.id = some i := by
  intro e e'
  obtain ⟨hrest, hkept, -⟩ := instances_between_calls {} 10 0 0 suspendedReview
  obtain ⟨-, -, hclosed⟩ := instances_between_calls {} 10 0 0
    (suspendedReview ++ [.call (.terminate (identifier 1) "late")])
  constructor
  · obtain ⟨i, hi⟩ : ∃ i, e.instances = [i] := ⟨_, rfl⟩
    have hmem : i ∈ e.instances := hi ▸ List.mem_singleton_self i
    have hstate : i.state = .suspended := by
      have : e.instances.map (·.state) = [.suspended] := rfl
      simpa [hi] using this
    have hid : i.id = identifier 1 := by
      have : e.instances.map (·.id) = [identifier 1] := rfl
      simpa [hi] using this
    obtain ⟨htokens, hopen, -⟩ := hrest i hmem
    obtain ⟨j, hj, hsame⟩ := hkept (.resume (identifier 1)) i hmem hstate
    have hactive : j.state = .active := by
      have hfound : ((e.perform (.resume (identifier 1))).2.instance? (identifier 1)).map
          (·.state) = some .active := rfl
      rw [hid] at hj
      have hmap := congrArg (Option.map fun i : Instance => i.state) hj
      exact Option.some.inj (hmap.symm.trans hfound)
    refine ⟨i, hmem, hstate, htokens, hopen.1 (Or.inr hstate), hj.trans ?_⟩
    rw [hsame (Or.inr hactive), hactive]
  · obtain ⟨i, hi⟩ : ∃ i, e'.instances = [i] := ⟨_, rfl⟩
    have hmem : i ∈ e'.instances := hi ▸ List.mem_singleton_self i
    have hends : e'.instances.map (fun i => (i.state, i.detail?)) = [(.terminated, some "late")] :=
      rfl
    have hend : i.state = .terminated ∧ i.detail? = some "late" := by simpa [hi] using hends
    exact ⟨i, hmem, hend.1, hend.2, hclosed suspendedReview i hmem (Or.inr (Or.inr hend.1))⟩

end Engine

end WorkflowCanvas
