import WorkflowCanvas.Proofs.Engine.Carry
import WorkflowCanvas.Proofs.Engine.Concern
import WorkflowCanvas.Proofs.Engine.Refusal
import WorkflowCanvas.Proofs.Operation.Dispatch
/-!
# What handlers see and what is reported

An instance holds its variables twice: in the store that handlers read and
write, and in the snapshot that conditions and reports read. If handlers
write by `set` alone, then a context knows all that was written to it
(`Context.Tracks`), so that the snapshot of an instance that has not failed
is its store (`Engine.kept_faithful`). A step that fails leaves the snapshot that
was there before it: a call gets from mark to mark, and each one that does
not fail leaves a snapshot of its own (`Run.Reaches`).
-/


namespace WorkflowCanvas

/-! ## Handlers that write by `set` -/

namespace Operation

/-- A context after some writes. -/
def Context.setAll (c : Context) (writes : List (String × Json)) : Context :=
  writes.foldl (fun c w => c.set w.1 w.2) c

/-- The handler writes by `set` alone. -/
def Handler.WritesBySet (h : Handler) : Prop := ∀ c, ∃ writes, (h c).2 = c.setAll writes

/-- The handlers of the library write by `set` alone. -/
def Library.WritesBySet (l : Library) : Prop :=
  ∀ ref h, l.catalog.find? ref = some (.handler h) → Handler.WritesBySet h

theorem Context.mem_written_set {c : Context} {key k : String} {value : Json} :
    k ∈ (c.set key value).written ↔ k ∈ c.written ∨ k = key := by
  by_cases hk : key ∈ c.written
  · have hw : (c.set key value).written = c.written := if_pos (by simpa using hk)
    rw [hw]
    constructor
    · exact Or.inl
    · rintro (hmem | rfl)
      · exact hmem
      · exact hk
  · have hw : (c.set key value).written = c.written ++ [key] := if_neg (by simpa using hk)
    rw [hw, List.mem_append, List.mem_singleton]

/-- **A context knows what was written to it**: the keys it lists have
values, and at all others it is as the table it began with. -/
structure Context.Tracks (table : Table Json) (c : Context) : Prop where
  sorted : c.store.Sorted
  written_isSome : ∀ k ∈ c.written, (c.store.get? k).isSome = true
  others_eq : ∀ k, k ∉ c.written → c.store.get? k = table.get? k

namespace Context.Tracks

variable {table : Table Json} {c : Context}

theorem set (h : c.Tracks table) (key : String) (value : Json) : (c.set key value).Tracks table := by
  refine ⟨h.sorted.insert key value, fun k hk => ?_, fun k hk => ?_⟩
  · by_cases heq : k = key
    · rw [heq, Context.set, Table.get?_insert_self]
      rfl
    · rw [Context.set, Table.get?_insert_of_ne _ _ heq]
      exact h.written_isSome k ((mem_written_set.1 hk).resolve_right heq)
  · rw [mem_written_set, not_or] at hk
    rw [Context.set, Table.get?_insert_of_ne _ _ hk.2]
    exact h.others_eq k hk.1

theorem setAll (h : c.Tracks table) (writes : List (String × Json)) :
    (c.setAll writes).Tracks table := by
  induction writes generalizing c with
  | nil => exact h
  | cons w ws ih => exact ih (h.set w.1 w.2)

end Context.Tracks

/-- **A dispatched operation is tracked**, whether it succeeds or not. -/
theorem Library.tracks_dispatch {l : Library} {table : Table Json} {c c' : Context}
    {result : Except Failure Unit} (hl : l.WritesBySet) (h : c.Tracks table)
    (hd : l.dispatch c = (result, c')) : c'.Tracks table := by
  cases l.route c.step with
  | broken f _ hall =>
    cases (hall c rfl).symm.trans hd
    exact h
  | ran operation ref handler href hall =>
    obtain ⟨writes, hwrites⟩ := hl ref handler href c
    cases (hall c rfl).symm.trans hd
    exact hwrites ▸ h.setAll writes

end Operation

open Operation (Context Handler Library)

/-! ## Snapshots -/

/-- The snapshot is the store. -/
structure Instance.Synced (i : Instance) : Prop where
  sorted : i.store.Sorted
  vars_eq : i.vars = i.store

namespace Instance.Synced

variable {i j : Instance}

/-- What leaves both alone keeps them together. -/
theorem of_eq (h : i.Synced) (hstore : j.store = i.store) (hvars : j.vars = i.vars) : j.Synced :=
  ⟨hstore ▸ h.sorted, hvars.trans (h.vars_eq.trans hstore.symm)⟩

theorem merge (h : i.Synced) (vars : Table Json) : (i.merge vars).Synced :=
  ⟨h.sorted.insertAll vars, by rw [Instance.merge, h.vars_eq]⟩

end Instance.Synced

/-- The snapshot is the store, unless the instance has failed. -/
def Instance.Faithful (i : Instance) : Prop := i.state ≠ .failed → i.Synced

namespace Run

variable {s : Surroundings} {r r' : Run} {e : Workflow.Element}

/-- What is taken over are the written keys. -/
theorem get?_absorb (store : Table Json) (written : List String) (vars : Table Json) (k : String) :
    (absorb store written vars).get? k =
      if k ∈ written then (store.get? k).or (vars.get? k) else vars.get? k := by
  induction written generalizing vars with
  | nil => rfl
  | cons key rest ih =>
    show (absorb store rest (vars.insertSome key (store.get? key))).get? k = _
    rw [ih, Table.get?_insertSome]
    by_cases hk : k = key
    · -- the key may have been written again later, then with the same value
      subst hk
      by_cases hrest : k ∈ rest <;> cases store.get? k <;> simp [hrest]
    · simp [hk]

theorem sorted_absorb {vars : Table Json} (h : vars.Sorted) (store : Table Json)
    (written : List String) : (absorb store written vars).Sorted := by
  induction written generalizing vars with
  | nil => exact h
  | cons key rest ih => exact ih (h.insertSome key (store.get? key))

/-- **Taking over what was written gives the store.** -/
theorem absorb_eq {vars : Table Json} {c : Context} (h : c.Tracks vars) (hs : vars.Sorted) :
    absorb c.store c.written vars = c.store := by
  -- sorted tables are equal if they agree at every key
  refine (sorted_absorb hs _ _).ext h.sorted fun k => ?_
  rw [get?_absorb]
  split
  · next hk =>
    obtain ⟨v, hv⟩ := Option.isSome_iff_exists.1 (h.written_isSome k hk)
    rw [hv]
    rfl
  · next hk => exact (h.others_eq k hk).symm

theorem tracks_stepContext (h : r.inst.Synced) (s : Surroundings) (e : Workflow.Element) :
    (r.stepContext s e).Tracks r.inst.vars :=
  ⟨h.sorted, fun _ hk => absurd hk List.not_mem_nil, fun k _ => by rw [h.vars_eq]; rfl⟩

/-- A step that succeeds takes over all that its handler wrote. -/
theorem synced_worked {c : Context} (hl : s.library.WritesBySet) (h : r.inst.Synced)
    (hd : s.library.dispatch (r.stepContext s e) = (.ok (), c)) : (r.worked e c).inst.Synced := by
  have htracks := Library.tracks_dispatch hl (tracks_stepContext h s e) hd
  refine ⟨htracks.sorted, absorb_eq htracks ?_⟩
  rw [h.vars_eq]
  exact h.sorted

theorem faithful_fail (r : Run) (f : Failure) : (r.fail f).inst.Faithful :=
  fun hne => absurd rfl hne

theorem synced_settle (h : r.inst.Synced) : r.settle.inst.Synced := by
  unfold settle
  split
  · exact h.of_eq rfl rfl
  · exact h

theorem Visited.synced (hv : Visited s r e (.ok (), r')) (hl : s.library.WritesBySet)
    (h : r.inst.Synced) : r'.inst.Synced := by
  cases hv with
  | ended => exact h
  | passed => exact h.of_eq rfl rfl
  | worked _ hd => exact (synced_worked hl h hd).of_eq rfl rfl
  | parked => exact h.of_eq rfl rfl
  | joined =>
    rw [join_eq]
    split
    · split <;> exact h.of_eq rfl rfl
    · exact h.of_eq rfl rfl
  | chose => exact h.of_eq rfl rfl

theorem Handled.synced (ho : Handled s r e (.ok (), r')) (hl : s.library.WritesBySet)
    (h : r.inst.Synced) : r'.inst.Synced := by
  cases ho with
  | confirmed => exact h.of_eq rfl rfl
  | served hd => exact (synced_worked hl h hd).of_eq rfl rfl

/-- A visit that gives up fails the instance, with the variables it had. -/
theorem Visited.stopped {f : Failure} (hv : Visited s r e (.error f, r')) :
    r'.inst.state = .failed ∧ r'.inst.vars = r.inst.vars := by
  cases hv <;> exact ⟨rfl, rfl⟩

theorem Handled.stopped {f : Failure} (ho : Handled s r e (.error f, r')) :
    r'.inst.state = .failed ∧ r'.inst.vars = r.inst.vars := by
  cases ho
  exact ⟨rfl, rfl⟩

/-- **A run keeps the snapshot and the store together** until it fails. -/
theorem carries_synced (hl : s.library.WritesBySet) :
    Carries s (fun _ r => r.inst.Synced) (fun _ o => o.2.inst.Faithful) where
  pop h _ := h.of_eq rfl rfl
  visit h _ hv := hv.synced hl h
  gaveUp _ _ hv := fun hne => absurd hv.stopped.1 hne
  settle h _ := fun _ => synced_settle h
  limit _ _ := faithful_fail _ _
  lost _ _ _ _ := faithful_fail _ _

/-! ## From mark to mark -/

/-- The snapshot that marks lead to: each one that did not fail leaves its
own. -/
def reached (vars : Table Json) (ms : List Mark) : Table Json :=
  ms.foldl (fun vars m => if m.failed then vars else m.after.vars) vars

theorem reached_concat (vars : Table Json) (ms : List Mark) (m : Mark) :
    reached vars (ms ++ [m]) = if m.failed then reached vars ms else m.after.vars := by
  rw [reached, List.foldl_append]
  rfl

/-- **The snapshot of a run that has ended** is the one that its marks lead
to; a mark that failed found it so and is the end. -/
structure Reaches (vars : Table Json) (ms : List Mark) (r : Run) : Prop where
  vars_eq : r.inst.vars = reached vars ms
  failed_eq : ∀ m ∈ ms, m.failed = true → m.after = r.inst ∧ m.before.vars = r.inst.vars

/-- The run is still on its way, with the snapshot that its marks lead to. -/
structure Reaching (vars : Table Json) (ms : List Mark) (r : Run) : Prop where
  active : r.inst.state = .active
  vars_eq : r.inst.vars = reached vars ms
  not_failed : ∀ m ∈ ms, m.failed = false

variable {vars : Table Json} {ms : List Mark} {item? : Option WorkItem}

theorem Reaching.reaches (h : Reaching vars ms r) (hvars : r'.inst.vars = r.inst.vars) :
    Reaches vars ms r' :=
  ⟨hvars.trans h.vars_eq, fun m hm hf => absurd hf (by simp [h.not_failed m hm])⟩

/-- A mark that does not fail leaves its own snapshot. -/
theorem Reaching.concat (h : ∀ m ∈ ms, m.failed = false) (hactive : r'.inst.state = .active) :
    Reaching vars (ms ++ [r.mark item? e (.ok (), r')]) r' := by
  have hm : (r.mark item? e (.ok (), r')).failed = false := not_failed_of_underway hactive
  refine ⟨hactive, by rw [reached_concat, hm]; rfl, fun m hmem => ?_⟩
  rcases List.mem_append.1 hmem with hmem | hmem
  · exact h m hmem
  · rw [List.mem_singleton.1 hmem]
    exact hm

/-- A mark that fails leaves the snapshot that it found. -/
theorem Reaches.concat {f : Failure} (h : ∀ m ∈ ms, m.failed = false)
    (hvars : r.inst.vars = reached vars ms)
    (hstop : r'.inst.state = .failed ∧ r'.inst.vars = r.inst.vars) :
    Reaches vars (ms ++ [r.mark item? e (.error f, r')]) r' := by
  have hm : (r.mark item? e (.error f, r')).failed = true := by simp [Mark.failed, mark, hstop.1]
  refine ⟨by rw [reached_concat, hm, hstop.2, hvars]; rfl, fun m hmem hf => ?_⟩
  rcases List.mem_append.1 hmem with hmem | hmem
  · rw [h m hmem] at hf
    cases hf
  · rw [List.mem_singleton.1 hmem]
    exact ⟨rfl, hstop.2.symm⟩

theorem carries_reached (s : Surroundings) (vars : Table Json) :
    Carries s (Reaching vars) (fun ms o => Reaches vars ms o.2) where
  pop h _ := ⟨h.active, h.vars_eq, h.not_failed⟩
  visit h _ hv := Reaching.concat h.not_failed (hv.lawful h.active rfl).state_eq
  gaveUp h _ hv := Reaches.concat h.not_failed h.vars_eq hv.stopped
  settle h _ := h.reaches (by unfold settle; split <;> rfl)
  limit h _ := h.reaches rfl
  lost h _ _ _ := h.reaches rfl

/-- The completion of a work item leads to a snapshot in the same way. -/
theorem reaches_resume (s : Surroundings) (item : WorkItem) (hactive : r.inst.state = .active) :
    Reaches r.inst.vars (r.resumeMarks s item) (r.resume s item).2 := by
  have hnone : ∀ m ∈ ([] : List Mark), m.failed = false := fun _ hm => absurd hm List.not_mem_nil
  refine (carries_reached s r.inst.vars).resume [] (fun e r' _ ho => ?_) (fun e f r' _ ho => ?_)
    fun f _ _ => ⟨rfl, fun _ hm => absurd hm List.not_mem_nil⟩
  · refine Reaching.concat hnone ?_
    cases ho <;> exact hactive
  · exact Reaches.concat hnone rfl ho.stopped

end Run

namespace Engine

/-! ## The variables of an engine's instances -/

theorem kept_faithful : Kept (fun s => s.library.WritesBySet) (fun _ i => i.Faithful) where
  opened {e key p vars o} hl _ ho := by
    have hempty : ({ id := identifier e.drawn, workflow := p } : Instance).Synced :=
      ⟨List.Pairwise.nil, rfl⟩
    have hopen : (e.opening key p vars).inst.Synced :=
      ⟨hempty.sorted.insertAll vars, rfl⟩
    exact ho ▸ (Run.carries_synced hl).advance [] hopen
  resumed {e i es name vars item others o} hl h hactive ht ho := by
    have hsynced : (e.resuming i others vars).inst.Synced :=
      ((h (by simp [hactive])).merge vars).of_eq rfl rfl
    refine ho ▸ (Run.carries_synced hl).resume [] (fun _ _ _ ho => ho.synced hl hsynced)
      (fun _ _ _ _ ho hne => absurd ho.stopped.1 hne) fun _ _ _ => Run.faithful_fail _ _
  suspended h hactive _ := (h (by simp [hactive])).of_eq rfl rfl
  reactivated h hpaused _ := (h (by simp [hpaused])).of_eq rfl rfl
  terminated h ho _ :=
    (h (by rintro hf; simp [hf, InstanceState.isOpen] at ho)).of_eq rfl rfl

/-- The variables that a call begins a run with: those of the instance, and
over them the ones that come with the call. -/
def entered (e : Engine) : Call → Table Json
  | .start _ vars => Table.insertAll [] vars
  | .complete id _ vars => Table.insertAll (((e.instance? id).map (·.vars)).getD []) vars
  | _ => []

variable {e : Engine} {c : Call} {ms : List Mark} {x : Except Failure Answer × Engine} {f : Failure}

/-- **A run that fails leaves the snapshot that it had reached.** -/
theorem Effect.reached (hx : Effect e c ms x) (h : e.Orderly) (hf : x.1 = .error f)
    (hrun : f.isRefusal = false) :
    ∃ i ∈ x.2.instances, x.2.FailedLast i f ∧ i.vars = Run.reached (e.entered c) ms ∧
      ∀ m ∈ ms, m.failed = true → m.after = i ∧ m.before.vars = i.vars := by
  cases hx with
  | refused href =>
    cases hf
    rw [href] at hrun
    cases hrun
  | asked => cases hf
  | deployed => cases hf
  | @started key vars p o _ ho =>
    have hreach : Run.Reaches (e.entered (.start key vars))
        ((e.opening key p vars).marks e.surroundings) o.2 :=
      ho ▸ (Run.carries_reached e.surroundings _).advance []
        ⟨rfl, rfl, fun _ hm => absurd hm List.not_mem_nil⟩
    refine ⟨o.2.inst, ?_, failedLast_takeBack (failedWith_of_error (ends_started ho) hf),
      hreach.vars_eq, hreach.failed_eq⟩
    rw [instances_started h.numbered ho]
    exact List.mem_append_right _ (List.mem_singleton_self _)
  | @resumed id name vars i item others o hi hactive _ ho =>
    have hmem := (mem_of_instance? hi).1
    have hends := h.ends_resumed hmem hactive ho
    -- the run begins with the snapshot of the instance and the variables
    -- that come with the completion over it
    have hreach := Run.reaches_resume (r := e.resuming i others vars) e.surroundings item hactive
    rw [ho] at hreach
    refine ⟨o.2.inst, (mem_resumed hmem ho).2 (Or.inl rfl),
      failedLast_takeBack (failedWith_of_error hends hf), ?_, hreach.failed_eq⟩
    rw [hreach.vars_eq, entered, hi]
    rfl
  | suspended => cases hf
  | reactivated => cases hf
  | terminated => cases hf

/-- **What is reported is what handlers see.** If handlers write by `set`
alone, then after any turns the snapshot of an instance that is active or
suspended is its store. A call that fails while it runs leaves the
snapshot it had reached: the variables that came with the call, and over
them what each step that succeeded has left; the step that failed found
it so. -/
theorem snapshots_follow_stores (library : Library) (stepLimit drawn now : Nat) (turns : List Turn)
    (hlibrary : library.WritesBySet)
    (hlend : ∀ library now, .lend library now ∈ turns → library.WritesBySet) :
    let e := (new library stepLimit drawn now).after turns
    (∀ i ∈ e.instances, i.state = .active ∨ i.state = .suspended → i.vars = i.store) ∧
    ∀ c f e', e.perform c = (.error f, e') → f.isRefusal = false →
      ∃ i ∈ e'.instances, e'.FailedLast i f ∧ i.vars = Run.reached (e.entered c) (e.marks c) ∧
        ∀ m ∈ e.marks c, m.failed = true → m.after = i ∧ m.before.vars = i.vars := by
  intro e
  have hupheld : e.Upholds fun _ i => i.Faithful := kept_faithful.after hlibrary hlend
  refine ⟨fun i hi hs => ?_, fun c f e' hperform hrun => ?_⟩
  · refine (hupheld.holds i hi ?_).vars_eq
    rcases hs with hs | hs <;> simp [hs]
  · have hx := effect_perform e c
    rw [hperform] at hx
    exact hx.reached (orderly_after library stepLimit drawn now turns) rfl hrun

/-- Rates a case. -/
def rate : Handler := fun c => (.ok (), (c.set "rating" (.int 3)).set "rated" (.bool true))

/-- Takes the rating back and rejects the case. -/
def reject : Handler := fun c => (.error (.business "LOW" "rejected"), c.set "rating" (.int 0))

/-- The operations that rate and reject. -/
def ratingLibrary : Library where
  registry := Registry.registerAll {} [
    { id := "Rate", description := "", category := "", kind := .service, handlerRef? := "rate" },
    { id := "Reject", description := "", category := "", kind := .service
      handlerRef? := "reject" }]
  catalog := ⟨[("rate", .handler rate), ("reject", .handler reject)]⟩

/-- A case is rated, checked and rejected. -/
def rejectionWorkflow : Workflow where
  id := "rejection"
  elements := [{ id := "begin", kind := .startEvent },
    { id := "rate", kind := .serviceTask none false false
      extensions := ⟨[(Workflow.delegationIdKey, "Rate")]⟩ },
    { id := "check", kind := .userTask none [] none },
    { id := "reject", kind := .serviceTask none false false
      extensions := ⟨[(Workflow.delegationIdKey, "Reject")]⟩ }]
  flows := [{ id := "a", source := "begin", target := "rate" },
    { id := "b", source := "rate", target := "check" },
    { id := "c", source := "check", target := "reject" }]

/-- A case over an amount is started. -/
def ratedTurns : List Turn :=
  [.call (.deploy rejectionWorkflow), .call (.start "rejection" [("amount", .int 5)])]

theorem ratingLibrary_writesBySet : ratingLibrary.WritesBySet := by
  intro ref h hfind
  obtain ⟨entry, hentry, hcomponent⟩ := Option.map_eq_some_iff.1 hfind
  have hmem := List.mem_of_find?_eq_some hentry
  simp only [ratingLibrary, List.mem_cons, List.not_mem_nil, or_false] at hmem
  rcases hmem with rfl | rfl <;> cases hcomponent
  · exact fun c => ⟨[("rating", .int 3), ("rated", .bool true)], rfl⟩
  · exact fun c => ⟨[("rating", .int 0)], rfl⟩

/-- The rating is seen once the case is rated. The rejection fails, and the
rating that is reported is still the old one. -/
theorem rejection_snapshots :
    let e := (new ratingLibrary 10 0 0).after ratedTurns
    let x := e.perform (.complete (identifier 1) "check" [("seen", .bool true)])
    (∃ i ∈ e.instances, i.state = .active ∧ i.vars = i.store ∧
      i.vars.mapValues Json.text = [("amount", "5"), ("rated", "true"), ("rating", "3")]) ∧
    ∃ i ∈ x.2.instances, x.2.FailedLast i (.business "Reject" "LOW" "rejected") ∧
      i.vars.mapValues Json.text =
        [("amount", "5"), ("rated", "true"), ("rating", "3"), ("seen", "true")] ∧
      (i.store.get? "rating").map Json.text = some "0" := by
  intro e x
  obtain ⟨hsynced, hfailed⟩ := snapshots_follow_stores ratingLibrary 10 0 0 ratedTurns
    ratingLibrary_writesBySet (by simp [ratedTurns])
  constructor
  · have hfound : (e.instance? (identifier 1)).map (fun i => (i.state, i.vars.mapValues Json.text)) =
        some (.active, [("amount", "5"), ("rated", "true"), ("rating", "3")]) := by decide +kernel
    obtain ⟨i, hi, hread⟩ := Option.map_eq_some_iff.1 hfound
    obtain ⟨hstate, hvars⟩ := Prod.mk.inj hread
    have hmem := (mem_of_instance? hi).1
    exact ⟨i, hmem, hstate, hsynced i hmem (Or.inl hstate), hvars⟩
  · have hx : x.1 = .error (.business "Reject" "LOW" "rejected") := by
      have hmap : (x.1.map fun _ => ()) = .error (.business "Reject" "LOW" "rejected") := by
        decide +kernel
      rcases hx : x.1 with f | a <;> rw [hx] at hmap <;> cases hmap
      rfl
    have hperform : e.perform (.complete (identifier 1) "check" [("seen", .bool true)]) =
        (.error (.business "Reject" "LOW" "rejected"), x.2) := by rw [← hx]
    obtain ⟨i, hmem, hlast, hvars, -⟩ := hfailed _ _ _ hperform rfl
    have hstores : ∀ j ∈ x.2.instances, (j.store.get? "rating").map Json.text = some "0" := by
      decide +kernel
    refine ⟨i, hmem, hlast, ?_, hstores i hmem⟩
    rw [hvars]
    decide +kernel

end Engine

end WorkflowCanvas
