import WorkflowCanvas.Proofs.Engine.Arrangement
import WorkflowCanvas.Proofs.Engine.Lifecycle
import Mathlib.Data.List.Rotate
/-!
# Started instances

A start of a deployed key enrols one instance, also if it fails
(`exists_started`), and no other turn enrols or removes any
(`numbering_turn_of_none`). So the number of an instance is the count of the
starts before its own (`Enrolled`), which a turn keeps (`Enrolled.turn`), as does
any other order of the instances. To sort instances by their numbers is thus to
list them in the order of their starts (`listed_in_order`).
-/


namespace WorkflowCanvas

namespace Engine

open Operation (Library)

variable {e e' : Engine} {c : Call} {t : Turn} {ms : List Mark}
variable {x : Except Failure Answer × Engine} {i : Instance} {key id : String} {p : Workflow}
variable {ids : List String} {turns : List Turn}

/-! ## What a turn starts -/

/-- The id of the instance that a turn starts: there is one if a deployed key is
started. -/
def startedId? (e : Engine) : Turn → Option String
  | .call (.start key _) => (e.deployments.get? key).map fun _ => identifier e.drawn
  | _ => none

/-- The ids of the instances that are started in some turns, in order. -/
def startedIds (e : Engine) : List Turn → List String
  | [] => []
  | t :: ts => (e.startedId? t).toList ++ (e.turn t).startedIds ts

/-- One turn more starts what it starts behind all others. -/
theorem startedIds_concat (e : Engine) (turns : List Turn) (t : Turn) :
    e.startedIds (turns ++ [t]) = e.startedIds turns ++ ((e.after turns).startedId? t).toList := by
  induction turns generalizing e with
  | nil =>
    rw [List.nil_append, startedIds, startedIds, startedIds, List.append_nil]
    rfl
  | cons t' ts ih =>
    rw [List.cons_append, startedIds, startedIds, ih, List.append_assoc, after_cons]

theorem Rearranged.startedId?_eq (hr : Rearranged e e') (t : Turn) :
    e'.startedId? t = e.startedId? t := by
  unfold startedId?
  rw [hr.deployments_eq, hr.drawn_eq]

/-- **A start of a deployed key enrols one instance** under a new id. It answers
with the instance, or the instance has failed. -/
theorem exists_started (h : e.Numbered) (hp : e.deployments.get? key = some p)
    (vars : Table Json) :
    ∃ i, i.id = identifier e.drawn ∧
      (e.perform (.start key vars)).2.roster = e.roster.enrol i ∧
      ((e.perform (.start key vars)).1 = .ok (.inst i) ∨
        ∃ f, (e.perform (.start key vars)).1 = .error f ∧ i.state = .failed) := by
  obtain ⟨o, ho⟩ : ∃ o, (e.opening key p vars).advance e.surroundings = o := ⟨_, rfl⟩
  rw [perform, start_eq hp, answer_finish, ho]
  refine ⟨o.2.inst, (extends_started ho).id_eq, roster_started h ho, ?_⟩
  have hends := ends_started ho
  rcases o with ⟨f | ⟨⟩, r⟩
  · exact .inr ⟨f, rfl, hends.state_eq⟩
  · exact .inl rfl

theorem Effect.numbering_eq (hx : Effect e c ms x) (h : e.startedId? (.call c) = none) :
    x.2.roster.numbering = e.roster.numbering ∧ x.2.roster.next = e.roster.next := by
  cases hx with
  | refused => exact ⟨rfl, rfl⟩
  | asked => exact ⟨rfl, rfl⟩
  | deployed => exact ⟨rfl, rfl⟩
  | started hp =>
    rw [startedId?, hp] at h
    cases h
  | resumed => exact ⟨Roster.numbering_replace .., rfl⟩
  | suspended => exact ⟨Roster.numbering_replace .., rfl⟩
  | reactivated => exact ⟨Roster.numbering_replace .., rfl⟩
  | terminated => exact ⟨Roster.numbering_replace .., rfl⟩

/-- **A turn that starts nothing** enrols and removes nobody. -/
theorem numbering_turn_of_none (h : e.startedId? t = none) :
    (e.turn t).roster.numbering = e.roster.numbering ∧
      (e.turn t).roster.next = e.roster.next := by
  cases t with
  | call c => exact (effect_perform e c).numbering_eq h
  | lend => exact ⟨rfl, rfl⟩

/-- **A turn that starts an instance** enrols it under its id. -/
theorem roster_turn_of_some (h : e.Numbered) (hstarted : e.startedId? t = some id) :
    ∃ i, i.id = id ∧ (e.turn t).roster = e.roster.enrol i := by
  unfold startedId? at hstarted
  split at hstarted
  · next key vars =>
    obtain ⟨p, hp, rfl⟩ := Option.map_eq_some_iff.1 hstarted
    obtain ⟨i, hid, hroster, -⟩ := exists_started h hp vars
    exact ⟨i, hid, hroster⟩
  · cases hstarted

/-! ## Numbers in the order of the starts -/

/-- **Instances are numbered in the order of their starts**: their numbers are
apart and below the next one, which is the count of all starts, and the number of
an instance is the place of its id among the ids that were started. -/
structure Enrolled (e : Engine) (ids : List String) : Prop where
  counted : e.roster.Counted
  next_eq : e.roster.next = ids.length
  getElem?_eq_some_iff : ∀ n id, ids[n]? = some id ↔ (n, id) ∈ e.roster.numbering

theorem enrolled_new (library : Library) (stepLimit drawn now : Nat) :
    (new library stepLimit drawn now).Enrolled [] where
  counted := Roster.counted_empty
  next_eq := rfl
  getElem?_eq_some_iff _ _ := iff_of_false nofun List.not_mem_nil

namespace Enrolled

/-- The next number is that of the next start. -/
theorem enrol (he : e.Enrolled ids) (hroster : e'.roster = e.roster.enrol i) :
    e'.Enrolled (ids ++ [i.id]) where
  counted := hroster ▸ he.counted.enrol i
  next_eq := by
    rw [hroster, List.length_append, ← he.next_eq]
    rfl
  getElem?_eq_some_iff n id := by
    have hcons : e'.roster.numbering = (e.roster.next, i.id) :: e.roster.numbering := by
      rw [hroster]
      rfl
    rw [hcons, List.mem_cons, Prod.mk.injEq, he.next_eq, ← he.getElem?_eq_some_iff]
    grind

/-- **A turn enrols what it starts.** -/
theorem turn (he : e.Enrolled ids) (h : e.Numbered) (t : Turn) :
    (e.turn t).Enrolled (ids ++ (e.startedId? t).toList) := by
  cases hstarted : e.startedId? t with
  | none =>
    obtain ⟨hnumbering, hnext⟩ := numbering_turn_of_none hstarted
    rw [Option.toList_none, List.append_nil]
    exact ⟨(numbered_turn e t h).counted, hnext.trans he.next_eq,
      fun n id => hnumbering ▸ he.getElem?_eq_some_iff n id⟩
  | some id =>
    obtain ⟨i, rfl, hroster⟩ := roster_turn_of_some h hstarted
    exact he.enrol hroster

/-- Numbers do not depend on where the instances are kept. -/
theorem rearranged (he : e.Enrolled ids) (hr : Rearranged e e') : e'.Enrolled ids := by
  obtain ⟨_, hperm, rfl⟩ := hr
  exact ⟨he.counted.of_perm hperm, he.next_eq,
    fun n id => (he.getElem?_eq_some_iff n id).trans (hperm.map _).mem_iff.symm⟩

theorem after (he : e.Enrolled ids) (h : e.Numbered) (turns : List Turn) :
    (e.after turns).Enrolled (ids ++ e.startedIds turns) := by
  induction turns generalizing e ids with
  | nil => rwa [startedIds, List.append_nil]
  | cons t ts ih =>
    rw [startedIds, ← List.append_assoc]
    exact ih (he.turn h t) (numbered_turn e t h)

/-- **A run enrols what it starts**, whatever the order of the instances. -/
theorem leadsTo (he : e.Enrolled ids) (h : e.Numbered) (hl : LeadsTo e turns e') :
    e'.Enrolled (ids ++ e.startedIds turns) :=
  (he.after h turns).rearranged ((leadsTo_iff h).1 hl)

theorem mem_number_iff (he : e.Enrolled ids) (n : Nat) :
    n ∈ e.roster.entries.map (·.number) ↔ n < ids.length := by
  rw [← Roster.map_fst_numbering, List.mem_map]
  constructor
  · rintro ⟨⟨_, id⟩, hmem, rfl⟩
    obtain ⟨hlt, -⟩ := List.getElem?_eq_some_iff.1 ((he.getElem?_eq_some_iff _ id).2 hmem)
    exact hlt
  · intro hlt
    exact ⟨(n, ids[n]), (he.getElem?_eq_some_iff n _).1 (List.getElem?_eq_getElem hlt), rfl⟩

/-- **All instances are listed in the order of their starts.** -/
theorem ids_eq (he : e.Enrolled ids) : e.instances.map (·.id) = ids := by
  have hnumbers : (Enrolment.sort e.roster.entries).map (·.number) = List.range ids.length :=
    he.counted.map_number_sort he.mem_number_iff
  refine List.ext_getElem? fun n => ?_
  -- the number of the instance at a place is the place
  have hplace : (Enrolment.sort e.roster.entries)[n]?.map (·.number) =
      (List.range ids.length)[n]? := by
    rw [← List.getElem?_map, hnumbers]
  rw [instances, Roster.snapshot_all, List.map_map, List.getElem?_map]
  rcases hs : (Enrolment.sort e.roster.entries)[n]? with _ | s
  · rw [hs, Option.map_none, eq_comm, List.getElem?_eq_none_iff, List.length_range] at hplace
    exact (List.getElem?_eq_none hplace).symm
  · rw [hs, Option.map_some, eq_comm, List.getElem?_eq_some_iff] at hplace
    obtain ⟨_, hnumber⟩ := hplace
    rw [List.getElem_range] at hnumber
    have hmem := (Enrolment.perm_sort _).mem_iff.1 (List.mem_of_getElem? hs)
    exact ((he.getElem?_eq_some_iff n _).2
      (Roster.mem_numbering.2 ⟨s, hmem, hnumber.symm, rfl⟩)).symm

/-- The next id is none of those that were started. -/
theorem identifier_not_mem (he : e.Enrolled ids) (h : e.Numbered) : identifier e.drawn ∉ ids := by
  rw [← he.ids_eq]
  intro hold
  obtain ⟨j, hj, heq⟩ := List.mem_map.1 hold
  exact h.ne_identifier hj heq

end Enrolled

/-! ## Finding instances -/

theorem status_eq_ok_iff (h : e.Numbered) : e.status id = .ok i ↔ i ∈ e.instances ∧ i.id = id := by
  rw [← instance?_eq_some_iff h, status]
  cases e.instance? id <;> simp

/-- **An id is found** exactly if it was started. -/
theorem exists_status_iff (h : e.Numbered) (he : e.Enrolled ids) :
    (∃ i, e.status id = .ok i) ↔ id ∈ ids := by
  simp only [status_eq_ok_iff h, ← he.ids_eq, List.mem_map]

/-- **An instance stays** under its id, whatever turns follow. -/
theorem exists_status_leadsTo (h : e.Numbered) (he : e.Enrolled ids) (hid : id ∈ ids)
    (hl : LeadsTo e turns e') : ∃ j, e'.status id = .ok j ∧ j.id = id := by
  have h' : e'.Numbered := ((leadsTo_iff h).1 hl).numbered (after_induct numbered_turn h turns)
  obtain ⟨j, hj⟩ := (exists_status_iff h' (he.leadsTo h hl)).2 (List.mem_append_left _ hid)
  exact ⟨j, hj, ((status_eq_ok_iff h').1 hj).2⟩

/-! ## Listing instances -/

/-- **The instances in some states are listed**: just these, each once, in the
order in which their ids were started. -/
structure Listed (e : Engine) (ids : List String) (states : List InstanceState)
    (is : List Instance) : Prop where
  mem_iff : ∀ i, i ∈ is ↔ e.status i.id = .ok i ∧ i.state ∈ states
  sublist_ids : (is.map (·.id)).Sublist ids

/-- What is sorted by the numbers is listed in order. -/
theorem listed_snapshot (h : e.Numbered) (he : e.Enrolled ids) {keep : InstanceState → Bool}
    {states : List InstanceState} (hkeep : ∀ state, keep state = true ↔ state ∈ states) :
    e.Listed ids states (e.roster.snapshot keep) := by
  rw [h.counted.snapshot_eq_filter]
  refine ⟨fun i => ?_, ?_⟩
  · rw [List.mem_filter, hkeep, status_eq_ok_iff h]
    exact and_congr_left fun _ => (and_iff_left rfl).symm
  · rw [← he.ids_eq]
    exact List.filter_sublist.map _

/-- **Instances are numbered and listed in the order of their starts**, whatever
order they are kept in before and after every turn. Their numbers are apart and
below the next one, and follow the starts. The ids that were started are apart,
and are those that an instance is found under. What is active or suspended, and
what is completed, is listed in the order of its start. A start of a deployed key,
also one that fails, adds one instance with a new id under the next number, which
is found from then on whatever follows, and no other turn adds or removes any. -/
theorem listed_in_order (library : Library) (stepLimit drawn now : Nat) (turns : List Turn)
    (e : Engine) (hl : LeadsTo (new library stepLimit drawn now) turns e) :
    let first := new library stepLimit drawn now
    let ids := first.startedIds turns
    e.Enrolled ids ∧
    (ids.Nodup ∧ ∀ id, id ∈ ids ↔ ∃ i, e.status id = .ok i ∧ i.id = id) ∧
    (∃ is, e.perform .active = (.ok (.insts is), e) ∧ e.Listed ids [.active, .suspended] is) ∧
    (∃ is, e.perform .completed = (.ok (.insts is), e) ∧ e.Listed ids [.completed] is) ∧
    (∀ key vars p, e.deployments.get? key = some p →
      let x := e.perform (.start key vars)
      ∃ i, i.id ∉ ids ∧ x.2.roster = e.roster.enrol i ∧
        (x.1 = .ok (.inst i) ∨ ∃ f, x.1 = .error f ∧ i.state = .failed) ∧
        first.startedIds (turns ++ [.call (.start key vars)]) = ids ++ [i.id] ∧
        ∀ later e', LeadsTo x.2 later e' → ∃ j, e'.status i.id = .ok j ∧ j.id = i.id) ∧
    ∀ t, e.startedId? t = none →
      (e.turn t).roster.numbering = e.roster.numbering ∧
      (e.turn t).roster.next = e.roster.next ∧
      ∀ id, (∃ i, (e.turn t).status id = .ok i) ↔ ∃ i, e.status id = .ok i := by
  intro first ids
  have hfirst : first.Numbered := numbered_new library stepLimit drawn now
  have hr : Rearranged (first.after turns) e := (leadsTo_iff hfirst).1 hl
  have h : e.Numbered := hr.numbered (numbered_after library stepLimit drawn now turns)
  have he : e.Enrolled ids := (enrolled_new library stepLimit drawn now).leadsTo hfirst hl
  refine ⟨he, ⟨he.ids_eq ▸ h.ids_nodup, fun id => ?_⟩, ⟨e.active, rfl, ?_⟩,
    ⟨e.completed, rfl, ?_⟩, fun key vars p hp => ?_, fun t ht => ?_⟩
  · rw [← exists_status_iff h he]
    refine exists_congr fun i => (and_iff_left_of_imp fun hi => ?_).symm
    exact ((status_eq_ok_iff h).1 hi).2
  · exact listed_snapshot h he fun state => by cases state <;> decide
  · exact listed_snapshot h he fun state => by cases state <;> decide
  · obtain ⟨i, hid, hroster, hanswer⟩ := exists_started h hp vars
    have hstarted : (first.after turns).startedId? (.call (.start key vars)) = some i.id := by
      rw [← hr.startedId?_eq, startedId?, hp, hid]
      rfl
    have hturn : (e.perform (.start key vars)).2.Numbered := (effect_perform e _).numbered h
    refine ⟨i, hid ▸ he.identifier_not_mem h, hroster, hanswer, ?_, fun later e' hlater => ?_⟩
    · rw [startedIds_concat, hstarted, Option.toList_some]
    · exact exists_status_leadsTo hturn (he.enrol hroster)
        (List.mem_append_right _ (List.mem_singleton_self _)) hlater
  · obtain ⟨hnumbering, hnext⟩ := numbering_turn_of_none ht
    have hturn := he.turn h t
    rw [ht, Option.toList_none, List.append_nil] at hturn
    refine ⟨hnumbering, hnext, fun id => ?_⟩
    rw [exists_status_iff h he, exists_status_iff (numbered_turn e t h) hturn]

/-- A workflow with a service step that no operation serves. -/
def unservedWorkflow : Workflow where
  id := "unserved"
  elements := [{ id := "begin", kind := .startEvent },
    { id := "call", kind := .serviceTask none false false }]
  flows := [{ id := "a", source := "begin", target := "call" }]

/-- Four instances are started. The second one fails at once, and the third one is
completed. -/
def fourStarts : List Turn :=
  [.call (.deploy reviewWorkflow), .call (.deploy unservedWorkflow), .call (.start "review" []),
    .call (.start "unserved" []), .call (.start "review" []), .call (.start "review" []),
    .call (.complete (identifier 6) "check" [])]

/-- An engine that keeps its newest instance last. -/
def turnedRound (e : Engine) : Engine :=
  { e with roster := { e.roster with entries := e.roster.entries.rotate 1 } }

/-- The instances are kept in the order 3, 2, 1, 4. The failed one is kept but not
listed, and a start that fails once more adds another one. -/
theorem failed_start_kept :
    let e := turnedRound ((new {} 10 0 0).after fourStarts)
    let ids := (new {} 10 0 0).startedIds fourStarts
    (new {} 10 0 0).LeadsTo fourStarts e ∧ e.Enrolled ids ∧
      e.roster.numbering = [(2, identifier 6), (1, identifier 4), (0, identifier 2),
        (3, identifier 8)] ∧
      (∃ is, e.perform .active = (.ok (.insts is), e) ∧ e.Listed ids [.active, .suspended] is ∧
        is.map (·.id) = [identifier 2, identifier 8]) ∧
      (∃ is, e.perform .completed = (.ok (.insts is), e) ∧ e.Listed ids [.completed] is ∧
        is.map (·.id) = [identifier 6]) ∧
      ∃ i, i.id ∉ ids ∧ i.state = .failed ∧
        (e.perform (.start "unserved" [])).2.roster = e.roster.enrol i ∧
        ∀ e', LeadsTo (e.perform (.start "unserved" [])).2 fourStarts e' →
          ∃ j, e'.status i.id = .ok j := by
  intro e ids
  have hleads : (new {} 10 0 0).LeadsTo fourStarts e :=
    (leadsTo_iff (numbered_new ..)).2 ⟨_, List.rotate_perm _ 1, rfl⟩
  obtain ⟨henrolled, -, ⟨active, hopen, hopens⟩, ⟨completed, hdone, hdones⟩, hstart, -⟩ :=
    listed_in_order {} 10 0 0 fourStarts e hleads
  have hnumbering : e.roster.numbering =
      [(2, identifier 6), (1, identifier 4), (0, identifier 2), (3, identifier 8)] := by
    decide +kernel
  have hactive : e.active.map (·.id) = [identifier 2, identifier 8] := by decide +kernel
  have hcompleted : e.completed.map (·.id) = [identifier 6] := by decide +kernel
  have hdeployed : (e.deployments.get? "unserved").isSome = true := by decide +kernel
  have hfails : (e.perform (.start "unserved" [])).1.isOk = false := by decide +kernel
  -- the run is not computed again
  clear_value e
  refine ⟨hleads, henrolled, hnumbering, ⟨active, hopen, hopens, ?_⟩,
    ⟨completed, hdone, hdones, ?_⟩, ?_⟩
  · rwa [← Answer.insts.inj (Except.ok.inj (Prod.mk.inj hopen).1)]
  · rwa [← Answer.insts.inj (Except.ok.inj (Prod.mk.inj hdone).1)]
  · obtain ⟨p, hp⟩ := Option.isSome_iff_exists.1 hdeployed
    obtain ⟨i, hnew, hroster, hanswer, -, hlater⟩ := hstart "unserved" [] p hp
    refine ⟨i, hnew, ?_, hroster, fun e' hl => ?_⟩
    · rcases hanswer with hok | ⟨f, -, hstate⟩
      · rw [hok] at hfails
        cases hfails
      · exact hstate
    · obtain ⟨j, hj, -⟩ := hlater fourStarts e' hl
      exact ⟨j, hj⟩

end Engine

end WorkflowCanvas
