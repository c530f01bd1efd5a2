import WorkflowCanvas.Proofs.Engine.Call
import WorkflowCanvas.Proofs.Engine.Numbering
/-!
# The instances of an engine

Every instance of an engine has an id and a number of its own, since both are
drawn from counters that only grow (`numbered_after`). So an id finds the one
instance that has it, an instance that is started comes after all others
(`instances_enrol`), and putting an instance in the place of the one with its id
leaves all others as they are (`mem_replace`).
-/


namespace WorkflowCanvas

/-- Instances with ids of their own, drawn below a number. -/
structure Named (n : Nat) (is : List Instance) : Prop where
  ids_nodup : (is.map (·.id)).Nodup
  ids_drawn : ∀ i ∈ is, ∃ m < n, i.id = identifier m

namespace Named

variable {n m : Nat} {is : List Instance} {i j : Instance}

theorem nil (n : Nat) : Named n [] := ⟨List.nodup_nil, by simp⟩

theorem mono (h : Named n is) (hnm : n ≤ m) : Named m is := by
  refine ⟨h.ids_nodup, fun i hi => ?_⟩
  obtain ⟨k, hk, heq⟩ := h.ids_drawn i hi
  exact ⟨k, by omega, heq⟩

/-- Names drawn later are new. -/
theorem ne_identifier (h : Named n is) (hi : i ∈ is) : i.id ≠ identifier n := by
  obtain ⟨k, hk, heq⟩ := h.ids_drawn i hi
  intro hn
  have := identifier_injective (heq.symm.trans hn)
  omega

/-- An instance under the next name joins. -/
theorem concat (h : Named n is) (hi : i.id = identifier n) : Named (n + 1) (is ++ [i]) := by
  refine ⟨?_, ?_⟩
  · rw [List.map_append, List.nodup_append]
    refine ⟨h.ids_nodup, by simp, ?_⟩
    intro a ha b hb
    obtain ⟨j, hj, rfl⟩ := List.mem_map.1 ha
    rw [List.map_singleton, List.mem_singleton] at hb
    rw [hb, hi]
    exact h.ne_identifier hj
  · intro j hj
    rcases List.mem_append.1 hj with hj | hj
    · obtain ⟨k, hk, heq⟩ := h.ids_drawn j hj
      exact ⟨k, by omega, heq⟩
    · rw [List.mem_singleton.1 hj]
      exact ⟨n, by omega, hi⟩

/-- Names are kept by what keeps the list of ids. -/
theorem of_ids_eq {js : List Instance} (h : Named n is) (heq : js.map (·.id) = is.map (·.id)) :
    Named n js := by
  refine ⟨heq ▸ h.ids_nodup, fun j hj => ?_⟩
  have hmem : j.id ∈ is.map (·.id) := heq ▸ List.mem_map_of_mem hj
  obtain ⟨i, hi, hid⟩ := List.mem_map.1 hmem
  obtain ⟨k, hk, hdrawn⟩ := h.ids_drawn i hi
  exact ⟨k, hk, hid.symm.trans hdrawn⟩

/-- **An id has one instance.** -/
theorem eq_of_id_eq (h : Named n is) (hi : i ∈ is) (hj : j ∈ is) (hid : i.id = j.id) : i = j :=
  List.inj_on_of_nodup_map h.ids_nodup hi hj hid

end Named

namespace Engine

open Operation (Library)

variable {e : Engine} {n : Nat} {i j : Instance} {id : String}

/-- **An engine whose instances have ids and numbers of their own**, all drawn. -/
structure Numbered (e : Engine) : Prop extends Named e.drawn e.instances where
  counted : e.roster.Counted

/-! ## Finding and replacing -/

theorem mem_of_instance? (h : e.instance? id = some i) : i ∈ e.instances ∧ i.id = id :=
  Roster.mem_of_find? h

theorem instance?_eq_none_iff : e.instance? id = none ↔ ∀ i ∈ e.instances, i.id ≠ id :=
  Roster.find?_eq_none_iff

/-- **An instance is found under its id.** -/
theorem instance?_eq_some_iff (h : e.Numbered) :
    e.instance? id = some i ↔ i ∈ e.instances ∧ i.id = id := by
  refine ⟨mem_of_instance?, ?_⟩
  rintro ⟨hi, rfl⟩
  rcases hf : e.instance? i.id with _ | j
  · exact absurd rfl (instance?_eq_none_iff.1 hf i hi)
  · obtain ⟨hj, hid⟩ := mem_of_instance? hf
    rw [h.eq_of_id_eq hj hi hid]

theorem instances_replace (e : Engine) (i : Instance) :
    (e.replace i).instances = e.instances.map fun j => if j.id == i.id then i else j :=
  Roster.snapshot_replace e.roster i

theorem instances_takeBack (e : Engine) (r : Run) :
    (e.takeBack r).instances = (e.replace r.inst).instances := rfl

theorem instances_enrol (h : e.roster.Counted) (i : Instance) :
    (e.enrol i).instances = e.instances ++ [i] :=
  h.snapshot_enrol i

theorem ids_replace (e : Engine) (i : Instance) :
    (e.replace i).instances.map (·.id) = e.instances.map (·.id) := by
  rw [instances_replace, List.map_map]
  refine List.map_congr_left fun j _ => ?_
  by_cases h : j.id = i.id <;> simp [h]

/-- **Replacing touches one instance.** -/
theorem mem_replace (hi : ∃ k ∈ e.instances, k.id = i.id) :
    j ∈ (e.replace i).instances ↔ j = i ∨ j ∈ e.instances ∧ j.id ≠ i.id := by
  simp only [instances_replace, List.mem_map, beq_iff_eq]
  constructor
  · rintro ⟨k, hk, rfl⟩
    by_cases h : k.id = i.id
    · exact Or.inl (if_pos h)
    · rw [if_neg h]
      exact Or.inr ⟨hk, h⟩
  · rintro (rfl | ⟨hj, hne⟩)
    · obtain ⟨k, hk, hid⟩ := hi
      exact ⟨k, hk, if_pos hid⟩
    · exact ⟨j, hj, if_neg hne⟩

theorem named_replace (h : Named n e.instances) (i : Instance) :
    Named n (e.replace i).instances :=
  h.of_ids_eq (ids_replace e i)

/-- **The others stay where they are.** -/
theorem replace_append_cons {before after : List Instance} (h : Named n e.instances)
    (hsplit : e.instances = before ++ i :: after) (hid : j.id = i.id) :
    (e.replace j).instances = before ++ j :: after := by
  have hnodup := h.ids_nodup
  rw [hsplit, List.map_append, List.map_cons, List.nodup_append, List.nodup_cons] at hnodup
  obtain ⟨-, ⟨hafter, -⟩, hbefore⟩ := hnodup
  have hkeep : ∀ is : List Instance, (∀ k ∈ is, k.id ≠ j.id) →
      (is.map fun k => if k.id == j.id then j else k) = is := by
    intro is hne
    rw [List.map_congr_left (g := id)]
    · exact List.map_id _
    · intro k hk
      simp [hne k hk]
  rw [instances_replace, hsplit, List.map_append, List.map_cons, if_pos (by simp [hid]), hkeep,
    hkeep]
  · intro k hk heq
    exact hafter (hid ▸ heq ▸ List.mem_map_of_mem hk)
  · intro k hk heq
    exact hbefore k.id (List.mem_map_of_mem hk) i.id List.mem_cons_self (heq.trans hid)

namespace Numbered

/-- An instance under the next id and the next number joins. -/
theorem enrol (h : e.Numbered) (hi : i.id = identifier e.drawn) :
    Named (e.drawn + 1) (e.enrol i).instances :=
  instances_enrol h.counted i ▸ h.concat hi

theorem install (h : e.Numbered) (p : Workflow) : (e.install p).Numbered :=
  ⟨h.mono (Nat.le_succ _), h.counted⟩

theorem move (h : e.Numbered) (i : Instance) (v : Event) : (e.move i v).Numbered :=
  ⟨named_replace h.toNamed i, h.counted.replace i⟩

end Numbered

/-! ## Instances that have run -/

section Runs

variable {key name : String} {p : Workflow} {vars : Table Json} {o : Except Failure Unit × Run}
variable {item : WorkItem} {others : List WorkItem}

theorem extends_started (ho : (e.opening key p vars).advance e.surroundings = o) :
    Run.Extends (e.opening key p vars) o.2 :=
  ho ▸ Run.extends_advance e.surroundings (e.opening key p vars)

theorem ends_started (ho : (e.opening key p vars).advance e.surroundings = o) : Run.Ends o :=
  ho ▸ Run.ends_advance e.surroundings ⟨rfl, rfl⟩

theorem extends_resumed (ho : (e.resuming i others vars).resume e.surroundings item = o) :
    Run.Extends (e.resuming i others vars) o.2 :=
  ho ▸ Run.extends_resume e.surroundings (e.resuming i others vars) item

/-- **A start enrols one instance**, as its run has left it. -/
theorem roster_started (h : e.Numbered)
    (ho : (e.opening key p vars).advance e.surroundings = o) :
    ((e.enrol (e.opening key p vars).inst).takeBack o.2).roster = e.roster.enrol o.2.inst :=
  Roster.replace_enrol (extends_started ho).id_eq fun _ hk => h.ne_identifier hk

theorem instances_started (h : e.Numbered)
    (ho : (e.opening key p vars).advance e.surroundings = o) :
    ((e.enrol (e.opening key p vars).inst).takeBack o.2).instances = e.instances ++ [o.2.inst] := by
  rw [instances, roster_started h ho]
  exact h.counted.snapshot_enrol o.2.inst

/-- **A completion touches one instance**, which stays under its id. -/
theorem mem_resumed (hi : i ∈ e.instances)
    (ho : (e.resuming i others vars).resume e.surroundings item = o) :
    j ∈ (e.takeBack o.2).instances ↔ j = o.2.inst ∨ j ∈ e.instances ∧ j.id ≠ o.2.inst.id := by
  rw [instances_takeBack]
  exact mem_replace ⟨i, hi, (extends_resumed ho).id_eq.symm⟩

end Runs

/-! ## Names and numbers over turns -/

theorem numbered_takeBack {r : Run} (h : Named n e.instances) (hc : e.roster.Counted)
    (hn : n ≤ r.drawn) : (e.takeBack r).Numbered :=
  ⟨(named_replace h r.inst).mono hn, hc.replace r.inst⟩

theorem numbered_started {key : String} {p : Workflow} {vars : Table Json}
    {o : Except Failure Unit × Run} (h : e.Numbered)
    (ho : (e.opening key p vars).advance e.surroundings = o) :
    ((e.enrol (e.opening key p vars).inst).takeBack o.2).Numbered :=
  numbered_takeBack (h.enrol rfl) (h.counted.enrol _) (extends_started ho).drawn_le

theorem numbered_resumed {vars : Table Json} {item : WorkItem} {others : List WorkItem}
    {o : Except Failure Unit × Run} (h : e.Numbered)
    (ho : (e.resuming i others vars).resume e.surroundings item = o) : (e.takeBack o.2).Numbered :=
  numbered_takeBack h.toNamed h.counted (extends_resumed ho).drawn_le

theorem Effect.numbered {c : Call} {ms : List Mark} {x : Except Failure Answer × Engine} (hx : Effect e c ms x)
    (h : e.Numbered) : x.2.Numbered := by
  cases hx with
  | refused => exact h
  | asked => exact h
  | deployed => exact h.install _
  | started _ ho => exact numbered_started h ho
  | resumed _ _ _ ho => exact numbered_resumed h ho
  | suspended => exact h.move _ _
  | reactivated => exact h.move _ _
  | terminated => exact h.move _ _

theorem numbered_turn (e : Engine) (t : Turn) (h : e.Numbered) : (e.turn t).Numbered := by
  cases t with
  | call c => exact (effect_perform e c).numbered h
  | lend => exact ⟨h.toNamed, h.counted⟩

@[simp] theorem instances_new (library : Library) (stepLimit drawn now : Nat) :
    (new library stepLimit drawn now).instances = [] := rfl

theorem numbered_new (library : Library) (stepLimit drawn now : Nat) :
    (new library stepLimit drawn now).Numbered :=
  ⟨Named.nil _, Roster.counted_empty⟩

/-- **Instances have ids and numbers of their own**, after any turns. -/
theorem numbered_after (library : Library) (stepLimit drawn now : Nat) (turns : List Turn) :
    ((new library stepLimit drawn now).after turns).Numbered :=
  after_induct numbered_turn (numbered_new library stepLimit drawn now) turns

end Engine

end WorkflowCanvas
