import WorkflowCanvas.Proofs.Engine.Carry
import WorkflowCanvas.Proofs.Engine.Concern
import WorkflowCanvas.Proofs.Engine.Refusal
import WorkflowCanvas.Proofs.Engine.Tokens
import WorkflowCanvas.Proofs.Operation.Dispatch
import WorkflowCanvas.Proofs.Workflow.Closed
/-!
# Instances stay within their workflow

An instance of a closed workflow never leaves it: whatever token it queues
and whatever work item it leaves pending is at an element, right before and
right after everything that it does (`Run.carries_inside`). So no token
reaches an element that is not there, and no work item is without one.
-/


namespace WorkflowCanvas

open Operation (Library)

/-- The failure says that an element is not there. -/
def Failure.isLost : Failure → Bool
  | .unknownElement _ _ | .workItemWithoutElement _ => true
  | _ => false

/-- What is wrong with an operation is nothing wrong with an element. -/
theorem Failure.not_isLost_of_isOperational {f : Failure} (h : f.isOperational = true) :
    f.isLost = false := by
  cases f <;> first | rfl | cases h

/-- **The instance is within its workflow**: every token and every pending
item is at an element. -/
structure Instance.Within (i : Instance) : Prop where
  tokens : ∀ id ∈ i.tokens, i.workflow.Has id
  pending : ∀ w ∈ i.pending, i.workflow.Has w.nodeId

namespace Instance.Within

variable {i j : Instance}

/-- An instance with no further token and no further item is within its
workflow, too. -/
theorem of_subset (h : i.Within) (hw : j.workflow = i.workflow) (ht : j.tokens ⊆ i.tokens)
    (hp : j.pending ⊆ i.pending) : j.Within :=
  ⟨fun id hid => hw ▸ h.tokens id (ht hid), fun w hmem => hw ▸ h.pending w (hp hmem)⟩

theorem of_eq (h : i.Within) (hw : j.workflow = i.workflow) (ht : j.tokens = i.tokens)
    (hp : j.pending = i.pending) : j.Within :=
  h.of_subset hw (ht ▸ List.Subset.refl _) (hp ▸ List.Subset.refl _)

/-- An instance with nothing left to do is within its workflow. -/
theorem of_nil (ht : i.tokens = []) (hp : i.pending = []) : i.Within :=
  ⟨fun _ h => absurd (ht ▸ h) List.not_mem_nil, fun _ h => absurd (hp ▸ h) List.not_mem_nil⟩

end Instance.Within

namespace Run

variable {s : Surroundings} {r r' : Run} {e : Workflow.Element} {o : Except Failure Unit × Run}
variable {p : Workflow} {f : Failure}

theorem within_fail (r : Run) (f : Failure) : (r.fail f).inst.Within :=
  Instance.Within.of_nil rfl rfl

/-- The flows of a closed workflow lead to elements. -/
theorem within_follow (hp : r.inst.workflow.Closed) (h : r.inst.Within) (element : String) :
    (r.follow element).inst.Within := by
  refine ⟨fun id hid => ?_, h.pending⟩
  rcases List.mem_append.1 hid with hid | hid
  · exact h.tokens id hid
  · obtain ⟨f, hf, rfl⟩ := List.mem_map.1 hid
    exact (hp f (List.mem_of_mem_filter (List.mem_of_mem_filter hf))).2

theorem within_park (h : r.inst.Within) (he : r.inst.workflow.Has e.id) :
    (r.park e).inst.Within := by
  refine ⟨h.tokens, fun w hw => ?_⟩
  rcases List.mem_append.1 hw with hw | hw
  · exact h.pending w hw
  · rw [List.mem_singleton.1 hw]
    exact he

theorem within_push (hp : r.inst.workflow.Closed) (h : r.inst.Within) {flow : Workflow.Flow}
    (hflow : flow ∈ r.inst.workflow.flows) : (r.push flow.target).inst.Within := by
  refine ⟨fun id hid => ?_, h.pending⟩
  rcases List.mem_append.1 hid with hid | hid
  · exact h.tokens id hid
  · rw [List.mem_singleton.1 hid]
    exact (hp flow hflow).2

/-- **A visit stays within a closed workflow.** -/
theorem Visited.within (hv : Visited s r e o) (hp : r.inst.workflow.Closed) (h : r.inst.Within)
    (he : r.inst.workflow.Has e.id) : o.2.inst.Within := by
  cases hv with
  | ended => exact h
  | passed => exact within_follow hp h e.id
  | @worked c => exact within_follow (r := r.worked e c) hp (h.of_eq rfl rfl rfl) e.id
  | gaveUp => exact within_fail _ _
  | parked => exact within_park h he
  | joined =>
    rw [join_eq]
    split
    · split
      · exact h.of_eq rfl rfl rfl
      · exact within_follow (r := r.release e.id) hp (h.of_eq rfl rfl rfl) e.id
    · exact within_follow hp h e.id
  | chose _ hflow =>
    exact within_push hp h (List.mem_of_mem_filter (mem_of_chooseFlow? hflow))
  | stuck => exact within_fail _ _

theorem Handled.within (ho : Handled s r e o) (hp : r.inst.workflow.Closed) (h : r.inst.Within) :
    o.2.inst.Within := by
  cases ho with
  | confirmed => exact within_follow (r := r.emit _) hp h e.id
  | @served c => exact within_follow (r := r.worked e c) hp (h.of_eq rfl rfl rfl) e.id
  | gaveUp => exact within_fail _ _

theorem Visited.not_isLost (hv : Visited s r e (.error f, r')) : f.isLost = false := by
  cases hv with
  | gaveUp _ hd => exact Failure.not_isLost_of_isOperational (Library.isOperational_of_dispatch hd)
  | stuck => rfl

theorem Handled.not_isLost (ho : Handled s r e (.error f, r')) : f.isLost = false := by
  cases ho with
  | gaveUp hd => exact Failure.not_isLost_of_isOperational (Library.isOperational_of_dispatch hd)

theorem Handled.workflow_eq (ho : Handled s r e o) : o.2.inst.workflow = r.inst.workflow := by
  cases ho <;> rfl

/-- A run of a workflow stays within it if it is closed, and has done so at
all its marks. -/
structure Inside (p : Workflow) (ms : List Mark) (r : Run) : Prop where
  workflow_eq : r.inst.workflow = p
  within : p.Closed → r.inst.Within
  marks : ∀ m ∈ ms, m.before.workflow = p ∧ (p.Closed → m.before.Within ∧ m.after.Within)

theorem Inside.concat {ms : List Mark} {item? : Option WorkItem} (h : Inside p ms r)
    (hw : o.2.inst.workflow = r.inst.workflow) (hwithin : p.Closed → o.2.inst.Within) :
    Inside p (ms ++ [r.mark item? e o]) o.2 := by
  refine ⟨hw.trans h.workflow_eq, hwithin, fun m hm => ?_⟩
  rcases List.mem_append.1 hm with hm | hm
  · exact h.marks m hm
  · rw [List.mem_singleton.1 hm]
    exact ⟨h.workflow_eq, fun hp => ⟨h.within hp, hwithin hp⟩⟩

theorem Inside.fail {ms : List Mark} (h : Inside p ms r) (f : Failure) : Inside p ms (r.fail f) :=
  ⟨h.workflow_eq, fun _ => within_fail r f, h.marks⟩

/-- How a run of a workflow ends: within it, and missing no element if it
is closed. -/
structure EndsInside (p : Workflow) (ms : List Mark) (o : Except Failure Unit × Run) : Prop where
  inside : Inside p ms o.2
  not_isLost : p.Closed → ∀ f, o.1 = .error f → f.isLost = false

/-- **A run stays within a closed workflow**, and misses no element. -/
theorem carries_inside (s : Surroundings) (p : Workflow) : Carries s (Inside p) (EndsInside p) where
  pop h ht :=
    ⟨h.workflow_eq, fun hp =>
      (h.within hp).of_subset rfl (ht ▸ List.subset_cons_self _ _) (List.Subset.refl _), h.marks⟩
  visit h he hv := h.concat hv.extends.workflow_eq fun hp =>
    hv.within (h.workflow_eq ▸ hp) (h.within hp) (.of_element? he)
  gaveUp h he hv := by
    refine ⟨h.concat hv.extends.workflow_eq fun hp =>
      hv.within (h.workflow_eq ▸ hp) (h.within hp) (.of_element? he), ?_⟩
    rintro - _ ⟨⟩
    exact hv.not_isLost
  settle {ms r} h _ := by
    refine ⟨?_, fun _ _ hf => by cases hf⟩
    unfold settle
    split
    · exact ⟨h.workflow_eq, fun hp => (h.within hp).of_eq rfl rfl rfl, h.marks⟩
    · exact h
  limit h hf := by
    refine ⟨h.fail _, ?_⟩
    rintro - _ ⟨⟩
    rw [hf]
    rfl
  lost {_ r id rest f} h ht he _ := by
    refine ⟨⟨h.workflow_eq, fun _ => within_fail (r.pop rest) f, h.marks⟩, fun hp => ?_⟩
    -- every token is at an element, so none is lost
    have hhas := (h.within hp).tokens id (ht ▸ List.mem_cons_self)
    exact absurd he (Workflow.element?_ne_none hhas)

/-- A completion stays within a closed workflow in the same way. -/
theorem endsInside_resume (s : Surroundings) {item : WorkItem} (h : Inside p [] r)
    (hitem : p.Closed → p.Has item.nodeId) :
    EndsInside p (r.resumeMarks s item) (r.resume s item) := by
  have hwithin : ∀ {e o}, Handled s r e o → p.Closed → o.2.inst.Within := fun ho hp =>
    ho.within (h.workflow_eq ▸ hp) (h.within hp)
  refine (carries_inside s p).resume [] (fun e r' _ ho => h.concat ho.workflow_eq (hwithin ho))
    (fun e f r' _ ho => ⟨h.concat ho.workflow_eq (hwithin ho), ?_⟩)
    fun f he _ => ⟨h.fail f, fun hp => ?_⟩
  · rintro - _ ⟨⟩
    exact ho.not_isLost
  · rw [h.workflow_eq] at he
    exact absurd he (Workflow.element?_ne_none (hitem hp))

end Run

namespace Engine

variable {e : Engine} {c : Call} {ms : List Mark} {i : Instance}
variable {x : Except Failure Answer × Engine} {o : Except Failure Unit × Run}

/-! ## Calls stay within closed workflows -/

/-- The instance is within its workflow, if that is closed. -/
def Homely (_ : List Event) (i : Instance) : Prop := i.workflow.Closed → i.Within

theorem endsInside_started {key : String} {p : Workflow} {vars : Table Json}
    (ho : (e.opening key p vars).advance e.surroundings = o) :
    Run.EndsInside p ((e.opening key p vars).marks e.surroundings) o := by
  have hopen : Run.Inside p [] (e.opening key p vars) := by
    refine ⟨rfl, fun _ => ⟨fun id hid => ?_, fun _ hw => absurd hw List.not_mem_nil⟩,
      fun _ hm => absurd hm List.not_mem_nil⟩
    obtain ⟨element, helement, rfl⟩ := List.mem_map.1 hid
    exact ⟨element, List.mem_of_mem_filter helement, rfl⟩
  exact ho ▸ (Run.carries_inside e.surroundings p).advance [] hopen

theorem endsInside_resumed {es : List Event} {name : String} {vars : Table Json} {item : WorkItem}
    {others : List WorkItem} (h : Homely es i)
    (ht : takeItem? name i.pending = some (item, others))
    (ho : (e.resuming i others vars).resume e.surroundings item = o) :
    Run.EndsInside i.workflow ((e.resuming i others vars).resumeMarks e.surroundings item) o := by
  have hperm := perm_takeItem? ht
  have hresume : Run.Inside i.workflow [] (e.resuming i others vars) := by
    refine ⟨rfl, fun hp => (h hp).of_subset rfl (List.Subset.refl _) fun w hw => ?_,
      fun _ hm => absurd hm List.not_mem_nil⟩
    exact hperm.mem_iff.2 (List.mem_cons_of_mem _ hw)
  exact ho ▸ Run.endsInside_resume e.surroundings hresume fun hp =>
    (h hp).pending item (hperm.mem_iff.2 List.mem_cons_self)

theorem kept_homely : Kept (fun _ => True) Homely where
  opened _ _ ho hp := by
    have hends := endsInside_started ho
    exact hends.inside.within (hends.inside.workflow_eq ▸ hp)
  resumed _ h _ ht ho hp := by
    have hends := endsInside_resumed h ht ho
    exact hends.inside.within (hends.inside.workflow_eq ▸ hp)
  suspended h _ hp := (h hp).of_eq rfl rfl rfl
  reactivated h _ hp := (h hp).of_eq rfl rfl rfl
  terminated _ _ _ := Instance.Within.of_nil rfl rfl

/-- **A call stays within closed workflows** at all its marks. -/
theorem Effect.marks_within (hx : Effect e c ms x) (h : e.Upholds Homely) :
    ∀ m ∈ ms, m.before.workflow.Closed → m.before.Within ∧ m.after.Within := by
  have hends : ∀ {p ms o}, Run.EndsInside p ms o →
      ∀ m ∈ ms, m.before.workflow.Closed → m.before.Within ∧ m.after.Within := by
    intro p ms o hends m hm hp
    obtain ⟨hw, hwithin⟩ := hends.inside.marks m hm
    exact hwithin (hw ▸ hp)
  cases hx with
  | started _ ho => exact hends (endsInside_started ho)
  | resumed hi _ ht ho => exact hends (endsInside_resumed (h.holds _ (mem_of_instance? hi).1) ht ho)
  | _ => exact fun _ hm => absurd hm List.not_mem_nil

/-- The instance that the last failure is of is the one that has run. -/
theorem not_isLost_of_ends {e' : Engine} {p : Workflow} {f : Failure} (hn : e'.Numbered)
    (hi : i ∈ e'.instances) (hlast : e'.FailedLast i f) (ho : o.2.inst ∈ e'.instances)
    (hran : e'.FailedLast o.2.inst f) (hends : Run.EndsInside p ms o)
    (hf : (o.1.map fun _ => Answer.inst o.2.inst) = .error f) (hp : i.workflow.Closed) :
    f.isLost = false := by
  -- the last event names the instance that has failed
  have hid : i.id = o.2.inst.id := by
    have hheads := Option.some.inj (hlast.head_log.symm.trans hran.head_log)
    injection hheads
  rw [hn.eq_of_id_eq hi ho hid, hends.inside.workflow_eq] at hp
  rcases o with ⟨f' | ⟨⟩, r⟩
  · cases hf
    exact hends.not_isLost hp f rfl
  · cases hf

/-- **No call fails an instance of a closed workflow** for an element that
is not there. -/
theorem Effect.not_isLost {f : Failure} (hx : Effect e c ms x) (h : e.Upholds Homely)
    (horderly : e.Orderly) (hf : x.1 = .error f) (hi : i ∈ x.2.instances)
    (hlast : x.2.FailedLast i f) (hp : i.workflow.Closed) : f.isLost = false := by
  have hn := hx.numbered h.numbered
  cases hx with
  | refused href =>
    cases hf
    cases f <;> first | rfl | cases href
  | started _ ho =>
    refine not_isLost_of_ends hn hi hlast ?_
      (failedLast_takeBack (failedWith_of_error (ends_started ho) hf)) (endsInside_started ho) hf hp
    rw [instances_started h.numbered ho]
    exact List.mem_append_right _ (List.mem_singleton_self _)
  | @resumed _ _ _ j _ _ _ hj hactive ht ho =>
    have hmem := (mem_of_instance? hj).1
    have hends := horderly.ends_resumed hmem hactive ho
    exact not_isLost_of_ends hn hi hlast ((mem_resumed hmem ho).2 (Or.inl rfl))
      (failedLast_takeBack (failedWith_of_error hends hf))
      (endsInside_resumed (h.holds j hmem) ht ho) hf hp
  | _ => cases hf

end Engine

end WorkflowCanvas
