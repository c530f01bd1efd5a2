import WorkflowCanvas.Proofs.Engine.Roster
/-!
# The order in which instances are kept

Nothing that an engine answers depends on the order in which it keeps its
instances. A call to an engine that keeps them in another order has the same
answer, and leaves it with the same instances in another order again
(`Rearranged.perform`). So runs in which the instances are put in any order
before every turn (`LeadsTo`) end where the run ends in which they stay as they
are, up to their order (`leadsTo_iff`), and are answered as it is
(`LeadsTo.perform`).
-/


namespace WorkflowCanvas

namespace Engine

/-- An engine that keeps the instances of another one, in whatever order. -/
def Rearranged (e e' : Engine) : Prop :=
  ∃ entries, entries.Perm e.roster.entries ∧ e' = { e with roster := { e.roster with entries } }

/-- Two outcomes with one answer, and with engines that differ in the order of
their instances only. -/
def Alike {α : Type} (x x' : Except Failure α × Engine) : Prop :=
  x'.1 = x.1 ∧ Rearranged x.2 x'.2

theorem Alike.answer {α : Type} {x x' : Except Failure α × Engine} (h : Alike x x')
    (f : α → Answer) : Alike (answer f x) (answer f x') :=
  ⟨congrArg (Except.map f) h.1, h.2⟩

variable {e e' e'' : Engine} {turns : List Turn}

namespace Rearranged

theorem refl (e : Engine) : Rearranged e e := ⟨_, .refl _, rfl⟩

theorem trans (hr : Rearranged e e') (hr' : Rearranged e' e'') : Rearranged e e'' := by
  obtain ⟨_, hperm, rfl⟩ := hr
  obtain ⟨entries, hperm', rfl⟩ := hr'
  exact ⟨entries, hperm'.trans hperm, rfl⟩

/-! ## What is not kept with the instances -/

theorem deployments_eq (hr : Rearranged e e') : e'.deployments = e.deployments := by
  obtain ⟨_, _, rfl⟩ := hr
  rfl

theorem surroundings_eq (hr : Rearranged e e') : e'.surroundings = e.surroundings := by
  obtain ⟨_, _, rfl⟩ := hr
  rfl

theorem drawn_eq (hr : Rearranged e e') : e'.drawn = e.drawn := by
  obtain ⟨_, _, rfl⟩ := hr
  rfl

/-! ## What is read off the instances -/

theorem snapshot_eq (hr : Rearranged e e') (h : e.Numbered) (keep : InstanceState → Bool) :
    e'.roster.snapshot keep = e.roster.snapshot keep := by
  obtain ⟨_, hperm, rfl⟩ := hr
  exact h.counted.snapshot_of_perm hperm keep

theorem numbered (hr : Rearranged e e') (h : e.Numbered) : e'.Numbered := by
  have hinstances : e'.instances = e.instances := hr.snapshot_eq h _
  obtain ⟨_, hperm, rfl⟩ := hr
  exact ⟨hinstances ▸ h.toNamed, h.counted.of_perm hperm⟩

/-- An id is found wherever its instance is kept. -/
theorem instance?_eq (hr : Rearranged e e') (h : e.Numbered) (id : String) :
    e'.instance? id = e.instance? id := by
  have hinstances : e'.instances = e.instances := hr.snapshot_eq h _
  refine Option.ext fun i => ?_
  rw [instance?_eq_some_iff (hr.numbered h), instance?_eq_some_iff h, hinstances]

theorem status_eq (hr : Rearranged e e') (h : e.Numbered) (id : String) :
    e'.status id = e.status id := by
  rw [status, status, hr.instance?_eq h]

/-! ## What is done to the instances -/

theorem enrol (hr : Rearranged e e') (i : Instance) : Rearranged (e.enrol i) (e'.enrol i) := by
  obtain ⟨_, hperm, rfl⟩ := hr
  exact ⟨_, hperm.cons _, rfl⟩

theorem move (hr : Rearranged e e') (i : Instance) (v : Event) :
    Rearranged (e.move i v) (e'.move i v) := by
  obtain ⟨_, hperm, rfl⟩ := hr
  exact ⟨_, hperm.map _, rfl⟩

theorem takeBack (hr : Rearranged e e') (r : Run) : Rearranged (e.takeBack r) (e'.takeBack r) := by
  obtain ⟨_, hperm, rfl⟩ := hr
  exact ⟨_, hperm.map _, rfl⟩

theorem finish (hr : Rearranged e e') (o : Except Failure Unit × Run) :
    Alike (e.finish o) (e'.finish o) := by
  rcases o with ⟨_ | _, r⟩
  · exact ⟨rfl, hr.takeBack r⟩
  · exact ⟨rfl, hr.takeBack r⟩

/-! ## Calls -/

theorem deploy (hr : Rearranged e e') (p : Workflow) : Alike (e.deploy p) (e'.deploy p) := by
  obtain ⟨entries, hperm, rfl⟩ := hr
  unfold Engine.deploy
  split
  · exact ⟨rfl, entries, hperm, rfl⟩
  · exact ⟨rfl, entries, hperm, rfl⟩

theorem start (hr : Rearranged e e') (key : String) (vars : Table Json) :
    Alike (e.start key vars) (e'.start key vars) := by
  rcases hp : e.deployments.get? key with _ | p
  · rw [Engine.start, Engine.start, hr.deployments_eq, hp]
    exact ⟨rfl, hr⟩
  · have hopening : e'.opening key p vars = e.opening key p vars := by
      rw [opening, opening, hr.drawn_eq]
    rw [start_eq hp, start_eq (hr.deployments_eq ▸ hp), hopening, hr.surroundings_eq]
    exact (hr.enrol _).finish _

theorem complete (hr : Rearranged e e') (h : e.Numbered) (id name : String) (vars : Table Json) :
    Alike (e.complete id name vars) (e'.complete id name vars) := by
  have hi := hr.instance?_eq h id
  rcases hfound : e.instance? id with _ | i
  · rw [Engine.complete, Engine.complete, hi, hfound]
    exact ⟨rfl, hr⟩
  by_cases hactive : i.state = .active
  · rcases ht : takeItem? name i.pending with _ | ⟨item, others⟩
    · have hs : i.requireState .active = .ok () := if_pos hactive
      simp only [Engine.complete, hi, hfound, hs, ht]
      exact ⟨rfl, hr⟩
    · have hresuming : e'.resuming i others vars = e.resuming i others vars := by
        rw [resuming, resuming, hr.drawn_eq]
      rw [complete_eq hfound hactive ht, complete_eq (hi.trans hfound) hactive ht, hresuming,
        hr.surroundings_eq]
      exact hr.finish _
  · have hs : i.requireState .active = .error (.wrongState i.id i.state) := if_neg hactive
    simp only [Engine.complete, hi, hfound, hs]
    exact ⟨rfl, hr⟩

theorem suspend (hr : Rearranged e e') (h : e.Numbered) (id : String) :
    Alike (e.suspend id) (e'.suspend id) := by
  rw [Engine.suspend, Engine.suspend, hr.instance?_eq h]
  rcases e.instance? id with _ | i
  · exact ⟨rfl, hr⟩
  dsimp only
  rcases i.requireState .active with f | ⟨⟩
  · exact ⟨rfl, hr⟩
  · exact ⟨rfl, hr.move _ _⟩

theorem resume (hr : Rearranged e e') (h : e.Numbered) (id : String) :
    Alike (e.resume id) (e'.resume id) := by
  rw [Engine.resume, Engine.resume, hr.instance?_eq h]
  rcases e.instance? id with _ | i
  · exact ⟨rfl, hr⟩
  dsimp only
  rcases i.requireState .suspended with f | ⟨⟩
  · exact ⟨rfl, hr⟩
  · exact ⟨rfl, hr.move _ _⟩

theorem terminate (hr : Rearranged e e') (h : e.Numbered) (id : String) (reason? : Option String) :
    Alike (e.terminate id reason?) (e'.terminate id reason?) := by
  rw [Engine.terminate, Engine.terminate, hr.instance?_eq h]
  rcases e.instance? id with _ | i
  · exact ⟨rfl, hr⟩
  dsimp only
  split
  · exact ⟨rfl, hr.move _ _⟩
  · exact ⟨rfl, hr⟩

/-- **A call is answered alike** whatever the order of the instances. -/
theorem perform (hr : Rearranged e e') (h : e.Numbered) (c : Call) :
    Alike (e.perform c) (e'.perform c) := by
  cases c with
  | deploy p => exact (hr.deploy p).answer _
  | start key vars => exact (hr.start key vars).answer _
  | complete id name vars => exact (hr.complete h id name vars).answer _
  | suspend id => exact (hr.suspend h id).answer _
  | resume id => exact (hr.resume h id).answer _
  | terminate id reason? => exact (hr.terminate h id reason?).answer _
  | status id => exact Alike.answer ⟨hr.status_eq h id, hr⟩ _
  | pending id => exact Alike.answer ⟨congrArg (Except.map _) (hr.status_eq h id), hr⟩ _
  | active =>
    rw [Engine.perform, Engine.perform, active, active, hr.snapshot_eq h]
    exact ⟨rfl, hr⟩
  | completed =>
    rw [Engine.perform, Engine.perform, completed, completed, hr.snapshot_eq h]
    exact ⟨rfl, hr⟩
  | deployedKeys =>
    rw [Engine.perform, Engine.perform, deployedKeys, deployedKeys, hr.deployments_eq]
    exact ⟨rfl, hr⟩

theorem turn (hr : Rearranged e e') (h : e.Numbered) (t : Turn) :
    Rearranged (e.turn t) (e'.turn t) := by
  cases t with
  | call c => exact (hr.perform h c).2
  | lend library now =>
    obtain ⟨entries, hperm, rfl⟩ := hr
    exact ⟨entries, hperm, rfl⟩

theorem after (hr : Rearranged e e') (h : e.Numbered) (turns : List Turn) :
    Rearranged (e.after turns) (e'.after turns) := by
  induction turns generalizing e e' with
  | nil => exact hr
  | cons t ts ih => exact ih (hr.turn h t) (numbered_turn e t h)

end Rearranged

/-! ## Runs -/

/-- **The engines that some turns may lead to** where the instances can be put in
another order before every turn, and at the end. -/
inductive LeadsTo : Engine → List Turn → Engine → Prop
  | done {e e' : Engine} : Rearranged e e' → LeadsTo e [] e'
  | turn {e e' e'' : Engine} {t : Turn} {ts : List Turn} :
      Rearranged e e' → LeadsTo (e'.turn t) ts e'' → LeadsTo e (t :: ts) e''

/-- **Only the order of the instances differs** from where they stay as they are. -/
theorem leadsTo_iff (h : e.Numbered) : LeadsTo e turns e' ↔ Rearranged (e.after turns) e' := by
  constructor
  · intro hl
    induction hl with
    | done hr => exact hr
    | @turn e e₁ e₂ t ts hr _ ih =>
      have hlater := ih (numbered_turn e₁ t (hr.numbered h))
      exact ((hr.turn h t).after (numbered_turn e t h) ts).trans hlater
  · intro hr
    induction turns generalizing e with
    | nil => exact .done hr
    | cons t ts ih => exact .turn (.refl e) (ih (numbered_turn e t h) hr)

/-- **Nothing that an engine answers shows the order** in which its instances are
kept, after any turns. -/
theorem LeadsTo.perform (h : e.Numbered) (hl : LeadsTo e turns e') (c : Call) :
    (e'.perform c).1 = ((e.after turns).perform c).1 :=
  (((leadsTo_iff h).1 hl).perform (after_induct numbered_turn h turns) c).1

end Engine

end WorkflowCanvas
