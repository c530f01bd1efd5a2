import WorkflowCanvas.Conversion
import WorkflowCanvas.Proofs.Engine.Course
import WorkflowCanvas.Proofs.Engine.Within
/-!
# Sketches that are deployed and executed

A host may deploy a sketch, or execute it in one call. Either is a few
turns (`Act.turns`), so that all that holds after any turns holds after any
such acts. What a sketch is converted to is closed, under all settings;
hence its instances stay within it, and none of them fails for an element
that is not there (`sketches_stay_within`).
-/


namespace WorkflowCanvas

/-- **What a sketch is converted to is closed.** -/
theorem Conversion.closed_of_ofSketch {settings : Settings} {s : Sketch} {c : Conversion}
    (h : Conversion.ofSketch settings s = .ok c) : c.workflow.Closed := by
  rcases hp : Workflow.convert settings (Canvas.ofSketch settings s) with f | p <;>
    simp only [ofSketch, hp] at h <;> cases h
  exact Workflow.closed_of_convert hp

/-- A sketch that is not converted misses no element. -/
theorem Conversion.not_isLost_of_ofSketch {settings : Settings} {s : Sketch} {f : Failure}
    (h : Conversion.ofSketch settings s = .error f) : f.isLost = false := by
  rcases hp : Workflow.convert settings (Canvas.ofSketch settings s) with g | p <;>
    simp only [ofSketch, hp] at h <;> cases h
  unfold Workflow.convert Workflow.convertWith at hp
  split at hp <;> cases hp
  rfl

namespace Engine

open Operation (Library)

/-- What a host does that works with sketches. -/
inductive Act where
  | turn (t : Turn)
  | deploySketch (settings : Settings) (s : Sketch)
  | execute (settings : Settings) (s : Sketch) (vars : Table Json)

/-- **Does it**; the error is what the host is told. -/
def act (e : Engine) : Act → Except Failure Unit × Engine
  | .turn (.call c) => ((e.perform c).1.map fun _ => (), (e.perform c).2)
  | .turn (.lend library now) => (.ok (), e.turn (.lend library now))
  | .deploySketch settings s =>
    ((e.deploySketch settings s).1.map fun _ => (), (e.deploySketch settings s).2)
  | .execute settings s vars =>
    ((e.execute settings s vars).1.map fun _ => (), (e.execute settings s vars).2)

/-- An engine after some acts. -/
def afterActs (e : Engine) (acts : List Act) : Engine := acts.foldl (fun e a => (e.act a).2) e

/-- **The turns that an act consists of.** A sketch that is converted to
nothing is not deployed, and a workflow that cannot be deployed is not
started. -/
def Act.turns : Act → List Turn
  | .turn t => [t]
  | .deploySketch settings s =>
    match Conversion.ofSketch settings s with
    | .ok c => [.call (.deploy c.workflow)]
    | .error _ => []
  | .execute settings s vars =>
    match Conversion.ofSketch settings s with
    | .ok c =>
      .call (.deploy c.workflow) ::
        if c.workflow.startEvents.isEmpty then [] else [.call (.start c.workflow.id vars)]
    | .error _ => []

variable {e : Engine} {settings : Settings} {s : Sketch} {c : Conversion}

/-- **How an act is made up of turns**, and where what it answers comes
from. -/
inductive Does (e : Engine) : List Turn → Except Failure Unit × Engine → Prop
  /-- The last turn is a call, whose answer is the answer. -/
  | called (init : List Turn) (c : Call) : Does e (init ++ [.call c])
      (((e.after init).perform c).1.map fun _ => (), ((e.after init).perform c).2)
  /-- The operations or the time have changed. -/
  | lent (library : Library) (now : Nat) :
      Does e [.lend library now] (.ok (), e.turn (.lend library now))
  /-- There was nothing to deploy. -/
  | unconverted {f : Failure} : f.isLost = false → Does e [] (.error f, e)

theorem Does.after_eq {turns : List Turn} {x : Except Failure Unit × Engine} (h : Does e turns x) :
    x.2 = e.after turns := by
  cases h with
  | called init c => rw [after_append]; rfl
  | lent => rfl
  | unconverted => rfl

/-- **An act is made up of its turns.** -/
theorem does_act (e : Engine) (a : Act) : Does e a.turns (e.act a) := by
  cases a with
  | turn t =>
    cases t with
    | call c => exact Does.called [] c
    | lend library now => exact Does.lent library now
  | deploySketch settings s =>
    rcases hc : Conversion.ofSketch settings s with f | c
    · simp only [act, deploySketch, Act.turns, hc]
      exact Does.unconverted (Conversion.not_isLost_of_ofSketch hc)
    · have hdo := Does.called (e := e) [] (.deploy c.workflow)
      simp only [act, deploySketch, Act.turns, hc]
      simp only [after_nil, perform, answer] at hdo
      rcases hd : e.deploy c.workflow with ⟨_ | _, _⟩ <;> rw [hd] at hdo <;> exact hdo
  | execute settings s vars =>
    rcases hc : Conversion.ofSketch settings s with f | c
    · simp only [act, execute, deploySketch, Act.turns, hc]
      exact Does.unconverted (Conversion.not_isLost_of_ofSketch hc)
    · by_cases hstart : c.workflow.startEvents.isEmpty = true
      · have hdo := Does.called (e := e) [] (.deploy c.workflow)
        have hd : e.deploy c.workflow = (.error (.noStartEvent c.workflow.id), e) := if_pos hstart
        simp only [act, execute, deploySketch, Act.turns, hc, hstart, hd]
        simp only [after_nil, perform, answer, hd] at hdo
        exact hdo
      · have hdo := Does.called (e := e) [.call (.deploy c.workflow)]
          (.start c.workflow.id vars)
        have hd : e.deploy c.workflow =
          (.ok ⟨identifier e.drawn, c.workflow.id⟩, e.install c.workflow) := if_neg hstart
        simp only [act, execute, deploySketch, Act.turns, hc, hstart, hd]
        simp only [after_cons, after_nil, turn, perform, answer, hd] at hdo
        rcases hs : (e.install c.workflow).start c.workflow.id vars with ⟨_ | _, _⟩ <;>
          rw [hs] at hdo <;> exact hdo

/-- Acts are made up of all their turns. -/
theorem afterActs_eq (e : Engine) (acts : List Act) :
    e.afterActs acts = e.after (acts.flatMap Act.turns) := by
  induction acts generalizing e with
  | nil => rfl
  | cons a as ih =>
    rw [List.flatMap_cons, after_append, ← (does_act e a).after_eq]
    exact ih (e.act a).2

/-! ## Instances of sketches -/

/-- All marks are within closed workflows. -/
theorem chronicle_within {m : Mark} (turns : List Turn) (h : e.Upholds Homely)
    (hm : m ∈ e.chronicle turns) (hp : m.before.workflow.Closed) :
    m.before.Within ∧ m.after.Within := by
  induction turns generalizing e with
  | nil => cases hm
  | cons t ts ih =>
    rcases List.mem_append.1 hm with hm | hm
    · cases t with
      | call c => exact (effect_perform e c).marks_within h m hm hp
      | lend => cases hm
    · exact ih (upholds_turn kept_homely t trivial (fun _ _ _ => trivial) h).1 hm

/-- **The instances of a sketch stay within it.** Whatever the sketch and
the settings, every flow of what it is converted to leads from an element
to an element. After any acts of a host, an instance of it has tokens and
pending items at elements only, and so it had right before and right after
all that it did; and no further act fails such an instance for an element
that is not there. -/
theorem sketches_stay_within (library : Library) (stepLimit drawn now : Nat) (acts : List Act)
    (settings : Settings) (s : Sketch) (c : Conversion)
    (hc : Conversion.ofSketch settings s = .ok c) :
    let first := new library stepLimit drawn now
    let e := first.afterActs acts
    c.workflow.Closed ∧
    (∀ i ∈ e.instances, i.workflow = c.workflow → i.Within) ∧
    (∀ m ∈ first.chronicle (acts.flatMap Act.turns), m.before.workflow = c.workflow →
      m.before.Within ∧ m.after.Within) ∧
    ∀ a f, (e.act a).1 = .error f →
      ∀ i ∈ (e.act a).2.instances, (e.act a).2.FailedLast i f → i.workflow = c.workflow →
        f.isLost = false := by
  intro first e
  have hclosed := Conversion.closed_of_ofSketch hc
  have hupheld : ∀ turns, (first.after turns).Upholds Homely := fun turns =>
    kept_homely.after trivial fun _ _ _ => trivial
  have he : e = first.after (acts.flatMap Act.turns) := afterActs_eq first acts
  refine ⟨hclosed, fun i hi hw => ?_, fun m hm hw => ?_, fun a f hf i hi hlast hw => ?_⟩
  · rw [he] at hi
    exact (hupheld _).holds i hi (hw ▸ hclosed)
  · exact chronicle_within _ (hupheld []) hm (hw ▸ hclosed)
  · have hdoes := does_act e a
    rcases hx : e.act a with ⟨answer, e'⟩
    rw [hx] at hdoes hf hi hlast
    generalize a.turns = turns at hdoes
    cases hdoes with
    | called init call =>
      -- what the host is told comes from the last call of the act
      rw [he, ← after_append] at hf hi hlast
      refine (effect_perform _ call).not_isLost (hupheld _) (orderly_after ..) ?_ hi hlast
        (hw ▸ hclosed)
      rcases hp : ((first.after (acts.flatMap Act.turns ++ init)).perform call).1 with g | _ <;>
        rw [hp] at hf <;> cases hf
      rfl
    | lent => cases hf
    | unconverted hnot =>
      cases hf
      exact hnot

/-- **Executing a sketch starts an instance of it.** -/
theorem instances_execute (h : e.Numbered) (hc : Conversion.ofSketch settings s = .ok c)
    (hstart : c.workflow.startEvents ≠ []) (vars : Table Json) :
    ∃ i, (e.act (.execute settings s vars)).2.instances = e.instances ++ [i] ∧
      i.workflow = c.workflow := by
  have hinstall : e.deploy c.workflow =
      (.ok ⟨identifier e.drawn, c.workflow.id⟩, e.install c.workflow) := if_neg (by simpa using hstart)
  have hkey : (e.install c.workflow).deployments.get? c.workflow.id = some c.workflow :=
    Table.get?_insert_self ..
  have hnum : (e.install c.workflow).Numbered := h.install c.workflow
  have hturns : (Act.execute settings s vars).turns =
      [.call (.deploy c.workflow), .call (.start c.workflow.id vars)] := by
    simp only [Act.turns, hc, List.isEmpty_iff, if_neg hstart]
  rw [(does_act e _).after_eq, hturns]
  simp only [after_cons, after_nil, turn, perform, answer, hinstall, start_eq hkey, finish_snd]
  obtain ⟨o, ho⟩ : ∃ o, ((e.install c.workflow).opening c.workflow.id c.workflow vars).advance
    (e.install c.workflow).surroundings = o := ⟨_, rfl⟩
  rw [ho]
  exact ⟨o.2.inst, instances_started hnum ho, (extends_started ho).workflow_eq⟩

/-- The standard settings with a stencil that makes no element, and another
id for a node. -/
def reviewSettings : Settings :=
  { Settings.standard with
    nodeTypes := Settings.standardTypes ++ [("zone", { stencil := "Pool" })]
    nodeOverrides := [("n2", [("overrideid", .str "review")])] }

/-- A sketch of a review, with a node that makes no element. -/
def reviewSketch : Sketch where
  nodes := [{ id := "n1", outerTag? := "start" },
    { id := "n2", outerTag? := "user", data := { delegationId? := "Rate" } },
    { id := "n3", outerTag? := "zone" }, { id := "n4", outerTag? := "end" }]
  edges := [{ id := "a", source := "n1", target := "n2" },
    { id := "b", source := "n2", target := "n3" }, { id := "c", source := "n2", target := "n4" }]

/-- The review is executed and waits under the id that was forced on it; the
flow to the node without an element is gone. -/
theorem executed_review_stays_within :
    let e := (new {} 10 0 0).afterActs [.execute reviewSettings reviewSketch []]
    ∃ c, Conversion.ofSketch reviewSettings reviewSketch = .ok c ∧ c.workflow.Closed ∧
      c.workflow.flows.map (fun f => (f.source, f.target)) = [("n1", "review"), ("review", "n4")] ∧
      ∃ i ∈ e.instances, i.workflow = c.workflow ∧ i.Within ∧
        i.pending.map (·.nodeId) = ["review"] := by
  intro e
  have hread : (match Conversion.ofSketch reviewSettings reviewSketch with
      | .ok c => (c.workflow.startEvents.isEmpty,
          c.workflow.flows.map fun f => (f.source, f.target))
      | .error _ => (true, [])) = (false, [("n1", "review"), ("review", "n4")]) := by
    decide +kernel
  rcases hc : Conversion.ofSketch reviewSettings reviewSketch with f | c <;> rw [hc] at hread
  · cases hread
  obtain ⟨hstart, hflows⟩ := Prod.mk.inj hread
  obtain ⟨hclosed, hwithin, -⟩ := sketches_stay_within {} 10 0 0
    [.execute reviewSettings reviewSketch []] reviewSettings reviewSketch c hc
  obtain ⟨i, hi, hw⟩ := instances_execute (numbered_new {} 10 0 0) hc (by simpa using hstart) []
  have hmem : i ∈ e.instances := by
    show i ∈ ((new {} 10 0 0).act (.execute reviewSettings reviewSketch [])).2.instances
    rw [hi]
    exact List.mem_append_right _ (List.mem_singleton_self i)
  have hpending : ∀ j ∈ e.instances, j.pending.map (·.nodeId) = ["review"] := by decide +kernel
  exact ⟨c, rfl, hclosed, hflows, i, hmem, hw, hwithin i hmem hw, hpending i hmem⟩

end Engine

end WorkflowCanvas
