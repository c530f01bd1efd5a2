import WorkflowCanvas.Proofs.Engine.Mark
/-!
# What a run carries along

`Handled` lists what the completion of a work item comes to, as `Visited`
does for a visit. A property of runs and of the marks they have left so far
is carried along if taking a token off the queue and every visit that
succeeds keep it (`Carries`); it then tells how the run ends
(`Carries.advance`), also where the run begins with a completion
(`Carries.resume`).
-/


namespace WorkflowCanvas

namespace Run

open Operation (Context)

variable {s : Surroundings} {r r' : Run} {e : Workflow.Element} {f : Failure}

/-- **What the completion of a work item comes to** at its element. -/
inductive Handled (s : Surroundings) (r : Run) (e : Workflow.Element) :
    Except Failure Unit × Run → Prop
  /-- The element names no operation. -/
  | confirmed : e.operationId? = none →
      Handled s r e (.ok (), (r.emit (.stepCompleted r.inst.id e.id)).follow e.id)
  /-- The operation has succeeded. -/
  | served {c : Context} : s.library.dispatch (r.stepContext s e) = (.ok (), c) →
      Handled s r e (.ok (), (r.worked e c).follow e.id)
  /-- The operation has given up. -/
  | gaveUp {c : Context} {f : Failure} : s.library.dispatch (r.stepContext s e) = (.error f, c) →
      Handled s r e (.error f, (r.interrupted e c f).fail f)

/-- **A completion comes to one of these.** -/
theorem handled_completeItem (s : Surroundings) {item : WorkItem}
    (he : r.inst.workflow.element? item.nodeId = some e) :
    Handled s r e (r.completeItem s item) := by
  simp only [completeItem, he, Engine.completeStep]
  by_cases hop : e.operationId?.isSome = true
  · rw [if_pos hop, runStep_eq]
    rcases hd : s.library.dispatch (r.stepContext s e) with ⟨f | ⟨⟩, c⟩
    · exact Handled.gaveUp hd
    · exact Handled.served hd
  · rw [if_neg hop]
    exact Handled.confirmed (by simpa using hop)

/-- **A run carries something along**: `Q` holds of it and the marks it has
left so far, and once it has ended, `R` holds of its end and all of its
marks. -/
structure Carries (s : Surroundings) (Q : List Mark → Run → Prop)
    (R : List Mark → Except Failure Unit × Run → Prop) : Prop where
  pop : ∀ {ms : List Mark} {r : Run} {id : String} {rest : List String},
    Q ms r → r.inst.tokens = id :: rest → Q ms (r.pop rest)
  visit : ∀ {ms : List Mark} {r r' : Run} {e : Workflow.Element}, Q ms r →
    r.inst.workflow.element? e.id = some e → Visited s r e (.ok (), r') →
    Q (ms ++ [r.mark none e (.ok (), r')]) r'
  gaveUp : ∀ {ms : List Mark} {r r' : Run} {e : Workflow.Element} {f : Failure}, Q ms r →
    r.inst.workflow.element? e.id = some e → Visited s r e (.error f, r') →
    R (ms ++ [r.mark none e (.error f, r')]) (.error f, r')
  settle : ∀ {ms : List Mark} {r : Run}, Q ms r → r.inst.tokens = [] → R ms (.ok (), r.settle)
  limit : ∀ {ms : List Mark} {r : Run} {f : Failure}, Q ms r → f = .stepLimit r.inst.id s.stepLimit →
    R ms (.error f, r.fail f)
  lost : ∀ {ms : List Mark} {r : Run} {id : String} {rest : List String} {f : Failure}, Q ms r →
    r.inst.tokens = id :: rest → r.inst.workflow.element? id = none →
    f = .unknownElement r.inst.id id → R ms (.error f, (r.pop rest).fail f)

namespace Carries

variable {Q : List Mark → Run → Prop} {R : List Mark → Except Failure Unit × Run → Prop}

theorem advanceFrom (hc : Carries s Q R) (fuel : Nat) {ms : List Mark} (h : Q ms r) :
    R (ms ++ marksFrom s fuel r) (Run.advanceFrom s fuel r) := by
  induction fuel generalizing r ms with
  | zero =>
    rw [marksFrom_zero, List.append_nil]
    rcases ht : r.inst.tokens with _ | ⟨id, rest⟩
    · rw [advanceFrom_nil ht]
      exact hc.settle h ht
    · rw [advanceFrom_zero ht]
      exact hc.limit (hc.pop h ht) rfl
  | succ fuel ih =>
    rcases ht : r.inst.tokens with _ | ⟨id, rest⟩
    · rw [advanceFrom_nil ht, marksFrom_nil ht, List.append_nil]
      exact hc.settle h ht
    · rw [advanceFrom_succ ht, marksFrom_succ ht]
      rcases he : r.inst.workflow.element? id with _ | e
      · rw [List.append_nil]
        exact hc.lost h ht he rfl
      · have hself : (r.pop rest).inst.workflow.element? e.id = some e := by
          have hid : e.id = id := by simpa using List.find?_some he
          exact hid ▸ he
        have hvisited := visited_visit s (r.pop rest) e
        dsimp only
        rw [List.append_cons]
        rcases hv : (r.pop rest).visit s e with ⟨f | ⟨⟩, r'⟩ <;> rw [hv] at hvisited
        · rw [List.append_nil]
          exact hc.gaveUp (hc.pop h ht) hself hvisited
        · exact ih (hc.visit (hc.pop h ht) hself hvisited)

/-- **What is carried along tells the end.** -/
theorem advance (hc : Carries s Q R) (ms : List Mark) (h : Q ms r) : R (ms ++ r.marks s) (r.advance s) :=
  hc.advanceFrom _ h

/-- **A run that begins with a completion**: it is carried along if the
completion keeps it. -/
theorem resume (hc : Carries s Q R) (ms : List Mark) {item : WorkItem}
    (hok : ∀ e r', r.inst.workflow.element? item.nodeId = some e → Handled s r e (.ok (), r') →
      Q (ms ++ [r.mark (some item) e (.ok (), r')]) r')
    (hfail : ∀ e f r', r.inst.workflow.element? item.nodeId = some e →
      Handled s r e (.error f, r') → R (ms ++ [r.mark (some item) e (.error f, r')]) (.error f, r'))
    (hlost : ∀ f, r.inst.workflow.element? item.nodeId = none →
      f = .workItemWithoutElement item.nodeId → R ms (.error f, r.fail f)) :
    R (ms ++ r.resumeMarks s item) (r.resume s item) := by
  rcases he : r.inst.workflow.element? item.nodeId with _ | e
  · simp only [resumeMarks, Run.resume, completeItem, he, List.append_nil]
    exact hlost _ he rfl
  · have hhandled := handled_completeItem s he
    simp only [resumeMarks, Run.resume, he]
    rw [List.append_cons]
    rcases ho : r.completeItem s item with ⟨f | ⟨⟩, r'⟩ <;> rw [ho] at hhandled
    · rw [List.append_nil]
      exact hfail e f r' he hhandled
    · exact hc.advance _ (hok e r' he hhandled)

end Carries

end Run

end WorkflowCanvas
