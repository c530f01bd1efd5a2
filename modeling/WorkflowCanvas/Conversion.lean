import WorkflowCanvas.Canvas.Codec
import WorkflowCanvas.Canvas.OfSketch
import WorkflowCanvas.Engine.Basic
import WorkflowCanvas.Workflow.Markup
import WorkflowCanvas.Sketch.Codec
/-!
# Conversions

A conversion takes a sketch all the way: its canvas, the workflow of that
canvas, and the markup of that workflow. An engine can deploy the outcome,
and execute it in one call.
-/


namespace WorkflowCanvas

/-- All that comes of a sketch. -/
structure Conversion where
  canvas : Canvas
  workflow : Workflow
  markup : String

namespace Conversion

/-- **Converts a sketch.** -/
def ofSketch (settings : Settings) (s : Sketch) : Except Failure Conversion :=
  let canvas := Canvas.ofSketch settings s
  (Workflow.convert settings canvas).map fun workflow =>
    { canvas, workflow, markup := workflow.markup }

/-- The text of the canvas. -/
def canvasText (c : Conversion) : String := c.canvas.toDocument.pretty

/-- The files that record a conversion: their names, after the id of the
workflow, and their texts. -/
def artifacts (c : Conversion) : List (String × String) :=
  [(c.workflow.id ++ ".editor.json", c.canvasText), (c.workflow.id ++ ".bpmn20.xml", c.markup)]

end Conversion

namespace Sketch

/-- A sketch from its text, or that it is none. -/
def ofText (text : String) : Except Failure Sketch :=
  match parse? text with
  | some s => .ok s
  | none => .error .unreadableSketch

end Sketch

/-- What comes of executing a sketch. -/
structure Execution where
  deployment : Deployment
  inst : Instance

/-- The document of an execution. -/
def Execution.toDocument (x : Execution) : Document :=
  .obj [("deployment", x.deployment.toDocument), ("instance", x.inst.toDocument)]

namespace Engine

/-- Converts a sketch and deploys its workflow. -/
def deploySketch (e : Engine) (settings : Settings) (s : Sketch) :
    Except Failure Deployment × Engine :=
  match Conversion.ofSketch settings s with
  | .ok c => e.deploy c.workflow
  | .error failure => (.error failure, e)

/-- **Converts a sketch, deploys its workflow and starts an instance.** -/
def execute (e : Engine) (settings : Settings) (s : Sketch) (vars : Table Json) :
    Except Failure Execution × Engine :=
  match e.deploySketch settings s with
  | (.error failure, e) => (.error failure, e)
  | (.ok deployment, e) =>
    match e.start deployment.workflowKey vars with
    | (.error failure, e) => (.error failure, e)
    | (.ok inst, e) => (.ok { deployment, inst }, e)

end Engine

end WorkflowCanvas
