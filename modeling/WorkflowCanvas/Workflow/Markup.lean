import WorkflowCanvas.Decimal.Layout
import WorkflowCanvas.Workflow.Basic
/-!
# The markup of a workflow

A workflow is deployed as an XML document with a diagram. Metadata is
written as children of an element, under the name of its key where the key
can name an element, and else under a general name with the key in an
attribute. Everything taken from the workflow is escaped.
-/


namespace WorkflowCanvas

namespace Workflow

namespace Markup

/-- The namespace of the extension attributes and elements. -/
def extensionNamespace : String := "http://flowable.org/bpmn"

/-- The characters that are escaped, each with what stands for it, in the
order in which they are replaced. The ampersand is the first, as what stands
for the others holds one. -/
def entities : List (Char × List Char) :=
  [('&', ['&', 'a', 'm', 'p', ';']), ('<', ['&', 'l', 't', ';']), ('>', ['&', 'g', 't', ';']),
    ('"', ['&', 'q', 'u', 'o', 't', ';'])]

/-- A text with a character replaced wherever it stands. -/
def replaceAll (c : Char) (text cs : List Char) : List Char :=
  cs.flatMap fun d => if d = c then text else [d]

/-- A text with the special characters escaped, one of them after the
other. -/
def escape (s : String) : String :=
  String.ofList (entities.foldl (fun cs entity => replaceAll entity.1 entity.2 cs) s.toList)

/-- An attribute with a blank before it. -/
def attr (name value : String) : String := " " ++ name ++ "=\"" ++ escape value ++ "\""

/-- An attribute that is left out when it is absent. -/
def attr? (name : String) : Option String → String
  | some value => attr name value
  | none => ""

/-- An element on a line of its own that holds text. -/
def textLine (indent tag attributes text : String) : String :=
  indent ++ "<" ++ tag ++ attributes ++ ">" ++ escape text ++ "</" ++ tag ++ ">\n"

/-- An element with a body of lines, or without one. -/
def block (indent tag attributes body : String) : String :=
  if body = "" then indent ++ "<" ++ tag ++ attributes ++ " />\n"
  else indent ++ "<" ++ tag ++ attributes ++ ">\n" ++ body ++ indent ++ "</" ++ tag ++ ">\n"

/-- A key can name an element: an ASCII letter or `_`, then ASCII letters,
digits, `_`, `-` and `.`. -/
def isElementName (key : String) : Bool :=
  match key.toList with
  | [] => false
  | c :: cs =>
    (c.isAlpha || c == '_')
    && cs.all fun c => c.isAlphanum || c == '_' || c == '-' || c == '.'

/-- The line of one piece of metadata. -/
def extensionLine (key value : String) : String :=
  if isElementName key then textLine "        " ("flowable:" ++ key) "" value
  else textLine "        " "flowable:field" (attr "name" key) value

/-- The metadata of an element, without the blank values. -/
def extensionBlock (x : Extensions) : String :=
  let entries := x.entries.filter fun e => (Text.nonBlank? e.2).isSome
  if entries.isEmpty then ""
  else block "      " "extensionElements" ""
    (String.join (entries.map fun e => extensionLine e.1 e.2))

/-- The attributes of a kind. -/
def kindAttributes : ElementKind → String
  | .serviceTask implementation? asynchronous exclusive =>
    (match implementation? with
      | some ⟨.className, reference⟩ => attr "flowable:class" reference
      | some ⟨.expression, reference⟩ => attr "flowable:expression" reference
      | some ⟨.delegateExpression, reference⟩ => attr "flowable:delegateExpression" reference
      | none => "")
    ++ (if asynchronous then attr "flowable:async" "true" else "")
    ++ (if exclusive then "" else attr "flowable:exclusive" "false")
  | .userTask assignee? candidateGroups priority? =>
    attr? "flowable:assignee" assignee?
    ++ (if candidateGroups.isEmpty then ""
        else attr "flowable:candidateGroups" (",".intercalate candidateGroups))
    ++ attr? "flowable:priority" (priority?.map fun n => toString n)
  | .scriptTask format? _ => attr? "scriptFormat" format?
  | _ => ""

/-- The body of a kind. -/
def kindBody : ElementKind → String
  | .scriptTask _ (some script) => textLine "      " "script" "" script
  | _ => ""

/-- An element. -/
def element (e : Element) : String :=
  block "    " e.kind.tag
    (attr "id" e.id ++ attr? "name" e.name? ++ kindAttributes e.kind)
    ((match e.documentation? with
        | some text => textLine "      " "documentation" "" text
        | none => "")
      ++ extensionBlock e.extensions ++ kindBody e.kind)

/-- A flow. -/
def flow (f : Flow) : String :=
  block "    " "sequenceFlow"
    (attr "id" f.id ++ attr? "name" f.name? ++ attr "sourceRef" f.source
      ++ attr "targetRef" f.target)
    (match f.condition? with
      | some condition => textLine "      " "conditionExpression"
          (attr "xsi:type" "tFormalExpression") condition
      | none => "")

/-- The shape of an element in the diagram, if it has bounds. -/
def diagramShape (e : Element) : String :=
  match e.bounds? with
  | some bounds =>
    block "      " "bpmndi:BPMNShape"
      (attr "id" ("BPMNShape_" ++ e.id) ++ attr "bpmnElement" e.id)
      (block "        " "dc:Bounds"
        (attr "x" (Decimal.tenths bounds.upperLeft.x)
          ++ attr "y" (Decimal.tenths bounds.upperLeft.y)
          ++ attr "width" (Decimal.tenths bounds.width)
          ++ attr "height" (Decimal.tenths bounds.height)) "")
  | none => ""

/-- The middle of the element with an id, if it has bounds. -/
def centerOf? (p : Workflow) (id : String) : Option Point :=
  (p.element? id).bind fun e => e.bounds?.map Rect.center

/-- A point on the way of a flow. -/
def waypoint (p : Point) : String :=
  block "        " "di:waypoint"
    (attr "x" (Decimal.tenths p.x) ++ attr "y" (Decimal.tenths p.y)) ""

/-- The way of a flow in the diagram, if both its ends have bounds. -/
def diagramEdge (p : Workflow) (f : Flow) : String :=
  match centerOf? p f.source, centerOf? p f.target with
  | some start, some stop =>
    block "      " "bpmndi:BPMNEdge"
      (attr "id" ("BPMNEdge_" ++ f.id) ++ attr "bpmnElement" f.id)
      (waypoint start ++ waypoint stop)
  | _, _ => ""

/-- A tag that opens, a body that may be empty, and a tag that closes. -/
def enclosed (indent tag attributes body : String) : String :=
  indent ++ "<" ++ tag ++ attributes ++ ">\n" ++ body ++ indent ++ "</" ++ tag ++ ">\n"

/-- The declared namespaces, one a line. -/
def namespaces : String :=
  " xmlns=\"http://www.omg.org/spec/BPMN/20100524/MODEL\"\n"
  ++ "             xmlns:xsi=\"http://www.w3.org/2001/XMLSchema-instance\"\n"
  ++ "             xmlns:flowable=\"http://flowable.org/bpmn\"\n"
  ++ "             xmlns:bpmndi=\"http://www.omg.org/spec/BPMN/20100524/DI\"\n"
  ++ "             xmlns:dc=\"http://www.omg.org/spec/DD/20100524/DC\"\n"
  ++ "             xmlns:di=\"http://www.omg.org/spec/DD/20100524/DI\"\n"
  ++ "            "

end Markup

open Markup

/-- **The markup of a workflow.** -/
def markup (p : Workflow) : String :=
  "<?xml version=\"1.0\" encoding=\"UTF-8\"?>\n"
  ++ enclosed "" "definitions"
    (namespaces ++ attr "targetNamespace" (p.namespaceUri?.getD extensionNamespace))
    (enclosed "  " "process"
      (attr "id" p.id ++ attr? "name" p.name? ++ attr "isExecutable" "true")
      (String.join (p.elements.map element) ++ String.join (p.flows.map flow))
    ++ enclosed "  " "bpmndi:BPMNDiagram" (attr "id" ("BPMNDiagram_" ++ p.id))
      (enclosed "    " "bpmndi:BPMNPlane"
        (attr "id" ("BPMNPlane_" ++ p.id) ++ attr "bpmnElement" p.id)
        (String.join (p.elements.map diagramShape)
          ++ String.join (p.flows.map (diagramEdge p)))))

end Workflow

end WorkflowCanvas
