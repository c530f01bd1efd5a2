import WorkflowCanvas.Canvas.Basic
import WorkflowCanvas.Json.Printer
import WorkflowCanvas.Json.Reader
/-!
# Canvases as documents

The document of a canvas is what a graphical modeller saves. Shapes nest, so
a shape is read with the depth of its document as fuel: every shape inside
another one lies deeper.
-/


namespace WorkflowCanvas

namespace Document

mutual

/-- How deep containers nest. -/
def depth : Document → Nat
  | .arr items => depthOfItems items + 1
  | .obj fields => depthOfFields fields + 1
  | _ => 0

/-- The greatest depth of the items. -/
def depthOfItems : List Document → Nat
  | [] => 0
  | d :: ds => max (depth d) (depthOfItems ds)

/-- The greatest depth of the fields. -/
def depthOfFields : List (String × Document) → Nat
  | [] => 0
  | (_, d) :: ds => max (depth d) (depthOfFields ds)

end

end Document

namespace Canvas

open Document (asString? asList? asFields?)

/-- A record with a single text. -/
def soleText? (field : String) (d : Document) : Option String := do
  let r ← Record.of? (Record.plain [field]) d
  r.required field asString?

/-- The document of a reference to a shape. -/
def refToDocument (id : String) : Document := .obj [("resourceId", .str id)]

/-- A reference to a shape from its document. -/
def refOfDocument? : Document → Option String := soleText? "resourceId"

/-- The document of a stencil. -/
def stencilToDocument (id : String) : Document := .obj [("id", .str id)]

/-- A stencil from its document. -/
def stencilOfDocument? : Document → Option String := soleText? "id"

namespace StencilSet

/-- A stencil set from its document. -/
def ofDocument? (d : Document) : Option StencilSet := do
  let r ← Record.of? (Record.plain ["namespace", "url"]) d
  let namespaceUri ← r.required "namespace" asString?
  let url ← r.required "url" asString?
  return { namespaceUri, url }

/-- The document of a stencil set. -/
def toDocument (s : StencilSet) : Document :=
  .obj [("namespace", .str s.namespaceUri), ("url", .str s.url)]

end StencilSet

namespace Shape

/-- A shape from its document, for documents at most as deep as the
fuel. -/
def read? : Nat → Document → Option Shape
  | 0, _ => none
  | fuel + 1, d => do
    let r ← Record.of? (Record.plain ["resourceId", "properties", "stencil", "childShapes",
      "bounds", "outgoing", "incoming", "dockers", "target"]) d
    let resourceId ← r.required "resourceId" asString?
    let properties ← r.required "properties" asFields?
    let stencil ← r.required "stencil" stencilOfDocument?
    let childShapes ← r.default "childShapes" [] (asList? (read? fuel))
    let bounds ← r.required "bounds" Rect.ofDocument?
    let outgoing ← r.default "outgoing" [] (asList? refOfDocument?)
    let incoming ← r.default "incoming" [] (asList? refOfDocument?)
    let dockers ← r.default "dockers" [] (asList? Point.ofDocument?)
    let target? ← r.optionalDefault "target" refOfDocument?
    return { resourceId, properties, stencil, childShapes, bounds, outgoing, incoming, dockers,
             target? }

/-- A shape from its document. -/
def ofDocument? (d : Document) : Option Shape := read? d.depth d

mutual

/-- The document of a shape. -/
def toDocument : Shape → Document
  | ⟨resourceId, properties, stencil, childShapes, bounds, outgoing, incoming, dockers, target?⟩ =>
    .obj <|
      [("resourceId", .str resourceId),
       ("properties", Document.fields properties),
       ("stencil", stencilToDocument stencil),
       ("childShapes", .arr (toDocuments childShapes)),
       ("bounds", bounds.toDocument),
       ("outgoing", Document.list refToDocument outgoing),
       ("incoming", Document.list refToDocument incoming)]
      ++ Document.fieldUnlessEmpty "dockers" (Document.list Point.toDocument) dockers
      ++ Document.field? "target" refToDocument target?

/-- The documents of a list of shapes. -/
def toDocuments : List Shape → List Document
  | [] => []
  | s :: rest => toDocument s :: toDocuments rest

end

end Shape

/-- A canvas from its document. -/
def ofDocument? (d : Document) : Option Canvas := do
  let r ← Record.of? (Record.plain ["resourceId", "properties", "stencil", "childShapes",
    "bounds", "stencilset", "ssextensions"]) d
  let resourceId ← r.required "resourceId" asString?
  let properties ← r.required "properties" asFields?
  let stencil ← r.required "stencil" stencilOfDocument?
  let childShapes ← r.required "childShapes" (asList? Shape.ofDocument?)
  let bounds ← r.required "bounds" Rect.ofDocument?
  let stencilSet ← r.default "stencilset" {} StencilSet.ofDocument?
  let extensions ← r.default "ssextensions" [] (asList? asString?)
  return { resourceId, properties, stencil, childShapes, bounds, stencilSet, extensions }

/-- The document of a canvas. -/
def toDocument (c : Canvas) : Document :=
  .obj [("resourceId", .str c.resourceId),
        ("properties", Document.fields c.properties),
        ("stencil", stencilToDocument c.stencil),
        ("childShapes", .arr (Shape.toDocuments c.childShapes)),
        ("bounds", c.bounds.toDocument),
        ("stencilset", c.stencilSet.toDocument),
        ("ssextensions", Document.list .str c.extensions)]

/-- A canvas from its text. -/
def parse? (s : String) : Option Canvas := (Document.parse? s).bind ofDocument?

end Canvas

end WorkflowCanvas
