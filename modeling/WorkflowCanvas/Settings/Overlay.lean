import WorkflowCanvas.Failure
import WorkflowCanvas.Json.Printer
import WorkflowCanvas.Json.Reader
import WorkflowCanvas.Settings.Basic
import WorkflowCanvas.Text.LetterCase
/-!
# Overlaying settings

An overlay is a document that changes some of the settings and leaves the
rest. It is applied part by part in a fixed order: identity, node types by
ascending tag, overrides, margin, aliases. An overlay can be rejected part
way, for a node type without a stencil or for a margin that is no length,
and what was applied before stays applied.
-/


namespace WorkflowCanvas

namespace Settings

open Document (asString? asFloat? asFields? asTable?)

/-- Changes to the identity. -/
structure IdentityOverlay where
  id? : Option String := none
  name? : Option String := none
  namespaceUri? : Option String := none

/-- Changes to settings. -/
structure Overlay where
  identity? : Option IdentityOverlay := none
  nodeTypes? : Option (Table Mapping) := none
  nodeOverrides? : Option (Table (Table Json)) := none
  edgeOverrides? : Option (Table (Table Json)) := none
  boundsPadding? : Option Float := none
  fieldAliases? : Option (Table String) := none

/-! ## Documents -/

/-- Role names from their document. -/
def Roles.ofDocument? (d : Document) : Option Roles := do
  let r ← Record.of? (Record.plain ["split", "join"]) d
  let split ← r.required "split" asString?
  let join ← r.required "join" asString?
  return { split, join }

/-- The document of role names. -/
def Roles.toDocument (r : Roles) : Document :=
  .obj [("split", .str r.split), ("join", .str r.join)]

/-- A mapping from its document. -/
def Mapping.ofDocument? (d : Document) : Option Mapping := do
  let r ← Record.of? (Record.plain ["stencil", "properties", "roles"]) d
  let stencil ← r.required "stencil" asString?
  let properties ← r.default "properties" [] asFields?
  let roles? ← r.optionalDefault "roles" Roles.ofDocument?
  return { stencil, properties, roles? }

/-- The document of a mapping. -/
def Mapping.toDocument (m : Mapping) : Document :=
  .obj <|
    [("stencil", .str m.stencil), ("properties", Document.fields m.properties)]
    ++ Document.field? "roles" Roles.toDocument m.roles?

/-- The document of an identity. -/
def Identity.toDocument (i : Identity) : Document :=
  .obj [("id", .str i.id), ("name", .str i.name), ("namespace", .str i.namespaceUri)]

/-- Changes to the identity from their document. -/
def IdentityOverlay.ofDocument? (d : Document) : Option IdentityOverlay := do
  let r ← Record.of? [("process_id", ["id"]), ("name", []), ("process_namespace", ["namespace"])] d
  let id? ← r.optionalDefault "process_id" asString?
  let name? ← r.optionalDefault "name" asString?
  let namespaceUri? ← r.optionalDefault "process_namespace" asString?
  return { id?, name?, namespaceUri? }

/-- The properties of an override from their document. -/
def overrideOfDocument? (d : Document) : Option (Table Json) := do
  let r ← Record.of? (Record.plain ["properties"]) d
  r.default "properties" [] asFields?

/-- An overlay from its document. -/
def Overlay.ofDocument? (d : Document) : Option Overlay := do
  let r ← Record.of? [("process", []), ("nodeTypeMap", ["nodeTypes"]), ("nodeOverrides", []),
    ("flowOverrides", ["edgeOverrides"]), ("flowBoundsPadding", ["boundsPadding"]),
    ("fieldAliases", [])] d
  let identity? ← r.optionalDefault "process" IdentityOverlay.ofDocument?
  let nodeTypes? ← r.optionalDefault "nodeTypeMap" (asTable? Mapping.ofDocument?)
  let nodeOverrides? ← r.optionalDefault "nodeOverrides" (asTable? overrideOfDocument?)
  let edgeOverrides? ← r.optionalDefault "flowOverrides" (asTable? overrideOfDocument?)
  let boundsPadding? ← r.optionalDefault "flowBoundsPadding" asFloat?
  let fieldAliases? ← r.optionalDefault "fieldAliases" (asTable? asString?)
  return { identity?, nodeTypes?, nodeOverrides?, edgeOverrides?, boundsPadding?, fieldAliases? }

/-! ## Application -/

/-- The identity with the changes. -/
def IdentityOverlay.applyTo (o : IdentityOverlay) (i : Identity) : Identity where
  id := o.id?.getD i.id
  name := o.name?.getD i.name
  namespaceUri := o.namespaceUri?.getD i.namespaceUri

/-- Adds mappings one by one, under their tags in lower case, up to the
first without a stencil. -/
def addTypes (types : Table Mapping) : List (String × Mapping) → Table Mapping × Option Failure
  | [] => (types, none)
  | (tag, mapping) :: rest =>
    if (Text.nonBlank? mapping.stencil).isNone then (types, some (.blankStencil tag))
    else addTypes (types.insert (Text.toLower tag) mapping) rest

/-- A margin is a length. -/
def isMargin (x : Float) : Bool := x.isFinite && !(x < 0)

/-- **Applies an overlay.** The settings are those that hold afterwards,
also when the overlay is rejected. -/
def apply (s : Settings) (o : Overlay) : Settings × Option Failure :=
  let s := match o.identity? with
    | some changes => { s with identity := changes.applyTo s.identity }
    | none => s
  let (types, rejected) := addTypes s.nodeTypes (o.nodeTypes?.getD [])
  let s := { s with nodeTypes := types }
  match rejected with
  | some failure => (s, some failure)
  | none =>
    let s := { s with
      nodeOverrides := s.nodeOverrides.insertAll (o.nodeOverrides?.getD [])
      edgeOverrides := s.edgeOverrides.insertAll (o.edgeOverrides?.getD []) }
    match o.boundsPadding? with
    | some padding =>
      if isMargin padding then
        ({ s with
            boundsPadding := padding
            fieldAliases := s.fieldAliases.insertAll (o.fieldAliases?.getD []) }, none)
      else (s, some (.invalidPadding padding))
    | none => ({ s with fieldAliases := s.fieldAliases.insertAll (o.fieldAliases?.getD []) }, none)

/-- Applies the overlay that a text holds. -/
def applyText (s : Settings) (text : String) : Settings × Option Failure :=
  match (Document.parse? text).bind Overlay.ofDocument? with
  | some overlay => s.apply overlay
  | none => (s, some .unreadableSettings)

/-- The standard settings under the overlay that a text holds. -/
def parse (text : String) : Except Failure Settings :=
  match standard.applyText text with
  | (s, none) => .ok s
  | (_, some failure) => .error failure

end Settings

end WorkflowCanvas
