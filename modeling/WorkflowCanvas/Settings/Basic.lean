import WorkflowCanvas.Json.Record
/-!
# Settings of the compiler

How a sketch becomes a canvas: the identity of the workflow, the stencil
and the default properties behind each node type, properties forced on
single nodes and edges, the margin around connections, and other names for
custom fields. `Settings.standard` is what holds when nothing is said.
-/


namespace WorkflowCanvas

namespace Settings

/-- The identity of a workflow. -/
structure Identity where
  id : String
  name : String
  namespaceUri : String
deriving BEq, DecidableEq

/-- The names of a gateway that splits and of one that joins. -/
structure Roles where
  split : String
  join : String
deriving BEq, DecidableEq

/-- The stencil of a node type with its default properties. -/
structure Mapping where
  stencil : String
  properties : Table Json := []
  roles? : Option Roles := none
deriving BEq

end Settings

/-- The settings of the compiler. -/
structure Settings where
  identity : Settings.Identity
  /-- Mappings by type tag in lower case. -/
  nodeTypes : Table Settings.Mapping
  /-- The mapping of an unknown or absent type tag. -/
  fallback : Settings.Mapping
  /-- Properties merged over everything else, by node id. -/
  nodeOverrides : Table (Table Json)
  /-- Properties merged over those of an edge, by edge id. -/
  edgeOverrides : Table (Table Json)
  /-- The margin around the bounds of a connection. -/
  boundsPadding : Float
  /-- The keys that custom fields are stored under, where they differ. -/
  fieldAliases : Table String
deriving BEq

namespace Settings

/-- The reference every service step is pointed at. -/
def dispatcherRef : String := "flow_engine::dispatch::OperationDispatcher"

/-- The identity of a workflow that was given none. -/
def Identity.standard : Identity where
  id := "ConvertedProcess"
  name := "Converted Process"
  namespaceUri := "http://flowable.org/test"

/-- The standard node types. -/
def standardTypes : Table Mapping :=
  [("end", { stencil := "EndNoneEvent" }),
   ("exclusive", { stencil := "ExclusiveGateway", properties := [("name", .str "")] }),
   ("parallel", { stencil := "ParallelGateway", properties := [("name", .str "")],
                  roles? := some ⟨"Parallel Split", "Parallel Join"⟩ }),
   ("script", { stencil := "ScriptTask",
                properties := [("name", .str "Script Task"), ("scriptformat", .str "groovy")] }),
   ("service", { stencil := "ServiceTask",
                 properties := [("asynchronousdefinition", .str "false"),
                                ("exclusive", .str "true"), ("name", .str "Service Task"),
                                ("servicetaskclass", .str dispatcherRef)] }),
   ("start", { stencil := "StartNoneEvent" }),
   ("user", { stencil := "UserTask",
              properties := [("assignee", .str "$\x7binitiator\x7d"), ("candidateGroups", .str ""),
                             ("name", .str "User Task"), ("priority", .str "50")] })]

/-- **The standard settings.** -/
def standard : Settings where
  identity := Identity.standard
  nodeTypes := standardTypes
  fallback := { stencil := "ServiceTask" }
  nodeOverrides := []
  edgeOverrides := []
  boundsPadding := 10
  fieldAliases := [("AMOUNT", "requestedAmountLimit")]

/-- The mapping of a type tag in lower case. -/
def mappingFor (s : Settings) (tag? : Option String) : Mapping :=
  (tag?.bind s.nodeTypes.get?).getD s.fallback

/-- The key a custom field is stored under. -/
def aliasFor (aliases : Table String) (key : String) : String := (aliases.get? key).getD key

/-- A mapping for given properties; what is no object counts as empty. -/
def Mapping.ofJson (stencil : String) (properties : Json) : Mapping :=
  { stencil, properties := properties.fields?.getD [] }

/-- The settings with properties forced on a node. A value that is no
object changes nothing. -/
def overrideNode (s : Settings) (id : String) : Json → Settings
  | .obj fields => { s with nodeOverrides := s.nodeOverrides.insert id fields }
  | _ => s

/-- The settings with properties forced on an edge. A value that is no
object changes nothing. -/
def overrideEdge (s : Settings) (id : String) : Json → Settings
  | .obj fields => { s with edgeOverrides := s.edgeOverrides.insert id fields }
  | _ => s

end Settings

end WorkflowCanvas
