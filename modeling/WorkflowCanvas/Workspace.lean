import WorkflowCanvas.Text.Split
/-!
# Workspaces

A workspace is a tree of text files and folders, as a program sees it from
the folder it works in. A path is followed segment by segment and every
segment but the last must lead to a folder. What lies outside the
workspace is out of reach: an absolute path and a path that climbs above
the root lead nowhere.
-/


namespace WorkflowCanvas

/-- Text files and folders by the names that lead to them from the root.
The root is a folder without being listed. -/
structure Workspace where
  files : List (List String × String) := []
  folders : List (List String) := []

namespace Workspace

/-- The place is a folder. -/
def isFolder (w : Workspace) (place : List String) : Bool :=
  place.isEmpty || w.folders.contains place

/-- The text of the file at a place. -/
def textAt? (w : Workspace) (place : List String) : Option String :=
  (w.files.find? fun f => f.1 == place).map (·.2)

/-- A name that a file or folder can have. -/
def isName (s : String) : Bool := s.utf8ByteSize ≤ 255 && !s.toList.contains '\x00'

/-- One segment further from a place. -/
def step? (w : Workspace) (place : List String) (segment : String) : Option (List String) :=
  if !w.isFolder place then none
  else if segment = "" ∨ segment = "." then some place
  else if segment = ".." then if place.isEmpty then none else some place.dropLast
  else if isName segment then some (place ++ [segment])
  else none

/-- The segments of a path that is not empty and not absolute. -/
def segments? (path : String) : Option (List String) :=
  match Text.split '/' path with
  | "" :: _ => none
  | segments => some segments

/-- The place a path leads to. Nothing need be there. -/
def follow? (w : Workspace) (path : String) : Option (List String) :=
  (segments? path).bind fun segments => segments.foldlM w.step? []

/-- Reads the file at a path. -/
def read? (w : Workspace) (path : String) : Option String := (w.follow? path).bind w.textAt?

/-- Writes a text at a place. -/
def put (w : Workspace) (place : List String) (text : String) : Workspace :=
  { w with files := (w.files.filter fun f => f.1 != place) ++ [(place, text)] }

/-- Writes the file at a path, whose folder must be there. -/
def write? (w : Workspace) (path text : String) : Option Workspace :=
  (w.follow? path).bind fun place => if w.isFolder place then none else some (w.put place text)

/-- Makes a place a folder, unless a file is there. -/
def ensureFolder? (w : Workspace) (place : List String) : Option Workspace :=
  if w.isFolder place then some w
  else if (w.textAt? place).isSome then none
  else some { w with folders := w.folders ++ [place] }

/-- Follows segments from a place and makes the folders that are not
there. -/
def makeFrom? (w : Workspace) (place : List String) : List String → Option Workspace
  | [] => some w
  | segment :: rest =>
    (w.step? place segment).bind fun next =>
      (w.ensureFolder? next).bind fun w => makeFrom? w next rest

/-- Makes the folder at a path with all folders above it. -/
def makeFolders? (w : Workspace) (path : String) : Option Workspace :=
  (segments? path).bind (w.makeFrom? [])

/-- The workspace with the folders of a file and the file. -/
def provide (w : Workspace) (path text : String) : Workspace :=
  match segments? path with
  | some segments => ((w.makeFrom? [] segments.dropLast).getD w).put segments text
  | none => w

/-- The path of a name in a folder. A name that is itself an absolute path
stays what it is. -/
def join (folder name : String) : String :=
  if name.startsWith "/" then name
  else if folder.endsWith "/" then folder ++ name
  else folder ++ "/" ++ name

end Workspace

end WorkflowCanvas
