import Stencil.Disk.Walk

/-!
# Operations on a disk

Each operation either is done or is stopped with a fault.  A stopped operation leaves what it did before:
directories that were made on the way stay.
-/

namespace Stencil.Disk

/-- An operation on a disk. -/
abbrev Change := ExceptT Fault (StateM Disk)

/-- Stops an operation on a path. -/
def stop {α : Type} (cause : Cause) (path : List Char) : Change α :=
  throw ⟨cause, path⟩

/-- Walks to a path. -/
def spot (followLast : Bool) (path : List Char) : Change Spot := do
  match (← get).locate followLast path with
  | .ok spot => pure spot
  | .error cause => stop cause path

/-- Whether a path leads to a directory; a path that is too long to say so stops the question. -/
def isDirectoryAt (d : Disk) (path : List Char) : Except Fault Bool :=
  match d.locate true path with
  | .ok ⟨_, some node⟩ => .ok node.isDirectory
  | .error .nameTooLong => .error ⟨.nameTooLong, path⟩
  | _ => .ok false

/-- Makes a directory where nothing is. -/
def makeDirectory (path : List Char) : Change Unit := do
  match ← spot false path with
  | ⟨_, some _⟩ => stop .occupied path
  | ⟨route, none⟩ => modify (·.put route (.directory directoryMode))

/-- Lets a stopped making of a directory pass when the directory is there. -/
def acceptDirectory (path : List Char) (fault : Fault) : Change Unit := do
  match (← get).isDirectoryAt path with
  | .ok true => pure ()
  | .ok false => throw fault
  | .error fault => throw fault

/-- Makes a directory unless it is there. -/
def ensureDirectory (path : List Char) : Change Unit :=
  tryCatch (makeDirectory path) fun fault =>
    if fault.cause = .notFound then throw fault else acceptDirectory path fault

/-- The path of the names given from the last to the first. -/
def pathUp (root : List Char) (up : List Segment) : List Char :=
  let text := root ++ joinWith '/' up.reverse
  if text.isEmpty then ['.'] else text

/-- Makes a directory, and those above it that are missing; the names are given from the last to the first. -/
def ensureUp (root : List Char) : List Segment → Change Unit
  | [] => ensureDirectory (pathUp root [])
  | name :: up =>
    tryCatch (makeDirectory (pathUp root (name :: up))) fun fault =>
      if fault.cause = .notFound then do
        ensureUp root up
        ensureDirectory (pathUp root (name :: up))
      else acceptDirectory (pathUp root (name :: up)) fault

/-- Makes a directory, and those above it that are missing. -/
def ensureDirectories (path : List Char) : Change Unit :=
  ensureUp (rootOf path) (segments path).reverse

/-- The path of the directory that a path is in. -/
def parent (path : List Char) : List Char :=
  pathUp (rootOf path) (segments path).reverse.tail

/-- The path of names below a directory. -/
def below (directory : List Char) (names : List Segment) : List Char :=
  pathUp (rootOf directory) (segments directory ++ names).reverse

/-- What a path means from a directory; a path that begins at the root leaves the directory behind. -/
def join (directory path : List Char) : List Char :=
  if isAbsolute path then tidy path else below directory (segments path)

/-- A path from the root that needs no current directory; two points take back the name before them. -/
def absolute (d : Disk) (path : List Char) : List Char :=
  let root := if isAbsolute path then rootOf path else ['/']
  root ++ joinWith '/' (cancelAbove (startOf d.here path ++ segments path))

/-- Opens a file for writing: it is made if it is not there, and loses its content if it is. -/
def openFile (path : List Char) : Change Route := do
  match ← spot true path with
  | ⟨_, some (.directory _)⟩ => stop .isDirectory path
  | ⟨route, some (.file _ mode)⟩ => do
    modify (·.put route (.file [] mode))
    pure route
  | ⟨route, _⟩ => do
    modify (·.put route (.file [] fileMode))
    pure route

/-- Writes bytes into the file of a path. -/
def writeFile (path : List Char) (content : Bytes) : Change Unit := do
  let route ← openFile path
  match (← get).get? route with
  | some (.file _ mode) => modify (·.put route (.file content mode))
  | _ => pure ()

/-- Adds bytes to the end of the file of a path, which is made if it is not there. -/
def appendFile (path : List Char) (content : Bytes) : Change Unit := do
  match ← spot true path with
  | ⟨_, some (.directory _)⟩ => stop .isDirectory path
  | ⟨route, some (.file before mode)⟩ => modify (·.put route (.file (before ++ content) mode))
  | ⟨route, _⟩ => modify (·.put route (.file content fileMode))

/-- Changes who may use what a path leads to. -/
def changeMode (path : List Char) (mode : Nat) : Change Unit := do
  match ← spot true path with
  | ⟨_, none⟩ => stop .notFound path
  | ⟨route, some (.file content _)⟩ => modify (·.put route (.file content mode))
  | ⟨route, some (.directory _)⟩ => modify (·.put route (.directory mode))
  | ⟨_, some (.link _)⟩ => pure ()

/-- The bytes of the file that a path leads to. -/
def read (d : Disk) (path : List Char) : Except Fault Bytes :=
  match d.locate true path with
  | .ok ⟨_, some (.file content _)⟩ => .ok content
  | .ok ⟨_, some (.directory _)⟩ => .error ⟨.isDirectory, path⟩
  | .ok _ => .error ⟨.notFound, path⟩
  | .error cause => .error ⟨cause, path⟩

/-- Makes a link where nothing is. -/
def makeLink (path target : List Char) : Change Unit := do
  match ← spot false path with
  | ⟨_, some _⟩ => stop .occupied path
  | ⟨route, none⟩ => modify (·.put route (.link target))

/-- Inserts names into a list that ascends name by name. -/
def insertRoute (route : Route) : List Route → List Route
  | [] => [route]
  | next :: rest => if route < next then route :: next :: rest else next :: insertRoute route rest

/-- The names below a place, from there on, ascending name by name. -/
def namesBelow (d : Disk) (place : Route) : List Route :=
  (d.places.filterMap fun p =>
    if place.isPrefixOf p.1 ∧ place ≠ p.1 then some (p.1.drop place.length) else none).foldr insertRoute []

/-- A path and what is there, for everything below a directory; the paths ascend. -/
def contents (d : Disk) (directory : List Char) : List (List Char × Node) :=
  let place := segments directory
  ((d.namesBelow place).filterMap fun names =>
    (d.get? (place ++ names)).map fun node => (joinWith '/' names, node)).mergeSort
      fun a b => String.ofList a.1 ≤ String.ofList b.1

end Stencil.Disk
