import Stencil.Disk.Path
import Stencil.Text.Quoted
import Stencil.Text.Utf8

/-!
# Disks

A disk holds files, directories and links under routes from its root.  The root is always a directory;
below it a route holds what was put there last.
-/

namespace Stencil.Disk

/-- A name within a directory. -/
abbrev Segment := List Char

/-- The names that lead from the root to a place. -/
abbrev Route := List Segment

/-- What a place holds. -/
inductive Node
  /-- Bytes, and who may use them. -/
  | file (content : Bytes) (mode : Nat)
  /-- Further places, and who may use them. -/
  | directory (mode : Nat)
  /-- The path of another place. -/
  | link (target : List Char)
deriving DecidableEq, Repr

/-- Whether a node is a directory. -/
def Node.isDirectory : Node → Bool
  | .directory _ => true
  | _ => false

/-- The mode of directories that no mode is asked for. -/
def directoryMode : Nat := 0o755

/-- The mode of files that no mode is asked for. -/
def fileMode : Nat := 0o644

end Disk

open Disk

/-- A disk, and the directory that relative paths start from. -/
structure Disk where
  /-- The places below the root, with what they hold. -/
  places : List (Route × Node) := []
  /-- The directory that relative paths start from. -/
  here : Route := []
deriving DecidableEq, Repr

namespace Disk

/-- What a place holds. -/
def get? (d : Disk) (route : Route) : Option Node :=
  if route = [] then some (.directory directoryMode)
  else (d.places.find? (·.1 = route)).map (·.2)

/-- Places with one of them holding something; new places come last. -/
def putPlace (route : Route) (node : Node) : List (Route × Node) → List (Route × Node)
  | [] => [(route, node)]
  | place :: rest =>
    if place.1 = route then (route, node) :: rest else place :: putPlace route node rest

/-- A disk with something put in a place. -/
def put (d : Disk) (route : Route) (node : Node) : Disk :=
  { d with places := putPlace route node d.places }

theorem find?_putPlace (route other : Route) (node : Node) (places : List (Route × Node)) :
    ((putPlace route node places).find? (·.1 = other)).map (·.2) =
      if route = other then some node else (places.find? (·.1 = other)).map (·.2) := by
  induction places with
  | nil => by_cases same : route = other <;> simp [putPlace, same]
  | cons place rest ih =>
    unfold putPlace
    split
    · rename_i found
      by_cases same : route = other
      · simp [same]
      · simp [same, found]
    · rename_i differs
      by_cases same : place.1 = other
      · have distinct : route ≠ other := fun h => differs (same.trans h.symm)
        simp [same, distinct]
      · simpa [same] using ih

/-- A place holds what was put there last, and other places keep what they hold. -/
theorem get?_put (d : Disk) {route : Route} (below : route ≠ []) (node : Node) (other : Route) :
    (d.put route node).get? other = if route = other then some node else d.get? other := by
  unfold get? put
  by_cases root : other = []
  · have distinct : route ≠ other := fun h => below (h.trans root)
    rw [if_pos root, if_neg distinct, if_pos root]
  · rw [if_neg root, find?_putPlace]
    by_cases same : route = other
    · rw [if_pos same, if_pos same]
    · rw [if_neg same, if_neg same, if_neg root]

/-- What stops an operation. -/
inductive Cause
  /-- There is nothing at a path. -/
  | notFound
  /-- Something is at a path already. -/
  | occupied
  /-- A path leads through something other than a directory. -/
  | notDirectory
  /-- A directory is where a file is meant. -/
  | isDirectory
  /-- A name or a path is longer than the disk allows. -/
  | nameTooLong
  /-- Links lead to links for too long. -/
  | linkLoop
  /-- The place may not be used. -/
  | denied
deriving DecidableEq, Repr

namespace Cause

/-- The number of a cause. -/
def number : Cause → Nat
  | notFound => 2
  | denied => 13
  | occupied => 17
  | notDirectory => 20
  | isDirectory => 21
  | nameTooLong => 36
  | linkLoop => 40

/-- The wording of a cause. -/
def message : Cause → String
  | notFound => "No such file or directory"
  | denied => "Permission denied"
  | occupied => "File exists"
  | notDirectory => "Not a directory"
  | isDirectory => "Is a directory"
  | nameTooLong => "File name too long"
  | linkLoop => "Too many levels of symbolic links"

end Cause

/-- An operation that was stopped. -/
structure Fault where
  /-- What stopped it. -/
  cause : Cause
  /-- The path that it was asked to work on. -/
  path : List Char
deriving DecidableEq, Repr

/-- The wording of a stopped operation. -/
def Fault.message (fault : Fault) : String :=
  "[Errno " ++ toString fault.cause.number ++ "] " ++ fault.cause.message ++ ": " ++
    String.ofList (Text.quoted fault.path)

end Disk

end Stencil
