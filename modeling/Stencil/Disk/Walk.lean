import Stencil.Disk.Tree

/-!
# Walks

A path is walked name by name from a directory.  A link on the way is replaced by the path it holds; two
points lead back to the directory above.  A walk ends at a place that exists or could be made: everything
before its last name is there.
-/

namespace Stencil.Disk

/-- The links that one walk may follow. -/
def mostLinks : Nat := 40

/-- The bytes that one name may have. -/
def longestName : Nat := 255

/-- The bytes that a path may have. -/
def longestPath : Nat := 4095

/-- The name that leads to the directory above. -/
def above : Segment := ['.', '.']

/-- The end of a walk: a route without links, and what is there. -/
structure Spot where
  /-- The names that lead there from the root. -/
  route : Route
  /-- What is there. -/
  node : Option Node
deriving DecidableEq, Repr

/-- The place where the path of a link begins. -/
def startOf (here : Route) (target : List Char) : Route :=
  if isAbsolute target then [] else here

/-- Walks on from a place by the names given; a link at the very end is followed only if that is asked for. -/
def walk (d : Disk) (followLast : Bool) (links : Nat) (here : Route) (names : List Segment) :
    Except Cause Spot :=
  match names with
  | [] => .ok ⟨here, d.get? here⟩
  | name :: rest =>
    match d.get? here with
    | some (.directory _) =>
      if name = above then walk d followLast links here.dropLast rest
      else if longestName < (Text.Utf8.encode name).length then .error .nameTooLong
      else
        match d.get? (here ++ [name]) with
        | none => if rest.isEmpty then .ok ⟨here ++ [name], none⟩ else .error .notFound
        | some (.link target) =>
          if rest.isEmpty && !followLast then .ok ⟨here ++ [name], some (.link target)⟩
          else
            match links with
            | 0 => .error .linkLoop
            | links + 1 => walk d followLast links (startOf here target) (segments target ++ rest)
        | some _ => walk d followLast links (here ++ [name]) rest
    | _ => .error .notDirectory
termination_by (links, names.length)

/-- The spot of a path. -/
def locate (d : Disk) (followLast : Bool) (path : List Char) : Except Cause Spot :=
  if path.isEmpty then .error .notFound
  else if longestPath < (Text.Utf8.encode path).length then .error .nameTooLong
  else walk d followLast mostLinks (startOf d.here path) (segments path)

/-- Drops the names that two points behind them take back. -/
def cancelAbove (route : List Segment) : Route :=
  route.foldl (fun done name => if name = above then done.dropLast else done ++ [name]) []

/-- Routes of links, each with the route that it leads to once that is known. -/
abbrev Seen := List (Route × Option Route)

/-- The route that a walk from a place ends at when places that are not there count as plain ones.  A link
that leads back to itself ends the walk where it stands: the second component is false, and what is left of
the path stays in the route as it is written. -/
def resolveFrom (d : Disk) (depth : Nat) (here : Route) (names : List Segment) (seen : Seen) :
    Route × Bool × Seen :=
  match names with
  | [] => (here, true, seen)
  | name :: rest =>
    if name = above then resolveFrom d depth here.dropLast rest seen
    else
      let place := here ++ [name]
      match d.get? place with
      | some (.link target) =>
        match seen.find? (·.1 = place) with
        | some (_, some known) => resolveFrom d depth known rest seen
        | some (_, none) => (place ++ rest, false, seen)
        | none =>
          match depth with
          | 0 => (place ++ rest, false, seen)
          | depth + 1 =>
            match resolveFrom d depth (startOf here target) (segments target) ((place, none) :: seen) with
            | (route, false, seen) => (route ++ rest, false, seen)
            | (route, true, seen) => resolveFrom d (depth + 1) route rest ((place, some route) :: seen)
      | _ => resolveFrom d depth place rest seen
termination_by (depth, names.length)

/-- The route of a path once the links in it are replaced. -/
def resolve (d : Disk) (path : List Char) : Route :=
  cancelAbove (resolveFrom d d.places.length (startOf d.here path) (segments path) []).1

/-- Whether a path stays at or below a directory once the links in both are replaced. -/
def staysWithin (d : Disk) (directory path : List Char) : Bool :=
  (d.resolve directory).isPrefixOf (d.resolve path)

end Stencil.Disk
