import Stencil.Http

/-!
# Scripted networks

A network whose responses are known beforehand.  Each route has responses that come one after the other, and
the last one comes again and again; a route that nothing is known of is not found.
-/

namespace Stencil.Http

/-- What comes back from a route. -/
abbrev Scripted (ε : Type) := Except (Breakdown ε) Response

/-- The responses that are left for each route; a route is a method and a path. -/
abbrev Script (ε : Type) := List (String × List (Scripted ε))

namespace Script

variable {ε : Type}

/-- The next of some responses, and those that are left. -/
def next : List (Scripted ε) → Option (Scripted ε × List (Scripted ε))
  | [] => none
  | [last] => some (last, [last])
  | first :: rest => some (first, rest)

/-- Takes the next response of a route. -/
def take (route : String) : Script ε → Option (Scripted ε) × Script ε
  | [] => (none, [])
  | (name, responses) :: rest =>
    if name = route then
      match next responses with
      | some (response, left) => (some response, (name, left) :: rest)
      | none => (none, (name, responses) :: rest)
    else
      let (found, rest) := take route rest
      (found, (name, responses) :: rest)

/-- What stands behind the first occurrence of a mark, or the whole text. -/
def behind (mark : List Char) : List Char → List Char
  | [] => []
  | c :: rest =>
    if mark.isPrefixOf (c :: rest) then (c :: rest).drop mark.length else behind mark rest

/-- The response to a request on a route that nothing is known of. -/
def notFound : Response :=
  { status := 404, reason := some "Not Found" }

/-- The network of scripts; the path of a route begins behind a mark in the address. -/
def transport (mark : String) : Transport (Script ε) ε := fun request script =>
  let path := behind mark.toList request.address.toList
  let (found, script) := take (request.method.word ++ " " ++ String.ofList path) script
  (found.getD (.ok notFound), script)

end Script

end Stencil.Http
