import Stencil.Data.Number
import Stencil.Text.LetterCase
import Stencil.Text.Utf8

/-!
# Requests and responses

What is sent to a host over the network and what comes back.  A transport is any way of getting responses;
what it keeps between two requests is a value of its own.
-/

namespace Stencil.Http

open Data (Value Number)

/-- What is asked of a resource. -/
inductive Method
  /-- To read it. -/
  | get
  /-- To add to it. -/
  | post
  /-- To replace it. -/
  | put
  /-- To remove it. -/
  | delete
deriving DecidableEq, Repr

/-- The word of a method. -/
def Method.word : Method → String
  | .get => "GET"
  | .post => "POST"
  | .put => "PUT"
  | .delete => "DELETE"

/-- A request. -/
structure Request where
  /-- What is asked. -/
  method : Method
  /-- The address of the resource. -/
  address : String
  /-- The seconds after which the request is given up. -/
  timeout : Number
  /-- The parameters behind the address. -/
  parameters : Option (List (String × Value)) := none
  /-- The data that is sent along. -/
  body : Option Value := none

/-- A response. -/
structure Response where
  /-- How the request fared. -/
  status : Int := 200
  /-- The words that go with the status. -/
  reason : Option String := none
  /-- The headers. -/
  headers : List (String × String) := []
  /-- The content. -/
  body : Bytes := []
deriving Repr

namespace Response

/-- The least status that means a failure. -/
def leastFailure : Int := 400

/-- Whether a response means a failure. -/
def isFailure (response : Response) : Bool :=
  leastFailure ≤ response.status

/-- The value of a header, whatever the case of its letters; of two, the later one holds. -/
def header? (response : Response) (name : String) : Option String :=
  let key := Text.lower name.toList
  (response.headers.reverse.find? fun header => Text.lower header.1.toList = key).map (·.2)

/-- The content as text. -/
def text (response : Response) : List Char :=
  Text.Utf8.decodeLoosely response.body

end Response

/-- Why no response comes. -/
inductive Breakdown (ε : Type)
  /-- The host is not reached. -/
  | unreachable (message : String)
  /-- Something else fails on the way. -/
  | failure (e : ε)

/-- A way of getting responses, which keeps a state. -/
abbrev Transport (σ ε : Type) := Request → σ → Except (Breakdown ε) Response × σ

end Stencil.Http
