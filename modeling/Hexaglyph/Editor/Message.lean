import Hexaglyph.Json.Basic
import Hexaglyph.Json.Field
import Hexaglyph.Json.Magnitude
set_option autoImplicit false

/-! The messages between an editor and the service: requests, which carry an id and are answered,
notifications, which carry none, and responses.

The service does not read messages itself: a transport hands them over and writes its answers. Which
messages the standard transport takes for requests, which ids it can hold and how it writes them is an
assumption about it, and is kept apart from what the service does with a request. -/
namespace Hexaglyph

inductive RequestId where
  | number (n : Int)
  | text (t : Text)
deriving DecidableEq

namespace RequestId

/-- The id that stands in for a missing one. -/
def absent : RequestId := number 0

/-- Numbers are echoed as unsigned 64-bit words. -/
def toJson : RequestId → Json
  | number n => .ofInt (Signed64.unsigned n)
  | text t => .string t

def ofJson? : Json → Option RequestId
  | .number literal => (Json.integer? literal).map number
  | .string t => some (text t)
  | _ => none

end RequestId

namespace Json

/-- Puts a member into sorted members; it takes the place of one with the same name. -/
def putMember (member : Text × Json) : List (Text × Json) → List (Text × Json)
  | [] => [member]
  | other :: rest =>
    if member.1 = other.1 then member :: rest
    else if member.1 < other.1 then member :: other :: rest
    else other :: putMember member rest

mutual

/-- The value with the members of all its objects sorted by name; of several members with one name the
last stays. -/
def sorted : Json → Json
  | array items => array (sortedItems items)
  | object members => object (sortedMembers [] members)
  | value => value

def sortedItems : List Json → List Json
  | [] => []
  | item :: rest => sorted item :: sortedItems rest

/-- The sorted members of `done` and of the members that follow. -/
def sortedMembers (done : List (Text × Json)) : List (Text × Json) → List (Text × Json)
  | [] => done
  | (name, value) :: rest => sortedMembers (putMember (name, sorted value) done) rest

end

end Json

/-- What an editor sends. -/
structure Request where
  /-- Notifications have no id. -/
  id : Option RequestId
  method : Text
  params : Json

namespace Request

/-- The id of a request. A null is as good as none; anything else must be an id. -/
def id? (json : Json) : Option (Option RequestId) :=
  match json.get? (utf8 "id") with
  | none => some none
  | some .null => some none
  | some value => (RequestId.ofJson? value).map some

def ofJson? (json : Json) : Option Request :=
  match json.get? (utf8 "method") with
  | some (.string method) => (id? json).map fun id =>
    { id := id
      method := method
      params := ((json.get? (utf8 "params")).getD .null).sorted }
  | _ => none

end Request

/-- A message from an editor. -/
inductive Incoming where
  | request (request : Request)
  /-- An answer to a call of the service's own, which needs no action. -/
  | response
  | unreadable

namespace Incoming

/-- Whether a message names a method. The last name given counts, but all must be texts. -/
def namesMethod? (members : List (Text × Json)) : Option Bool :=
  Json.readOver (fun value _ => match value with
    | .null => some false
    | .string _ => some true
    | _ => none) false (Json.valuesOf "method" members)

/-- Whether a message has a result, be it null, or an error. -/
def hasOutcome (members : List (Text × Json)) : Bool :=
  ! (Json.valuesOf "result" members).isEmpty ||
    match (Json.valuesOf "error" members).getLast? with
    | none => false
    | some .null => false
    | some _ => true

/-- What the id of a response may be. The service's own ids are unsigned 64-bit words. -/
def isCallId : Json → Bool
  | .null => true
  | .string _ => true
  | .number literal => ((Text.toNat? literal).filter (· < Signed64.count)).isSome
  | _ => false

/-- Whether the fields of a response can be read. -/
def isResponse (members : List (Text × Json)) : Bool :=
  (Json.valuesOf "id" members).all isCallId &&
    (do
      let error ← Json.membersField "error" members
      let _ ← Json.integerField "code" error 0
      Json.textField "message" error []).isSome

/-- Whether the values are known of the numbers in the id, the result and the error. -/
def hasKnownNumbers (members : List (Text × Json)) : Bool :=
  ["id", "result", "error"].all fun name => (Json.valuesOf name members).all Json.fitsDoubles

/-- Tells requests from responses. A message must be one of the two and not the other. -/
def ofJson : Json → Incoming
  | .object members =>
    if ! hasKnownNumbers members then unreadable else
    match namesMethod? members, hasOutcome members with
    | some true, false => ((Request.ofJson? (.object members)).map request).getD unreadable
    | some false, true => if isResponse members then response else unreadable
    | _, _ => unreadable
  | _ => unreadable

end Incoming

/-- What the service sends. -/
inductive Outgoing where
  | result (id : RequestId) (value : Json)
  | failure (id : RequestId) (code : Int) (message : Text)
  | notification (method : String) (params : Json)
  | call (id : Nat) (method : String) (params : Json)

namespace Outgoing

def versionMember : String × Json :=
  ("jsonrpc", .ofString "2.0")

def toJson : Outgoing → Json
  | result id value => .record [("id", id.toJson), ("result", value), versionMember]
  | failure id code message =>
    .record [("id", id.toJson),
      ("error", .record [("code", .ofInt code), ("message", .string message)]), versionMember]
  | notification method params =>
    .record [versionMember, ("method", .ofString method), ("params", params)]
  | call id method params =>
    .record [("id", .ofNat id), versionMember, ("method", .ofString method), ("params", params)]

/-- Whether a message answers a request. -/
def isResponse : Outgoing → Bool
  | result .. => true
  | failure .. => true
  | _ => false

end Outgoing

/-- What carries messages: how it reads one, and how it writes the id of a request. -/
structure Transport where
  read : Json → Incoming
  writeId : RequestId → Json

/-- The transport that the service runs on. -/
def Transport.standard : Transport :=
  ⟨Incoming.ofJson, RequestId.toJson⟩

end Hexaglyph
