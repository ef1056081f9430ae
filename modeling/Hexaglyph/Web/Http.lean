import Hexaglyph.Program.Summary
import Hexaglyph.Program.Workshop
import Hexaglyph.Web.Address
import Hexaglyph.Web.Page
set_option autoImplicit false

/-! The answers of the web service to plain requests. -/
namespace Hexaglyph

structure HttpRequest where
  /-- What is to be done; if it is empty, a page is to be got. -/
  method : Text
  /-- The path, with a query after a question mark. An address may stand before it. -/
  target : Text
  body : Text
  /-- Why reading fails after the last byte of the body, if it does. -/
  broken : Option Text

namespace HttpRequest

def verb (request : HttpRequest) : Text :=
  if request.method.isEmpty then utf8 "GET" else request.method

def asksForConnection (request : HttpRequest) : Bool :=
  request.verb == utf8 "CONNECT"

/-- The encoded path and the query of a request. The target is a path or a whole address, or, if a
connection is asked for, begins with a host. The star, which stands for the service itself, has no
path. -/
def place? (request : HttpRequest) : Option (Text × Option Text) := do
  if request.target == utf8 "*" then none
  if Path.isRooted request.target then
    let (path, query) := Url.cut 0x3F request.target
    return (← Url.encoded? .path path, query)
  let target :=
    if request.asksForConnection then utf8 "http://" ++ request.target else request.target
  let address ← Address.base? target
  if address.scheme.isEmpty then none
  return (if Path.isRooted address.path then address.path else [], address.query)

/-- Why the body of a request is not had. -/
inductive BodyFault where
  | tooLarge
  | broken (cause : Text)

/-- The whole body. -/
def readAll (request : HttpRequest) : Except BodyFault Text :=
  match request.broken with
  | some cause => .error (.broken cause)
  | none => .ok request.body

/-- Takes bytes while there is room for them, and gives them with those `taken` before, the last one
first. -/
def takeWithin : Nat → List UInt8 → Text → Except BodyFault (List UInt8)
  | _, taken, [] => .ok taken
  | 0, _, _ :: _ => .error .tooLarge
  | room + 1, taken, byte :: rest => takeWithin room (byte :: taken) rest

/-- The whole body, if there is room for it. That there is none is noticed before a failure behind
the last byte. -/
def readWithin (request : HttpRequest) (room : Nat) : Except BodyFault Text := do
  let taken ← takeWithin room [] request.body
  match request.broken with
  | some cause => .error (.broken cause)
  | none => .ok taken.reverse

end HttpRequest

structure HttpResponse where
  status : Nat
  contentType : Text
  /-- The methods that are allowed, where that is the matter. -/
  allow : Text
  body : Text
deriving DecidableEq

namespace HttpResponse

/-- A message in plain text. -/
def plain (status : Nat) (message : Text) : HttpResponse :=
  ⟨status, utf8 "text/plain; charset=utf-8", [], message ++ [Text.lineFeed]⟩

/-- The answer to a request that cannot be understood. -/
def refused : HttpResponse :=
  ⟨400, [], [], []⟩

def notFound : HttpResponse :=
  plain 404 (utf8 "404 page not found")

/-- A text inside the value of a markup attribute. -/
def attributeText (t : Text) : Text :=
  t.flatMap fun b =>
    match b with
    | 0x26 => utf8 "&amp;"
    | 0x3C => utf8 "&lt;"
    | 0x3E => utf8 "&gt;"
    | 0x22 => utf8 "&#34;"
    | 0x27 => utf8 "&#39;"
    | _ => [b]

/-- Sends a client to another address. Only those that ask for a page are shown a link. -/
def moved (verb address : Text) : HttpResponse :=
  let link := utf8 "<a href=\"" ++ attributeText address ++ utf8 "\">Temporary Redirect</a>.\n\n"
  { status := 307
    contentType :=
      if verb == utf8 "GET" || verb == utf8 "HEAD" then utf8 "text/html; charset=utf-8" else []
    allow := []
    body := if verb == utf8 "GET" then link else [] }

end HttpResponse

namespace Web

/-- What a path leads to. -/
inductive Place where
  | socket
  | translate
  | page
  | nowhere
deriving DecidableEq

/-- The place of an encoded path. Percent signs do not hide a name. -/
def placeOf (path : Text) : Place :=
  match Path.parts path with
  | [[], name] =>
    let decoded := (Url.decode? name).getD name
    if decoded == utf8 "ws" then .socket
    else if decoded == utf8 "translate" then .translate
    else if decoded.isEmpty then .page
    else .nowhere
  | _ => .nowhere

/-- Translates the body of a request. Only a positive limit limits what is read of it. -/
def translate (w : Workshop) (request : HttpRequest) : HttpResponse :=
  if request.verb != utf8 "POST" then
    { HttpResponse.plain 405 (utf8 "POST a glyph program") with allow := utf8 "POST" }
  else
    let body :=
      if 0 < w.maxInputBytes then request.readWithin w.maxInputBytes.toNat else request.readAll
    match body with
    | .error .tooLarge => .plain 413 w.tooLargeMessage
    | .error (.broken cause) => .plain 400 cause
    | .ok program =>
      let summary := (w.translator.translate program).summary
      ⟨200, utf8 "application/json", [], summary.toJson.render ++ [Text.lineFeed]⟩

def page : HttpResponse :=
  ⟨200, utf8 "text/html; charset=utf-8", [], Page.html⟩

/-- The answer to a request that does not open a socket. Paths are cleaned first, unless a connection
is asked for. -/
def respond (w : Workshop) (request : HttpRequest) : HttpResponse :=
  match request.place? with
  | none => .refused
  | some (path, query) =>
    let cleaned := Url.cleanPath path
    if ! request.asksForConnection && cleaned != path then
      let query := match query with
        | some (b :: rest) => 0x3F :: b :: rest
        | _ => []
      .moved request.verb (cleaned ++ query)
    else
      match placeOf path with
      | .socket => .plain 400 (utf8 "Bad Request")
      | .translate => translate w request
      | .page => page
      | .nowhere => .notFound

end Web
end Hexaglyph
