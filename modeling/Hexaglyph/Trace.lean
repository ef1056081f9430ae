import Hexaglyph.Web.Address
set_option autoImplicit false

/-! Traces of what the program does. When they are switched on, each goes to the error output, and to
a collector as well if one is named. -/
namespace Hexaglyph

structure Tracer where
  enabled : Bool
  /-- The address of the collector; an empty one is none. -/
  endpoint : Text

/-- A message to the collector. -/
structure TracePost where
  address : Text
  body : Text
deriving DecidableEq

namespace TracePost

def contentType : Text := utf8 "text/plain"

/-- The post in one line: method, address, content type, body. -/
def shown (p : TracePost) : Text :=
  Text.join [0x20] [utf8 "POST", p.address, contentType, p.body]

end TracePost

namespace Tracer

/-- The line of a message. A line break is added even if the message ends in one. -/
def line (message : Text) : Text :=
  utf8 "skree: " ++ message ++ [Text.lineFeed]

/-- What a message adds to the error output. -/
def written (t : Tracer) (message : Text) : Text :=
  if t.enabled then line message else []

/-- What a message sends to the collector. An address that cannot be used is passed over. -/
def posted (t : Tracer) (message : Text) : List TracePost :=
  if t.enabled && ! t.endpoint.isEmpty then
    (Address.parse? t.endpoint).toList.map fun address => ⟨address.shown, message⟩
  else []

end Tracer
end Hexaglyph
