import Hexaglyph.Editor.Intake
import Hexaglyph.Json.Reader
import Hexaglyph.Json.Writer
import Hexaglyph.Text.Digits
set_option autoImplicit false

/-! Messages on a byte stream: each is preceded by a header that gives its length. -/
namespace Hexaglyph.Frame

def lengthHeader : Text := utf8 "Content-Length: "

def headerEnd : Text := utf8 "\r\n\r\n"

def encode (message : Json) : Text :=
  let body := message.render
  lengthHeader ++ Text.ofNat body.length ++ headerEnd ++ body

/-- Lengths have at most 32 bits. -/
def lengthLimit : Nat := 4294967296

/-- The length a header line gives behind its name. -/
def length? (line : Text) : Option Nat :=
  (Text.toNat? (Text.trim (line.drop lengthHeader.length))).filter (· < lengthLimit)

/-- What the header of a stream says. -/
inductive Header where
  /-- The length of the body, and the stream from there on. -/
  | whole (length : Nat) (rest : Intake)
  /-- The stream ends in the header. -/
  | short
  | broken

/-- Reads header lines up to an empty one. Each ends with a carriage return and a line feed, and the last
one that gives a length counts; `length` is zero until one has. -/
def readHeader : Nat → Nat → Intake → Header
  | 0, _, _ => .short
  | fuel + 1, length, stream =>
    let line := stream.rest.takeWhile (· != 0x0D)
    match stream.rest.drop line.length with
    | _ :: 0x0A :: _ =>
      let rest := (stream.pass (line.length + 1)).pass 1
      if line.isEmpty then if length = 0 then .broken else .whole length rest
      else if lengthHeader.isPrefixOf line then
        match length? line with
        | some length => readHeader fuel length rest
        | none => .broken
      else readHeader fuel length rest
    | _ :: _ :: _ => .broken
    | _ => .short

/-- Where a pass over the brackets of a body stands. -/
inductive Within where
  | plain
  | quoted
  | escaped

/-- The number of bytes up to the bracket that closes the first one, all bytes if none does. `depth`
brackets are open after `passed` bytes. -/
def messageEnd (depth : Nat) (passed : Nat) : Within → Text → Nat
  | _, [] => passed
  | .escaped, _ :: rest => messageEnd depth (passed + 1) .quoted rest
  | .quoted, b :: rest =>
    messageEnd depth (passed + 1)
      (if b == 0x5C then .escaped else if b == 0x22 then .plain else .quoted) rest
  | .plain, b :: rest =>
    if b == 0x5B || b == 0x7B then messageEnd (depth + 1) (passed + 1) .plain rest
    else if b == 0x5D || b == 0x7D then
      if depth ≤ 1 then passed + 1 else messageEnd (depth - 1) (passed + 1) .plain rest
    else messageEnd depth (passed + 1) (if b == 0x22 then .quoted else .plain) rest

/-- What a stream begins with. -/
inductive Opening where
  | whole (message : Text) (rest : Intake)
  /-- The stream ends in the body. -/
  | cut (message : Text) (rest : Intake)
  /-- The stream ends in the header. -/
  | short
  | broken

/-- Reads the message of the first frame. The stream goes on behind what has been taken of the body,
which may be less than all of it. -/
def opening (stream : Intake) : Opening :=
  match readHeader (stream.rest.length + 1) 0 stream with
  | .whole length body =>
    let needed := messageEnd 0 0 .plain (body.rest.take length)
    let message := body.rest.take needed
    let after := body.afterMessage length needed
    if length ≤ body.rest.length then .whole message after else .cut message after
  | .short => .short
  | .broken => .broken

/-- The texts of the messages of a stream, up to the first header that is not whole. -/
def bodies : Nat → Intake → List Text
  | 0, _ => []
  | fuel + 1, stream =>
    match opening stream with
    | .whole message rest => message :: bodies fuel rest
    | .cut message rest => message :: bodies fuel rest
    | _ => []

/-- The messages of a stream, up to the first that cannot be read. The last body may be shorter than
its header says, as long as it has a message. -/
def messages (stream : Intake) : List Json :=
  ((bodies (stream.rest.length + 1) stream).map Json.parse?).takeWhile Option.isSome |>.filterMap id

end Hexaglyph.Frame
