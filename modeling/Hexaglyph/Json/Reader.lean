import Hexaglyph.Json.Lexeme
set_option autoImplicit false

/-! JSON text to values. The lexemes drive a stack of the lists and objects that are still open, so
the reading ends with the text; depth is bounded. -/
namespace Hexaglyph.Json

/-- A list or an object that is still open. What it holds so far is kept last first. -/
inductive Frame where
  | list (items : List Json)
  | object (members : List (Text × Json))
  | member (members : List (Text × Json)) (name : Text)

/-- What may come next. -/
inductive Expect where
  | value
  | valueOrClose
  | name
  | nameOrClose
  | colon (name : Text)
  | afterValue (value : Json)

structure Build where
  stack : List Frame
  expect : Expect

/-- The deepest nesting of lists and objects that is read. -/
def maxDepth : Nat := 10000

/-- Opens a list or an object. -/
def Build.push (frame : Frame) (expect : Expect) (stack : List Frame) : Option Build :=
  if stack.length < maxDepth then some ⟨frame :: stack, expect⟩ else none

/-- Reads a lexeme where a value is due. -/
def Build.value (stack : List Frame) : Lexeme → Option Build
  | .scalar v => some ⟨stack, .afterValue v⟩
  | .mark .openList => Build.push (.list []) .valueOrClose stack
  | .mark .openObject => Build.push (.object []) .nameOrClose stack
  | .mark _ => none

/-- Reads a lexeme after a value, which goes into the innermost open frame. -/
def Build.next (value : Json) : List Frame → Mark → Option Build
  | .list items :: stack, .comma => some ⟨.list (value :: items) :: stack, .value⟩
  | .list items :: stack, .closeList => some ⟨stack, .afterValue (.array (value :: items).reverse)⟩
  | .member members name :: stack, .comma =>
    some ⟨.object ((name, value) :: members) :: stack, .name⟩
  | .member members name :: stack, .closeObject =>
    some ⟨stack, .afterValue (.object ((name, value) :: members).reverse)⟩
  | _, _ => none

def Build.step (build : Build) (lexeme : Lexeme) : Option Build :=
  match build.expect, lexeme with
  | .value, _ => Build.value build.stack lexeme
  | .valueOrClose, .mark .closeList =>
    match build.stack with
    | .list _ :: stack => some ⟨stack, .afterValue (.array [])⟩
    | _ => none
  | .valueOrClose, _ => Build.value build.stack lexeme
  | .name, .scalar (.string name) => some ⟨build.stack, .colon name⟩
  | .nameOrClose, .scalar (.string name) => some ⟨build.stack, .colon name⟩
  | .nameOrClose, .mark .closeObject =>
    match build.stack with
    | .object _ :: stack => some ⟨stack, .afterValue (.object [])⟩
    | _ => none
  | .colon name, .mark .colon =>
    match build.stack with
    | .object members :: stack => some ⟨.member members name :: stack, .value⟩
    | _ => none
  | .afterValue value, .mark m => Build.next value build.stack m
  | _, _ => none

/-- The value a text spells, if it spells exactly one. -/
def parse? (t : Text) : Option Json := do
  let lexemes ← lexemes? t
  let build ← lexemes.foldlM Build.step ⟨[], .value⟩
  match build.stack, build.expect with
  | [], .afterValue value => some value
  | _, _ => none

end Hexaglyph.Json
