import Hexaglyph.Json.Basic
import Hexaglyph.Signed64
import Hexaglyph.Text.Base64
import Hexaglyph.Text.LetterCase
set_option autoImplicit false

/-! Reading typed fields out of JSON values.

A field may be given any number of times, and each value is read over what the former ones left: a
null changes no number, text or record, and makes a list empty. Reading therefore starts from the
list of all values given, in order. A value of the wrong type makes the whole reading fail. -/
namespace Hexaglyph.Json

/-- The integer a literal writes, when it needs neither fraction nor exponent and fits 64 bits. -/
def integer? (literal : Text) : Option Int :=
  let signed := match literal with
    | 0x2D :: digits => (Text.toNat? digits).map fun n => - (n : Int)
    | digits => (Text.toNat? digits).map Int.ofNat
  signed.filter Signed64.fits

def readInteger : Json → Int → Option Int
  | null, before => some before
  | number literal, _ => integer? literal
  | _, _ => none

def readText : Json → Text → Option Text
  | null, before => some before
  | string value, _ => some value
  | _, _ => none

/-- A byte is written without a sign, so even minus zero is refused. -/
def readByte : Json → UInt8 → Option UInt8
  | null, before => some before
  | number literal, _ => ((Text.toNat? literal).filter (· < 256)).map UInt8.ofNat
  | _, _ => none

/-- What the values leave of a field that held `start`. -/
def readOver {α : Type} (read : Json → α → Option α) (start : α) (values : List Json) : Option α :=
  values.foldlM (fun before value => read value before) start

/-- A list with the items that an earlier, longer list left behind it. -/
structure Shelf (α : Type) where
  items : List α
  spare : List α

/-- Puts a list over what stood on a shelf. What it does not cover stays behind it. -/
def Shelf.put {α : Type} (before : Shelf α) (items : List α) : Shelf α :=
  ⟨items, (before.items ++ before.spare).drop items.length⟩

/-- Reads values over the items that stand at their places; further ones are read over `blank`. -/
def readItems {α : Type} (read : Json → α → Option α) (blank : α) :
    List Json → List α → Option (List α)
  | [], _ => some []
  | value :: values, [] => do
    let item ← read value blank
    let items ← readItems read blank values []
    return item :: items
  | value :: values, before :: rest => do
    let item ← read value before
    let items ← readItems read blank values rest
    return item :: items

def readList {α : Type} (read : Json → α → Option α) (blank : α) :
    Json → Shelf α → Option (Shelf α)
  | null, _ => some ⟨[], []⟩
  | array [], _ => some ⟨[], []⟩
  | array values, before =>
    (readItems read blank values (before.items ++ before.spare)).map before.put
  | _, _ => none

/-- Bytes come as a list of numbers or as base64. -/
def readBytes : Json → Shelf UInt8 → Option (Shelf UInt8)
  | string value, before => do
    let (items, spare) ← Base64.decodeOver? value (before.items ++ before.spare)
    return ⟨items, spare⟩
  | value, before => readList readByte 0 value before

/-- The members of the objects given for one record; a null has none. -/
def members? (values : List Json) : Option (List (Text × Json)) :=
  (values.mapM fun
    | null => some []
    | object members => some members
    | _ => none).map List.flatten

/-- The values given for a field. Its name may be written in any case. -/
def valuesOf (name : String) (members : List (Text × Json)) : List Json :=
  (members.filter fun member => Text.sameFolded member.1 (utf8 name)).map Prod.snd

def textField (name : String) (members : List (Text × Json)) (start : Text) : Option Text :=
  readOver readText start (valuesOf name members)

def integerField (name : String) (members : List (Text × Json)) (start : Int) : Option Int :=
  readOver readInteger start (valuesOf name members)

def bytesField (name : String) (members : List (Text × Json)) (start : List UInt8) :
    Option (List UInt8) :=
  (readOver readBytes ⟨start, []⟩ (valuesOf name members)).map Shelf.items

def textsField (name : String) (members : List (Text × Json)) : Option (List Text) :=
  (readOver (readList readText []) ⟨[], []⟩ (valuesOf name members)).map Shelf.items

/-- The members of a record inside a record. -/
def membersField (name : String) (members : List (Text × Json)) : Option (List (Text × Json)) :=
  members? (valuesOf name members)

/-- A list of records, each from all the values that were read into its place. Every value has to be a
record, also one that a later list leaves behind. -/
def recordsField {α : Type} (name : String) (read : List (Text × Json) → Option α)
    (members : List (Text × Json)) : Option (List α) := do
  let remember (value : Json) (before : List Json) : Option (List Json) := do
    let _ ← members? [value] >>= read
    return before ++ [value]
  let shelf ← readOver (readList remember []) ⟨[], []⟩ (valuesOf name members)
  shelf.items.mapM fun values => members? values >>= read

end Hexaglyph.Json
