import Hexaglyph.Web.Ipv6
import Hexaglyph.Web.Url
set_option autoImplicit false

/-! Addresses: a scheme, a user, a host, a path, a query and a fragment, each of which may be
missing. -/
namespace Hexaglyph

structure Address where
  /-- In lower case; empty if there is none. -/
  scheme : Text
  /-- The user as it is written, in encoded form. -/
  user : Option Text
  /-- The host with its port, in encoded form. -/
  host : Text
  /-- Whether two slashes announce a host, even an empty one. -/
  announced : Bool
  /-- The path in encoded form; after a scheme it need not begin with a slash. -/
  path : Text
  query : Option Text
  /-- The fragment in encoded form; empty if there is none. -/
  fragment : Text
deriving DecidableEq

namespace Address

def colon : UInt8 := 0x3A

def atSign : UInt8 := 0x40

def isLetter (b : UInt8) : Bool :=
  (0x41 ≤ b && b ≤ 0x5A) || (0x61 ≤ b && b ≤ 0x7A)

def lowerLetter (b : UInt8) : UInt8 :=
  if 0x41 ≤ b && b ≤ 0x5A then b + 0x20 else b

/-- The bytes of a scheme after its first, which is a letter. -/
def inScheme (b : UInt8) : Bool :=
  isLetter b || Text.isDigit b || (utf8 "+-.").contains b

/-- The scheme and what follows its colon. A text that begins otherwise has an empty scheme, but one
that begins with the colon is no address. -/
def scheme? (t : Text) : Option (Text × Text) :=
  match t, t.dropWhile inScheme with
  | first :: _, c :: rest =>
    if first == colon then none
    else if c == colon && isLetter first then some ((t.takeWhile inScheme).map lowerLetter, rest)
    else some ([], t)
  | _, _ => some ([], t)

/-- What stands behind the last of a byte, and the whole text if there is none. -/
def afterLast (b : UInt8) (t : Text) : Text :=
  (t.reverse.takeWhile (· != b)).reverse

/-- The bytes of a host. Which of them may be written in encoded form is the caller's to say; the
others are plain or not ASCII. -/
def decodeHost? (mayEncode : UInt8 → Bool) : Text → Option Text
  | [] => some []
  | 0x25 :: high :: low :: rest => do
    let b ← Text.toByte? [high, low]
    if ! mayEncode b then none
    let decoded ← decodeHost? mayEncode rest
    return b :: decoded
  | b :: rest =>
    if b < 0x80 && ! Url.Part.host.isPlain b then none
    else (decodeHost? mayEncode rest).map (b :: ·)

/-- In a name, the percent sign is the only ASCII byte that may be encoded. -/
def encodableInName (b : UInt8) : Bool :=
  0x80 ≤ b || b == 0x25

/-- In a zone, plain bytes may be encoded, and blanks and percent signs have to be. -/
def encodableInZone (b : UInt8) : Bool :=
  Url.Part.host.isPlain b || b == 0x20 || b == 0x25

/-- A host by its name, with the number of a port behind the last colon. -/
def namedHost? (t : Text) : Option Text := do
  if t.contains 0x5B then none
  if t.contains colon && ! (afterLast colon t).all Text.isDigit then none
  decodeHost? encodableInName t

/-- Splits a text before the first encoded percent sign, with which a zone begins. -/
def cutZone : Text → Text × Text
  | [] => ([], [])
  | b :: rest =>
    if (utf8 "%25").isPrefixOf (b :: rest) then ([], b :: rest)
    else
      let (before, zone) := cutZone rest
      (b :: before, zone)

/-- A host by its number, from behind the opening bracket on: a numeric address, which may have a
zone, the closing bracket and a port. -/
def numericHost? (t : Text) : Option Text := do
  if t.contains 0x5B || ! t.contains 0x5D then none
  let port := afterLast 0x5D t
  if ! port.isEmpty && ! (port.head? == some colon && port.tail.all Text.isDigit) then none
  let (number, zone) := cutZone (t.take (t.length - port.length - 1))
  let zone ← decodeHost? encodableInZone zone
  if ! Ipv6.isAddress number || zone == [0x25] then none
  return 0x5B :: (number ++ zone ++ 0x5D :: port)

/-- A host without the colon of a port that is missing. -/
def dropEmptyPort (host : Text) : Text :=
  if host.getLast? == some colon then host.dropLast else host

def host? (t : Text) : Option Text := do
  let host ← match t with
    | 0x5B :: rest => numericHost? rest
    | _ => namedHost? t
  return Url.Part.host.encode (dropEmptyPort host)

/-- A name, and a password after a colon. -/
def user? (t : Text) : Option Text := do
  if ! t.all fun b => Url.isUnreserved b || (utf8 "!$&'()*+,;=:%@").contains b then none
  let (name, password) := Url.cut colon t
  let name ← Url.decode? name
  let encodedName := Url.Part.user.encode name
  match password with
  | none => return encodedName
  | some password =>
    let password ← Url.decode? password
    return encodedName ++ [colon] ++ Url.Part.user.encode password

/-- The user and the host that are written before a path. -/
def authority? (t : Text) : Option (Option Text × Text) := do
  let host ← host? (afterLast atSign t)
  if ! t.contains atSign then return (none, host)
  let user ← user? (t.take (t.length - (afterLast atSign t).length - 1))
  return (some user, host)

/-- A path that does not begin with a slash. A star alone is written as such, unless it is encoded in
another way than the usual one. -/
def relativePath? (t : Text) : Option Text := do
  if t == utf8 "%2A" then return utf8 "*"
  Url.encoded? .path t

/-- The first part of a path. -/
def firstPart (path : Text) : Text :=
  path.takeWhile (· != Path.slash)

/-- Reads what stands between the scheme and the query. -/
def hierarchy? (scheme rest : Text) : Option Address := do
  let inHostForm :=
    (utf8 "//").isPrefixOf rest && (! scheme.isEmpty || ! (utf8 "///").isPrefixOf rest)
  if inHostForm then
    let authority := (rest.drop 2).takeWhile (· != Path.slash)
    let (user, host) ← authority? authority
    let path ← Url.encoded? .path ((rest.drop 2).dropWhile (· != Path.slash))
    return ⟨scheme, user, host, true, path, none, []⟩
  else if Path.isRooted rest then
    let path ← Url.encoded? .path rest
    return ⟨scheme, none, [], false, path, none, []⟩
  else if ! scheme.isEmpty then return ⟨scheme, none, [], false, rest, none, []⟩
  else if (firstPart rest).contains colon then none
  else
    let path ← relativePath? rest
    return ⟨[], none, [], false, path, none, []⟩

/-- Reads an address that has no fragment. Control characters are refused. -/
def base? (t : Text) : Option Address := do
  if t.any fun b => b < 0x20 || b == 0x7F then none
  let (scheme, rest) ← scheme? t
  let (rest, query) := Url.cut 0x3F rest
  let address ← hierarchy? scheme rest
  return { address with query := query }

def parse? (t : Text) : Option Address := do
  let (main, fragment) := Url.cut 0x23 t
  let address ← base? main
  let fragment ← Url.encoded? .fragment (fragment.getD [])
  return { address with fragment := fragment }

/-- The user and the host with the slashes before them. An empty host is announced only by a scheme
with a path. -/
def shownAuthority (a : Address) : Text :=
  let needed := ! a.host.isEmpty || a.user.isSome || (! a.scheme.isEmpty && ! a.path.isEmpty)
  if a.announced && needed then
    utf8 "//" ++ (match a.user with | some user => user ++ [atSign] | none => []) ++ a.host
  else []

/-- What stands before the path. -/
def shownOrigin (a : Address) : Text :=
  (if a.scheme.isEmpty then [] else a.scheme ++ [colon]) ++ a.shownAuthority

/-- The path. Where it comes first and its first part has a colon, a dot is put before it, so that the
part is not taken for a scheme. -/
def shownPath (a : Address) : Text :=
  if a.shownOrigin.isEmpty && (firstPart a.path).contains colon then utf8 "./" ++ a.path else a.path

def shown (a : Address) : Text :=
  a.shownOrigin ++ a.shownPath ++
    (match a.query with | some query => 0x3F :: query | none => []) ++
    (if a.fragment.isEmpty then [] else 0x23 :: a.fragment)

end Address
end Hexaglyph
