import Hexaglyph.Editor.Message
import Mathlib.Algebra.GroupWithZero.Nat
import Mathlib.Data.List.TakeWhile
set_option autoImplicit false

/-! What has to be assumed about the transport of messages. A call that follows the protocol is handed
over with its method, and its id is held as a text or as a word of 64 bits; there is no other way to
hold one, so a call with any other id is not understood. The standard transport is of this kind. -/
namespace Hexaglyph

theorem Signed64.unsigned_eq (n : Int) (fits : Signed64.fits n = true) :
    Signed64.unsigned n = if n < 0 then n + 18446744073709551616 else n := by
  simp only [Signed64.fits, Bool.and_eq_true, decide_eq_true_eq] at fits
  simp only [unsigned, count]
  split <;> omega

/-- How an answer carries the id of a request. A text is carried as it is. A number has to be written
without fraction and exponent and to fit 64 bits with a sign, and is carried as a word without one. -/
inductive RequestId.Echoes : Json → Json → Prop
  | text (t : Text) : Echoes (.string t) (.string t)
  | number (literal : Text) (n : Int) (written : Json.integer? literal = some n) (plain : 0 ≤ n) :
      Echoes (.number literal) (.ofInt n)
  | negative (literal : Text) (n : Int) (written : Json.integer? literal = some n) (below : n < 0) :
      Echoes (.number literal) (.ofInt (n + 18446744073709551616))

theorem RequestId.echoes_iff (value carried : Json) :
    Echoes value carried ↔ ∃ id, ofJson? value = some id ∧ id.toJson = carried := by
  have word : ∀ literal n, Json.integer? literal = some n → Signed64.fits n = true :=
    fun literal n written => (Option.filter_eq_some_iff.mp written).2
  constructor
  · rintro (⟨t⟩ | ⟨literal, n, written, plain⟩ | ⟨literal, n, written, below⟩)
    · exact ⟨.text t, rfl, rfl⟩
    · refine ⟨.number n, by rw [ofJson?, written]; rfl, ?_⟩
      rw [toJson, Signed64.unsigned_eq n (word literal n written), if_neg (by omega)]
    · refine ⟨.number n, by rw [ofJson?, written]; rfl, ?_⟩
      rw [toJson, Signed64.unsigned_eq n (word literal n written), if_pos below]
  · rintro ⟨id, read, rfl⟩
    cases value with
    | string t =>
        cases read
        exact .text t
    | number literal =>
        obtain ⟨n, written, rfl⟩ := Option.map_eq_some_iff.mp read
        rw [toJson, Signed64.unsigned_eq n (word literal n written)]
        split
        · exact .negative literal n written (by omega)
        · exact .number literal n written (by omega)
    | _ => cases read

namespace Json

def membersOf (name : String) (members : List (Text × Json)) : List (Text × Json) :=
  members.filter fun member => Text.sameFolded member.1 (utf8 name)

/-- Whether a message calls a method with an id, as the protocol has it. Both are given once, and there
is nothing of a response. The parameters can be any. -/
inductive Calls : Json → Text → Json → Prop
  | of (members : List (Text × Json)) (method : Text) (id : Json)
      (named : membersOf "method" members = [(utf8 "method", string method)])
      (numbered : membersOf "id" members = [(utf8 "id", id)])
      (noResult : membersOf "result" members = []) (noError : membersOf "error" members = []) :
      Calls (object members) method id

end Json

/-- What the answers of the service rest on. A call is handed over with its method; an id that can be
held is written back as it is echoed, a null is taken for no id, and nothing comes of a call with any
other id. -/
structure Transport.Lawful (transport : Transport) : Prop where
  held : ∀ message method value carried,
    message.Calls method value → RequestId.Echoes value carried →
    ∃ request id, transport.read message = .request request ∧ request.method = method ∧
      request.id = some id ∧ transport.writeId id = carried
  null : ∀ message method, message.Calls method .null →
    ∃ request, transport.read message = .request request ∧ request.method = method ∧
      request.id = none
  refused : ∀ message method value, message.Calls method value → value ≠ .null →
    (∀ carried, ¬ RequestId.Echoes value carried) → transport.read message = .unreadable

namespace Text

/-- The number that digits write after others which write `start`. -/
def decimal (start : Nat) (digits : Text) : Nat :=
  digits.foldl (fun n digit => 10 * n + (digit.toNat - 0x30)) start

theorem pow_le_decimal (start : Nat) (digits : Text) :
    10 ^ digits.length * start ≤ decimal start digits := by
  induction digits generalizing start with
  | nil => simp [decimal]
  | cons digit rest ih =>
      calc 10 ^ (rest.length + 1) * start
          = 10 ^ rest.length * (10 * start) := by rw [Nat.pow_succ, Nat.mul_assoc]
        _ ≤ 10 ^ rest.length * (10 * start + (digit.toNat - 0x30)) :=
            Nat.mul_le_mul_left _ (Nat.le_add_right _ _)
        _ ≤ decimal start (digit :: rest) := ih _

theorem decimal_dropWhile (digits : Text) :
    decimal 0 (digits.dropWhile (· == 0x30)) = decimal 0 digits := by
  induction digits with
  | nil => rfl
  | cons digit rest ih =>
      by_cases zero : digit = 0x30
      · subst zero
        exact ih
      · rw [List.dropWhile_cons_of_neg (by simpa using zero)]

theorem toNat?_eq_some (t : Text) (n : Nat) (read : toNat? t = some n) :
    t.all isDigit = true ∧ decimal 0 t = n := by
  unfold toNat? at read
  split at read
  · cases read
  · next plain =>
      simp only [Bool.or_eq_true, not_or, Bool.not_eq_true, Bool.not_eq_false'] at plain
      exact ⟨plain.2, Option.some.inj read⟩

/-- A number has no more digits than it takes, except for zeros in front. -/
theorem length_dropWhile_le (digits : Text) (all : digits.all isDigit = true) (width : Nat)
    (small : decimal 0 digits < 10 ^ width) : (digits.dropWhile (· == 0x30)).length ≤ width := by
  rw [← decimal_dropWhile] at small
  cases shown : digits.dropWhile (· == 0x30) with
  | nil => exact Nat.zero_le _
  | cons first rest =>
      have digit : isDigit first = true := by
        apply List.all_eq_true.mp all
        exact (List.dropWhile_sublist _).subset (shown ▸ List.mem_cons_self)
      have positive : 1 ≤ first.toNat - 0x30 := by
        have nonzero : first ≠ 0x30 := by
          have head := List.head?_dropWhile_not (· == (0x30 : UInt8)) digits
          rw [shown] at head
          simpa using head
        have apart : first.toNat ≠ 0x30 := fun same => nonzero (UInt8.toNat_inj.mp same)
        have least : 0x30 ≤ first.toNat :=
          UInt8.le_iff_toNat_le.mp (of_decide_eq_true (Bool.and_eq_true_iff.mp digit).1)
        omega
      have long : 10 ^ rest.length < 10 ^ width :=
        calc 10 ^ rest.length
            ≤ 10 ^ rest.length * (first.toNat - 0x30) := Nat.le_mul_of_pos_right _ positive
          _ ≤ decimal (first.toNat - 0x30) rest := pow_le_decimal _ rest
          _ = decimal 0 (first :: rest) := by simp [decimal]
          _ < 10 ^ width := shown ▸ small
      exact (Nat.pow_lt_pow_iff_right (by decide)).mp long

end Text

namespace Json

/-- A number of a few digits is never too large for a double. -/
theorem literalFits_of_digits (digits : Text) (all : digits.all Text.isDigit = true)
    (small : Text.decimal 0 digits < 10 ^ 20) : literalFits digits = true := by
  have plain : ∀ byte ∈ digits, Text.isDigit byte = true := List.all_eq_true.mp all
  have unsigned : digits.dropWhile (· == 0x2D) = digits := by
    cases digits with
    | nil => rfl
    | cons first rest =>
        refine List.dropWhile_cons_of_neg fun sign => ?_
        have digit := plain first List.mem_cons_self
        rw [beq_iff_eq.mp sign] at digit
        cases digit
  have mantissa : digits.takeWhile (fun b => b != 0x65 && b != 0x45) = digits := by
    refine List.takeWhile_eq_self_iff.mpr fun byte member => ?_
    have digit := plain byte member
    simp only [Text.isDigit, Bool.and_eq_true, decide_eq_true_eq] at digit
    simp only [bne_iff_ne, Bool.and_eq_true, ne_eq]
    exact ⟨by rintro rfl; exact absurd digit.2 (by decide),
      by rintro rfl; exact absurd digit.2 (by decide)⟩
  have whole : digits.takeWhile Text.isDigit = digits := List.takeWhile_eq_self_iff.mpr plain
  have nothing : digits.drop (digits.length + 1) = [] :=
    List.drop_eq_nil_of_le (Nat.le_succ _)
  have short := Text.length_dropWhile_le digits all 20 small
  have few : (((digits.dropWhile (· == 0x30)).length : Nat) : Int) < doubleDigits := by
    simp only [doubleDigits]
    omega
  simp only [literalFits, unsigned, mantissa, whole, nothing, List.append_nil]
  simp [exponentValue, Text.toNat?, few]

theorem literalFits_of_integer (literal : Text) (n : Int) (written : integer? literal = some n) :
    literalFits literal = true := by
  obtain ⟨signed, fits⟩ := Option.filter_eq_some_iff.mp written
  simp only [Signed64.fits, Bool.and_eq_true, decide_eq_true_eq] at fits
  split at signed
  · obtain ⟨_, widened, rfl⟩ := Option.map_eq_some_iff.mp signed
    obtain ⟨magnitude, read, equal⟩ := Option.bind_eq_some_iff.mp widened
    cases equal
    obtain ⟨all, rfl⟩ := Text.toNat?_eq_some _ _ read
    -- The sign is passed over before anything else is looked at.
    have unsigned := literalFits_of_digits _ all (by omega)
    exact unsigned
  · obtain ⟨magnitude, read, rfl⟩ := Option.map_eq_some_iff.mp signed
    obtain ⟨all, rfl⟩ := Text.toNat?_eq_some _ _ read
    exact literalFits_of_digits _ all (by simp only [Int.ofNat_eq_natCast] at fits; omega)

theorem fitsDoubles_of_ofJson? (value : Json) (id : RequestId)
    (read : RequestId.ofJson? value = some id) : value.fitsDoubles = true := by
  cases value with
  | string t => rfl
  | number literal =>
      obtain ⟨n, written, -⟩ := Option.map_eq_some_iff.mp read
      exact literalFits_of_integer literal n written
  | _ => cases read

/-- A member that is given once is found. -/
theorem get?_of_membersOf (name : String) (members : List (Text × Json)) (value : Json)
    (once : membersOf name members = [(utf8 name, value)]) :
    (object members).get? (utf8 name) = some value := by
  have exactly : members.filter (·.1 == utf8 name) = [(utf8 name, value)] := by
    calc members.filter (·.1 == utf8 name)
        = (membersOf name members).filter (·.1 == utf8 name) := by
          rw [membersOf, List.filter_filter]
          refine List.filter_congr fun member _ => ?_
          by_cases same : member.1 = utf8 name
          · simp [same, Text.sameFolded]
          · simp [same]
      _ = [(utf8 name, value)] := by simp [once]
  rw [get?, ← List.head?_filter, List.filter_reverse, exactly]
  rfl

end Json

/-- A call is told from a response by its members, and what remains is a matter of the id. -/
theorem Incoming.ofJson_of_calls (message : Json) (method : Text) (value : Json)
    (calls : message.Calls method value) :
    ofJson message =
      if ! value.fitsDoubles then .unreadable else
      match Request.id? message with
      | none => .unreadable
      | some id => .request
        ⟨id, method, ((message.get? (utf8 "params")).getD .null).sorted⟩ := by
  obtain ⟨members, method, value, named, numbered, noResult, noError⟩ := calls
  have methods : Json.valuesOf "method" members = [.string method] :=
    congrArg (List.map Prod.snd) named
  have ids : Json.valuesOf "id" members = [value] := congrArg (List.map Prod.snd) numbered
  have results : Json.valuesOf "result" members = [] := congrArg (List.map Prod.snd) noResult
  have errors : Json.valuesOf "error" members = [] := congrArg (List.map Prod.snd) noError
  have known : hasKnownNumbers members = value.fitsDoubles := by
    simp [hasKnownNumbers, ids, results, errors]
  have names : namesMethod? members = some true := by rw [namesMethod?, methods]; rfl
  have lacks : hasOutcome members = false := by rw [hasOutcome, results, errors]; rfl
  rw [ofJson, known, names, lacks]
  split
  · rfl
  · simp only [Request.ofJson?, Json.get?_of_membersOf "method" members _ named]
    cases Request.id? (.object members) <;> rfl

theorem Request.id?_of_calls (message : Json) (method : Text) (value : Json)
    (calls : message.Calls method value) :
    id? message = match value with
      | .null => some none
      | value => (RequestId.ofJson? value).map some := by
  obtain ⟨members, method, value, -, numbered, -, -⟩ := calls
  rw [id?, Json.get?_of_membersOf "id" members value numbered]
  cases value <;> rfl

namespace Transport

theorem standard_lawful : standard.Lawful where
  held message method value carried calls echo := by
    obtain ⟨id, read, written⟩ := (RequestId.echoes_iff value carried).mp echo
    have found : Request.id? message = some (some id) := by
      rw [Request.id?_of_calls message method value calls]
      cases value with
      | null => cases read
      | _ => simp only [read, Option.map_some]
    have reads := Incoming.ofJson_of_calls message method value calls
    rw [Json.fitsDoubles_of_ofJson? value id read, found] at reads
    exact ⟨_, id, reads, rfl, rfl, written⟩
  null message method calls := by
    have found := Request.id?_of_calls message method .null calls
    have reads := Incoming.ofJson_of_calls message method .null calls
    rw [found] at reads
    exact ⟨_, reads, rfl, rfl⟩
  refused message method value calls present mute := by
    have unread : RequestId.ofJson? value = none := by
      cases read : RequestId.ofJson? value with
      | none => rfl
      | some id => exact absurd ((RequestId.echoes_iff value _).mpr ⟨id, read, rfl⟩) (mute _)
    have missing : Request.id? message = none := by
      rw [Request.id?_of_calls message method value calls]
      cases value with
      | null => exact absurd rfl present
      | _ => simp only [unread, Option.map_none]
    have reads := Incoming.ofJson_of_calls message method value calls
    rw [missing, ite_self] at reads
    exact reads

end Transport
end Hexaglyph
