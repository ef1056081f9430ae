import Hexaglyph.Text.Digits
set_option autoImplicit false

/-! Hexadecimal digits, written and read. -/
namespace Hexaglyph

theorem hexDigit_mod (letters : LetterCase) (value : Nat) :
    hexDigit letters (value % 16) = hexDigit letters value := by
  simp only [hexDigit, Nat.mod_mod]

theorem hexValue?_hexDigit (letters : LetterCase) (value : Nat) :
    hexValue? (hexDigit letters value) = some (value % 16) := by
  have table : ∀ digit < 16, hexValue? (hexDigit letters digit) = some digit := by
    cases letters <;> decide
  rw [← hexDigit_mod]
  exact table (value % 16) (Nat.mod_lt value (by decide))

/-- Whatever is read as a digit could have been written as one, with letters of one case or the
other. -/
theorem hexValue?_eq_some_iff (digit : UInt8) (value : Nat) :
    hexValue? digit = some value ↔ value < 16 ∧ ∃ letters, digit = hexDigit letters value := by
  constructor
  · intro found
    unfold hexValue? at found
    simp only at found
    have same := digit.ofNat_toNat
    split at found
    · have value_eq := Option.some.inj found
      refine ⟨by omega, .lower, ?_⟩
      have decimal : value % 16 < 10 := by omega
      have code : 0x30 + value % 16 = digit.toNat := by omega
      rw [hexDigit, if_pos decimal, code, same]
    · split at found
      · have value_eq := Option.some.inj found
        refine ⟨by omega, .upper, ?_⟩
        have letter : ¬ value % 16 < 10 := by omega
        have code : 0x41 + (value % 16 - 10) = digit.toNat := by omega
        rw [hexDigit, if_neg letter, code, same]
      · split at found
        · have value_eq := Option.some.inj found
          refine ⟨by omega, .lower, ?_⟩
          have letter : ¬ value % 16 < 10 := by omega
          have code : 0x61 + (value % 16 - 10) = digit.toNat := by omega
          rw [hexDigit, if_neg letter, code, same]
        · cases found
  · rintro ⟨small, letters, rfl⟩
    rw [hexValue?_hexDigit, Nat.mod_eq_of_lt small]

namespace Text

/-- The ways to write a byte as two hexadecimal digits: each letter may have either case. -/
def spellings (byte : UInt8) : List Text :=
  [LetterCase.lower, .upper].flatMap fun first => [LetterCase.lower, .upper].map fun second =>
    [hexDigit first (byte.toNat / 16), hexDigit second byte.toNat]

theorem mem_spellings (t : Text) (byte : UInt8) :
    t ∈ spellings byte ↔
      ∃ first second, t = [hexDigit first (byte.toNat / 16), hexDigit second byte.toNat] := by
  have either : ∀ letters, letters ∈ [LetterCase.lower, .upper] := by
    intro letters
    cases letters <;> decide
  rw [spellings, List.mem_flatMap]
  constructor
  · rintro ⟨first, -, member⟩
    obtain ⟨second, -, same⟩ := List.mem_map.mp member
    exact ⟨first, second, same.symm⟩
  · rintro ⟨first, second, rfl⟩
    exact ⟨first, either first, List.mem_map.mpr ⟨second, either second, rfl⟩⟩

/-- A text stands for a byte exactly if it is one of its spellings. -/
theorem toByte?_eq_some_iff (t : Text) (byte : UInt8) :
    toByte? t = some byte ↔ t ∈ spellings byte := by
  have bound := byte.toNat_lt
  rw [mem_spellings]
  constructor
  · intro read
    unfold toByte? at read
    split at read
    · rename_i high low
      simp only [Option.bind_eq_bind, Option.bind_eq_some_iff, Option.pure_def] at read
      obtain ⟨h, highValue, l, lowValue, same⟩ := read
      obtain ⟨highSmall, first, rfl⟩ := (hexValue?_eq_some_iff _ _).mp highValue
      obtain ⟨lowSmall, second, rfl⟩ := (hexValue?_eq_some_iff _ _).mp lowValue
      have whole : byte.toNat = 16 * h + l := by
        rw [← Option.some.inj same, UInt8.toNat_ofNat_of_lt' (by simp only [UInt8.size]; omega)]
      have upper : byte.toNat / 16 = h := by omega
      have lower : byte.toNat % 16 = l % 16 := by omega
      refine ⟨first, second, ?_⟩
      rw [upper]
      simp only [hexDigit, lower]
    · cases read
  · rintro ⟨first, second, rfl⟩
    have whole : 16 * (byte.toNat / 16 % 16) + byte.toNat % 16 = byte.toNat := by omega
    simp only [toByte?, hexValue?_hexDigit, Option.bind_eq_bind, Option.bind_some, Option.pure_def,
      whole, UInt8.ofNat_toNat]

end Text
end Hexaglyph
