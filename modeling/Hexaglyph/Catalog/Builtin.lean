import Hexaglyph.Catalog.Basic
set_option autoImplicit false

/-! The catalog that is used when no other is named. -/
namespace Hexaglyph.Catalog.Builtin

def instruction (glyph name opcode description meaning : String) : Text × Instruction :=
  (utf8 glyph, Instruction.resolved
    ⟨utf8 name, utf8 opcode, utf8 description, utf8 meaning, none⟩)

def instructions : Mapping Text Instruction where
  entries := [
    instruction "幽𓏠" "NOP" "00" "No operation"
      "Silence in the Hive",
    instruction "彡𓆑" "SET" "01" "Set register to immediate"
      "Set Register to Two",
    instruction "氷⟁" "SET" "01" "Set register to immediate"
      "Freeze Register",
    instruction "口⿰" "ADD" "02" "Add two registers"
      "Join",
    instruction "刂⿸" "SUB" "03" "Subtract two registers"
      "Sever",
    instruction "爬⟆" "MUL" "04" "Multiply two registers"
      "Multiply",
    instruction "牙彖" "DIV" "05" "Divide two registers"
      "Divide",
    instruction "走𓂻" "JMP" "12" "Unconditional jump"
      "Leap",
    instruction "目⿱" "JEQ" "13" "Jump if registers are equal"
      "Leap if Twinned",
    instruction "目⿲" "JNE" "14" "Jump if registers differ"
      "Leap if Sundered",
    instruction "𓁹終" "HLT" "15" "Halt execution"
      "End of Song",
    instruction "孓冂" "PUSH" "20" "Push register onto stack"
      "Bury",
    instruction "孑冂" "POP" "21" "Pop stack into register"
      "Unearth",
    instruction "血⿻" "PRN" "22" "Print register"
      "Speak Register 0",
    instruction "覗𓆣" "INP" "23" "Read input into register"
      "Input to Register 0",
    instruction "彁巛" "LD" "24" "Load register from memory"
      "Draw from the Well",
    instruction "凵⿴" "ST" "25" "Store register to memory"
      "Pour into the Well"]
  distinct := by decide

def modifiers : Mapping Text Modifier where
  entries := [
    (utf8 "⺀", ⟨utf8 "REPEAT", utf8 "Repeat the next instruction"⟩),
    (utf8 "⺌", ⟨utf8 "INVERT", utf8 "Invert the condition of the next jump"⟩),
    (utf8 "⻊", ⟨utf8 "WIDE", utf8 "Treat the next operand as a wide value"⟩)]
  distinct := by decide

def augmenters : Mapping Text Augmenter where
  entries := [
    (utf8 "𓂀", ⟨utf8 "EYE", utf8 "Broadcast the result to the Hive"⟩),
    (utf8 "𓆸", ⟨utf8 "LOTUS", utf8 "Calm the target register"⟩),
    (utf8 "𓋹", ⟨utf8 "ANKH", utf8 "Preserve the value beyond halt"⟩)]
  distinct := by decide

end Builtin

def builtin : Catalog :=
  ⟨utf8 "default", Builtin.instructions, Builtin.modifiers, Builtin.augmenters⟩

end Hexaglyph.Catalog
