import Spreadsheet.Text.Basic

/-!
# Decimal digits of all scripts

A number typed into a cell may use the decimal digits of any script.  Each
script has its ten digits in a row, so a table of the sixty-six zeros says it
all.
-/

namespace Spreadsheet.Text

/-- The code points of the zeros of the scripts, in increasing order. -/
def zeros : List Nat :=
  [0x30, 0x660, 0x6F0, 0x7C0, 0x966, 0x9E6, 0xA66, 0xAE6, 0xB66, 0xBE6, 0xC66,
   0xCE6, 0xD66, 0xDE6, 0xE50, 0xED0, 0xF20, 0x1040, 0x1090, 0x17E0, 0x1810,
   0x1946, 0x19D0, 0x1A80, 0x1A90, 0x1B50, 0x1BB0, 0x1C40, 0x1C50, 0xA620,
   0xA8D0, 0xA900, 0xA9D0, 0xA9F0, 0xAA50, 0xABF0, 0xFF10, 0x104A0, 0x10D30,
   0x11066, 0x110F0, 0x11136, 0x111D0, 0x112F0, 0x11450, 0x114D0, 0x11650,
   0x116C0, 0x11730, 0x118E0, 0x11950, 0x11C50, 0x11D50, 0x11DA0, 0x16A60,
   0x16AC0, 0x16B50, 0x1D7CE, 0x1D7D8, 0x1D7E2, 0x1D7EC, 0x1D7F6, 0x1E140,
   0x1E2F0, 0x1E950, 0x1FBF0]

/-- The ASCII digit of the same value as a decimal digit of any script; a
character that is no digit stands for itself. -/
def asciiDigit (c : Char) : Char :=
  match zeros.find? fun start => start ≤ c.toNat && c.toNat < start + 10 with
  | some start => Char.ofNat ('0'.toNat + (c.toNat - start))
  | none => c

/-- The text with every decimal digit written in ASCII. -/
def asciiDigits (t : Text) : Text :=
  t.map asciiDigit

/-- ASCII characters are left as they are. -/
theorem asciiDigit_of_ascii {c : Char} (ascii : c.toNat < 128) :
    asciiDigit c = c := by
  unfold asciiDigit
  split
  · next start found =>
      have bounds := List.find?_some found
      have member := List.mem_of_find?_eq_some found
      simp only [Bool.and_eq_true, decide_eq_true_eq] at bounds
      have first : start = 0x30 := by
        simp only [zeros, List.mem_cons, List.not_mem_nil, or_false] at member
        omega
      subst first
      have value : '0'.toNat + (c.toNat - 0x30) = c.toNat := by
        have zeroValue : '0'.toNat = 0x30 := rfl
        omega
      rw [value, Char.ofNat_toNat]
  · rfl

end Spreadsheet.Text
