import Spreadsheet.Text.Uppercase

/-!
# Column letters

Columns are numbered from zero and named by letters: `A` to `Z`, then `AA`,
`AB` and so on.  The letters are the digits of the column's number plus one in
base twenty-six, with `A` for one and `Z` for twenty-six and no digit for zero.
-/

namespace Spreadsheet.Column

/-- The capital letter for a remainder below twenty-six. -/
def letter (remainder : Nat) : Char :=
  Char.ofNat ('A'.toNat + remainder)

/-- The letters of a column. -/
def letters (column : Nat) : Text :=
  if column < 26 then [letter column]
  else letters (column / 26 - 1) ++ [letter (column % 26)]
termination_by column

/-- The place of an ASCII letter of either case in the alphabet, from one. -/
def place (c : Char) : Nat :=
  (Text.capital c).toNat - 'A'.toNat + 1

/-- The column that a run of letters names; case does not matter. -/
def ofLetters (name : Text) : Nat :=
  name.foldl (fun n c => 26 * n + place c) 0 - 1

example : letters 0 = ['A'] ∧ letters 25 = ['Z'] ∧ letters 26 = ['A', 'A'] := by
  decide +kernel

example : ofLetters ['Z'] = 25 ∧ ofLetters ['a', 'A'] = 26 := by decide

end Spreadsheet.Column
