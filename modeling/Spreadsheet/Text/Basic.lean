/-!
# Text as a list of characters

Cell contents, formulas, references and names are lists of characters, so that
positions and lengths count code points and every reader is a recursion on the
list.  This module holds the white space that surrounds a text, the ASCII
letters and digits of the formula language, and stripping.
-/

namespace Spreadsheet

/-- A text, character by character. -/
abbrev Text := List Char

namespace Text

/-- White space in the sense of stripping: the ASCII controls that separate,
the blank, and the spaces and separators of the other scripts.  The zero-width
characters are not among them. -/
def isBlank (c : Char) : Bool :=
  let n := c.toNat
  (0x09 ≤ n && n ≤ 0x0D) || (0x1C ≤ n && n ≤ 0x20) || n == 0x85 || n == 0xA0 ||
    n == 0x1680 || (0x2000 ≤ n && n ≤ 0x200A) || n == 0x2028 || n == 0x2029 ||
    n == 0x202F || n == 0x205F || n == 0x3000

/-- The two characters that a formula may hold between its tokens. -/
def isGap (c : Char) : Bool :=
  c == ' ' || c == '\t'

/-- An ASCII digit. -/
def isDigit (c : Char) : Bool :=
  '0' ≤ c && c ≤ '9'

/-- An ASCII letter of either case. -/
def isLetter (c : Char) : Bool :=
  ('A' ≤ c && c ≤ 'Z') || ('a' ≤ c && c ≤ 'z')

/-- What may stand between tokens is white space. -/
theorem isBlank_of_isGap {c : Char} (gap : isGap c = true) : isBlank c = true := by
  simp only [isGap, Bool.or_eq_true, beq_iff_eq] at gap
  rcases gap with rfl | rfl <;> decide

/-- Drop the characters of `t` after its last character outside `skipped`. -/
def dropRightWhile (skipped : Char → Bool) (t : Text) : Text :=
  (t.reverse.dropWhile skipped).reverse

/-- The text without the white space at its two ends. -/
def strip (t : Text) : Text :=
  dropRightWhile isBlank (t.dropWhile isBlank)

/-- What follows the last `mark` of the text, if it has one. -/
def afterLast (mark : Char) : Text → Option Text
  | [] => none
  | c :: rest =>
      match afterLast mark rest with
      | some tail => some tail
      | none => if c = mark then some rest else none

/-- The parts before and after the first `mark` of the text, if it has one. -/
def splitFirst (mark : Char) : Text → Option (Text × Text)
  | [] => none
  | c :: rest =>
      if c = mark then some ([], rest)
      else (splitFirst mark rest).map fun parts => (c :: parts.1, parts.2)

/-- The number written by a run of ASCII digits, read from the left. -/
def digitsValue (digits : Text) : Nat :=
  digits.foldl (fun n d => 10 * n + (d.toNat - '0'.toNat)) 0

/-- The decimal digits of a number, without leading zeros. -/
def ofNat (n : Nat) : Text :=
  Nat.toDigits 10 n

/-- A whole number in decimal, with `-` before a negative one. -/
def ofInt : Int → Text
  | .ofNat n => ofNat n
  | .negSucc n => '-' :: ofNat (n + 1)

/-- How many decimal digits an address or a stored whole number may have where
it is read or written.  Leading zeros count when it is read. -/
def digitLimit : Nat := 4300

/-- The decimal digits of a number, unless they are too many. -/
def ofNat? (n : Nat) : Option Text :=
  let digits := ofNat n
  if digitLimit < digits.length then none else some digits

/-- A whole number in decimal, unless it has too many digits; its sign is none. -/
def ofInt? : Int → Option Text
  | .ofNat n => ofNat? n
  | .negSucc n => (ofNat? (n + 1)).map ('-' :: ·)

/-- A number within the limit is written as it is without one. -/
theorem ofNat?_eq_some_iff {n : Nat} {digits : Text} :
    ofNat? n = some digits ↔ (ofNat n).length ≤ digitLimit ∧ ofNat n = digits := by
  simp only [ofNat?]
  split <;> simp <;> omega

end Text

end Spreadsheet
