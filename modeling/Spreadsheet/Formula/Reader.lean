import Spreadsheet.Formula.Basic
import Spreadsheet.Formula.Arguments
import Spreadsheet.Number.Decimal

/-!
# Reading a formula

A formula is read once from left to right, one character at a time.  What has
been read is a stack of frames, each of them waiting for an operand, and an edge,
the token or operand at which reading stands.  An operator closes the frames
that bind at least as tightly as it does, so operations of equal strength group
to the left; a closing parenthesis closes all frames down to its group.

Only blanks and tabs may stand between tokens.  A number is a run of digits with
at most one point before at most one exponent mark, which may have a sign right
behind it.  Letters with an opening parenthesis behind them name a function,
letters with digits right behind them are a reference, and letters alone are
neither.
-/

namespace Spreadsheet

/-- A number that has been read in part: its characters from the last to the
first, and what may still follow. -/
structure NumeralScan where
  read : Text
  point : Bool
  mark : Bool
  /-- The exponent mark is the last character, so that a sign may follow. -/
  atMark : Bool
  deriving DecidableEq

namespace NumeralScan

/-- Whether a number starts with the character. -/
def starts (c : Char) : Bool :=
  Text.isDigit c || c == '.'

/-- A number of one character. -/
def start (c : Char) : NumeralScan :=
  ⟨[c], c == '.', false, false⟩

/-- The number with one more character, if it belongs to it. -/
def step? (scan : NumeralScan) (c : Char) : Option NumeralScan :=
  if Text.isDigit c then
    some { scan with read := c :: scan.read, atMark := false }
  else if c = '.' && !scan.point && !scan.mark then
    some { scan with read := c :: scan.read, point := true }
  else if (c = 'e' || c = 'E') && !scan.mark then
    some { scan with read := c :: scan.read, mark := true, atMark := true }
  else if (c = '+' || c = '-') && scan.atMark then
    some { scan with read := c :: scan.read, atMark := false }
  else none

/-- The operand that the characters make up. -/
def operand (scan : NumeralScan) : Formula :=
  match Number.ofText? scan.read.reverse with
  | some value => .number value
  | none => .broken (.badNumber scan.read.reverse)

end NumeralScan

/-- Something that has been read and waits for an operand. -/
inductive Frame where
  | sign (sign : Sign)
  | left (operand : Formula) (operator : Operator)
  | group
  deriving DecidableEq

/-- Where reading stands.  Runs of characters are kept from the last to the
first. -/
inductive Edge where
  /-- An operand must come. -/
  | operand
  | numeral (scan : NumeralScan)
  | letters (name : Text)
  /-- Letters with blanks or tabs behind them. -/
  | spacedLetters (name : Text)
  /-- Letters with digits behind them. -/
  | reference (name : Text)
  | arguments (function : Text) (scan : ArgumentScan)
  /-- An operand has been read, and an operator may come. -/
  | operator (operand : Formula)
  deriving DecidableEq

/-- A formula that has been read in part. -/
inductive Reader where
  | reading (position : Nat) (frames : List Frame) (edge : Edge)
  /-- The formula is complete, and more text follows. -/
  | trailing (formula : Formula) (position : Nat) (rest : Text)
  /-- Reading has stopped at a character that cannot stand where it does. -/
  | stopped (formula : Formula)
  deriving DecidableEq

namespace Reader

/-- Close the innermost frames that bind at least as tightly as `strength`. -/
def close (strength : Nat) : Formula → List Frame → Formula × List Frame
  | operand, .sign sign :: frames => close strength (.signed sign operand) frames
  | operand, .left first operator :: frames =>
      if strength ≤ operator.strength then
        close strength (.binary operator first operand) frames
      else (operand, .left first operator :: frames)
  | operand, frames => (operand, frames)

/-- The formula when nothing more is read after an operand. -/
def rebuild : Formula → List Frame → Formula
  | operand, [] => operand
  | operand, .sign sign :: frames => rebuild (.signed sign operand) frames
  | operand, .left first operator :: frames =>
      rebuild (.binary operator first operand) frames
  | operand, .group :: frames => rebuild (.group operand) frames

/-- Close everything in the innermost group and stop for want of its closing
parenthesis, if there is such a group. -/
def unclosed (operand : Formula) (frames : List Frame) : Formula :=
  let closed := close 0 operand frames
  match closed.2 with
  | [] => closed.1
  | waiting => rebuild (.halted closed.1 .missingParenthesis) waiting

/-- The operation that a character stands for. -/
def operator? (c : Char) : Option Operator :=
  if c = '+' then some .add
  else if c = '-' then some .sub
  else if c = '*' then some .mul
  else if c = '/' then some .div
  else none

/-- Read a character behind an operand. -/
def stepOperator (position : Nat) (frames : List Frame) (operand : Formula)
    (c : Char) : Reader :=
  if Text.isGap c then .reading (position + 1) frames (.operator operand)
  else
    match operator? c with
    | some operator =>
        let closed := close operator.strength operand frames
        .reading (position + 1) (.left closed.1 operator :: closed.2) .operand
    | none =>
        let closed := close 0 operand frames
        match closed.2 with
        | [] => .trailing closed.1 position [c]
        | _ :: outer =>
            if c = ')' then
              .reading (position + 1) outer (.operator (.group closed.1))
            else .stopped (rebuild (.halted closed.1 .missingParenthesis) closed.2)

/-- Read a character where an operand must come. -/
def stepOperand (position : Nat) (frames : List Frame) (c : Char) : Reader :=
  if Text.isGap c then .reading (position + 1) frames .operand
  else if c = '+' then .reading (position + 1) (.sign .plus :: frames) .operand
  else if c = '-' then .reading (position + 1) (.sign .minus :: frames) .operand
  else if c = '(' then .reading (position + 1) (.group :: frames) .operand
  else if NumeralScan.starts c then
    .reading (position + 1) frames (.numeral (.start c))
  else if Text.isLetter c then .reading (position + 1) frames (.letters [c])
  else .stopped (rebuild (.broken (.unexpectedChar c position)) frames)

/-- Letters that are neither a reference nor a function's name. -/
def bareWord (name : Text) : Formula :=
  .broken (.badReference name.reverse)

/-- Read one more character. -/
def step : Reader → Char → Reader
  | reading position frames edge, c =>
      match edge with
      | .operand => stepOperand position frames c
      | .operator operand => stepOperator position frames operand c
      | .numeral scan =>
          match scan.step? c with
          | some next => reading (position + 1) frames (.numeral next)
          | none => stepOperator position frames scan.operand c
      | .letters name =>
          if Text.isLetter c then reading (position + 1) frames (.letters (c :: name))
          else if Text.isDigit c then reading (position + 1) frames (.reference (c :: name))
          else if c = '(' then
            reading (position + 1) frames (.arguments (Text.upper name.reverse) .start)
          else if Text.isGap c then reading (position + 1) frames (.spacedLetters name)
          else stepOperator position frames (bareWord name) c
      | .spacedLetters name =>
          if Text.isGap c then reading (position + 1) frames (.spacedLetters name)
          else if c = '(' then
            reading (position + 1) frames (.arguments (Text.upper name.reverse) .start)
          else stepOperator position frames (bareWord name) c
      | .reference name =>
          if Text.isDigit c then reading (position + 1) frames (.reference (c :: name))
          else stepOperator position frames (.reference name.reverse) c
      | .arguments function scan =>
          match scan.step c with
          | .more next => reading (position + 1) frames (.arguments function next)
          | .closed arguments =>
              reading (position + 1) frames (.operator (.call function arguments))
  | trailing formula position rest, c => trailing formula position (c :: rest)
  | stopped formula, _ => stopped formula

/-- Nothing has been read. -/
def start : Reader := reading 0 [] .operand

/-- The formula when the text ends here. -/
def finish : Reader → Formula
  | reading _ frames edge =>
      match edge with
      | .operand => rebuild (.broken .endOfFormula) frames
      | .operator operand => unclosed operand frames
      | .numeral scan => unclosed scan.operand frames
      | .letters name => unclosed (bareWord name) frames
      | .spacedLetters name => unclosed (bareWord name) frames
      | .reference name => unclosed (.reference name.reverse) frames
      | .arguments _ _ => rebuild (.broken .unterminatedArguments) frames
  | trailing formula position rest =>
      .halted formula (.unexpectedRest rest.reverse position)
  | stopped formula => formula

end Reader

/-- The formula that a text stands for. -/
def Formula.ofText (text : Text) : Formula :=
  (text.foldl Reader.step Reader.start).finish

end Spreadsheet
