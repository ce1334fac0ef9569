import Spreadsheet.Text.Basic

/-!
# Argument lists

The arguments of a call are the texts between its parentheses, cut at the commas
that are not inside further parentheses.  They are stripped of white space and
otherwise left as they are, so that each function can decide what to evaluate.
An empty list is written with nothing but blanks and tabs.

Reading goes character by character: `ArgumentScan` holds what has been read of
the list, and `ArgumentScan.step` says what one more character does.
-/

namespace Spreadsheet

namespace Arguments

/-- How many characters the argument at the head of the text has: up to the
comma or closing parenthesis that ends it, or to the end of the text.  `depth`
counts the parentheses that are open. -/
def firstLength (depth : Nat) : Text → Nat
  | [] => 0
  | c :: rest =>
      if c = '(' then firstLength (depth + 1) rest + 1
      else if c = ')' then
        match depth with
        | 0 => 0
        | outer + 1 => firstLength outer rest + 1
      else if c = ',' && depth = 0 then 0
      else firstLength depth rest + 1

/-- The position of the character that ends the argument starting at `start`. -/
def firstEnd (text : Text) (start : Nat) : Nat :=
  start + firstLength 0 (text.drop start)

end Arguments

/-- An argument list that has been read in part: the finished arguments and the
characters of the current one, both from the last to the first, and the number
of parentheses open in it. -/
structure ArgumentScan where
  finished : List Text
  current : Text
  depth : Nat
  deriving DecidableEq

namespace ArgumentScan

/-- Nothing has been read behind the opening parenthesis. -/
def start : ArgumentScan := ⟨[], [], 0⟩

/-- The current argument as it will be passed on. -/
def currentArgument (scan : ArgumentScan) : Text :=
  Text.strip scan.current.reverse

/-- The arguments when the list ends here; a lone argument of blanks and tabs is
no argument. -/
def close (scan : ArgumentScan) : List Text :=
  if scan.finished.isEmpty && scan.current.all Text.isGap then []
  else (scan.currentArgument :: scan.finished).reverse

/-- The list goes on, or it has been closed. -/
inductive Progress where
  | more (scan : ArgumentScan)
  | closed (arguments : List Text)

/-- Read one more character. -/
def step (scan : ArgumentScan) (c : Char) : Progress :=
  if c = '(' then
    .more { scan with current := c :: scan.current, depth := scan.depth + 1 }
  else if c = ')' then
    match scan.depth with
    | 0 => .closed scan.close
    | outer + 1 => .more { scan with current := c :: scan.current, depth := outer }
  else if c = ',' && scan.depth = 0 then
    .more ⟨scan.currentArgument :: scan.finished, [], 0⟩
  else .more { scan with current := c :: scan.current }

/-- Read until the list is closed: its arguments and what stands behind it.
There is no answer when the text ends first. -/
def run? (scan : ArgumentScan) : Text → Option (List Text × Text)
  | [] => none
  | c :: rest =>
      match scan.step c with
      | .more next => next.run? rest
      | .closed arguments => some (arguments, rest)

end ArgumentScan

/-- The arguments of a call whose opening parenthesis stands just before
`start`, and the position behind its closing one. -/
def Arguments.split? (text : Text) (start : Nat) : Option (List Text × Nat) :=
  (ArgumentScan.start.run? (text.drop start)).map fun result =>
    (result.1, text.length - result.2.length)

end Spreadsheet
