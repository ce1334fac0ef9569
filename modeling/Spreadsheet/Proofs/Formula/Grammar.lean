import Spreadsheet.Formula.Reader
import Spreadsheet.Proofs.Text.Strip

/-!
# The grammar of formulas

A formula is written as an expression: sums of products of signed operands, each
of which is a numeral, a reference, an expression in parentheses or a call.  Any
number of blanks and tabs may stand between the tokens, and none inside a numeral
or a reference.  The arguments of a call are any texts in which parentheses are
balanced and no comma stands outside of them.

`Expression.Renders` relates expressions to the texts that write them, and
`Expression.formula` is the formula that an expression stands for.  Neither knows
how a text is read.
-/

namespace Spreadsheet

/-- The character of a sign. -/
def Sign.char : Sign → Char
  | plus => '+'
  | minus => '-'

/-- The character of an operation. -/
def Operator.char : Operator → Char
  | add => '+'
  | sub => '-'
  | mul => '*'
  | div => '/'

/-! ## Numerals -/

/-- A run of one or more digits. -/
structure Digits where
  text : Text
  nonempty : text ≠ []
  all : text.all Text.isDigit = true

/-- One digit. -/
def Digits.single (c : Char) (digit : Text.isDigit c = true) : Digits where
  text := [c]
  nonempty := List.cons_ne_nil _ _
  all := Text.all_singleton digit

/-- An exponent: its mark, perhaps a sign, and its digits. -/
structure Exponent where
  mark : Char
  sign : Option Sign
  digits : Digits
  isMark : mark = 'e' ∨ mark = 'E'

namespace Exponent

/-- The text of an exponent. -/
def text (exponent : Exponent) : Text :=
  exponent.mark :: (exponent.sign.toList.map Sign.char ++ exponent.digits.text)

/-- The power of ten that an exponent stands for. -/
def value (exponent : Exponent) : Int :=
  match exponent.sign with
  | some .minus => -(Text.digitsValue exponent.digits.text : Int)
  | _ => Text.digitsValue exponent.digits.text

end Exponent

/-- A number as it is written: digits, perhaps a point with further digits behind
it, and perhaps an exponent.  There is a digit before or behind the point. -/
structure Numeral where
  whole : Text
  fraction : Option Text
  exponent : Option Exponent
  wholeDigits : whole.all Text.isDigit = true
  fractionDigits : (fraction.getD []).all Text.isDigit = true
  nonempty : whole ++ fraction.getD [] ≠ []

namespace Numeral

/-- The point with the digits behind it. -/
def pointText (numeral : Numeral) : Text :=
  match numeral.fraction with
  | some digits => '.' :: digits
  | none => []

/-- The text of the exponent, if there is one. -/
def exponentText (numeral : Numeral) : Text :=
  match numeral.exponent with
  | some exponent => exponent.text
  | none => []

/-- The text of a numeral. -/
def text (numeral : Numeral) : Text :=
  numeral.whole ++ (numeral.pointText ++ numeral.exponentText)

/-- The decimal that a numeral writes. -/
def decimal (numeral : Numeral) : Decimal where
  mantissa := Text.digitsValue (numeral.whole ++ numeral.fraction.getD [])
  exponent :=
    (numeral.exponent.map Exponent.value).getD 0 - (numeral.fraction.getD []).length

/-- The number nearest to the decimal. -/
def value (numeral : Numeral) : Number :=
  numeral.decimal.toNumber false

end Numeral

/-! ## Arguments -/

/-- A text with balanced parentheses; commas outside of them must be allowed. -/
inductive Balanced : (commas : Bool) → Text → Prop where
  | nil (commas : Bool) : Balanced commas []
  | char {commas : Bool} {c : Char} {rest : Text} (unopened : c ≠ '(') (unclosed : c ≠ ')')
      (plain : commas = true ∨ c ≠ ',') (balanced : Balanced commas rest) :
      Balanced commas (c :: rest)
  | parentheses {commas : Bool} {inner rest : Text} (inside : Balanced true inner)
      (balanced : Balanced commas rest) :
      Balanced commas ('(' :: (inner ++ ')' :: rest))

namespace Arguments

/-- The texts of the arguments with commas between them. -/
def text : List Text → Text
  | [] => []
  | [argument] => argument
  | argument :: next :: rest => argument ++ ',' :: text (next :: rest)

/-- The arguments that a function is given: the raw texts, stripped.  Nothing but
blanks and tabs is no argument. -/
def passed : List Text → List Text
  | [] => []
  | [argument] => if argument.all Text.isGap then [] else [argument.strip]
  | argument :: next :: rest => (argument :: next :: rest).map Text.strip

end Arguments

/-! ## Expressions -/

/-- A run of one or more letters. -/
structure Letters where
  text : Text
  nonempty : text ≠ []
  all : text.all Text.isLetter = true

/-- One letter. -/
def Letters.single (c : Char) (letter : Text.isLetter c = true) : Letters where
  text := [c]
  nonempty := List.cons_ne_nil _ _
  all := Text.all_singleton letter

/-- The syntax trees of formulas. -/
inductive Expression where
  | number (numeral : Numeral)
  | reference (column : Letters) (row : Digits)
  | signed (sign : Sign) (operand : Expression)
  | binary (operator : Operator) (left right : Expression)
  | group (inner : Expression)
  | call (function : Letters) (arguments : List Text)

namespace Expression

/-- The formula that an expression stands for. -/
def formula : Expression → Formula
  | number numeral => .number numeral.value
  | reference column row => .reference (column.text ++ row.text)
  | signed sign operand => .signed sign operand.formula
  | binary operator left right => .binary operator left.formula right.formula
  | group inner => .group inner.formula
  | call function arguments =>
      .call (Text.upper function.text) (Arguments.passed arguments)

/-- How tightly an operand binds that is no operation. -/
def operandStrength : Nat := 3

/-- The text writes the expression, which binds at least as tightly as
`strength`.  An operation takes an operation of its own strength on its left only,
so operations of one strength group to the left. -/
inductive Renders : (strength : Nat) → Expression → Text → Prop where
  | number (numeral : Numeral) : Renders operandStrength (.number numeral) numeral.text
  | reference (column : Letters) (row : Digits) :
      Renders operandStrength (.reference column row) (column.text ++ row.text)
  | signed (sign : Sign) {gap text : Text} {operand : Expression}
      (blank : gap.all Text.isGap = true)
      (operandRenders : Renders operandStrength operand text) :
      Renders operandStrength (.signed sign operand) (sign.char :: (gap ++ text))
  | binary (operator : Operator) {leftText before behind rightText : Text}
      {left right : Expression}
      (leftRenders : Renders operator.strength left leftText)
      (blankBefore : before.all Text.isGap = true)
      (blankBehind : behind.all Text.isGap = true)
      (rightRenders : Renders (operator.strength + 1) right rightText) :
      Renders operator.strength (.binary operator left right)
        (leftText ++ (before ++ operator.char :: (behind ++ rightText)))
  | group {before text behind : Text} {inner : Expression}
      (blankBefore : before.all Text.isGap = true)
      (blankBehind : behind.all Text.isGap = true)
      (innerRenders : Renders Operator.add.strength inner text) :
      Renders operandStrength (.group inner)
        ('(' :: (before ++ (text ++ (behind ++ [')']))))
  | call (function : Letters) {gap : Text} {arguments : List Text}
      (blank : gap.all Text.isGap = true)
      (balanced : ∀ argument ∈ arguments, Balanced false argument) :
      Renders operandStrength (.call function arguments)
        (function.text ++ (gap ++ '(' :: (Arguments.text arguments ++ [')'])))
  | bareCall (function : Letters) {gap inside : Text} (blank : gap.all Text.isGap = true)
      (blankInside : inside.all Text.isGap = true) :
      Renders operandStrength (.call function [])
        (function.text ++ (gap ++ '(' :: (inside ++ [')'])))
  | weaken {strength : Nat} {expression : Expression} {text : Text}
      (renders : Renders (strength + 1) expression text) :
      Renders strength expression text

/-- A text that is nothing but the expression and the gaps around it. -/
def Writes (expression : Expression) (text : Text) : Prop :=
  ∃ before inner behind, before.all Text.isGap = true ∧ behind.all Text.isGap = true ∧
    expression.Renders Operator.add.strength inner ∧ text = before ++ (inner ++ behind)

/-- An operand writes itself. -/
theorem writes_of_renders {expression : Expression} {text : Text}
    (renders : Renders operandStrength expression text) : expression.Writes text :=
  ⟨[], text, [], rfl, rfl, .weaken (.weaken renders), by simp⟩

end Expression

end Spreadsheet
