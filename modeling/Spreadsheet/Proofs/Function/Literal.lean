import Spreadsheet.Grid.Recalculation
import Spreadsheet.Proofs.Formula.Reading
import Spreadsheet.Proofs.Function.Evaluation
import Spreadsheet.Proofs.Query.Run
import Spreadsheet.Proofs.Text.Strip

/-!
# Numbers typed alone and in formulas

The literal text of a cell and a formula both can be nothing but a number.  A literal is read by
the rules for decimal numbers, its sign included; in a formula the sign is an operation, and a
scanner decides how far the number goes.  Both come to the same: the scanner goes neither too far
nor not far enough, and changing the sign afterwards is the same as rounding with the sign.
-/

namespace Spreadsheet

/-! ## Signs and rounding -/

theorem Number.neg_ofRatio (negative : Bool) (numerator denominator : Nat) :
    -ofRatio negative numerator denominator = ofRatio (!negative) numerator denominator := by
  change neg (ofRatio _ _ _) = _
  simp only [ofRatio]
  split <;> rfl

/-- A decimal is rounded with its sign, or without and the sign put before it then. -/
theorem Decimal.neg_toNumber (negative : Bool) (decimal : Decimal) :
    -decimal.toNumber negative = decimal.toNumber (!negative) := by
  rw [toNumber, toNumber]
  split
  · rfl
  split
  · rfl
  split
  · rfl
  split
  · exact Number.neg_ofRatio negative _ _
  · exact Number.neg_ofRatio negative _ _

/-! ## What the scanner takes -/

namespace NumeralScan

/-- The characters that a number can have besides digits. -/
def marks : List Char := ['.', 'e', 'E', '+', '-']

variable {scan next final : NumeralScan} {c : Char} {text : Text}

theorem isDigit_or_mem_marks_of_starts (starting : starts c = true) :
    Text.isDigit c = true ∨ c ∈ marks := by
  simp only [starts, Bool.or_eq_true, beq_iff_eq] at starting
  rcases starting with digit | rfl
  · exact .inl digit
  · exact .inr (by decide)

theorem isDigit_or_mem_marks_of_step? (belongs : scan.step? c = some next) :
    Text.isDigit c = true ∨ c ∈ marks := by
  by_cases digit : Text.isDigit c = true
  · exact .inl digit
  · refine .inr ?_
    by_contra unmarked
    simp only [marks, List.mem_cons, List.not_mem_nil, or_false, not_or] at unmarked
    obtain ⟨point, small, capital, plus, minus⟩ := unmarked
    simp [step?, digit, point, small, capital, plus, minus] at belongs

/-- What has been taken are the characters, and each of them is a digit or a mark. -/
theorem read_of_foldlM (scans : text.foldlM step? scan = some final) :
    final.read = text.reverse ++ scan.read ∧
      ∀ c ∈ text, Text.isDigit c = true ∨ c ∈ marks := by
  induction text generalizing scan with
  | nil =>
      cases scans
      exact ⟨rfl, fun c member => absurd member List.not_mem_nil⟩
  | cons c text inductionHypothesis =>
      rw [List.foldlM_cons] at scans
      cases taken : scan.step? c with
      | none =>
          rw [taken] at scans
          cases scans
      | some next =>
          rw [taken] at scans
          obtain ⟨read, plain⟩ := inductionHypothesis scans
          refine ⟨?_, List.forall_mem_cons.mpr ⟨isDigit_or_mem_marks_of_step? taken, plain⟩⟩
          rw [read, read_of_step? taken, List.reverse_cons, List.append_assoc,
            List.singleton_append]

end NumeralScan

/-! ## Literals -/

namespace CellValue

variable {text : Text}

/-- The value of a text that is read as a number, or not. -/
def ofNumber? : Option Number → CellValue
  | some value => .number value
  | none => .error .err

/-- Digits and marks are read as they stand. -/
theorem ofLiteral_of_plain
    (plain : ∀ c ∈ text, Text.isDigit c = true ∨ c ∈ NumeralScan.marks) :
    ofLiteral text = ofNumber? (Number.ofText? text) := by
  have kept : ∀ c ∈ text, Text.isBlank c = false ∧ Text.asciiDigit c = c ∧ '_' ≠ c := by
    intro c member
    rcases plain c member with digit | mark
    · refine ⟨Text.isBlank_eq_false (.inr digit), Text.asciiDigit_of_ascii ?_, ?_⟩
      · simp only [Text.isDigit, Bool.and_eq_true, decide_eq_true_eq] at digit
        exact Nat.lt_of_le_of_lt (show c.toNat ≤ '9'.toNat from digit.2) (by decide)
      · rintro rfl
        exact absurd digit (by decide)
    · simp only [NumeralScan.marks, List.mem_cons, List.not_mem_nil, or_false] at mark
      rcases mark with rfl | rfl | rfl | rfl | rfl <;> decide
  have solid : text.strip = text := Text.strip_eq_self fun c member => (kept c member).1
  have ascii : Text.asciiDigits text = text :=
    (List.map_congr_left fun c member => (kept c member).2.1).trans (List.map_id text)
  have joined : text.contains '_' = false := by
    rw [List.contains_eq_any_beq, List.any_eq_false]
    exact fun c member => by simpa using (kept c member).2.2
  rw [ofLiteral, solid, ascii, joined, if_neg (by simp)]
  cases Number.ofText? text with
  | some value => rfl
  | none => rfl

/-- An ASCII text that is a number as a literal is read as it stands. -/
theorem ofText?_of_ofLiteral (ascii : ∀ c ∈ text, c.toNat < 128) {value : Number}
    (literal : ofLiteral text = .number value) : Number.ofText? text = some value := by
  have same : Text.asciiDigits text = text :=
    (List.map_congr_left fun c member => Text.asciiDigit_of_ascii (ascii c member)).trans
      (List.map_id text)
  rw [ofLiteral, same] at literal
  split at literal
  · cases literal
  · split at literal
    · next taken =>
        cases literal
        exact taken
    · cases literal

/-- The result of a formula that comes to this value: a number that is not finite is an error. -/
def settled : CellValue → CellValue
  | .number value => if value.isFinite then .number value else .error .err
  | .error code => .error code

theorem settled_eq_number_iff {value : CellValue} {number : Number} :
    value.settled = .number number ↔ value = .number number ∧ number.isFinite = true := by
  cases value with
  | error code => exact ⟨nofun, nofun⟩
  | number result =>
      rw [settled]
      by_cases finite : result.isFinite = true
      · rw [if_pos finite, CellValue.number.injEq]
        exact ⟨fun same => ⟨same, same ▸ finite⟩, And.left⟩
      · rw [if_neg finite, CellValue.number.injEq]
        refine ⟨nofun, ?_⟩
        rintro ⟨rfl, impossible⟩
        exact absurd impossible finite

end CellValue

/-! ## Formulas that are numbers -/

theorem Number.ofText?_sign_cons (sign : Sign) (rest : Text) :
    ofText? (sign.char :: rest) = ofUnsigned? (sign = .minus) rest := by
  cases sign <;> rfl

theorem Sign.apply_toNumber (sign : Sign) (decimal : Decimal) :
    sign.apply (decimal.toNumber false) = decimal.toNumber (sign = .minus) := by
  cases sign with
  | plus => rfl
  | minus => exact decimal.neg_toNumber false

/-- Whether a text begins with a digit or a point, after one sign at most. -/
def Text.BeginsNumber (text : Text) : Prop :=
  ∃ (sign : Option Sign) (c : Char) (rest : Text),
    text = sign.toList.map Sign.char ++ c :: rest ∧ NumeralScan.starts c = true

section Evaluation

variable (functions : Registry) {room : Nat} {text : Text} {value : Number}

/-- A text that begins like a number and is one has the same value as a formula. -/
theorem Registry.query_of_ofText? (enough : Nesting.formula + Nesting.sign ≤ room)
    (begins : text.BeginsNumber) (taken : Number.ofText? text = some value) :
    functions.query room text = .done value := by
  obtain ⟨sign, c, rest, rfl, starting⟩ := begins
  cases sign with
  | none =>
      obtain ⟨numeral, written⟩ := Numeral.exists_of_ofText? starting taken
      have same : numeral.value = value := by
        have read := numeral.ofText?_text
        rw [written] at read
        exact Option.some.inj (read.symm.trans taken)
      have writes := Expression.writes_of_renders (.number numeral)
      rw [written] at writes
      rw [query, Query.within_of_le (by omega), expression, evaluate_succ, Option.toList_none,
        List.map_nil, List.nil_append, Formula.ofText_of_writes writes]
      exact congrArg Query.done same
  | some sign =>
      change Number.ofText? (sign.char :: c :: rest) = some value at taken
      change functions.query room (sign.char :: c :: rest) = .done value
      rw [Number.ofText?_sign_cons, Number.ofUnsigned?_of_starts starting] at taken
      obtain ⟨decimal, read, rfl⟩ := Option.map_eq_some_iff.mp taken
      obtain ⟨numeral, written⟩ := Numeral.exists_of_decimal read
      have same : numeral.decimal = decimal := by
        rw [← written, numeral.ofText?_decimal] at read
        exact Option.some.inj read
      have writes := Expression.writes_of_renders
        (@Expression.Renders.signed sign [] _ _ rfl (.number numeral))
      rw [List.nil_append, written] at writes
      rw [query, Query.within_of_le (by omega), expression, evaluate_succ,
        Formula.ofText_of_writes writes, Expression.formula, Formula.evaluate,
        Query.within_of_le (by omega), ← same, ← sign.apply_toNumber]
      rfl

end Evaluation

namespace Source

variable (functions : Registry) (resolver : Nat → Text → Guarded CellValue) {room : Nat}
  {text : Text}

/-- A text whose characters make up one number has the value of its literal, if that is
finite. -/
theorem evaluateFormula_of_scan (enough : Nesting.formula ≤ room) {c : Char} {rest : Text}
    {scan : NumeralScan} (starting : NumeralScan.starts c = true)
    (scans : rest.foldlM NumeralScan.step? (.start c) = some scan) :
    evaluateFormula functions room resolver (c :: rest) =
      pure (CellValue.ofLiteral (c :: rest)).settled := by
  obtain ⟨read, plain⟩ := NumeralScan.read_of_foldlM scans
  have whole : scan.read.reverse = c :: rest := by
    rw [read, List.reverse_append, List.reverse_reverse]
    rfl
  have token : Formula.ofText (c :: rest) = scan.operand := by
    rw [Formula.ofText, Reader.start, List.foldl_cons]
    simp only [Reader.step, Reader.stepOperand_of_starts 0 [] starting]
    rw [Reader.foldl_numeral 1 [] scans]
    rfl
  rw [CellValue.ofLiteral_of_plain (List.forall_mem_cons.mpr
    ⟨NumeralScan.isDigit_or_mem_marks_of_starts starting, plain⟩)]
  rw [evaluateFormula, Registry.query, Query.within_of_le enough, Registry.expression,
    Registry.evaluate_succ, token, NumeralScan.operand, whole]
  cases Number.ofText? (c :: rest) with
  | some value =>
      simp only [Formula.evaluate, Query.run, CellValue.ofNumber?, CellValue.settled]
      rfl
  | none => rfl

theorem evaluateFormula_of_query {value : Number} (ends : functions.query room text = .done value) :
    evaluateFormula functions room resolver text = pure (CellValue.number value).settled := by
  rw [evaluateFormula, ends]
  rfl

theorem pure_inj {value other : CellValue} :
    (pure value : Guarded CellValue) = pure other ↔ value = other := by
  refine ⟨fun same => ?_, congrArg _⟩
  have ended := congrArg (fun guarded => (guarded.run .empty).1) same
  exact Except.ok.inj ended

/-- Numbers mean the same typed alone and in a formula.  An ASCII text that begins with a digit
or a point, after one sign at most, and that is a number as a literal has the same value as a
formula if the number is finite, and is `#ERR` if it is infinite.  In the other direction, where
the characters of a text all make up one number, the formula has a value exactly when the
literal has a finite one, and it is the same. -/
theorem evaluateFormula_literal (functions : Registry)
    (resolver : Nat → Text → Guarded CellValue) {room : Nat}
    (enough : Nesting.formula + Nesting.sign ≤ room) (text : Text) :
    ((∀ c ∈ text, c.toNat < 128) → text.BeginsNumber →
      ∀ value, CellValue.ofLiteral text = .number value →
        (value.isFinite = true →
          evaluateFormula functions room resolver text = pure (.number value)) ∧
        (∀ negative, value = .infinite negative →
          evaluateFormula functions room resolver text = pure (.error .err))) ∧
    ∀ c rest scan, text = c :: rest → NumeralScan.starts c = true →
      rest.foldlM NumeralScan.step? (.start c) = some scan →
        ∀ value, evaluateFormula functions room resolver text = pure (.number value) ↔
          CellValue.ofLiteral text = .number value ∧ value.isFinite = true := by
  constructor
  · intro ascii begins value literal
    have ends := functions.query_of_ofText? enough begins
      (CellValue.ofText?_of_ofLiteral ascii literal)
    rw [evaluateFormula_of_query functions resolver ends, CellValue.settled]
    constructor
    · intro finite
      rw [if_pos finite]
    · rintro negative rfl
      rfl
  · rintro c rest scan rfl starting scans value
    rw [evaluateFormula_of_scan functions resolver (by omega) starting scans, pure_inj]
    exact CellValue.settled_eq_number_iff

/-- A number with a sign and an exponent, one that is too large for a literal to be finite, and
an exponent without digits, which the scanner takes for part of a number. -/
theorem evaluateFormula_literal_exponent :
    let unanswered : Nat → Text → Guarded CellValue := fun _ _ => pure (.error .ref)
    let result := evaluateFormula .builtins 60 unanswered
    (CellValue.ofLiteral "-1.5e3".toList = .number (-.ofNat 1500) ∧
      result "-1.5e3".toList = pure (.number (-.ofNat 1500))) ∧
    (CellValue.ofLiteral "-1e999".toList = .number (.infinite true) ∧
      result "-1e999".toList = pure (.error .err)) ∧
    CellValue.ofLiteral "2.e+".toList = .error .err ∧
      ∀ value, result "2.e+".toList ≠ pure (.number value) := by
  intro unanswered result
  have enough : Nesting.formula + Nesting.sign ≤ 60 := by decide
  have ascii (text : Text) (all : (text.all fun c => c.toNat < 128) = true) :
      ∀ c ∈ text, c.toNat < 128 :=
    fun c member => of_decide_eq_true (List.all_eq_true.mp all c member)
  have finite : CellValue.ofLiteral "-1.5e3".toList = .number (-.ofNat 1500) := by decide +kernel
  have infinite : CellValue.ofLiteral "-1e999".toList = .number (.infinite true) := by
    decide +kernel
  have incomplete : CellValue.ofLiteral "2.e+".toList = .error .err := by decide +kernel
  refine ⟨⟨finite, ?_⟩, ⟨infinite, ?_⟩, incomplete, fun value => ?_⟩
  · exact ((evaluateFormula_literal .builtins unanswered enough _).1 (ascii _ rfl)
      ⟨some .minus, '1', ".5e3".toList, rfl, rfl⟩ _ finite).1 (by decide +kernel)
  · exact ((evaluateFormula_literal .builtins unanswered enough _).1 (ascii _ rfl)
      ⟨some .minus, '1', "e999".toList, rfl, rfl⟩ _ infinite).2 true rfl
  · intro impossible
    have literal := ((evaluateFormula_literal .builtins unanswered enough _).2 '2' ".e+".toList
      ⟨"+e.2".toList, true, true, false⟩ rfl rfl rfl value).mp impossible
    cases incomplete.symm.trans literal.1

end Source

end Spreadsheet
