import Spreadsheet.Proofs.Formula.Continuation
import Spreadsheet.Proofs.Function.Called
import Spreadsheet.Proofs.Text.Capital

/-!
# Names that are registered, looked up and called

The name of a function is looked at in three places.  A registration takes one or more
letters only, a lookup puts any text into upper case, and a formula is read up to the
first character that is no letter.  For names of letters the three agree: what is looked
up is what a call is evaluated by, namely the function registered last under the name, in
whatever case, or else the built-in one.

A few characters that are no letters have letters for their upper case, so other texts can
be looked up as well.  No formula calls a function by such a name: reading ends at the
first of these characters, and evaluating fails the same way whatever functions there are.
-/

namespace Spreadsheet

/-! ## Reading a text that starts like a name -/

/-- A text that is not all letters starts with letters, if with any, and goes on with
something else. -/
theorem Text.exists_of_not_all {t : Text} (notAll : t.all isLetter = false) :
    ∃ leading c rest, t = leading ++ c :: rest ∧ leading.all isLetter = true ∧
      isLetter c = false := by
  cases found : t.find? fun c => !isLetter c with
  | none =>
      obtain ⟨c, member, other⟩ := List.all_eq_false.mp notAll
      have letter := List.find?_eq_none.mp found c member
      simp [other] at letter
  | some c =>
      obtain ⟨other, leading, rest, split, before⟩ := List.find?_eq_some_iff_append.mp found
      have all : leading.all isLetter = true :=
        List.all_eq_true.mpr fun d member => by simpa using before d member
      exact ⟨leading, c, rest, split, all, by simpa using other⟩

theorem Text.not_isLetter_of_high {c : Char} (high : 128 ≤ c.toNat) : ¬ isLetter c = true :=
  fun letter => absurd (lt_of_isLetter letter) (Nat.not_lt.mpr high)

theorem Text.not_isDigit_of_high {c : Char} (high : 128 ≤ c.toNat) : ¬ isDigit c = true :=
  fun digit => absurd (lt_of_isDigit digit) (Nat.not_lt.mpr high)

namespace Reader

variable {c : Char}

/-- Where an operand must come, reading stops at a character that is no ASCII. -/
theorem stepOperand_of_high (position : Nat) (frames : List Frame) (high : 128 ≤ c.toNat) :
    stepOperand position frames c =
      stopped (rebuild (.broken (.unexpectedChar c position)) frames) := by
  have noStart : ¬ NumeralScan.starts c = true := by
    rw [NumeralScan.starts, Bool.or_eq_true, beq_iff_eq]
    rintro (digit | rfl)
    · exact Text.not_isDigit_of_high high digit
    · exact absurd high (by decide)
  rw [stepOperand_of_notMem, if_neg noStart, if_neg (Text.not_isLetter_of_high high)]
  intro member
  simp only [List.mem_cons, List.not_mem_nil, or_false] at member
  rcases member with rfl | rfl | rfl | rfl | rfl <;> exact absurd high (by decide)

theorem operator?_of_high (high : 128 ≤ c.toNat) : operator? c = none := by
  cases found : operator? c with
  | none => rfl
  | some operator =>
      rw [operator?_eq_some found] at high
      exact absurd high (by cases operator <;> decide)

/-- Behind letters such a character begins a rest that belongs to nothing. -/
theorem step_letters_of_high (position : Nat) (name : Text) (high : 128 ≤ c.toNat) :
    (reading position [] (.letters name)).step c = trailing (bareWord name) position [c] := by
  have noParenthesis : ¬ c = '(' := by
    rintro rfl
    exact absurd high (by decide)
  have noGap : ¬ Text.isGap c = true := by
    simp only [Text.isGap, Bool.or_eq_true, beq_iff_eq]
    rintro (rfl | rfl) <;> exact absurd high (by decide)
  simp only [step, if_neg (Text.not_isLetter_of_high high),
    if_neg (Text.not_isDigit_of_high high), if_neg noParenthesis, if_neg noGap, stepOperator,
    operator?_of_high high]
  rfl

end Reader

namespace Formula

variable {c : Char}

theorem ofText_of_high (high : 128 ≤ c.toNat) (rest : Text) :
    ofText (c :: rest) = .broken (.unexpectedChar c 0) := by
  rw [ofText, List.foldl_cons, Reader.start, Reader.step]
  simp only [Reader.stepOperand_of_high 0 [] high, Reader.foldl_stopped]
  rfl

theorem ofText_letters_of_high (letters : Letters) (high : 128 ≤ c.toNat) (rest : Text) :
    ofText (letters.text ++ c :: rest) =
      .halted (.broken (.badReference letters.text))
        (.unexpectedRest (c :: rest) letters.text.length) := by
  rw [ofText, List.foldl_append, Reader.start, Reader.foldl_letters, List.foldl_cons,
    Reader.step_letters_of_high _ _ high, Reader.foldl_trailing, Reader.finish, Reader.bareWord,
    List.reverse_append, List.reverse_reverse, List.reverse_reverse, Nat.zero_add]
  rfl

end Formula

/-! ## Registering one function after another -/

theorem Builtin.name_of_ofName? {text : Text} {builtin : Builtin}
    (found : ofName? text = some builtin) : builtin.name = text.upper := by
  rw [ofName?] at found
  have same := List.find?_some found
  exact eq_of_beq same

namespace Registry

variable {attempts : List (Text × FunctionBody)} {name : Text} {body : FunctionBody}
  {arguments : List Text} {room : Nat}

/-- The registry after an attempt to register a function, which may be refused. -/
def attempt (functions : Registry) (entry : Text × FunctionBody) : Registry :=
  (functions.register? entry.1 entry.2).getD functions

/-- The registry after attempts to register functions, one after another. -/
def after (attempts : List (Text × FunctionBody)) : Registry :=
  attempts.foldl attempt builtins

/-- The function registered last under a name, in whatever case. -/
def latest? (attempts : List (Text × FunctionBody)) (name : Text) : Option FunctionBody :=
  (attempts.reverse.find? fun entry =>
    isName entry.1 && entry.1.capitals == name.capitals).map Prod.snd

theorem isName_iff : isName name = true ↔ ∃ letters : Letters, letters.text = name := by
  rw [isName, Bool.and_eq_true, Bool.not_eq_true', List.isEmpty_eq_false_iff]
  constructor
  · rintro ⟨nonempty, all⟩
    exact ⟨⟨name, nonempty, all⟩, rfl⟩
  · rintro ⟨letters, rfl⟩
    exact ⟨letters.nonempty, letters.all⟩

theorem upper_of_isName (letters : isName name = true) : name.upper = name.capitals := by
  obtain ⟨function, rfl⟩ := isName_iff.mp letters
  exact Text.upper_eq_capitals_of_letters function.all

theorem isName_capitals (name : Text) : isName name.capitals = isName name := by
  rw [isName, isName, Text.isEmpty_capitals, Text.all_capitals Text.isLetter_capital]

theorem attempt_of_isName (functions : Registry) (letters : isName name = true)
    (body : FunctionBody) :
    functions.attempt (name, body) = ⟨(name.capitals, body) :: functions.registered⟩ := by
  rw [attempt, register?, if_pos letters, upper_of_isName letters]
  rfl

theorem attempt_of_refused (functions : Registry) (refused : isName name = false)
    (body : FunctionBody) : functions.attempt (name, body) = functions := by
  rw [attempt, register?, refused]
  rfl

theorem after_concat (attempts : List (Text × FunctionBody)) (entry : Text × FunctionBody) :
    after (attempts ++ [entry]) = (after attempts).attempt entry := by
  rw [after, List.foldl_append]
  rfl

/-- Refused attempts can be left out. -/
theorem after_filter (attempts : List (Text × FunctionBody)) :
    after (attempts.filter fun entry => isName entry.1) = after attempts := by
  induction attempts using List.reverseRecOn with
  | nil => rfl
  | append_singleton attempts entry inductionHypothesis =>
      obtain ⟨name, body⟩ := entry
      rw [List.filter_append, after_concat]
      cases letters : isName name with
      | true =>
          simp only [List.filter_cons, letters, List.filter_nil, if_true]
          rw [after_concat, inductionHypothesis]
      | false =>
          simp only [List.filter_cons, letters, List.filter_nil, Bool.false_eq_true, if_false]
          rw [List.append_nil, inductionHypothesis, attempt_of_refused _ letters]

theorem isName_of_registered (attempts : List (Text × FunctionBody)) :
    ∀ entry ∈ (after attempts).registered, isName entry.1 = true := by
  induction attempts using List.reverseRecOn with
  | nil => nofun
  | append_singleton attempts entry inductionHypothesis =>
      obtain ⟨name, body⟩ := entry
      rw [after_concat]
      cases letters : isName name with
      | true =>
          rw [attempt_of_isName _ letters]
          rintro entry (_ | ⟨_, earlier⟩)
          · exact (isName_capitals name).trans letters
          · exact inductionHypothesis entry earlier
      | false =>
          rw [attempt_of_refused _ letters]
          exact inductionHypothesis

/-- What is registered under the capitals of a name is what has been registered last. -/
theorem lookup_after (attempts : List (Text × FunctionBody)) (name : Text) :
    (after attempts).registered.lookup name.capitals = latest? attempts name := by
  induction attempts using List.reverseRecOn with
  | nil => rfl
  | append_singleton attempts entry inductionHypothesis =>
      obtain ⟨other, body⟩ := entry
      rw [after_concat, latest?, List.reverse_append, List.reverse_singleton,
        List.singleton_append, List.find?_cons]
      cases letters : isName other with
      | false => rw [attempt_of_refused _ letters, inductionHypothesis]; rfl
      | true =>
          rw [attempt_of_isName _ letters, List.lookup_cons, inductionHypothesis, Bool.true_and,
            Bool.beq_comm]
          cases other.capitals == name.capitals with
          | true => rfl
          | false => rfl

/-! ## Looking up -/

theorem has_eq (functions : Registry) (name : Text) :
    functions.has name = (functions.find? name).isSome := by
  rw [has, find?, Builtin.isSupported]
  cases functions.registered.lookup name.upper with
  | some body => rfl
  | none => cases Builtin.ofName? name <;> rfl

/-- A name of letters stands for the function registered last under it, or else for the
built-in one. -/
theorem find?_after (letters : isName name = true) :
    (after attempts).find? name =
      (latest? attempts name).or
        ((Builtin.all.find? fun builtin => builtin.name == name.capitals).map Builtin.body) := by
  rw [find?, Builtin.ofName?, upper_of_isName letters, lookup_after]
  cases latest? attempts name <;> rfl

theorem isName_name (builtin : Builtin) : isName builtin.name = true :=
  isName_iff.mpr ⟨builtin.word, rfl⟩

/-- Whatever can be looked up has a name of letters for its upper case. -/
theorem isName_upper_of_has (found : (after attempts).has name = true) :
    isName name.upper = true := by
  rw [has, Bool.or_eq_true] at found
  rcases found with registered | supported
  · obtain ⟨body, found⟩ := Option.isSome_iff_exists.mp registered
    obtain ⟨earlier, later, split, -⟩ := List.lookup_eq_some_iff.mp found
    exact isName_of_registered attempts (name.upper, body) (split ▸ by simp)
  · obtain ⟨builtin, found⟩ := Option.isSome_iff_exists.mp supported
    exact Builtin.name_of_ofName? found ▸ isName_name builtin

/-! ## Calling -/

/-- A name with arguments in parentheses behind it, be it one of a function or not. -/
def calling (name : Text) (arguments : List Text) : Text :=
  name ++ '(' :: (Arguments.text arguments ++ [')'])

theorem calling_text (function : Letters) (arguments : List Text) :
    calling function.text arguments = function.called arguments :=
  rfl

/-- Formulas that call a function by the name are evaluated by this function. -/
def CallsBy (functions : Registry) (name : Text) (body : FunctionBody) : Prop :=
  ∀ (arguments : List Text) (room : Nat), (∀ argument ∈ arguments, Balanced false argument) →
    Nesting.formula + Nesting.call ≤ room →
      functions.query room (calling name arguments) =
        body ⟨Arguments.passed arguments, room - Nesting.formula - Nesting.call,
          functions.evaluate (room - Nesting.formula)⟩

/-- A call by the name fails in one way, whatever the arguments and whatever functions there
are. -/
def Misread (name : Text) : Prop :=
  ∃ cause, ∀ (functions : Registry) (arguments : List Text) (room : Nat),
    Nesting.formula ≤ room → functions.query room (calling name arguments) = .error cause

theorem find?_capitals (functions : Registry) (name : Text) :
    functions.find? name.capitals = functions.find? name := by
  simp only [find?, Builtin.ofName?, Text.upper_capitals]

/-- A name of letters is called by what is found under it. -/
theorem callsBy_of_found (letters : isName name = true) {functions : Registry}
    (found : functions.find? name = some body) : functions.CallsBy name body := by
  intro arguments room balanced enough
  obtain ⟨function, rfl⟩ := isName_iff.mp letters
  rw [← find?_capitals, ← Text.upper_eq_capitals_of_letters function.all] at found
  rw [calling_text, query_called found balanced enough]

theorem query_unknown (letters : isName name = true) {functions : Registry}
    (missing : functions.find? name = none)
    (balanced : ∀ argument ∈ arguments, Balanced false argument)
    (enough : Nesting.formula ≤ room) :
    functions.query room (calling name arguments) =
      .error (.unknownFunction name.capitals) := by
  obtain ⟨function, rfl⟩ := isName_iff.mp letters
  have read := Formula.ofText_called function balanced
  rw [Text.upper_eq_capitals_of_letters function.all] at read
  rw [query, Query.within_of_le enough, expression, evaluate_succ, calling_text, read,
    Formula.evaluate, invoke, find?_capitals, missing]

/-- Reading a name comes to an end at a character that is no ASCII. -/
theorem misread_of_high {leading rest : Text} {c : Char}
    (all : leading.all Text.isLetter = true) (high : 128 ≤ c.toNat) :
    Misread (leading ++ c :: rest) := by
  by_cases nonempty : leading = []
  · subst nonempty
    refine ⟨.unexpectedChar c 0, fun functions arguments room enough => ?_⟩
    rw [query, Query.within_of_le enough, expression, evaluate_succ, calling, List.nil_append,
      List.cons_append, Formula.ofText_of_high high, Formula.evaluate]
  · refine ⟨.badReference leading, fun functions arguments room enough => ?_⟩
    have read := Formula.ofText_letters_of_high ⟨leading, nonempty, all⟩ high
      (rest ++ '(' :: (Arguments.text arguments ++ [')']))
    rw [query, Query.within_of_le enough, expression, evaluate_succ, calling, List.append_assoc,
      List.cons_append, read, Formula.evaluate, Formula.evaluate]
    rfl

/-- No formula calls a function by a name that can be looked up without being made of
letters. -/
theorem misread_of_has (found : (after attempts).has name = true)
    (notLetters : isName name = false) : Misread name := by
  obtain ⟨capitals, same⟩ := isName_iff.mp (isName_upper_of_has found)
  have nonempty : name ≠ [] := by
    rintro rfl
    exact capitals.nonempty same
  have notAll : name.all Text.isLetter = false := by
    rw [isName, List.isEmpty_eq_false_iff.mpr nonempty] at notLetters
    exact notLetters
  obtain ⟨leading, c, rest, rfl, all, other⟩ := Text.exists_of_not_all notAll
  apply misread_of_high all
  apply Text.high_of_upperChar other
  have upper := capitals.all
  rw [same, Text.upper, List.flatMap_append, List.flatMap_cons, List.all_append,
    List.all_append, Bool.and_eq_true, Bool.and_eq_true] at upper
  exact upper.2.1

/-! ## Names that can be called -/

/-- What comes of a name after attempts to register functions. -/
structure AgreesOn (attempts : List (Text × FunctionBody)) (name : Text) : Prop where
  refused : after (attempts.filter fun entry => isName entry.1) = after attempts
  has_iff : (after attempts).has name = true ↔ (after attempts).find? name ≠ none
  /-- A name of letters stands for the function registered last under it, or else for the
  built-in one, -/
  found : isName name = true → (after attempts).find? name =
    (latest? attempts name).or
      ((Builtin.all.find? fun builtin => builtin.name == name.capitals).map Builtin.body)
  /-- and it is this function that a call is evaluated by; -/
  called : isName name = true → ∀ body, (after attempts).find? name = some body →
    (after attempts).CallsBy name body
  /-- if there is none, a call is an error. -/
  unknown : isName name = true → (after attempts).has name = false →
    ∃ cause, cause.code = .err ∧ ∀ (arguments : List Text) (room : Nat),
      (∀ argument ∈ arguments, Balanced false argument) → Nesting.formula ≤ room →
        (after attempts).query room (calling name arguments) = .error cause
  /-- Without host functions these are the built-in functions. -/
  supported : isName name = true → Builtin.isSupported name = true →
    ∃ builtin : Builtin, builtin.name = name.capitals ∧ builtins.CallsBy name builtin.body
  /-- A name with another character is not called, even if it can be looked up. -/
  misread : (after attempts).has name = true ∨ Builtin.isSupported name = true →
    isName name = false → Misread name

theorem agreesOn (attempts : List (Text × FunctionBody)) (name : Text) :
    AgreesOn attempts name where
  refused := after_filter attempts
  has_iff := by rw [has_eq, Option.isSome_iff_ne_none]
  found := find?_after
  called letters body := callsBy_of_found letters
  unknown letters missing := by
    rw [has_eq, Option.isSome_eq_false_iff, Option.isNone_iff_eq_none] at missing
    exact ⟨.unknownFunction name.capitals, rfl,
      fun arguments room => query_unknown letters missing⟩
  supported letters found := by
    obtain ⟨builtin, named⟩ := Option.isSome_iff_exists.mp found
    refine ⟨builtin, ?_, callsBy_of_found letters (congrArg (Option.map Builtin.body) named)⟩
    rw [← upper_of_isName letters]
    exact Builtin.name_of_ofName? named
  misread found := by
    have either : (after attempts).has name = true := by
      rw [has, Bool.or_eq_true] at found ⊢
      exact found.elim id .inr
    exact misread_of_has either

/-- The second registration is refused and the first one takes the place of a built-in
function.  The name with a dotless letter can be looked up and cannot be called. -/
theorem agreesOn_dotless :
    let seven : FunctionBody := fun _ => .done (.ofNat 7)
    let attempts := [("iF".toList, seven), ("F1".toList, seven)]
    (after attempts).CallsBy "If".toList seven ∧
      (after attempts).has "F1".toList = false ∧
      (after attempts).has "ıf".toList = true ∧ Builtin.isSupported "ıf".toList = true ∧
      Misread "ıf".toList := by
  intro seven attempts
  have supported : Builtin.isSupported "ıf".toList = true := by decide
  refine ⟨?_, by decide, by decide, supported, ?_⟩
  · have found : (after attempts).find? "If".toList = some seven :=
      (agreesOn attempts "If".toList).found (by decide)
    exact (agreesOn attempts "If".toList).called (by decide) seven found
  · exact (agreesOn attempts "ıf".toList).misread (.inr supported) (by decide)

end Registry

end Spreadsheet
