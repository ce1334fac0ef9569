import Spreadsheet.Proofs.Address.Rectangle
import Spreadsheet.Proofs.Function.Accepted
import Spreadsheet.Proofs.Query.Run

/-!
# Ranges are no expressions

An argument is tried as a range before it is evaluated as an expression.  Behind the last
closing parenthesis of an expression there are characters of tokens and gaps only, while
in a range the last colon or `!` has no closing parenthesis behind it.  So no text that
writes a range has a value as an expression, and trying the range first takes nothing away
from expressions.  Functions cannot change that, for they do not see the text that their
call stands in.
-/

namespace Spreadsheet

/-- Behind the last closing parenthesis there are plain characters only. -/
def Text.EndsPlain (t : Text) : Prop :=
  ∀ tail : Text, tail <:+ t → ')' ∉ tail → tail.all isPlain = true

namespace Text

variable {t u : Text}

theorem endsPlain_of_all_isPlain (all : t.all isPlain = true) : EndsPlain t :=
  fun _ suffix _ =>
    List.all_eq_true.mpr fun c member => List.all_eq_true.mp all c (suffix.subset member)

theorem endsPlain_of_closing (t : Text) : EndsPlain (t ++ [')']) := by
  intro tail suffix unclosed
  rcases List.eq_nil_or_concat tail with rfl | ⟨front, last, rfl⟩
  · rfl
  · obtain ⟨before, same⟩ := suffix
    rw [List.concat_eq_append, ← List.append_assoc] at same
    obtain ⟨-, ended⟩ := List.append_inj' same rfl
    rw [List.concat_eq_append, ended] at unclosed
    exact absurd (List.mem_append_right front List.mem_cons_self) unclosed

theorem EndsPlain.append (first : EndsPlain t) (second : EndsPlain u) : EndsPlain (t ++ u) := by
  rintro tail ⟨before, same⟩ unclosed
  rcases List.append_eq_append_iff.mp same with ⟨middle, rfl, rfl⟩ | ⟨middle, -, rfl⟩
  · rw [List.mem_append, not_or] at unclosed
    rw [List.all_append, first middle (List.suffix_append before middle) unclosed.1,
      second u List.suffix_rfl unclosed.2]
    rfl
  · exact second tail (List.suffix_append middle tail) unclosed

end Text

namespace Expression

variable {strength : Nat} {expression : Expression} {text : Text}

theorem endsPlain_of_isGap {gap : Text} (blank : gap.all Text.isGap = true) :
    Text.EndsPlain gap :=
  Text.endsPlain_of_all_isPlain (Text.all_isPlain blank fun _ => Text.isPlain_of_isGap)

/-- What belongs to no token stands before the last closing parenthesis of an
expression. -/
theorem Renders.endsPlain (renders : expression.Renders strength text) : Text.EndsPlain text := by
  have letters (name : Letters) : Text.EndsPlain name.text :=
    Text.endsPlain_of_all_isPlain (Text.all_isPlain name.all fun _ => Text.isPlain_of_isLetter)
  have digits (row : Digits) : Text.EndsPlain row.text :=
    Text.endsPlain_of_all_isPlain (Text.all_isPlain row.all fun _ => Text.isPlain_of_isDigit)
  have char {c : Char} (plain : Text.isPlain c = true) : Text.EndsPlain [c] :=
    Text.endsPlain_of_all_isPlain (Text.all_singleton plain)
  induction renders with
  | number numeral => exact Text.endsPlain_of_all_isPlain numeral.all_isPlain
  | reference column row => exact (letters column).append (digits row)
  | signed sign blank _ inductionHypothesis =>
      have plain : Text.isPlain sign.char = true := by cases sign <;> rfl
      exact (char plain).append ((endsPlain_of_isGap blank).append inductionHypothesis)
  | binary operator _ blankBefore blankBehind _ leftHypothesis rightHypothesis =>
      have plain : Text.isPlain operator.char = true := by cases operator <;> rfl
      have right := (char plain).append ((endsPlain_of_isGap blankBehind).append rightHypothesis)
      exact leftHypothesis.append ((endsPlain_of_isGap blankBefore).append right)
  | @group before text behind _ _ _ _ _ =>
      have closed := Text.endsPlain_of_closing ('(' :: (before ++ (text ++ behind)))
      rwa [List.cons_append, List.append_assoc, List.append_assoc] at closed
  | @call function gap arguments blank _ =>
      have closed := Text.endsPlain_of_closing ('(' :: Arguments.text arguments)
      exact (letters function).append ((endsPlain_of_isGap blank).append closed)
  | @bareCall function gap inside blank _ =>
      have closed := Text.endsPlain_of_closing ('(' :: inside)
      exact (letters function).append ((endsPlain_of_isGap blank).append closed)
  | weaken _ inductionHypothesis => exact inductionHypothesis

theorem Writes.endsPlain (writes : expression.Writes text) : Text.EndsPlain text := by
  obtain ⟨before, inner, behind, blankBefore, blankBehind, renders, rfl⟩ := writes
  exact (endsPlain_of_isGap blankBefore).append
    (renders.endsPlain.append (endsPlain_of_isGap blankBehind))

end Expression

/-- There is no closing parenthesis in a reference behind its last `!`. -/
theorem Coord.exists_tail_of_decode {t : Text} {c : Coord} (decodes : decode t = .ok (some c)) :
    ')' ∉ t ∨ ∃ sheet tail, t = sheet ++ '!' :: tail ∧ ')' ∉ tail := by
  obtain ⟨column, row, -, written, -⟩ := exists_of_decode decodes
  obtain ⟨before, named, after, parts, rfl⟩ := exists_parts t
  rw [core_of_parts parts] at written
  have blank {gap : Text} (all : gap.all Text.isBlank = true) : ')' ∉ gap := by
    intro member
    exact absurd (List.all_eq_true.mp all ')' member) (by decide)
  have name : ')' ∉ named := by
    intro member
    have kept : ')' ∈ named.filter (· != '$') := List.mem_filter.mpr ⟨member, by decide⟩
    rw [written] at kept
    rcases List.mem_append.mp kept with letter | digit
    · exact absurd (List.all_eq_true.mp column.all ')' letter) (by decide)
    · exact absurd (List.all_eq_true.mp row.all ')' digit) (by decide)
  rcases parts.start with blankBefore | ⟨sheet, gap, blankGap, rfl⟩
  · exact .inl (by simp [blank blankBefore, name, blank parts.behind])
  · refine .inr ⟨sheet, gap ++ named ++ after, by simp, ?_⟩
    simp [blank blankGap, name, blank parts.behind]

theorem Range.ofText?_ne_of_endsPlain {text : Text} (plain : text.EndsPlain) (range : Range) :
    ofText? text ≠ .ok (some range) := by
  intro written
  obtain ⟨left, right, first, second, rfl, -, decodes, -⟩ := exists_of_ofText? written
  have marked {mark : Char} {tail : Text} (suffix : mark :: tail <:+ left ++ ':' :: right)
      (other : Text.isPlain mark = false) (other' : mark ≠ ')') : ')' ∈ tail := by
    by_contra unclosed
    have all := plain _ suffix (List.not_mem_cons_of_ne_of_not_mem other'.symm unclosed)
    rw [List.all_cons, other] at all
    exact Bool.false_ne_true all
  rcases Coord.exists_tail_of_decode decodes with unclosed | ⟨sheet, tail, rfl, unclosed⟩
  · exact unclosed (marked (List.suffix_append left _) (by decide) (by decide))
  · have suffix : '!' :: tail <:+ left ++ ':' :: (sheet ++ '!' :: tail) :=
      ⟨left ++ ':' :: sheet, by simp⟩
    exact unclosed (marked suffix (by decide) (by decide))

namespace Registry

variable {functions : Registry} {calls room : Nat} {text : Text} {exchange : Exchange}
  {value : Number}

theorem endsPlain_of_transcript
    (valued : (functions.evaluate calls room text).Transcript exchange (.ok value)) :
    text.EndsPlain := by
  obtain ⟨expression, writes, -⟩ := Formula.exists_writes_of_whole (whole_of_transcript valued)
  exact writes.endsPlain

theorem isEmpty_of_transcript
    (valued : (functions.evaluate calls room text).Transcript exchange (.ok value)) :
    text.isEmpty = false := by
  cases text with
  | nil => exact False.elim (whole_of_transcript valued)
  | cons c text => rfl

/-- Whatever functions are registered and whatever is answered, an argument that writes a
range has no value as an expression.  So an argument that has a value is taken as the
expression that it is, unless a row number in it is too long for it to be tried as a range. -/
theorem range_unambiguous {call : Call}
    (given : ∀ room text, ∃ calls, call.expression room text = functions.evaluate calls room text)
    (text : Text) :
    (∀ range, Range.ofText? text = .ok (some range) → ∀ exchange value,
      ¬ (call.evaluate text).Transcript exchange (.ok value)) ∧
    ∀ exchange value, (call.evaluate text).Transcript exchange (.ok value) →
      (∀ fault, Range.ofText? text ≠ .error fault) →
        ∀ {β : Type} (step : β → CellValue → Query β) (state : β),
          ({ call with room := call.room + Nesting.items } : Call).foldItems step state text =
            (call.evaluate text).caught >>= step state := by
  have inner {exchange : Exchange} {value : Number}
      (valued : (call.evaluate text).Transcript exchange (.ok value)) :
      ∃ calls room, (functions.evaluate calls room text).Transcript exchange (.ok value) := by
    rw [Call.evaluate, Call.within] at valued
    obtain ⟨calls, same⟩ := given (call.room - Nesting.argument) text
    exact ⟨calls, _, same ▸ valued.of_within⟩
  constructor
  · intro range written exchange value valued
    obtain ⟨calls, room, valued⟩ := inner valued
    exact Range.ofText?_ne_of_endsPlain (endsPlain_of_transcript valued) range written
  · intro exchange value valued read β step state
    obtain ⟨calls, room, valued⟩ := inner valued
    have other : Range.ofText? text = .ok none := by
      rcases written : Range.ofText? text with fault | _ | range
      · exact absurd written (read fault)
      · rfl
      · exact absurd written
          (Range.ofText?_ne_of_endsPlain (endsPlain_of_transcript valued) range)
    rw [Call.foldItems, Call.within, Query.within_of_le (Nat.le_add_left _ _)]
    simp only [isEmpty_of_transcript valued, Bool.false_eq_true, if_false, Call.range?, other,
      Query.bind_done, Nat.add_sub_cancel]

/-- In the range there is a call that has a value, with a colon among its arguments. -/
theorem range_unambiguous_count :
    (∃ range, Range.ofText? "COUNT(x!A1:y)!B2".toList = .ok (some range)) ∧
    (∀ exchange value, ¬ ((builtins.bareCall 50).evaluate "COUNT(x!A1:y)!B2".toList).Transcript
      exchange (.ok value)) ∧
    (∃ exchange, ((builtins.bareCall 50).evaluate "COUNT(x!A1:y)".toList).Transcript
      exchange (.ok (.ofNat 0))) ∧
    ∀ {β : Type} (step : β → CellValue → Query β) (state : β),
      (builtins.bareCall 51).foldItems step state "COUNT(x!A1:y)".toList =
        ((builtins.bareCall 50).evaluate "COUNT(x!A1:y)".toList).caught >>= step state := by
  have given : ∀ room text, ∃ calls,
      (builtins.bareCall 50).expression room text = builtins.evaluate calls room text :=
    fun room _ => ⟨room + 1, rfl⟩
  have written : Range.ofText? "COUNT(x!A1:y)!B2".toList =
      .ok (some (Range.between ⟨0, 0⟩ ⟨1, 1⟩)) := by decide +kernel
  let query := (builtins.bareCall 50).evaluate "COUNT(x!A1:y)".toList
  have outcome : query.outcome (fun _ => .number (.ofNat 0)) = .ok (.ofNat 0) := by decide +kernel
  have valued := query.transcript_of_answers fun _ => .number (.ofNat 0)
  rw [outcome] at valued
  have other : Range.ofText? "COUNT(x!A1:y)".toList = .ok none := by decide +kernel
  have read (fault : AddressError) : Range.ofText? "COUNT(x!A1:y)".toList ≠ .error fault := by
    rw [other]
    exact nofun
  obtain ⟨never, -⟩ := range_unambiguous given "COUNT(x!A1:y)!B2".toList
  obtain ⟨-, taken⟩ := range_unambiguous given "COUNT(x!A1:y)".toList
  exact ⟨⟨_, written⟩, never _ written, ⟨_, valued⟩, taken _ _ valued read⟩

end Registry

end Spreadsheet
