import Spreadsheet.Proofs.Function.Kind

/-!
# Texts whose row numbers can be read

The one thing that makes a built-in function break off is a row number that is too long to be
read, where an argument is tried as a range.  A text is legible if this happens nowhere in it,
neither in the arguments of its calls nor in the arguments of calls in them.
-/

namespace Spreadsheet

/-- The arguments of the calls in a formula. -/
def Formula.arguments : Formula → List Text
  | number _ => []
  | reference _ => []
  | signed _ operand => operand.arguments
  | binary _ left right => left.arguments ++ right.arguments
  | group inner => inner.arguments
  | call _ arguments => arguments
  | broken _ => []
  | halted start _ => start.arguments

/-- What holds of all arguments holds call by call. -/
theorem Formula.all_iff_arguments {given : Text → Prop} {formula : Formula} :
    formula.All (fun _ => True) (fun _ arguments => ∀ argument ∈ arguments, given argument) ↔
      ∀ argument ∈ formula.arguments, given argument := by
  induction formula with
  | number value => exact iff_of_true trivial nofun
  | reference name => exact iff_of_true trivial nofun
  | signed sign operand inductionHypothesis => exact inductionHypothesis
  | binary operator left right leftHypothesis rightHypothesis =>
      rw [All, arguments, List.forall_mem_append, leftHypothesis, rightHypothesis]
  | group inner inductionHypothesis => exact inductionHypothesis
  | call function arguments => exact Iff.rfl
  | broken cause => exact iff_of_true trivial nofun
  | halted start cause inductionHypothesis => exact inductionHypothesis

/-- No argument of a call has a row number that is too long to be read as that of a range,
neither in the text nor in an argument. -/
inductive Text.Legible : Text → Prop where
  | intro {text : Text}
      (readable : ∀ argument ∈ (Formula.ofText text).arguments, ∀ fault,
        Range.ofText? argument ≠ .error fault)
      (inside : ∀ argument ∈ (Formula.ofText text).arguments, Legible argument) : Legible text

namespace Text.Legible

/-- No evaluation of a legible text with the built-in functions breaks off. -/
theorem evaluate_always {text : Text} (legible : text.Legible) (calls room : Nat) :
    (Registry.builtins.evaluate calls room text).Always (fun _ _ => True)
      fun failure => ∀ escape, failure ≠ .escape escape := by
  let likeness : Likeness := .self (fun _ _ => True) (fun failure => ∀ escape,
    failure ≠ .escape escape) fun _ _ => nofun
  let rooms : Rooms likeness := .same fun _ => nofun
  let texts : Texts likeness rooms :=
    .given (fun argument => (∀ fault, Range.ofText? argument ≠ .error fault) ∧ Legible argument)
      (fun given failed => absurd failed (given.1 _)) fun _ _ _ _ _ _ _ same => ⟨same, rfl, trivial⟩
  have alike : Query.Alike likeness (Registry.builtins.evaluate calls room text)
      (Registry.builtins.evaluate calls room text) := by
    induction calls generalizing room text with
    | zero => exact .fail ⟨rfl, fun _ => nofun⟩
    | succ calls inductionHypothesis =>
        obtain ⟨readable, inside⟩ := legible
        have parts := Formula.all_iff_arguments.mpr fun argument member =>
          And.intro (readable argument member) (inside argument member)
        rw [Registry.evaluate_succ]
        refine Formula.evaluate_alike rooms (parts.mono ?_ ?_) rfl
        · exact fun _ _ _ _ same => ⟨same, rfl, trivial⟩
        · intro function arguments each room room' same
          have respects : Registry.builtins.Respects texts := Registry.builtins_respects
          have related : List.Forall₂ texts.related arguments arguments :=
            List.forall₂_same.mpr fun argument member => ⟨rfl, each argument member⟩
          have spare : rooms.leave (Nesting.call + (Nesting.body + 0)) room room' := same
          refine Registry.invoke_alike respects ?_ related spare function
          rintro room _ argument _ ⟨rfl, -, legible⟩ rfl
          exact inductionHypothesis legible room
  exact alike.eq_and_always.2

/-- A text with few enough digits is legible. -/
theorem of_countP {text : Text} (few : text.countP isDigit ≤ digitLimit) : text.Legible := by
  have parts : ∀ argument ∈ (Formula.ofText text).arguments,
      ('(' :: (argument ++ [')'])).Sublist text := by
    refine Formula.all_iff_arguments.mp ((Formula.partOf_ofText text).mono ?_ ?_)
    · exact fun _ _ => trivial
    · exact fun _ _ part => part
  have fewer : ∀ argument ∈ (Formula.ofText text).arguments,
      argument.countP isDigit ≤ digitLimit := by
    intro argument member
    have inside : argument.Sublist text :=
      ((List.sublist_append_left argument [')']).cons '(').trans (parts argument member)
    exact Nat.le_trans inside.countP_le few
  refine .intro (fun argument member fault written => ?_) fun argument member => ?_
  · exact absurd (Range.digitLimit_lt_of_ofText? written) (Nat.not_lt_of_le (fewer argument member))
  · have shorter : argument.length < text.length := by
      have whole := (parts argument member).length_le
      simp only [List.length_cons, List.length_append] at whole
      omega
    exact of_countP (fewer argument member)
termination_by text.length

end Text.Legible

end Spreadsheet
