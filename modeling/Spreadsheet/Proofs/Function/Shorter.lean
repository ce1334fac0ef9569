import Spreadsheet.Proofs.Function.Evaluation

/-!
# The texts that a call evaluates

Evaluating a text with the built-in functions evaluates further texts only as
arguments of calls, and an argument is shorter than the text of its call.  So two
ways of evaluating that agree on all shorter texts give the text one value.
-/

namespace Spreadsheet

/-- The likeness of every conversation to itself. -/
def Likeness.equal : Likeness :=
  .self (fun _ _ => True) (fun _ => True) fun _ => trivial

/-- Every room stands for itself. -/
def Rooms.equal : Rooms .equal :=
  .same trivial

/-- Every text with fewer than `length` characters stands for itself. -/
def Texts.shorter (length : Nat) : Texts .equal .equal :=
  .given (fun text => text.length < length) (fun _ _ => ⟨rfl, trivial⟩)
    fun _ _ _ _ _ _ _ same => ⟨same, rfl, trivial⟩

/-- The value of a text takes nothing but the values of shorter texts. -/
def Registry.TakesShorter (functions : Registry) (text : Text) : Prop :=
  ∀ expression expression' : Nat → Text → Query Number,
    (∀ room shorter, shorter.length < text.length →
      expression room shorter = expression' room shorter) →
    ∀ room, (Formula.ofText text).evaluate (functions.invoke expression) room =
      (Formula.ofText text).evaluate (functions.invoke expression') room

/-- With the built-in functions the value of every text takes nothing but the
values of shorter ones. -/
theorem Registry.builtins_takesShorter (text : Text) : builtins.TakesShorter text := by
  intro expression expression' agree room
  have alike : Query.Alike .equal
      ((Formula.ofText text).evaluate (builtins.invoke expression) room)
      ((Formula.ofText text).evaluate (builtins.invoke expression') room) := by
    have respects : builtins.Respects (.shorter text.length) := builtins_respects
    apply ofText_alike respects id _ _ _ rfl
    · intro name _ room room' same
      exact ⟨same, rfl, trivial⟩
    · intro argument _ fewer
      exact ⟨rfl, fewer⟩
    · rintro room _ shorter _ ⟨rfl, fewer⟩ rfl
      rw [agree room shorter fewer]
      exact (Query.always_true _).alike
  exact alike.eq_and_always.1

end Spreadsheet
