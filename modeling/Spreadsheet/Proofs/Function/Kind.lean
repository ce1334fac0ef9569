import Spreadsheet.Proofs.Address.Digits
import Spreadsheet.Proofs.Function.Evaluation

/-!
# What the built-in functions ask for, and how they fail

The built-in functions ask for references and for the cells of ranges that stand
in the text, and they fail only as evaluation itself does.  So every kind of text
that its parts belong to, too, gives a kind of conversation.  One kind is that of
all texts: no built-in function breaks down.  Another is that of texts with few
enough digits: nothing in them is too long to be read.
-/

namespace Spreadsheet.Registry

variable {asking : Nat → Text → Prop} {failing : Failure → Prop}

/-- A kind of text: its parts are of the kind, and what they name may be asked
for. -/
structure Kind (asking : Nat → Text → Prop) (failing : Failure → Prop)
    (given : Text → Prop) : Prop where
  part {text part : Text} : part.Sublist text → given text → given part
  allowed (cause : Cause) : failing (.error cause)
  deep : failing .tooDeep
  name {name : Text} (room : Nat) : given name → asking room name
  fails {text : Text} {fault : AddressError} : given text →
    Range.ofText? text = .error fault → failing (.escape .rowTooLong)
  cell {text : Text} {range : Range} : given text → Range.ofText? text = .ok (some range) →
    ∀ row column room, row ≤ range.bottom → asking room (Coord.nameOf row column)

variable {given : Text → Prop} {text : Text}

/-- A text of a kind gives a conversation of the kind. -/
theorem Kind.evaluate_always (kind : Kind asking failing given) (calls room : Nat)
    (member : given text) : (builtins.evaluate calls room text).Always asking failing := by
  induction calls generalizing room text with
  | zero => exact kind.deep
  | succ calls inductionHypothesis =>
      let likeness : Likeness := .self asking failing kind.allowed
      let rooms : Rooms likeness := .same kind.deep
      let texts : Texts likeness rooms :=
        .given given (fun member written => ⟨rfl, kind.fails member written⟩)
          fun member written row column room _ above same =>
            ⟨same, rfl, kind.cell member written row column room above⟩
      have alike : Query.Alike likeness
          ((Formula.ofText text).evaluate (builtins.invoke (builtins.evaluate calls)) room)
          ((Formula.ofText text).evaluate (builtins.invoke (builtins.evaluate calls)) room) := by
        have respects : builtins.Respects texts := builtins_respects
        apply ofText_alike respects id _ _ _ rfl
        · intro name part room room' same
          exact ⟨same, rfl, kind.name room (kind.part part member)⟩
        · intro argument part _
          exact ⟨rfl, kind.part part member⟩
        · rintro room _ argument _ ⟨rfl, member⟩ rfl
          exact (inductionHypothesis room member).alike
      exact alike.eq_and_always.2

theorem Kind.query_always (kind : Kind asking failing given) (room : Nat)
    (member : given text) : (builtins.query room text).Always asking failing := by
  rw [query, Query.within]
  split
  · exact kind.evaluate_always _ _ member
  · exact kind.deep

/-- No built-in function breaks down. -/
theorem kind_all : Kind (fun _ _ => True)
    (fun failure => ∀ message, failure ≠ .escape (.hostBreakdown message)) fun _ => True where
  part _ member := member
  allowed _ _ := nofun
  deep _ := nofun
  name _ _ := trivial
  fails _ _ _ := nofun
  cell _ _ _ _ _ _ := trivial

/-- What a text with few enough digits names can be read. -/
theorem kind_legible : Kind (fun _ name => ∀ fault, Coord.decode name ≠ .error fault)
    (fun failure => ∀ escape, failure ≠ .escape escape)
    fun text => text.countP Text.isDigit ≤ Text.digitLimit where
  part part few := Nat.le_trans part.countP_le few
  allowed _ _ := nofun
  deep _ := nofun
  name _ few _ decodes := absurd (Coord.digitLimit_lt_of_decode decodes) (Nat.not_lt_of_le few)
  fails few written :=
    absurd (Range.digitLimit_lt_of_ofText? written) (Nat.not_lt_of_le few)
  cell _ written row column _ above := by
    have bounded := Range.bottom_lt_of_ofText? written
    exact Coord.decode_nameOf_ne_error (Nat.lt_of_le_of_lt (Nat.succ_le_succ above) bounded) column

end Spreadsheet.Registry
