import Spreadsheet.Proofs.Formula.Grammar

/-!
# Checking parentheses

Whether the parentheses of a text are balanced is found out by counting those that are open,
character by character.
-/

namespace Spreadsheet

variable {commas : Bool} {depth : Nat} {text : Text}

/-- Whether the text closes so many open parentheses, and all that it opens itself.  Where none
is open, commas must be allowed. -/
def Text.closes (commas : Bool) : Text → (depth : Nat) → Bool
  | [], depth => depth = 0
  | c :: rest, depth =>
      if c = '(' then closes commas rest (depth + 1)
      else if c = ')' then depth ≠ 0 && closes commas rest (depth - 1)
      else (commas || depth ≠ 0 || c ≠ ',') && closes commas rest depth

/-- Open parentheses are closed one after the other, with balanced texts in front of each and
behind the last. -/
def Closing (commas : Bool) : (depth : Nat) → Text → Prop
  | 0, text => Balanced commas text
  | depth + 1, text => ∃ inner rest, text = inner ++ ')' :: rest ∧ Balanced true inner ∧
      Closing commas depth rest

theorem Closing.char {c : Char} (closing : Closing commas depth text) (unopened : c ≠ '(')
    (unclosed : c ≠ ')') (plain : (commas || depth ≠ 0 || c ≠ ',') = true) :
    Closing commas depth (c :: text) := by
  cases depth with
  | zero =>
      refine Balanced.char unopened unclosed ?_ closing
      simpa using plain
  | succ depth =>
      obtain ⟨inner, rest, rfl, inside, outside⟩ := closing
      exact ⟨c :: inner, rest, rfl, .char unopened unclosed (.inl rfl) inside, outside⟩

theorem Closing.opening (closing : Closing commas (depth + 1) text) :
    Closing commas depth ('(' :: text) := by
  obtain ⟨inner, rest, rfl, inside, outside⟩ := closing
  cases depth with
  | zero => exact Balanced.parentheses inside outside
  | succ depth =>
      obtain ⟨between, rest, rfl, balanced, outside⟩ := outside
      refine ⟨'(' :: (inner ++ ')' :: between), rest, ?_, .parentheses inside balanced, outside⟩
      rw [List.cons_append, List.append_assoc, List.cons_append]

theorem Closing.of_closes (closes : text.closes commas depth = true) :
    Closing commas depth text := by
  induction text generalizing depth with
  | nil =>
      obtain rfl : depth = 0 := of_decide_eq_true closes
      exact Balanced.nil commas
  | cons c text inductionHypothesis =>
      rw [Text.closes] at closes
      by_cases opens : c = '('
      · rw [if_pos opens] at closes
        subst opens
        exact (inductionHypothesis closes).opening
      rw [if_neg opens] at closes
      by_cases shuts : c = ')'
      · rw [if_pos shuts, Bool.and_eq_true, decide_eq_true_iff] at closes
        obtain ⟨outer, rfl⟩ := Nat.exists_eq_add_one_of_ne_zero closes.1
        subst shuts
        exact ⟨[], text, rfl, .nil true, inductionHypothesis closes.2⟩
      · rw [if_neg shuts, Bool.and_eq_true] at closes
        exact (inductionHypothesis closes.2).char opens shuts closes.1

/-- A balanced text leaves open what is open. -/
theorem Balanced.closes_append {inside : Bool} (balanced : Balanced inside text)
    (allowed : inside = true → (commas || depth ≠ 0) = true) (rest : Text) :
    Text.closes commas (text ++ rest) depth = Text.closes commas rest depth := by
  induction balanced generalizing depth rest with
  | nil => rfl
  | @char inside c text unopened unclosed plain _ inductionHypothesis =>
      have taken : (commas || depth ≠ 0 || c ≠ ',') = true := by
        rcases plain with rfl | other
        · rw [allowed rfl, Bool.true_or]
        · rw [decide_eq_true other, Bool.or_true]
      rw [List.cons_append, Text.closes, if_neg unopened, if_neg unclosed, taken, Bool.true_and]
      exact inductionHypothesis allowed rest
  | @parentheses inside inner text _ _ innerHypothesis textHypothesis =>
      have deeper : (commas || depth + 1 ≠ 0) = true := by
        rw [decide_eq_true (Nat.succ_ne_zero depth), Bool.or_true]
      rw [List.cons_append, List.append_assoc, List.cons_append, Text.closes, if_pos rfl,
        innerHypothesis fun _ => deeper]
      exact textHypothesis allowed rest

/-- The check finds out whether a text is balanced. -/
theorem closes_iff_balanced : text.closes commas 0 = true ↔ Balanced commas text := by
  refine ⟨Closing.of_closes, fun balanced => ?_⟩
  have whole : Text.closes commas (text ++ []) 0 = Text.closes commas [] 0 :=
    balanced.closes_append (fun allowed => by rw [allowed, Bool.true_or]) []
  rwa [List.append_nil] at whole

instance : Decidable (Balanced commas text) :=
  decidable_of_iff _ closes_iff_balanced

end Spreadsheet
