import Mathlib.Data.Nat.Digits.Defs
import Spreadsheet.Proofs.Address.Column
import Spreadsheet.Proofs.Address.Parts
import Spreadsheet.Proofs.Formula.Grammar

/-!
# What references name

A reference names a cell if its core is letters with digits behind them and nothing
else.  The digits write the row number in base ten and the letters the column number
in base twenty-six, with `A` for one and `Z` for twenty-six and no digit for zero, and
both numbers count from one.  What is not in the core makes no difference, and neither
does the case of the letters.
-/

namespace Spreadsheet

/-- The number that digits write. -/
def Digits.value (digits : Digits) : Nat :=
  Nat.ofDigits 10 (digits.text.map fun d => d.toNat - '0'.toNat).reverse

/-- The number that letters write, in upper case. -/
def Letters.value (letters : Letters) : Nat :=
  Nat.ofDigits 26 (letters.text.upper.map fun c => c.toNat - 'A'.toNat + 1).reverse

theorem Text.foldl_eq_ofDigits (base : Nat) (digit : Char → Nat) (t : Text) :
    t.foldl (fun n c => base * n + digit c) 0 = Nat.ofDigits base (t.map digit).reverse := by
  rw [Nat.ofDigits_eq_foldr, List.foldr_reverse, List.foldl_map]
  simp only [Nat.cast_id, Nat.add_comm]

theorem Digits.digitsValue_text (digits : Digits) : Text.digitsValue digits.text = digits.value :=
  Text.foldl_eq_ofDigits 10 _ digits.text

theorem Letters.ofLetters_text (letters : Letters) :
    Column.ofLetters letters.text + 1 = letters.value := by
  rw [← Column.ofLetters_add_one letters.nonempty, Text.foldl_eq_ofDigits, value,
    Text.upper_eq_capitals_of_letters letters.all, Text.capitals, List.map_map]
  rfl

namespace Coord

variable {t t' : Text}

/-! ## What the core says -/

theorem decode_eq_of_core_eq (same : core t = core t') : decode t = decode t' := by
  simp only [decode, same]

/-- A core of letters and digits names the cell with these numbers. -/
theorem decode_of_core {column : Letters} {row : Digits}
    (written : core t = column.text ++ row.text) :
    decode t =
      if Text.digitLimit < row.text.length then .error .rowTooLong
      else if row.value = 0 then .ok none
      else .ok (some ⟨row.value - 1, column.value - 1⟩) := by
  have plain : ∀ c ∈ column.text ++ row.text,
      Text.isLetter c = true ∨ Text.isDigit c = true := by
    intro c member
    rcases List.mem_append.mp member with letter | digit
    · exact .inl (List.all_eq_true.mp column.all c letter)
    · exact .inr (List.all_eq_true.mp row.all c digit)
  have same : decode t = decode (column.text ++ row.text) :=
    decode_eq_of_core_eq (written.trans (core_eq_self plain).symm)
  rw [same, decode_append column.nonempty row.nonempty column.all row.all,
    row.digitsValue_text, ← column.ofLetters_text]
  split
  · rfl
  · cases row.value with
    | zero => rfl
    | succ n => simp

/-- Any other core names no cell. -/
theorem decode_of_not_core
    (other : ∀ (column : Letters) (row : Digits), core t ≠ column.text ++ row.text) :
    decode t = .ok none := by
  simp only [decode]
  split
  · rfl
  · next written =>
      simp only [Bool.or_eq_true, not_or, Bool.not_eq_true', Bool.not_eq_false,
        List.isEmpty_iff] at written
      have whole := (List.takeWhile_append_dropWhile (p := Text.isLetter) (l := core t)).symm
      exact absurd whole (other ⟨_, written.1.1, List.all_takeWhile⟩ ⟨_, written.1.2, written.2⟩)

/-! ## What makes no difference -/

theorem core_sheet (sheet t : Text) : core (sheet ++ '!' :: t) = core t := by
  rcases Text.notMem_or_exists_last '!' t with unmarked | ⟨before, tail, unmarked, rfl⟩
  · rw [core_of_marked unmarked, core_of_unmarked unmarked]
  · have whole : sheet ++ '!' :: (before ++ '!' :: tail) =
        (sheet ++ '!' :: before) ++ '!' :: tail := by simp
    rw [whole, core_of_marked unmarked, core_of_marked unmarked]

theorem core_surrounded {before after : Text} (blankBefore : before.all Text.isBlank = true)
    (blankAfter : after.all Text.isBlank = true) (t : Text) :
    core (before ++ t ++ after) = core t := by
  simp only [core, Text.strip_surrounded blankBefore blankAfter]

theorem core_insert {before left right after : Text}
    (parts : Parts before (left ++ right) after) :
    core (before ++ (left ++ '$' :: right) ++ after) =
      core (before ++ (left ++ right) ++ after) := by
  rw [core_of_parts parts, core_of_parts parts.insert]
  simp

/-- The references that name a cell, and the cell that each of them names. -/
theorem decode_language (t : Text) :
    (∃ before named after, Parts before named after ∧ t = before ++ named ++ after) ∧
    (∀ before named after, Parts before named after → t = before ++ named ++ after →
      core t = named.filter (· != '$')) ∧
    (∀ (column : Letters) (row : Digits), core t = column.text ++ row.text →
      decode t =
        if Text.digitLimit < row.text.length then .error .rowTooLong
        else if row.value = 0 then .ok none
        else .ok (some ⟨row.value - 1, column.value - 1⟩)) ∧
    ((∀ (column : Letters) (row : Digits), core t ≠ column.text ++ row.text) →
      decode t = .ok none) ∧
    (∀ sheet : Text, decode (sheet ++ '!' :: t) = decode t) ∧
    (∀ before left right after : Text, Parts before (left ++ right) after →
      t = before ++ (left ++ right) ++ after →
      decode (before ++ (left ++ '$' :: right) ++ after) = decode t) ∧
    (∀ t' : Text, t'.capitals = t.capitals → decode t' = decode t) ∧
    ∀ before after : Text, before.all Text.isBlank = true → after.all Text.isBlank = true →
      decode (before ++ t ++ after) = decode t := by
  refine ⟨exists_parts t, ?_, fun _ _ => decode_of_core, decode_of_not_core, ?_, ?_, ?_, ?_⟩
  · rintro before named after parts rfl
    exact core_of_parts parts
  · exact fun sheet => decode_eq_of_core_eq (core_sheet sheet t)
  · rintro before left right after parts rfl
    exact decode_eq_of_core_eq (core_insert parts)
  · exact fun t' same => decode_eq_of_capitals_eq same
  · intro before after blankBefore blankAfter
    exact decode_eq_of_core_eq (core_surrounded blankBefore blankAfter t)

/-- A reference to a cell of another sheet, with marks, small letters, a leading zero
and white space. -/
theorem decode_language_sheet :
    core " Sheet1! $ab$07 ".toList = "ab07".toList ∧
      decode " Sheet1! $ab$07 ".toList = .ok (some ⟨6, 27⟩) := by
  have written : core " Sheet1! $ab$07 ".toList = "ab07".toList := by decide
  obtain ⟨-, -, named, -⟩ := decode_language " Sheet1! $ab$07 ".toList
  refine ⟨written, ?_⟩
  exact named ⟨"ab".toList, by decide, by decide⟩ ⟨"07".toList, by decide, by decide⟩ written

end Coord

end Spreadsheet
