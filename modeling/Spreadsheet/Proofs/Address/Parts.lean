import Spreadsheet.Proofs.Address.Digits

/-!
# The parts of a reference

A reference is written in three parts.  The first is white space, or the name of a
sheet with `!` behind it and white space behind that; the second names the cell,
with any number of `$` marks in it; and the third is white space.  Every text can be
divided so, and its core is the second part without the marks, however it is
divided.
-/

namespace Spreadsheet

namespace Text

theorem afterLast_append {mark : Char} {tail : Text} (absent : mark ∉ tail) (before : Text) :
    afterLast mark (before ++ mark :: tail) = some tail := by
  induction before with
  | nil =>
      rw [List.nil_append, afterLast, afterLast_eq_none absent]
      exact if_pos rfl
  | cons c before inductionHypothesis => rw [List.cons_append, afterLast, inductionHypothesis]

theorem notMem_or_exists_last (mark : Char) (t : Text) :
    mark ∉ t ∨ ∃ before tail : Text, mark ∉ tail ∧ t = before ++ mark :: tail := by
  induction t with
  | nil => exact .inl List.not_mem_nil
  | cons c rest inductionHypothesis =>
      rcases inductionHypothesis with absent | ⟨before, tail, absent, rfl⟩
      · by_cases here : c = mark
        · exact .inr ⟨[], rest, absent, by rw [here]; rfl⟩
        · exact .inl (List.not_mem_cons_of_ne_of_not_mem (Ne.symm here) absent)
      · exact .inr ⟨c :: before, tail, absent, rfl⟩

theorem notMem_strip {mark : Char} {t : Text} (absent : mark ∉ t) : mark ∉ t.strip :=
  fun member => absent ((strip_sublist t).mem member)

end Text

namespace Coord

/-- The three parts of a reference. -/
structure Parts (before named after : Text) : Prop where
  start : before.all Text.isBlank = true ∨
    ∃ sheet gap, gap.all Text.isBlank = true ∧ before = sheet ++ '!' :: gap
  behind : after.all Text.isBlank = true
  unmarked : '!' ∉ named
  trimmed : named.Trimmed

theorem core_of_unmarked {t : Text} (unmarked : '!' ∉ t) :
    core t = t.strip.filter (· != '$') := by
  simp only [core, Text.afterLast_eq_none (Text.notMem_strip unmarked)]

theorem core_of_marked {tail : Text} (unmarked : '!' ∉ tail) (sheet : Text) :
    core (sheet ++ '!' :: tail) = tail.strip.filter (· != '$') := by
  obtain ⟨after, blank, same⟩ := Text.exists_dropRightWhile Text.isBlank tail
  have absent : '!' ∉ Text.dropRightWhile Text.isBlank tail := by
    intro member
    apply unmarked
    rw [same]
    exact List.mem_append_left after member
  have stripped : (Text.dropRightWhile Text.isBlank tail).strip = tail.strip := by
    have dropped := Text.strip_surrounded (List.all_nil) blank
      (Text.dropRightWhile Text.isBlank tail)
    rw [List.nil_append, ← same] at dropped
    exact dropped.symm
  simp only [core, Text.strip_append_cons (show Text.isBlank '!' = false by decide),
    Text.afterLast_append absent, stripped]

/-- However a reference is divided into its parts, its core is the part that names
the cell without the marks. -/
theorem core_of_parts {before named after : Text} (parts : Parts before named after) :
    core (before ++ named ++ after) = named.filter (· != '$') := by
  have blank {gap : Text} (all : gap.all Text.isBlank = true) : '!' ∉ gap := by
    intro member
    exact absurd (List.all_eq_true.mp all '!' member) (by decide)
  rcases parts.start with blankBefore | ⟨sheet, gap, blankGap, rfl⟩
  · have unmarked : '!' ∉ before ++ named ++ after := by
      simp [blank blankBefore, parts.unmarked, blank parts.behind]
    rw [core_of_unmarked unmarked, Text.strip_surrounded blankBefore parts.behind,
      parts.trimmed.strip_eq]
  · -- Only the mark before the gap counts, whatever the name of the sheet contains.
    have unmarked : '!' ∉ gap ++ named ++ after := by
      simp [blank blankGap, parts.unmarked, blank parts.behind]
    have whole : sheet ++ '!' :: gap ++ named ++ after =
        sheet ++ '!' :: (gap ++ named ++ after) := by simp
    rw [whole, core_of_marked unmarked, Text.strip_surrounded blankGap parts.behind,
      parts.trimmed.strip_eq]

theorem exists_parts (t : Text) :
    ∃ before named after, Parts before named after ∧ t = before ++ named ++ after := by
  rcases Text.notMem_or_exists_last '!' t with unmarked | ⟨sheet, tail, unmarked, rfl⟩
  · obtain ⟨before, after, blankBefore, blankAfter, same⟩ := Text.exists_strip t
    exact ⟨before, t.strip, after,
      ⟨.inl blankBefore, blankAfter, Text.notMem_strip unmarked, Text.trimmed_strip t⟩, same⟩
  · obtain ⟨gap, after, blankGap, blankAfter, same⟩ := Text.exists_strip tail
    refine ⟨sheet ++ '!' :: gap, tail.strip, after,
      ⟨.inr ⟨sheet, gap, blankGap, rfl⟩, blankAfter, Text.notMem_strip unmarked,
        Text.trimmed_strip tail⟩, ?_⟩
    calc
      sheet ++ '!' :: tail = sheet ++ '!' :: (gap ++ tail.strip ++ after) :=
        congrArg (fun rest => sheet ++ '!' :: rest) same
      _ = sheet ++ '!' :: gap ++ tail.strip ++ after := by simp

/-- A mark may be put anywhere into the part that names the cell. -/
theorem Parts.insert {before left right after : Text}
    (parts : Parts before (left ++ right) after) : Parts before (left ++ '$' :: right) after where
  start := parts.start
  behind := parts.behind
  unmarked := by
    have unmarked := parts.unmarked
    simp only [List.mem_append, List.mem_cons] at unmarked ⊢
    rintro (member | same | member)
    · exact unmarked (.inl member)
    · exact absurd same (by decide)
    · exact unmarked (.inr member)
  trimmed := by
    have solid : Text.isBlank '$' = false := by decide
    constructor
    · cases left with
      | nil =>
          rintro c ⟨⟩
          exact solid
      | cons d left => exact parts.trimmed.first
    · cases right with
      | nil =>
          rw [List.getLast?_concat]
          rintro c ⟨⟩
          exact solid
      | cons d right =>
          have same : (left ++ '$' :: d :: right).getLast? = (left ++ d :: right).getLast? := by
            simp [List.getLast?_append, List.getLast?_cons_cons]
          rw [same]
          exact parts.trimmed.last

end Coord

end Spreadsheet
