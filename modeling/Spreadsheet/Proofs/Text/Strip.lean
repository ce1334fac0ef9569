import Spreadsheet.Text.Basic

/-!
# White space around texts

Stripping a text drops white space at its two ends and keeps everything else.
Letters and digits are not white space, and no letter is a digit.  A text all of one
kind stays so with one more character of the kind.
-/

namespace Spreadsheet.Text

theorem all_singleton {kind : Char → Bool} {c : Char} (belongs : kind c = true) :
    [c].all kind = true := by
  rw [List.all_cons, belongs]
  rfl

theorem all_snoc {kind : Char → Bool} {text : Text} {c : Char} (all : text.all kind = true)
    (belongs : kind c = true) : (text ++ [c]).all kind = true := by
  rw [List.all_append, all, all_singleton belongs]
  rfl

theorem strip_sublist (t : Text) : t.strip.Sublist t := by
  have right : (dropRightWhile isBlank (t.dropWhile isBlank)).Sublist
      (t.dropWhile isBlank) := by
    rw [← List.reverse_sublist, dropRightWhile, List.reverse_reverse]
    exact List.dropWhile_sublist isBlank
  exact right.trans (List.dropWhile_sublist isBlank)

theorem not_isDigit_of_isLetter {c : Char} (letter : isLetter c = true) :
    isDigit c = false := by
  apply Bool.eq_false_iff.mpr
  intro digit
  simp only [isLetter, Bool.or_eq_true, Bool.and_eq_true, decide_eq_true_eq] at letter
  simp only [isDigit, Bool.and_eq_true, decide_eq_true_eq] at digit
  rcases letter with ⟨low, _⟩ | ⟨low, _⟩
  · exact absurd (Char.le_trans low digit.2) (by decide)
  · exact absurd (Char.le_trans low digit.2) (by decide)

theorem not_isLetter_of_isDigit {c : Char} (digit : isDigit c = true) :
    isLetter c = false := by
  apply Bool.eq_false_iff.mpr
  intro letter
  exact Bool.false_ne_true ((not_isDigit_of_isLetter letter).symm.trans digit)

theorem isBlank_eq_false {c : Char} (plain : isLetter c = true ∨ isDigit c = true) :
    isBlank c = false := by
  have bounds : '0'.toNat ≤ c.toNat ∧ c.toNat ≤ 'z'.toNat := by
    simp only [isLetter, isDigit, Bool.or_eq_true, Bool.and_eq_true, decide_eq_true_eq] at plain
    rcases plain with (capital | small) | digit
    · exact ⟨Char.le_trans (by decide) capital.1, Char.le_trans capital.2 (by decide)⟩
    · exact ⟨Char.le_trans (by decide) small.1, small.2⟩
    · exact ⟨digit.1, Char.le_trans digit.2 (by decide)⟩
  have low : '0'.toNat = 0x30 := rfl
  have high : 'z'.toNat = 0x7A := rfl
  simp only [isBlank, Bool.or_eq_false_iff, Bool.and_eq_false_iff, decide_eq_false_iff_not,
    beq_eq_false_iff_ne]
  omega

theorem strip_eq_self {t : Text} (solid : ∀ c ∈ t, isBlank c = false) : t.strip = t := by
  have kept : ∀ {t : Text}, (∀ c ∈ t, isBlank c = false) → t.dropWhile isBlank = t := by
    intro t solid
    cases t with
    | nil => rfl
    | cons c rest => rw [List.dropWhile_cons_of_neg (by simp [solid c List.mem_cons_self])]
  have backwards : ∀ c ∈ t.reverse, isBlank c = false := by
    intro c member
    exact solid c (List.mem_reverse.mp member)
  rw [strip, kept solid, dropRightWhile, kept backwards, List.reverse_reverse]

/-! ## What is dropped, and what is kept -/

section Ends

variable {kind : Char → Bool}

theorem exists_dropRightWhile (kind : Char → Bool) (t : Text) :
    ∃ after, after.all kind = true ∧ t = dropRightWhile kind t ++ after := by
  refine ⟨(t.reverse.takeWhile kind).reverse, ?_, ?_⟩
  · rw [List.all_reverse]
    exact List.all_takeWhile
  · rw [dropRightWhile, ← List.reverse_append, List.takeWhile_append_dropWhile,
      List.reverse_reverse]

theorem dropRightWhile_append {after : Text} (all : after.all kind = true) (t : Text) :
    dropRightWhile kind (t ++ after) = dropRightWhile kind t := by
  have backwards : ∀ c ∈ after.reverse, kind c = true := by
    intro c member
    exact List.all_eq_true.mp all c (List.mem_reverse.mp member)
  rw [dropRightWhile, List.reverse_append, List.dropWhile_append_of_pos backwards,
    dropRightWhile]

/-- Nothing behind a character of another kind is dropped from the left, -/
theorem dropWhile_append_cons {c : Char} (other : kind c = false) (t after : Text) :
    (t ++ c :: after).dropWhile kind = t.dropWhile kind ++ c :: after := by
  induction t with
  | nil => exact List.dropWhile_cons_of_neg (by simp [other])
  | cons d t inductionHypothesis => cases belongs : kind d <;> simp [belongs, inductionHypothesis]

/-- and nothing before it from the right. -/
theorem dropRightWhile_append_cons {c : Char} (other : kind c = false) (t after : Text) :
    dropRightWhile kind (t ++ c :: after) = t ++ c :: dropRightWhile kind after := by
  have backwards : (t ++ c :: after).reverse = after.reverse ++ c :: t.reverse := by simp
  rw [dropRightWhile, backwards, dropWhile_append_cons other, dropRightWhile]
  simp

/-- Nothing is dropped if the last character is of another kind, -/
theorem dropRightWhile_eq_self {t : Text} (last : ∀ c ∈ t.getLast?, kind c = false) :
    dropRightWhile kind t = t := by
  rw [dropRightWhile]
  cases backwards : t.reverse with
  | nil => exact (List.reverse_eq_nil_iff.mp backwards).symm
  | cons c rest =>
      have kept : kind c = false := by
        apply last
        rw [← List.head?_reverse, backwards]
        rfl
      rw [List.dropWhile_cons_of_neg (by simp [kept]), ← backwards, List.reverse_reverse]

/-- as the last character is that is left. -/
theorem getLast?_dropRightWhile {t : Text} {c : Char}
    (last : c ∈ (dropRightWhile kind t).getLast?) : kind c = false := by
  rw [dropRightWhile, List.getLast?_reverse] at last
  have first := List.head?_dropWhile_not kind t.reverse
  rw [Option.mem_def.mp last] at first
  exact first

end Ends

theorem strip_surrounded {before after : Text} (blankBefore : before.all isBlank = true)
    (blankAfter : after.all isBlank = true) (t : Text) :
    strip (before ++ t ++ after) = strip t := by
  have allAfter : after.dropWhile isBlank = [] := by
    rw [← List.append_nil after, List.dropWhile_append_of_pos (List.all_eq_true.mp blankAfter),
      List.dropWhile_nil]
  rw [strip, List.append_assoc, List.dropWhile_append_of_pos (List.all_eq_true.mp blankBefore),
    List.dropWhile_append, strip]
  split
  · next nothing => rw [allAfter, List.isEmpty_iff.mp nothing]
  · exact dropRightWhile_append blankAfter _

theorem exists_strip (t : Text) :
    ∃ before after, before.all isBlank = true ∧ after.all isBlank = true ∧
      t = before ++ t.strip ++ after := by
  obtain ⟨after, blankAfter, same⟩ := exists_dropRightWhile isBlank (t.dropWhile isBlank)
  refine ⟨t.takeWhile isBlank, after, List.all_takeWhile, blankAfter, ?_⟩
  rw [List.append_assoc, strip, ← same, List.takeWhile_append_dropWhile]

/-- Stripping keeps what stands on both sides of a character that is no white
space, up to the two ends. -/
theorem strip_append_cons {c : Char} (solid : isBlank c = false) (t after : Text) :
    strip (t ++ c :: after) = t.dropWhile isBlank ++ c :: dropRightWhile isBlank after := by
  rw [strip, dropWhile_append_cons solid, dropRightWhile_append_cons solid]

/-- The text neither begins nor ends with white space. -/
structure Trimmed (t : Text) : Prop where
  first : ∀ c ∈ t.head?, isBlank c = false
  last : ∀ c ∈ t.getLast?, isBlank c = false

theorem trimmed_strip (t : Text) : Trimmed t.strip := by
  constructor
  · intro c member
    obtain ⟨after, -, same⟩ := exists_dropRightWhile isBlank (t.dropWhile isBlank)
    have first := List.head?_dropWhile_not isBlank t
    have kept : (t.dropWhile isBlank).head? = some c := by
      rw [same, List.head?_append]
      change (t.strip.head?.or after.head?) = some c
      rw [Option.mem_def.mp member, Option.some_or]
    rw [kept] at first
    exact first
  · intro c member
    exact getLast?_dropRightWhile member

theorem Trimmed.strip_eq {t : Text} (trimmed : Trimmed t) : t.strip = t := by
  have kept : t.dropWhile isBlank = t := by
    cases t with
    | nil => rfl
    | cons c rest => exact List.dropWhile_cons_of_neg (by simp [trimmed.first c rfl])
  rw [strip, kept, dropRightWhile_eq_self trimmed.last]

end Spreadsheet.Text
