import Mathlib.Algebra.Group.Nat.Defs
import Spreadsheet.Address.Range
import Spreadsheet.Proofs.Text.Strip

/-!
# The digits of addresses

A reference cannot be read when its row number has too many digits, and then the
text that it was taken from has at least as many.  The names of the cells of a
range can always be read: their rows are no larger than the larger row of the two
corners, which have been read.
-/

namespace Spreadsheet

namespace Text

theorem afterLast_sublist {mark : Char} {t tail : Text}
    (found : afterLast mark t = some tail) : tail.Sublist t := by
  induction t with
  | nil => cases found
  | cons c rest inductionHypothesis =>
      rw [afterLast] at found
      split at found
      · next later =>
          cases found
          exact (inductionHypothesis later).cons c
      · split at found
        · cases found
          exact List.sublist_cons_self c _
        · cases found

theorem afterLast_eq_none {mark : Char} {t : Text} (absent : mark ∉ t) :
    afterLast mark t = none := by
  induction t with
  | nil => rfl
  | cons c rest inductionHypothesis =>
      have different : c ≠ mark := fun same => absent (same ▸ List.mem_cons_self)
      have later : mark ∉ rest := fun member => absent (List.mem_cons_of_mem c member)
      rw [afterLast, inductionHypothesis later]
      exact if_neg different

theorem splitFirst_eq {mark : Char} {t left right : Text}
    (found : splitFirst mark t = some (left, right)) : t = left ++ mark :: right := by
  induction t generalizing left with
  | nil => cases found
  | cons c rest inductionHypothesis =>
      rw [splitFirst] at found
      split at found
      · next same =>
          cases found
          rw [same]
          rfl
      · obtain ⟨⟨before, after⟩, later, same⟩ := Option.map_eq_some_iff.mp found
        cases same
        rw [inductionHypothesis later]
        rfl

/-- A run of so many digits writes a number of so many digits. -/
theorem digitsValue_lt {digits : Text} (all : digits.all isDigit = true) :
    digitsValue digits < 10 ^ digits.length := by
  have folded : ∀ (digits : Text) (n : Nat), digits.all isDigit = true →
      digits.foldl (fun n d => 10 * n + (d.toNat - '0'.toNat)) n <
        (n + 1) * 10 ^ digits.length := by
    intro digits
    induction digits with
    | nil => intro n _; simp
    | cons d digits inductionHypothesis =>
        intro n all
        rw [List.all_cons, Bool.and_eq_true] at all
        have digit : d.toNat - '0'.toNat ≤ 9 := by
          have bounds := all.1
          simp only [isDigit, Bool.and_eq_true, decide_eq_true_eq] at bounds
          have upper : d.toNat ≤ '9'.toNat := bounds.2
          have nine : '9'.toNat = '0'.toNat + 9 := rfl
          omega
        rw [List.foldl_cons, List.length_cons, Nat.pow_succ]
        apply Nat.lt_of_lt_of_le (inductionHypothesis _ all.2)
        rw [Nat.mul_comm (10 ^ digits.length) 10, ← Nat.mul_assoc]
        apply Nat.mul_le_mul_right
        omega
  simpa [digitsValue] using folded digits 0 all

theorem length_ofNat_le_iff {n count : Nat} (positive : 0 < count) :
    (ofNat n).length ≤ count ↔ n < 10 ^ count :=
  Nat.length_toDigits_le_iff (by decide) positive

end Text

namespace Column

theorem not_isDigit_letter {remainder : Nat} (small : remainder < 26) :
    Text.isDigit (letter remainder) = false := by
  revert remainder
  decide

theorem countP_letters (column : Nat) : (letters column).countP Text.isDigit = 0 := by
  induction column using letters.induct with
  | case1 column small =>
      rw [letters, if_pos small, List.countP_singleton, not_isDigit_letter small]
      rfl
  | case2 column large inductionHypothesis =>
      rw [letters, if_neg large, List.countP_append, inductionHypothesis,
        List.countP_singleton, not_isDigit_letter (Nat.mod_lt _ (by decide))]
      rfl

end Column

namespace Coord

theorem core_sublist (t : Text) : (core t).Sublist t := by
  apply List.filter_sublist.trans
  cases found : Text.afterLast '!' t.strip with
  | none => exact Text.strip_sublist t
  | some tail =>
      exact (Text.strip_sublist tail).trans
        ((Text.afterLast_sublist found).trans (Text.strip_sublist t))

theorem core_eq_self {t : Text}
    (plain : ∀ c ∈ t, Text.isLetter c = true ∨ Text.isDigit c = true) : core t = t := by
  have solid : t.strip = t :=
    Text.strip_eq_self fun c member => Text.isBlank_eq_false (plain c member)
  have unmarked : Text.afterLast '!' t = none :=
    Text.afterLast_eq_none fun member => absurd (plain _ member) (by decide)
  simp only [core, solid, unmarked]
  apply List.filter_eq_self.mpr
  intro c member
  simp only [bne_iff_ne]
  rintro rfl
  exact absurd (plain _ member) (by decide)

/-- A reference that cannot be read has too many digits. -/
theorem digitLimit_lt_of_decode {t : Text} {fault : AddressError}
    (decodes : decode t = .error fault) : Text.digitLimit < t.countP Text.isDigit := by
  have part : ((core t).dropWhile Text.isLetter).Sublist t :=
    (List.dropWhile_sublist _).trans (core_sublist t)
  simp only [decode] at decodes
  split at decodes
  · cases decodes
  · next digits =>
      simp only [Bool.or_eq_true, not_or, Bool.not_eq_true', Bool.not_eq_false] at digits
      split at decodes
      · next long =>
          have all := List.countP_eq_length.mpr (List.all_eq_true.mp digits.2)
          exact Nat.lt_of_lt_of_le (all.symm ▸ long) part.countP_le
      · split at decodes <;> cases decodes

/-- Letters with digits behind them are read as a column and a row. -/
theorem decode_append {letters digits : Text} (named : letters ≠ []) (numbered : digits ≠ [])
    (allLetters : letters.all Text.isLetter = true) (allDigits : digits.all Text.isDigit = true) :
    decode (letters ++ digits) =
      if Text.digitLimit < digits.length then .error .rowTooLong
      else match Text.digitsValue digits with
        | 0 => .ok none
        | row + 1 => .ok (some ⟨row, Column.ofLetters letters⟩) := by
  have plain : ∀ c ∈ letters ++ digits, Text.isLetter c = true ∨ Text.isDigit c = true := by
    intro c member
    rcases List.mem_append.mp member with letter | digit
    · exact .inl (List.all_eq_true.mp allLetters c letter)
    · exact .inr (List.all_eq_true.mp allDigits c digit)
  have split : (letters ++ digits).takeWhile Text.isLetter = letters ∧
      (letters ++ digits).dropWhile Text.isLetter = digits := by
    rw [List.takeWhile_append_of_pos (List.all_eq_true.mp allLetters),
      List.dropWhile_append_of_pos (List.all_eq_true.mp allLetters)]
    cases digits with
    | nil => exact ⟨List.append_nil _, rfl⟩
    | cons d rest =>
        have digit := List.all_eq_true.mp allDigits d List.mem_cons_self
        have letter : ¬ Text.isLetter d = true := by
          intro letter
          exact Bool.false_ne_true ((Text.not_isDigit_of_isLetter letter).symm.trans digit)
        rw [List.takeWhile_cons_of_neg letter, List.dropWhile_cons_of_neg letter]
        exact ⟨List.append_nil _, rfl⟩
  have written : ¬ (letters.isEmpty || digits.isEmpty || !digits.all Text.isDigit) = true := by
    simp [named, numbered, allDigits]
  cases value : Text.digitsValue digits with
  | zero => simp only [decode, core_eq_self plain, split, if_neg written, value]
  | succ row => simp only [decode, core_eq_self plain, split, if_neg written, value]

theorem decode_of_digitLimit_lt {letters digits : Text} (named : letters ≠ [])
    (allLetters : letters.all Text.isLetter = true) (allDigits : digits.all Text.isDigit = true)
    (long : Text.digitLimit < digits.length) :
    decode (letters ++ digits) = .error .rowTooLong := by
  have numbered : digits ≠ [] := by
    rintro rfl
    exact absurd long (Nat.not_lt_zero _)
  rw [decode_append named numbered allLetters allDigits, if_pos long]

theorem row_lt_of_decode {t : Text} {c : Coord} (decodes : decode t = .ok (some c)) :
    c.row.toNat + 1 < 10 ^ Text.digitLimit := by
  simp only [decode] at decodes
  split at decodes
  · cases decodes
  · next digits =>
      simp only [Bool.or_eq_true, not_or, Bool.not_eq_true', Bool.not_eq_false] at digits
      split at decodes
      · cases decodes
      · next short =>
          split at decodes
          · cases decodes
          · next row value =>
              cases decodes
              have small := Text.digitsValue_lt digits.2
              rw [value] at small
              apply Nat.lt_of_lt_of_le small
              exact Nat.pow_le_pow_right (by decide) (Nat.le_of_not_lt short)

theorem decode_nameOf_ne_error {row : Nat} (small : row + 1 < 10 ^ Text.digitLimit)
    (column : Nat) (fault : AddressError) : decode (nameOf row column) ≠ .error fault := by
  intro decodes
  have many := digitLimit_lt_of_decode decodes
  rw [nameOf, List.countP_append, Column.countP_letters, Nat.zero_add] at many
  have few := (Text.length_ofNat_le_iff (by decide)).mpr small
  exact absurd (Nat.lt_of_lt_of_le many List.countP_le_length) (Nat.not_lt_of_le few)

end Coord

namespace Range

/-- A range that cannot be read has a corner with too many digits. -/
theorem digitLimit_lt_of_ofText? {t : Text} {fault : AddressError}
    (written : ofText? t = .error fault) : Text.digitLimit < t.countP Text.isDigit := by
  simp only [ofText?] at written
  split at written
  · cases written
  · next left right parts =>
      have whole := Text.splitFirst_eq parts
      subst whole
      cases first : Coord.decode left with
      | error fault =>
          apply Nat.lt_of_lt_of_le (Coord.digitLimit_lt_of_decode first)
          exact (List.sublist_append_left left _).countP_le
      | ok a =>
          cases second : Coord.decode right with
          | error fault =>
              apply Nat.lt_of_lt_of_le (Coord.digitLimit_lt_of_decode second)
              exact ((List.sublist_cons_self ':' right).trans
                (List.sublist_append_right left _)).countP_le
          | ok b =>
              rw [first, second] at written
              cases a <;> cases b <;> cases written

theorem bottom_lt_of_ofText? {t : Text} {range : Range}
    (written : ofText? t = .ok (some range)) : range.bottom + 1 < 10 ^ Text.digitLimit := by
  simp only [ofText?] at written
  split at written
  · cases written
  · next left right _ =>
      cases first : Coord.decode left with
      | error fault =>
          rw [first] at written
          cases written
      | ok a =>
          cases second : Coord.decode right with
          | error fault =>
              rw [first, second] at written
              cases written
          | ok b =>
              rw [first, second] at written
              cases a with
              | none => cases written
              | some a =>
                  cases b with
                  | none => cases written
                  | some b =>
                      cases written
                      have upper := Coord.row_lt_of_decode first
                      have lower := Coord.row_lt_of_decode second
                      simp only [between]
                      omega

end Range

end Spreadsheet
