import Spreadsheet.Proofs.Address.Digits

/-!
# Names read back

The letters of a column name that column again, and the digits of a row number that
number, so the name of a coordinate, where it has one, is read as the coordinate.
-/

namespace Spreadsheet

namespace Text

theorem digitsValue_ofNat (n : Nat) : digitsValue (ofNat n) = n :=
  Nat.ofDigitChars_eq_foldl.symm.trans Nat.ofDigitChars_ten_toDigits

theorem all_isDigit_ofNat (n : Nat) : (ofNat n).all isDigit = true := by
  apply List.all_eq_true.mpr
  intro c member
  have digit := Nat.isDigit_of_mem_toDigits (by decide) (by decide) member
  simp only [Char.isDigit, Bool.and_eq_true, decide_eq_true_eq] at digit
  simp only [isDigit, Bool.and_eq_true, decide_eq_true_eq]
  exact digit

theorem ofNat_ne_nil (n : Nat) : ofNat n ≠ [] :=
  Nat.toDigits_ne_nil

end Text

namespace Column

theorem place_letter {remainder : Nat} (small : remainder < 26) :
    place (letter remainder) = remainder + 1 := by
  revert remainder
  decide

theorem isLetter_letter {remainder : Nat} (small : remainder < 26) :
    Text.isLetter (letter remainder) = true := by
  revert remainder
  decide

theorem letters_ne_nil (column : Nat) : letters column ≠ [] := by
  rw [letters]
  split <;> simp

theorem all_isLetter_letters (column : Nat) : (letters column).all Text.isLetter = true := by
  induction column using letters.induct with
  | case1 column small =>
      rw [letters, if_pos small, List.all_cons, isLetter_letter small]
      rfl
  | case2 column large inductionHypothesis =>
      rw [letters, if_neg large, List.all_append, inductionHypothesis, List.all_cons,
        isLetter_letter (Nat.mod_lt _ (by decide))]
      rfl

/-- Read as a number whose digits count from one, the letters are one more than the
column. -/
theorem foldl_letters (column : Nat) :
    (letters column).foldl (fun n c => 26 * n + place c) 0 = column + 1 := by
  induction column using letters.induct with
  | case1 column small =>
      rw [letters, if_pos small, List.foldl_cons, List.foldl_nil, place_letter small]
      omega
  | case2 column large inductionHypothesis =>
      rw [letters, if_neg large, List.foldl_append, inductionHypothesis, List.foldl_cons,
        List.foldl_nil, place_letter (Nat.mod_lt _ (by decide))]
      omega

theorem ofLetters_letters (column : Nat) : ofLetters (letters column) = column := by
  rw [ofLetters, foldl_letters, Nat.add_sub_cancel]

end Column

namespace Coord

/-- The name of a coordinate is read as the coordinate. -/
theorem decode_of_name {c : Coord} {written : Text} (named : c.name = .ok written) :
    decode written = .ok (some c) := by
  obtain ⟨row, column⟩ := c
  rw [name] at named
  split at named
  · cases named
  · next notNegative =>
      cases column with
      | negSucc n => cases named
      | ofNat column =>
          dsimp only at named notNegative
          cases digits : Text.ofNat? (row.toNat + 1) with
          | none =>
              rw [digits] at named
              cases named
          | some digits' =>
              rw [digits] at named
              cases named
              obtain ⟨short, rfl⟩ := Text.ofNat?_eq_some_iff.mp digits
              rw [decode_append (Column.letters_ne_nil column) (Text.ofNat_ne_nil _)
                (Column.all_isLetter_letters column) (Text.all_isDigit_ofNat _),
                if_neg (Nat.not_lt_of_le short), Text.digitsValue_ofNat,
                Column.ofLetters_letters]
              dsimp only
              rw [Int.toNat_of_nonneg (by omega)]
              rfl

end Coord

end Spreadsheet
