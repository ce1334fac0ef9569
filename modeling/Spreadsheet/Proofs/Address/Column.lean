import Mathlib.Data.List.Induction
import Mathlib.Data.List.Shortlex
import Mathlib.Data.Set.Operations
import Spreadsheet.Proofs.Address.Capital
import Spreadsheet.Proofs.Address.RoundTrip

/-!
# Columns and their letters

The letters of the columns are the texts of one or more capitals.  Each of these
belongs to one column, and a later column has later letters: more of them, or as many
that come later in the alphabet.
-/

namespace Spreadsheet

namespace Text

/-- Of two texts of one length the earlier one stays so, whatever is put behind the
two. -/
theorem lex_append {s t : Text} (before : List.Lex (· < ·) s t) (length : s.length = t.length)
    (u v : Text) : List.Lex (· < ·) (s ++ u) (t ++ v) := by
  induction before with
  | nil => cases length
  | cons _ inductionHypothesis => exact .cons (inductionHypothesis (Nat.succ.inj length))
  | rel less => exact .rel less

end Text

namespace Column

/-! ## One letter -/

theorem exists_letter {c : Char} (isLetter : Text.isLetter c = true) :
    ∃ remainder < 26, Text.capital c = letter remainder ∧ place c = remainder + 1 := by
  have written : ∃ remainder < 26, Text.capital c = letter remainder := by
    have first : 'A'.toNat = 65 := rfl
    simp only [Text.isLetter, Bool.or_eq_true, Bool.and_eq_true, decide_eq_true_eq] at isLetter
    rcases isLetter with ⟨low, high⟩ | small
    · have between : 65 ≤ c.toNat ∧ c.toNat ≤ 90 := ⟨low, high⟩
      refine ⟨c.toNat - 65, by omega, ?_⟩
      rw [Text.capital_eq_self_of_le high, letter,
        show 'A'.toNat + (c.toNat - 65) = c.toNat by omega, Char.ofNat_toNat]
    · have between : 97 ≤ c.toNat ∧ c.toNat ≤ 122 := small
      refine ⟨c.toNat - 97, by omega, ?_⟩
      rw [Text.capital, if_pos (by simpa using small), letter]
      exact congrArg Char.ofNat (by omega)
  obtain ⟨remainder, small, same⟩ := written
  refine ⟨remainder, small, same, ?_⟩
  rw [← place_capital, same, place_letter small]

theorem isCapital_letter {remainder : Nat} (small : remainder < 26) :
    'A' ≤ letter remainder ∧ letter remainder ≤ 'Z' := by
  revert remainder
  decide

theorem letter_lt {first second : Nat} (less : first < second) (small : second < 26) :
    letter first < letter second := by
  have table : ∀ second < 26, ∀ first < second, letter first < letter second := by decide
  exact table second small first less

/-! ## From letters to columns and back -/

theorem letters_of_not_lt {column : Nat} (large : ¬column < 26) :
    letters column = letters (column / 26 - 1) ++ [letter (column % 26)] := by
  rw [letters, if_neg large]

theorem foldl_snoc (name : Text) (c : Char) :
    (name ++ [c]).foldl (fun n c => 26 * n + place c) 0 =
      26 * name.foldl (fun n c => 26 * n + place c) 0 + place c :=
  List.foldl_append

/-- Read as a number whose digits count from one, letters are one more than the
column that they name. -/
theorem ofLetters_add_one {name : Text} (named : name ≠ []) :
    name.foldl (fun n c => 26 * n + place c) 0 = ofLetters name + 1 := by
  rcases List.eq_nil_or_concat name with rfl | ⟨front, last, rfl⟩
  · exact absurd rfl named
  · rw [ofLetters, List.concat_eq_append, foldl_snoc, place]
    omega

/-- The letters of the column that some letters name are these in capitals. -/
theorem letters_ofLetters {name : Text} (named : name ≠ [])
    (all : name.all Text.isLetter = true) : letters (ofLetters name) = name.capitals := by
  -- The last letter is read last and written last, so the induction takes it away first.
  induction name using List.reverseRecOn with
  | nil => exact absurd rfl named
  | append_singleton name c inductionHypothesis =>
      rw [List.all_append, Bool.and_eq_true] at all
      obtain ⟨remainder, small, written, placed⟩ :=
        exists_letter (List.all_eq_true.mp all.2 c List.mem_cons_self)
      rw [Text.capitals_append, Text.capitals_cons, written, ofLetters, foldl_snoc, placed]
      by_cases single : name = []
      · subst single
        have whole : 26 * 0 + (remainder + 1) - 1 = remainder := by omega
        rw [List.foldl_nil, whole, letters, if_pos small]
        rfl
      · rw [ofLetters_add_one single]
        have quotient : (26 * (ofLetters name + 1) + remainder) / 26 - 1 = ofLetters name := by
          omega
        have rest : (26 * (ofLetters name + 1) + remainder) % 26 = remainder := by omega
        change letters (26 * (ofLetters name + 1) + remainder) = _
        rw [letters_of_not_lt (by omega), quotient, rest, inductionHypothesis single all.1]
        rfl

theorem isCapital_of_mem_letters {column : Nat} {c : Char} (member : c ∈ letters column) :
    'A' ≤ c ∧ c ≤ 'Z' := by
  induction column using letters.induct with
  | case1 column small =>
      rw [letters, if_pos small, List.mem_singleton] at member
      exact member ▸ isCapital_letter small
  | case2 column large inductionHypothesis =>
      rw [letters_of_not_lt large, List.mem_append, List.mem_singleton] at member
      rcases member with front | last
      · exact inductionHypothesis front
      · exact last ▸ isCapital_letter (Nat.mod_lt _ (by decide))

/-! ## The order of the letters -/

/-- A later column has later letters. -/
theorem shortlex_letters {first second : Nat} (less : first < second) :
    List.Shortlex (· < ·) (letters first) (letters second) := by
  induction first using letters.induct generalizing second with
  | case1 first small =>
      rw [letters, if_pos small, letters]
      by_cases single : second < 26
      · rw [if_pos single, List.shortlex_singleton_iff]
        exact letter_lt less single
      · rw [if_neg single]
        apply List.Shortlex.of_length_lt
        have front := List.length_pos_iff.mpr (letters_ne_nil (second / 26 - 1))
        rw [List.length_append, List.length_singleton, List.length_singleton]
        omega
  | case2 first large inductionHypothesis =>
      rw [letters_of_not_lt large, letters_of_not_lt (show ¬second < 26 by omega)]
      -- The two differ in their last letters only, or what stands before these is in order.
      by_cases same : first / 26 = second / 26
      · rw [same]
        apply List.Shortlex.append_left
        rw [List.shortlex_singleton_iff]
        exact letter_lt (by omega) (Nat.mod_lt _ (by decide))
      · have front := inductionHypothesis (show first / 26 - 1 < second / 26 - 1 by omega)
        rcases List.shortlex_def.mp front with shorter | ⟨length, before⟩
        · apply List.Shortlex.of_length_lt
          simpa only [List.length_append, List.length_singleton, Nat.add_lt_add_iff_right]
        · apply List.Shortlex.of_lex
          · rw [List.length_append, List.length_append, length]
            rfl
          · exact Text.lex_append before length _ _

theorem shortlex_letters_iff {first second : Nat} :
    first < second ↔ List.Shortlex (· < ·) (letters first) (letters second) := by
  refine ⟨shortlex_letters, ?_⟩
  intro before
  rcases Nat.lt_trichotomy first second with less | rfl | more
  · exact less
  · exact absurd before (Std.Asymm.asymm _ _ before)
  · exact absurd before (Std.Asymm.asymm _ _ (shortlex_letters more))

theorem index?_eq_ok {name : Text} (named : name ≠ []) (all : name.all Text.isLetter = true) :
    index? name = .ok (ofLetters name) := by
  rw [index?, if_neg]
  simp [named, all]

/-- The letters of the columns are the texts of one or more capitals. -/
theorem range_letters :
    Set.range letters = {name | name ≠ [] ∧ ∀ c ∈ name, 'A' ≤ c ∧ c ≤ 'Z'} := by
  ext name
  constructor
  · rintro ⟨column, rfl⟩
    exact ⟨letters_ne_nil column, fun c member => isCapital_of_mem_letters member⟩
  · rintro ⟨named, capital⟩
    have all : name.all Text.isLetter = true := by
      apply List.all_eq_true.mpr
      intro c member
      simp [Text.isLetter, capital c member]
    have unchanged : name.map Text.capital = name :=
      (List.map_congr_left fun c member =>
        Text.capital_eq_self_of_le (capital c member).2).trans (List.map_id name)
    exact ⟨ofLetters name, (letters_ofLetters named all).trans unchanged⟩

/-- Columns and the texts of one or more capitals, in the order of their lengths and
then of the alphabet, are one and the same order: the letters of a column name it, and
the column that letters of any case name has these letters in upper case. -/
theorem letters_orderIsomorphism :
    (∀ column : Nat, letters? column = .ok (letters column) ∧
      index? (letters column) = .ok column) ∧
    Set.range letters = {name | name ≠ [] ∧ ∀ c ∈ name, 'A' ≤ c ∧ c ≤ 'Z'} ∧
    (∀ name : Text, name ≠ [] → (∀ c ∈ name, Text.isLetter c = true) →
      ∃ column : Nat, index? name = .ok column ∧ letters? column = .ok name.upper) ∧
    ∀ first second : Nat,
      first < second ↔ List.Shortlex (· < ·) (letters first) (letters second) := by
  refine ⟨?_, range_letters, ?_, fun first second => shortlex_letters_iff⟩
  · intro column
    refine ⟨rfl, ?_⟩
    rw [index?_eq_ok (letters_ne_nil column) (all_isLetter_letters column), ofLetters_letters]
  · intro name named letter
    have all := List.all_eq_true.mpr letter
    refine ⟨ofLetters name, index?_eq_ok named all, ?_⟩
    rw [Text.upper_eq_capitals_of_letters all, ← letters_ofLetters named all]
    rfl

/-- `ZZ` is the last column with two letters. -/
theorem letters_orderIsomorphism_lastOfTwo :
    index? "zZ".toList = .ok 701 ∧ letters? 701 = .ok "ZZ".toList ∧
      List.Shortlex (· < ·) (letters 701) (letters 702) := by
  obtain ⟨-, -, written, ordered⟩ := letters_orderIsomorphism
  have all : "zZ".toList.all Text.isLetter = true := by decide
  obtain ⟨column, found, upper⟩ := written "zZ".toList (by decide) (List.all_eq_true.mp all)
  have last : index? "zZ".toList = .ok 701 := by decide
  obtain rfl : 701 = column := Except.ok.inj (last.symm.trans found)
  exact ⟨last, upper.trans (by decide), (ordered 701 702).mp (by decide)⟩

end Column

end Spreadsheet
