import Mathlib.Data.List.Induction
import Spreadsheet.Proofs.Address.Reference

/-!
# The name among the references

A coordinate has one name and many references.  Reading its name gives the coordinate
back, and naming the coordinate that a reference names gives the reference in its
canonical form: its letters in upper case and its row number without leading zeros, and
nothing else.
-/

namespace Spreadsheet

namespace Text

theorem exists_digitChar {d : Char} (digit : isDigit d = true) :
    ∃ n < 10, d = Nat.digitChar n := by
  simp only [isDigit, Bool.and_eq_true, decide_eq_true_eq] at digit
  have between : 48 ≤ d.toNat ∧ d.toNat ≤ 57 := digit
  have small : d.toNat - 48 < 10 := by omega
  refine ⟨d.toNat - 48, small, Char.toNat_inj.mp ?_⟩
  rw [Nat.toNat_digitChar_of_lt_ten small, Nat.add_sub_cancel' between.1]

theorem digitsValue_snoc (digits : Text) {n : Nat} (small : n < 10) :
    digitsValue (digits ++ [n.digitChar]) = 10 * digitsValue digits + n := by
  rw [digitsValue, List.foldl_append, List.foldl_cons, List.foldl_nil,
    Nat.toNat_digitChar_of_lt_ten small, digitsValue]
  exact congrArg _ (Nat.add_sub_cancel_left 48 n)

/-- Without leading zeros, digits are those of their number, and zero has none. -/
theorem dropWhile_zero {digits : Text} (all : digits.all isDigit = true) :
    digits.dropWhile (· == '0') =
      if digitsValue digits = 0 then [] else ofNat (digitsValue digits) := by
  induction digits using List.reverseRecOn with
  | nil => rfl
  | append_singleton digits d inductionHypothesis =>
      rw [List.all_append, Bool.and_eq_true] at all
      obtain ⟨n, small, rfl⟩ :=
        exists_digitChar (List.all_eq_true.mp all.2 d List.mem_cons_self)
      rw [List.dropWhile_append, inductionHypothesis all.1, digitsValue_snoc digits small]
      by_cases zero : digitsValue digits = 0
      · -- All digits before are zeros, so this one is dropped as well if it is a zero.
        rw [if_pos zero, zero]
        cases n with
        | zero => rfl
        | succ n =>
            have kept : (Nat.digitChar (n + 1) == '0') = false := by simp
            simp [kept, ofNat, Nat.toDigits_of_lt_base small]
      · have positive : 0 < digitsValue digits := Nat.pos_of_ne_zero zero
        rw [if_neg zero, if_neg (by simpa using ofNat_ne_nil _), if_neg (by omega), ofNat, ofNat,
          ← Nat.toDigits_append_toDigits (by decide) positive small,
          Nat.toDigits_of_lt_base small]

end Text

theorem Digits.dropWhile_zero (digits : Digits) {n : Nat} (value : digits.value = n + 1) :
    digits.text.dropWhile (· == '0') = Text.ofNat (n + 1) := by
  rw [Text.dropWhile_zero digits.all, digits.digitsValue_text, value,
    if_neg (Nat.succ_ne_zero n)]

namespace Coord

theorem name_of_short {row column : Nat}
    (short : (Text.ofNat (row + 1)).length ≤ Text.digitLimit) :
    name ⟨row, column⟩ = .ok (nameOf row column) := by
  have written := Text.ofNat?_eq_some_iff.mpr ⟨short, rfl⟩
  have notNegative : ¬(row : Int) < 0 := by omega
  rw [name, if_neg notNegative]
  simp only [Int.toNat_natCast, written]
  rfl

theorem exists_of_decode {t : Text} {c : Coord} (decodes : decode t = .ok (some c)) :
    ∃ (column : Letters) (row : Digits) (n : Nat), core t = column.text ++ row.text ∧
      row.text.length ≤ Text.digitLimit ∧ row.value = n + 1 ∧
      c = ⟨n, Column.ofLetters column.text⟩ := by
  by_cases written : ∃ (column : Letters) (row : Digits), core t = column.text ++ row.text
  · obtain ⟨column, row, written⟩ := written
    rw [decode_of_core written] at decodes
    split at decodes
    · cases decodes
    · next short =>
        cases value : row.value with
        | zero =>
            rw [value] at decodes
            cases decodes
        | succ n =>
            refine ⟨column, row, n, written, Nat.le_of_not_lt short, value, ?_⟩
            rw [value, if_neg (Nat.succ_ne_zero n), ← column.ofLetters_text] at decodes
            simpa using decodes.symm
  · rw [decode_of_not_core fun column row same => written ⟨column, row, same⟩] at decodes
    cases decodes

/-- The name of the cell that letters and digits name. -/
theorem name_of_value (column : Letters) {row : Digits} {n : Nat}
    (short : row.text.length ≤ Text.digitLimit) (value : row.value = n + 1) :
    name ⟨n, Column.ofLetters column.text⟩ =
      .ok (column.text.upper ++ row.text.dropWhile (· == '0')) := by
  have plain := row.dropWhile_zero value
  -- Leading zeros count where a row is read, so what is written is within the limit too.
  have fewer : (Text.ofNat (n + 1)).length ≤ row.text.length := by
    rw [← plain]
    exact (List.dropWhile_sublist _).length_le
  rw [name_of_short (Nat.le_trans fewer short), nameOf, plain,
    Column.letters_ofLetters column.nonempty column.all,
    Text.upper_eq_capitals_of_letters column.all]

/-- Names are read as what they name, and a reference that is read names what has the
name of its canonical form. -/
theorem name_roundTrip :
    (∀ row column : Nat, row + 1 < 10 ^ Text.digitLimit →
      ∃ written, name ⟨row, column⟩ = .ok written ∧
        decode written = .ok (some ⟨row, column⟩) ∧ ofName written = .ok ⟨row, column⟩) ∧
    ∀ (t : Text) (c : Coord), decode t = .ok (some c) →
      ofName t = .ok c ∧
      ∃ (before named after : Text) (column : Letters) (row : Digits),
        Parts before named after ∧ t = before ++ named ++ after ∧
        named.filter (· != '$') = column.text ++ row.text ∧
        name c = .ok (column.text.upper ++ row.text.dropWhile (· == '0')) := by
  have strict {t : Text} {c : Coord} (decodes : decode t = .ok (some c)) :
      ofName t = .ok c := by
    rw [ofName, decodes]
    rfl
  constructor
  · intro row column small
    have named : name ⟨row, column⟩ = .ok (nameOf row column) :=
      name_of_short ((Text.length_ofNat_le_iff (by decide)).mpr small)
    have decodes := decode_of_name named
    exact ⟨_, named, decodes, strict decodes⟩
  · intro t c decodes
    refine ⟨strict decodes, ?_⟩
    obtain ⟨column, row, n, written, short, value, rfl⟩ := exists_of_decode decodes
    obtain ⟨before, named, after, parts, rfl⟩ := exists_parts t
    exact ⟨before, named, after, column, row, parts, rfl,
      (core_of_parts parts).symm.trans written, name_of_value column short value⟩

/-- A reference to a cell of another sheet, and its name. -/
theorem name_roundTrip_decorated :
    ofName " Sheet1! $ab$07 ".toList = .ok ⟨6, 27⟩ ∧
      name ⟨6, 27⟩ = .ok "AB7".toList ∧ ofName "AB7".toList = .ok ⟨6, 27⟩ := by
  obtain ⟨reads, canonical⟩ := name_roundTrip
  have small : 6 + 1 < 10 ^ Text.digitLimit :=
    Nat.lt_of_lt_of_le (show 6 + 1 < 10 ^ 1 by decide)
      (Nat.pow_le_pow_right (by decide) (by decide))
  have named : name ⟨6, 27⟩ = .ok "AB7".toList := by decide +kernel
  obtain ⟨written, same, -, again⟩ := reads 6 27 small
  obtain rfl : written = "AB7".toList := Except.ok.inj (same.symm.trans named)
  exact ⟨(canonical _ _ (by decide)).1, named, again⟩

end Coord

end Spreadsheet
