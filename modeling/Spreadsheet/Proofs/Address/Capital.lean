import Spreadsheet.Address.Range
import Spreadsheet.Proofs.Text.Capital

/-!
# Addresses in capitals

A reference names the same cell in capitals as in small letters, and a range the same
rectangle: sheet names are dropped, and the letters of a column have no case.
-/

namespace Spreadsheet

namespace Column

@[simp]
theorem place_capital (c : Char) : place (Text.capital c) = place c :=
  Text.capital_invariant place (by decide) c

theorem ofLetters_capitals (name : Text) : ofLetters name.capitals = ofLetters name := by
  simp only [ofLetters, Text.capitals, List.foldl_map, place_capital]

end Column

namespace Coord

theorem core_capitals (t : Text) : core t.capitals = (core t).capitals := by
  have unmarked (u : Text) : u.capitals.filter (· != '$') = Text.capitals (u.filter (· != '$')) :=
    Text.filter_capitals (Text.capital_invariant (· != '$') (by decide)) u
  simp only [core, Text.strip_capitals,
    Text.afterLast_capitals (show Text.isLetter '!' = false by decide)]
  cases Text.afterLast '!' t.strip with
  | some tail => simp only [Option.map_some, Text.strip_capitals, unmarked]
  | none => simp only [Option.map_none, unmarked]

theorem decode_capitals (t : Text) : decode t.capitals = decode t := by
  simp only [decode, core_capitals, Text.takeWhile_capitals Text.isLetter_capital,
    Text.dropWhile_capitals Text.isLetter_capital, Text.isEmpty_capitals,
    Text.all_capitals Text.isDigit_capital, Text.length_capitals, Column.ofLetters_capitals]
  split
  · rfl
  · next written =>
      simp only [Bool.or_eq_true, not_or, Bool.not_eq_true', Bool.not_eq_false] at written
      rw [Text.capitals_digits written.2]

theorem decode_eq_of_capitals_eq {t t' : Text} (same : t.capitals = t'.capitals) :
    decode t = decode t' := by
  rw [← decode_capitals t, same, decode_capitals t']

end Coord

theorem Range.ofText?_capitals (t : Text) : ofText? t.capitals = ofText? t := by
  rw [ofText?, Text.splitFirst_capitals (show Text.isLetter ':' = false by decide), ofText?]
  cases Text.splitFirst ':' t with
  | none => rfl
  | some parts => simp only [Option.map_some, Coord.decode_capitals]

end Spreadsheet
