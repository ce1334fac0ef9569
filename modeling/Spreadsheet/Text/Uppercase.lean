import Spreadsheet.Text.Basic

/-!
# Upper case

Names of functions and codes of errors are compared after both sides have been
put into upper case.  All of them are ASCII, so only the characters whose full
upper case is ASCII matter: the twenty-six small letters, the dotless `ı`, the
long `ſ`, and the sharp `ß` and the Latin ligatures, which become two or three
letters.  Every other character stands for itself, since neither it nor its
upper case can meet an ASCII name.
-/

namespace Spreadsheet.Text

/-- The capital of a small ASCII letter; any other character is its own. -/
def capital (c : Char) : Char :=
  if 'a' ≤ c && c ≤ 'z' then Char.ofNat (c.toNat - 32) else c

/-- The small letter of an ASCII capital; any other character is its own. -/
def small (c : Char) : Char :=
  if 'A' ≤ c && c ≤ 'Z' then Char.ofNat (c.toNat + 32) else c

/-- The upper case of one character, as far as it is ASCII. -/
def upperChar (c : Char) : Text :=
  match c.toNat with
  | 0x00DF => ['S', 'S']
  | 0x0131 => ['I']
  | 0x017F => ['S']
  | 0xFB00 => ['F', 'F']
  | 0xFB01 => ['F', 'I']
  | 0xFB02 => ['F', 'L']
  | 0xFB03 => ['F', 'F', 'I']
  | 0xFB04 => ['F', 'F', 'L']
  | 0xFB05 => ['S', 'T']
  | 0xFB06 => ['S', 'T']
  | _ => [capital c]

/-- The text in upper case. -/
def upper (t : Text) : Text :=
  t.flatMap upperChar

/-- The text with its small ASCII letters replaced by capitals. -/
def capitals (t : Text) : Text :=
  t.map capital

/-- On an ASCII character, upper case is the capital alone. -/
theorem upperChar_of_ascii {c : Char} (ascii : c.toNat < 128) :
    upperChar c = [capital c] := by
  unfold upperChar
  split <;> first | omega | rfl

/-- On ASCII text the two notions of upper case agree. -/
theorem upper_eq_capitals {t : Text} (ascii : ∀ c ∈ t, c.toNat < 128) :
    upper t = capitals t := by
  induction t with
  | nil => rfl
  | cons c rest inductionHypothesis =>
      have tail := inductionHypothesis fun d member =>
        ascii d (List.mem_cons_of_mem c member)
      simp only [upper, List.flatMap_cons, capitals, List.map_cons] at tail ⊢
      rw [tail, upperChar_of_ascii (ascii c List.mem_cons_self)]
      rfl

end Spreadsheet.Text
