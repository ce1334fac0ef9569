import Spreadsheet.Text.Uppercase
import Spreadsheet.Proofs.Text.Strip

/-!
# Capitals for small letters

Putting a text into capitals changes no character but the small ASCII letters, and
each of them into another letter.  So nothing that looks only at the kinds of
characters, such as stripping or cutting a text, can tell the two texts apart: it
does the same and puts the result into capitals.
-/

namespace Spreadsheet.Text

/-- What does not tell the capitals from their small letters does not tell a
character from its capital. -/
theorem capital_invariant {α : Type} (observe : Char → α)
    (same : ∀ offset < 26, observe (Char.ofNat (65 + offset)) =
      observe (Char.ofNat (97 + offset))) (c : Char) :
    observe (capital c) = observe c := by
  rw [capital]
  split
  · next between =>
      simp only [Bool.and_eq_true, decide_eq_true_eq] at between
      have low : 97 ≤ c.toNat := between.1
      have high : c.toNat ≤ 122 := between.2
      have equal := same (c.toNat - 97) (by omega)
      rw [show 65 + (c.toNat - 97) = c.toNat - 32 by omega,
        show 97 + (c.toNat - 97) = c.toNat by omega, Char.ofNat_toNat] at equal
      exact equal
  · rfl

@[simp]
theorem isBlank_capital (c : Char) : isBlank (capital c) = isBlank c :=
  capital_invariant isBlank (by decide) c

@[simp]
theorem isGap_capital (c : Char) : isGap (capital c) = isGap c :=
  capital_invariant isGap (by decide) c

@[simp]
theorem isDigit_capital (c : Char) : isDigit (capital c) = isDigit c :=
  capital_invariant isDigit (by decide) c

@[simp]
theorem isLetter_capital (c : Char) : isLetter (capital c) = isLetter c :=
  capital_invariant isLetter (by decide) c

@[simp]
theorem small_capital (c : Char) : small (capital c) = small c :=
  capital_invariant small (by decide) c

@[simp]
theorem upperChar_capital (c : Char) : upperChar (capital c) = upperChar c :=
  capital_invariant upperChar (by decide) c

theorem capital_eq_self {c : Char} (other : isLetter c = false) : capital c = c := by
  rw [capital, if_neg]
  intro between
  rw [isLetter, between, Bool.or_true] at other
  cases other

theorem capital_eq_self_of_le {c : Char} (high : c ≤ 'Z') : capital c = c := by
  rw [capital, if_neg]
  simp only [Bool.and_eq_true, decide_eq_true_eq]
  rintro ⟨low, -⟩
  exact absurd (Char.le_trans low high) (by decide)

/-- No character becomes another one that is no letter. -/
theorem capital_eq_iff {c mark : Char} (other : isLetter mark = false) :
    capital c = mark ↔ c = mark := by
  constructor
  · rintro rfl
    rw [isLetter_capital] at other
    exact (capital_eq_self other).symm
  · rintro rfl
    exact capital_eq_self other

theorem capital_ne {c mark : Char} (other : isLetter mark = false) (different : c ≠ mark) :
    capital c ≠ mark :=
  mt (capital_eq_iff other).mp different

/-! ## Texts in capitals -/

theorem capitals_cons (c : Char) (t : Text) : capitals (c :: t) = capital c :: capitals t :=
  rfl

@[simp]
theorem capitals_append (t u : Text) : capitals (t ++ u) = capitals t ++ capitals u :=
  List.map_append

@[simp]
theorem capitals_reverse (t : Text) : capitals t.reverse = (capitals t).reverse :=
  List.map_reverse

@[simp]
theorem length_capitals (t : Text) : (capitals t).length = t.length :=
  List.length_map _

@[simp]
theorem isEmpty_capitals (t : Text) : (capitals t).isEmpty = t.isEmpty :=
  List.isEmpty_map

@[simp]
theorem upper_capitals (t : Text) : upper (capitals t) = upper t := by
  simp only [upper, capitals, List.flatMap_map, upperChar_capital]

theorem lt_of_isLetter {c : Char} (letter : isLetter c = true) : c.toNat < 128 := by
  simp only [isLetter, Bool.or_eq_true, Bool.and_eq_true, decide_eq_true_eq] at letter
  have low : c.toNat ≤ 'z'.toNat := by
    rcases letter with capital | small
    · exact Char.le_trans capital.2 (by decide)
    · exact small.2
  exact Nat.lt_of_le_of_lt low (by decide)

theorem lt_of_isDigit {c : Char} (digit : isDigit c = true) : c.toNat < 128 := by
  simp only [isDigit, Bool.and_eq_true, decide_eq_true_eq] at digit
  exact Nat.lt_of_le_of_lt digit.2 (by decide)

theorem upper_eq_capitals_of_letters {name : Text} (all : name.all isLetter = true) :
    upper name = capitals name :=
  upper_eq_capitals fun c member => lt_of_isLetter (List.all_eq_true.mp all c member)

/-- What is no letter and has letters for its upper case is no ASCII character. -/
theorem high_of_upperChar {c : Char} (other : isLetter c = false)
    (letters : (upperChar c).all isLetter = true) : 128 ≤ c.toNat := by
  refine Nat.le_of_not_lt fun ascii => ?_
  rw [upperChar_of_ascii ascii, List.all_cons, isLetter_capital, other] at letters
  cases letters

theorem capitals_eq_self {t : Text} (others : ∀ c ∈ t, isLetter c = false) :
    capitals t = t :=
  (List.map_congr_left fun c member => capital_eq_self (others c member)).trans (List.map_id t)

theorem capitals_digits {digits : Text} (all : digits.all isDigit = true) :
    capitals digits = digits :=
  capitals_eq_self fun c member => not_isLetter_of_isDigit (List.all_eq_true.mp all c member)

section Kinds

variable {kind : Char → Bool} (invariant : ∀ c, kind (capital c) = kind c)

include invariant

theorem all_capitals (t : Text) : (capitals t).all kind = t.all kind := by
  rw [capitals, List.all_map]
  exact congrArg t.all (funext invariant)

theorem takeWhile_capitals (t : Text) :
    (capitals t).takeWhile kind = capitals (t.takeWhile kind) := by
  rw [capitals, List.takeWhile_map]
  exact congrArg (fun kind => capitals (t.takeWhile kind)) (funext invariant)

theorem dropWhile_capitals (t : Text) :
    (capitals t).dropWhile kind = capitals (t.dropWhile kind) := by
  rw [capitals, List.dropWhile_map]
  exact congrArg (fun kind => capitals (t.dropWhile kind)) (funext invariant)

theorem filter_capitals (t : Text) : (capitals t).filter kind = capitals (t.filter kind) := by
  rw [capitals, List.filter_map]
  exact congrArg (fun kind => capitals (t.filter kind)) (funext invariant)

end Kinds

theorem takeWhile_isDigit_capitals (t : Text) :
    (capitals t).takeWhile isDigit = t.takeWhile isDigit := by
  rw [takeWhile_capitals isDigit_capital, capitals_digits List.all_takeWhile]

theorem strip_capitals (t : Text) : strip (capitals t) = capitals (strip t) := by
  simp only [strip, dropRightWhile, dropWhile_capitals isBlank_capital, ← capitals_reverse]

section Marks

variable {mark : Char} (other : isLetter mark = false)

include other

theorem afterLast_capitals (t : Text) :
    afterLast mark (capitals t) = (afterLast mark t).map capitals := by
  induction t with
  | nil => rfl
  | cons c rest inductionHypothesis =>
      simp only [capitals_cons, afterLast, inductionHypothesis, capital_eq_iff other]
      cases afterLast mark rest with
      | some tail => rfl
      | none => by_cases here : c = mark <;> simp [here]

theorem splitFirst_capitals (t : Text) :
    splitFirst mark (capitals t) =
      (splitFirst mark t).map fun parts => (capitals parts.1, capitals parts.2) := by
  induction t with
  | nil => rfl
  | cons c rest inductionHypothesis =>
      simp only [capitals_cons, splitFirst, inductionHypothesis, capital_eq_iff other]
      split
      · rfl
      · simp only [Option.map_map, Function.comp_def, capitals_cons]

end Marks

end Spreadsheet.Text
