import Mathlib.Data.List.Induction
import Spreadsheet.Proofs.Formula.Uniqueness

/-!
# Splitting argument lists

The depth of a text is the number of parentheses that are open behind it.  An argument
has depth zero, never closes a parenthesis that it has not opened, and has no comma at
depth zero.  Written with commas between them, arguments are split into themselves again.
Whatever is split ends at the first closing parenthesis at depth zero and is written by
one list of arguments only, and where there is no such parenthesis nothing is split.
-/

namespace Spreadsheet

variable {t : Text} {c : Char}

/-! ## Depth -/

/-- How many more parentheses the text opens than it closes. -/
def Text.depth (t : Text) : Int :=
  (t.count '(' : Int) - t.count ')'

theorem Text.depth_append (t u : Text) : depth (t ++ u) = depth t + depth u := by
  simp only [depth, List.count_append]
  omega

theorem Text.depth_singleton_of_ne (unopened : c ≠ '(') (unclosed : c ≠ ')') :
    depth [c] = 0 := by
  rw [depth, List.count_singleton, List.count_singleton, if_neg (by simpa using unopened),
    if_neg (by simpa using unclosed)]
  rfl

/-- Where so many parentheses are open around the text, none of its closing parentheses
stands at depth zero. -/
def Text.Unclosed (outer : Int) (t : Text) : Prop :=
  ∀ before after : Text, t = before ++ ')' :: after → outer + before.depth ≠ 0

theorem Text.unclosed_nil (outer : Int) : Unclosed outer [] := by
  intro before after split
  exact absurd split (by simp)

theorem Text.Unclosed.cons {outer : Int} (first : c = ')' → outer ≠ 0)
    (later : Unclosed (outer + depth [c]) t) : Unclosed outer (c :: t) := by
  intro before after split
  cases before with
  | nil =>
      rw [show depth [] = 0 from rfl, Int.add_zero]
      exact first (List.cons.inj split).1
  | cons d before =>
      obtain ⟨rfl, behind⟩ := List.cons.inj split
      have deeper := later before after behind
      rwa [Int.add_assoc, ← depth_append] at deeper

namespace Arguments

/-- The beginning of an argument, behind which so many parentheses are open: none is
closed that has not been opened, and each comma is inside of some. -/
structure Begins (depth : Nat) (t : Text) : Prop where
  ends : t.depth = depth
  nonneg : ∀ before : Text, before <+: t → 0 ≤ before.depth
  inside : ∀ before : Text, before ++ [','] <+: t → 0 < before.depth

/-- One argument, as a whole. -/
def Single (t : Text) : Prop :=
  Begins 0 t

theorem single_nil : Single [] where
  ends := rfl
  nonneg before part := by
    rw [List.prefix_nil.mp part]
    exact Int.le_refl 0
  inside before part := absurd (List.prefix_nil.mp part) (by simp)

/-- One more character, which must be no comma at depth zero. -/
theorem Begins.snoc {depth next : Nat} (begins : Begins depth t)
    (ends : (depth : Int) + Text.depth [c] = next) (comma : c = ',' → 0 < depth) :
    Begins next (t ++ [c]) where
  ends := by rw [Text.depth_append, begins.ends, ends]
  nonneg before part := by
    rcases List.prefix_concat_iff.mp part with rfl | earlier
    · rw [Text.depth_append, begins.ends, ends]
      exact Int.natCast_nonneg next
    · exact begins.nonneg before earlier
  inside before part := by
    rcases List.prefix_concat_iff.mp part with same | earlier
    · obtain ⟨rfl, last⟩ := List.append_inj' same rfl
      rw [begins.ends]
      exact Int.natCast_pos.mpr (comma (List.singleton_inj.mp last).symm)
    · exact begins.inside before earlier

theorem Begins.front {depth : Nat} (begins : Begins depth (t ++ [c])) :
    ∃ before, Begins before t ∧ (before : Int) + Text.depth [c] = depth ∧
      (c = ',' → 0 < before) := by
  have grows : t <+: t ++ [c] := List.prefix_append t [c]
  obtain ⟨before, ends⟩ := Int.eq_ofNat_of_zero_le (begins.nonneg t grows)
  refine ⟨before, ⟨ends, fun part earlier => begins.nonneg part (earlier.trans grows),
    fun part earlier => begins.inside part (earlier.trans grows)⟩, ?_, ?_⟩
  · have whole := begins.ends
    rwa [Text.depth_append, ends] at whole
  · rintro rfl
    have inside := begins.inside t List.prefix_rfl
    rw [ends] at inside
    exact Int.natCast_pos.mp inside

theorem Begins.opened {depth : Nat} (begins : Begins depth t) : Opened depth t := by
  induction t using List.reverseRecOn generalizing depth with
  | nil =>
      obtain rfl : depth = 0 := Int.natCast_inj.mp begins.ends.symm
      exact .shut (.nil false)
  | append_singleton t c inductionHypothesis =>
      obtain ⟨before, front, ends, comma⟩ := begins.front
      have opened := inductionHypothesis front
      by_cases opens : c = '('
      · subst opens
        obtain rfl : depth = before + 1 := Int.natCast_inj.mp ends.symm
        exact opened.opening
      by_cases closes : c = ')'
      · subst closes
        have last : Text.depth [')'] = -1 := rfl
        obtain rfl : before = depth + 1 := by omega
        exact opened.closing
      · rw [Text.depth_singleton_of_ne opens closes, Int.add_zero, Int.natCast_inj] at ends
        subst ends
        refine opened.char opens closes fun separates => ?_
        simp only [Bool.and_eq_true, decide_eq_true_eq] at separates
        exact absurd (comma separates.1) (Nat.not_lt_of_le (Nat.le_of_eq separates.2))

theorem Single.balanced (single : Single t) : Balanced false t :=
  Opened.balanced (Begins.opened single)

/-- Balanced parentheses go on with an argument; where nothing is open, no comma may
stand outside of them. -/
theorem Begins.append {depth : Nat} {commas : Bool} {before : Text} (begins : Begins depth before)
    (balanced : Balanced commas t) (inside : commas = true → 0 < depth) :
    Begins depth (before ++ t) := by
  induction balanced generalizing depth before with
  | nil => rwa [List.append_nil]
  | @char commas c rest unopened unclosed plain _ inductionHypothesis =>
      have next : Begins depth (before ++ [c]) := by
        refine begins.snoc ?_ fun comma => ?_
        · rw [Text.depth_singleton_of_ne unopened unclosed, Int.add_zero]
        · exact inside (plain.resolve_right fun other => other comma)
      rw [List.append_cons]
      exact inductionHypothesis next inside
  | @parentheses commas inner rest _ _ innerHypothesis restHypothesis =>
      have opened : Begins (depth + 1) (before ++ ['(']) := begins.snoc rfl nofun
      have filled := innerHypothesis opened fun _ => Nat.succ_pos depth
      have closed : Begins depth (before ++ ['('] ++ inner ++ [')']) := by
        refine filled.snoc ?_ nofun
        have last : Text.depth [')'] = -1 := rfl
        omega
      have whole := restHypothesis closed inside
      simpa using whole

/-- The arguments are the balanced texts that have all commas inside of parentheses. -/
theorem single_iff_balanced : Single t ↔ Balanced false t :=
  ⟨Single.balanced, fun balanced => single_nil.append balanced nofun⟩

/-! ## Lists of arguments -/

/-- One or more arguments, and not just one of nothing but blanks and tabs. -/
structure Listed (arguments : List Text) : Prop where
  nonempty : arguments ≠ []
  single : ∀ argument ∈ arguments, Single argument
  solid : ∀ argument, arguments = [argument] → argument.all Text.isGap = false

theorem depth_ended {arguments : List Text}
    (single : ∀ argument ∈ arguments, Single argument) : (ended arguments).depth = 0 := by
  induction arguments with
  | nil => rfl
  | cons argument arguments inductionHypothesis =>
      obtain ⟨first, later⟩ := List.forall_mem_cons.mp single
      rw [ended, List.flatMap_cons, Text.depth_append, Text.depth_append, first.ends]
      change 0 + 0 + (ended arguments).depth = 0
      rw [inductionHypothesis later]
      rfl

theorem depth_text {arguments : List Text}
    (single : ∀ argument ∈ arguments, Single argument) : (text arguments).depth = 0 := by
  rcases List.eq_nil_or_concat arguments with rfl | ⟨finished, last, rfl⟩
  · rfl
  · rw [List.concat_eq_append] at single ⊢
    obtain ⟨before, behind⟩ := List.forall_mem_append.mp single
    rw [text_append_singleton, Text.depth_append, depth_ended before,
      (List.forall_mem_singleton.mp behind).ends]
    rfl

/-- Arguments are passed on with each of them stripped, unless there is just a gap. -/
theorem passed_eq_map {arguments : List Text}
    (solid : ∀ argument, arguments = [argument] → argument.all Text.isGap = false) :
    passed arguments = arguments.map Text.strip := by
  match arguments, solid with
  | [], _ => rfl
  | [argument], solid =>
      rw [passed, if_neg (Bool.eq_false_iff.mp (solid argument rfl))]
      rfl
  | argument :: next :: rest, _ => rfl

/-- The text is written by arguments that are passed on so. -/
def Joins (t : Text) (arguments : List Text) : Prop :=
  ∃ written : List Text, written ≠ [] ∧ (∀ argument ∈ written, Single argument) ∧
    text written = t ∧ arguments = passed written

theorem passed_append_singleton (finished : List Text) (current : Text) :
    ArgumentScan.close ⟨(finished.map Text.strip).reverse, current.reverse, 0⟩ =
      passed (finished ++ [current]) := by
  rw [Reader.close_last]
  match finished with
  | [] => rfl
  | [argument] => rfl
  | argument :: next :: rest => simp [passed]

end Arguments

open Arguments

/-! ## Reading a list -/

namespace ArgumentScan

/-- What has been read of a list: finished arguments, each with a comma behind it, and
the beginning of one more. -/
inductive Spells : ArgumentScan → Text → Prop where
  | scan {finished : List Text} {current : Text} {depth : Nat}
      (single : ∀ argument ∈ finished, Single argument) (begins : Begins depth current) :
      Spells ⟨(finished.map Text.strip).reverse, current.reverse, depth⟩
        (ended finished ++ current)

/-- What one more character behind a text does: it goes on with the list, unless it is a
closing parenthesis at depth zero; that one closes it. -/
def Progress.Follows (t : Text) (c : Char) : Progress → Prop
  | more next => next.Spells (t ++ [c]) ∧ (c = ')' → t.depth ≠ 0)
  | closed arguments => c = ')' ∧ t.depth = 0 ∧ Joins t arguments

theorem Spells.step {scan : ArgumentScan} (spells : scan.Spells t) (c : Char) :
    (scan.step c).Follows t c := by
  obtain @⟨finished, current, depth, single, begins⟩ := spells
  have deep : (ended finished ++ current).depth = depth := by
    rw [Text.depth_append, depth_ended single, Int.zero_add, begins.ends]
  have all (last : Begins 0 current) : ∀ argument ∈ finished ++ [current], Single argument :=
    List.forall_mem_append.mpr ⟨single, List.forall_mem_singleton.mpr last⟩
  have goesOn {next : Nat} (longer : Begins next (current ++ [c])) :
      Spells ⟨(finished.map Text.strip).reverse, c :: current.reverse, next⟩
        (ended finished ++ current ++ [c]) := by
    have spells := Spells.scan single longer
    rwa [List.reverse_append, ← List.append_assoc] at spells
  simp only [ArgumentScan.step]
  by_cases opens : c = '('
  · subst opens
    exact ⟨goesOn (begins.snoc rfl fun comma => absurd comma (by decide)),
      fun closes => absurd closes (by decide)⟩
  rw [if_neg opens]
  by_cases closes : c = ')'
  · subst closes
    rw [if_pos rfl]
    cases depth with
    | zero =>
        exact ⟨rfl, deep, finished ++ [current], by simp, all begins,
          text_append_singleton finished current, passed_append_singleton finished current⟩
    | succ outer =>
        have last : Text.depth [')'] = -1 := rfl
        have ends : ((outer + 1 : Nat) : Int) + Text.depth [')'] = outer := by omega
        exact ⟨goesOn (begins.snoc ends fun comma => absurd comma (by decide)),
          fun _ => by rw [deep]; omega⟩
  rw [if_neg closes]
  -- What is left is a comma between two arguments, or one more character of the last one.
  have plain := Text.depth_singleton_of_ne opens closes
  by_cases separates : (c = ',' && depth = 0) = true
  · rw [if_pos separates]
    simp only [Bool.and_eq_true, decide_eq_true_eq] at separates
    obtain ⟨rfl, rfl⟩ := separates
    have spells := Spells.scan (all begins) single_nil
    rw [List.map_append, List.reverse_append] at spells
    rw [currentArgument, List.reverse_reverse]
    refine ⟨?_, fun impossible => absurd impossible closes⟩
    simpa [ended] using spells
  · rw [if_neg separates]
    refine ⟨goesOn (begins.snoc (by rw [plain, Int.add_zero]) fun comma => ?_),
      fun impossible => absurd impossible closes⟩
    simp only [comma, decide_true, Bool.true_and, decide_eq_true_eq] at separates
    exact Nat.pos_of_ne_zero separates

/-- What the rest behind a text does: the list ends at the first closing parenthesis at
depth zero.  Without one it has no end. -/
def Ends (t rest : Text) : Option (List Text × Text) → Prop
  | some (arguments, after) => ∃ inside, rest = inside ++ ')' :: after ∧
      (t ++ inside).depth = 0 ∧ inside.Unclosed t.depth ∧ Joins (t ++ inside) arguments
  | none => rest.Unclosed t.depth

theorem Spells.run {scan : ArgumentScan} (spells : scan.Spells t) (rest : Text) :
    Ends t rest (scan.run? rest) := by
  induction rest generalizing scan t with
  | nil => exact Text.unclosed_nil _
  | cons c rest inductionHypothesis =>
      have stepped := spells.step c
      rw [run?]
      cases moved : scan.step c with
      | closed arguments =>
          rw [moved] at stepped
          obtain ⟨rfl, shut, joins⟩ := stepped
          refine ⟨[], rfl, ?_, Text.unclosed_nil _, ?_⟩
          · rwa [List.append_nil]
          · rwa [List.append_nil]
      | more next =>
          rw [moved] at stepped
          obtain ⟨longer, unclosed⟩ := stepped
          have later := inductionHypothesis longer
          dsimp only
          cases read : next.run? rest with
          | none =>
              rw [read, Ends, Text.depth_append] at later
              exact Text.Unclosed.cons unclosed later
          | some result =>
              rw [read] at later
              obtain ⟨inside, rfl, shut, first, joins⟩ := later
              rw [List.append_assoc] at shut joins
              rw [Text.depth_append] at first
              exact ⟨c :: inside, rfl, shut, .cons unclosed first, joins⟩

theorem spells_start : start.Spells [] :=
  .scan (List.forall_mem_nil _) single_nil

/-- Arguments that have been written are the ones that are read. -/
theorem run?_text {written : List Text} (nonempty : written ≠ [])
    (single : ∀ argument ∈ written, Single argument) (after : Text) :
    start.run? (text written ++ ')' :: after) = some (passed written, after) := by
  have read := spells_start.run (text written ++ ')' :: after)
  cases result : start.run? (text written ++ ')' :: after) with
  | none =>
      rw [result] at read
      have shut := depth_text single
      exact absurd (by rw [shut]; rfl) (read (text written) after rfl)
  | some result' =>
      obtain ⟨arguments, after'⟩ := result'
      rw [result] at read
      obtain ⟨inside, same, -, -, written', nonempty', single', rfl, rfl⟩ := read
      obtain ⟨rfl, rfl⟩ := text_append_inj nonempty nonempty'
        (fun argument member => (single argument member).balanced)
        (fun argument member => (single' argument member).balanced) same
      rfl

end ArgumentScan

namespace Arguments

/-- One or more arguments are a list of arguments, or just one gap. -/
theorem listed_or_gap {written : List Text} (nonempty : written ≠ [])
    (single : ∀ argument ∈ written, Single argument) :
    Listed written ∨ ∃ gap : Text, written = [gap] ∧ gap.all Text.isGap = true := by
  by_cases lone : ∃ gap : Text, written = [gap] ∧ gap.all Text.isGap = true
  · exact .inr lone
  · refine .inl ⟨nonempty, single, fun argument same => Bool.eq_false_iff.mpr fun blank => ?_⟩
    exact lone ⟨argument, same, blank⟩

/-- A list of arguments is known from its text. -/
theorem Listed.eq_of_text_eq {written other : List Text} (listed : Listed written)
    (listed' : Listed other) (same : text other = text written) : other = written :=
  (text_append_inj listed'.nonempty listed.nonempty
    (fun argument member => (listed'.single argument member).balanced)
    (fun argument member => (listed.single argument member).balanced)
    (congrArg (· ++ [')']) same)).1

theorem split?_text (before after : Text) {written : List Text} (nonempty : written ≠ [])
    (single : ∀ argument ∈ written, Single argument) :
    split? (before ++ (text written ++ ')' :: after)) before.length =
      some (passed written, before.length + (text written).length + 1) := by
  rw [split?, List.drop_left, ArgumentScan.run?_text nonempty single, Option.map_some]
  simp only [List.length_append, List.length_cons, Option.some.injEq, Prod.mk.injEq, true_and]
  omega

theorem exists_of_split? {start stop : Nat} {arguments : List Text}
    (splits : split? t start = some (arguments, stop)) :
    ∃ before inside after : Text, t = before ++ (inside ++ ')' :: after) ∧
      before.length = start ∧ stop = start + inside.length + 1 ∧
      inside.depth = 0 ∧ inside.Unclosed 0 ∧ Joins inside arguments := by
  obtain ⟨⟨arguments', after⟩, read, same⟩ := Option.map_eq_some_iff.mp splits
  obtain ⟨rfl, rfl⟩ := Prod.mk.inj same
  have described := ArgumentScan.spells_start.run (t.drop start)
  rw [read] at described
  obtain ⟨inside, rest, shut, first, joins⟩ := described
  have whole : t = t.take start ++ (inside ++ ')' :: after) := by
    rw [← rest, List.take_append_drop]
  have lengths := congrArg List.length rest
  simp only [List.length_drop, List.length_append, List.length_cons] at lengths
  refine ⟨t.take start, inside, after, whole, ?_, ?_, shut, first, joins⟩
  · rw [List.length_take]
    omega
  · dsimp only
    omega

theorem split?_eq_none_iff {start : Nat} :
    split? t start = none ↔ Text.Unclosed 0 (t.drop start) := by
  have described := ArgumentScan.spells_start.run (t.drop start)
  rw [split?, Option.map_eq_none_iff]
  cases read : ArgumentScan.start.run? (t.drop start) with
  | none =>
      rw [read] at described
      exact iff_of_true rfl described
  | some result =>
      rw [read] at described
      obtain ⟨inside, rest, shut, -⟩ := described
      refine iff_of_false nofun fun unclosed => unclosed inside _ rest ?_
      rw [Int.zero_add]
      exact shut

/-- Splitting is the inverse of joining.  Joined arguments are split into themselves,
stripped, and a gap into no arguments.  What is split ends at the first closing
parenthesis at depth zero and is joined from one list of arguments only.  Nothing is split
exactly where there is no such parenthesis. -/
theorem split?_joined :
    (∀ (before after : Text) (arguments : List Text), Listed arguments →
      split? (before ++ (text arguments ++ ')' :: after)) before.length =
        some (arguments.map Text.strip, before.length + (text arguments).length + 1)) ∧
    (∀ before gap after : Text, gap.all Text.isGap = true →
      split? (before ++ (gap ++ ')' :: after)) before.length =
        some ([], before.length + gap.length + 1)) ∧
    (∀ (t : Text) (start : Nat) (arguments : List Text) (stop : Nat),
      split? t start = some (arguments, stop) →
        ∃ before inside after : Text, t = before ++ (inside ++ ')' :: after) ∧
          before.length = start ∧ stop = start + inside.length + 1 ∧
          inside.depth = 0 ∧ inside.Unclosed 0 ∧
          (arguments = [] → inside.all Text.isGap = true) ∧
          (arguments ≠ [] → ∃ written : List Text,
            (Listed written ∧ text written = inside ∧ arguments = written.map Text.strip) ∧
              ∀ other, Listed other → text other = inside → other = written)) ∧
    ∀ (t : Text) (start : Nat), split? t start = none ↔ Text.Unclosed 0 (t.drop start) := by
  refine ⟨?_, ?_, ?_, fun _ _ => split?_eq_none_iff⟩
  · intro before after arguments listed
    rw [split?_text before after listed.nonempty listed.single, passed_eq_map listed.solid]
  · intro before gap after blank
    have single : ∀ argument ∈ [gap], Single argument :=
      List.forall_mem_singleton.mpr (single_iff_balanced.mpr (Reader.balanced_of_isGap blank))
    have splits := split?_text before after (List.cons_ne_nil gap []) single
    rwa [passed, if_pos blank] at splits
  · intro t start arguments stop splits
    obtain ⟨before, inside, after, whole, starts, stops, shut, first, written, nonempty, single,
      rfl, rfl⟩ := exists_of_split? splits
    refine ⟨before, _, after, whole, starts, stops, shut, first, ?_⟩
    rcases listed_or_gap nonempty single with listed | ⟨gap, rfl, blank⟩
    · rw [passed_eq_map listed.solid]
      constructor
      · intro none
        exact absurd (List.map_eq_nil_iff.mp none) nonempty
      · exact fun _ => ⟨written, ⟨listed, rfl, rfl⟩, fun other => listed.eq_of_text_eq⟩
    · rw [passed, if_pos blank]
      exact ⟨fun _ => blank, fun several => absurd rfl several⟩

/-- In the sum of two arguments, the commas and parentheses of the second one are its own,
and no other arguments are written like these. -/
theorem split?_joined_nested :
    split? "SUM(A1 ,IF(1,2))*3".toList 4 = some (["A1".toList, "IF(1,2)".toList], 16) ∧
    Listed ["A1 ".toList, "IF(1,2)".toList] ∧
    (∀ other, Listed other → text other = "A1 ,IF(1,2)".toList →
      other = ["A1 ".toList, "IF(1,2)".toList]) ∧
    split? "SUM(\t )".toList 4 = some ([], 7) ∧ Text.Unclosed 0 "A1,IF(1,2)".toList := by
  have first : Balanced false "A1 ".toList := by
    iterate 3 apply Balanced.char (by decide) (by decide) (.inr (by decide))
    exact .nil false
  have inner : Balanced true "1,2".toList := by
    iterate 3 apply Balanced.char (by decide) (by decide) (.inl rfl)
    exact .nil true
  have second : Balanced false "IF(1,2)".toList := by
    iterate 2 apply Balanced.char (by decide) (by decide) (.inr (by decide))
    exact .parentheses inner (.nil false)
  have single : ∀ argument ∈ ["A1 ".toList, "IF(1,2)".toList], Single argument :=
    List.forall_mem_cons.mpr ⟨single_iff_balanced.mpr first,
      List.forall_mem_singleton.mpr (single_iff_balanced.mpr second)⟩
  have listed : Listed ["A1 ".toList, "IF(1,2)".toList] := ⟨nofun, single, nofun⟩
  obtain ⟨joined, gap, reads, unread⟩ := split?_joined
  have splits := joined "SUM(".toList "*3".toList _ listed
  refine ⟨splits, listed, fun other => listed.eq_of_text_eq, ?_, ?_⟩
  · exact gap "SUM(".toList "\t ".toList [] rfl
  · exact (unread "A1,IF(1,2)".toList 0).mp (by decide)

end Arguments

end Spreadsheet
