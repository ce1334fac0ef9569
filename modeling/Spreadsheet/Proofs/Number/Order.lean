import Spreadsheet.CellValue

/-!
# The order of numbers

Numbers other than NaN are ordered by their place on a line, with the infinities at its ends.
The two zeros are at one place; other numbers are not, and the two zeros are shown as the same
text.  So the one that comes out when the smallest number of a list is chosen, or the largest, is
shown the same in whatever order the list is gone through.  A NaN is the exception: it stays if
it comes first, and is passed over if it does not.
-/

namespace Spreadsheet.Number

/-! ## Places -/

/-- The place of a number on the line, in quanta. -/
def place : Number → Int
  | .finite negative quanta _ => signed negative quanta
  | .infinite negative => signed negative beyondFinite
  | .nan => 0

theorem signed_lt_of_lt {quanta most : Nat} (negative : Bool) (below : quanta < most) :
    signed true most < signed negative quanta ∧ signed negative quanta < signed false most := by
  cases negative <;> simp only [signed, if_true, Bool.false_eq_true, if_false] <;> omega

theorem place_finite_lt {negative : Bool} {quanta : Nat} (representable : Representable quanta) :
    (infinite true).place < (finite negative quanta representable).place ∧
      (finite negative quanta representable).place < (infinite false).place :=
  signed_lt_of_lt negative representable.1

theorem place_infinite_lt : (infinite true).place < (infinite false).place := by
  have ends := @place_finite_lt false _ representable_zero
  exact Int.lt_trans ends.1 ends.2

/-- Of two numbers the one with the smaller place is smaller, and NaN is not compared. -/
theorem less_eq_true_iff {x y : Number} :
    less x y = true ↔ x ≠ .nan ∧ y ≠ .nan ∧ x.place < y.place := by
  have compared {x y : Number} (known : x ≠ .nan) (known' : y ≠ .nan)
      (same : less x y = true ↔ x.place < y.place) :
      less x y = true ↔ x ≠ .nan ∧ y ≠ .nan ∧ x.place < y.place := by
    rw [same]
    exact ⟨fun before => ⟨known, known', before⟩, fun facts => facts.2.2⟩
  cases x with
  | nan => exact ⟨nofun, fun impossible => absurd rfl impossible.1⟩
  | infinite s =>
      cases y with
      | nan => exact ⟨by cases s <;> nofun, fun impossible => absurd rfl impossible.2.1⟩
      | infinite t =>
          refine compared nofun nofun ?_
          have ends := place_infinite_lt
          cases s <;> cases t
          · exact ⟨nofun, fun before => absurd before (Int.lt_irrefl _)⟩
          · exact ⟨nofun, fun before => absurd before (Int.lt_asymm ends)⟩
          · exact ⟨fun _ => ends, fun _ => rfl⟩
          · exact ⟨nofun, fun before => absurd before (Int.lt_irrefl _)⟩
      | finite t b representable =>
          refine compared nofun nofun ?_
          have ends := @place_finite_lt t b representable
          cases s with
          | false => exact ⟨nofun, fun before => absurd before (Int.lt_asymm ends.2)⟩
          | true => exact ⟨fun _ => ends.1, fun _ => rfl⟩
  | finite s a representable =>
      cases y with
      | nan => exact ⟨nofun, fun impossible => absurd rfl impossible.2.1⟩
      | infinite t =>
          refine compared nofun nofun ?_
          have ends := @place_finite_lt s a representable
          cases t with
          | false => exact ⟨fun _ => ends.2, fun _ => rfl⟩
          | true => exact ⟨nofun, fun before => absurd before (Int.lt_asymm ends.1)⟩
      | finite t b representable' => exact compared nofun nofun decide_eq_true_iff

theorem signed_eq_signed {negative negative' : Bool} {quanta quanta' : Nat}
    (same : signed negative quanta = signed negative' quanta') :
    quanta = quanta' ∧ (negative = negative' ∨ quanta = 0) := by
  cases negative <;> cases negative' <;>
    simp only [signed, if_true, Bool.false_eq_true, if_false] at same <;>
    simp only [true_or, and_true, reduceCtorEq, false_or] <;> omega

/-- Only the two zeros share a place. -/
theorem eq_or_zero_of_place_eq {x y : Number} (known : x ≠ .nan) (known' : y ≠ .nan)
    (same : x.place = y.place) :
    x = y ∨ ∃ negative negative', x = zero negative ∧ y = zero negative' := by
  cases x with
  | nan => exact absurd rfl known
  | infinite s =>
      cases y with
      | nan => exact absurd rfl known'
      | infinite t =>
          have ends := place_infinite_lt
          cases s <;> cases t
          · exact .inl rfl
          · exact absurd same (Int.ne_of_gt ends)
          · exact absurd same (Int.ne_of_lt ends)
          · exact .inl rfl
      | finite t b representable =>
          have ends := @place_finite_lt t b representable
          cases s with
          | false => exact absurd same (Int.ne_of_gt ends.2)
          | true => exact absurd same (Int.ne_of_lt ends.1)
  | finite s a representable =>
      cases y with
      | nan => exact absurd rfl known'
      | infinite t =>
          have ends := @place_finite_lt s a representable
          cases t with
          | false => exact absurd same (Int.ne_of_lt ends.2)
          | true => exact absurd same (Int.ne_of_gt ends.1)
      | finite t b representable' =>
          obtain ⟨rfl, rfl | none⟩ := signed_eq_signed same
          · exact .inl rfl
          · subst none
            exact .inr ⟨s, t, rfl, rfl⟩

/-! ## The number that is chosen -/

/-- The choice is for the number of the lower rank, for the earlier one of two with the same
rank, and for the earlier one if there is a NaN. -/
def Chooses (rank : Number → Int) (choose : Number → Number → Number) : Prop :=
  ∀ earlier later, choose earlier later =
    if earlier ≠ .nan ∧ later ≠ .nan ∧ rank later < rank earlier then later else earlier

theorem chooses_earlierMin : Chooses place earlierMin := by
  intro earlier later
  rw [earlierMin]
  refine ite_congr (propext ?_) (fun _ => rfl) fun _ => rfl
  rw [less_eq_true_iff]
  exact ⟨fun ⟨known, known', before⟩ => ⟨known', known, before⟩,
    fun ⟨known, known', before⟩ => ⟨known', known, before⟩⟩

theorem chooses_earlierMax : Chooses (fun x => -x.place) earlierMax := by
  intro earlier later
  rw [earlierMax]
  refine ite_congr (propext ?_) (fun _ => rfl) fun _ => rfl
  rw [less_eq_true_iff, Int.neg_lt_neg_iff]

/-- The number chosen of a list, if there is any. -/
def chosen (choose : Number → Number → Number) : List Number → Option Number
  | [] => none
  | first :: rest => some (rest.foldl choose first)

variable {rank : Number → Int} {choose : Number → Number → Number}

theorem chosen_concat (values : List Number) (value : Number) :
    chosen choose (values ++ [value]) =
      some ((chosen choose values).elim value (choose · value)) := by
  cases values with
  | nil => rfl
  | cons first rest =>
      rw [List.cons_append, chosen, chosen, List.foldl_append]
      rfl

theorem Chooses.foldl_nan (chooses : Chooses rank choose) (rest : List Number) :
    rest.foldl choose .nan = .nan := by
  induction rest with
  | nil => rfl
  | cons value rest inductionHypothesis =>
      rw [List.foldl_cons, chooses, if_neg fun facts => facts.1 rfl, inductionHypothesis]

/-- Behind a first number a number of the lowest rank is chosen. -/
theorem Chooses.foldl_lowest (chooses : Chooses rank choose) {first : Number}
    (known : first ≠ .nan) (rest : List Number) :
    rest.foldl choose first ∈ first :: rest ∧ rest.foldl choose first ≠ .nan ∧
      ∀ value ∈ first :: rest, value ≠ .nan → rank (rest.foldl choose first) ≤ rank value := by
  induction rest generalizing first with
  | nil =>
      refine ⟨List.mem_singleton_self first, known, fun value member _ => ?_⟩
      rw [List.mem_singleton.mp member]
      exact Int.le_refl _
  | cons second rest inductionHypothesis =>
      rw [List.foldl_cons, chooses]
      by_cases lower : first ≠ .nan ∧ second ≠ .nan ∧ rank second < rank first
      · rw [if_pos lower]
        obtain ⟨member, knownResult, lowest⟩ := inductionHypothesis lower.2.1
        refine ⟨List.mem_cons_of_mem _ member, knownResult, List.forall_mem_cons.mpr ⟨?_, lowest⟩⟩
        intro _
        exact Int.le_trans (lowest second List.mem_cons_self lower.2.1) (Int.le_of_lt lower.2.2)
      · rw [if_neg lower]
        obtain ⟨member, knownResult, lowest⟩ := inductionHypothesis known
        have firstLowest := lowest first List.mem_cons_self known
        refine ⟨?_, knownResult, List.forall_mem_cons.mpr ⟨fun _ => firstLowest,
          List.forall_mem_cons.mpr ⟨fun knownSecond => ?_, ?_⟩⟩⟩
        · rcases List.mem_cons.mp member with same | later
          · exact List.mem_cons.mpr (.inl same)
          · exact List.mem_cons_of_mem _ (List.mem_cons_of_mem _ later)
        · refine Int.le_trans firstLowest (Int.not_lt.mp fun before => ?_)
          exact lower ⟨known, knownSecond, before⟩
        · exact fun value later => lowest value (List.mem_cons_of_mem _ later)

/-- A list that begins with a NaN and one that does not may differ in what is chosen.  Otherwise
the order of a list makes no difference, but for the sign of a zero. -/
theorem Chooses.chosen_eq_or_zero (chooses : Chooses rank choose)
    (separates : ∀ x y, rank x = rank y → x.place = y.place) {values values' : List Number}
    (permuted : values.Perm values')
    (led : values.head? = some .nan ↔ values'.head? = some .nan) :
    chosen choose values = chosen choose values' ∨ ∃ negative negative',
      chosen choose values = some (zero negative) ∧
        chosen choose values' = some (zero negative') := by
  match values, values', permuted with
  | [], _, permuted =>
      rw [List.nil_perm.mp permuted]
      exact .inl rfl
  | _, [], permuted =>
      rw [List.perm_nil.mp permuted]
      exact .inl rfl
  | first :: rest, first' :: rest', permuted =>
      rw [List.head?_cons, List.head?_cons, Option.some.injEq, Option.some.injEq] at led
      by_cases unknown : first = .nan
      · rw [unknown, led.mp unknown, chosen, chosen, chooses.foldl_nan, chooses.foldl_nan]
        exact .inl rfl
      · have unknown' : first' ≠ .nan := fun same => unknown (led.mpr same)
        obtain ⟨member, known, lowest⟩ := chooses.foldl_lowest unknown rest
        obtain ⟨member', known', lowest'⟩ := chooses.foldl_lowest unknown' rest'
        have ranks : rank (rest.foldl choose first) = rank (rest'.foldl choose first') :=
          Int.le_antisymm (lowest _ (permuted.mem_iff.mpr member') known')
            (lowest' _ (permuted.mem_iff.mp member) known)
        rcases eq_or_zero_of_place_eq known known' (separates _ _ ranks) with
          same | ⟨negative, negative', zero, zero'⟩
        · exact .inl (congrArg some same)
        · exact .inr ⟨negative, negative', congrArg some zero, congrArg some zero'⟩

end Spreadsheet.Number
