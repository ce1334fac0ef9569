import Spreadsheet.Grid.Block
import Spreadsheet.Proofs.Address.Entries

/-!
# Making room for a row or column and closing the gap

Inserting a row or column moves the cells from its place on by one, and removing
one moves those behind it back.  Both keep the row-major order, so the stored
texts are the same list as before, but for those in the place removed.
-/

namespace Spreadsheet

namespace Coord

variable {axis other : Axis} {index : Int} {c d : Coord}

theorem along_withAlong (c : Coord) (place : Int) (axis : Axis) :
    (c.withAlong place axis).along axis = place := by
  cases axis <;> rfl

theorem along_withAlong_of_ne (different : axis ≠ other) (c : Coord) (place : Int) :
    (c.withAlong place axis).along other = c.along other := by
  cases axis <;> cases other <;> first | rfl | exact absurd rfl different

theorem withAlong_along (c : Coord) (axis : Axis) : c.withAlong (c.along axis) axis = c := by
  cases axis <;> rfl

theorem withAlong_withAlong (c : Coord) (place next : Int) (axis : Axis) :
    (c.withAlong place axis).withAlong next axis = c.withAlong next axis := by
  cases axis <;> rfl

theorem withAlong_comm (different : axis ≠ other) (c : Coord) (place next : Int) :
    (c.withAlong place axis).withAlong next other =
      (c.withAlong next other).withAlong place axis := by
  cases axis <;> cases other <;> first | rfl | exact absurd rfl different

/-- Where a coordinate goes when the place `index` along an axis, at which it does not
lie, is taken away. -/
def closedUp (axis : Axis) (index : Int) (c : Coord) : Coord :=
  if index < c.along axis then c.withAlong (c.along axis - 1) axis else c

theorem shiftedDown?_eq (axis : Axis) (index : Int) (c : Coord) :
    c.shiftedDown? axis index =
      if c.along axis = index then none else some (c.closedUp axis index) := by
  rw [shiftedDown?, closedUp]
  split
  · rfl
  · split <;> rfl

/-- A coordinate that has been moved up lies before the new place where it was, or
behind it one further. -/
theorem shiftedUp_eq_iff :
    d.shiftedUp axis index = c ↔
      (c.along axis < index ∧ d = c) ∨
        (index < c.along axis ∧ d = c.withAlong (c.along axis - 1) axis) := by
  rw [shiftedUp]
  by_cases behind : index ≤ d.along axis
  · rw [if_pos behind]
    cases axis <;> cases c <;> cases d <;>
      simp only [along, withAlong, mk.injEq] at * <;> omega
  · rw [if_neg behind]
    cases axis <;> cases c <;> cases d <;>
      simp only [along, withAlong, mk.injEq] at * <;> omega

/-- A coordinate that has been moved down lies before the place taken away where it
was, or from it on one nearer. -/
theorem shiftedDown?_eq_some_iff :
    d.shiftedDown? axis index = some c ↔
      (c.along axis < index ∧ d = c) ∨
        (index ≤ c.along axis ∧ d = c.withAlong (c.along axis + 1) axis) := by
  rw [shiftedDown?]
  by_cases there : d.along axis = index
  · rw [if_pos there]
    cases axis <;> cases c <;> cases d <;>
      simp only [along, withAlong, mk.injEq, reduceCtorEq, false_iff] at * <;> omega
  · rw [if_neg there]
    by_cases behind : index < d.along axis
    · rw [if_pos behind]
      cases axis <;> cases c <;> cases d <;>
        simp only [along, withAlong, mk.injEq, Option.some.injEq] at * <;> omega
    · rw [if_neg behind]
      cases axis <;> cases c <;> cases d <;>
        simp only [along, withAlong, mk.injEq, Option.some.injEq] at * <;> omega

theorem keepsOrder_shiftedUp (axis : Axis) (index : Int) :
    KeepsOrder fun c => some (c.shiftedUp axis index) := by
  intro a b c d before movedA movedB
  rcases shiftedUp_eq_iff.mp (Option.some.inj movedA) with ⟨_, rfl⟩ | ⟨_, rfl⟩ <;>
    rcases shiftedUp_eq_iff.mp (Option.some.inj movedB) with ⟨_, rfl⟩ | ⟨_, rfl⟩ <;>
    cases axis <;> simp only [precedes_iff, along, withAlong] at * <;> omega

theorem keepsOrder_shiftedDown? (axis : Axis) (index : Int) :
    KeepsOrder fun c => c.shiftedDown? axis index := by
  intro a b c d before movedA movedB
  rcases shiftedDown?_eq_some_iff.mp movedA with ⟨_, rfl⟩ | ⟨_, rfl⟩ <;>
    rcases shiftedDown?_eq_some_iff.mp movedB with ⟨_, rfl⟩ | ⟨_, rfl⟩ <;>
    cases axis <;> simp only [precedes_iff, along, withAlong] at * <;> omega

end Coord

namespace CoordMap

variable {α : Type}

/-- After room has been made there is nothing in the new place, and behind it is what
was one before. -/
theorem get?_shiftedUp (map : CoordMap α) (axis : Axis) (index : Int) (c : Coord) :
    (map.rekey fun d => some (d.shiftedUp axis index)).get? c =
      if c.along axis < index then map.get? c
      else if c.along axis = index then none
      else map.get? (c.withAlong (c.along axis - 1) axis) := by
  apply Option.ext
  intro value
  simp only [get?_rekey_eq_some_iff (Coord.keepsOrder_shiftedUp axis index),
    Option.some.injEq, Coord.shiftedUp_eq_iff]
  by_cases before : c.along axis < index
  · rw [if_pos before]
    constructor
    · rintro ⟨d, ⟨_, rfl⟩ | ⟨behind, _⟩, found⟩
      · exact found
      · omega
    · exact fun found => ⟨c, .inl ⟨before, rfl⟩, found⟩
  · rw [if_neg before]
    by_cases there : c.along axis = index
    · rw [if_pos there]
      constructor
      · rintro ⟨d, ⟨before, _⟩ | ⟨behind, _⟩, _⟩ <;> omega
      · exact fun found => absurd found (Option.some_ne_none value).symm
    · rw [if_neg there]
      constructor
      · rintro ⟨d, ⟨before, _⟩ | ⟨_, rfl⟩, found⟩
        · omega
        · exact found
      · exact fun found => ⟨_, .inr ⟨by omega, rfl⟩, found⟩

/-- After a place has been taken away there is from it on what was one behind. -/
theorem get?_shiftedDown? (map : CoordMap α) (axis : Axis) (index : Int) (c : Coord) :
    (map.rekey fun d => d.shiftedDown? axis index).get? c =
      if c.along axis < index then map.get? c
      else map.get? (c.withAlong (c.along axis + 1) axis) := by
  apply Option.ext
  intro value
  simp only [get?_rekey_eq_some_iff (Coord.keepsOrder_shiftedDown? axis index),
    Coord.shiftedDown?_eq_some_iff]
  by_cases before : c.along axis < index
  · rw [if_pos before]
    constructor
    · rintro ⟨d, ⟨_, rfl⟩ | ⟨behind, _⟩, found⟩
      · exact found
      · omega
    · exact fun found => ⟨c, .inl ⟨before, rfl⟩, found⟩
  · rw [if_neg before]
    constructor
    · rintro ⟨d, ⟨before, _⟩ | ⟨_, rfl⟩, found⟩
      · omega
      · exact found
    · exact fun found => ⟨_, .inr ⟨by omega, rfl⟩, found⟩

end CoordMap

namespace Grid

/-- An inserted row or column moves the texts from its place on by one and leaves out
none of them. -/
theorem entries_insertAt (grid : Grid) (axis : Axis) (index : Int) :
    (grid.insertAt axis index).cells.entries = grid.cells.entries.map fun entry =>
      (entry.1.shiftedUp axis (min index.toNat (grid.extent axis).count : Nat), entry.2) := by
  have moved := CoordMap.entries_rekey
    (Coord.keepsOrder_shiftedUp axis (min index.toNat (grid.extent axis).count : Nat))
    grid.cells
  rw [insertAt, moved]
  exact congrFun List.filterMap_eq_map' grid.cells.entries

/-- With a row or column its texts are removed and no others, and those behind it
move back by one. -/
theorem entries_removeAt {grid narrowed : Grid} {axis : Axis} {index : Int}
    (removed : grid.removeAt axis index = .ok narrowed) :
    narrowed.cells.entries =
      (grid.cells.entries.filter fun entry => entry.1.along axis != index).map fun entry =>
        (entry.1.closedUp axis index, entry.2) := by
  rw [removeAt] at removed
  split at removed
  · cases removed
  · cases removed
    refine (CoordMap.entries_rekey (Coord.keepsOrder_shiftedDown? axis index) _).trans ?_
    rw [← List.filterMap_eq_map, List.filterMap_filter]
    apply List.filterMap_congr
    intro entry _
    rw [Coord.shiftedDown?_eq]
    by_cases there : entry.1.along axis = index
    · rw [if_pos there, if_neg (by simpa using there)]
      rfl
    · rw [if_neg there, if_pos (by simpa using there)]
      rfl

end Grid

end Spreadsheet
