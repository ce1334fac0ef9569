import Spreadsheet.Proofs.Grid.Refinement

/-!
# Undoing and exchanging edits

An edit inserts or removes a row or column.  It does two things along one axis and
nothing along the other: it changes the list of sizes, and it moves the places of the
stored texts or takes one place away with its texts.  So what two edits come to can be
worked out on lists of sizes and on places, and holds of whole grids.

An insertion is undone by a removal in the same place, and a removal by an insertion
if what is removed is blank.  Edits along one axis can be exchanged if the index of the
one that is farther on takes account of the other; edits along different axes do not
notice one another.
-/

namespace Spreadsheet

/-! ## Sizes -/

namespace Extent

variable {extent : Extent} {index other : Nat}

theorem count_insertAt (inside : index ≤ extent.count) :
    (extent.insertAt index).count = extent.count + 1 :=
  List.length_insertIdx_of_le_length inside extent.default

theorem count_eraseAt (inside : index < extent.count) :
    (extent.eraseAt index).count = extent.count - 1 :=
  List.length_eraseIdx_of_lt inside

theorem eraseAt_insertAt (extent : Extent) (index : Nat) :
    (extent.insertAt index).eraseAt index = extent := by
  rw [insertAt, eraseAt, List.eraseIdx_insertIdx_self]

/-- An entry that is erased comes back if it has the default size. -/
theorem insertAt_eraseAt_iff (inside : index < extent.count) :
    (extent.eraseAt index).insertAt index = extent ↔
      extent.sizes[index]? = some extent.default := by
  have put : (extent.eraseAt index).insertAt index =
      { extent with sizes := extent.sizes.set index extent.default } := by
    rw [insertAt, eraseAt, List.insertIdx_eraseIdx_self (Nat.ne_of_lt inside)]
  rw [put]
  constructor
  · intro same
    have there : (extent.sizes.set index extent.default)[index]? = some extent.default :=
      List.getElem?_set_self inside
    exact same ▸ there
  · intro found
    obtain ⟨_, same⟩ := List.getElem?_eq_some_iff.mp found
    have unchanged : extent.sizes.set index extent.default = extent.sizes := by
      rw [← same, List.set_getElem_self]
    rw [unchanged]

theorem insertAt_insertAt (ordered : index ≤ other) (inside : other ≤ extent.count) :
    (extent.insertAt other).insertAt index = (extent.insertAt index).insertAt (other + 1) := by
  simp only [insertAt, List.insertIdx_comm _ _ ordered inside]

theorem eraseAt_eraseAt (extent : Extent) (ordered : index < other) :
    (extent.eraseAt other).eraseAt index = (extent.eraseAt index).eraseAt (other - 1) := by
  have same : (extent.sizes.eraseIdx other).eraseIdx index =
      (extent.sizes.eraseIdx index).eraseIdx (other - 1) := by
    apply List.ext_getElem?
    intro place
    simp only [List.getElem?_eraseIdx]
    split_ifs <;> first | rfl | omega
  rw [eraseAt, eraseAt, same]
  rfl

end Extent

/-! ## Edits -/

/-- A row or column is inserted before the one at an index, or the one there is
removed. -/
inductive Edit where
  | insert (index : Int)
  | remove (index : Int)
  deriving DecidableEq

namespace Edit

/-- The edit along an axis, as an operation. -/
def operation (axis : Axis) : Edit → Operation
  | insert index => .insertAt axis index
  | remove index => .removeAt axis index

/-- Among so many rows or columns there is the one to be removed, or the place for a new
one, be it at their end. -/
def Valid (count : Nat) : Edit → Prop
  | insert index => 0 ≤ index ∧ index ≤ count
  | remove index => 0 ≤ index ∧ index < count

/-- The edit that puts things back. -/
def undo : Edit → Edit
  | insert index => remove index
  | remove index => insert index

/-- What the edit makes of the sizes. -/
def resize : Edit → Extent → Extent
  | insert index, extent => extent.insertAt index.toNat
  | remove index, extent => extent.eraseAt index.toNat

/-- Where the edit moves a place, unless it takes the place away. -/
def shift? : Edit → Int → Option Int
  | insert index, place => some (if index ≤ place then place + 1 else place)
  | remove index, place =>
      if place = index then none else some (if index < place then place - 1 else place)

/-- Where the edit along an axis moves a coordinate. -/
def move? (axis : Axis) (edit : Edit) (c : Coord) : Option Coord :=
  (edit.shift? (c.along axis)).map fun place => c.withAlong place axis

variable {axis other : Axis} {edit next : Edit} {extent : Extent}

theorem move?_insert (axis : Axis) (index : Int) (c : Coord) :
    (insert index).move? axis c = some (c.shiftedUp axis index) := by
  rw [move?, shift?, Coord.shiftedUp, Option.map_some]
  split
  · rfl
  · rw [Coord.withAlong_along]

theorem move?_remove (axis : Axis) (index : Int) (c : Coord) :
    (remove index).move? axis c = c.shiftedDown? axis index := by
  rw [move?, shift?, Coord.shiftedDown?]
  split
  · rfl
  · split
    · rfl
    · rw [Option.map_some, Coord.withAlong_along]

theorem keepsOrder_move? (axis : Axis) (edit : Edit) : Coord.KeepsOrder (edit.move? axis) := by
  cases edit with
  | insert index =>
      rw [show (insert index).move? axis = fun c => some (c.shiftedUp axis index) from
        funext (move?_insert axis index)]
      exact Coord.keepsOrder_shiftedUp axis index
  | remove index =>
      rw [show (remove index).move? axis = fun c => c.shiftedDown? axis index from
        funext (move?_remove axis index)]
      exact Coord.keepsOrder_shiftedDown? axis index

theorem bind_move? (axis : Axis) (edit next : Edit) (c : Coord) :
    (edit.move? axis c).bind (next.move? axis) =
      ((edit.shift? (c.along axis)).bind next.shift?).map fun place =>
        c.withAlong place axis := by
  rw [move?]
  cases edit.shift? (c.along axis) with
  | none => rfl
  | some place =>
      rw [Option.map_some, Option.bind_some, Option.bind_some, move?, Coord.along_withAlong]
      simp only [Coord.withAlong_withAlong]

/-- An edit does not notice a move along the other axis. -/
theorem move?_withAlong_of_ne (different : axis ≠ other) (edit : Edit) (c : Coord)
    (place : Int) :
    edit.move? other (c.withAlong place axis) =
      (edit.shift? (c.along other)).map fun next =>
        (c.withAlong place axis).withAlong next other := by
  rw [move?, Coord.along_withAlong_of_ne different]

theorem bind_move?_comm (different : axis ≠ other) (edit next : Edit) (c : Coord) :
    (edit.move? axis c).bind (next.move? other) =
      (next.move? other c).bind (edit.move? axis) := by
  rw [move?, move?]
  cases first : edit.shift? (c.along axis) with
  | none =>
      cases next.shift? (c.along other) with
      | none => rfl
      | some place =>
          rw [Option.map_none, Option.bind_none, Option.map_some, Option.bind_some,
            move?_withAlong_of_ne different.symm, first, Option.map_none]
  | some place =>
      cases second : next.shift? (c.along other) with
      | none =>
          rw [Option.map_none, Option.bind_none, Option.map_some, Option.bind_some,
            move?_withAlong_of_ne different, second, Option.map_none]
      | some farther =>
          rw [Option.map_some, Option.bind_some, Option.map_some, Option.bind_some,
            move?_withAlong_of_ne different, move?_withAlong_of_ne different.symm, first, second,
            Option.map_some, Option.map_some, Coord.withAlong_comm different]

/-! ### Places along one axis -/

variable {index farther place : Int}

theorem shift?_insert_of_lt (before : place < index) :
    (insert index).shift? place = some place := by
  rw [shift?, if_neg (by omega)]

theorem shift?_insert_of_le (behind : index ≤ place) :
    (insert index).shift? place = some (place + 1) := by
  rw [shift?, if_pos behind]

theorem shift?_remove_of_lt (before : place < index) :
    (remove index).shift? place = some place := by
  rw [shift?, if_neg (by omega), if_neg (by omega)]

theorem shift?_remove_self (index : Int) : (remove index).shift? index = none :=
  if_pos rfl

theorem shift?_remove_of_gt (behind : index < place) :
    (remove index).shift? place = some (place - 1) := by
  rw [shift?, if_neg (by omega), if_pos behind]

/-- What is inserted has not been there, so removing it leaves every place where it
was. -/
theorem bind_shift?_insert (index place : Int) :
    ((insert index).shift? place).bind (remove index).shift? = some place := by
  rcases Int.lt_or_le place index with before | behind
  · rw [shift?_insert_of_lt before, Option.bind_some, shift?_remove_of_lt before]
  · rw [shift?_insert_of_le behind, Option.bind_some, shift?_remove_of_gt (by omega),
      Int.add_sub_cancel]

/-- Places other than the one removed come back. -/
theorem bind_shift?_remove (different : place ≠ index) :
    ((remove index).shift? place).bind (insert index).shift? = some place := by
  rcases Int.lt_or_gt_of_ne different with before | behind
  · rw [shift?_remove_of_lt before, Option.bind_some, shift?_insert_of_lt before]
  · rw [shift?_remove_of_gt behind, Option.bind_some, shift?_insert_of_le (by omega),
      Int.sub_add_cancel]

/-- Two insertions: what is farther on moves on by one when the other comes first. -/
theorem bind_shift?_insert_insert (ordered : index ≤ farther) (place : Int) :
    ((insert farther).shift? place).bind (insert index).shift? =
      ((insert index).shift? place).bind (insert (farther + 1)).shift? := by
  rcases Int.lt_or_le place farther with before | behind
  · rw [shift?_insert_of_lt before, Option.bind_some]
    rcases Int.lt_or_le place index with first | between
    · rw [shift?_insert_of_lt first, Option.bind_some, shift?_insert_of_lt (by omega)]
    · rw [shift?_insert_of_le between, Option.bind_some, shift?_insert_of_lt (by omega)]
  · rw [shift?_insert_of_le behind, shift?_insert_of_le (Int.le_trans ordered behind),
      Option.bind_some, Option.bind_some, shift?_insert_of_le (by omega),
      shift?_insert_of_le (by omega)]

/-- Two removals: what is farther on moves back by one when the other comes first. -/
theorem bind_shift?_remove_remove (ordered : index < farther) (place : Int) :
    ((remove farther).shift? place).bind (remove index).shift? =
      ((remove index).shift? place).bind (remove (farther - 1)).shift? := by
  rcases Int.lt_trichotomy place farther with before | rfl | behind
  · rw [shift?_remove_of_lt before, Option.bind_some]
    rcases Int.lt_trichotomy place index with first | rfl | between
    · rw [shift?_remove_of_lt first, Option.bind_some, shift?_remove_of_lt (by omega)]
    · rw [shift?_remove_self, Option.bind_none]
    · rw [shift?_remove_of_gt between, Option.bind_some, shift?_remove_of_lt (by omega)]
  · rw [shift?_remove_self, Option.bind_none, shift?_remove_of_gt ordered, Option.bind_some,
      shift?_remove_self]
  · rw [shift?_remove_of_gt behind, shift?_remove_of_gt (Int.lt_trans ordered behind),
      Option.bind_some, Option.bind_some, shift?_remove_of_gt (by omega),
      shift?_remove_of_gt (by omega)]

end Edit

/-! ## Edits of a grid -/

namespace Grid

variable {grid : Grid} {axis other : Axis} {edit next edit' next' : Edit} {index farther : Int}

theorem eq_of_extent {first second : Grid} (sizes : ∀ axis, first.extent axis = second.extent axis)
    (cells : first.cells = second.cells) (appendRow : first.appendRow = second.appendRow)
    (functions : first.functions = second.functions) : first = second := by
  have rows : first.rows = second.rows := sizes .row
  have columns : first.columns = second.columns := sizes .column
  cases first
  cases second
  simp_all

/-- The grid after an edit whose index is valid. -/
def edited (grid : Grid) (axis : Axis) (edit : Edit) : Grid :=
  { grid.withExtent (edit.resize (grid.extent axis)) axis with
    cells := grid.cells.rekey (edit.move? axis) }

theorem extent_edited (grid : Grid) (axis other : Axis) (edit : Edit) :
    (grid.edited axis edit).extent other =
      if other = axis then edit.resize (grid.extent axis) else grid.extent other := by
  rw [← extent_withExtent]
  cases other <;> rfl

theorem extent_edited_self (grid : Grid) (axis : Axis) (edit : Edit) :
    (grid.edited axis edit).extent axis = edit.resize (grid.extent axis) := by
  rw [extent_edited, if_pos rfl]

theorem extent_edited_of_ne (different : axis ≠ other) (grid : Grid) (edit : Edit) :
    (grid.edited axis edit).extent other = grid.extent other := by
  rw [extent_edited, if_neg different.symm]

theorem appendRow_edited (grid : Grid) (axis : Axis) (edit : Edit) :
    (grid.edited axis edit).appendRow = grid.appendRow := by
  cases axis <;> rfl

theorem functions_edited (grid : Grid) (axis : Axis) (edit : Edit) :
    (grid.edited axis edit).functions = grid.functions := by
  cases axis <;> rfl

theorem count_edited_insert (valid : (Edit.insert index).Valid (grid.extent axis).count) :
    ((grid.edited axis (.insert index)).extent axis).count = (grid.extent axis).count + 1 := by
  obtain ⟨notNegative, inside⟩ := valid
  rw [extent_edited_self]
  exact Extent.count_insertAt (by omega)

theorem count_edited_remove (valid : (Edit.remove index).Valid (grid.extent axis).count) :
    ((grid.edited axis (.remove index)).extent axis).count = (grid.extent axis).count - 1 := by
  obtain ⟨notNegative, inside⟩ := valid
  rw [extent_edited_self]
  exact Extent.count_eraseAt (by omega)

theorem perform_edit (valid : edit.Valid (grid.extent axis).count) :
    grid.perform (edit.operation axis) = (grid.edited axis edit, none) := by
  cases edit with
  | insert index =>
      obtain ⟨notNegative, inside⟩ := valid
      have place : min index.toNat (grid.extent axis).count = index.toNat := by omega
      have move : (Edit.insert index).move? axis = fun c => some (c.shiftedUp axis index) :=
        funext (Edit.move?_insert axis index)
      rw [Edit.operation, perform, insertAt, place, Int.toNat_of_nonneg notNegative, ← move]
      rfl
  | remove index =>
      obtain ⟨notNegative, inside⟩ := valid
      have move : (Edit.remove index).move? axis = fun c => c.shiftedDown? axis index :=
        funext (Edit.move?_remove axis index)
      rw [Edit.operation, perform, removeAt, if_neg (by simp; omega), ← move]
      rfl

/-- Two edits, each valid when its turn comes. -/
theorem run_edits (first : edit.Valid (grid.extent axis).count)
    (second : next.Valid ((grid.edited axis edit).extent other).count) :
    Operation.run perform grid [edit.operation axis, next.operation other] =
      ((grid.edited axis edit).edited other next, [none, none]) := by
  simp only [Operation.run, perform_edit first, perform_edit second]

/-! ### Two edits -/

/-- Two edits along one axis leave the grid as it was if they do so with the sizes and
with the places of the stored texts. -/
theorem edited_edited_eq_self
    (sizes : next.resize (edit.resize (grid.extent axis)) = grid.extent axis)
    (places : ∀ c, grid.hasCell c = true →
      (edit.shift? (c.along axis)).bind next.shift? = some (c.along axis)) :
    (grid.edited axis edit).edited axis next = grid := by
  apply eq_of_extent
  · intro direction
    rw [extent_edited, extent_edited_self]
    split
    · next same => rw [same, sizes]
    · next different => rw [extent_edited_of_ne (Ne.symm different)]
  · have moved : (grid.cells.rekey (edit.move? axis)).rekey (next.move? axis) = grid.cells := by
      rw [CoordMap.rekey_rekey (edit.keepsOrder_move? axis) (next.keepsOrder_move? axis)]
      apply CoordMap.rekey_eq_self
      intro c stored
      rw [Edit.bind_move?, places c stored, Option.map_some, Coord.withAlong_along]
    exact moved
  · rw [appendRow_edited, appendRow_edited]
  · rw [functions_edited, functions_edited]

/-- Two edits along one axis come to the same as two others if they do so with sizes and
with places. -/
theorem edited_edited_congr
    (sizes : next.resize (edit.resize (grid.extent axis)) =
      next'.resize (edit'.resize (grid.extent axis)))
    (places : ∀ place, (edit.shift? place).bind next.shift? =
      (edit'.shift? place).bind next'.shift?) :
    (grid.edited axis edit).edited axis next = (grid.edited axis edit').edited axis next' := by
  apply eq_of_extent
  · intro direction
    rw [extent_edited, extent_edited_self, extent_edited _ axis direction next',
      extent_edited_self, sizes]
    split
    · rfl
    · next different =>
        rw [extent_edited_of_ne (Ne.symm different), extent_edited_of_ne (Ne.symm different)]
  · have moved : (grid.cells.rekey (edit.move? axis)).rekey (next.move? axis) =
        (grid.cells.rekey (edit'.move? axis)).rekey (next'.move? axis) := by
      rw [CoordMap.rekey_rekey (edit.keepsOrder_move? axis) (next.keepsOrder_move? axis),
        CoordMap.rekey_rekey (edit'.keepsOrder_move? axis) (next'.keepsOrder_move? axis)]
      congr 1
      funext c
      rw [Edit.bind_move?, Edit.bind_move?, places]
    exact moved
  · simp only [appendRow_edited]
  · simp only [functions_edited]

theorem edited_comm (different : axis ≠ other) (grid : Grid) (edit next : Edit) :
    (grid.edited axis edit).edited other next = (grid.edited other next).edited axis edit := by
  apply eq_of_extent
  · intro direction
    by_cases first : direction = axis
    · subst first
      rw [extent_edited_of_ne different.symm, extent_edited_self, extent_edited_self,
        extent_edited_of_ne different.symm]
    · rw [extent_edited_of_ne (Ne.symm first) (grid.edited other next),
        extent_edited _ other direction next, extent_edited _ other direction next,
        extent_edited_of_ne different, extent_edited_of_ne (Ne.symm first)]
  · have moved : (grid.cells.rekey (edit.move? axis)).rekey (next.move? other) =
        (grid.cells.rekey (next.move? other)).rekey (edit.move? axis) := by
      rw [CoordMap.rekey_rekey (edit.keepsOrder_move? axis) (next.keepsOrder_move? other),
        CoordMap.rekey_rekey (next.keepsOrder_move? other) (edit.keepsOrder_move? axis)]
      congr 1
      funext c
      exact Edit.bind_move?_comm different edit next c
    exact moved
  · simp only [appendRow_edited]
  · simp only [functions_edited]

/-! ### Undoing -/

/-- Nothing is stored in the row or column at `index`, and it has the default size. -/
def IsBlankAt (grid : Grid) (axis : Axis) (index : Int) : Prop :=
  (∀ c, c.along axis = index → grid.hasCell c = false) ∧
    (grid.extent axis).sizes[index.toNat]? = some (grid.extent axis).default

theorem edited_insert_remove (grid : Grid) (axis : Axis) (index : Int) :
    (grid.edited axis (.insert index)).edited axis (.remove index) = grid :=
  edited_edited_eq_self (Extent.eraseAt_insertAt _ _) fun _ _ => Edit.bind_shift?_insert index _

/-- Inserting in the place of what has been removed gives back what was blank and
nothing else. -/
theorem edited_remove_insert_iff (notNegative : 0 ≤ index)
    (inside : index < (grid.extent axis).count) :
    (grid.edited axis (.remove index)).edited axis (.insert index) = grid ↔
      grid.IsBlankAt axis index := by
  have sizes : ((grid.extent axis).eraseAt index.toNat).insertAt index.toNat = grid.extent axis ↔
      (grid.extent axis).sizes[index.toNat]? = some (grid.extent axis).default :=
    Extent.insertAt_eraseAt_iff (by omega)
  constructor
  · intro same
    constructor
    · intro c there
      have moved : (Edit.insert index).move? axis = fun c => some (c.shiftedUp axis index) :=
        funext (Edit.move?_insert axis index)
      have missing := CoordMap.get?_shiftedUp (grid.edited axis (.remove index)).cells axis index c
      rw [if_neg (by omega), if_pos there, ← moved] at missing
      rw [← same, hasCell, CoordMap.contains]
      exact Option.isSome_eq_false_iff.mpr (Option.isNone_iff_eq_none.mpr missing)
    · apply sizes.mp
      have extents := congrArg (fun changed => changed.extent axis) same
      simp only [extent_edited_self] at extents
      exact extents
  · rintro ⟨empty, default⟩
    apply edited_edited_eq_self
    · exact sizes.mpr default
    · intro c stored
      apply Edit.bind_shift?_remove
      intro there
      rw [empty c there] at stored
      cases stored

/-! ### Operations that lead to one grid -/

/-- Both lists of operations are carried out without a refusal and lead to one grid. -/
def LeadToSame (grid : Grid) (first second : List Operation) : Prop :=
  ∃ final, Operation.run perform grid first = (final, first.map fun _ => none) ∧
    Operation.run perform grid second = (final, second.map fun _ => none)

/-- Two edits come to the same as two others if each is valid when its turn comes and the
grids after them are equal. -/
theorem LeadToSame.of_edited {axis' other' : Axis}
    (first : edit.Valid (grid.extent axis).count)
    (second : next.Valid ((grid.edited axis edit).extent other).count)
    (first' : edit'.Valid (grid.extent axis').count)
    (second' : next'.Valid ((grid.edited axis' edit').extent other').count)
    (same : (grid.edited axis edit).edited other next =
      (grid.edited axis' edit').edited other' next') :
    grid.LeadToSame [edit.operation axis, next.operation other]
      [edit'.operation axis', next'.operation other'] :=
  ⟨_, run_edits first second, same ▸ run_edits first' second'⟩

/-- Two edits, each valid when its turn comes, lead back exactly if the grid after them is
the grid before. -/
theorem leadToSame_nil_iff (first : edit.Valid (grid.extent axis).count)
    (second : next.Valid ((grid.edited axis edit).extent other).count) :
    grid.LeadToSame [edit.operation axis, next.operation other] [] ↔
      (grid.edited axis edit).edited other next = grid := by
  constructor
  · rintro ⟨final, there, back⟩
    rw [run_edits first second] at there
    exact (Prod.ext_iff.mp there).1.trans (Prod.ext_iff.mp back).1.symm
  · intro same
    exact ⟨_, run_edits first second, congrArg (·, []) same.symm⟩

theorem valid_undo (valid : edit.Valid (grid.extent axis).count) :
    edit.undo.Valid ((grid.edited axis edit).extent axis).count := by
  cases edit with
  | insert index =>
      have grown := count_edited_insert valid
      obtain ⟨notNegative, inside⟩ := valid
      exact ⟨notNegative, by omega⟩
  | remove index =>
      have shrunk := count_edited_remove valid
      obtain ⟨notNegative, inside⟩ := valid
      exact ⟨notNegative, by omega⟩

/-- The second edit puts back what the first one has changed, be it that nothing was lost
with it. -/
theorem edited_undo (valid : edit.Valid (grid.extent axis).count)
    (blank : ∀ index, edit = .remove index → grid.IsBlankAt axis index) :
    (grid.edited axis edit).edited axis edit.undo = grid := by
  cases edit with
  | insert index => exact grid.edited_insert_remove axis index
  | remove index => exact (edited_remove_insert_iff valid.1 valid.2).mpr (blank index rfl)

/-! ### Exchanging -/

/-- Two insertions can be made from the end or from the front. -/
theorem leadToSame_insert_insert (notNegative : 0 ≤ index) (ordered : index ≤ farther)
    (inside : farther ≤ (grid.extent axis).count) :
    grid.LeadToSame [.insertAt axis farther, .insertAt axis index]
      [.insertAt axis index, .insertAt axis (farther + 1)] := by
  have validFarther : (Edit.insert farther).Valid (grid.extent axis).count := ⟨by omega, inside⟩
  have validIndex : (Edit.insert index).Valid (grid.extent axis).count :=
    ⟨notNegative, by omega⟩
  have validSecond : (Edit.insert index).Valid
      ((grid.edited axis (.insert farther)).extent axis).count := by
    rw [count_edited_insert validFarther]
    exact ⟨notNegative, by omega⟩
  have validSecond' : (Edit.insert (farther + 1)).Valid
      ((grid.edited axis (.insert index)).extent axis).count := by
    rw [count_edited_insert validIndex]
    exact ⟨by omega, by omega⟩
  refine LeadToSame.of_edited validFarther validSecond validIndex validSecond' ?_
  refine edited_edited_congr ?_ (Edit.bind_shift?_insert_insert ordered)
  have next : (farther + 1).toNat = farther.toNat + 1 := by omega
  simp only [Edit.resize, next]
  exact Extent.insertAt_insertAt (by omega) (by omega)

/-- Two removals can be made from the end or from the front. -/
theorem leadToSame_remove_remove (notNegative : 0 ≤ index) (ordered : index < farther)
    (inside : farther < (grid.extent axis).count) :
    grid.LeadToSame [.removeAt axis farther, .removeAt axis index]
      [.removeAt axis index, .removeAt axis (farther - 1)] := by
  have validFarther : (Edit.remove farther).Valid (grid.extent axis).count := ⟨by omega, inside⟩
  have validIndex : (Edit.remove index).Valid (grid.extent axis).count :=
    ⟨notNegative, by omega⟩
  have validSecond : (Edit.remove index).Valid
      ((grid.edited axis (.remove farther)).extent axis).count := by
    rw [count_edited_remove validFarther]
    exact ⟨notNegative, by omega⟩
  have validSecond' : (Edit.remove (farther - 1)).Valid
      ((grid.edited axis (.remove index)).extent axis).count := by
    rw [count_edited_remove validIndex]
    exact ⟨by omega, by omega⟩
  refine LeadToSame.of_edited validFarther validSecond validIndex validSecond' ?_
  refine edited_edited_congr ?_ (Edit.bind_shift?_remove_remove ordered)
  have previous : (farther - 1).toNat = farther.toNat - 1 := by omega
  simp only [Edit.resize, previous]
  exact Extent.eraseAt_eraseAt _ (by omega)

/-! ### The laws -/

/-- How the insertions and removals of a grid's rows and columns go together. -/
structure EditLaws (grid : Grid) : Prop where
  /-- An inserted row or column can be removed again, -/
  inserted_removed : ∀ (axis : Axis) (index : Int), 0 ≤ index → index ≤ (grid.extent axis).count →
    grid.LeadToSame [.insertAt axis index, .removeAt axis index] []
  /-- and one that has been removed inserted again, if it was blank. -/
  removed_inserted : ∀ (axis : Axis) (index : Int), 0 ≤ index → index < (grid.extent axis).count →
    (grid.LeadToSame [.removeAt axis index, .insertAt axis index] [] ↔
      grid.IsBlankAt axis index)
  inserted_inserted : ∀ (axis : Axis) (index farther : Int), 0 ≤ index → index ≤ farther →
    farther ≤ (grid.extent axis).count →
    grid.LeadToSame [.insertAt axis farther, .insertAt axis index]
      [.insertAt axis index, .insertAt axis (farther + 1)]
  removed_removed : ∀ (axis : Axis) (index farther : Int), 0 ≤ index → index < farther →
    farther < (grid.extent axis).count →
    grid.LeadToSame [.removeAt axis farther, .removeAt axis index]
      [.removeAt axis index, .removeAt axis (farther - 1)]
  /-- Rows and columns can be edited in either order. -/
  rows_columns : ∀ rowEdit columnEdit : Edit, rowEdit.Valid grid.rows.count →
    columnEdit.Valid grid.columns.count →
    grid.LeadToSame [rowEdit.operation .row, columnEdit.operation .column]
      [columnEdit.operation .column, rowEdit.operation .row]
  /-- After an edit that has been undone every cell shows what it showed before. -/
  shown : ∀ axis (edit : Edit), edit.Valid (grid.extent axis).count →
    (∀ index, edit = .remove index → grid.IsBlankAt axis index) →
    ∀ c, (Operation.run perform grid
      [edit.operation axis, edit.undo.operation axis]).1.display c = grid.display c

/-- Every grid obeys the laws. -/
theorem editLaws (grid : Grid) : grid.EditLaws where
  inserted_removed axis index notNegative inside := by
    have valid : (Edit.insert index).Valid (grid.extent axis).count := ⟨notNegative, inside⟩
    exact (leadToSame_nil_iff valid (valid_undo valid)).mpr (grid.edited_insert_remove axis index)
  removed_inserted axis index notNegative inside := by
    have valid : (Edit.remove index).Valid (grid.extent axis).count := ⟨notNegative, inside⟩
    exact (leadToSame_nil_iff valid (valid_undo valid)).trans
      (edited_remove_insert_iff notNegative inside)
  inserted_inserted axis index farther := leadToSame_insert_insert
  removed_removed axis index farther := leadToSame_remove_remove
  rows_columns rowEdit columnEdit validRow validColumn := by
    have different : Axis.row ≠ Axis.column := nofun
    refine .of_edited validRow ?_ validColumn ?_ (edited_comm different grid rowEdit columnEdit)
    · rw [extent_edited_of_ne different]
      exact validColumn
    · rw [extent_edited_of_ne different.symm]
      exact validRow
  shown axis edit valid blank c := by
    rw [run_edits valid (valid_undo valid), edited_undo valid blank]

/-- A grid with a formula below the row that is inserted and removed again, and with a
blank last column. -/
theorem editLaws_formula :
    let grid := ((blank 2 3 16 1 .builtins).perform (.setCell ⟨1, 0⟩ "=A2+B2".toList)).1
    grid.LeadToSame [.insertAt .row 1, .removeAt .row 1] [] ∧
      grid.LeadToSame [.removeAt .column 2, .insertAt .column 2] [] ∧
      ¬ grid.LeadToSame [.removeAt .row 1, .insertAt .row 1] [] ∧
      grid.display ⟨1, 0⟩ = .ok "#CYCLE".toList ∧
      (Operation.run perform grid [.insertAt .row 1, .removeAt .row 1]).1.display ⟨1, 0⟩ =
        .ok "#CYCLE".toList := by
  intro grid
  have laws := grid.editLaws
  have shows : grid.display ⟨1, 0⟩ = .ok "#CYCLE".toList := by decide +kernel
  refine ⟨?_, ?_, ?_, shows, ?_⟩
  · exact laws.inserted_removed .row 1 (by decide) (by decide)
  · refine (laws.removed_inserted .column 2 (by decide) (by decide)).mpr ⟨?_, by decide⟩
    intro c there
    refine Bool.eq_false_iff.mpr fun stored => ?_
    rcases (CoordMap.contains_insert .empty ⟨1, 0⟩ _ c).mp stored with rfl | missing
    · cases there
    · cases missing
  · intro back
    have empty := ((laws.removed_inserted .row 1 (by decide) (by decide)).mp back).1
    exact absurd (empty ⟨1, 0⟩ rfl) (by decide)
  · rw [← shows]
    exact laws.shown .row (.insert 1) ⟨by decide, by decide⟩ nofun ⟨1, 0⟩

end Grid

end Spreadsheet
