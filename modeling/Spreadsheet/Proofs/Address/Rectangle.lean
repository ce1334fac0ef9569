import Mathlib.Data.List.ProdSigma
import Spreadsheet.Address.CoordMap
import Spreadsheet.Proofs.Address.Canonical

/-!
# The rectangle of a range

The cells of a range are the product of its rows and its columns, in row-major order and
each once.  The range between two cells is the same between any two opposite corners of
their rectangle, and a text writes it whatever the references in it look like.
-/

namespace Spreadsheet

theorem Text.splitFirst_append {mark : Char} {left : Text} (absent : mark ∉ left) (right : Text) :
    splitFirst mark (left ++ mark :: right) = some (left, right) := by
  induction left with
  | nil => exact if_pos rfl
  | cons c left inductionHypothesis =>
      have different : c ≠ mark := fun same => absent (same ▸ List.mem_cons_self)
      have later : mark ∉ left := fun member => absent (List.mem_cons_of_mem c member)
      rw [List.cons_append, splitFirst, if_neg different, inductionHypothesis later]
      rfl

namespace Coord

variable {first second first' second' c : Coord}

/-- The cells in two opposite corners of the rectangle between two cells: their rows, their
columns, both or none of them have been exchanged. -/
structure Opposite (first second first' second' : Coord) : Prop where
  rows : first'.row = first.row ∧ second'.row = second.row ∨
    first'.row = second.row ∧ second'.row = first.row
  columns : first'.col = first.col ∧ second'.col = second.col ∨
    first'.col = second.col ∧ second'.col = first.col

/-- The cell lies in the rectangle between two others. -/
structure Between (first second c : Coord) : Prop where
  row : min first.row second.row ≤ c.row ∧ c.row ≤ max first.row second.row
  column : min first.col second.col ≤ c.col ∧ c.col ≤ max first.col second.col

theorem nonneg_of_decode {t : Text} (decodes : decode t = .ok (some c)) :
    0 ≤ c.row ∧ 0 ≤ c.col := by
  obtain ⟨column, row, n, -, -, -, rfl⟩ := exists_of_decode decodes
  exact ⟨Int.natCast_nonneg _, Int.natCast_nonneg _⟩

end Coord

namespace Range

variable {range : Range}

theorem rowCells_eq_map (row column count : Nat) :
    rowCells row column count = (List.range' column count).map (row, ·) := by
  induction count generalizing column with
  | zero => rfl
  | succ count inductionHypothesis =>
      rw [rowCells, inductionHypothesis, List.range'_succ, List.map_cons]

theorem cellsFrom_eq_product (range : Range) (row count : Nat) :
    range.cellsFrom row count =
      List.range' row count ×ˢ List.range' range.left range.width := by
  induction count generalizing row with
  | zero => rfl
  | succ count inductionHypothesis =>
      rw [cellsFrom, inductionHypothesis, rowCells_eq_map, List.range'_succ, List.product_cons]

/-- The coordinates of the cells, row by row. -/
def coords (range : Range) : List Coord :=
  range.cells.map fun cell => ⟨cell.1, cell.2⟩

theorem length_coords : range.coords.length = range.height * range.width := by
  rw [coords, List.length_map, cells, cellsFrom_eq_product, List.length_product,
    List.length_range', List.length_range']

theorem mem_cells {row column : Nat} :
    (row, column) ∈ range.cells ↔
      (range.top ≤ row ∧ row ≤ range.bottom) ∧ range.left ≤ column ∧ column ≤ range.right := by
  have rows := range.top_le_bottom
  have columns := range.left_le_right
  rw [cells, cellsFrom_eq_product, List.mem_product, List.mem_range'_1, List.mem_range'_1, height,
    width]
  omega

/-- The cells of a range come in row-major order, so none comes twice. -/
theorem coords_ordered : range.coords.Pairwise fun a b => a.precedes b = true := by
  have ordered : range.cells.Pairwise fun a b => a.1 < b.1 ∨ a.1 = b.1 ∧ a.2 < b.2 := by
    rw [cells, cellsFrom_eq_product]
    refine List.pairwise_flatMap.mpr ⟨fun row _ => ?_, ?_⟩
    · refine List.pairwise_map.mpr ?_
      exact (List.pairwise_lt_range' 1).imp fun less => .inr ⟨rfl, less⟩
    · refine (List.pairwise_lt_range' 1).imp fun less first member second member' => ?_
      obtain ⟨_, -, rfl⟩ := List.mem_map.mp member
      obtain ⟨_, -, rfl⟩ := List.mem_map.mp member'
      exact .inl less
  refine List.pairwise_map.mpr (ordered.imp fun before => ?_)
  rw [Coord.precedes_iff]
  dsimp only
  omega

section Corners

variable {first second first' second' c : Coord}

/-- The range between two cells has as many cells as their distances say. -/
theorem length_coords_between (row : 0 ≤ first.row ∧ 0 ≤ second.row)
    (column : 0 ≤ first.col ∧ 0 ≤ second.col) :
    (between first second).coords.length =
      ((first.row - second.row).natAbs + 1) * ((first.col - second.col).natAbs + 1) := by
  have rows : (between first second).height = (first.row - second.row).natAbs + 1 := by
    simp only [height, between]
    omega
  have columns : (between first second).width = (first.col - second.col).natAbs + 1 := by
    simp only [width, between]
    omega
  rw [length_coords, rows, columns]

theorem mem_coords_between (row : 0 ≤ first.row ∧ 0 ≤ second.row)
    (column : 0 ≤ first.col ∧ 0 ≤ second.col) :
    c ∈ (between first second).coords ↔ Coord.Between first second c := by
  constructor
  · intro member
    obtain ⟨⟨row, column⟩, inside, rfl⟩ := List.mem_map.mp member
    have bounds := mem_cells.mp inside
    simp only [between] at bounds
    constructor <;> dsimp only <;> omega
  · rintro ⟨rows, columns⟩
    refine List.mem_map.mpr ⟨(c.row.toNat, c.col.toNat), mem_cells.mpr ?_, ?_⟩
    · simp only [between]
      omega
    · obtain ⟨row, column⟩ := c
      simp only [Coord.mk.injEq]
      dsimp only at rows columns
      omega

theorem min_max_of_exchanged {a b a' b' : Int} (same : a' = a ∧ b' = b ∨ a' = b ∧ b' = a) :
    min a'.toNat b'.toNat = min a.toNat b.toNat ∧
      max a'.toNat b'.toNat = max a.toNat b.toNat := by
  rcases same with ⟨rfl, rfl⟩ | ⟨rfl, rfl⟩
  · exact ⟨rfl, rfl⟩
  · exact ⟨Nat.min_comm _ _, Nat.max_comm _ _⟩

/-- Opposite corners have the same range between them. -/
theorem between_of_opposite (opposite : Coord.Opposite first second first' second') :
    between first' second' = between first second := by
  obtain ⟨top, bottom⟩ := min_max_of_exchanged opposite.rows
  obtain ⟨left, right⟩ := min_max_of_exchanged opposite.columns
  simp only [between, top, bottom, left, right]

end Corners

/-- Two references with a colon between them write the range between their cells. -/
theorem ofText?_of_decode {left right : Text} {first second : Coord} (uncut : ':' ∉ left)
    (leftReads : Coord.decode left = .ok (some first))
    (rightReads : Coord.decode right = .ok (some second)) :
    ofText? (left ++ ':' :: right) = .ok (some (between first second)) := by
  simp only [ofText?, Text.splitFirst_append uncut, leftReads, rightReads]
  rfl

/-- A text that writes a range is two references with a colon between them. -/
theorem exists_of_ofText? {text : Text} (written : ofText? text = .ok (some range)) :
    ∃ (left right : Text) (first second : Coord), text = left ++ ':' :: right ∧
      Coord.decode left = .ok (some first) ∧ Coord.decode right = .ok (some second) ∧
        range = between first second := by
  rw [ofText?] at written
  cases parts : Text.splitFirst ':' text with
  | none =>
      rw [parts] at written
      cases written
  | some sides =>
      obtain ⟨left, right⟩ := sides
      rw [parts] at written
      rcases leftReads : Coord.decode left with fault | _ | first <;>
        rcases rightReads : Coord.decode right with fault | _ | second <;>
          simp only [leftReads, rightReads] at written <;> cases written
      exact ⟨left, right, first, second, Text.splitFirst_eq parts, leftReads, rightReads, rfl⟩

end Range

end Spreadsheet
