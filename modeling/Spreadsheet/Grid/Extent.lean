import Spreadsheet.Address.CoordMap

/-!
# Extents along an axis

A grid has a number of rows, each with a height, and a number of columns, each
with a width.  Both are extents: lists of sizes with a default for new entries.
Rows and columns behave alike, so every operation is defined once, for an axis.
-/

namespace Spreadsheet

/-- The two directions of a grid. -/
inductive Axis where
  /-- Along this axis lie the rows. -/
  | row
  /-- Along this axis lie the columns. -/
  | column
  deriving DecidableEq

namespace Coord

/-- The place of a coordinate along an axis. -/
def along (c : Coord) : Axis → Int
  | .row => c.row
  | .column => c.col

/-- The coordinate with another place along an axis. -/
def withAlong (c : Coord) (place : Int) : Axis → Coord
  | .row => { c with row := place }
  | .column => { c with col := place }

/-- Make room for one place before `index` along an axis. -/
def shiftedUp (axis : Axis) (index : Int) (c : Coord) : Coord :=
  if index ≤ c.along axis then c.withAlong (c.along axis + 1) axis else c

/-- Take the place `index` along an axis away, and with it what lies there. -/
def shiftedDown? (axis : Axis) (index : Int) (c : Coord) : Option Coord :=
  if c.along axis = index then none
  else if index < c.along axis then some (c.withAlong (c.along axis - 1) axis)
  else some c

end Coord

/-- The sizes of the rows or columns that there are, and that of a new one. -/
structure Extent where
  sizes : List Int
  default : Int
  deriving DecidableEq

namespace Extent

/-- An extent of entries that all have the default size; a negative count
stands for none. -/
def new (count default : Int) : Extent :=
  ⟨List.replicate count.toNat default, default⟩

/-- Whether a count is a signed word of sixty-four bits, as the count of a new
extent must be. -/
def isCount (count : Int) : Bool :=
  -9223372036854775808 ≤ count && count < 9223372036854775808

/-- The number of entries. -/
def count (extent : Extent) : Nat :=
  extent.sizes.length

/-- The extent with new entries at its end until it has one at `index`. -/
def including (extent : Extent) (index : Int) : Extent :=
  let missing := (index + 1).toNat - extent.count
  { extent with sizes := extent.sizes ++ List.replicate missing extent.default }

/-- The extent with a new entry before the one at `index`. -/
def insertAt (extent : Extent) (index : Nat) : Extent :=
  { extent with sizes := extent.sizes.insertIdx index extent.default }

/-- The extent without the entry at `index`. -/
def eraseAt (extent : Extent) (index : Nat) : Extent :=
  { extent with sizes := extent.sizes.eraseIdx index }

/-- The extent with one size for all entries, unless the size is below the
least. -/
def resized (extent : Extent) (least size : Int) : Extent :=
  if size < least then extent
  else { extent with sizes := extent.sizes.map fun _ => size }

end Extent

end Spreadsheet
