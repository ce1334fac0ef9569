import Spreadsheet.Address.CoordMap
import Spreadsheet.Failure

/-!
# The guard against cycles

While the formula of a cell is evaluated, the guard holds the cell's coordinate.
A cell that is asked for while the guard holds it depends on itself.  `during`
holds a coordinate for the time of one evaluation, however that ends.
-/

namespace Spreadsheet

/-- The coordinates whose formulas are under evaluation. -/
structure Guard where
  active : CoordMap Unit

/-- An evaluation that reads and changes the guard and may be left by an
escape. -/
abbrev Guarded := ExceptT Escape (StateM Guard)

namespace Guard

/-- No evaluation is going on. -/
def empty : Guard := ⟨.empty⟩

instance : Inhabited Guard := ⟨empty⟩

/-- Hold a coordinate. -/
def enter (guard : Guard) (c : Coord) : Guard :=
  ⟨guard.active.insert c ()⟩

/-- Hold a coordinate no longer, however often it has been entered. -/
def leave (guard : Guard) (c : Coord) : Guard :=
  ⟨guard.active.erase c⟩

/-- Whether a coordinate is held. -/
def contains (guard : Guard) (c : Coord) : Bool :=
  guard.active.contains c

/-- How many coordinates are held. -/
def size (guard : Guard) : Nat :=
  guard.active.size

/-- Hold a coordinate while an evaluation goes on, and no longer when it has
ended with a result or an escape. -/
def during {α : Type} (c : Coord) (inner : Guarded α) : Guarded α :=
  ExceptT.mk fun guard =>
    let ending := inner.run (guard.enter c)
    (ending.1, ending.2.leave c)

/-- The guard with the coordinates that it holds, row by row, unless one of them
has too many digits. -/
def description? (guard : Guard) : Option String := do
  let held ← guard.active.entries.mapM fun entry => entry.1.description?
  pure ("<CycleGuard active=[" ++ ", ".intercalate (held.map String.ofList) ++ "]>")

end Guard

end Spreadsheet
