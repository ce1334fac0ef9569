import Spreadsheet.Grid.Display

/-!
# Operations one after another

Everything that changes a grid is one of a few operations.  An operation may be
refused; the grid then is as it was, but for a bulk write, which keeps what it has
written before the refusal.  A run goes on after a refusal.
-/

namespace Spreadsheet

/-- What can be done to a grid. -/
inductive Operation where
  | setCell (c : Coord) (text : Text)
  | clearCell (c : Coord)
  /-- Read a cell, after storing a value there if one is given. -/
  | access (c : Coord) (value : Option HostValue)
  /-- Store a value in the cell that a key names, or clear it. -/
  | setKey (key : Text) (value : Option HostValue)
  | append (values : List (Option HostValue))
  | writeRows (row column : Int) (block : List (List (Option HostValue)))
  /-- Have a row or column at `index`. -/
  | extend (axis : Axis) (index : Int)
  | resizeAll (axis : Axis) (size : Int)
  | insertAt (axis : Axis) (index : Int)
  | removeAt (axis : Axis) (index : Int)

namespace Operation

variable {σ τ : Type}

/-- The state after an operation that changes nothing when it is refused, and the
refusal. -/
def settle (before : σ) : Except GridError σ → σ × Option GridError
  | .ok changed => (changed, none)
  | .error refusal => (before, some refusal)

/-- The state after operations, whose effects `perform` gives, and what each of them
was refused for. -/
def run (perform : σ → Operation → σ × Option GridError) (state : σ) :
    List Operation → σ × List (Option GridError)
  | [] => (state, [])
  | operation :: rest =>
      let (changed, refusal) := perform state operation
      let (final, refusals) := run perform changed rest
      (final, refusal :: refusals)

/-- Two states that fit still fit after a run, with the same refusals, if they do so
after each operation. -/
theorem run_related {Fits : σ → τ → Prop} {perform : σ → Operation → σ × Option GridError}
    {perform' : τ → Operation → τ × Option GridError}
    (step : ∀ {state state'}, Fits state state' → ∀ operation,
      Fits (perform state operation).1 (perform' state' operation).1 ∧
        (perform state operation).2 = (perform' state' operation).2)
    {state : σ} {state' : τ} (fits : Fits state state') (operations : List Operation) :
    Fits (run perform state operations).1 (run perform' state' operations).1 ∧
      (run perform state operations).2 = (run perform' state' operations).2 := by
  induction operations generalizing state state' with
  | nil => exact ⟨fits, rfl⟩
  | cons operation rest inductionHypothesis =>
      obtain ⟨fitsNext, sameRefusal⟩ := step fits operation
      obtain ⟨fitsFinal, sameRefusals⟩ := inductionHypothesis fitsNext
      exact ⟨fitsFinal, List.cons_eq_cons.mpr ⟨sameRefusal, sameRefusals⟩⟩

end Operation

namespace Grid

/-- The grid after an operation, and what the operation was refused for. -/
def perform (grid : Grid) : Operation → Grid × Option GridError
  | .setCell c text => Operation.settle grid (grid.setCell c text)
  | .clearCell c => (grid.clearCell c, none)
  | .access c value => Operation.settle grid (Prod.fst <$> grid.access c value)
  | .setKey key value => Operation.settle grid (grid.setKey key value)
  | .append values => grid.append values
  | .writeRows row column block => grid.writeRows row column block
  | .extend axis index => (grid.including axis index, none)
  | .resizeAll axis size => (grid.resizeAll axis size, none)
  | .insertAt axis index => (grid.insertAt axis index, none)
  | .removeAt axis index => Operation.settle grid (grid.removeAt axis index)

/-- A grid without texts, with functions of its own. -/
def blank (rows columns width height : Int) (functions : Registry) : Grid :=
  { new rows columns width height with functions := functions }

/-- What a grid can become: made blank, changed by operations, refused ones among
them, and given host functions. -/
inductive Reachable : Grid → Prop
  | blank (rows columns width height : Int) (functions : Registry) :
      Reachable (blank rows columns width height functions)
  | performed {grid : Grid} (reached : Reachable grid) (operation : Operation) :
      Reachable (grid.perform operation).1
  | registered {grid extended : Grid} {name : Text} {body : FunctionBody}
      (reached : Reachable grid) (taken : grid.register? name body = some extended) :
      Reachable extended

/-! ## Writing in bulk, one value after another -/

theorem rowWrites_cons (row column : Int) (value : Option HostValue)
    (values : List (Option HostValue)) :
    rowWrites row column (value :: values) =
      (value.map fun value => (⟨row, column⟩, value)).toList ++
        rowWrites row (column + 1) values := by
  have moved : ∀ offset : Nat, column + ((offset + 1 : Nat) : Int) = column + 1 + offset := by
    intro offset
    omega
  rw [rowWrites, rowWrites, List.zipIdx_cons, List.zipIdx_succ, List.filterMap_cons,
    List.filterMap_map]
  simp only [Function.comp_def, moved]
  cases value <;> simp

theorem blockWrites_cons (row column : Int) (values : List (Option HostValue))
    (block : List (List (Option HostValue))) :
    blockWrites row column (values :: block) =
      rowWrites row column values ++ blockWrites (row + 1) column block := by
  have moved : ∀ offset : Nat, row + ((offset + 1 : Nat) : Int) = row + 1 + offset := by
    intro offset
    omega
  rw [blockWrites, blockWrites, List.zipIdx_cons, List.zipIdx_succ, List.flatMap_cons,
    List.flatMap_map]
  simp only [moved, Int.natCast_zero, Int.add_zero]

theorem writeAll_append (grid : Grid) (first second : List (Coord × HostValue)) :
    grid.writeAll (first ++ second) =
      match grid.writeAll first with
      | (written, none) => written.writeAll second
      | refused => refused := by
  induction first generalizing grid with
  | nil => rfl
  | cons write rest inductionHypothesis =>
      rw [List.cons_append, writeAll, writeAll]
      cases grid.put write.1 write.2 with
      | ok written => exact inductionHypothesis written
      | error refusal => rfl

end Grid

end Spreadsheet
