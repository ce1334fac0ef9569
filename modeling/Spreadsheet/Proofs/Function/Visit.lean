import Spreadsheet.Proofs.Address.Rectangle
import Spreadsheet.Proofs.Function.Strict
import Spreadsheet.Proofs.Query.Run

/-!
# Going through the cells of a range

Going through a range is going through the list of its names, asking for one after the
other.  The names are read as the cells of the rectangle, in row-major order and each
once, and the items of the range are the answers in that order.
-/

namespace Spreadsheet

namespace Query

variable {names : List Text} {room : Nat}

theorem request_of_le (enough : Nesting.lookup ≤ room) (name : Text) :
    request room name = ask (room - Nesting.lookup) name done :=
  within_of_le enough _

/-- Asking for names hands each of them to whoever answers, -/
theorem run_mapM_request {m : Type → Type} [Monad m] [LawfulMonad m]
    (resolver : Nat → Text → m CellValue) (enough : Nesting.lookup ≤ room) :
    (names.mapM (request room)).run resolver =
      Except.ok <$> names.mapM (resolver (room - Nesting.lookup)) := by
  induction names with
  | nil =>
      rw [List.mapM_nil, List.mapM_nil, map_pure]
      rfl
  | cons name names inductionHypothesis =>
      rw [List.mapM_cons, List.mapM_cons, request_of_le enough, bind_ask, run, map_bind]
      refine congrArg _ (funext fun answer => ?_)
      rw [bind_done, ← map_eq_pure_bind, run_map, inductionHypothesis, ← map_eq_pure_bind,
        Functor.map_map, Functor.map_map]
      rfl

/-- once and in order. -/
theorem requests_mapM_request (answers : Text → CellValue) (enough : Nesting.lookup ≤ room) :
    (names.mapM (request room)).requests answers = names := by
  induction names with
  | nil => rfl
  | cons name names inductionHypothesis =>
      rw [List.mapM_cons, request_of_le enough, bind_ask, requests, bind_done, ← map_eq_pure_bind,
        requests_map, inductionHypothesis]

end Query

namespace Range

variable {β : Type} {range : Range}

theorem foldRow_eq_foldlM (room : Nat) (step : β → CellValue → Query β) (row column count : Nat)
    (state : β) :
    foldRow room step row column count state =
      ((rowCells row column count).map fun cell => Coord.nameOf cell.1 cell.2).foldlM
        (fun state name => Query.request room name >>= step state) state := by
  induction count generalizing column state with
  | zero => rfl
  | succ count inductionHypothesis =>
      rw [foldRow, rowCells, List.map_cons, List.foldlM_cons, Query.bind_assoc]
      simp only [inductionHypothesis]

theorem foldRows_eq_foldlM (range : Range) (room : Nat) (step : β → CellValue → Query β)
    (row count : Nat) (state : β) :
    range.foldRows room step row count state =
      ((range.cellsFrom row count).map fun cell => Coord.nameOf cell.1 cell.2).foldlM
        (fun state name => Query.request room name >>= step state) state := by
  induction count generalizing row state with
  | zero => rfl
  | succ count inductionHypothesis =>
      rw [foldRows, cellsFrom, List.map_append, List.foldlM_append, foldRow_eq_foldlM]
      simp only [inductionHypothesis]

/-- Going through the cells of a range is asking for their names one after the other. -/
theorem foldCells_eq_foldlM (range : Range) (room : Nat) (step : β → CellValue → Query β)
    (state : β) :
    range.foldCells room step state =
      range.names.foldlM (fun state name => Query.request room name >>= step state) state :=
  range.foldRows_eq_foldlM room step range.top range.height state

theorem length_names : range.names.length = range.coords.length := by
  rw [names, coords, List.length_map, List.length_map]

theorem length_names_pos : 0 < range.names.length := by
  rw [length_names, length_coords]
  exact Nat.mul_pos (Nat.succ_pos _) (Nat.succ_pos _)

theorem decode_names {text : Text} (written : ofText? text = .ok (some range)) :
    range.names.map Coord.decode = range.coords.map fun c => .ok (some c) := by
  rw [names, coords, List.map_map, List.map_map]
  refine List.map_congr_left fun cell inside => ?_
  have small := bottom_lt_of_ofText? written
  have bounds := (mem_cells.mp inside).1
  have short : (Text.ofNat (cell.1 + 1)).length ≤ Text.digitLimit :=
    (Text.length_ofNat_le_iff (by decide)).mpr (by omega)
  exact Coord.decode_of_name (Coord.name_of_short short)

end Range

/-- The items of a range are folded in as its names are answered. -/
theorem Call.foldItems_of_range {β : Type} {call : Call} {argument : Text} {range : Range}
    (written : Range.ofText? argument = .ok (some range)) (step : β → CellValue → Query β)
    (state : β) :
    call.foldItems step state argument = Query.within Nesting.items call.room fun rest =>
      range.names.foldlM (fun state name => Query.request rest name >>= step state) state := by
  cases argument with
  | nil => cases written
  | cons c argument =>
      rw [foldItems, within]
      simp only [List.isEmpty_cons, Bool.false_eq_true, if_false, range?, written,
        Query.bind_done, Range.foldCells_eq_foldlM]

namespace Registry

/-- The items of a range are what its names are answered with. -/
theorem items_of_range (functions : Registry) {room : Nat} {argument : Text} {range : Range}
    (written : Range.ofText? argument = .ok (some range)) (enough : Nesting.items ≤ room) :
    functions.items room argument =
      range.names.mapM (Query.request (room - Nesting.items)) := by
  rw [items, Call.foldItems_of_range written, bareCall, Query.within_of_le enough,
    List.mapM_eq_reverse_foldlM_cons]
  rfl

/-- Between references to two cells, whatever they look like, a range asks for the names of
the cells between the two, in row-major order and each once, and gives the answers in this
order.  It makes no difference which two opposite corners of the rectangle are written,
and which of them comes first. -/
theorem items_visit_rectangle (functions : Registry) {left right : Text} {first second : Coord}
    {room : Nat} (uncut : ':' ∉ left) (leftReads : Coord.decode left = .ok (some first))
    (rightReads : Coord.decode right = .ok (some second))
    (enough : Nesting.items + Nesting.lookup ≤ room) :
    ∃ (names : List Text) (coords : List Coord),
      names.map Coord.decode = coords.map (fun c => .ok (some c)) ∧
      coords.Pairwise (fun a b => a.precedes b = true) ∧
      (∀ c, c ∈ coords ↔ Coord.Between first second c) ∧
      names.length =
        ((first.row - second.row).natAbs + 1) * ((first.col - second.col).natAbs + 1) ∧
      ∀ (left' right' : Text) (first' second' : Coord), ':' ∉ left' →
        Coord.decode left' = .ok (some first') → Coord.decode right' = .ok (some second') →
        Coord.Opposite first second first' second' →
          (∀ (m : Type → Type) [Monad m] [LawfulMonad m] (resolver : Nat → Text → m CellValue),
            (functions.items room (left' ++ ':' :: right')).run resolver =
              Except.ok <$> names.mapM (resolver (room - Nesting.items - Nesting.lookup))) ∧
          ∀ answers : Text → CellValue,
            (functions.items room (left' ++ ':' :: right')).requests answers = names ∧
            (functions.items room (left' ++ ':' :: right')).outcome answers =
              .ok (names.map answers) := by
  have written := Range.ofText?_of_decode uncut leftReads rightReads
  obtain ⟨firstRow, firstColumn⟩ := Coord.nonneg_of_decode leftReads
  obtain ⟨secondRow, secondColumn⟩ := Coord.nonneg_of_decode rightReads
  have rows := And.intro firstRow secondRow
  have columns := And.intro firstColumn secondColumn
  have rest : Nesting.lookup ≤ room - Nesting.items := by omega
  refine ⟨(Range.between first second).names, (Range.between first second).coords,
    Range.decode_names written, Range.coords_ordered,
    fun _ => Range.mem_coords_between rows columns, ?_, ?_⟩
  · rw [Range.length_names, Range.length_coords_between rows columns]
  · intro left' right' first' second' uncut' leftReads' rightReads' opposite
    have written' := Range.ofText?_of_decode uncut' leftReads' rightReads'
    rw [Range.between_of_opposite opposite] at written'
    rw [functions.items_of_range written' (by omega)]
    refine ⟨fun m _ _ resolver => Query.run_mapM_request resolver rest, fun answers => ?_⟩
    refine ⟨Query.requests_mapM_request answers rest, ?_⟩
    rw [Query.outcome, Query.run_mapM_request (m := Id) _ rest]
    exact congrArg Except.ok List.idRun_mapM

/-- Three rows of two columns, written from one corner and from another. -/
theorem items_visit_rectangle_decorated :
    ∃ names : List Text, names.length = 6 ∧ ∀ answers : Text → CellValue,
      (builtins.items 5 " x!$b$003:A1".toList).requests answers = names ∧
      (builtins.items 5 "A3:b1".toList).requests answers = names ∧
      (builtins.items 5 "A3:b1".toList).outcome answers = .ok (names.map answers) := by
  have last : Coord.decode " x!$b$003".toList = .ok (some ⟨2, 1⟩) := by decide +kernel
  have first : Coord.decode "A1".toList = .ok (some ⟨0, 0⟩) := by decide +kernel
  have lower : Coord.decode "A3".toList = .ok (some ⟨2, 0⟩) := by decide +kernel
  have upper : Coord.decode "b1".toList = .ok (some ⟨0, 1⟩) := by decide +kernel
  obtain ⟨names, coords, -, -, -, length, visits⟩ :=
    builtins.items_visit_rectangle (by decide) last first
      (show Nesting.items + Nesting.lookup ≤ 5 by decide)
  refine ⟨names, length, fun answers => ?_⟩
  obtain ⟨-, given⟩ := visits _ _ _ _ (by decide) last first ⟨.inl ⟨rfl, rfl⟩, .inl ⟨rfl, rfl⟩⟩
  obtain ⟨-, other⟩ :=
    visits _ _ _ _ (by decide) lower upper ⟨.inl ⟨rfl, rfl⟩, .inr ⟨rfl, rfl⟩⟩
  exact ⟨(given answers).1, other answers⟩

end Registry

end Spreadsheet
