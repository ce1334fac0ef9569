import Spreadsheet.Address.Coord

/-!
# Finite maps on coordinates

The texts of a grid and the set of cells under evaluation are finite maps whose
keys are coordinates.  Entries are kept in strictly increasing row-major order,
so each coordinate has at most one entry, listing the entries lists the cells
row by row, and two maps with the same entries in them are equal.
-/

namespace Spreadsheet

namespace Coord

theorem precedes_iff {a b : Coord} :
    a.precedes b = true ↔ a.row < b.row ∨ a.row = b.row ∧ a.col < b.col := by
  simp [precedes]

theorem precedes_trans {a b c : Coord} (first : a.precedes b = true)
    (second : b.precedes c = true) : a.precedes c = true := by
  rw [precedes_iff] at first second ⊢
  omega

theorem not_precedes_self (a : Coord) : ¬ a.precedes a = true := by
  rw [precedes_iff]
  omega

/-- Of two different coordinates one precedes the other. -/
theorem precedes_of_not {a b : Coord} (notBefore : ¬ a.precedes b = true)
    (different : a ≠ b) : b.precedes a = true := by
  rw [precedes_iff] at notBefore ⊢
  by_cases rows : a.row = b.row
  · have columns : a.col ≠ b.col := fun same => different (by
      cases a
      cases b
      simp_all)
    omega
  · omega

end Coord

/-- A map from finitely many coordinates to values. -/
structure CoordMap (α : Type) where
  entries : List (Coord × α)
  ordered : entries.Pairwise fun a b => a.1.precedes b.1 = true

namespace CoordMap

variable {α : Type}

/-- The map without entries. -/
def empty : CoordMap α := ⟨[], .nil⟩

instance : Inhabited (CoordMap α) := ⟨empty⟩

/-- Put an entry in its place in a list of entries. -/
def place (c : Coord) (value : α) : List (Coord × α) → List (Coord × α)
  | [] => [(c, value)]
  | entry :: rest =>
      if c.precedes entry.1 then (c, value) :: entry :: rest
      else if c = entry.1 then (c, value) :: rest
      else entry :: place c value rest

theorem mem_place {c : Coord} {value : α} {entries : List (Coord × α)}
    {entry : Coord × α} (member : entry ∈ place c value entries) :
    entry = (c, value) ∨ entry ∈ entries := by
  induction entries with
  | nil => simpa [place] using member
  | cons first rest inductionHypothesis =>
      rw [place] at member
      split at member
      · simpa using member
      · split at member
        · rcases List.mem_cons.mp member with same | later
          · exact .inl same
          · exact .inr (List.mem_cons_of_mem _ later)
        · rcases List.mem_cons.mp member with same | later
          · exact .inr (same ▸ List.mem_cons_self)
          · rcases inductionHypothesis later with new | old
            · exact .inl new
            · exact .inr (List.mem_cons_of_mem _ old)

theorem ordered_place {c : Coord} {value : α} {entries : List (Coord × α)}
    (ordered : entries.Pairwise fun a b => a.1.precedes b.1 = true) :
    (place c value entries).Pairwise fun a b => a.1.precedes b.1 = true := by
  induction entries with
  | nil => exact List.pairwise_singleton _ _
  | cons first rest inductionHypothesis =>
      have head := (List.pairwise_cons.mp ordered).1
      have tail := (List.pairwise_cons.mp ordered).2
      rw [place]
      split
      · next before =>
          refine List.pairwise_cons.mpr ⟨?_, ordered⟩
          intro entry member
          rcases List.mem_cons.mp member with same | later
          · exact same ▸ before
          · exact Coord.precedes_trans before (head entry later)
      · next notBefore =>
          split
          · next same =>
              refine List.pairwise_cons.mpr ⟨?_, tail⟩
              intro entry member
              exact same ▸ head entry member
          · next different =>
              refine List.pairwise_cons.mpr ⟨?_, inductionHypothesis tail⟩
              intro entry member
              rcases mem_place member with new | old
              · exact new ▸ Coord.precedes_of_not notBefore different
              · exact head entry old

/-- The map with a value at a coordinate, instead of the one there if any. -/
def insert (map : CoordMap α) (c : Coord) (value : α) : CoordMap α :=
  ⟨place c value map.entries, ordered_place map.ordered⟩

/-- The map without the entries that are not kept. -/
def filter (map : CoordMap α) (keep : Coord → Bool) : CoordMap α :=
  ⟨map.entries.filter fun entry => keep entry.1, map.ordered.filter _⟩

/-- The map without an entry at a coordinate. -/
def erase (map : CoordMap α) (c : Coord) : CoordMap α :=
  map.filter (· != c)

/-- The value at a coordinate. -/
def get? (map : CoordMap α) (c : Coord) : Option α :=
  (map.entries.find? fun entry => entry.1 == c).map Prod.snd

/-- Whether there is a value at a coordinate. -/
def contains (map : CoordMap α) (c : Coord) : Bool :=
  (map.get? c).isSome

/-- The number of entries. -/
def size (map : CoordMap α) : Nat :=
  map.entries.length

/-- The map with the given entries; of two at one coordinate it has the
first. -/
def ofEntries (entries : List (Coord × α)) : CoordMap α :=
  entries.foldr (fun entry map => map.insert entry.1 entry.2) empty

/-- The map with each entry at the coordinate that `move` takes it to, and
without those that `move` takes nowhere. -/
def rekey (map : CoordMap α) (move : Coord → Option Coord) : CoordMap α :=
  ofEntries (map.entries.filterMap fun entry =>
    (move entry.1).map fun target => (target, entry.2))

end CoordMap

end Spreadsheet
