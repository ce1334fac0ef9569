import Mathlib.Data.List.Sort
import Spreadsheet.Proofs.Address.CoordMap

/-!
# The entries of a map on coordinates

What is found at a coordinate is what its one entry says.  Moving the entries by a
function that keeps their order moves the list of entries as it stands: none is
lost, and no two come together.
-/

namespace Spreadsheet

/-- A move of coordinates keeps the row-major order of those that it takes
somewhere. -/
def Coord.KeepsOrder (move : Coord → Option Coord) : Prop :=
  ∀ {a b c d : Coord}, a.precedes b = true → move a = some c → move b = some d →
    c.precedes d = true

namespace CoordMap

variable {α : Type} {map first second : CoordMap α} {entries others : List (Coord × α)}
  {c d : Coord} {value : α} {move next : Coord → Option Coord}

/-- Entries in strictly increasing order. -/
abbrev Ordered (entries : List (Coord × α)) : Prop :=
  entries.Pairwise fun a b => a.1.precedes b.1 = true

/-! ## Looking up -/

theorem eq_of_mem (ordered : Ordered entries) {a b : Coord × α} (memberA : a ∈ entries)
    (memberB : b ∈ entries) (same : a.1 = b.1) : a = b := by
  induction entries with
  | nil => exact absurd memberA List.not_mem_nil
  | cons entry rest inductionHypothesis =>
      have ⟨head, tail⟩ := List.pairwise_cons.mp ordered
      rcases List.mem_cons.mp memberA with rfl | laterA
      · rcases List.mem_cons.mp memberB with rfl | laterB
        · rfl
        · exact absurd (same ▸ head b laterB) (Coord.not_precedes_self _)
      · rcases List.mem_cons.mp memberB with rfl | laterB
        · exact absurd (same ▸ head a laterA) (Coord.not_precedes_self _)
        · exact inductionHypothesis tail laterA laterB

theorem get?_eq_some_iff : map.get? c = some value ↔ (c, value) ∈ map.entries := by
  constructor
  · exact mem_of_get?
  · intro member
    cases found : map.get? c with
    | none =>
        have held : map.contains c = true := contains_iff.mpr ⟨value, member⟩
        rw [contains, found] at held
        cases held
    | some other =>
        have same := eq_of_mem map.ordered (mem_of_get? found) member rfl
        exact congrArg (fun entry => some entry.2) same

theorem entries_ext (ordered : Ordered entries) (ordered' : Ordered others)
    (same : ∀ entry, entry ∈ entries ↔ entry ∈ others) : entries = others := by
  have irreflexive : Std.Irrefl fun a b : Coord × α => a.1.precedes b.1 = true :=
    ⟨fun a => Coord.not_precedes_self a.1⟩
  have antisymmetric : Std.Antisymm fun a b : Coord × α => a.1.precedes b.1 = true :=
    ⟨fun a _ before behind =>
      absurd (Coord.precedes_trans before behind) (Coord.not_precedes_self a.1)⟩
  exact List.Pairwise.eq_of_mem_iff ordered ordered' same

theorem get?_insert (map : CoordMap α) (c : Coord) (value : α) (d : Coord) :
    (map.insert c value).get? d = if d = c then some value else map.get? d := by
  split
  · next same =>
      subst same
      exact get?_eq_some_iff.mpr (mem_place_self d value map.entries)
  · next different =>
      apply Option.ext
      intro found
      rw [get?_eq_some_iff, get?_eq_some_iff, insert]
      constructor
      · intro member
        rcases mem_place member with same | old
        · exact absurd (congrArg Prod.fst same) different
        · exact old
      · exact fun member => mem_place_of_ne member different

theorem get?_erase (map : CoordMap α) (c d : Coord) :
    (map.erase c).get? d = if d = c then none else map.get? d := by
  apply Option.ext
  intro found
  rw [get?_eq_some_iff, erase, filter, List.mem_filter, ← get?_eq_some_iff, bne_iff_ne]
  split
  · next same => simp [same]
  · next different => simp [different]

/-! ## Moving entries -/

theorem entries_ofEntries (ordered : Ordered entries) :
    (ofEntries entries).entries = entries := by
  induction entries with
  | nil => rfl
  | cons entry rest inductionHypothesis =>
      have ⟨head, tail⟩ := List.pairwise_cons.mp ordered
      have inserted : (ofEntries (entry :: rest)).entries =
          place entry.1 entry.2 (ofEntries rest).entries := rfl
      rw [inserted, inductionHypothesis tail]
      cases rest with
      | nil => rfl
      | cons next rest => rw [place, if_pos (head next List.mem_cons_self)]

/-- A move that keeps the order moves the list of entries as it stands. -/
theorem entries_rekey (keeps : Coord.KeepsOrder move) (map : CoordMap α) :
    (map.rekey move).entries = map.entries.filterMap fun entry =>
      (move entry.1).map fun target => (target, entry.2) := by
  apply entries_ofEntries
  apply map.ordered.filterMap
  intro a b before c movedA d movedB
  obtain ⟨targetA, foundA, rfl⟩ := Option.map_eq_some_iff.mp movedA
  obtain ⟨targetB, foundB, rfl⟩ := Option.map_eq_some_iff.mp movedB
  exact keeps before foundA foundB

/-- After a move the same is found as before at the coordinate moved. -/
theorem get?_rekey_eq_some_iff (keeps : Coord.KeepsOrder move) :
    (map.rekey move).get? d = some value ↔ ∃ c, move c = some d ∧ map.get? c = some value := by
  rw [get?_eq_some_iff, entries_rekey keeps, List.mem_filterMap]
  constructor
  · rintro ⟨⟨c, other⟩, member, moved⟩
    obtain ⟨target, found, same⟩ := Option.map_eq_some_iff.mp moved
    cases same
    exact ⟨c, found, get?_eq_some_iff.mpr member⟩
  · rintro ⟨c, moved, found⟩
    exact ⟨(c, value), get?_eq_some_iff.mp found, by rw [moved]; rfl⟩

/-- Entries are moved one move after the other as they are by both at once. -/
theorem rekey_rekey (keeps : Coord.KeepsOrder move) (keepsNext : Coord.KeepsOrder next)
    (map : CoordMap α) :
    (map.rekey move).rekey next = map.rekey fun c => (move c).bind next := by
  have keepsBoth : Coord.KeepsOrder fun c => (move c).bind next := by
    intro a b c d before movedA movedB
    obtain ⟨betweenA, toA, endA⟩ := Option.bind_eq_some_iff.mp movedA
    obtain ⟨betweenB, toB, endB⟩ := Option.bind_eq_some_iff.mp movedB
    exact keepsNext (keeps before toA toB) endA endB
  apply eq_of_entries
  rw [entries_rekey keepsNext, entries_rekey keeps, entries_rekey keepsBoth,
    List.filterMap_filterMap]
  apply List.filterMap_congr
  intro entry _
  cases move entry.1 <;> rfl

/-- Only the coordinates of entries are moved. -/
theorem rekey_congr (same : ∀ c, map.contains c = true → move c = next c) :
    map.rekey move = map.rekey next := by
  have entries : (map.entries.filterMap fun entry =>
      (move entry.1).map fun target => (target, entry.2)) =
        map.entries.filterMap fun entry =>
          (next entry.1).map fun target => (target, entry.2) := by
    apply List.filterMap_congr
    intro entry member
    rw [same entry.1 (contains_iff.mpr ⟨entry.2, member⟩)]
  rw [rekey, rekey, entries]

theorem rekey_eq_self (stays : ∀ c, map.contains c = true → move c = some c) :
    map.rekey move = map := by
  have keeps : Coord.KeepsOrder some := by
    intro a b c d before movedA movedB
    cases movedA
    cases movedB
    exact before
  rw [rekey_congr stays]
  apply eq_of_entries
  rw [entries_rekey keeps]
  exact List.filterMap_some

end CoordMap

end Spreadsheet
