import Spreadsheet.Address.CoordMap

/-!
# What a map on coordinates contains

Putting in an entry adds its coordinate and no other, and taking an entry out
again that was not there before gives the same map.
-/

namespace Spreadsheet.CoordMap

variable {α : Type} {map : CoordMap α} {c d : Coord}

theorem eq_of_entries {first second : CoordMap α} (same : first.entries = second.entries) :
    first = second := by
  cases first
  cases second
  simpa using same

theorem contains_iff : map.contains c = true ↔ ∃ value, (c, value) ∈ map.entries := by
  simp only [contains, get?, Option.isSome_map, List.find?_isSome, beq_iff_eq]
  constructor
  · rintro ⟨⟨_, value⟩, member, rfl⟩
    exact ⟨value, member⟩
  · rintro ⟨value, member⟩
    exact ⟨(c, value), member, rfl⟩

theorem mem_of_get? {value : α} (found : map.get? c = some value) :
    (c, value) ∈ map.entries := by
  obtain ⟨entry, lookup, rfl⟩ := Option.map_eq_some_iff.mp found
  have same : entry.1 = c := by simpa using List.find?_some lookup
  exact same ▸ List.mem_of_find?_eq_some lookup

theorem mem_place_self (c : Coord) (value : α) (entries : List (Coord × α)) :
    (c, value) ∈ place c value entries := by
  induction entries with
  | nil => exact List.mem_singleton_self _
  | cons first rest inductionHypothesis =>
      rw [place]
      split
      · exact List.mem_cons_self
      · split
        · exact List.mem_cons_self
        · exact List.mem_cons_of_mem _ inductionHypothesis

theorem mem_place_of_ne {value : α} {entries : List (Coord × α)} {entry : Coord × α}
    (member : entry ∈ entries) (different : entry.1 ≠ c) :
    entry ∈ place c value entries := by
  induction entries with
  | nil => exact absurd member List.not_mem_nil
  | cons first rest inductionHypothesis =>
      rw [place]
      split
      · exact List.mem_cons_of_mem _ member
      · split
        · next same =>
            rcases List.mem_cons.mp member with rfl | later
            · exact absurd same.symm different
            · exact List.mem_cons_of_mem _ later
        · rcases List.mem_cons.mp member with rfl | later
          · exact List.mem_cons_self
          · exact List.mem_cons_of_mem _ (inductionHypothesis later)

theorem contains_insert (map : CoordMap α) (c : Coord) (value : α) (d : Coord) :
    (map.insert c value).contains d = true ↔ d = c ∨ map.contains d = true := by
  simp only [contains_iff, insert]
  constructor
  · rintro ⟨found, member⟩
    rcases mem_place member with same | old
    · exact .inl (congrArg Prod.fst same)
    · exact .inr ⟨found, old⟩
  · rintro (rfl | ⟨found, member⟩)
    · exact ⟨value, mem_place_self d value map.entries⟩
    · by_cases same : d = c
      · exact ⟨value, same ▸ mem_place_self d value map.entries⟩
      · exact ⟨found, mem_place_of_ne member same⟩

theorem filter_place {value : α} {entries : List (Coord × α)}
    (absent : ∀ entry ∈ entries, entry.1 ≠ c) :
    (place c value entries).filter (fun entry => entry.1 != c) = entries := by
  induction entries with
  | nil => simp [place]
  | cons first rest inductionHypothesis =>
      have different := absent first List.mem_cons_self
      rw [place, if_neg (Ne.symm different)]
      split
      · rw [List.filter_cons_of_neg (by simp)]
        exact List.filter_eq_self.mpr fun entry member => by simpa using absent entry member
      · rw [List.filter_cons_of_pos (by simpa using different), inductionHypothesis]
        exact fun entry member => absent entry (List.mem_cons_of_mem first member)

/-- Taking out an entry that was not there before it was put in. -/
theorem erase_insert (absent : map.contains c = false) (value : α) :
    (map.insert c value).erase c = map := by
  apply eq_of_entries
  apply filter_place
  intro entry member same
  have held : map.contains c = true := contains_iff.mpr ⟨entry.2, same ▸ member⟩
  exact Bool.false_ne_true (absent.symm.trans held)

theorem contains_erase (map : CoordMap α) (c d : Coord) :
    (map.erase c).contains d = true ↔ d ≠ c ∧ map.contains d = true := by
  simp only [contains_iff, erase, filter, List.mem_filter, bne_iff_ne]
  constructor
  · rintro ⟨value, member, different⟩
    exact ⟨different, value, member⟩
  · rintro ⟨different, value, member⟩
    exact ⟨value, member, different⟩

end Spreadsheet.CoordMap
