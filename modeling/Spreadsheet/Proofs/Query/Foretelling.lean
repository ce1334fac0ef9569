import Spreadsheet.Proofs.Query.Wording

/-!
# Failures that are settled

Two conversations are held with the same answers, and the second one may go on where the first
one has come to its end.  The first one foretells the second if a failure of the first one is
a failure of both, wherever it shows more than that something is wrong with the formula: such a
failure is settled by what both have in common.
-/

namespace Spreadsheet.Query

variable {α β γ δ : Type}

/-- Whoever answers, where the first conversation fails for a cause that has another code than
`#ERR`, the second one fails for the same cause and leaves the same state.  A record of what has
been asked may be part of the state. -/
def Foretells (query : Query α) (query' : Query β) : Prop :=
  ∀ (ε σ : Type) (resolver : Nat → Text → ExceptT ε (StateM σ) CellValue) (state after : σ)
    (cause : Cause), cause.code ≠ .err →
      query.hold resolver state = (.ok (.error (.error cause)), after) →
        query'.hold resolver state = (.ok (.error (.error cause)), after)

theorem Foretells.refl (query : Query α) : Foretells query query :=
  fun _ _ _ _ _ _ _ fails => fails

theorem Foretells.trans {query : Query α} {query' : Query β} {query'' : Query γ}
    (first : Foretells query query') (second : Foretells query' query'') :
    Foretells query query'' :=
  fun ε σ resolver state after cause telling fails =>
    second ε σ resolver state after cause telling
      (first ε σ resolver state after cause telling fails)

/-- A result foretells nothing, -/
theorem foretells_done (result : α) (query : Query β) : Foretells (.done result) query := by
  intro ε σ resolver state after cause telling fails
  cases fails

/-- and neither does a failure that shows `#ERR`. -/
theorem foretells_error {cause : Cause} (general : cause.code = .err) (query : Query β) :
    Foretells (error cause : Query α) query := by
  intro ε σ resolver state after cause' telling fails
  cases fails
  exact absurd general telling

theorem Foretells.bind (first : Query α) {rest : α → Query β} {rest' : α → Query γ}
    (second : ∀ result, Foretells (rest result) (rest' result)) :
    Foretells (first >>= rest) (first >>= rest') := by
  intro ε σ resolver state after cause telling fails
  rw [hold_bind] at fails ⊢
  rcases held : first.hold resolver state with ⟨escape | failure | result, between⟩
  · rw [held] at fails
    cases fails
  · rw [held] at fails
    cases fails
    rfl
  · rw [held] at fails
    exact second result ε σ resolver between after cause telling fails

theorem foretells_bind (query : Query α) (rest : α → Query β) :
    Foretells query (query >>= rest) := by
  have begins := Foretells.bind query fun result => foretells_done result (rest result)
  rwa [show (query >>= fun result => .done result) = query from bind_pure query] at begins

/-- What is done with a result makes no difference if it does not fail with a code of its
own. -/
theorem bind_foretells (query : Query α) {rest : α → Query β}
    (plain : ∀ result, Foretells (rest result) (pure result : Query α)) :
    Foretells (query >>= rest) query := by
  have ends := Foretells.bind query plain
  rwa [bind_pure] at ends

theorem Foretells.within {share room : Nat} {inner : Nat → Query α} {inner' : Nat → Query β}
    (foretells : ∀ left, Foretells (inner left) (inner' left)) :
    Foretells (within share room inner) (within share room inner') := by
  by_cases fits : share ≤ room
  · rw [within_of_le fits, within_of_le fits]
    exact foretells _
  · rw [within_of_lt (Nat.lt_of_not_le fits)]
    intro ε σ resolver state after cause telling fails
    cases fails

end Spreadsheet.Query
