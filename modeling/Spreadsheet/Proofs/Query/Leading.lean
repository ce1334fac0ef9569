import Spreadsheet.Proofs.Query.Run

/-!
# One conversation after another

Two conversations are held with the same answers.  The first one leads the second if the second
ends in a result wherever the first does, and the two results are related.  Nothing is said of
where the first one fails: the second may fail, too, or pass over what the first one fails for.
-/

namespace Spreadsheet.Query

variable {α β γ δ ι : Type} {answers : Text → CellValue}

/-- Where the first conversation ends in a result, the second one ends in a related result. -/
def Leads (answers : Text → CellValue) (related : α → β → Prop) (query : Query α)
    (query' : Query β) : Prop :=
  ∀ result, query.outcome answers = .ok result →
    ∃ result', query'.outcome answers = .ok result' ∧ related result result'

theorem leads_done {related : α → β → Prop} {result : α} {result' : β}
    (same : related result result') : Leads answers related (.done result) (.done result') := by
  rintro _ ⟨⟩
  exact ⟨result', rfl, same⟩

theorem leads_fail {related : α → β → Prop} (failure : Failure) (query : Query β) :
    Leads answers related (.fail failure) query :=
  fun _ impossible => nomatch impossible

theorem Leads.mono {related related' : α → β → Prop} {query : Query α} {query' : Query β}
    (leads : Leads answers related query query')
    (weaker : ∀ {result result'}, related result result' → related' result result') :
    Leads answers related' query query' := by
  intro result ends
  obtain ⟨result', ends', same⟩ := leads result ends
  exact ⟨result', ends', weaker same⟩

theorem Leads.bind {related : α → β → Prop} {after : γ → δ → Prop} {query : Query α}
    {query' : Query β} {rest : α → Query γ} {rest' : β → Query δ}
    (first : Leads answers related query query')
    (second : ∀ {result result'}, related result result' →
      Leads answers after (rest result) (rest' result')) :
    Leads answers after (query >>= rest) (query' >>= rest') := by
  intro final ends
  rw [outcome_bind] at ends
  cases middle : query.outcome answers with
  | error failure =>
      rw [middle] at ends
      cases ends
  | ok result =>
      rw [middle] at ends
      obtain ⟨result', middle', same⟩ := first result middle
      rw [outcome_bind, middle']
      exact second same final ends

theorem leads_bind {after : γ → δ → Prop} (query : Query α) {rest : α → Query γ}
    {rest' : α → Query δ} (second : ∀ result, Leads answers after (rest result) (rest' result)) :
    Leads answers after (query >>= rest) (query >>= rest') := by
  have first : Leads answers (· = ·) query query := fun result ends => ⟨result, ends, rfl⟩
  refine first.bind fun same => ?_
  rw [same]
  exact second _

theorem leads_within {related : α → β → Prop} {share room : Nat} {inner : Nat → Query α}
    {inner' : Nat → Query β} (leads : ∀ left, Leads answers related (inner left) (inner' left)) :
    Leads answers related (within share room inner) (within share room inner') := by
  by_cases fits : share ≤ room
  · rw [within_of_le fits, within_of_le fits]
    exact leads _
  · rw [within_of_lt (Nat.lt_of_not_le fits)]
    exact leads_fail _ _

/-- Going through items with states that are related, so much further with each item. -/
theorem Leads.foldlM {related : Nat → α → β → Prop} {step : α → ι → Query α}
    {step' : β → ι → Query β} {items : List ι}
    (leads : ∀ item {done state state'}, related done state state' →
      Leads answers (related (done + 1)) (step state item) (step' state' item))
    {done : Nat} {state : α} {state' : β} (start : related done state state') :
    Leads answers (related (done + items.length)) (items.foldlM step state)
      (items.foldlM step' state') := by
  induction items generalizing done state state' with
  | nil => exact leads_done start
  | cons item items inductionHypothesis =>
      rw [List.foldlM_cons, List.foldlM_cons, List.length_cons, Nat.add_comm items.length,
        ← Nat.add_assoc]
      exact (leads item start).bind inductionHypothesis

end Spreadsheet.Query
