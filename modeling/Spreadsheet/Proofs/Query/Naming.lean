import Spreadsheet.Proofs.Query.Run

/-!
# Asking for the same names

Two conversations may ask for the same names in the same order and go on alike with every
answer, though not in the same rooms.  Nobody who answers by the name alone can tell them
apart.  Counts can be further apart: one conversation asks what another asks and counts so
many more.
-/

namespace Spreadsheet

/-- Questions for the same name stand for one another, in whatever rooms. -/
def Likeness.naming : Likeness :=
  .of (fun _ name _ name' => name = name') False (fun _ => True) fun _ => trivial

namespace Query

variable {α β : Type}

theorem alike_naming (query : Query α) : Alike .naming query query := by
  induction query with
  | done result => exact .done result
  | fail failure => exact .fail ⟨rfl, trivial⟩
  | ask room name next inductionHypothesis => exact .ask rfl inductionHypothesis

section Alike

variable {query query' : Query α}

/-- Whoever answers by the name alone holds the same conversation, -/
theorem Alike.run_eq_of_naming {m : Type → Type} [Monad m] (alike : Alike .naming query query')
    (resolver : Text → m CellValue) :
    (query.run fun _ name => resolver name) = query'.run fun _ name => resolver name := by
  induction alike with
  | done result => rfl
  | fail related => rw [related.1]
  | cut impossible => exact impossible.elim
  | @ask _ _ name name' _ _ related _ inductionHypothesis =>
      obtain rfl : name = name' := related
      rw [run, run]
      exact congrArg _ (funext inductionHypothesis)

/-- and is asked for the same names. -/
theorem Alike.requests_eq_of_naming (alike : Alike .naming query query')
    (answers : Text → CellValue) : query.requests answers = query'.requests answers := by
  induction alike with
  | done result => rfl
  | fail related => rfl
  | cut impossible => exact impossible.elim
  | @ask _ _ name name' _ _ related _ inductionHypothesis =>
      obtain rfl : name = name' := related
      exact congrArg (name :: ·) (inductionHypothesis (answers name))

end Alike

/-- One item may be replaced by several that are folded in alike. -/
theorem Alike.foldlM_replace {γ : Type} {step : β → γ → Query β} {item : γ} {items : List γ}
    (alike : ∀ state, Alike .naming (step state item) (items.foldlM step state))
    (before after : List γ) (state : β) :
    Alike .naming ((before ++ item :: after).foldlM step state)
      ((before ++ items ++ after).foldlM step state) := by
  rw [List.append_assoc, List.foldlM_append, List.foldlM_append]
  refine (alike_naming _).bind fun next => ?_
  rw [List.foldlM_cons, List.foldlM_append]
  exact (alike next).bind fun _ => alike_naming _

/-! ## Counting more -/

variable {answers : Text → CellValue}

theorem requests_bind_of_ok {query : Query α} {rest : α → Query β} {result : α}
    (ends : query.outcome answers = .ok result) :
    (query >>= rest).requests answers =
      query.requests answers ++ (rest result).requests answers := by
  induction query with
  | done result' =>
      cases ends
      rfl
  | fail failure => cases ends
  | ask room name next inductionHypothesis =>
      exact congrArg (name :: ·) (inductionHypothesis (answers name) ends)

theorem requests_bind_of_error {query : Query α} {rest : α → Query β} {failure : Failure}
    (ends : query.outcome answers = .error failure) :
    (query >>= rest).requests answers = query.requests answers := by
  induction query with
  | done result => cases ends
  | fail failure' => rfl
  | ask room name next inductionHypothesis =>
      exact congrArg (name :: ·) (inductionHypothesis (answers name) ends)

theorem outcome_map (answers : Text → CellValue) (change : α → β) (query : Query α) :
    (change <$> query).outcome answers = change <$> query.outcome answers := by
  rw [map_eq_pure_bind, outcome_bind, map_eq_pure_bind]
  rfl

/-- The first conversation asks what the second one asks, fails as it does, and otherwise
counts so many more. -/
structure Ahead (answers : Text → CellValue) (more : Nat) (query query' : Query Nat) : Prop where
  requests : query.requests answers = query'.requests answers
  outcome : query.outcome answers = (· + more) <$> query'.outcome answers

theorem ahead_zero (query : Query Nat) : Ahead answers 0 query query where
  requests := rfl
  outcome := (LawfulFunctor.id_map _).symm

theorem ahead_map (more : Nat) (query : Query Nat) :
    Ahead answers more ((· + more) <$> query) query where
  requests := requests_map answers _ query
  outcome := outcome_map answers _ query

/-- They fail together, or both of them have counted. -/
theorem Ahead.outcome_cases {more : Nat} {query query' : Query Nat}
    (ahead : Ahead answers more query query') :
    (∃ failure, query.outcome answers = .error failure ∧
      query'.outcome answers = .error failure) ∨
    ∃ total, query.outcome answers = .ok (total + more) ∧
      query'.outcome answers = .ok total := by
  have ends := ahead.outcome
  cases ends' : query'.outcome answers with
  | error failure =>
      rw [ends'] at ends
      exact .inl ⟨failure, ends, rfl⟩
  | ok total =>
      rw [ends'] at ends
      exact .inr ⟨total, ends, rfl⟩

theorem Ahead.bind {more more' : Nat} {query query' : Query Nat} {rest rest' : Nat → Query Nat}
    (first : Ahead answers more query query')
    (second : ∀ total, Ahead answers more' (rest (total + more)) (rest' total)) :
    Ahead answers more' (query >>= rest) (query' >>= rest') := by
  rcases first.outcome_cases with ⟨failure, ends, ends'⟩ | ⟨total, ends, ends'⟩
  · constructor
    · rw [requests_bind_of_error ends, requests_bind_of_error ends', first.requests]
    · rw [outcome_bind_of_error ends, outcome_bind_of_error ends']
      rfl
  · constructor
    · rw [requests_bind_of_ok ends, requests_bind_of_ok ends', first.requests,
        (second total).requests]
    · rw [outcome_bind_of_ok ends, outcome_bind_of_ok ends', (second total).outcome]

/-- Ask for names, and add the answers of one kind to what has been counted. -/
def countAnswers (room : Nat) (kind : CellValue → Bool) (total : Nat) (names : List Text) :
    Query Nat :=
  names.foldlM (fun total name =>
    .ask room name fun answer => .done (if kind answer then total + 1 else total)) total

variable {room : Nat} {kind : CellValue → Bool} {total : Nat} {names : List Text}

theorem countAnswers_cons (room : Nat) (kind : CellValue → Bool) (total : Nat) (name : Text)
    (names : List Text) :
    countAnswers room kind total (name :: names) = .ask room name fun answer =>
      countAnswers room kind (if kind answer then total + 1 else total) names :=
  rfl

theorem requests_countAnswers :
    (countAnswers room kind total names).requests answers = names := by
  induction names generalizing total with
  | nil => rfl
  | cons name names inductionHypothesis =>
      rw [countAnswers_cons, requests, inductionHypothesis]

theorem outcome_countAnswers :
    (countAnswers room kind total names).outcome answers =
      .ok (total + names.countP fun name => kind (answers name)) := by
  induction names generalizing total with
  | nil => rfl
  | cons name names inductionHypothesis =>
      rw [countAnswers_cons]
      refine inductionHypothesis.trans ?_
      rw [List.countP_cons]
      cases kind (answers name) with
      | true => simp only [if_pos, Nat.add_assoc, Nat.add_comm 1]
      | false => rfl

theorem ahead_countAnswers {room' more : Nat} {kind' : CellValue → Bool}
    (counted : (names.countP fun name => kind (answers name)) =
      (names.countP fun name => kind' (answers name)) + more) :
    Ahead answers more (countAnswers room kind total names)
      (countAnswers room' kind' total names) where
  requests := by rw [requests_countAnswers, requests_countAnswers]
  outcome := by
    rw [outcome_countAnswers, outcome_countAnswers, counted, ← Nat.add_assoc]
    rfl

/-- A change of the state that every step carries through is carried through the list. -/
theorem foldlM_change {γ : Type} (change : α → β) {step : α → γ → Query α}
    {step' : β → γ → Query β}
    (carries : ∀ state item, step' (change state) item = change <$> step state item)
    (items : List γ) (state : α) :
    items.foldlM step' (change state) = change <$> items.foldlM step state := by
  induction items generalizing state with
  | nil => rfl
  | cons item items inductionHypothesis =>
      rw [List.foldlM_cons, List.foldlM_cons, carries, bind_map_left, map_bind]
      exact congrArg _ (funext inductionHypothesis)

end Query

end Spreadsheet
