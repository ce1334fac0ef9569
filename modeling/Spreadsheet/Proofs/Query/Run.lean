import Spreadsheet.Grid.Guard
import Spreadsheet.Proofs.Query.Alike

/-!
# Holding a conversation

A conversation is held with somebody who answers.  Here the answers may change
the guard and may be escapes.  What the conversation comes to ask for, and what
the guard is at that moment, is `Query.Asks`; an answerer who leaves the guard as
it was leaves it so for the whole conversation.
-/

namespace Spreadsheet

namespace Guarded

variable {α β : Type} {first : Guarded α} {rest : α → Guarded β} {guard after : Guard}

/-- An evaluation goes on from a result with the guard that it finds, -/
theorem run_bind_of_ok {result : α} (ended : first.run guard = (.ok result, after)) :
    (first >>= rest).run guard = (rest result).run after := by
  change ExceptT.bindCont rest (first.run guard).1 (first.run guard).2 = _
  rw [ended]
  rfl

/-- and an escape leaves all of it. -/
theorem run_bind_of_error {escape : Escape} (escaped : first.run guard = (.error escape, after)) :
    (first >>= rest).run guard = (.error escape, after) := by
  change ExceptT.bindCont rest (first.run guard).1 (first.run guard).2 = _
  rw [escaped]
  rfl

end Guarded

namespace Query

variable {α : Type}

theorem within_of_le {share room : Nat} (fits : share ≤ room) (inner : Nat → Query α) :
    within share room inner = inner (room - share) :=
  if_pos fits

theorem within_of_lt {share room : Nat} (full : room < share) (inner : Nat → Query α) :
    within share room inner = .fail .tooDeep :=
  if_neg (Nat.not_le_of_lt full)

theorem within_within (share share' room : Nat) (inner : Nat → Query α) :
    within share room (fun left => within share' left inner) =
      within (share + share') room inner := by
  by_cases fits : share + share' ≤ room
  · rw [within_of_le fits, within_of_le (by omega), within_of_le (by omega), Nat.sub_sub]
  · rw [within_of_lt (Nat.lt_of_not_le fits), within]
    split
    next => exact within_of_lt (by omega) inner
    next => rfl

/-- Only what is done where there is room matters. -/
theorem within_congr {share room : Nat} {inner inner' : Nat → Query α}
    (same : share ≤ room → inner (room - share) = inner' (room - share)) :
    within share room inner = within share room inner' := by
  rw [within, within]
  split
  next fits => exact same fits
  next => rfl

theorem within_bind {β : Type} (share room : Nat) (inner : Nat → Query α) (rest : α → Query β) :
    within share room inner >>= rest = within share room fun left => inner left >>= rest := by
  rw [within, within]
  split
  · rfl
  · rfl

theorem within_map {β : Type} (share room : Nat) (change : α → β) (inner : Nat → Query α) :
    change <$> within share room inner = within share room fun left => change <$> inner left :=
  within_bind share room inner fun result => pure (change result)

/-- Answerers who agree on all that may be asked hold the same conversation. -/
theorem run_congr {m : Type → Type} [Monad m] {resolver resolver' : Nat → Text → m CellValue}
    {failing : Failure → Prop} {query : Query α}
    (same : query.Always (fun room name => resolver room name = resolver' room name) failing) :
    query.run resolver = query.run resolver' := by
  induction query with
  | done result => rfl
  | fail failure => rfl
  | ask room name next inductionHypothesis =>
      rw [run, run, same.1]
      exact congrArg _ (funext fun answer => inductionHypothesis answer (same.2 answer))

theorem run_bind {m : Type → Type} [Monad m] [LawfulMonad m] {β : Type}
    (resolver : Nat → Text → m CellValue) (query : Query α) (rest : α → Query β) :
    ExceptT.mk ((query >>= rest).run resolver) = ExceptT.mk (query.run resolver) >>=
      fun result => ExceptT.mk ((rest result).run resolver) := by
  apply ExceptT.ext
  rw [ExceptT.run_bind]
  induction query with
  | done result => simp [run]
  | fail failure => simp [run]
  | ask room name next inductionHypothesis =>
      rw [bind_ask]
      simp only [ExceptT.run_mk, run, LawfulMonad.bind_assoc] at inductionHypothesis ⊢
      congr 1
      funext answer
      exact inductionHypothesis answer

theorem outcome_bind {β : Type} (answers : Text → CellValue) (query : Query α)
    (rest : α → Query β) :
    (query >>= rest).outcome answers =
      query.outcome answers >>= fun result => (rest result).outcome answers := by
  induction query with
  | done result => rfl
  | fail failure => rfl
  | ask room name next inductionHypothesis => exact inductionHypothesis (answers name)

/-- How a conversation ends in a room is how it ends where there is room. -/
theorem outcome_within_congr {answers : Text → CellValue} {share room : Nat}
    {inner inner' : Nat → Query α} (same : share ≤ room →
      (inner (room - share)).outcome answers = (inner' (room - share)).outcome answers) :
    (within share room inner).outcome answers = (within share room inner').outcome answers := by
  rw [within, within]
  split
  next fits => exact same fits
  next => rfl

theorem outcome_bind_of_ok {β : Type} {answers : Text → CellValue} {query : Query α}
    {rest : α → Query β} {result : α} (ends : query.outcome answers = .ok result) :
    (query >>= rest).outcome answers = (rest result).outcome answers := by
  rw [outcome_bind, ends]
  rfl

theorem outcome_bind_of_error {β : Type} {answers : Text → CellValue} {query : Query α}
    {rest : α → Query β} {failure : Failure} (ends : query.outcome answers = .error failure) :
    (query >>= rest).outcome answers = .error failure := by
  rw [outcome_bind, ends]
  rfl

theorem run_map {m : Type → Type} [Monad m] [LawfulMonad m] {β : Type}
    (resolver : Nat → Text → m CellValue) (change : α → β) (query : Query α) :
    (change <$> query).run resolver = Except.map change <$> query.run resolver := by
  induction query with
  | done result =>
      rw [run, map_pure]
      rfl
  | fail failure =>
      rw [run, map_pure]
      rfl
  | ask room name next inductionHypothesis =>
      rw [run, map_bind]
      exact congrArg _ (funext inductionHypothesis)

theorem requests_map {β : Type} (answers : Text → CellValue) (change : α → β)
    (query : Query α) : (change <$> query).requests answers = query.requests answers := by
  induction query with
  | done result => rfl
  | fail failure => rfl
  | ask room name next inductionHypothesis =>
      exact congrArg (name :: ·) (inductionHypothesis (answers name))

section Guarded

variable {resolver : Nat → Text → Guarded CellValue} {query : Query α}
  {room room' : Nat} {name name' : Text} {guard guard' guard'' : Guard}

theorem run_ask (resolver : Nat → Text → Guarded CellValue) (room : Nat) (name : Text)
    (next : CellValue → Query α) (guard : Guard) :
    ((ask room name next).run resolver).run guard =
      match (resolver room name).run guard with
      | (.ok answer, after) => ((next answer).run resolver).run after
      | (.error escape, after) => (.error escape, after) := by
  rw [run]
  rcases answered : (resolver room name).run guard with ⟨escape | answer, after⟩
  · exact Guarded.run_bind_of_error answered
  · exact Guarded.run_bind_of_ok answered

/-- Held with `resolver` from `guard` on, the conversation comes to ask for
`name` in `room`, and then the guard is `guard'`. -/
inductive Asks (resolver : Nat → Text → Guarded CellValue) :
    Query α → Guard → Nat → Text → Guard → Prop where
  | now (room : Nat) (name : Text) (next : CellValue → Query α) (guard : Guard) :
      Asks resolver (.ask room name next) guard room name guard
  | later {room room' : Nat} {name name' : Text} {next : CellValue → Query α}
      {guard guard' guard'' : Guard} {answer : CellValue}
      (answered : (resolver room name).run guard = (.ok answer, guard'))
      (asks : Asks resolver (next answer) guard' room' name' guard'') :
      Asks resolver (.ask room name next) guard room' name' guard''

/-- What is asked is among what may be asked. -/
theorem Asks.of_always {asking : Nat → Text → Prop} {failing : Failure → Prop}
    (asks : query.Asks resolver guard room name guard')
    (always : query.Always asking failing) : asking room name := by
  induction asks with
  | now room name next guard => exact always.1
  | later _ _ inductionHypothesis => exact inductionHypothesis (always.2 _)

/-- A conversation that is held to its end ends in a failure of its kind. -/
theorem Always.ending {asking : Nat → Text → Prop} {failing : Failure → Prop}
    {failure : Failure} (always : query.Always asking failing)
    (ends : ((query.run resolver).run guard).1 = .ok (.error failure)) :
    failing failure := by
  induction query generalizing guard with
  | done result => cases ends
  | fail failure => cases ends; exact always
  | ask room name next inductionHypothesis =>
      rw [run_ask] at ends
      rcases answered : (resolver room name).run guard with ⟨escape | answer, after⟩
      · rw [answered] at ends
        cases ends
      · rw [answered] at ends
        exact inductionHypothesis answer (always.2 answer) ends

/-- An escape leaves a conversation where an answer was asked for. -/
theorem run_eq_error_iff {escape : Escape} :
    ((query.run resolver).run guard).1 = .error escape ↔
      ∃ room name guard', query.Asks resolver guard room name guard' ∧
        ((resolver room name).run guard').1 = .error escape := by
  induction query generalizing guard with
  | done result =>
      constructor
      · intro impossible
        cases impossible
      · rintro ⟨_, _, _, asks, _⟩
        cases asks
  | fail failure =>
      constructor
      · intro impossible
        cases impossible
      · rintro ⟨_, _, _, asks, _⟩
        cases asks
  | ask room name next inductionHypothesis =>
      rw [run_ask]
      rcases answered : (resolver room name).run guard with ⟨caught | answer, after⟩
      · constructor
        · intro same
          cases same
          exact ⟨room, name, guard, .now _ _ _ _, by rw [answered]⟩
        · rintro ⟨_, _, _, asks, escapes⟩
          cases asks with
          | now =>
              rw [answered] at escapes
              cases escapes
              rfl
          | later other _ => cases answered.symm.trans other
      · apply (inductionHypothesis answer).trans
        constructor
        · rintro ⟨room', name', guard', asks, escapes⟩
          exact ⟨room', name', guard', .later answered asks, escapes⟩
        · rintro ⟨room', name', guard', asks, escapes⟩
          cases asks with
          | now =>
              rw [answered] at escapes
              cases escapes
          | later other asks =>
              cases answered.symm.trans other
              exact ⟨room', name', guard', asks, escapes⟩

/-- An answerer leaves the guard as it was. -/
def Restores (resolver : Nat → Text → Guarded CellValue) : Prop :=
  ∀ room name guard, ((resolver room name).run guard).2 = guard

variable (restores : Restores resolver)

include restores

/-- Then so does every conversation, -/
theorem run_restores (query : Query α) (guard : Guard) :
    ((query.run resolver).run guard).2 = guard := by
  induction query generalizing guard with
  | done result => rfl
  | fail failure => rfl
  | ask room name next inductionHypothesis =>
      have restored := restores room name guard
      rw [run_ask]
      rcases answered : (resolver room name).run guard with ⟨escape | answer, after⟩
      · rwa [answered] at restored
      · rw [answered] at restored
        exact (inductionHypothesis answer after).trans restored

/-- and at every question the guard is as it was at the start. -/
theorem Asks.guard_eq (asks : query.Asks resolver guard room name guard') :
    guard' = guard := by
  induction asks with
  | now room name next guard => rfl
  | @later room _ name _ _ guard _ _ _ answered _ inductionHypothesis =>
      have restored := restores room name guard
      rw [answered] at restored
      exact inductionHypothesis.trans restored

/-- Answerers who agree as long as the guard is `guard` hold the same conversation
from there on. -/
theorem run_eq_of_agree {resolver' : Nat → Text → Guarded CellValue}
    (same : ∀ room name,
      (resolver room name).run guard = (resolver' room name).run guard)
    (query : Query α) :
    (query.run resolver).run guard = (query.run resolver').run guard := by
  induction query with
  | done result => rfl
  | fail failure => rfl
  | ask room name next inductionHypothesis =>
      have restored := restores room name guard
      rw [run_ask, run_ask, ← same]
      rcases answered : (resolver room name).run guard with ⟨escape | answer, after⟩
      · rfl
      · rw [answered] at restored
        cases restored
        exact inductionHypothesis answer

/-- Held from `guard` on, the conversation goes as with somebody who gives the
same answers without looking at a guard. -/
theorem run_eq_of_answers {answers : Text → Except Escape CellValue}
    (same : ∀ room name, query.Asks resolver guard room name guard →
      ((resolver room name).run guard).1 = answers name) :
    ((query.run resolver).run guard).1 =
      query.run (m := Except Escape) fun _ name => answers name := by
  induction query with
  | done result => rfl
  | fail failure => rfl
  | ask room name next inductionHypothesis =>
      have restored := restores room name guard
      rw [run_ask, run, ← same room name (.now _ _ _ _)]
      rcases answered : (resolver room name).run guard with ⟨escape | answer, after⟩
      · rfl
      · rw [answered] at restored
        cases restored
        exact inductionHypothesis answer fun room' name' asks =>
          same room' name' (.later answered asks)

end Guarded

section Alike

variable {likeness : Likeness} {query query' : Query α} {guard : Guard}
  {resolver : Nat → Text → Guarded CellValue}

/-- Like conversations end so that one cannot tell them apart, if like questions have
the same answers, like failures cannot be told apart, and none is cut short. -/
theorem Alike.map_run_eq {β : Type} (observe : Except Failure α → β)
    (restores : Restores resolver) (uncut : ¬ likeness.cuts)
    (fails : ∀ failure other, likeness.fails failure other →
      observe (.error failure) = observe (.error other))
    (same : ∀ room name room' name', likeness.asks room name room' name' →
      (resolver room name).run guard = (resolver room' name').run guard)
    (alike : Alike likeness query query') :
    observe <$> ((query.run resolver).run guard).1 =
      observe <$> ((query'.run resolver).run guard).1 := by
  induction alike with
  | done result => rfl
  | fail related => exact congrArg Except.ok (fails _ _ related)
  | cut allowed => exact absurd allowed uncut
  | @ask room room' name name' next next' related rest inductionHypothesis =>
      have restored := restores room name guard
      rw [run_ask, run_ask, ← same room name room' name' related]
      rcases answered : (resolver room name).run guard with ⟨escape | answer, after⟩
      · rfl
      · rw [answered] at restored
        cases restored
        exact inductionHypothesis answer

/-- They end in the same way, if a failure is like itself only. -/
theorem Alike.run_eq (restores : Restores resolver) (uncut : ¬ likeness.cuts)
    (fails : ∀ failure other, likeness.fails failure other → failure = other)
    (same : ∀ room name room' name', likeness.asks room name room' name' →
      (resolver room name).run guard = (resolver room' name').run guard)
    (alike : Alike likeness query query') :
    (query.run resolver).run guard = (query'.run resolver).run guard := by
  have ending := alike.map_run_eq id restores uncut
    (fun failure other related => congrArg Except.error (fails failure other related)) same
  rw [LawfulFunctor.id_map, LawfulFunctor.id_map] at ending
  exact Prod.ext ending
    ((run_restores restores query guard).trans (run_restores restores query' guard).symm)

end Alike

end Query

end Spreadsheet
