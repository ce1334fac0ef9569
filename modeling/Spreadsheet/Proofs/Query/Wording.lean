import Spreadsheet.Proofs.Query.Run

/-!
# Conversations that cannot be told apart

The message of a failure may name a position in the text of the formula.  Conversations that
differ in such wording only ask for the same cells in the same rooms, whatever the answers, and
end with the same value or the same error code.

Two conversations may also go the same way only as long as something else holds, which is
settled at some moment in both of them.  `Query.SameWhere` says so for everybody who answers:
if a part of the conversation comes to a result of some kind, the whole of it ends in the same
way as the other does and leaves the one who answers in the same state.
-/

namespace Spreadsheet

/-- The failure without its wording.  All that is left of a cause is its code. -/
def Failure.wordless : Failure → Failure
  | .error cause => .error (.answered cause.code)
  | .tooDeep => .tooDeep
  | .escape cause => .escape cause

@[simp]
theorem Failure.code?_wordless (failure : Failure) : failure.wordless.code? = failure.code? := by
  cases failure <;> rfl

/-- Questions stand for themselves, and failures for those that differ in wording only. -/
def Likeness.wording : Likeness where
  asks room name room' name' := room = room' ∧ name = name'
  fails failure other := failure.wordless = other.wordless
  cuts := False
  fails_error _ := rfl
  code_eq {failure other} related := by
    rw [← failure.code?_wordless, related, other.code?_wordless]

namespace Query

variable {α β γ ε σ : Type}

theorem alike_wording (query : Query α) : Alike .wording query query := by
  induction query with
  | done result => exact .done result
  | fail failure => exact .fail rfl
  | ask room name next inductionHypothesis => exact .ask ⟨rfl, rfl⟩ inductionHypothesis

/-- Causes with the same code differ in wording only. -/
theorem alike_error {cause other : Cause} (same : cause.code = other.code) :
    Alike .wording (Query.error cause : Query α) (Query.error other) :=
  .fail (show Failure.error (.answered cause.code) = .error (.answered other.code) by rw [same])

theorem Alike.within_wording {share room : Nat} {inner inner' : Nat → Query α}
    (alike : ∀ rest, Alike .wording (inner rest) (inner' rest)) :
    Alike .wording (Query.within share room inner) (Query.within share room inner') := by
  rw [Query.within, Query.within]
  split
  · exact alike _
  · exact .fail rfl

/-! ## Holding a conversation with a state -/

/-- How the conversation ends when it is held with somebody who starts in `state`, and the
state in which it leaves them. -/
def hold (resolver : Nat → Text → ExceptT ε (StateM σ) CellValue) (state : σ)
    (query : Query α) : Except ε (Except Failure α) × σ :=
  (query.run resolver).run state

variable {resolver : Nat → Text → ExceptT ε (StateM σ) CellValue} {state after : σ}

theorem hold_ask (resolver : Nat → Text → ExceptT ε (StateM σ) CellValue) (state : σ)
    (room : Nat) (name : Text) (next : CellValue → Query α) :
    (ask room name next).hold resolver state =
      match (resolver room name).run state with
      | (.ok answer, after) => (next answer).hold resolver after
      | (.error escape, after) => (.error escape, after) := by
  change ExceptT.bindCont (fun answer => (next answer).run resolver)
    ((resolver room name).run state).1 ((resolver room name).run state).2 = _
  rcases (resolver room name).run state with ⟨escape | answer, after⟩
  · rfl
  · rfl

theorem hold_bind (query : Query α) (rest : α → Query β) :
    (query >>= rest).hold resolver state =
      match query.hold resolver state with
      | (.ok (.ok result), after) => (rest result).hold resolver after
      | (.ok (.error failure), after) => (.ok (.error failure), after)
      | (.error escape, after) => (.error escape, after) := by
  induction query generalizing state with
  | done result => rfl
  | fail failure => rfl
  | ask room name next inductionHypothesis =>
      rw [bind_ask, hold_ask, hold_ask]
      rcases (resolver room name).run state with ⟨escape | answer, after⟩
      · rfl
      · exact inductionHypothesis answer

theorem hold_map (change : α → β) (query : Query α) :
    (change <$> query).hold resolver state =
      ((query.hold resolver state).1.map (Except.map change),
        (query.hold resolver state).2) := by
  rw [map_eq_pure_bind, hold_bind]
  rcases query.hold resolver state with ⟨escape | failure | result, after⟩
  · rfl
  · rfl
  · rfl

/-- All that shows of how a conversation ends: its result, or the failure without its
wording, or an escape, and the state that is left. -/
def shown : Except ε (Except Failure α) × σ → Except ε (Except Failure α) × σ
  | (ending, after) => (Except.map (Except.mapError Failure.wordless) ending, after)

theorem Alike.shown_eq {query query' : Query α} (alike : Alike .wording query query')
    (resolver : Nat → Text → ExceptT ε (StateM σ) CellValue) (state : σ) :
    shown (query.hold resolver state) = shown (query'.hold resolver state) := by
  induction alike generalizing state with
  | done result => rfl
  | @fail failure other related =>
      change (Except.ok (Except.error failure.wordless), state) =
        (Except.ok (Except.error other.wordless), state)
      rw [show failure.wordless = other.wordless from related]
  | cut impossible => exact impossible.elim
  | ask related _ inductionHypothesis =>
      obtain ⟨rfl, rfl⟩ := related
      rw [hold_ask, hold_ask]
      rcases (resolver _ _).run state with ⟨escape | answer, after⟩
      · rfl
      · exact inductionHypothesis answer after

theorem shown_bind (query : Query α) (rest : α → Query β) :
    shown ((query >>= rest).hold resolver state) =
      match shown (query.hold resolver state) with
      | (.ok (.ok result), after) => shown ((rest result).hold resolver after)
      | (.ok (.error failure), after) => (.ok (.error failure), after)
      | (.error escape, after) => (.error escape, after) := by
  rw [hold_bind]
  rcases query.hold resolver state with ⟨escape | failure | result, after⟩
  · rfl
  · rfl
  · rfl

/-! ## Conversations that go the same way under a condition -/

/-- Whoever answers, with a state of their own and perhaps with escapes, cannot tell the two
conversations apart if the condition comes to a result of the kind: both end in the same way,
but for the wording of a message, and leave the same state.  A record of what has been asked
may be part of the state. -/
def SameWhere (condition : Query α) (holds : α → Prop) (query query' : Query β) : Prop :=
  ∀ (ε σ : Type) (resolver : Nat → Text → ExceptT ε (StateM σ) CellValue) (state after : σ)
    (result : α), condition.hold resolver state = (.ok (.ok result), after) → holds result →
      shown (query.hold resolver state) = shown (query'.hold resolver state)

variable {condition : Query α} {holds : α → Prop} {query query' : Query β}

theorem sameWhere_of_alike (alike : Alike .wording query query') :
    SameWhere condition holds query query' :=
  fun _ _ resolver state _ _ _ _ => alike.shown_eq resolver state

theorem SameWhere.congr {other other' : Query β} (first : Alike .wording other query)
    (second : Alike .wording other' query') (same : SameWhere condition holds query query') :
    SameWhere condition holds other other' := by
  intro ε σ resolver state after result ends kind
  rw [first.shown_eq, second.shown_eq]
  exact same ε σ resolver state after result ends kind

/-- Where the condition is settled, only a result of the kind matters. -/
theorem sameWhere_pure {result : α} (alike : holds result → Alike .wording query query') :
    SameWhere (pure result) holds query query' := by
  intro ε σ resolver state after result' ends kind
  cases ends
  exact (alike kind).shown_eq resolver state

/-- A condition that fails is never met. -/
theorem sameWhere_fail {first : Query γ} {failure : Failure} :
    SameWhere (first >>= fun _ => (fail failure : Query α)) holds query query' := by
  intro ε σ resolver state after result ends kind
  rw [hold_bind] at ends
  rcases held : first.hold resolver state with ⟨escape | failure' | middle, between⟩ <;>
    rw [held] at ends <;> cases ends

theorem SameWhere.mono {holds' : α → Prop} (implies : ∀ result, holds' result → holds result)
    (same : SameWhere condition holds query query') : SameWhere condition holds' query query' :=
  fun ε σ resolver state after result ends kind =>
    same ε σ resolver state after result ends (implies result kind)

/-- The condition may be settled behind a part that both have in common. -/
theorem SameWhere.bind {first : Query γ} {condition : γ → Query α} {rest rest' : γ → Query β}
    (same : ∀ middle, SameWhere (condition middle) holds (rest middle) (rest' middle)) :
    SameWhere (first >>= condition) holds (first >>= rest) (first >>= rest') := by
  intro ε σ resolver state after result ends kind
  rw [hold_bind] at ends
  rw [hold_bind, hold_bind]
  rcases held : first.hold resolver state with ⟨escape | failure | middle, between⟩
  · rfl
  · rfl
  · rw [held] at ends
    exact same middle ε σ resolver between after result ends kind

theorem SameWhere.map {change : γ → α} {condition : Query γ}
    (same : SameWhere condition (fun result => holds (change result)) query query') :
    SameWhere (change <$> condition) holds query query' := by
  intro ε σ resolver state after result ends kind
  rw [map_eq_pure_bind, hold_bind] at ends
  rcases held : condition.hold resolver state with ⟨escape | failure | middle, between⟩
  · rw [held] at ends
    cases ends
  · rw [held] at ends
    cases ends
  · rw [held] at ends
    cases ends
    exact same ε σ resolver state after middle held kind

theorem SameWhere.within {share room : Nat} {condition : Nat → Query α}
    {inner inner' : Nat → Query β}
    (same : ∀ rest, SameWhere (condition rest) holds (inner rest) (inner' rest)) :
    SameWhere (within share room condition) holds (within share room inner)
      (within share room inner') := by
  rw [Query.within, Query.within, Query.within]
  split
  · exact same _
  · exact sameWhere_of_alike (alike_wording _)

theorem SameWhere.andThen (same : SameWhere condition holds query query') (rest : β → Query γ) :
    SameWhere condition holds (query >>= rest) (query' >>= rest) := by
  intro ε σ resolver state after result ends kind
  rw [shown_bind, shown_bind, same ε σ resolver state after result ends kind]

end Query

end Spreadsheet
