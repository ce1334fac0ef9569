import Spreadsheet.Proofs.Query.Alike

/-!
# Transcripts

What has been asked and answered in a conversation is a list of names with their
answers.  `Query.Transcript` relates a conversation to every such list and to how
it ends then, whoever answers and whatever they remember from one question to the
next.  The record that anybody keeps of the conversation is a transcript of it.
-/

namespace Spreadsheet

/-- The names that have been asked for, with the answers, in order. -/
abbrev Exchange := List (Text × CellValue)

/-- All answers are numbers. -/
def Exchange.Successful (exchange : Exchange) : Prop :=
  ∀ entry ∈ exchange, ∃ value, entry.2 = .number value

theorem Exchange.Successful.cons {exchange : Exchange} (successful : exchange.Successful)
    (name : Text) (value : Number) : Successful ((name, .number value) :: exchange) := by
  intro entry member
  rcases List.mem_cons.mp member with rfl | other
  · exact ⟨value, rfl⟩
  · exact successful entry other

namespace Query

variable {α : Type} {query : Query α} {exchange : Exchange} {ending : Except Failure α}

/-- The conversation can go through these questions and answers to this end. -/
inductive Transcript : Query α → Exchange → Except Failure α → Prop where
  | done (result : α) : Transcript (.done result) [] (.ok result)
  | fail (failure : Failure) : Transcript (.fail failure) [] (.error failure)
  | ask {room : Nat} {name : Text} {next : CellValue → Query α} {answer : CellValue}
      {exchange : Exchange} {ending : Except Failure α}
      (rest : Transcript (next answer) exchange ending) :
      Transcript (.ask room name next) ((name, answer) :: exchange) ending

/-- Somebody who answers with a state of their own, and perhaps with escapes, and
keeps a record of it. -/
def recorded {ε σ : Type} (resolver : Nat → Text → ExceptT ε (StateM σ) CellValue)
    (room : Nat) (name : Text) : ExceptT ε (StateM (σ × Exchange)) CellValue :=
  ExceptT.mk fun (state, record) =>
    match (resolver room name).run state with
    | (.ok answer, after) => (.ok answer, after, record ++ [(name, answer)])
    | (.error escape, after) => (.error escape, after, record)

/-- The record of a conversation that is held to its end is a transcript of it,
whoever answers. -/
theorem transcript_of_recorded {ε σ : Type}
    {resolver : Nat → Text → ExceptT ε (StateM σ) CellValue} {query : Query α}
    {state after : σ} {before record : Exchange}
    (ends : (query.run (recorded resolver)).run (state, before) = (.ok ending, after, record)) :
    ∃ exchange, record = before ++ exchange ∧ query.Transcript exchange ending := by
  induction query generalizing state before with
  | done result =>
      cases ends
      exact ⟨[], (List.append_nil _).symm, .done result⟩
  | fail failure =>
      cases ends
      exact ⟨[], (List.append_nil _).symm, .fail failure⟩
  | ask room name next inductionHypothesis =>
      change ExceptT.bindCont (fun answer => (next answer).run (recorded resolver))
        ((recorded resolver room name).run (state, before)).1
        ((recorded resolver room name).run (state, before)).2 = _ at ends
      rcases answered : (resolver room name).run state with ⟨escape | answer, between⟩
      · have escaped : (recorded resolver room name).run (state, before) =
            (.error escape, between, before) := by
          simp only [recorded, ExceptT.run_mk, answered]
        rw [escaped] at ends
        cases ends
      · have recordedAnswer : (recorded resolver room name).run (state, before) =
            (.ok answer, between, before ++ [(name, answer)]) := by
          simp only [recorded, ExceptT.run_mk, answered]
        rw [recordedAnswer] at ends
        obtain ⟨exchange, same, rest⟩ := inductionHypothesis answer ends
        exact ⟨(name, answer) :: exchange, by rw [same]; simp, .ask rest⟩

/-- The transcript with somebody who gives the same answer to a name each time. -/
theorem transcript_of_answers (answers : Text → CellValue) (query : Query α) :
    query.Transcript ((query.requests answers).map fun name => (name, answers name))
      (query.outcome answers) := by
  induction query with
  | done result => exact .done result
  | fail failure => exact .fail failure
  | ask room name next inductionHypothesis => exact .ask (inductionHypothesis (answers name))

/-- A conversation that goes on after another one fails as that one does, or goes on with its
result. -/
theorem Transcript.bind_cases {β : Type} {rest : α → Query β} {ending : Except Failure β}
    (transcript : (query >>= rest).Transcript exchange ending) :
    (∃ failure, query.Transcript exchange (.error failure) ∧ ending = .error failure) ∨
      ∃ first second middle, exchange = first ++ second ∧
        query.Transcript first (.ok middle) ∧ (rest middle).Transcript second ending := by
  induction query generalizing exchange with
  | done middle => exact .inr ⟨[], exchange, middle, rfl, .done middle, transcript⟩
  | fail failure =>
      cases transcript
      exact .inl ⟨failure, .fail failure, rfl⟩
  | ask room name next inductionHypothesis =>
      cases transcript with
      | @ask _ _ _ answer exchange _ later =>
          rcases inductionHypothesis answer later with ⟨failure, failed, same⟩ |
            ⟨first, second, middle, rfl, asked, following⟩
          · exact .inl ⟨failure, .ask failed, same⟩
          · exact .inr ⟨(name, answer) :: first, second, middle, rfl, .ask asked, following⟩

/-- If it has a result, so has the first one. -/
theorem Transcript.of_bind {β : Type} {rest : α → Query β} {result : β}
    (transcript : (query >>= rest).Transcript exchange (.ok result)) :
    ∃ first second middle, exchange = first ++ second ∧
      query.Transcript first (.ok middle) ∧ (rest middle).Transcript second (.ok result) := by
  rcases transcript.bind_cases with ⟨failure, -, impossible⟩ | parts
  · cases impossible
  · exact parts

theorem Transcript.of_map {β : Type} {change : α → β} {ending : Except Failure β}
    (transcript : (change <$> query).Transcript exchange ending) :
    ∃ ending', query.Transcript exchange ending' ∧ ending = Except.map change ending' := by
  rw [map_eq_pure_bind] at transcript
  rcases transcript.bind_cases with ⟨failure, failed, rfl⟩ |
    ⟨first, second, middle, rfl, asked, following⟩
  · exact ⟨.error failure, failed, rfl⟩
  · cases following
    rw [List.append_nil]
    exact ⟨.ok middle, asked, rfl⟩

/-- What cannot be opened is nested too deeply. -/
theorem Transcript.within_cases {share room : Nat} {inner : Nat → Query α}
    (transcript : (within share room inner).Transcript exchange ending) :
    ending = .error .tooDeep ∨ (inner (room - share)).Transcript exchange ending := by
  rw [within] at transcript
  split at transcript
  · exact .inr transcript
  · cases transcript
    exact .inl rfl

/-- What is opened is open while the conversation goes on. -/
theorem Transcript.of_within {share room : Nat} {inner : Nat → Query α} {result : α}
    (transcript : (within share room inner).Transcript exchange (.ok result)) :
    (inner (room - share)).Transcript exchange (.ok result) := by
  rcases transcript.within_cases with impossible | opened
  · cases impossible
  · exact opened

/-- A value and a cause are caught, and any other failure is not. -/
theorem Transcript.caught_cases {query : Query Number} {ending : Except Failure CellValue}
    (transcript : query.caught.Transcript exchange ending) :
    (∃ value, query.Transcript exchange (.ok value) ∧ ending = .ok (.number value)) ∨
      (∃ cause, query.Transcript exchange (.error (.error cause)) ∧
        ending = .ok (.error cause.code)) ∨
      ∃ failure, failure.code? = none ∧ query.Transcript exchange (.error failure) ∧
        ending = .error failure := by
  induction query generalizing exchange with
  | done value =>
      cases transcript
      exact .inl ⟨value, .done value, rfl⟩
  | fail failure =>
      cases failure with
      | error cause =>
          cases transcript
          exact .inr (.inl ⟨cause, .fail _, rfl⟩)
      | tooDeep =>
          cases transcript
          exact .inr (.inr ⟨_, rfl, .fail _, rfl⟩)
      | escape escape =>
          cases transcript
          exact .inr (.inr ⟨_, rfl, .fail _, rfl⟩)
  | ask room name next inductionHypothesis =>
      cases transcript with
      | @ask _ _ _ answer exchange _ later =>
          rcases inductionHypothesis answer later with ⟨value, evaluates, same⟩ |
            ⟨cause, fails, same⟩ | ⟨failure, uncaught, fails, same⟩
          · exact .inl ⟨value, .ask evaluates, same⟩
          · exact .inr (.inl ⟨cause, .ask fails, same⟩)
          · exact .inr (.inr ⟨failure, uncaught, .ask fails, same⟩)

theorem Transcript.failing {asking : Nat → Text → Prop} {failing : Failure → Prop}
    {failure : Failure} (transcript : query.Transcript exchange (.error failure))
    (always : query.Always asking failing) : failing failure := by
  induction query generalizing exchange with
  | done result => cases transcript
  | fail failure =>
      cases transcript
      exact always
  | ask room name next inductionHypothesis =>
      cases transcript with
      | ask later => exact inductionHypothesis _ later (always.2 _)

/-- The answers settle how long a conversation is and how it ends. -/
theorem Transcript.unique {exchange' rest rest' : Exchange} {ending' : Except Failure α}
    (transcript : query.Transcript exchange ending)
    (transcript' : query.Transcript exchange' ending')
    (same : exchange ++ rest = exchange' ++ rest') :
    exchange = exchange' ∧ rest = rest' ∧ ending = ending' := by
  induction transcript generalizing exchange' with
  | done result =>
      cases transcript'
      exact ⟨rfl, same, rfl⟩
  | fail failure =>
      cases transcript'
      exact ⟨rfl, same, rfl⟩
  | ask _ inductionHypothesis =>
      cases transcript' with
      | ask later =>
          rw [List.cons_append, List.cons_append, List.cons.injEq, Prod.mk.injEq] at same
          obtain ⟨⟨-, rfl⟩, same⟩ := same
          obtain ⟨rfl, rfl, rfl⟩ := inductionHypothesis later same
          exact ⟨rfl, rfl, rfl⟩

end Query

end Spreadsheet
