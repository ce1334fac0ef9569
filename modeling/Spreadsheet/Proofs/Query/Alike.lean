import Mathlib.Data.List.Forall2
import Spreadsheet.Query

/-!
# Conversations that are alike

Two evaluations are compared by their conversations: which question stands for
which, which failure stands for which, and whether a conversation that is cut
short by its nesting stands for every other.  A `Likeness` says that much, and
`Query.Alike` extends it to whole conversations, answer by answer.

All constructions from which formulas and functions are made respect every
likeness.  A statement about all conversations of one kind, such as that none is
nested too deeply, is the likeness of each of them to itself, `Query.Always`.
-/

namespace Spreadsheet

/-- The error code that a failure shows, if it shows one. -/
def Failure.code? : Failure → Option ErrorCode
  | .error cause => some cause.code
  | _ => none

/-- Which questions and failures stand for one another, and whether nesting too
deeply stands for every conversation. -/
structure Likeness where
  asks : Nat → Text → Nat → Text → Prop
  fails : Failure → Failure → Prop
  cuts : Prop
  fails_error (cause : Cause) : fails (.error cause) (.error cause)
  code_eq {failure other : Failure} : fails failure other → failure.code? = other.code?

namespace Query

variable {α β : Type} {likeness : Likeness}

/-- Two conversations that agree question by question, for every answer, and in
their end. -/
inductive Alike (likeness : Likeness) : Query α → Query α → Prop where
  | done (result : α) : Alike likeness (.done result) (.done result)
  | fail {failure other : Failure} (related : likeness.fails failure other) :
      Alike likeness (.fail failure) (.fail other)
  | cut (allowed : likeness.cuts) (query : Query α) : Alike likeness (.fail .tooDeep) query
  | ask {room room' : Nat} {name name' : Text} {next next' : CellValue → Query α}
      (related : likeness.asks room name room' name')
      (rest : ∀ answer, Alike likeness (next answer) (next' answer)) :
      Alike likeness (.ask room name next) (.ask room' name' next')

theorem Alike.error (cause : Cause) :
    Alike likeness (Query.error cause : Query α) (Query.error cause) :=
  Alike.fail (likeness.fails_error cause)

theorem Alike.bind {query query' : Query α} {rest rest' : α → Query β}
    (first : Alike likeness query query')
    (second : ∀ result, Alike likeness (rest result) (rest' result)) :
    Alike likeness (query >>= rest) (query' >>= rest') := by
  induction first with
  | done result => exact second result
  | fail related => exact Alike.fail related
  | cut allowed query => exact Alike.cut allowed _
  | ask related _ inductionHypothesis => exact Alike.ask related inductionHypothesis

theorem Alike.map (change : α → β) {query query' : Query α}
    (first : Alike likeness query query') :
    Alike likeness (change <$> query) (change <$> query') := by
  rw [map_eq_pure_bind, map_eq_pure_bind]
  exact first.bind fun result => Alike.done (change result)

theorem Alike.foldlM {γ δ : Type} (stands : γ → δ → Prop) {step : β → γ → Query β}
    {step' : β → δ → Query β}
    (alike : ∀ state {item item'}, stands item item' →
      Alike likeness (step state item) (step' state item'))
    {items : List γ} {items' : List δ} (related : List.Forall₂ stands items items')
    (state : β) :
    Alike likeness (items.foldlM step state) (items'.foldlM step' state) := by
  induction related generalizing state with
  | nil => exact Alike.done state
  | cons first _ inductionHypothesis =>
      rw [List.foldlM_cons, List.foldlM_cons]
      exact (alike state first).bind inductionHypothesis

theorem Alike.number (value : CellValue) : Alike likeness (number value) (number value) := by
  cases value with
  | number result => exact Alike.done result
  | error code => exact Alike.error (.answered code)

theorem caught_fail (failure : Failure) :
    (fail failure).caught =
      match failure.code? with
      | some code => .done (.error code)
      | none => .fail failure := by
  cases failure <;> rfl

/-- Catching causes keeps conversations alike, because like causes have one
code. -/
theorem Alike.caught {query query' : Query Number} (alike : Alike likeness query query') :
    Alike likeness query.caught query'.caught := by
  induction alike with
  | done result => exact Alike.done (CellValue.number result)
  | @fail failure other related =>
      rw [caught_fail, caught_fail, ← likeness.code_eq related]
      cases failure.code? with
      | some code => exact Alike.done (CellValue.error code)
      | none => exact Alike.fail related
  | cut allowed query => exact Alike.cut allowed query.caught
  | ask related _ inductionHypothesis => exact Alike.ask related inductionHypothesis

/-! ## Conversations of one kind -/

/-- Whatever the answers, every question of the conversation is of one kind, and
so is every failure in which it ends. -/
def Always (asking : Nat → Text → Prop) (failing : Failure → Prop) : Query α → Prop
  | done _ => True
  | fail failure => failing failure
  | ask room name next =>
      asking room name ∧ ∀ answer, (next answer).Always asking failing

end Query

/-- A likeness under which only one failure stands for another, itself. -/
def Likeness.of (asks : Nat → Text → Nat → Text → Prop) (cuts : Prop)
    (failing : Failure → Prop) (allowed : ∀ cause, failing (.error cause)) : Likeness where
  asks := asks
  fails failure other := failure = other ∧ failing failure
  cuts := cuts
  fails_error cause := ⟨rfl, allowed cause⟩
  code_eq related := congrArg Failure.code? related.1

/-- The likeness of what is of one kind to itself. -/
def Likeness.self (asking : Nat → Text → Prop) (failing : Failure → Prop)
    (allowed : ∀ cause, failing (.error cause)) : Likeness :=
  .of (fun room name room' name' => room = room' ∧ name = name' ∧ asking room name) False
    failing allowed

namespace Query

variable {α : Type} {asking : Nat → Text → Prop} {failing : Failure → Prop}
  {allowed : ∀ cause, failing (.error cause)}

/-- Conversations that are alike in this sense are one conversation, and it is
of the kind. -/
theorem Alike.eq_and_always {query query' : Query α}
    (alike : Alike (.self asking failing allowed) query query') :
    query = query' ∧ query.Always asking failing := by
  induction alike with
  | done result => exact ⟨rfl, trivial⟩
  | fail related => exact ⟨congrArg Query.fail related.1, related.2⟩
  | cut impossible => exact impossible.elim
  | ask related _ inductionHypothesis =>
      obtain ⟨rfl, rfl, asked⟩ := related
      constructor
      · congr 1
        funext answer
        exact (inductionHypothesis answer).1
      · constructor
        · exact asked
        · intro answer
          exact (inductionHypothesis answer).2

theorem Always.alike {query : Query α} (always : query.Always asking failing) :
    Alike (.self asking failing allowed) query query := by
  induction query with
  | done result => exact Alike.done result
  | fail failure =>
      apply Alike.fail
      exact ⟨rfl, always⟩
  | ask room name next inductionHypothesis =>
      apply Alike.ask
      · exact ⟨rfl, rfl, always.1⟩
      · intro answer
        exact inductionHypothesis answer (always.2 answer)

/-- A conversation that is like another is of the kind of its questions and
failures. -/
theorem Alike.always {likeness : Likeness} (uncut : ¬ likeness.cuts)
    (asks : ∀ {room name room' name'}, likeness.asks room name room' name' →
      asking room name)
    (fails : ∀ {failure other}, likeness.fails failure other → failing failure)
    {query query' : Query α} (alike : Alike likeness query query') :
    query.Always asking failing := by
  induction alike with
  | done result => trivial
  | fail related => exact fails related
  | cut possible => exact absurd possible uncut
  | ask related _ inductionHypothesis => exact ⟨asks related, inductionHypothesis⟩

theorem always_true (query : Query α) : query.Always (fun _ _ => True) fun _ => True := by
  induction query with
  | done result => trivial
  | fail failure => trivial
  | ask room name next inductionHypothesis => exact ⟨trivial, inductionHypothesis⟩

theorem Always.mono {asking' : Nat → Text → Prop} {failing' : Failure → Prop}
    (asks : ∀ room name, asking room name → asking' room name)
    (fails : ∀ failure, failing failure → failing' failure)
    {query : Query α} (always : query.Always asking failing) :
    query.Always asking' failing' := by
  induction query with
  | done result => trivial
  | fail failure => exact fails failure always
  | ask room name next inductionHypothesis =>
      constructor
      · exact asks room name always.1
      · intro answer
        exact inductionHypothesis answer (always.2 answer)

end Query

end Spreadsheet
