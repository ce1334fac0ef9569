import Spreadsheet.Proofs.Function.Evaluation
import Spreadsheet.Proofs.Query.Run

/-!
# Evaluation and the room it has

More room changes nothing about an evaluation except that less of it is cut
short.  A pure function keeps to this, and asks for cells only within the room of
its call; the built-in functions are pure, and so are the host functions.  With
the built-in functions a text is never nested too deeply in a room that has as
much for each of its characters as one character takes.
-/

namespace Spreadsheet

/-! ## Being cut short -/

/-- One conversation is the other, asked in less room and perhaps cut short. -/
def Likeness.truncation : Likeness :=
  .of (fun room name room' name' => room ≤ room' ∧ name = name') True (fun _ => True)
    fun _ => trivial

/-- A conversation that ends in a result has not been cut short. -/
theorem Query.Alike.outcome_of_ok {α : Type} {query query' : Query α}
    (alike : Alike .truncation query query') {answers : Text → CellValue} {result : α}
    (ends : query.outcome answers = .ok result) : query'.outcome answers = .ok result := by
  induction alike with
  | done result => exact ends
  | fail related => cases ends
  | cut allowed query => cases ends
  | @ask _ _ name name' _ _ related _ inductionHypothesis =>
      obtain rfl : name = name' := related.2
      exact inductionHypothesis (answers name) ends

/-- The first room is no larger than the second. -/
def Rooms.growing : Rooms .truncation where
  leave _ room room' := room ≤ room'
  mono _ le := le
  take {share _ room room'} le := by
    by_cases fits : share ≤ room
    · exact .inl ⟨fits, Nat.le_trans fits le, Nat.sub_le_sub_right le share⟩
    · exact .inr ⟨Nat.lt_of_not_le fits, .inl trivial⟩

/-- Every text stands for itself. -/
def Texts.growing : Texts .truncation .growing :=
  .given (fun _ => True) (fun _ _ => ⟨rfl, trivial⟩) fun _ _ _ _ _ _ _ le => ⟨le, rfl⟩

/-! ## Asking within room -/

/-- The likeness to itself of a conversation whose questions leave no more room
than `most`. -/
def Likeness.below (most : Nat) : Likeness :=
  .self (fun room _ => room ≤ most) (fun _ => True) fun _ => trivial

/-- One room that is no larger than `most`. -/
def Rooms.below (most : Nat) : Rooms (.below most) where
  leave _ room room' := room = room' ∧ room ≤ most
  mono _ le := le
  take {share _ room room'} := by
    rintro ⟨rfl, le⟩
    by_cases fits : share ≤ room
    · exact .inl ⟨fits, fits, rfl, Nat.le_trans (Nat.sub_le _ _) le⟩
    · exact .inr ⟨Nat.lt_of_not_le fits, .inr ⟨Nat.lt_of_not_le fits, rfl, trivial⟩⟩

/-- Every text stands for itself. -/
def Texts.below (most : Nat) : Texts (.below most) (.below most) :=
  .given (fun _ => True) (fun _ _ => ⟨rfl, trivial⟩)
    fun _ _ _ _ _ _ _ left => ⟨left.1, rfl, left.2⟩

/-! ## Pure functions -/

/-- A function is pure if the room of its call decides only how much of its
conversation is cut short, and if it asks only within that room. -/
structure FunctionBody.Pure (body : FunctionBody) : Prop where
  growing : FunctionBody.Respects .growing body
  below (most : Nat) : FunctionBody.Respects (.below most) body

/-- Every host function that the library describes is pure. -/
theorem HostFunction.body_pure (host : HostFunction) : FunctionBody.Pure host.body where
  growing := by
    intro spare call call' alike enough
    have fails (failure : Failure) : Likeness.truncation.fails failure failure :=
      ⟨rfl, trivial⟩
    exact host.body_respects And.left fails alike enough
  below most := by
    intro spare call call' alike enough
    have fails (failure : Failure) : (Likeness.below most).fails failure failure :=
      ⟨rfl, trivial⟩
    exact host.body_respects And.left fails alike enough

/-- Calls matter in no more room than a formula is evaluated in. -/
theorem Formula.evaluate_congr {call call' : Nat → Text → List Text → Query Number} {room : Nat}
    (same : ∀ rest ≤ room, ∀ name arguments, call rest name arguments = call' rest name arguments)
    (formula : Formula) : formula.evaluate call room = formula.evaluate call' room := by
  induction formula generalizing room with
  | number value => rfl
  | reference name => rfl
  | signed sign operand inductionHypothesis =>
      refine Query.within_congr fun _ => ?_
      rw [inductionHypothesis fun rest le => same rest (Nat.le_trans le (Nat.sub_le _ _))]
  | binary operator left right leftHypothesis rightHypothesis =>
      rw [evaluate, evaluate, leftHypothesis same, rightHypothesis same]
  | group inner inductionHypothesis =>
      refine Query.within_congr fun _ => ?_
      rw [inductionHypothesis fun rest le => same rest (Nat.le_trans le (Nat.sub_le _ _))]
  | call function arguments => exact same room (Nat.le_refl room) function arguments
  | broken cause => rfl
  | halted start cause inductionHypothesis => rw [evaluate, evaluate, inductionHypothesis same]

namespace Registry

/-- All functions of the registry are pure. -/
def Pure (functions : Registry) : Prop :=
  ∀ name body, functions.find? name = some body → body.Pure

theorem builtins_pure : builtins.Pure :=
  fun name body found =>
    { growing := builtins_respects name body found
      below := fun _ => builtins_respects name body found }

theorem Pure.register {functions extended : Registry} {name : Text} {body : FunctionBody}
    (pure : functions.Pure) (bodyPure : body.Pure)
    (registered : functions.register? name body = some extended) : extended.Pure := by
  intro key found lookup
  simp only [register?] at registered
  split at registered
  · cases registered
    simp only [find?, List.lookup_cons] at lookup
    by_cases same : key.upper == name.upper
    · simp only [same, Option.some.injEq] at lookup
      exact lookup ▸ bodyPure
    · simp only [same] at lookup
      exact pure key found lookup
  · cases registered

variable {functions : Registry}

/-- More room, and more calls inside one another, only cut less short. -/
theorem evaluate_truncation (pure : functions.Pure) {calls calls' : Nat}
    (fewer : calls ≤ calls') {room room' : Nat} (less : room ≤ room') (text : Text) :
    Query.Alike .truncation (functions.evaluate calls room text)
      (functions.evaluate calls' room' text) := by
  induction calls generalizing calls' room room' text with
  | zero => exact Query.Alike.cut trivial _
  | succ calls inductionHypothesis =>
      obtain ⟨calls', rfl⟩ := Nat.exists_eq_add_of_le' fewer
      rw [← Nat.add_assoc, evaluate_succ, evaluate_succ]
      have respects : functions.Respects .growing :=
        fun name body found => (pure name body found).growing
      apply ofText_alike respects id _ _ _ less
      · intro name _ room room' le
        exact ⟨le, rfl⟩
      · intro argument _ _
        exact ⟨rfl, trivial⟩
      · rintro room room' text _ ⟨rfl, -⟩ le
        exact inductionHypothesis (by omega) le text

/-- An evaluation is like itself as one that asks for cells within its room. -/
theorem evaluate_below_alike (pure : functions.Pure) (calls : Nat) {room most : Nat}
    (le : room ≤ most) (text : Text) :
    Query.Alike (.below most) (functions.evaluate calls room text)
      (functions.evaluate calls room text) := by
  induction calls generalizing room text with
  | zero => exact Query.Alike.fail ⟨rfl, trivial⟩
  | succ calls inductionHypothesis =>
      rw [evaluate_succ]
      have respects : functions.Respects (.below most) :=
        fun name body found => (pure name body found).below most
      apply ofText_alike respects id _ _ _ ⟨rfl, le⟩
      · rintro name _ room _ ⟨rfl, le⟩
        exact ⟨rfl, rfl, le⟩
      · intro argument _ _
        exact ⟨rfl, trivial⟩
      · rintro room _ text _ ⟨rfl, -⟩ ⟨rfl, le⟩
        exact inductionHypothesis le text

theorem evaluate_below (pure : functions.Pure) (calls : Nat) {room most : Nat}
    (le : room ≤ most) (text : Text) :
    (functions.evaluate calls room text).Always (fun rest _ => rest ≤ most)
      fun _ => True :=
  (evaluate_below_alike pure calls le text).eq_and_always.2

/-- The bound on calls is never what ends the evaluation of an expression: any other bound that
is larger than the room does as well. -/
theorem evaluate_eq_expression (pure : functions.Pure) {calls room : Nat} (more : room < calls)
    (text : Text) : functions.evaluate calls room text = functions.expression room text := by
  induction room using Nat.strongRecOn generalizing calls text with
  | ind room inductionHypothesis =>
      obtain ⟨calls, rfl⟩ := Nat.exists_eq_add_one_of_ne_zero (Nat.ne_zero_of_lt more)
      rw [expression, evaluate_succ, evaluate_succ]
      refine Formula.evaluate_congr (fun rest le name arguments => ?_) _
      simp only [invoke]
      cases found : functions.find? name with
      | none => rfl
      | some body =>
          refine Query.within_congr fun fits => ?_
          -- inside the call there is less room, where both bounds are large enough
          have agree : ∀ left ≤ rest - Nesting.call, ∀ text,
              functions.evaluate calls left text = functions.evaluate room left text := by
            intro left inside text
            have less : left < room := by
              rw [Nesting.call] at fits inside
              omega
            rw [inductionHypothesis left less (by omega), inductionHypothesis left less less]
          have alike : Call.Alike (.below (rest - Nesting.call)) 0
              ⟨arguments, rest - Nesting.call, functions.evaluate calls⟩
              ⟨arguments, rest - Nesting.call, functions.evaluate room⟩ := by
            refine ⟨List.forall₂_same.mpr fun _ _ => ⟨rfl, trivial⟩, ?_⟩
            rintro left _ text _ ⟨rfl, -⟩ ⟨rfl, inside⟩
            change Query.Alike _ (functions.evaluate calls left text)
              (functions.evaluate room left text)
            rw [← agree left inside text]
            exact evaluate_below_alike pure calls inside text
          exact ((pure name body found).below _ alike ⟨rfl, Nat.le_refl _⟩).eq_and_always.1

/-- A formula of its own asks for cells only in less room than it has itself. -/
theorem query_below (pure : functions.Pure) (room : Nat) (text : Text) :
    (functions.query room text).Always (fun rest _ => rest < room) fun _ => True := by
  rw [query, Query.within]
  by_cases fits : Nesting.formula ≤ room
  · rw [if_pos fits]
    have positive : 0 < Nesting.formula := by decide
    refine (evaluate_below pure _ (Nat.le_refl _) text).mono (fun rest _ le => ?_)
      fun _ _ => trivial
    omega
  · rw [if_neg fits]
    trivial

/-- More room for a formula of its own only cuts it less short. -/
theorem query_truncation (pure : functions.Pure) {room room' : Nat} (less : room ≤ room')
    (text : Text) :
    Query.Alike .truncation (functions.query room text) (functions.query room' text) := by
  have enough : Rooms.growing.leave (Nesting.formula + 0) room room' := less
  refine Query.Alike.within enough fun left => ?_
  exact evaluate_truncation pure (Nat.succ_le_succ left) left text

end Registry

/-! ## Enough room -/

/-- One conversation is the other, in whatever rooms, both leave `least` at every
question, and neither is nested too deeply. -/
def Likeness.roomy (least : Nat) : Likeness :=
  .of (fun room name room' name' => name = name' ∧ least ≤ room ∧ least ≤ room') False
    (· ≠ .tooDeep) fun _ same => Failure.noConfusion same

/-- Both rooms leave the room to spare, and `least` besides. -/
def Rooms.roomy (least : Nat) : Rooms (.roomy least) where
  leave spare room room' := least + spare ≤ room ∧ least + spare ≤ room'
  mono le enough := ⟨by omega, by omega⟩
  take enough := .inl ⟨by omega, by omega, by omega, by omega⟩

/-- Each of the given texts stands for itself. -/
def Texts.roomy (least : Nat) (given : Text → Prop) : Texts (.roomy least) (.roomy least) :=
  .given given (fun _ _ => ⟨rfl, fun same => Failure.noConfusion same⟩)
    fun _ _ _ _ _ _ _ enough => ⟨rfl, enough⟩

namespace Registry

/-- A text with room for each of its characters, and fewer characters than calls,
is evaluated to the end. -/
theorem evaluate_roomy (least : Nat) {calls calls' room room' : Nat} {text : Text}
    (short : text.length < calls) (short' : text.length < calls')
    (enough : least + Nesting.perCharacter * text.length ≤ room)
    (enough' : least + Nesting.perCharacter * text.length ≤ room') :
    Query.Alike (.roomy least) (builtins.evaluate calls room text)
      (builtins.evaluate calls' room' text) := by
  induction calls generalizing calls' room room' text with
  | zero => omega
  | succ calls inductionHypothesis =>
      obtain ⟨calls', rfl⟩ := Nat.exists_eq_add_of_lt short'
      rw [evaluate_succ, evaluate_succ]
      have width := Nat.mul_le_mul_left Nesting.perCharacter (Formula.width_ofText_le text)
      refine Formula.evaluate_alike (.roomy least) ?_ ⟨by omega, by omega⟩
      refine (Formula.partOf_ofText text).mono (fun _ _ _ _ left => ⟨rfl, left⟩) ?_
      intro function arguments part room room' left
      have respects : builtins.Respects (.roomy least (· ∈ arguments)) := builtins_respects
      have spare : (Rooms.roomy least).leave (Nesting.call + (Nesting.body +
          Nesting.perCharacter * arguments.flatten.length)) room room' := by
        refine Rooms.mono _ ?_ left
        simp only [Nesting.call, Nesting.body, Nesting.collection, Nesting.numbers,
          Nesting.items, Nesting.argument, Nesting.perCharacter]
        omega
      refine invoke_alike respects ?_ (List.forall₂_same.mpr fun argument member =>
        ⟨rfl, member⟩) spare function
      rintro room room' argument _ ⟨rfl, member⟩ ⟨left, left'⟩
      have inside := (part argument member).length_le
      have whole := (List.sublist_flatten_of_mem member).length_le
      have characters := Nat.mul_le_mul_left Nesting.perCharacter whole
      simp only [List.length_cons, List.length_append] at inside
      exact inductionHypothesis (by omega) (by omega) (by omega) (by omega)

/-- A formula of its own, with room for all its characters and for itself, is
evaluated to the end, and leaves `least` for every cell that it asks for. -/
theorem query_roomy (least : Nat) {room room' : Nat} {text : Text}
    (enough : least + (Nesting.formula + Nesting.perCharacter * text.length) ≤ room)
    (enough' : least + (Nesting.formula + Nesting.perCharacter * text.length) ≤ room') :
    Query.Alike (.roomy least) (builtins.query room text) (builtins.query room' text) := by
  have characters : text.length ≤ Nesting.perCharacter * text.length :=
    Nat.le_mul_of_pos_left _ (by decide)
  have leave : (Rooms.roomy least).leave
      (Nesting.formula + Nesting.perCharacter * text.length) room room' :=
    ⟨enough, enough'⟩
  refine Query.Alike.within leave fun left => ?_
  exact evaluate_roomy least (by omega) (by omega) left.1 left.2

end Registry

end Spreadsheet
