import Spreadsheet.Function.Host
import Spreadsheet.Function.Registry
import Spreadsheet.Proofs.Query.Alike

/-!
# Functions respect likeness

A function evaluates its arguments, goes through the cells of ranges, and makes
a number of what it finds.  Called with like arguments in like rooms, with
evaluations of texts that are alike, it holds like conversations.  This is shown
once for every likeness; the particular ones are chosen where they are needed.
-/

namespace Spreadsheet

/-- Which rooms stand for one another.  Of rooms that leave some room to spare, a
share may be taken, unless both sides, or the one that may be cut short, are then
nested too deeply. -/
structure Rooms (likeness : Likeness) where
  leave : (spare room room' : Nat) → Prop
  mono {less spare room room' : Nat} : less ≤ spare → leave spare room room' →
    leave less room room'
  take {share spare room room' : Nat} : leave (share + spare) room room' →
    (share ≤ room ∧ share ≤ room' ∧ leave spare (room - share) (room' - share)) ∨
      room < share ∧
        (likeness.cuts ∨ room' < share ∧ likeness.fails .tooDeep .tooDeep)

/-- Which argument texts stand for one another: they are blank together, write
the same range, and the cells of the range may be asked for. -/
structure Texts (likeness : Likeness) (rooms : Rooms likeness) where
  related : Text → Text → Prop
  isEmpty_eq {text text' : Text} : related text text' → text.isEmpty = text'.isEmpty
  range_eq {text text' : Text} : related text text' →
    Range.ofText? text = Range.ofText? text'
  fails_range {text text' : Text} {fault : AddressError} : related text text' →
    Range.ofText? text = .error fault →
      likeness.fails (.escape .rowTooLong) (.escape .rowTooLong)
  asks_cell {text text' : Text} {range : Range} : related text text' →
    Range.ofText? text = .ok (some range) →
      ∀ row column room room', row ≤ range.bottom → column ≤ range.right →
        rooms.leave 0 room room' →
          likeness.asks room (Coord.nameOf row column) room' (Coord.nameOf row column)

/-- Every room stands for itself, where conversations of a kind may be nested too
deeply. -/
def Rooms.same {asking : Nat → Text → Prop} {failing : Failure → Prop}
    {allowed : ∀ cause, failing (.error cause)} (deep : failing .tooDeep) :
    Rooms (.self asking failing allowed) where
  leave _ room room' := room = room'
  mono _ equal := equal
  take {share _ room _} := by
    rintro rfl
    by_cases fits : share ≤ room
    · exact .inl ⟨fits, fits, rfl⟩
    · exact .inr ⟨Nat.lt_of_not_le fits, .inr ⟨Nat.lt_of_not_le fits, rfl, deep⟩⟩

/-- Each of the given texts stands for itself. -/
def Texts.given {likeness : Likeness} {rooms : Rooms likeness} (given : Text → Prop)
    (fails : ∀ {text fault}, given text → Range.ofText? text = .error fault →
      likeness.fails (.escape .rowTooLong) (.escape .rowTooLong))
    (asks : ∀ {text range}, given text → Range.ofText? text = .ok (some range) →
      ∀ row column room room', row ≤ range.bottom → rooms.leave 0 room room' →
        likeness.asks room (Coord.nameOf row column) room' (Coord.nameOf row column)) :
    Texts likeness rooms where
  related text text' := text = text' ∧ given text
  isEmpty_eq related := congrArg List.isEmpty related.1
  range_eq related := congrArg Range.ofText? related.1
  fails_range related := fails related.2
  asks_cell related written row column room room' above _ :=
    asks related.2 written row column room room' above

variable {likeness : Likeness} {rooms : Rooms likeness} {texts : Texts likeness rooms}

/-- Opening something in like rooms with a share of them. -/
theorem Query.Alike.within {α : Type} {share spare room room' : Nat}
    {inner inner' : Nat → Query α} (enough : rooms.leave (share + spare) room room')
    (alike : rooms.leave spare (room - share) (room' - share) →
      Query.Alike likeness (inner (room - share)) (inner' (room' - share))) :
    Query.Alike likeness (Query.within share room inner)
      (Query.within share room' inner') := by
  rcases rooms.take enough with ⟨fits, fits', left⟩ | ⟨deep, allowed | ⟨deep', fails⟩⟩
  · simp only [Query.within, if_pos fits, if_pos fits']
    exact alike left
  · simp only [Query.within, if_neg (Nat.not_le_of_lt deep)]
    exact Query.Alike.cut allowed _
  · simp only [Query.within, if_neg (Nat.not_le_of_lt deep),
      if_neg (Nat.not_le_of_lt deep')]
    exact Query.Alike.fail fails

theorem Query.Alike.request {room room' : Nat} {name name' : Text}
    (enough : rooms.leave Nesting.lookup room room')
    (asks : ∀ room room', rooms.leave 0 room room' →
      likeness.asks room name room' name') :
    Query.Alike likeness (Query.request room name) (Query.request room' name') :=
  Query.Alike.within (show rooms.leave (Nesting.lookup + 0) room room' from enough)
    fun left => Query.Alike.ask (asks _ _ left) fun answer => Query.Alike.done answer

namespace Range

variable {β : Type} {step : β → CellValue → Query β}

theorem foldRow_alike {room room' : Nat} (enough : rooms.leave Nesting.lookup room room')
    (stepAlike : ∀ state item, Query.Alike likeness (step state item) (step state item))
    (row count : Nat) {column : Nat} (state : β)
    (asks : ∀ offset, offset < count → ∀ room room', rooms.leave 0 room room' →
      likeness.asks room (Coord.nameOf row (column + offset)) room'
        (Coord.nameOf row (column + offset))) :
    Query.Alike likeness (foldRow room step row column count state)
      (foldRow room' step row column count state) := by
  induction count generalizing column state with
  | zero => exact Query.Alike.done state
  | succ count inductionHypothesis =>
      rw [foldRow, foldRow]
      refine (Query.Alike.request enough (asks 0 (Nat.zero_lt_succ count))).bind
        fun answer => (stepAlike state answer).bind fun next => ?_
      apply inductionHypothesis next
      intro offset below
      have asked := asks (offset + 1) (Nat.succ_lt_succ below)
      rwa [Nat.add_comm offset 1, ← Nat.add_assoc] at asked

theorem foldRows_alike {room room' : Nat} (range : Range)
    (enough : rooms.leave Nesting.lookup room room')
    (stepAlike : ∀ state item, Query.Alike likeness (step state item) (step state item))
    (asks : ∀ row column room room', row ≤ range.bottom → column ≤ range.right →
      rooms.leave 0 room room' →
        likeness.asks room (Coord.nameOf row column) room' (Coord.nameOf row column))
    (count : Nat) {row : Nat} (inside : row + count ≤ range.bottom + 1) (state : β) :
    Query.Alike likeness (range.foldRows room step row count state)
      (range.foldRows room' step row count state) := by
  induction count generalizing row state with
  | zero => exact Query.Alike.done state
  | succ count inductionHypothesis =>
      rw [foldRows, foldRows]
      refine (foldRow_alike enough stepAlike row range.width state ?_).bind fun next =>
        inductionHypothesis (by omega) next
      intro offset below room room' left
      have leftLeRight := range.left_le_right
      rw [width] at below
      exact asks row (range.left + offset) room room' (by omega) (by omega) left

theorem foldCells_alike {room room' : Nat} {text text' : Text} {range : Range}
    (related : texts.related text text') (written : ofText? text = .ok (some range))
    (enough : rooms.leave Nesting.lookup room room')
    (stepAlike : ∀ state item, Query.Alike likeness (step state item) (step state item))
    (state : β) :
    Query.Alike likeness (range.foldCells room step state)
      (range.foldCells room' step state) := by
  have topLeBottom := range.top_le_bottom
  exact foldRows_alike range enough stepAlike (texts.asks_cell related written) range.height
    (by rw [height]; omega) state

end Range

/-! ## Calls -/

/-- Calls that stand for one another: they have like arguments, and evaluate like
texts alike in rooms that leave `spare`. -/
structure Call.Alike (texts : Texts likeness rooms) (spare : Nat) (call call' : Call) :
    Prop where
  arguments : List.Forall₂ texts.related call.arguments call'.arguments
  expression {room room' : Nat} {text text' : Text} : texts.related text text' →
    rooms.leave spare room room' →
      Query.Alike likeness (call.expression room text) (call'.expression room' text')

/-- The room that a function takes inside its call, at most. -/
def Nesting.body : Nat := collection + (numbers + (items + argument))

namespace Call

variable {β : Type} {spare : Nat} {call call' : Call}

theorem Alike.withRoom (alike : Call.Alike texts spare call call') (room room' : Nat) :
    Call.Alike texts spare { call with room := room } { call' with room := room' } :=
  ⟨alike.arguments, alike.expression⟩

/-- Opening something inside like calls. -/
theorem Alike.within (alike : Call.Alike texts spare call call') {share more : Nat}
    (enough : rooms.leave (share + more) call.room call'.room)
    {inner inner' : Call → Query β}
    (innerAlike : ∀ {call call' : Call}, Call.Alike texts spare call call' →
      rooms.leave more call.room call'.room →
        Query.Alike likeness (inner call) (inner' call')) :
    Query.Alike likeness (call.within share inner) (call'.within share inner') :=
  Query.Alike.within enough fun left => innerAlike (alike.withRoom _ _) left

theorem Alike.evaluate (alike : Call.Alike texts spare call call')
    (enough : rooms.leave (Nesting.argument + spare) call.room call'.room)
    {text text' : Text} (related : texts.related text text') :
    Query.Alike likeness (call.evaluate text) (call'.evaluate text') :=
  alike.within enough fun inner left => inner.expression related left

theorem range?_alike {text text' : Text} (related : texts.related text text') :
    Query.Alike likeness (range? text) (range? text') := by
  rw [range?, range?, ← texts.range_eq related]
  cases read : Range.ofText? text with
  | ok range => exact Query.Alike.done range
  | error fault => exact Query.Alike.fail (texts.fails_range related read)

theorem Alike.foldItems (alike : Call.Alike texts spare call call')
    (enough : rooms.leave (Nesting.items + (Nesting.argument + spare)) call.room call'.room)
    {step : β → CellValue → Query β}
    (stepAlike : ∀ state item, Query.Alike likeness (step state item) (step state item))
    {text text' : Text} (related : texts.related text text') (state : β) :
    Query.Alike likeness (call.foldItems step state text)
      (call'.foldItems step state text') := by
  refine alike.within enough fun inner left => ?_
  rw [← texts.isEmpty_eq related]
  cases text.isEmpty with
  | true => exact Query.Alike.error .blankArgument
  | false =>
      simp only [Bool.false_eq_true, if_false]
      rw [range?, range?, ← texts.range_eq related]
      cases read : Range.ofText? text with
      | error fault => exact Query.Alike.fail (texts.fails_range related read)
      | ok written =>
          simp only [Query.bind_done]
          cases written with
          | some range =>
              refine Range.foldCells_alike related read ?_ stepAlike state
              exact rooms.mono (by simp only [Nesting.lookup, Nesting.argument]; omega) left
          | none =>
              exact (inner.evaluate left related).caught.bind fun item =>
                stepAlike state item

theorem Alike.foldNumbers (alike : Call.Alike texts spare call call')
    (enough : rooms.leave
      (Nesting.numbers + (Nesting.items + (Nesting.argument + spare))) call.room call'.room)
    (step : β → Number → β) {text text' : Text} (related : texts.related text text')
    (state : β) :
    Query.Alike likeness (call.foldNumbers step state text)
      (call'.foldNumbers step state text') :=
  alike.within enough fun inner left =>
    inner.foldItems left (fun _ item => (Query.Alike.number item).map _) related state

theorem Alike.foldAll (alike : Call.Alike texts spare call call')
    (enough : rooms.leave
      (Nesting.numbers + (Nesting.items + (Nesting.argument + spare))) call.room call'.room)
    (step : β → Number → β) (state : β) :
    Query.Alike likeness (call.foldAll step state) (call'.foldAll step state) :=
  Query.Alike.foldlM texts.related
    (fun state _ _ related => alike.foldNumbers enough step related state)
    alike.arguments state

end Call

/-! ## Built-in functions -/

/-- A function holds like conversations in like calls. -/
def FunctionBody.Respects (texts : Texts likeness rooms) (body : FunctionBody) : Prop :=
  ∀ {spare : Nat} {call call' : Call}, Call.Alike texts spare call call' →
    rooms.leave (Nesting.body + spare) call.room call'.room →
      Query.Alike likeness (body call) (body call')

namespace Function

theorem sum_respects : FunctionBody.Respects texts sum := by
  intro spare call call' alike enough
  exact alike.foldAll (rooms.mono (by simp only [Nesting.body]; omega) enough) _ _

theorem average_respects : FunctionBody.Respects texts average := by
  intro spare call call' alike enough
  exact (alike.foldAll (rooms.mono (by simp only [Nesting.body]; omega) enough) _ _).bind
    fun _ => Query.Alike.done _

theorem extreme_respects (choose : Number → Number → Number) :
    FunctionBody.Respects texts (extreme choose) := by
  intro spare call call' alike enough
  have inside : rooms.leave (Nesting.collection +
      (Nesting.numbers + (Nesting.items + (Nesting.argument + spare))))
      call.room call'.room :=
    rooms.mono (by simp only [Nesting.body]; omega) enough
  exact (alike.within inside fun inner left => inner.foldAll left _ _).bind
    fun _ => Query.Alike.done _

theorem count_respects : FunctionBody.Respects texts count := by
  intro spare call call' alike enough
  refine Query.Alike.bind ?_ fun total => Query.Alike.done _
  refine Query.Alike.foldlM texts.related ?_ alike.arguments 0
  intro total text text' related
  refine (Call.range?_alike related).bind fun range => ?_
  exact alike.foldItems (rooms.mono (by simp only [Nesting.body]; omega) enough)
    (fun total item => Query.Alike.done _) related total

theorem rounded_alike (value places : Number) :
    Query.Alike likeness (rounded value places) (rounded value places) := by
  rw [rounded]
  cases roundTo value places with
  | ok result => exact Query.Alike.done result
  | error fault => exact Query.Alike.error (.rounding fault)

theorem round_respects : FunctionBody.Respects texts round := by
  intro spare call call' alike enough
  have inside : rooms.leave (Nesting.argument + spare) call.room call'.room :=
    rooms.mono (by simp only [Nesting.body]; omega) enough
  unfold round
  have related := alike.arguments
  generalize call.arguments = arguments, call'.arguments = arguments' at related ⊢
  cases related with
  | nil => exact Query.Alike.error _
  | cons value rest =>
      cases rest with
      | nil =>
          exact (alike.evaluate inside value).bind fun number => rounded_alike number _
      | cons places rest =>
          cases rest with
          | nil =>
              exact (alike.evaluate inside value).bind fun number =>
                (alike.evaluate inside places).bind fun digits =>
                  rounded_alike number digits
          | cons third rest =>
              simp only [List.length_cons, rest.length_eq]
              exact Query.Alike.error _

theorem choose_alike {spare : Nat} {call call' : Call}
    (alike : Call.Alike texts spare call call')
    (enough : rooms.leave (Nesting.argument + spare) call.room call'.room)
    {condition condition' whenTrue whenTrue' : Text} {whenFalse whenFalse' : Option Text}
    (conditions : texts.related condition condition')
    (whenTrues : texts.related whenTrue whenTrue')
    (whenFalses : Option.Rel texts.related whenFalse whenFalse') :
    Query.Alike likeness (choose call condition whenTrue whenFalse)
      (choose call' condition' whenTrue' whenFalse') := by
  refine (alike.evaluate enough conditions).bind fun value => ?_
  rw [← texts.isEmpty_eq whenTrues]
  cases whenTrue.isEmpty with
  | true => exact Query.Alike.error .blankChoice
  | false =>
      cases value.isSignificant with
      | true => exact alike.evaluate enough whenTrues
      | false =>
          cases whenFalses with
          | some related => exact alike.evaluate enough related
          | none => exact Query.Alike.done _

theorem ifThen_respects : FunctionBody.Respects texts ifThen := by
  intro spare call call' alike enough
  have inside : rooms.leave (Nesting.argument + spare) call.room call'.room :=
    rooms.mono (by simp only [Nesting.body]; omega) enough
  unfold ifThen
  have related := alike.arguments
  generalize call.arguments = arguments, call'.arguments = arguments' at related ⊢
  cases related with
  | nil => exact Query.Alike.error _
  | cons condition rest =>
      cases rest with
      | nil => exact Query.Alike.error _
      | cons whenTrue rest =>
          cases rest with
          | nil => exact choose_alike alike inside condition whenTrue .none
          | cons whenFalse rest =>
              cases rest with
              | nil => exact choose_alike alike inside condition whenTrue (.some whenFalse)
              | cons fourth rest =>
                  simp only [List.length_cons, rest.length_eq]
                  exact Query.Alike.error _

theorem decideBy_alike {spare : Nat} {call call' : Call}
    (alike : Call.Alike texts spare call call')
    (enough : rooms.leave (Nesting.argument + spare) call.room call'.room)
    (decides : Number → Bool) (decision : Bool) {arguments arguments' : List Text}
    (related : List.Forall₂ texts.related arguments arguments') :
    Query.Alike likeness (decideBy call decides decision arguments)
      (decideBy call' decides decision arguments') := by
  induction related with
  | nil => exact Query.Alike.done _
  | cons first _ inductionHypothesis =>
      refine (alike.evaluate enough first).bind fun value => ?_
      cases decides value with
      | true => exact Query.Alike.done _
      | false => exact inductionHypothesis

theorem and_respects : FunctionBody.Respects texts and := by
  intro spare call call' alike enough
  exact decideBy_alike alike (rooms.mono (by simp only [Nesting.body]; omega) enough) _ _
    alike.arguments

theorem or_respects : FunctionBody.Respects texts or := by
  intro spare call call' alike enough
  exact decideBy_alike alike (rooms.mono (by simp only [Nesting.body]; omega) enough) _ _
    alike.arguments

theorem not_respects : FunctionBody.Respects texts not := by
  intro spare call call' alike enough
  have inside : rooms.leave (Nesting.argument + spare) call.room call'.room :=
    rooms.mono (by simp only [Nesting.body]; omega) enough
  unfold not
  have related := alike.arguments
  generalize call.arguments = arguments, call'.arguments = arguments' at related ⊢
  cases related with
  | nil => exact Query.Alike.error _
  | cons argument rest =>
      cases rest with
      | nil => exact (alike.evaluate inside argument).bind fun value => Query.Alike.done _
      | cons second rest =>
          simp only [List.length_cons, rest.length_eq]
          exact Query.Alike.error _

end Function

/-- Every built-in function respects every likeness. -/
theorem Builtin.body_respects (builtin : Builtin) :
    FunctionBody.Respects texts builtin.body := by
  cases builtin with
  | sum => exact Function.sum_respects
  | round => exact Function.round_respects
  | average => exact Function.average_respects
  | min => exact Function.extreme_respects Number.earlierMin
  | max => exact Function.extreme_respects Number.earlierMax
  | count => exact Function.count_respects
  | ifThen => exact Function.ifThen_respects
  | and => exact Function.and_respects
  | or => exact Function.or_respects
  | not => exact Function.not_respects

/-- So does every host function, where only one text stands for a text and every
failure stands for itself. -/
theorem HostFunction.body_respects
    (same : ∀ {text text' : Text}, texts.related text text' → text = text')
    (fails : ∀ failure, likeness.fails failure failure) (host : HostFunction) :
    FunctionBody.Respects texts host.body := by
  intro spare call call' alike enough
  have numbers : rooms.leave
      (Nesting.numbers + (Nesting.items + (Nesting.argument + spare)))
      call.room call'.room :=
    rooms.mono (by simp only [Nesting.body]; omega) enough
  have arguments : call.arguments = call'.arguments := by
    have equal : ∀ {first second : List Text},
        List.Forall₂ texts.related first second → first = second := by
      intro first second related
      induction related with
      | nil => rfl
      | cons head _ inductionHypothesis => rw [same head, inductionHypothesis]
    exact equal alike.arguments
  cases host with
  | constant value => exact Query.Alike.done value
  | argumentCount =>
      simp only [body, arguments]
      exact Query.Alike.done _
  | rawLength =>
      simp only [body, arguments]
      exact Query.Alike.done _
  | lastValue =>
      have related := alike.arguments
      simp only [body, ← arguments] at related ⊢
      cases last : call.arguments.getLast? with
      | none => exact Query.Alike.done _
      | some argument =>
          have self : texts.related argument argument :=
            List.forall₂_same.mp related argument (List.mem_of_getLast? last)
          exact alike.evaluate
            (rooms.mono (by simp only [Nesting.body]; omega) enough) self
  | product => exact alike.foldAll numbers _ _
  | errorCount =>
      refine Query.Alike.bind ?_ fun total => Query.Alike.done _
      refine Query.Alike.foldlM texts.related ?_ alike.arguments 0
      intro total text text' related
      refine alike.foldItems (rooms.mono (by omega) numbers) ?_ related total
      intro total item
      cases item <;> exact Query.Alike.done _
  | giveUp code detail =>
      simp only [body]
      cases ErrorCode.ofText? code with
      | some code => exact Query.Alike.error _
      | none => exact Query.Alike.fail (fails _)
  | breakDown message => exact Query.Alike.fail (fails _)

end Spreadsheet
