import Spreadsheet.Proofs.Formula.Width

/-!
# The parts of a text that a formula holds

The names that a formula refers to and the arguments of its calls are parts of
the text that was read: none of their characters is made up, and none is used
twice.  An argument stands between parentheses, so it is shorter than the text.
-/

namespace Spreadsheet

/-- The references in a formula are parts of a text, and so are the arguments of
its calls with parentheses around them. -/
def Formula.PartOf (text : Text) : Formula → Prop :=
  All (fun name => name.Sublist text) fun _ arguments =>
    ∀ argument ∈ arguments, ('(' :: (argument ++ [')'])).Sublist text

/-- What waits for an operand is made of parts of a text. -/
def Frame.PartOf (text : Text) : Frame → Prop
  | .left operand _ => operand.PartOf text
  | _ => True

/-- What has been read of an argument list is part of a text, behind an opening
parenthesis. -/
def ArgumentScan.PartOf (text : Text) (scan : ArgumentScan) : Prop :=
  (∀ argument ∈ scan.finished, ('(' :: argument).Sublist text) ∧
    ('(' :: scan.current.reverse).Sublist text

/-- The token or operand at which reading stands is made of parts of a text. -/
def Edge.PartOf (text : Text) : Edge → Prop
  | .letters name => name.reverse.Sublist text
  | .spacedLetters name => name.reverse.Sublist text
  | .reference name => name.reverse.Sublist text
  | .arguments _ scan => scan.PartOf text
  | .operator formula => formula.PartOf text
  | _ => True

/-- A formula that has been read in part is made of parts of a text. -/
def Reader.PartOf (text : Text) : Reader → Prop
  | .reading _ frames edge => (∀ frame ∈ frames, frame.PartOf text) ∧ edge.PartOf text
  | .trailing formula _ _ => formula.PartOf text
  | .stopped formula => formula.PartOf text

section Growth

variable {text longer : Text} (grows : text.Sublist longer)

include grows

theorem Formula.PartOf.grow {formula : Formula} (part : formula.PartOf text) :
    formula.PartOf longer :=
  All.mono (fun _ name => name.trans grows)
    (fun _ _ arguments argument member => (arguments argument member).trans grows) part

theorem Frame.PartOf.grow {frame : Frame} (part : frame.PartOf text) :
    frame.PartOf longer := by
  cases frame with
  | left operand operator => exact Formula.PartOf.grow grows part
  | sign sign => trivial
  | group => trivial

theorem Edge.PartOf.grow {edge : Edge} (part : edge.PartOf text) : edge.PartOf longer := by
  cases edge with
  | letters name => exact part.trans grows
  | spacedLetters name => exact part.trans grows
  | reference name => exact part.trans grows
  | arguments function scan =>
      constructor
      · intro argument member
        exact (part.1 argument member).trans grows
      · exact part.2.trans grows
  | operator operand => exact Formula.PartOf.grow grows part
  | operand => trivial
  | numeral scan => trivial

end Growth

namespace Reader

variable {text : Text} {operand : Formula} {frames : List Frame}

theorem partOf_close (strength : Nat) (part : operand.PartOf text)
    (parts : ∀ frame ∈ frames, frame.PartOf text) :
    (close strength operand frames).1.PartOf text ∧
      ∀ frame ∈ (close strength operand frames).2, frame.PartOf text := by
  induction frames generalizing operand with
  | nil => exact ⟨part, parts⟩
  | cons frame frames inductionHypothesis =>
      obtain ⟨first, later⟩ := List.forall_mem_cons.mp parts
      cases frame with
      | sign sign => exact inductionHypothesis part later
      | left operand operator =>
          rw [close]
          split
          · exact inductionHypothesis ⟨first, part⟩ later
          · exact ⟨part, parts⟩
      | group => exact ⟨part, parts⟩

theorem partOf_rebuild (part : operand.PartOf text)
    (parts : ∀ frame ∈ frames, frame.PartOf text) : (rebuild operand frames).PartOf text := by
  induction frames generalizing operand with
  | nil => exact part
  | cons frame frames inductionHypothesis =>
      obtain ⟨first, later⟩ := List.forall_mem_cons.mp parts
      cases frame with
      | sign sign => exact inductionHypothesis part later
      | left operand operator => exact inductionHypothesis ⟨first, part⟩ later
      | group => exact inductionHypothesis part later

theorem partOf_unclosed (part : operand.PartOf text)
    (parts : ∀ frame ∈ frames, frame.PartOf text) : (unclosed operand frames).PartOf text := by
  obtain ⟨closed, waiting⟩ := partOf_close 0 part parts
  simp only [unclosed]
  split
  · exact closed
  · exact partOf_rebuild closed waiting

theorem partOf_stepOperator (position : Nat) (c : Char) (part : operand.PartOf text)
    (parts : ∀ frame ∈ frames, frame.PartOf text) :
    (stepOperator position frames operand c).PartOf text := by
  rw [stepOperator]
  split
  · exact ⟨parts, part⟩
  · split
    · next operator _ =>
        obtain ⟨closed, waiting⟩ := partOf_close operator.strength part parts
        exact ⟨List.forall_mem_cons.mpr ⟨closed, waiting⟩, trivial⟩
    · obtain ⟨closed, waiting⟩ := partOf_close 0 part parts
      simp only
      split
      · exact closed
      · next frame outer remaining =>
          split
          · rw [remaining] at waiting
            exact ⟨(List.forall_mem_cons.mp waiting).2, closed⟩
          · exact partOf_rebuild closed waiting

theorem partOf_stepOperand (position : Nat) (c : Char)
    (parts : ∀ frame ∈ frames, frame.PartOf (text ++ [c])) :
    (stepOperand position frames c).PartOf (text ++ [c]) := by
  rw [stepOperand]
  repeat' split
  · exact ⟨parts, trivial⟩
  · exact ⟨List.forall_mem_cons.mpr ⟨trivial, parts⟩, trivial⟩
  · exact ⟨List.forall_mem_cons.mpr ⟨trivial, parts⟩, trivial⟩
  · exact ⟨List.forall_mem_cons.mpr ⟨trivial, parts⟩, trivial⟩
  · exact ⟨parts, trivial⟩
  · exact ⟨parts, List.sublist_append_right text [c]⟩
  · exact partOf_rebuild trivial parts

end Reader

/-- Stripping the argument that is being read keeps it behind its parenthesis. -/
theorem ArgumentScan.PartOf.currentArgument {text : Text} {scan : ArgumentScan}
    (part : scan.PartOf text) : ('(' :: scan.currentArgument).Sublist text :=
  ((Text.strip_sublist scan.current.reverse).cons_cons '(').trans part.2

theorem ArgumentScan.PartOf.step {text : Text} {scan : ArgumentScan}
    (part : scan.PartOf text) (c : Char) :
    match scan.step c with
    | .more next => next.PartOf (text ++ [c])
    | .closed arguments => ∀ argument ∈ arguments,
        ('(' :: (argument ++ [')'])).Sublist (text ++ [c]) := by
  have grows : text.Sublist (text ++ [c]) := List.sublist_append_left text [c]
  have finished : ∀ argument ∈ scan.finished, ('(' :: argument).Sublist (text ++ [c]) :=
    fun argument member => (part.1 argument member).trans grows
  have current : ('(' :: (c :: scan.current).reverse).Sublist (text ++ [c]) := by
    rw [List.reverse_cons]
    exact part.2.append_right [c]
  cases moved : scan.step c with
  | closed arguments =>
      have closing : c = ')' ∧ arguments = scan.close := by
        simp only [ArgumentScan.step] at moved
        repeat' split at moved
        all_goals cases moved
        exact ⟨by assumption, rfl⟩
      obtain ⟨rfl, rfl⟩ := closing
      have behind : ∀ {argument : Text}, ('(' :: argument).Sublist text →
          ('(' :: (argument ++ [')'])).Sublist (text ++ [')']) :=
        fun before => before.append_right [')']
      intro argument member
      rw [ArgumentScan.close] at member
      split at member
      · cases member
      · rcases List.mem_cons.mp (List.mem_reverse.mp member) with rfl | member
        · exact behind part.currentArgument
        · exact behind (part.1 argument member)
  | more next =>
      simp only [ArgumentScan.step] at moved
      repeat' split at moved
      all_goals cases moved
      · exact ⟨finished, current⟩
      · exact ⟨finished, current⟩
      · constructor
        · exact List.forall_mem_cons.mpr ⟨part.currentArgument.trans grows, finished⟩
        · have opening : ['('].Sublist ('(' :: scan.current.reverse) :=
            List.singleton_sublist.mpr List.mem_cons_self
          exact (opening.trans part.2).trans grows
      · exact ⟨finished, current⟩

namespace Reader

theorem PartOf.step {text : Text} {reader : Reader} (part : reader.PartOf text) (c : Char) :
    (reader.step c).PartOf (text ++ [c]) := by
  have grows : text.Sublist (text ++ [c]) := List.sublist_append_left text [c]
  cases reader with
  | trailing formula position rest => exact Formula.PartOf.grow grows part
  | stopped formula => exact Formula.PartOf.grow grows part
  | reading position frames edge =>
      have parts : ∀ frame ∈ frames, frame.PartOf (text ++ [c]) :=
        fun frame member => Frame.PartOf.grow grows (part.1 frame member)
      have edgePart := Edge.PartOf.grow grows part.2
      have bare : ∀ name, (bareWord name).PartOf (text ++ [c]) := fun _ => trivial
      have extended : ∀ {name : Text}, name.reverse.Sublist text →
          (c :: name).reverse.Sublist (text ++ [c]) := by
        intro name before
        rw [List.reverse_cons]
        exact before.append_right [c]
      have opening : c = '(' → ArgumentScan.start.PartOf (text ++ [c]) := by
        rintro rfl
        constructor
        · intro argument member
          cases member
        · exact List.sublist_append_right text ['(']
      cases edge with
      | operand => exact partOf_stepOperand position c parts
      | operator operand => exact partOf_stepOperator position c edgePart parts
      | numeral scan =>
          have operandPart : scan.operand.PartOf (text ++ [c]) := by
            rw [NumeralScan.operand]
            split <;> trivial
          simp only [Reader.step]
          split
          · exact ⟨parts, trivial⟩
          · exact partOf_stepOperator position c operandPart parts
      | letters name =>
          simp only [Reader.step]
          split
          · exact ⟨parts, extended part.2⟩
          · split
            · exact ⟨parts, extended part.2⟩
            · split
              · exact ⟨parts, opening ‹_›⟩
              · split
                · exact ⟨parts, edgePart⟩
                · exact partOf_stepOperator position c (bare name) parts
      | spacedLetters name =>
          simp only [Reader.step]
          split
          · exact ⟨parts, edgePart⟩
          · split
            · exact ⟨parts, opening ‹_›⟩
            · exact partOf_stepOperator position c (bare name) parts
      | reference name =>
          simp only [Reader.step]
          split
          · exact ⟨parts, extended part.2⟩
          · exact partOf_stepOperator position c edgePart parts
      | arguments function scan =>
          have stepped := ArgumentScan.PartOf.step part.2 c
          simp only [Reader.step]
          split
          · next next more =>
              rw [more] at stepped
              exact ⟨parts, stepped⟩
          · next arguments closed =>
              rw [closed] at stepped
              exact ⟨parts, stepped⟩

theorem PartOf.foldl_step {text : Text} {reader : Reader} (part : reader.PartOf text)
    (rest : Text) : (rest.foldl Reader.step reader).PartOf (text ++ rest) := by
  induction rest generalizing text reader with
  | nil => rwa [List.append_nil]
  | cons c rest inductionHypothesis =>
      have later := inductionHypothesis (part.step c)
      rwa [List.append_assoc] at later

theorem PartOf.finish {text : Text} {reader : Reader} (part : reader.PartOf text) :
    reader.finish.PartOf text := by
  cases reader with
  | trailing formula position rest => exact part
  | stopped formula => exact part
  | reading position frames edge =>
      obtain ⟨parts, edgePart⟩ := part
      cases edge with
      | operand => exact partOf_rebuild trivial parts
      | operator operand => exact partOf_unclosed edgePart parts
      | numeral scan =>
          have operandPart : scan.operand.PartOf text := by
            rw [NumeralScan.operand]
            split <;> trivial
          exact partOf_unclosed operandPart parts
      | letters name => exact partOf_unclosed trivial parts
      | spacedLetters name => exact partOf_unclosed trivial parts
      | reference name => exact partOf_unclosed edgePart parts
      | arguments function scan => exact partOf_rebuild trivial parts

end Reader

/-- The formula that a text stands for is made of parts of the text. -/
theorem Formula.partOf_ofText (text : Text) : (ofText text).PartOf text := by
  have started : Reader.start.PartOf [] := by
    constructor
    · intro frame member
      cases member
    · trivial
  exact (started.foldl_step text).finish

end Spreadsheet
