import Spreadsheet.Function.Call

/-!
# Host functions

A program that uses the library can register functions of its own.  The ones
described here are the common building blocks: constants, functions of the raw
argument texts, functions of the arguments' values, and functions that fail.
-/

namespace Spreadsheet

/-- A host function, by what it does. -/
inductive HostFunction where
  /-- The same number every time. -/
  | constant (value : Number)
  /-- How many arguments there are. -/
  | argumentCount
  /-- How many characters the arguments have together. -/
  | rawLength
  /-- The value of the last argument, and minus one if there is none. -/
  | lastValue
  /-- The product of all numbers. -/
  | product
  /-- How many items are error codes. -/
  | errorCount
  /-- Give up with an error code and a detail. -/
  | giveUp (code : Text) (detail : Text)
  /-- Break down. -/
  | breakDown (message : Text)
  deriving DecidableEq

namespace HostFunction

/-- What the function does. -/
def body : HostFunction → FunctionBody
  | constant value => fun _ => .done value
  | argumentCount => fun call => .done (.ofNat call.arguments.length)
  | rawLength => fun call =>
      .done (.ofNat (call.arguments.foldl (fun total argument => total + argument.length) 0))
  | lastValue => fun call =>
      match call.arguments.getLast? with
      | some argument => call.evaluate argument
      | none => .done (-.ofNat 1)
  | product => fun call => call.foldAll (· * ·) (.ofNat 1)
  | errorCount => fun call => do
      let total ← call.arguments.foldlM (fun total argument =>
        call.foldItems (fun total item =>
          match item with
          | .number _ => pure total
          | .error _ => pure (total + 1)) total argument) 0
      pure (.ofNat total)
  | giveUp code detail => fun _ =>
      match ErrorCode.ofText? code with
      | some code => .error (.host code detail)
      | none => .fail (.escape (.hostBreakdown (ErrorCode.unknownMessage code).toList))
  | breakDown message => fun _ => .fail (.escape (.hostBreakdown message))

end HostFunction

end Spreadsheet
