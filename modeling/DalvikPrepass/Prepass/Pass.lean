import DalvikPrepass.Annotations
import DalvikPrepass.Diagnostic.Sink

/-!
# Passes

A pass over a method ends with a result, a rejection or a fault, and adds to the
record on its way.  Whoever runs it gets the record in every case.
-/

namespace DalvikPrepass

/-- Why a pass has no result. -/
inductive Halt where
  | rejected (defect : Defect)
  | fault (fault : Fault)
  deriving DecidableEq, Repr

/-- How the program has been built: with debug assertions or without. -/
inductive Build where
  | debug
  | release
  deriving DecidableEq, Repr

abbrev Pass := ReaderT Build (ExceptT Halt (StateM Record))

namespace Pass

variable {α : Type}

/-- The outcome of a pass in this build and the record after it. -/
def runIn (pass : Pass α) (build : Build) (record : Record) : Except Halt α × Record :=
  (pass.run build).run.run record

/-- The outcome of a pass whose assertions are all checked, and the record after
it. -/
abbrev runFrom (pass : Pass α) (record : Record) : Except Halt α × Record :=
  pass.runIn .debug record

/-- Adds entries to the record. -/
def append (entries : Record) : Pass Unit :=
  modify (· ++ entries)

def log (level : LogLevel) (origin : LogOrigin) (text : String) : Pass Unit :=
  append [.line ⟨level, origin, text⟩]

/-- Reports the defect to the sink and ends the pass. -/
def reject (sink : Sink) (method : Option MethodId) (defect : Defect) : Pass α := do
  append (sink.rejection method defect)
  throw (.rejected defect)

/-- The result of a step that may fault. -/
def orFault : Except Fault α → Pass α
  | .ok result => pure result
  | .error fault => throw (.fault fault)

/-- A debug build faults unless the condition holds. -/
def debugAssert (condition : Bool) (fault : Fault) : Pass Unit := do
  match ← read, condition with
  | .debug, false => throw (.fault fault)
  | _, _ => return ()

end Pass

end DalvikPrepass
