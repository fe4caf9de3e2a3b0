import DalvikPrepass.Defect
import DalvikPrepass.Diagnostic.Log
import DalvikPrepass.Method

/-!
# Reports and where they go

The pre-pass tells a sink of every method that it rejects.  A sink only adds
entries to a record; nothing it does comes back to the pre-pass.
-/

namespace DalvikPrepass

/-- What a run leaves on record. -/
inductive Entry where
  | line (line : LogLine)
  | rejection (method : Option MethodId) (defect : Defect)
  | unresolvedClass (descriptor : String) (method : MethodId)
  deriving DecidableEq, Repr

/-- Everything on record, oldest entry first. -/
abbrev Record := List Entry

namespace Record

/-- The log lines on record. -/
def lines (entries : Record) : List LogLine :=
  entries.filterMap fun
    | .line line => some line
    | _ => none

/-- The log lines on record that a reader with this threshold sees. -/
def linesAt (threshold : LogLevel) (entries : Record) : List LogLine :=
  entries.lines.filter (·.visibleAt threshold)

/-- The rejections on record. -/
def rejections (entries : Record) : List (Option MethodId × Defect) :=
  entries.filterMap fun
    | .rejection method defect => some (method, defect)
    | _ => none

end Record

/-- What a report adds to the record. -/
structure Sink where
  /-- A check failed for the method. -/
  rejection : Option MethodId → Defect → Record
  /-- A class that the method refers to could not be resolved. -/
  unresolvedClass : String → MethodId → Record

/-- When verification happens. -/
inductive VerifyMode where
  /-- As a class is loaded; rejections are worth a warning. -/
  | runtime
  /-- Ahead of time; rejections are expected and stay quiet. -/
  | optimizing
  deriving DecidableEq, Repr

namespace VerifyMode

/-- The mode unless another one is asked for. -/
def standard : VerifyMode := runtime

def name : VerifyMode → String
  | runtime => "Runtime"
  | optimizing => "Optimizing"

end VerifyMode

namespace Sink

/-- Keeps every report as it is. -/
def recorder : Sink where
  rejection method defect := [.rejection method defect]
  unresolvedClass descriptor method := [.unresolvedClass descriptor method]

/-- The warnings that a rejection is worth. -/
def rejectionLines (method : Option MethodId) (defect : Defect) : List LogLine :=
  ⟨.warn, .rejection, "VFY: " ++ defect.message⟩ ::
    method.toList.map fun method => ⟨.warn, .rejection, "VFY:  rejected " ++ method.shown⟩

/-- The error that an unresolved class is worth. -/
def unresolvedClassLine (descriptor : String) (method : MethodId) : LogLine :=
  ⟨.error, .rejection,
    "Could not find class '" ++ dottedDescriptor descriptor ++ "', referenced from method " ++
      dottedDescriptor method.classDescriptor ++ "." ++ method.name⟩

/-- Writes reports to the log, unless the mode is quiet. -/
def logger : VerifyMode → Sink
  | .runtime =>
      { rejection := fun method defect => (rejectionLines method defect).map .line
        unresolvedClass := fun descriptor method =>
          [.line (unresolvedClassLine descriptor method)] }
  | .optimizing =>
      { rejection := fun _ _ => []
        unresolvedClass := fun _ _ => [] }

end Sink

end DalvikPrepass
