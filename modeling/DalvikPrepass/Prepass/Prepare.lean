import DalvikPrepass.Prepass.TryTable
import DalvikPrepass.Prepass.Widths

/-!
# Preparing a method

Both passes in turn, on annotations of their own.
-/

namespace DalvikPrepass.Prepass

/-- A method that passed. -/
structure Prepared where
  annotations : Annotations
  /-- Number of `new-instance` instructions. -/
  newInstances : Nat
  deriving DecidableEq, Repr

/-- Splits the method into instructions and checks its exception table. -/
def prepare (method : MethodCode) (lookup : WidthLookup) (sink : Sink) : Pass Prepared := do
  let length := method.code.length
  let scan ← recordWidths method lookup (Annotations.blank length) sink
  let annotations ← markTries method scan.annotations sink
  if let some id := method.method then
    Pass.log .debug .prepare
      ("prepared " ++ id.shown ++ ": " ++ toString length ++ " code units")
  return ⟨annotations, scan.newInstances⟩

end DalvikPrepass.Prepass
