import DalvikPrepass.CodeItem.Parse
import DalvikPrepass.CommandLine.Arguments
import DalvikPrepass.CommandLine.DescriptionText
import DalvikPrepass.External.ControlSequence
import DalvikPrepass.External.LogFilter
import DalvikPrepass.Instruction.Literal
import DalvikPrepass.Report

/-!
# Running a command

What a command prints and how it ends, given what its file holds and which log
lines are asked for.  Log lines and messages go to the same place, in the order
in which they arise.
-/

namespace DalvikPrepass

/-- How a run ends. -/
structure Outcome where
  exitCode : Nat
  output : String
  /-- The text for the error output. -/
  errors : String
  deriving DecidableEq, Repr

namespace Outcome

def success (output errors : String) : Outcome :=
  ⟨0, output, errors⟩

def failure (errors : String) : Outcome :=
  ⟨1, "", errors⟩

/-- The arguments made no sense. -/
def usage : Outcome :=
  ⟨2, "", "usage: check PATH | raw PATH --offset N [--class C] [--name N] [--proto P] | " ++
    "const VALUE...  (flag: --optimizing)\n"⟩

end Outcome

/-- A log line as it is printed; further lines of its text are indented. -/
def LogLine.shown (line : LogLine) : String :=
  let text := line.text.toList.flatMap fun char =>
    if char = '\n' then ['\n', ' ', ' ', ' ', ' '] else [char]
  ControlSequence.strip ("[" ++ Numeral.padRight 5 line.level.label ++ " " ++
    line.origin.label ++ "] " ++ String.ofList text ++ "\n")

/-- What is printed of a record. -/
def LogFilter.shownRecord (filter : LogFilter) (record : Record) : String :=
  String.join ((record.lines.filter filter.shows).map LogLine.shown)

/-- What is printed of a part of the filter's setting that makes no sense. -/
def FilterFault.warning (fault : FilterFault) : String :=
  "warning: " ++ fault.message ++ ", ignoring it\n"

/-- The outcome with the filter that a setting for the log asks for, after warnings
of what makes no sense in the setting. -/
def Outcome.ofSetting (log : Option String) (outcome : LogFilter → Outcome) : Outcome :=
  let (filter, faults) := LogFilter.ofString (log.getD "")
  let outcome := outcome filter
  { outcome with errors := String.join (faults.map FilterFault.warning) ++ outcome.errors }

namespace Invocation

/-- What is logged of a code item that was read at `offset`.  One without try
ranges has no handler list and is not worth a line. -/
def codeItemRecord (offset : Nat) (item : CodeItem) : Record :=
  if item.tries.isEmpty then []
  else
    [.line ⟨.trace, .codeItem,
      "code_item at " ++ Numeral.hex offset ++ ": " ++ toString item.code.length ++
        " code units, " ++ toString item.tries.length ++ " tries, " ++
        toString item.handlers.length ++ " handler bytes"⟩]

/-- What is logged before a method is checked. -/
def checkingRecord (item : CodeItem) (method : MethodId) : Record :=
  [.line ⟨.debug, .command,
    "checking " ++ method.shown ++ ": " ++ toString item.code.length ++ " code units, " ++
      toString item.tries.length ++ " tries"⟩]

/-- The last message on a method that did not pass. -/
def haltMessage (method : MethodId) : Halt → String
  | .rejected defect => "Rejected " ++ method.shown ++ ": " ++ defect.message ++ "\n"
  | .fault _ => "Cannot check " ++ method.shown ++ "\n"

/-- Checks a method, after what is on record already. -/
def checkItem (optimizing : Bool) (filter : LogFilter) (record : Record) (item : CodeItem)
    (method : MethodId) : Outcome :=
  let code := MethodCode.ofCodeItem item (some method)
  let sink := Sink.logger (if optimizing then .optimizing else .runtime)
  match (Prepass.prepare code dalvikWidth sink).runFrom (record ++ checkingRecord item method) with
  | (.ok prepared, record) =>
      .success (Report.render code prepared) (filter.shownRecord record)
  | (.error halt, record) =>
      .failure (filter.shownRecord record ++ haltMessage method halt)

/-- What a file holds, or why it cannot be read. -/
abbrev Contents := Except String ByteArray

def runCheck (optimizing : Bool) (filter : LogFilter) (path : String) (contents : Contents) :
    Outcome :=
  match contents with
  | .error cause => .failure ("Error reading " ++ path ++ ": " ++ cause ++ "\n")
  | .ok bytes =>
      match String.fromUTF8? bytes with
      | none => .failure ("Error reading " ++ path ++ ": this is not UTF-8 text\n")
      | some text =>
          match MethodDescription.ofString text with
          | .error error => .failure ("Error parsing " ++ path ++ ": " ++ error.message ++ "\n")
          | .ok description =>
              match description.codeItem with
              | .error error => .failure ("Error in " ++ path ++ ": " ++ error.message ++ "\n")
              | .ok item => checkItem optimizing filter [] item description.methodId

def runRaw (optimizing : Bool) (filter : LogFilter) (path : String) (offset : Nat)
    (method : MethodId) (contents : Contents) : Outcome :=
  match contents with
  | .error cause => .failure ("Error opening " ++ path ++ ": " ++ cause ++ "\n")
  | .ok bytes =>
      match CodeItem.parse bytes.toList offset with
      | .error error =>
          .failure ("Error parsing code_item at " ++ Numeral.hex offset ++ ": " ++
            error.message ++ "\n")
      | .ok item => checkItem optimizing filter (codeItemRecord offset item) item method

def literalLine (literal : Int32) : String :=
  toString literal.toInt ++ "\t" ++ (LiteralCategory.classify literal).name ++ "\n"

/-- Runs the command with this filter for the log. -/
def runWith (invocation : Invocation) (filter : LogFilter) (contents : Contents) : Outcome :=
  match invocation.command with
  | .check path => runCheck invocation.optimizing filter path contents
  | .raw path offset method => runRaw invocation.optimizing filter path offset method contents
  | .const values => .success (String.join (values.map literalLine)) ""

/-- Runs the command; `log` is the setting for the log. -/
def run (invocation : Invocation) (log : Option String) (contents : Contents) : Outcome :=
  .ofSetting log (invocation.runWith · contents)

end Invocation

end DalvikPrepass
