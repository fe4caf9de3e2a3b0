/-!
# Log lines

A line of the log has a level, from `error`, which matters most, to `trace`, and
an origin.  A reader of the log who sets a threshold sees the lines that matter
at least that much.
-/

namespace DalvikPrepass

inductive LogLevel where
  | error
  | warn
  | info
  | debug
  | trace
  deriving DecidableEq, Repr

namespace LogLevel

def label : LogLevel → String
  | error => "ERROR"
  | warn => "WARN"
  | info => "INFO"
  | debug => "DEBUG"
  | trace => "TRACE"

/-- How many levels matter more. -/
def verbosity : LogLevel → Nat
  | error => 0
  | warn => 1
  | info => 2
  | debug => 3
  | trace => 4

def all : List LogLevel :=
  [error, warn, info, debug, trace]

/-- The level with this label, in upper or lower case. -/
def ofName (name : String) : Option LogLevel :=
  all.find? fun level => level.label == name.toUpper

end LogLevel

/-- The part of the program that a line comes from. -/
inductive LogOrigin where
  | codeItem
  | widths
  | tryTable
  | prepare
  | rejection
  | command
  deriving DecidableEq, Repr

def LogOrigin.label : LogOrigin → String
  | codeItem => "dexvfy_file::code"
  | widths => "dexvfy_verify::widths"
  | tryTable => "dexvfy_verify::tries"
  | prepare => "dexvfy_verify::prepare"
  | rejection => "dexvfy_verify::diag"
  | command => "dexvfy"

structure LogLine where
  level : LogLevel
  origin : LogOrigin
  text : String
  deriving DecidableEq, Repr

/-- Whether a reader with this threshold sees the line. -/
def LogLine.visibleAt (line : LogLine) (threshold : LogLevel) : Bool :=
  line.level.verbosity ≤ threshold.verbosity

end DalvikPrepass
