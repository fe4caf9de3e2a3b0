import DalvikPrepass.Method
import DalvikPrepass.Numeral

/-!
# Arguments

What the program is asked to do.  Three commands are known: `check` and `raw`
take the path of a file, `const` takes numbers.  The flag `--optimizing` may
stand before the command and once more after it.  After `--` nothing counts as
an option.
-/

namespace DalvikPrepass

inductive Command where
  /-- Check the method described in a file. -/
  | check (path : String)
  /-- Check the code item at an offset in a file. -/
  | raw (path : String) (offset : Nat) (method : MethodId)
  /-- Show the category of each literal. -/
  | const (values : List Int32)
  deriving DecidableEq, Repr

/-- The file that the command reads. -/
def Command.path? : Command → Option String
  | check path => some path
  | raw path _ _ => some path
  | const _ => none

structure Invocation where
  optimizing : Bool
  command : Command
  deriving DecidableEq, Repr

/-- The arguments of a command, sorted. -/
structure GivenArguments where
  optimizing : Bool
  /-- Options by name, with their values. -/
  options : List (String × String)
  operands : List String
  deriving Repr

namespace GivenArguments

def empty : GivenArguments :=
  ⟨false, [], []⟩

/-- Whether an argument names an option, so that it cannot be the value of
one.  A single dash does not. -/
def isOption (argument : String) : Bool :=
  argument.startsWith "-" && argument != "-"

/-- Name and value of an argument of the form `--name` or `--name=value`. -/
def splitOption (argument : String) : Option (String × Option String) :=
  match argument.toList with
  | '-' :: '-' :: body =>
      let name := String.ofList (body.takeWhile (· ≠ '='))
      match body.dropWhile (· ≠ '=') with
      | [] => some (name, none)
      | _ :: value => some (name, some (String.ofList value))
  | _ => none

/-- Adds the value of one of the options `known`, which may be given once
each. -/
def addOption (known : List String) (given : GivenArguments) (name value : String) :
    Option GivenArguments :=
  if !known.contains name || given.options.any (fun option => option.1 == name) then
    none
  else
    some { given with options := given.options ++ [(name, value)] }

/-- Sorts the arguments of a command with the options `known`. -/
def collect (known : List String) : GivenArguments → List String → Option GivenArguments
  | given, [] => some given
  | given, argument :: rest =>
      if argument = "--" then
        some { given with operands := given.operands ++ rest }
      else if argument = "--optimizing" then
        if given.optimizing then none
        else collect known { given with optimizing := true } rest
      else if isOption argument then
        match splitOption argument with
        | some (name, some value) =>
            match addOption known given name value with
            | some given => collect known given rest
            | none => none
        | some (name, none) =>
            match rest with
            | value :: rest =>
                if isOption value then none
                else match addOption known given name value with
                  | some given => collect known given rest
                  | none => none
            | [] => none
        | none => none
      else
        collect known { given with operands := given.operands ++ [argument] } rest

/-- The only operand, if it can be a path. -/
def path? (given : GivenArguments) : Option String :=
  match given.operands with
  | [path] => if path.isEmpty then none else some path
  | _ => none

def optionOr (given : GivenArguments) (name fallback : String) : String :=
  (given.options.lookup name).getD fallback

end GivenArguments

namespace Invocation

/-- A byte offset: hexadecimal after `0x` or `0X`, else decimal. -/
def parseOffset (text : String) : Option Nat := do
  let value ← match text.toList with
    | '0' :: 'x' :: digits => Numeral.digitsValue 16 (Numeral.withoutPlus digits)
    | '0' :: 'X' :: digits => Numeral.digitsValue 16 (Numeral.withoutPlus digits)
    | digits => Numeral.digitsValue 10 (Numeral.withoutPlus digits)
  if value < 0x10000000000000000 then some value else none

def parseLiteral (text : String) : Option Int32 := do
  let value ← Numeral.decimalInt text.toList
  if -0x80000000 ≤ value ∧ value < 0x80000000 then some (Int32.ofInt value) else none

def parseCheck (optimizing : Bool) (arguments : List String) : Option Invocation := do
  let given ← GivenArguments.collect [] .empty arguments
  let path ← given.path?
  return ⟨optimizing || given.optimizing, .check path⟩

def parseRaw (optimizing : Bool) (arguments : List String) : Option Invocation := do
  let given ← GivenArguments.collect ["offset", "class", "name", "proto"] .empty arguments
  let path ← given.path?
  let offset ← parseOffset (← given.options.lookup "offset")
  let method :=
    ⟨given.optionOr "class" "LUnknown;", given.optionOr "name" "unknown",
      given.optionOr "proto" "()V"⟩
  return ⟨optimizing || given.optimizing, .raw path offset method⟩

/-- The arguments of `const`: from the first number on, or after `--`, all of
them are numbers. -/
def parseConst (optimizing flagged : Bool) : List String → Option Invocation
  | [] => none
  | argument :: rest =>
      if argument = "--optimizing" then
        if flagged then none else parseConst optimizing true rest
      else do
        let values ← (if argument = "--" then rest else argument :: rest).mapM parseLiteral
        if values.isEmpty then none
        else return ⟨optimizing || flagged, .const values⟩

/-- What the arguments ask for; `none` if they make no sense. -/
def parse (optimizing : Bool) : List String → Option Invocation
  | [] => none
  | argument :: rest =>
      if argument = "--optimizing" then
        if optimizing then none else parse true rest
      else if argument = "check" then parseCheck optimizing rest
      else if argument = "raw" then parseRaw optimizing rest
      else if argument = "const" then parseConst optimizing false rest
      else none

/-- What the program's arguments ask for. -/
def ofArguments (arguments : List String) : Option Invocation :=
  parse false arguments

end Invocation

end DalvikPrepass
