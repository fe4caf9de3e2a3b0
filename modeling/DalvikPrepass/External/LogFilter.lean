import DalvikPrepass.Diagnostic.Log
import DalvikPrepass.External.Pattern.Written

/-!
# Log filters

A reader of the log says in one setting which lines to show: directives with
commas between them and, after a slash, a pattern that the lines' text has to fit
somewhere.  A directive is `level`, `scope` or `scope=level`; it holds for the
origins whose labels start with its scope.  The one with the longest scope
decides.

What makes no sense in a setting is passed over with a warning.

This stands for the library that reads the setting and filters the log.  Nothing is
proved of it, and no result on the pre-pass rests on it.
-/

namespace DalvikPrepass

/-- A part of a setting that makes no sense. -/
inductive FilterFault where
  | tooManySlashes (setting : String)
  | badDirective (text : String)
  | badPattern (error : PatternError)
  deriving DecidableEq, Repr

def FilterFault.message : FilterFault → String
  | tooManySlashes setting => "invalid logging spec '" ++ setting ++ "' (too many '/'s)"
  | badDirective text => "invalid logging spec '" ++ text ++ "'"
  | badPattern error => "invalid regex filter - " ++ error.message

structure LogDirective where
  /-- Without a scope the directive holds for all origins. -/
  scope : Option String
  /-- Without a threshold nothing is shown. -/
  threshold : Option LogLevel
  deriving DecidableEq, Repr

namespace LogDirective

/-- The threshold with this name; `off` stands for none. -/
def thresholdOfName (name : String) : Option (Option LogLevel) :=
  if name.toUpper = "OFF" then some none else (LogLevel.ofName name).map some

/-- The directive that a text writes.  A scope alone asks for all lines. -/
def ofString (text : String) : Except FilterFault LogDirective :=
  match text.splitOn "=" with
  | [name] =>
      match thresholdOfName name with
      | some threshold => .ok ⟨none, threshold⟩
      | none => .ok ⟨some name, some .trace⟩
  | [scope, level] =>
      let level := CharSet.whiteSpace.trim level
      if level.isEmpty then .ok ⟨some scope, some .trace⟩
      else match thresholdOfName level with
        | some threshold => .ok ⟨some scope, threshold⟩
        | none => .error (.badDirective level)
  | _ => .error (.badDirective text)

def holdsFor (directive : LogDirective) (origin : LogOrigin) : Bool :=
  directive.scope.all fun scope => scope.toList.isPrefixOf origin.label.toList

/-- How closely the directive says for which origins it holds. -/
def closeness (directive : LogDirective) : Nat :=
  (directive.scope.getD "").utf8ByteSize

end LogDirective

structure LogFilter where
  directives : List LogDirective
  /-- What the text of a line has to fit somewhere. -/
  pattern : Option Pattern
  deriving DecidableEq, Repr

namespace LogFilter

/-- Adds a directive or puts it in the place of the one with the same scope. -/
def addDirective (directives : List LogDirective) (directive : LogDirective) :
    List LogDirective :=
  if directives.any fun other => other.scope = directive.scope then
    directives.map fun other => if other.scope = directive.scope then directive else other
  else
    directives ++ [directive]

/-- The directives of a setting and what makes no sense among them.  Where there
are none, only errors are shown. -/
def readDirectives (text : String) : List LogDirective × List FilterFault :=
  let parts := (text.splitOn ",").map CharSet.whiteSpace.trim
  let read := (parts.filter (!·.isEmpty)).map LogDirective.ofString
  let directives := (read.filterMap Except.toOption).foldl addDirective []
  let faults := read.filterMap fun
    | .ok _ => none
    | .error fault => some fault
  (if directives.isEmpty then [⟨none, some .error⟩] else directives, faults)

/-- The filter that a setting asks for and what makes no sense in the setting. -/
def ofString (setting : String) : LogFilter × List FilterFault :=
  match setting.splitOn "/" with
  | [text] =>
      let (directives, faults) := readDirectives text
      (⟨directives, none⟩, faults)
  | [text, pattern] =>
      let (directives, faults) := readDirectives text
      match Pattern.ofString pattern with
      | .ok pattern => (⟨directives, some pattern⟩, faults)
      | .error error => (⟨directives, none⟩, faults ++ [.badPattern error])
  | _ => (⟨(readDirectives "").1, none⟩, [.tooManySlashes setting])

/-- The directive that decides on an origin; of several with the same closeness
the last one. -/
def deciding (filter : LogFilter) (origin : LogOrigin) : Option LogDirective :=
  (filter.directives.filter (·.holdsFor origin)).foldl (fun best directive =>
    if best.any fun best => directive.closeness < best.closeness then best
    else some directive) none

def shows (filter : LogFilter) (line : LogLine) : Bool :=
  (filter.deciding line.origin).any (fun directive =>
    directive.threshold.any line.visibleAt) &&
  filter.pattern.all fun pattern => pattern.occursIn line.text

end LogFilter

end DalvikPrepass
