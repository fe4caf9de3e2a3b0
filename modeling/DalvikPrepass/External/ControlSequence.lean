/-!
# Control sequences

A text may hold characters that a terminal does not show but obeys, alone or in
sequences such as the ones that set a colour.  What is logged is free of them.

A sequence that is never finished hides what comes after it.  But a control
sequence lets white space through, and what is shown directly after that is
shown as if no sequence were open.

This stands for the library that writes log lines to an output which is no
terminal.  Nothing is proved of it, and no result on the pre-pass rests on it.
-/

namespace DalvikPrepass.ControlSequence

/-- Where a terminal stands within a sequence. -/
inductive State where
  /-- Between sequences. -/
  | ground
  | escape
  | escapeIntermediate
  | control
  | deviceEntry
  | deviceParameters
  | deviceIntermediate
  /-- In a string that only another sequence ends. -/
  | string
  /-- In a command, which a bell ends as well. -/
  | command
  deriving DecidableEq, Repr

/-- Whether a character is shown itself. -/
def isGraphic (char : Char) : Bool :=
  ' ' ≤ char && char ≤ '~'

/-- Whether a character only moves the place where the next one is shown. -/
def isLayout (char : Char) : Bool :=
  char = '\t' || char = '\n' || char = '\x0c' || char = '\r'

/-- Whether a character is one of ASCII. -/
def isNarrow (char : Char) : Bool :=
  char.toNat < 0x80

namespace State

/-- Whether a character of ASCII is shown. -/
def shows (state : State) (char : Char) : Bool :=
  match state with
  | ground => isGraphic char || isLayout char
  | escape | escapeIntermediate | control => isLayout char
  | _ => false

/-- The state after the character that follows the escape character. -/
def afterEscape (char : Char) : State :=
  match char with
  | 'P' => deviceEntry
  | 'X' | '^' | '_' => string
  | '[' => control
  | ']' => command
  | _ => if char < ' ' || char = '\x7f' then escape
      else if char ≤ '/' then escapeIntermediate
      else ground

/-- The state after a character of ASCII. -/
def after (state : State) (char : Char) : State :=
  if char = '\x18' || char = '\x1a' then ground
  else if char = '\x1b' then escape
  else match state with
    | ground => ground
    | escape => afterEscape char
    | escapeIntermediate =>
        if char ≤ '/' || char = '\x7f' then escapeIntermediate else ground
    | control => if char ≤ '?' || char = '\x7f' then control else ground
    | deviceEntry =>
        if char < ' ' || char = '\x7f' then deviceEntry
        else if char ≤ '/' then deviceIntermediate
        else if char ≤ '?' then deviceParameters
        else string
    | deviceParameters =>
        if char < ' ' || char = '\x7f' then deviceParameters
        else if char ≤ '/' then deviceIntermediate
        else if char ≤ ';' then deviceParameters
        else string
    | deviceIntermediate =>
        if char ≤ '/' || char = '\x7f' then deviceIntermediate else string
    | string => string
    | command => if char = '\x07' then ground else command

/-- The state after a character that is not one of ASCII and not shown.  The byte
`0x9c` in it counts as the end of a string. -/
def afterWide (state : State) (char : Char) : State :=
  if state = string && (String.utf8EncodeChar char).contains 0x9c then ground else state

end State

/-- What is shown of the characters; `passing` says whether the one before them
was shown. -/
def shownFrom (state : State) (passing : Bool) : List Char → List Char
  | [] => []
  | char :: rest =>
      if isNarrow char then
        if passing && State.ground.shows char then char :: shownFrom state true rest
        else if state.shows char then char :: shownFrom (state.after char) true rest
        else shownFrom (state.after char) false rest
      else if passing || state = .ground then char :: shownFrom .ground true rest
      else shownFrom (state.afterWide char) false rest

/-- What a terminal shows of a text. -/
def strip (text : String) : String :=
  String.ofList (shownFrom .ground false text.toList)

end DalvikPrepass.ControlSequence
