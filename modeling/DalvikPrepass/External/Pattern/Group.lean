import DalvikPrepass.External.CharSet.Letters
import DalvikPrepass.External.Pattern.Expression
import DalvikPrepass.External.Pattern.Scan

/-!
# The opening of a group

After its parenthesis a group may have a name or flags.  Flags without a group go
on to the end of the group around them.
-/

namespace DalvikPrepass

/-- A flag, or the hyphen that switches off those after it, and its place. -/
structure FlagItem where
  /-- Without a flag the item is the hyphen. -/
  flag : Option Flag
  span : Span
  deriving DecidableEq, Repr

namespace FlagItem

def ofChar (char : Char) : Option (Option Flag) :=
  if char = '-' then some none else (Flag.ofChar char).map some

/-- What the items switch. -/
def changes (items : List FlagItem) : FlagChanges :=
  let on := items.takeWhile (·.flag.isSome)
  let off := items.drop on.length
  on.filterMap (fun item => item.flag.map (·, true)) ++
    off.filterMap (fun item => item.flag.map (·, false))

/-- Reads items up to a colon or a closing parenthesis, after those in `items`, last
one first. -/
def read (items : List FlagItem) (scan : Scan) : Reading (List FlagItem × Scan) :=
  match hrest : scan.rest with
  | [] => .fault .unfinishedFlags scan.here
  | char :: _ =>
      if char = ':' || char = ')' then
        match items with
        | ⟨none, span⟩ :: _ => .fault .danglingFlagNegation span
        | _ => .ok (items.reverse, scan)
      else match ofChar char with
        | none => .fault .unknownFlag scan.frontSpan
        | some flag =>
            match items.find? (·.flag = flag) with
            | some earlier =>
                .repeatedAt (if flag.isNone then .repeatedFlagNegation else .duplicateFlag)
                  scan.frontSpan earlier.span
            | none =>
                have : scan.advance.rest.length < scan.rest.length := by
                  simp [Scan.advance, hrest]
                read (⟨flag, scan.frontSpan⟩ :: items) scan.advance
termination_by scan.rest.length

end FlagItem

/-- The name of a group and its place. -/
structure GroupName where
  name : String
  span : Span
  deriving DecidableEq, Repr

namespace GroupName

def isStart (char : Char) : Bool :=
  char = '_' || CharSet.letters.contains char

def isPart (char : Char) : Bool :=
  isStart char || CharSet.numerals.contains char || char = '.' || char = '[' || char = ']'

/-- Reads a name and the mark behind it, where the groups before have `names`. -/
def read (names : List GroupName) (scan : Scan) : Reading (GroupName × Scan) :=
  let name := match scan.rest with
    | first :: rest => if isStart first then first :: rest.takeWhile isPart else []
    | [] => []
  let after := scan.advanceOver name
  let span := after.since scan.position
  match after.rest with
  | [] => .fault .unfinishedGroupName after.here
  | '>' :: _ =>
      if name.isEmpty then .fault .emptyGroupName scan.here
      else
        let name := String.ofList name
        match names.find? (·.name = name) with
        | some earlier => .repeatedAt .duplicateGroupName span earlier.span
        | none => .ok (⟨name, span⟩, after.advance)
  | _ => .fault .invalidGroupName after.frontSpan

end GroupName

/-- What an opening parenthesis and the characters after it start. -/
inductive GroupOpening where
  | flags (changes : FlagChanges)
  | group (kind : GroupKind) (name : Option GroupName)
  deriving DecidableEq, Repr

namespace GroupOpening

/-- The marks of groups that ask for what is around a place. -/
def lookAroundMarks : List (List Char) :=
  [['?', '='], ['?', '!'], ['?', '<', '='], ['?', '<', '!']]

def nameMarks : List (List Char) :=
  [['?', 'P', '<'], ['?', '<']]

/-- Reads flags after the question mark at the front; `opening` is the place of the
parenthesis before it. -/
def readFlags (opening : Span) (scan : Scan) : Reading (GroupOpening × Scan) := do
  let first := scan.advance
  if first.rest.isEmpty then
    .fault .unclosedGroup opening
  let (items, last) ← FlagItem.read [] first
  let changes := FlagItem.changes items
  if last.startsWith [':'] then
    return (group (.plain changes) none, last.advance)
  else if items.isEmpty then
    .fault .nothingToRepeat scan.here
  else
    return (flags changes, last.advance)

/-- Reads the parenthesis at the front and what belongs to it, where the groups
before have `names`. -/
def read (names : List GroupName) (scan : Scan) : Reading (GroupOpening × Scan) :=
  let opening := scan.frontSpan
  let inner := scan.step
  match lookAroundMarks.find? inner.startsWith, nameMarks.find? inner.startsWith with
  | some mark, _ => .fault .lookAround ((inner.advanceOver mark).since opening.start)
  | none, some mark => do
      let (name, after) ← GroupName.read names (inner.advanceOver mark)
      return (group .numbered (some name), after)
  | none, none =>
      if inner.startsWith ['?'] then readFlags opening inner
      else .ok (group .numbered none, inner)

end GroupOpening

end DalvikPrepass
