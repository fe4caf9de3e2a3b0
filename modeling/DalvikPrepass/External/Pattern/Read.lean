import DalvikPrepass.External.Pattern.Brackets
import DalvikPrepass.External.Pattern.Group
import DalvikPrepass.External.Pattern.Repetition

/-!
# Reading regular expressions

An expression is read from left to right with the open groups on a stack.  When
all is read, the depth of its parts is looked at.
-/

namespace DalvikPrepass

/-- What has been read of a group, or of all that is in no group. -/
structure Draft where
  start : Position
  /-- The alternatives before the last bar, last one first. -/
  earlier : List Expression
  /-- Where the alternative after that bar starts. -/
  lastStart : Position
  /-- The parts of that alternative, last one first. -/
  parts : List Expression
  deriving Repr

namespace Draft

/-- Nothing, at a position. -/
def startingAt (position : Position) : Draft :=
  ⟨position, [], position, []⟩

def add (draft : Draft) (part : Expression) : Draft :=
  { draft with parts := part :: draft.parts }

/-- The last alternative, which ends at `stop`. -/
def alternative (draft : Draft) (stop : Position) : Expression :=
  .ofParts draft.lastStart stop draft.parts.reverse

/-- All that has been read, which ends at `stop`. -/
def expression (draft : Draft) (stop : Position) : Expression :=
  let last := draft.alternative stop
  if draft.earlier.isEmpty then last
  else .alternatives ⟨draft.start, stop⟩ (last :: draft.earlier).reverse

/-- Starts another alternative behind the bar at `stop`. -/
def split (draft : Draft) (stop next : Position) : Draft :=
  { draft with earlier := draft.alternative stop :: draft.earlier, lastStart := next, parts := [] }

/-- The last part, if it is one that can be repeated, and the draft without it. -/
def last? (draft : Draft) : Option (Expression × Draft) :=
  match draft.parts with
  | [] => none
  | .flags .. :: _ => none
  | part :: parts => some (part, { draft with parts })

end Draft

/-- A group that has not been closed. -/
structure OpenGroup where
  /-- Its parenthesis. -/
  opening : Span
  kind : GroupKind
  /-- Whether white space was passed over before the group. -/
  outerSpaced : Bool
  /-- What stands before the group. -/
  outer : Draft
  deriving Repr

namespace Expression

/-- One character, set or place outside of brackets, and the scan after it. -/
def readPart (char : Char) (scan : Scan) : Reading (Expression × Scan) :=
  match char with
  | '[' => do
      let (value, after) ← SetExpression.read scan
      return (set value, after)
  | '\\' => do
      let (escape, after) ← Escape.read scan
      return (ofEscape escape, after)
  | '.' => .ok (dot scan.frontSpan, scan.advance)
  | '^' => .ok (place scan.frontSpan .lineStart, scan.advance)
  | '$' => .ok (place scan.frontSpan .lineEnd, scan.advance)
  | _ => .ok (member (.literal ⟨scan.frontSpan, char, false⟩), scan.advance)

/-- The rest of an expression, within the innermost open group and those around it,
where the groups before have `names`. -/
def readFrom (names : List GroupName) :
    (budget : Nat) → Draft → (groups : List OpenGroup) → Scan → Reading Expression
  | 0, _, _, scan => .fault .budgetExhausted scan.here
  | budget + 1, draft, groups, scan =>
      let scan := scan.skipGap
      match scan.rest, groups with
      | [], [] => .ok (draft.expression scan.position)
      | [], opened :: _ => .fault .unclosedGroup opened.opening
      | '(' :: _, _ => do
          match ← GroupOpening.read names scan with
          | (.flags changes, after) =>
              let spaced := (changes.lookup .spaced).getD after.spaced
              let part := flags (after.since scan.position) changes
              readFrom names budget (draft.add part) groups { after with spaced }
          | (.group kind name, after) =>
              let spaced := match kind with
                | .numbered => after.spaced
                | .plain changes => (changes.lookup .spaced).getD after.spaced
              readFrom (name.toList ++ names) budget (.startingAt after.position)
                (⟨scan.frontSpan, kind, after.spaced, draft⟩ :: groups) { after with spaced }
      | ')' :: _, [] => .fault .unopenedGroup scan.frontSpan
      | ')' :: _, opened :: groups =>
          let after := { scan.advance with spaced := opened.outerSpaced }
          let part := group (after.since opened.opening.start) opened.kind
            (draft.expression scan.position)
          readFrom names budget (opened.outer.add part) groups after
      | '|' :: _, _ =>
          let after := scan.advance
          readFrom names budget (draft.split scan.position after.position) groups after
      | char :: _, _ =>
          match Repetition.read? scan, draft.last? with
          | some _, none => .fault .nothingToRepeat scan.here
          | some read, some (body, draft) => do
              let (repeated, after) ← read
              let part := repetition (after.since body.span.start) body repeated.least
                repeated.most
              readFrom names budget (draft.add part) groups after
          | none, _ => do
              let (part, after) ← readPart char scan
              readFrom names budget (draft.add part) groups after

end Expression

/-! ### The depth of parts -/

/-- The depth behind one more level of parts, the one at `span`. -/
def Reading.deeper (span : Span) (depth : Nat) : Reading Nat :=
  if depth < PatternFault.deepest then .ok (depth + 1) else .fault .tooDeep span

namespace SetExpression

mutual

/-- Refuses parts that are nested too deep, in what is at this depth. -/
def checkDepth (depth : Nat) : SetExpression → Reading Unit
  | brackets span _ content => do checkDepth (← Reading.deeper span depth) content
  | union span items => do checkDepths (← Reading.deeper span depth) items
  | operation span _ left right => do
      let depth ← Reading.deeper span depth
      checkDepth depth left
      checkDepth depth right
  | empty _ | member _ | range .. | named .. => .ok ()

def checkDepths (depth : Nat) : List SetExpression → Reading Unit
  | [] => .ok ()
  | item :: items => do
      checkDepth depth item
      checkDepths depth items

end

end SetExpression

namespace Expression

mutual

/-- Refuses parts that are nested too deep, in what is at this depth. -/
def checkDepth (depth : Nat) : Expression → Reading Unit
  | set value => value.checkDepth depth
  | repetition span body _ _ => do checkDepth (← Reading.deeper span depth) body
  | group span _ body => do checkDepth (← Reading.deeper span depth) body
  | alternatives span parts => do checkDepths (← Reading.deeper span depth) parts
  | sequence span parts => do checkDepths (← Reading.deeper span depth) parts
  | empty _ | flags .. | member _ | dot _ | place .. => .ok ()

def checkDepths (depth : Nat) : List Expression → Reading Unit
  | [] => .ok ()
  | part :: parts => do
      checkDepth depth part
      checkDepths depth parts

end

/-- The expression that a text writes. -/
def ofString (text : String) : Reading Expression := do
  let scan := Scan.ofString text
  let expression ← readFrom [] (scan.rest.length + 1) (.startingAt scan.position) [] scan
  expression.checkDepth 0
  return expression

end Expression

end DalvikPrepass
