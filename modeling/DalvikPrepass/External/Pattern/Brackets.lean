import DalvikPrepass.External.Pattern.Escape

/-!
# Sets in brackets

A set in brackets lists characters, ranges and other sets.  Two sets, each listed
as far as it goes, may be combined by an operation; operations are done from left
to right.
-/

namespace DalvikPrepass

/-- A set of which the brackets have been read in part. -/
structure OpenSet where
  /-- The opening bracket and what belongs to it. -/
  span : Span
  negated : Bool
  /-- The last operation and what stands before it. -/
  pending : Option (SetOperation × SetExpression)
  /-- Where the list since then starts. -/
  listStart : Position
  /-- What has been listed since then, last one first. -/
  items : List SetExpression
  deriving Repr

namespace OpenSet

def add (set : OpenSet) (item : SetExpression) : OpenSet :=
  { set with items := item :: set.items }

/-- The list since the last operation. -/
def list (set : OpenSet) : SetExpression :=
  match set.items, set.items.reverse with
  | last :: _ :: _, first :: rest => .union (first.span.through last.span) (first :: rest)
  | [item], _ => item
  | _, _ => .empty (.point set.listStart)

/-- All that has been read of the set. -/
def content (set : OpenSet) : SetExpression :=
  match set.pending with
  | none => set.list
  | some (operation, left) =>
      .operation (left.span.through set.list.span) operation left set.list

/-- Puts an operation behind all that has been read, which ends at `position`. -/
def operate (set : OpenSet) (operation : SetOperation) (position : Position) : OpenSet :=
  { set with pending := some (operation, set.content), listStart := position, items := [] }

/-- The hyphens at the front, which are members where they come first; last one
first. -/
def readHyphens (items : List SetExpression) (scan : Scan) : List SetExpression × Scan :=
  match hrest : scan.rest with
  | '-' :: _ =>
      have : scan.step.rest.length < scan.rest.length := Scan.length_rest_step_lt hrest
      readHyphens (.member (.literal ⟨scan.frontSpan, '-', false⟩) :: items) scan.step
  | _ => (items, scan)
termination_by scan.rest.length

/-- Reads an opening bracket and what belongs to it: a negation, hyphens or, in
their place, a closing bracket as a member. -/
def read (scan : Scan) : Reading (OpenSet × Scan) := do
  let start := scan.position
  let scan := scan.step
  let (negated, scan) := if scan.startsWith ['^'] then (true, scan.step) else (false, scan)
  if scan.rest.isEmpty then
    .fault .unclosedSet (scan.since start)
  let listStart := scan.position
  let (items, scan) := readHyphens [] scan
  if scan.rest.isEmpty then
    .fault .unclosedSet (.point start)
  let bracketFirst := items.isEmpty && scan.startsWith [']']
  let items := if bracketFirst then [.member (.literal ⟨scan.frontSpan, ']', false⟩)] else items
  let scan := if bracketFirst then scan.step else scan
  if scan.rest.isEmpty then
    .fault .unclosedSet (scan.since start)
  return (⟨scan.since start, negated, none, listStart, items⟩, scan)

end OpenSet

namespace SetOperation

/-- The operation that is written by two of these characters. -/
def ofChar : Char → Option SetOperation
  | '&' => some intersection
  | '-' => some difference
  | '~' => some symmetricDifference
  | _ => none

/-- The operation at the front. -/
def atFront (scan : Scan) : Option SetOperation :=
  match scan.rest with
  | first :: second :: _ => if first = second then ofChar first else none
  | _ => none

end SetOperation

namespace SetExpression

/-- The name of a set between `[:` and `:]` at the front. -/
def readNamed (scan : Scan) : Option (SetExpression × Scan) :=
  match scan.rest with
  | '[' :: ':' :: rest =>
      let negated := rest.head? = some '^'
      let rest := if negated then rest.tail else rest
      let name := rest.takeWhile (· ≠ ':')
      match rest.drop name.length, CharSet.ofName? (String.ofList name) with
      | ':' :: ']' :: _, some set =>
          let length := name.length + if negated then 5 else 4
          let after := scan.advanceOver (scan.rest.take length)
          some (.named (after.since scan.position) set negated, after)
      | _, _ => none
  | _ => none

/-- One character or escape sequence. -/
def readItem (scan : Scan) : Reading (Escape × Scan) :=
  match scan.rest with
  | [] => .fault .unclosedSet scan.here
  | char :: _ =>
      if char = '\\' then Escape.read scan
      else .ok (.member (.literal ⟨scan.frontSpan, char, false⟩), scan.advance)

/-- The character that an end of a range is. -/
def rangeEnd : Escape → Reading Literal
  | .member (.literal value) => .ok value
  | other => .fault .rangeOfSets other.span

/-- A single character or set or a range of characters, in a set that `openSpan`
opens.  A hyphen before another one or before the closing bracket makes no range. -/
def readRange (openSpan : Span) (scan : Scan) : Reading (SetExpression × Scan) := do
  let (first, scan) ← readItem scan
  let scan := scan.skipGap
  if scan.rest.isEmpty then
    .fault .unclosedSet openSpan
  if scan.startsWith ['-'] && scan.peek? ≠ some ']' && scan.peek? ≠ some '-' then
    let scan := scan.step
    if scan.rest.isEmpty then
      .fault .unclosedSet openSpan
    let (last, scan) ← readItem scan
    let span := first.span.through last.span
    let first ← rangeEnd first
    let last ← rangeEnd last
    if last.char < first.char then
      .fault .reversedRange span
    return (range span first last, scan)
  else
    match first with
    | .member value => return (member value, scan)
    | .place span _ => .fault .assertionInSet span

/-- The rest of a set up to its closing bracket, within the innermost open set and
those around it. -/
def readFrom : (budget : Nat) → OpenSet → (outer : List OpenSet) → Scan →
    Reading (SetExpression × Scan)
  | 0, _, _, scan => .fault .budgetExhausted scan.here
  | budget + 1, set, outer, scan =>
      let scan := scan.skipGap
      match scan.rest, outer with
      | [], _ => .fault .unclosedSet set.span
      | ']' :: _, [] =>
          let after := scan.advance
          .ok (brackets (after.since set.span.start) set.negated set.content, after)
      | ']' :: _, around :: outer =>
          let after := scan.advance
          let closed := brackets (after.since set.span.start) set.negated set.content
          readFrom budget (around.add closed) outer after
      | '[' :: _, _ =>
          match readNamed scan with
          | some (item, after) => readFrom budget (set.add item) outer after
          | none => do
              let (inner, after) ← OpenSet.read scan
              readFrom budget inner (set :: outer) after
      | _, _ =>
          match SetOperation.atFront scan with
          | some next =>
              let after := scan.advance.advance
              readFrom budget (set.operate next after.position) outer after
          | none => do
              let (item, after) ← readRange set.span scan
              readFrom budget (set.add item) outer after

/-- The set whose opening bracket is at the front, and the scan after it. -/
def read (scan : Scan) : Reading (SetExpression × Scan) := do
  let (set, after) ← OpenSet.read scan
  readFrom (after.rest.length + 1) set [] after

end SetExpression

end DalvikPrepass
