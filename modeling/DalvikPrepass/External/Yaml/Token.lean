import DalvikPrepass.External.Yaml.Scalar

/-!
# Tokens

A text is cut into tokens before its structure is read.  Indentation becomes
tokens as well: a block collection opens where a deeper column starts and closes
where a shallower one does.

Whether a value is a key shows only at the `:` after it, unless a `?` stands in
front of it.  So wherever a key may start, its place among the tokens is
remembered, and a `:` puts a key token there.  Such a place is good for one line
and 1024 bytes.
-/

namespace DalvikPrepass.Yaml

inductive Token where
  | documentStart
  | documentEnd
  | blockSequence
  | blockMapping
  | blockEnd
  | flowSequence
  | flowSequenceEnd
  | flowMapping
  | flowMappingEnd
  | blockEntry
  | flowEntry
  | key
  | value
  /-- A scalar's text and whether it was written without quotes. -/
  | scalar (text : String) (plain : Bool)
  deriving DecidableEq, Repr

/-- A place where a key may start. -/
structure KeyPlace where
  /-- Whether nothing but a key can stand there. -/
  required : Bool
  /-- Number of tokens before it. -/
  tokenCount : Nat
  line : Nat
  column : Nat
  index : Nat
  deriving Repr

/-- A text that has been cut into tokens in part. -/
structure TokenScan where
  source : Source
  tokens : Array Token
  /-- Columns of the open block collections, innermost first. -/
  indents : List Nat
  /-- Where a key may have started on the current flow level. -/
  keyPlace : Option KeyPlace
  /-- The same for each enclosing flow level; there are none in block style. -/
  outerPlaces : List (Option KeyPlace)
  /-- Whether a key may start at the next token. -/
  keyAllowed : Bool
  deriving Repr

namespace TokenScan

def ofSource (source : Source) : TokenScan :=
  ⟨source, #[], [], none, [], true⟩

def inFlow (scan : TokenScan) : Bool :=
  !scan.outerPlaces.isEmpty

/-- The least column that belongs to the innermost open block collection's
values. -/
def valueIndent (scan : TokenScan) : Nat :=
  match scan.indents with
  | [] => 0
  | column :: _ => column + 1

def emit (scan : TokenScan) (token : Token) : TokenScan :=
  { scan with tokens := scan.tokens.push token }

/-- Reads a token of `length` characters. -/
def emitMark (scan : TokenScan) (token : Token) (length : Nat) : TokenScan :=
  { scan.emit token with source := scan.source.advance length }

/-- Puts a token in front of all but the first `count` tokens. -/
def emitAt (scan : TokenScan) (count : Nat) (token : Token) : TokenScan :=
  { scan with tokens := scan.tokens.insertIdxIfInBounds count token }

/-- The scan after a blank, a comment or a line break in front of the next
token; `none` if the token is at the front.  A tab counts as a blank only where
it cannot be taken for indentation.  A byte order mark may start any line. -/
def skip (scan : TokenScan) : Option TokenScan :=
  match scan.source.rest with
  | [] => none
  | char :: _ =>
      if char = ' ' || (char = '\t' && (scan.inFlow || !scan.keyAllowed)) ||
          (char = '\ufeff' && scan.source.column = 0) then
        some { scan with source := scan.source.advance 1 }
      else if char = '#' then
        some { scan with source := scan.source.skipLine }
      else if isBreak char then
        some { scan with
          source := scan.source.advanceLine
          keyAllowed := scan.keyAllowed || !scan.inFlow }
      else
        none

theorem skip_shortens {scan after : TokenScan} (hskip : scan.skip = some after) :
    after.source.rest.length < scan.source.rest.length := by
  unfold skip at hskip
  split at hskip
  · simp at hskip
  · rename_i char rest hrest
    have hpositive : 0 < scan.source.rest.length := by simp [hrest]
    have hline := scan.source.length_rest_advanceLine_le
    split at hskip
    · simp only [Option.some.injEq] at hskip
      subst hskip
      simp only [Source.length_rest_advance]
      omega
    · split at hskip
      · rename_i hcomment
        simp only [Option.some.injEq] at hskip
        subst hskip
        exact Source.length_rest_skipLine_lt hrest (by rw [hcomment]; decide)
      · split at hskip
        · simp only [Option.some.injEq] at hskip
          subst hskip
          simp only
          omega
        · simp at hskip

/-- Reads up to the next token. -/
def skipToToken (scan : TokenScan) : TokenScan :=
  match hskip : scan.skip with
  | none => scan
  | some after =>
      have : after.source.rest.length < scan.source.rest.length := skip_shortens hskip
      skipToToken after
termination_by scan.source.rest.length

/-- Whether a key that started there can no longer end. -/
def isStale (source : Source) (place : KeyPlace) : Bool :=
  place.line < source.line || place.index + 1024 < source.index

/-- Forgets a place where a key may have started, unless it had to. -/
def forget (place : Option KeyPlace) : Except Error (Option KeyPlace) :=
  match place with
  | some place => if place.required then .error .missingColon else .ok none
  | none => .ok none

def forgetIfStale (source : Source) (place : Option KeyPlace) :
    Except Error (Option KeyPlace) :=
  if place.any (isStale source) then forget place else .ok place

/-- Forgets the places that have become stale, on every flow level. -/
def dropStale (scan : TokenScan) : Except Error TokenScan := do
  let keyPlace ← forgetIfStale scan.source scan.keyPlace
  let outerPlaces ← scan.outerPlaces.mapM (forgetIfStale scan.source)
  return { scan with keyPlace, outerPlaces }

/-- Forgets the place on the current flow level. -/
def dropKey (scan : TokenScan) : Except Error TokenScan := do
  return { scan with keyPlace := ← forget scan.keyPlace }

/-- Remembers that a key may start here. -/
def saveKey (scan : TokenScan) : Except Error TokenScan := do
  if scan.keyAllowed then
    let scan ← scan.dropKey
    let required := !scan.inFlow && scan.indents.head? = some scan.source.column
    return { scan with
      keyPlace := some
        ⟨required, scan.tokens.size, scan.source.line, scan.source.column, scan.source.index⟩ }
  else
    return scan

/-- Closes the block collections that are indented by more than `column`. -/
def closeBlocks (scan : TokenScan) (column : Nat) : TokenScan :=
  if scan.inFlow then scan
  else
    let closed := scan.indents.takeWhile (column < ·)
    { scan with
      tokens := scan.tokens ++ Array.replicate closed.length .blockEnd
      indents := scan.indents.drop closed.length }

/-- Closes all block collections. -/
def closeAllBlocks (scan : TokenScan) : TokenScan :=
  if scan.inFlow then scan
  else
    { scan with
      tokens := scan.tokens ++ Array.replicate scan.indents.length .blockEnd
      indents := [] }

/-- Opens a block collection at `column` if that is deeper than where the
innermost one stands; `opening` puts its token in place. -/
def openBlock (scan : TokenScan) (column : Nat) (opening : TokenScan → TokenScan) : TokenScan :=
  if scan.inFlow || scan.indents.head?.any (column ≤ ·) then scan
  else { opening scan with indents := column :: scan.indents }

def scanDocumentMarker (scan : TokenScan) (token : Token) : Except Error TokenScan := do
  let scan ← scan.closeAllBlocks.dropKey
  return { scan.emitMark token 3 with keyAllowed := false }

def scanFlowOpening (scan : TokenScan) (token : Token) : Except Error TokenScan := do
  let scan ← scan.saveKey
  return { scan.emitMark token 1 with
    keyPlace := none
    outerPlaces := scan.keyPlace :: scan.outerPlaces
    keyAllowed := true }

def scanFlowClosing (scan : TokenScan) (token : Token) : Except Error TokenScan := do
  let scan ← scan.dropKey
  let scan := { scan.emitMark token 1 with keyAllowed := false }
  match scan.outerPlaces with
  | [] => return scan
  | place :: places => return { scan with keyPlace := place, outerPlaces := places }

def scanFlowEntry (scan : TokenScan) : Except Error TokenScan := do
  let scan ← scan.dropKey
  return { scan.emitMark .flowEntry 1 with keyAllowed := true }

def scanBlockEntry (scan : TokenScan) : Except Error TokenScan := do
  if !scan.inFlow && !scan.keyAllowed then
    throw .sequenceEntryNotAllowed
  let scan := scan.openBlock scan.source.column (·.emit .blockSequence)
  let scan ← scan.dropKey
  return { scan.emitMark .blockEntry 1 with keyAllowed := true }

/-- Reads a `?`, which says that a key follows. -/
def scanKey (scan : TokenScan) : Except Error TokenScan := do
  if !scan.inFlow && !scan.keyAllowed then
    throw .mappingKeyNotAllowed
  let scan := scan.openBlock scan.source.column (·.emit .blockMapping)
  let scan ← scan.dropKey
  return { scan.emitMark .key 1 with keyAllowed := !scan.inFlow }

def scanValue (scan : TokenScan) : Except Error TokenScan :=
  match scan.keyPlace with
  | some place =>
      let scan := scan.emitAt place.tokenCount .key
      let scan := scan.openBlock place.column (·.emitAt place.tokenCount .blockMapping)
      .ok { scan.emitMark .value 1 with keyPlace := none, keyAllowed := false }
  | none =>
      if scan.inFlow then
        .ok { scan.emitMark .value 1 with keyAllowed := false }
      else if scan.keyAllowed then
        .ok ((scan.openBlock scan.source.column (·.emit .blockMapping)).emitMark .value 1)
      else
        .error .mappingValueNotAllowed

def scanQuoted (scan : TokenScan) (style : QuoteStyle) : Except Error TokenScan := do
  let scan ← scan.saveKey
  let (text, source) ← quotedScalar style scan.source
  return { scan.emit (.scalar text false) with source, keyAllowed := false }

def scanPlain (scan : TokenScan) : Except Error TokenScan := do
  let scan ← scan.saveKey
  let (text, source, broken) ← plainScalar scan.inFlow scan.valueIndent scan.source
  return { scan.emit (.scalar text true) with source, keyAllowed := broken }

/-- The characters that never start a plain scalar. -/
def indicators : List Char :=
  [',', '[', ']', '\x7b', '\x7d', '#', '&', '*', '!', '|', '>', '\'', '"', '%', '@', '\x60']

/-- Whether a plain scalar may start with this character; `-`, `?` and `:` only
where they cannot be indicators. -/
def startsPlain (scan : TokenScan) (char : Char) : Bool :=
  match char with
  | '-' => !(scan.source.rest[1]?.any isBlank)
  | '?' | ':' => !scan.inFlow && !scan.source.endsWordAt 1
  | _ => !(isBlank char || isBreak char || indicators.contains char)

/-- What this character introduces if it is outside the part of the language
that is read here. -/
def unsupportedConstruct (scan : TokenScan) (char : Char) : Option String :=
  match char with
  | '%' => if scan.source.column = 0 then some "directives" else none
  | '*' => some "aliases"
  | '&' => some "anchors"
  | '!' => some "tags"
  | '|' | '>' => if scan.inFlow then none else some "block scalars"
  | _ => none

/-- Reads the token that starts with this character. -/
def scanToken (scan : TokenScan) (char : Char) : Except Error TokenScan :=
  if scan.source.atDocumentStart then scan.scanDocumentMarker .documentStart
  else if scan.source.atDocumentEnd then scan.scanDocumentMarker .documentEnd
  else if let some construct := scan.unsupportedConstruct char then
    .error (.unsupported construct)
  else match char with
    | '[' => scan.scanFlowOpening .flowSequence
    | '\x7b' => scan.scanFlowOpening .flowMapping
    | ']' => scan.scanFlowClosing .flowSequenceEnd
    | '\x7d' => scan.scanFlowClosing .flowMappingEnd
    | ',' => scan.scanFlowEntry
    | '\'' => scan.scanQuoted .single
    | '"' => scan.scanQuoted .double
    | _ =>
        if char = '-' && scan.source.endsWordAt 1 then scan.scanBlockEntry
        else if char = '?' && (scan.inFlow || scan.source.endsWordAt 1) then scan.scanKey
        else if char = ':' && (scan.inFlow || scan.source.endsWordAt 1) then scan.scanValue
        else if scan.startsPlain char then scan.scanPlain
        else .error .unexpectedCharacter

/-- Closes what is still open at the end of the text. -/
def close (scan : TokenScan) : Except Error (Array Token) := do
  let scan ← scan.closeAllBlocks.dropKey
  return scan.tokens

/-- Reads all tokens that are left. -/
def run : (budget : Nat) → TokenScan → Except Error (Array Token)
  | 0, _ => .error .budgetExhausted
  | budget + 1, scan => do
      let scan ← scan.skipToToken.dropStale
      let scan := scan.closeBlocks scan.source.column
      match scan.source.rest with
      | [] => scan.close
      | char :: _ =>
          let scan ← scan.scanToken char
          run budget scan

end TokenScan

/-- The tokens of a text. -/
def Token.ofString (text : String) : Except Error (List Token) := do
  let source := Source.ofString text
  if !source.rest.all isAllowed then
    throw .controlCharacter
  let tokens ← (TokenScan.ofSource source).run (source.rest.length + 1)
  return tokens.toList

end DalvikPrepass.Yaml
