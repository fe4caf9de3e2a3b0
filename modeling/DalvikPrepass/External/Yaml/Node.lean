import DalvikPrepass.External.Yaml.Token

/-!
# Values

A text says one value: a scalar, a sequence of values or a mapping from values
to values.  A value that is left out is an empty plain scalar.
-/

namespace DalvikPrepass.Yaml

inductive Node where
  /-- A scalar's text and whether it was written without quotes. -/
  | scalar (text : String) (plain : Bool)
  | sequence (items : List Node)
  | mapping (entries : List (Node × Node))
  deriving Repr

namespace Node

/-- The value that is left out. -/
def omitted : Node :=
  scalar "" true

/-- Whether a value is left out in front of these tokens. -/
def isOmitted (closing : List Token) (tokens : List Token) : Bool :=
  match tokens with
  | [] => true
  | token :: _ => closing.contains token

mutual

/-- The value at the front and the tokens after it.  A block collection may
stand only where `inBlock` says so, and a sequence that is indented no deeper
than the key before it only where `afterKey` does. -/
def parseValue (inBlock afterKey : Bool) :
    (budget : Nat) → List Token → Except Error (Node × List Token)
  | 0, _ => .error .budgetExhausted
  | budget + 1, tokens =>
      match tokens with
      | .scalar text plain :: rest => .ok (scalar text plain, rest)
      | .flowSequence :: rest => parseFlowSequence budget #[] rest
      | .flowMapping :: rest => parseFlowMapping budget #[] rest
      | .blockSequence :: rest =>
          if inBlock then parseBlockSequence budget #[] rest else .error .missingContent
      | .blockMapping :: rest =>
          if inBlock then parseBlockMapping budget #[] rest else .error .missingContent
      | .blockEntry :: _ =>
          if afterKey then parseEntries budget #[] tokens else .error .missingContent
      | _ => .error .missingContent

/-- The value at the front, unless it is left out before one of the tokens
`closing`. -/
def parseOptional (inBlock afterKey : Bool) (closing : List Token) :
    (budget : Nat) → List Token → Except Error (Node × List Token)
  | 0, _ => .error .budgetExhausted
  | budget + 1, tokens =>
      if isOmitted closing tokens then .ok (omitted, tokens)
      else parseValue inBlock afterKey budget tokens

/-- The rest of a block sequence. -/
def parseBlockSequence :
    (budget : Nat) → Array Node → List Token → Except Error (Node × List Token)
  | 0, _, _ => .error .budgetExhausted
  | budget + 1, items, tokens =>
      match tokens with
      | .blockEnd :: rest => .ok (sequence items.toList, rest)
      | .blockEntry :: rest =>
          match parseOptional true false [.blockEntry, .blockEnd] budget rest with
          | .error error => .error error
          | .ok (item, rest) => parseBlockSequence budget (items.push item) rest
      | _ => .error .missingDash

/-- The rest of a block sequence that no token closes. -/
def parseEntries :
    (budget : Nat) → Array Node → List Token → Except Error (Node × List Token)
  | 0, _, _ => .error .budgetExhausted
  | budget + 1, items, tokens =>
      match tokens with
      | .blockEntry :: rest =>
          match parseOptional true false [.blockEntry, .key, .value, .blockEnd] budget rest with
          | .error error => .error error
          | .ok (item, rest) => parseEntries budget (items.push item) rest
      | _ => .ok (sequence items.toList, tokens)

/-- The rest of a block mapping. -/
def parseBlockMapping :
    (budget : Nat) → Array (Node × Node) → List Token → Except Error (Node × List Token)
  | 0, _, _ => .error .budgetExhausted
  | budget + 1, entries, tokens =>
      match tokens with
      | .blockEnd :: rest => .ok (mapping entries.toList, rest)
      | .key :: rest =>
          match parseOptional true true [.key, .value, .blockEnd] budget rest with
          | .error error => .error error
          | .ok (key, .value :: rest) =>
              match parseOptional true true [.key, .value, .blockEnd] budget rest with
              | .error error => .error error
              | .ok (value, rest) => parseBlockMapping budget (entries.push (key, value)) rest
          | .ok (key, rest) => parseBlockMapping budget (entries.push (key, omitted)) rest
      | _ => .error .missingKey

/-- The rest of a flow sequence.  An item may be a mapping with one entry and
no brackets. -/
def parseFlowSequence :
    (budget : Nat) → Array Node → List Token → Except Error (Node × List Token)
  | 0, _, _ => .error .budgetExhausted
  | budget + 1, items, tokens =>
      match tokens with
      | .flowSequenceEnd :: rest => .ok (sequence items.toList, rest)
      | _ =>
          match parseFlowItem budget tokens with
          | .error error => .error error
          | .ok (item, .flowEntry :: rest) => parseFlowSequence budget (items.push item) rest
          | .ok (item, .flowSequenceEnd :: rest) =>
              .ok (sequence (items.push item).toList, rest)
          | .ok _ => .error .missingSeparator

/-- One item of a flow sequence.  Where a marked key is left out, the token after
the mark goes with it. -/
def parseFlowItem : (budget : Nat) → List Token → Except Error (Node × List Token)
  | 0, _ => .error .budgetExhausted
  | budget + 1, tokens =>
      match tokens with
      | .key :: .value :: rest
      | .key :: .flowEntry :: rest
      | .key :: .flowSequenceEnd :: rest =>
          match parseFlowValue [.flowEntry, .flowSequenceEnd] budget rest with
          | .error error => .error error
          | .ok (value, rest) => .ok (mapping [(omitted, value)], rest)
      | .key :: rest =>
          match parseValue false false budget rest with
          | .error error => .error error
          | .ok (key, rest) =>
              match parseFlowValue [.flowEntry, .flowSequenceEnd] budget rest with
              | .error error => .error error
              | .ok (value, rest) => .ok (mapping [(key, value)], rest)
      | _ => parseValue false false budget tokens

/-- The value after a key in flow style, up to a separator or a closing
bracket. -/
def parseFlowValue (closing : List Token) :
    (budget : Nat) → List Token → Except Error (Node × List Token)
  | 0, _ => .error .budgetExhausted
  | budget + 1, tokens =>
      match tokens with
      | .value :: rest => parseOptional false false closing budget rest
      | _ => .ok (omitted, tokens)

/-- One entry of a flow mapping. -/
def parseFlowEntry : (budget : Nat) → List Token → Except Error ((Node × Node) × List Token)
  | 0, _ => .error .budgetExhausted
  | budget + 1, tokens =>
      match tokens with
      | .key :: rest =>
          match parseOptional false false [.value, .flowEntry, .flowMappingEnd] budget rest with
          | .error error => .error error
          | .ok (key, rest) =>
              match parseFlowValue [.flowEntry, .flowMappingEnd] budget rest with
              | .error error => .error error
              | .ok (value, rest) => .ok ((key, value), rest)
      | _ =>
          match parseValue false false budget tokens with
          | .error error => .error error
          | .ok (key, rest) => .ok ((key, omitted), rest)

/-- The rest of a flow mapping. -/
def parseFlowMapping :
    (budget : Nat) → Array (Node × Node) → List Token → Except Error (Node × List Token)
  | 0, _, _ => .error .budgetExhausted
  | budget + 1, entries, tokens =>
      match tokens with
      | .flowMappingEnd :: rest => .ok (mapping entries.toList, rest)
      | _ =>
          match parseFlowEntry budget tokens with
          | .error error => .error error
          | .ok (entry, .flowEntry :: rest) => parseFlowMapping budget (entries.push entry) rest
          | .ok (entry, .flowMappingEnd :: rest) =>
              .ok (mapping (entries.push entry).toList, rest)
          | .ok _ => .error .missingSeparator

end

/-- The value at the front of a document, which may be left out only after a
mark that says where the document starts.  No call goes more than three calls
deeper without a token, which the budget allows for. -/
def parseDocument (tokens : List Token) : Except Error (Node × List Token) :=
  let budget := 4 * tokens.length + 4
  match tokens with
  | [] => .error .noContent
  | .documentStart :: rest => parseOptional true false [.documentStart, .documentEnd] budget rest
  | _ => parseValue true false budget tokens

/-- The value that the tokens say.  Nothing but marks for the end of the document
may stand after it. -/
def ofTokens (tokens : List Token) : Except Error Node := do
  let (node, rest) ← parseDocument tokens
  if rest.all (· = .documentEnd) then
    return node
  else
    throw .contentAfterEnd

/-- The value that a text says. -/
def ofString (text : String) : Except Error Node := do
  ofTokens (← Token.ofString text)

end Node

end DalvikPrepass.Yaml
