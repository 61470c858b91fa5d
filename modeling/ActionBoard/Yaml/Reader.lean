import ActionBoard.Yaml.Token

/-!
# Reading YAML texts

A text holds at most one document, and a document one node; without a document the node is null.  A
node may be missing where its place is clear otherwise, as behind the colon of a key, and is null
then.  In one mapping no key occurs twice.

Collections may be nested 128 deep.  Anchors, aliases, directives and scalars in blocks are not
read; a text with any of them is refused.  So what holds of configurations is stated for every
reader that reads plain texts as this one does.
-/

namespace ActionBoard.Yaml

/-- Reads something from tokens and gives the tokens behind it. -/
abbrev TokenReader (α : Type) := List Token → Option (α × List Token)

/-! ## Nodes -/

/-- The tag of the language for a type of scalars. -/
def languageTag (name : String) : String :=
  "tag:yaml.org,2002:" ++ name

/-- What a scalar under a tag of the language is. -/
def ofLanguageTag? (tag text : String) : Option Yaml :=
  let value := ofPlain? text.toList
  if tag = languageTag "bool" then value.filter (· matches .bool _)
  else if tag = languageTag "int" then value.filter (· matches .int _)
  else if tag = languageTag "null" then value.filter (· matches .null)
  else if tag = languageTag "float" then (fraction? text.toList).map .float
  else some (.string text)

/-- What a scalar with its tag is. -/
def ofScalar? (tag : Option String) (text : String) (plain : Bool) : Option Yaml :=
  let bare := if plain then ofPlain? text.toList else some (.string text)
  match tag with
  | none => bare
  | some tag =>
    if tag.toList.head? = some '!' then bare.map (.tagged tag) else ofLanguageTag? tag text

/-- A collection with its tag; tags of the language do not change it. -/
def withTag (tag : Option String) (collection : Yaml) : Yaml :=
  match tag with
  | some tag => if tag.toList.head? = some '!' then .tagged tag collection else collection
  | none => collection

/-- How a node is read: whether it may be a block, and whether the entries of a sequence may stand
in the column of the key before it. -/
abbrev NodeReader := (block indentless : Bool) → TokenReader Yaml

/-- A node, unless one of the tokens follows that show it is missing. -/
def orMissing (node : NodeReader) (block indentless : Bool) (ends : List Token) :
    TokenReader Yaml := fun tokens =>
  match tokens with
  | [] => none
  | token :: _ => if ends.contains token then some (.null, tokens) else node block indentless tokens

/-- With a member added whose key is new. -/
def addMember? (members : List (Yaml × Yaml)) (key value : Yaml) : Option (List (Yaml × Yaml)) :=
  if members.any fun m => m.1.same key then none else some (members ++ [(key, value)])

/-! ## Blocks -/

/-- The entries of a sequence in a block of its own. -/
def readEntries (node : NodeReader) (items : List Yaml) : Nat → TokenReader (List Yaml)
  | 0, _ => none
  | fuel + 1, .blockEntry :: rest => do
    let (item, rest) ← orMissing node true false [.blockEntry, .blockEnd] rest
    readEntries node (items ++ [item]) fuel rest
  | _, .blockEnd :: rest => some (items, rest)
  | _, _ => none

/-- The entries of a sequence in the column of the key before it. -/
def readIndentless (node : NodeReader) (items : List Yaml) : Nat → TokenReader (List Yaml)
  | 0, _ => none
  | fuel + 1, .blockEntry :: rest => do
    let (item, rest) ← orMissing node true false [.blockEntry, .key, .value, .blockEnd] rest
    readIndentless node (items ++ [item]) fuel rest
  | _, rest => some (items, rest)

/-- The value behind a key, or null. -/
def readValuePart (node : NodeReader) (block : Bool) (ends : List Token) : TokenReader Yaml
  | .value :: rest => orMissing node block block ends rest
  | rest => some (.null, rest)

/-- The members of a mapping in a block. -/
def readBlockMembers (node : NodeReader) (members : List (Yaml × Yaml)) :
    Nat → TokenReader (List (Yaml × Yaml))
  | 0, _ => none
  | fuel + 1, .key :: rest => do
    let ends := [.key, .value, .blockEnd]
    let (key, rest) ← orMissing node true true ends rest
    let (value, rest) ← readValuePart node true ends rest
    readBlockMembers node (← addMember? members key value) fuel rest
  | _, .blockEnd :: rest => some (members, rest)
  | _, _ => none

/-! ## Collections in brackets -/

/-- The tokens behind the comma that has to stand before every item but the first. -/
def afterComma? (isFirst : Bool) (tokens : List Token) : Option (List Token) :=
  if isFirst then some tokens
  else
    match tokens with
    | .flowEntry :: rest => some rest
    | _ => none

/-- A mapping of one member, written without braces in a sequence. -/
def readPair (node : NodeReader) : TokenReader Yaml := fun tokens => do
  let (key, rest) ← orMissing node false false [.value, .flowEntry, .flowSequenceEnd] tokens
  let (value, rest) ← readValuePart node false [.flowEntry, .flowSequenceEnd] rest
  return (.mapping [(key, value)], rest)

/-- The items of a sequence in brackets; a comma may stand behind the last one. -/
def readFlowItems (node : NodeReader) (items : List Yaml) : Nat → TokenReader (List Yaml)
  | 0, _ => none
  | fuel + 1, tokens =>
    match tokens with
    | .flowSequenceEnd :: rest => some (items, rest)
    | _ => do
      match ← afterComma? items.isEmpty tokens with
      | .flowSequenceEnd :: rest => some (items, rest)
      | .key :: rest =>
        let (item, rest) ← readPair node rest
        readFlowItems node (items ++ [item]) fuel rest
      | rest =>
        let (item, rest) ← node false false rest
        readFlowItems node (items ++ [item]) fuel rest

/-- A member of a mapping in braces. -/
def readFlowMember (node : NodeReader) : TokenReader (Yaml × Yaml)
  | .key :: rest => do
    let (key, rest) ← orMissing node false false [.value, .flowEntry, .flowMappingEnd] rest
    let (value, rest) ← readValuePart node false [.flowEntry, .flowMappingEnd] rest
    return ((key, value), rest)
  | rest => do
    let (key, rest) ← node false false rest
    return ((key, .null), rest)

/-- The members of a mapping in braces; a comma may stand behind the last one. -/
def readFlowMembers (node : NodeReader) (members : List (Yaml × Yaml)) :
    Nat → TokenReader (List (Yaml × Yaml))
  | 0, _ => none
  | fuel + 1, tokens =>
    match tokens with
    | .flowMappingEnd :: rest => some (members, rest)
    | _ => do
      match ← afterComma? members.isEmpty tokens with
      | .flowMappingEnd :: rest => some (members, rest)
      | rest =>
        let ((key, value), rest) ← readFlowMember node rest
        readFlowMembers node (← addMember? members key value) fuel rest

/-! ## Documents -/

/-- A collection, whose nodes are read by `node`, behind its tag. -/
def readCollection (node : NodeReader) (block indentless : Bool) (tag : Option String) :
    TokenReader Yaml := fun tokens =>
  let fuel := tokens.length
  let sequence := Option.map fun (items, rest) => (withTag tag (.sequence items), rest)
  let mapping := Option.map fun (members, rest) => (withTag tag (.mapping members), rest)
  match tokens with
  | .flowSequenceStart :: rest => sequence (readFlowItems node [] fuel rest)
  | .flowMappingStart :: rest => mapping (readFlowMembers node [] fuel rest)
  | .blockSequenceStart :: rest => if block then sequence (readEntries node [] fuel rest) else none
  | .blockMappingStart :: rest =>
    if block then mapping (readBlockMembers node [] fuel rest) else none
  | .blockEntry :: _ => if indentless then sequence (readIndentless node [] fuel tokens) else none
  | _ => none

/-- Whether a collection begins here, or the entries of one without a block of its own. -/
def startsCollection (block indentless : Bool) : List Token → Bool
  | .flowSequenceStart :: _ | .flowMappingStart :: _ => true
  | .blockSequenceStart :: _ | .blockMappingStart :: _ => block
  | .blockEntry :: _ => indentless
  | _ => false

/-- A node, where collections may be nested `depth` deep. -/
def readNode : Nat → NodeReader
  | depth, block, indentless, tokens =>
    let (tag, rest) := match tokens with
      | .tag text :: rest => (some text, rest)
      | _ => (none, tokens)
    match rest with
    | .scalar text plain :: rest => (ofScalar? tag text plain).map fun value => (value, rest)
    | _ =>
      if startsCollection block indentless rest then
        match depth with
        | 0 => none
        | depth + 1 => readCollection (readNode depth) block indentless tag rest
      else
        match tag with
        | some _ => (ofScalar? tag "" true).map fun value => (value, rest)
        | none => none

/-- How deep collections may be nested. -/
def nestingLimit : Nat := 128

/-- The node of a document that is begun by its mark, which may be missing. -/
def readMarked : TokenReader Yaml
  | [] => some (.null, [])
  | .documentStart :: rest => some (.null, .documentStart :: rest)
  | .documentEnd :: rest => some (.null, .documentEnd :: rest)
  | tokens => readNode nestingLimit true false tokens

/-- The tree that a text stands for. -/
def parse? (text : List Char) : Option Yaml := do
  let tokens ← tokens? text
  let (node, rest) ← match tokens with
    | [] => some (.null, [])
    | .documentStart :: rest => readMarked rest
    | tokens => readNode nestingLimit true false tokens
  if rest.all (· = .documentEnd) then some node else none

end ActionBoard.Yaml
