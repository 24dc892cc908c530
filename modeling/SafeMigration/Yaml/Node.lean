import SafeMigration.Yaml.Token

/-!
The nodes of a YAML document, put together from its tokens.

A stream holds one document at most. Tags are written out in full, and a node may bear an anchor or be an alias; what
an alias stands for is settled later.
-/

namespace SafeMigration.Yaml

/-- A scalar with its tag in full. -/
structure Scalar where
  text : String
  style : ScalarStyle
  tag : Option Tag
  deriving DecidableEq, Repr

/-- A scalar that is not written. -/
def Scalar.absent (tag : Option Tag) : Scalar := ⟨"", .plain, tag⟩

/-- A node of a document, whose anchors and aliases have names of some kind. -/
inductive Node (ν : Type) where
  | link (target : ν)
  | scalar (anchor : Option ν) (scalar : Scalar)
  | sequence (anchor : Option ν) (tag : Option Tag) (items : List (Node ν))
  | mapping (anchor : Option ν) (tag : Option Tag) (entries : List (Node ν × Node ν))

/-- The node that is not written. -/
def Node.absent {ν : Type} : Node ν := .scalar none (.absent none)

/-- The beginnings of tags that handles stand for. -/
abbrev TagHandles := List (String × List UInt8)

/-- The anchor and the tag before a node. -/
structure Properties where
  anchor : Option String := none
  tag : Option Tag := none

namespace Properties

/-- A tag in full. -/
def fullTag? (handles : TagHandles) (handle : String) (suffix : List UInt8) : Option Tag :=
  if handle.isEmpty then some ⟨suffix⟩ else (handles.lookup handle).map fun beginning => ⟨beginning ++ suffix⟩

/-- Reads an anchor and a tag, in either order, if they are there. -/
def read? (handles : TagHandles) : List Token → Option (Properties × List Token)
  | .anchor name :: .tag handle suffix :: rest | .tag handle suffix :: .anchor name :: rest =>
    (fullTag? handles handle suffix).map fun tag => (⟨some name, some tag⟩, rest)
  | .anchor name :: rest => some (⟨some name, none⟩, rest)
  | .tag handle suffix :: rest => (fullTag? handles handle suffix).map fun tag => (⟨none, some tag⟩, rest)
  | tokens => some ({}, tokens)

end Properties

/-- Whether the next token is among some. -/
def nextIs (tokens : List Token) (expected : List Token) : Bool :=
  match tokens with
  | token :: _ => expected.contains token
  | [] => true

namespace Node

mutual

/-- Reads a node. In a block it may be a block; as part of a mapping it may be a sequence that is not indented. -/
def read? (handles : TagHandles) : Nat → Bool → Bool → List Token → Option (Node String × List Token)
  | 0, _, _, _ => none
  | fuel + 1, inBlock, inMapping, tokens =>
    match tokens with
    | .link name :: rest => some (.link name, rest)
    | _ =>
      match Properties.read? handles tokens with
      | none => none
      | some (own, tokens) =>
        match inBlock, inMapping, tokens with
        | _, true, .blockEntry :: rest =>
          (flatItems? handles fuel (.blockEntry :: rest)).map fun (items, rest) =>
            (.sequence own.anchor own.tag items, rest)
        | _, _, .scalar text style :: rest => some (.scalar own.anchor ⟨text, style, own.tag⟩, rest)
        | _, _, .flowSequenceStart :: rest =>
          (flowItems? handles fuel true rest).map fun (items, rest) =>
            (.sequence own.anchor own.tag items, rest)
        | _, _, .flowMappingStart :: rest =>
          (flowEntries? handles fuel true rest).map fun (entries, rest) =>
            (.mapping own.anchor own.tag entries, rest)
        | true, _, .blockSequenceStart :: rest =>
          (blockItems? handles fuel rest).map fun (items, rest) =>
            (.sequence own.anchor own.tag items, rest)
        | true, _, .blockMappingStart :: rest =>
          (blockEntries? handles fuel rest).map fun (entries, rest) =>
            (.mapping own.anchor own.tag entries, rest)
        | _, _, tokens =>
          if own.anchor.isSome || own.tag.isSome then
            some (.scalar own.anchor (.absent own.tag), tokens)
          else none

/-- Reads a node, or nothing if one of some tokens follows. -/
def readUnless? (handles : TagHandles) :
    Nat → List Token → Bool → Bool → List Token → Option (Node String × List Token)
  | 0, _, _, _, _ => none
  | fuel + 1, ends, inBlock, inMapping, tokens =>
    if nextIs tokens ends then some (.absent, tokens)
    else read? handles fuel inBlock inMapping tokens

/-- Reads the items of an indented sequence up to its end. -/
def blockItems? (handles : TagHandles) : Nat → List Token → Option (List (Node String) × List Token)
  | 0, _ => none
  | fuel + 1, .blockEntry :: rest =>
    match readUnless? handles fuel [.blockEntry, .blockEnd] true false rest with
    | none => none
    | some (item, rest) =>
      (blockItems? handles fuel rest).map fun (items, rest) => (item :: items, rest)
  | _ + 1, .blockEnd :: rest => some ([], rest)
  | _ + 1, _ => none

/-- Reads the items of a sequence that is not indented, as long as there are any. -/
def flatItems? (handles : TagHandles) : Nat → List Token → Option (List (Node String) × List Token)
  | 0, _ => none
  | fuel + 1, .blockEntry :: rest =>
    match readUnless? handles fuel [.blockEntry, .key, .value, .blockEnd] true false rest with
    | none => none
    | some (item, rest) =>
      (flatItems? handles fuel rest).map fun (items, rest) => (item :: items, rest)
  | _ + 1, tokens => some ([], tokens)

/-- Reads the entries of a block mapping up to its end. -/
def blockEntries? (handles : TagHandles) :
    Nat → List Token → Option (List (Node String × Node String) × List Token)
  | 0, _ => none
  | fuel + 1, .key :: rest =>
    match readUnless? handles fuel [.key, .value, .blockEnd] true true rest with
    | none => none
    | some (key, rest) =>
      match blockValue? handles fuel rest with
      | none => none
      | some (value, rest) =>
        (blockEntries? handles fuel rest).map fun (entries, rest) => ((key, value) :: entries, rest)
  | _ + 1, .blockEnd :: rest => some ([], rest)
  | _ + 1, _ => none

/-- Reads the value of an entry of a block mapping, which may be missing. -/
def blockValue? (handles : TagHandles) : Nat → List Token → Option (Node String × List Token)
  | 0, _ => none
  | fuel + 1, .value :: rest => readUnless? handles fuel [.key, .value, .blockEnd] true true rest
  | _ + 1, tokens => some (.absent, tokens)

/-- Reads the items of a flow sequence up to its end. -/
def flowItems? (handles : TagHandles) :
    Nat → Bool → List Token → Option (List (Node String) × List Token)
  | 0, _, _ => none
  | _ + 1, _, .flowSequenceEnd :: rest => some ([], rest)
  | fuel + 1, true, tokens => flowItem? handles fuel tokens
  | fuel + 1, false, .flowEntry :: rest => flowItem? handles fuel rest
  | _ + 1, false, _ => none

/-- Reads an item of a flow sequence, which may be a single entry of a mapping, and the items after it. -/
def flowItem? (handles : TagHandles) : Nat → List Token → Option (List (Node String) × List Token)
  | 0, _ => none
  | _ + 1, .flowSequenceEnd :: rest => some ([], rest)
  | fuel + 1, .key :: rest =>
    match flowSingleKey? handles fuel rest with
    | none => none
    | some (key, rest) =>
      match flowValue? handles fuel [.flowEntry, .flowSequenceEnd] rest with
      | none => none
      | some (value, rest) =>
        (flowItems? handles fuel false rest).map fun (items, rest) =>
          (.mapping none none [(key, value)] :: items, rest)
  | fuel + 1, tokens =>
    match read? handles fuel false false tokens with
    | none => none
    | some (item, rest) =>
      (flowItems? handles fuel false rest).map fun (items, rest) => (item :: items, rest)

/-- Reads the key of a single entry. A missing key takes the token after it with it. -/
def flowSingleKey? (handles : TagHandles) : Nat → List Token → Option (Node String × List Token)
  | 0, _ => none
  | fuel + 1, tokens =>
    if nextIs tokens [.value, .flowEntry, .flowSequenceEnd] then some (.absent, tokens.drop 1)
    else read? handles fuel false false tokens

/-- Reads the value of an entry in a flow collection, which may be missing. -/
def flowValue? (handles : TagHandles) :
    Nat → List Token → List Token → Option (Node String × List Token)
  | 0, _, _ => none
  | fuel + 1, ends, .value :: rest => readUnless? handles fuel ends false false rest
  | _ + 1, _, tokens => some (.absent, tokens)

/-- Reads the entries of a flow mapping up to its end. -/
def flowEntries? (handles : TagHandles) :
    Nat → Bool → List Token → Option (List (Node String × Node String) × List Token)
  | 0, _, _ => none
  | _ + 1, _, .flowMappingEnd :: rest => some ([], rest)
  | fuel + 1, true, tokens => flowPair? handles fuel tokens
  | fuel + 1, false, .flowEntry :: rest => flowPair? handles fuel rest
  | _ + 1, false, _ => none

/-- Reads an entry of a flow mapping and those after it. An entry without a mark for its key has no value. -/
def flowPair? (handles : TagHandles) :
    Nat → List Token → Option (List (Node String × Node String) × List Token)
  | 0, _ => none
  | _ + 1, .flowMappingEnd :: rest => some ([], rest)
  | fuel + 1, .key :: rest =>
    match readUnless? handles fuel [.value, .flowEntry, .flowMappingEnd] false false rest with
    | none => none
    | some (key, rest) =>
      match flowValue? handles fuel [.flowEntry, .flowMappingEnd] rest with
      | none => none
      | some (value, rest) =>
        (flowEntries? handles fuel false rest).map fun (entries, rest) => ((key, value) :: entries, rest)
  | fuel + 1, tokens =>
    match read? handles fuel false false tokens with
    | none => none
    | some (key, rest) =>
      (flowEntries? handles fuel false rest).map fun (entries, rest) => ((key, .absent) :: entries, rest)

end

/-- The handles that every document has. -/
def standardHandles : TagHandles := [("!", [Tag.mark]), ("!!", (Tag.standard "").bytes)]

/-- Reads the directives before a document. A handle may be given once, and the version once. -/
def directives? (handles : TagHandles) (versioned : Bool) : List Token → Option (TagHandles × List Token)
  | .version major minor :: rest =>
    if versioned || major != 1 || (minor != 1 && minor != 2) then none
    else directives? handles true rest
  | .tagHandle handle beginning :: rest =>
    if (handles.lookup handle).isSome then none
    else directives? ((handle, beginning) :: handles) versioned rest
  | tokens => some (handles ++ standardHandles, tokens)

/-- Whether nothing follows a document but marks of its end. -/
def endsStream : List Token → Bool
  | .documentEnd :: rest => endsStream rest
  | [.streamEnd] => true
  | _ => false

/-- Reads the content of a document after the mark of its start. -/
def content? (handles : TagHandles) (fuel : Nat) (tokens : List Token) :
    Option (Node String × List Token) :=
  match tokens with
  | .version .. :: _ | .tagHandle .. :: _ | .documentStart :: _ | .documentEnd :: _
  | .streamEnd :: _ => some (.absent, tokens)
  | _ => read? handles fuel true false tokens

/-- Reads the only document of a stream; a stream may hold none. -/
def ofTokens? (tokens : List Token) : Option (Option (Node String)) :=
  let fuel := 4 * tokens.length + 8
  let read : Option (Node String × List Token) :=
    match tokens with
    | .version .. :: _ | .tagHandle .. :: _ | .documentStart :: _ =>
      match directives? [] false tokens with
      | some (handles, .documentStart :: rest) => content? handles fuel rest
      | _ => none
    | _ => read? standardHandles fuel true false tokens
  if tokens == [.streamEnd] then some none
  else
    match read with
    | some (node, rest) => if endsStream rest then some (some node) else none
    | none => none

end Node

end SafeMigration.Yaml
