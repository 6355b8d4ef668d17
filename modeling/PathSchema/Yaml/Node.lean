import PathSchema.Yaml.Token

/-!
# Nodes of YAML documents

The tokens of a text spell a list of documents, each of them one node.  A node may
have a tag, and a name by which other places refer to it.  Where a node is absent but
could stand, there is an empty plain scalar.
-/

namespace PathSchema

namespace Yaml

/-- A node whose anchors have names of some type. -/
inductive Node (Name : Type) where
  | scalar (tag : Option String) (plain : Bool) (text : String)
  | list (tag : Option String) (items : List (Node Name))
  | mapping (tag : Option String) (entries : List (Node Name × Node Name))
  | anchored (name : Name) (node : Node Name)
  | alias (name : Name)

namespace Node

/-- The node that stands where none is written. -/
def absent {Name : Type} : Node Name :=
  .scalar none true ""

/-- What the handles of tags stand for. -/
abbrev Handles := List (String × String)

def standardHandles : Handles := [("!", "!"), ("!!", "tag:yaml.org,2002:")]

/-- What is written before a node: a name and a tag. -/
structure Properties where
  anchor : Option String := none
  tag : Option String := none

def fullTag (handles : Handles) (handle suffix : String) : Option String :=
  if handle.isEmpty then some suffix else (handles.lookup handle).map (· ++ suffix)

/-- Reads a name and a tag in any order, each at most once. -/
def properties (handles : Handles) : List Token → Option (Properties × List Token)
  | .anchor name :: .tag handle suffix :: rest =>
    (fullTag handles handle suffix).map fun tag => (⟨some name, some tag⟩, rest)
  | .tag handle suffix :: .anchor name :: rest =>
    (fullTag handles handle suffix).map fun tag => (⟨some name, some tag⟩, rest)
  | .anchor name :: rest => some (⟨some name, none⟩, rest)
  | .tag handle suffix :: rest =>
    (fullTag handles handle suffix).map fun tag => (⟨none, some tag⟩, rest)
  | rest => some ({}, rest)

/-- Gives a node its name. -/
def withAnchor (properties : Properties) (node : Node String) : Node String :=
  properties.anchor.elim node fun name => .anchored name node

mutual

/-- Reads a node.  In a block, blocks may follow; under a key, so may the dashes of a
list that is not indented. -/
def read (handles : Handles) (inBlock underKey : Bool) :
    Nat → List Token → Option (Node String × List Token)
  | 0, _ => none
  | _ + 1, .alias name :: rest => some (.alias name, rest)
  | fuel + 1, tokens =>
    (properties handles tokens).bind fun (properties, tokens) =>
      let finish := fun (result : Option (Node String × List Token)) =>
        result.map fun (node, rest) => (withAnchor properties node, rest)
      match tokens with
      | .scalar plain text :: rest =>
        finish (some (.scalar properties.tag plain text, rest))
      | .openSequence :: rest =>
        finish ((flowItems handles true fuel rest).map fun (items, rest) =>
          (.list properties.tag items, rest))
      | .openMapping :: rest =>
        finish ((flowEntries handles true fuel rest).map fun (entries, rest) =>
          (.mapping properties.tag entries, rest))
      | tokens =>
        match inBlock, underKey, tokens with
        | _, true, .blockEntry :: _ =>
          finish ((bareItems handles fuel tokens).map fun (items, rest) =>
            (.list properties.tag items, rest))
        | true, _, .blockSequence :: rest =>
          finish ((blockItems handles fuel rest).map fun (items, rest) =>
            (.list properties.tag items, rest))
        | true, _, .blockMapping :: rest =>
          finish ((blockEntries handles fuel rest).map fun (entries, rest) =>
            (.mapping properties.tag entries, rest))
        | _, _, _ =>
          if properties.anchor.isSome || properties.tag.isSome then
            finish (some (.scalar properties.tag true "", tokens))
          else none

/-- Reads a node, or finds it absent before one of some tokens. -/
def readUnless (handles : Handles) (inBlock underKey : Bool) (ends : Token → Bool) :
    Nat → List Token → Option (Node String × List Token)
  | 0, _ => none
  | fuel + 1, tokens =>
    if tokens.head?.any ends then some (absent, tokens)
    else read handles inBlock underKey fuel tokens

/-- Reads the items of a list, up to the end of its block. -/
def blockItems (handles : Handles) : Nat → List Token → Option (List (Node String) × List Token)
  | 0, _ => none
  | fuel + 1, tokens =>
    match tokens with
    | .blockEnd :: rest => some ([], rest)
    | .blockEntry :: rest =>
      (readUnless handles true false (fun t => t == .blockEntry || t == .blockEnd) fuel rest).bind
        fun (item, rest) =>
          (blockItems handles fuel rest).map fun (items, rest) => (item :: items, rest)
    | _ => none

/-- Reads the items of a list that has no block of its own. -/
def bareItems (handles : Handles) : Nat → List Token → Option (List (Node String) × List Token)
  | 0, _ => none
  | fuel + 1, tokens =>
    match tokens with
    | .blockEntry :: rest =>
      (readUnless handles true false
        (fun t => t == .blockEntry || t == .key || t == .value || t == .blockEnd) fuel rest).bind
        fun (item, rest) =>
          (bareItems handles fuel rest).map fun (items, rest) => (item :: items, rest)
    | tokens => some ([], tokens)

/-- Reads the entries of a mapping, up to the end of its block. -/
def blockEntries (handles : Handles) :
    Nat → List Token → Option (List (Node String × Node String) × List Token)
  | 0, _ => none
  | fuel + 1, tokens =>
    let ends := fun (t : Token) => t == .key || t == .value || t == .blockEnd
    let valueAndRest := fun (key : Node String) (tokens : List Token) =>
      match tokens with
      | .value :: rest =>
        (readUnless handles true true ends fuel rest).bind fun (value, rest) =>
          (blockEntries handles fuel rest).map fun (entries, rest) =>
            ((key, value) :: entries, rest)
      | tokens =>
        (blockEntries handles fuel tokens).map fun (entries, rest) =>
          ((key, absent) :: entries, rest)
    match tokens with
    | .blockEnd :: rest => some ([], rest)
    | .key :: rest =>
      (readUnless handles true true ends fuel rest).bind fun (key, rest) => valueAndRest key rest
    | _ => none

/-- Reads the items of a list between brackets, up to the closing one.  An item with a
colon is a mapping of one entry. -/
def flowItems (handles : Handles) (first : Bool) :
    Nat → List Token → Option (List (Node String) × List Token)
  | 0, _ => none
  | fuel + 1, tokens =>
    let ends := fun (t : Token) => t == .flowEntry || t == .closeSequence
    let more := fun (item : Node String) (tokens : List Token) =>
      (flowItems handles false fuel tokens).map fun (items, rest) => (item :: items, rest)
    match tokens with
    | .closeSequence :: rest => some ([], rest)
    | tokens =>
      match if first then some tokens else
        match tokens with
        | .flowEntry :: rest => some rest
        | _ => none with
      | none => none
      | some (.closeSequence :: rest) => some ([], rest)
      | some (.key :: rest) =>
        let keyed :=
          if rest.head?.any fun t => t == .value || ends t then some (absent, rest.drop 1)
          else read handles false false fuel rest
        keyed.bind fun (key, rest) =>
          match rest with
          | .value :: rest =>
            (readUnless handles false false ends fuel rest).bind fun (value, rest) =>
              more (.mapping none [(key, value)]) rest
          | rest => more (.mapping none [(key, absent)]) rest
      | some tokens =>
        (read handles false false fuel tokens).bind fun (item, rest) => more item rest

/-- Reads the entries of a mapping between braces, up to the closing one. -/
def flowEntries (handles : Handles) (first : Bool) :
    Nat → List Token → Option (List (Node String × Node String) × List Token)
  | 0, _ => none
  | fuel + 1, tokens =>
    let ends := fun (t : Token) => t == .flowEntry || t == .closeMapping
    let more := fun (entry : Node String × Node String) (tokens : List Token) =>
      (flowEntries handles false fuel tokens).map fun (entries, rest) => (entry :: entries, rest)
    match tokens with
    | .closeMapping :: rest => some ([], rest)
    | tokens =>
      match if first then some tokens else
        match tokens with
        | .flowEntry :: rest => some rest
        | _ => none with
      | none => none
      | some (.closeMapping :: rest) => some ([], rest)
      | some (.key :: rest) =>
        (readUnless handles false false (fun t => t == .value || ends t) fuel rest).bind
          fun (key, rest) =>
            match rest with
            | .value :: rest =>
              (readUnless handles false false ends fuel rest).bind fun (value, rest) =>
                more (key, value) rest
            | rest => more (key, absent) rest
      | some tokens =>
        (read handles false false fuel tokens).bind fun (key, rest) => more (key, absent) rest

end

/-- Reads the directives of a document.  The edition is given at most once and has to
be one that is known; so is what a handle stands for. -/
def directives : Bool → Handles → List Token → Option (Handles × List Token)
  | sawVersion, handles, .version major minor :: rest =>
    if sawVersion || major != 1 || !(minor == 1 || minor == 2) then none
    else directives true handles rest
  | sawVersion, handles, .tagDirective handle front :: rest =>
    if (handles.lookup handle).isSome then none
    else directives sawVersion ((handle, front) :: handles) rest
  | _, handles, rest => some (handles ++ standardHandles, rest)

/-- Whether a token stands between documents. -/
def isBoundary : Token → Bool
  | .version .. | .tagDirective .. | .documentStart | .documentEnd | .streamEnd => true
  | _ => false

/-- Reads documents.  Only the first one may begin without a mark. -/
def documents : Nat → Bool → List Token → Option (List (Node String))
  | 0, _, _ => none
  | fuel + 1, first, tokens =>
    let tokens := if first then tokens else tokens.dropWhile (· == .documentEnd)
    let continueWith := fun (node : Node String) (rest : List Token) =>
      let rest := match rest with
        | .documentEnd :: rest => rest
        | rest => rest
      (documents fuel false rest).map (node :: ·)
    match tokens with
    | [] => none
    | .streamEnd :: _ => some []
    | token :: _ =>
      if first && !(match token with
          | .version .. | .tagDirective .. | .documentStart => true
          | _ => false) then
        (read standardHandles true false fuel tokens).bind fun (node, rest) =>
          continueWith node rest
      else
        match directives false [] tokens with
        | some (handles, .documentStart :: rest) =>
          (readUnless handles true false isBoundary fuel rest).bind fun (node, rest) =>
            continueWith node rest
        | _ => none

/-- The documents that some tokens spell. -/
def ofTokens (tokens : List Token) : Option (List (Node String)) :=
  documents (4 * tokens.length + 4) true tokens

end Node

end Yaml

end PathSchema
