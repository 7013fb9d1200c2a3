import Pipeline.Yaml.Node
import Pipeline.Yaml.Token.Stream

/-!
# Documents of tokens

The tree of a document is built from the front of the tokens. A failure leaves no tokens, so that
whatever is still to be read comes out broken.
-/

namespace Pipeline.Yaml

/-- The state between two tokens. -/
structure Reading where
  tokens : List Token
  /-- What ends the tokens. -/
  ending : Option SyntaxError
  /-- What ended the text so far. -/
  failure : Option Error := none
  /-- The uris of tag handles. -/
  handles : List (String × List UInt8) := []
  /-- The slots of anchor names. -/
  names : List (String × Nat) := []
  anchored : List Anchored := []
  /-- How many anchored nodes began. -/
  opened : Nat := 0

namespace Reading

/-- A step of reading. -/
abbrev Step := StateM Reading

/-- The text ends here. -/
def fail (e : Error) : Step Unit :=
  modify fun r => { r with tokens := [], failure := some (r.failure.getD e) }

/-- The next token, if there is one. -/
def peek : Step (Option Token) := do
  match (← get).tokens with
  | t :: _ => return some t
  | [] =>
    fail (.badSyntax ((← get).ending.getD .missingContent))
    return none

/-- The next token is read. -/
def skip : Step Unit :=
  modify fun r => { r with tokens := r.tokens.drop 1 }

/-- The next token is read and the one after it looked at. -/
def skipThenPeek : Step (Option Token) := do
  skip
  peek

/-- The text ends here, and the node with it. -/
def breakOff (e : SyntaxError) : Step Node := do
  fail (.badSyntax e)
  return .broken

/-- The tag that a handle and a suffix stand for. -/
def resolveTag (handle : String) (suffix : List UInt8) : Step (Option Tag) := do
  if handle.isEmpty then return some ⟨suffix⟩
  match (← get).handles.lookup handle with
  | some uri => return some ⟨uri ++ suffix⟩
  | none =>
    fail (.badSyntax .undefinedHandle)
    return none

/-- The anchor and the tag before a node, in either order. -/
def properties : Step (Option String × Option Tag) := do
  match ← peek with
  | some (.anchor name) =>
    match ← skipThenPeek with
    | some (.tag handle suffix) =>
      let _ ← skipThenPeek
      return (some name, ← resolveTag handle suffix)
    | _ => return (some name, none)
  | some (.tag handle suffix) =>
    match ← skipThenPeek with
    | some (.anchor name) =>
      let _ ← skipThenPeek
      return (some name, ← resolveTag handle suffix)
    | _ => return (none, ← resolveTag handle suffix)
  | _ => return (none, none)

/-- The slot and order of a node that begins with an anchor. The slot is the number of names that
had a node before, so a name that comes again may share its slot with the next new one. -/
def openAnchor (name? : Option String) : Step (Option (Nat × Nat)) := do
  match name? with
  | none => return none
  | some name =>
    let r ← get
    let slot := r.names.length
    set { r with
      names := (name, slot) :: r.names.filter (fun n => n.1 != name)
      opened := r.opened + 1 }
    return some (slot, r.opened)

/-- The node is kept for the aliases of its anchor. -/
def closeAnchor (mark : Option (Nat × Nat)) (n : Node) : Step Node := do
  match mark with
  | none => return n
  | some (slot, order) =>
    modify fun r => { r with anchored := ⟨slot, order, n⟩ :: r.anchored }
    return n

/-- Whether a token ends an entry of a block mapping before there is a node. -/
def endsBlockEntry : Token → Bool
  | .key | .value | .blockEnd => true
  | _ => false

/-- Whether a token ends an item of a list without indentation before there is a node. -/
def endsIndentless : Token → Bool
  | .blockEntry | .key | .value | .blockEnd => true
  | _ => false

/-- Whether a token ends an item of a block list before there is a node. -/
def endsBlockItem : Token → Bool
  | .blockEntry | .blockEnd => true
  | _ => false

/-- Whether a token ends an entry between brackets that `closing` closes. -/
def endsFlow (closing : Token) (t : Token) : Bool :=
  t == .flowEntry || t == closing

mutual

/-- A node; `block` allows block collections, `indentless` a list at the column of its key. -/
def node : Nat → Bool → Bool → Step Node
  | 0, _, _ => breakOff .missingContent
  | fuel + 1, block, indentless => do
    match ← peek with
    | none => return .broken
    | some (.alias name) =>
      skip
      match (← get).names.lookup name with
      | some slot => return .alias slot
      | none =>
        fail .unknownAnchor
        return .broken
    | some _ =>
      let (anchor, tag) ← properties
      match ← peek with
      | none => return .broken
      | some t =>
        if indentless && t == .blockEntry then
          let mark ← openAnchor anchor
          closeAnchor mark (.sequence tag (← indentlessItems fuel))
        else
          match t with
          | .scalar text style =>
            let mark ← openAnchor anchor
            skip
            closeAnchor mark (.scalar ⟨text, style, tag⟩)
          | .flowSequenceStart =>
            let mark ← openAnchor anchor
            skip
            closeAnchor mark (.sequence tag (← flowItems fuel true))
          | .flowMappingStart =>
            let mark ← openAnchor anchor
            skip
            closeAnchor mark (.mapping tag (← flowEntries fuel true))
          | t =>
            if block && t == .blockSequenceStart then
              let mark ← openAnchor anchor
              skip
              closeAnchor mark (.sequence tag (← blockItems fuel))
            else if block && t == .blockMappingStart then
              let mark ← openAnchor anchor
              skip
              closeAnchor mark (.mapping tag (← blockEntries fuel))
            else if anchor.isSome || tag.isSome then
              let mark ← openAnchor anchor
              closeAnchor mark (.empty tag)
            else breakOff .missingContent

/-- A node unless the next token ends the place of it. -/
def nodeUnless : Nat → (Token → Bool) → Bool → Bool → Step Node
  | 0, _, _, _ => breakOff .missingContent
  | fuel + 1, ends, block, indentless => do
    match ← peek with
    | none => return .broken
    | some t => if ends t then return .empty none else node fuel block indentless

/-- The items of a block list from here on, and its end. -/
def blockItems : Nat → Step (List Node)
  | 0 => return [.broken]
  | fuel + 1 => do
    match ← peek with
    | some .blockEntry =>
      skip
      let item ← nodeUnless fuel endsBlockItem true false
      return item :: (← blockItems fuel)
    | some .blockEnd =>
      skip
      return []
    | _ => return [← breakOff .missingEntry]

/-- The items of a list at the column of its key from here on. -/
def indentlessItems : Nat → Step (List Node)
  | 0 => return [.broken]
  | fuel + 1 => do
    match ← peek with
    | some .blockEntry =>
      skip
      let item ← nodeUnless fuel endsIndentless true false
      return item :: (← indentlessItems fuel)
    | some _ => return []
    | none => return [.broken]

/-- The entries of a block mapping from here on, and its end. -/
def blockEntries : Nat → Step (List (Node × Node))
  | 0 => return [(.broken, .broken)]
  | fuel + 1 => do
    match ← peek with
    | some .key =>
      skip
      let key ← nodeUnless fuel endsBlockEntry true true
      let value ←
        match ← peek with
        | some .value => do
          skip
          nodeUnless fuel endsBlockEntry true true
        | some _ => pure (.empty none)
        | none => pure .broken
      return (key, value) :: (← blockEntries fuel)
    | some .blockEnd =>
      skip
      return []
    | _ => return [(← breakOff .missingKey, .broken)]

/-- The items between square brackets from here on, and their end. -/
def flowItems : Nat → Bool → Step (List Node)
  | 0, _ => return [.broken]
  | fuel + 1, first => do
    match ← peek with
    | none => return [.broken]
    | some .flowSequenceEnd =>
      skip
      return []
    | some t =>
      if !first && t != .flowEntry then return [← breakOff .missingSeparator]
      else
        let t ← if first then pure (some t) else skipThenPeek
        match t with
        | none => return [.broken]
        | some .flowSequenceEnd =>
          skip
          return []
        | some .key =>
          skip
          let item ← flowPair fuel
          return item :: (← flowItems fuel false)
        | some _ =>
          let item ← node fuel false false
          return item :: (← flowItems fuel false)

/-- A mapping of one entry as an item between square brackets. -/
def flowPair : Nat → Step Node
  | 0 => return .broken
  | fuel + 1 => do
    let key ←
      match ← peek with
      | none => pure .broken
      | some t =>
        if t == .value || endsFlow .flowSequenceEnd t then do
          skip
          pure (.empty none)
        else node fuel false false
    let value ←
      match ← peek with
      | none => pure .broken
      | some .value => do
        skip
        nodeUnless fuel (endsFlow .flowSequenceEnd) false false
      | some _ => pure (.empty none)
    match ← peek with
    | none => return .mapping none [(key, value), (.broken, .broken)]
    | some _ => return .mapping none [(key, value)]

/-- The entries between braces from here on, and their end. -/
def flowEntries : Nat → Bool → Step (List (Node × Node))
  | 0, _ => return [(.broken, .broken)]
  | fuel + 1, first => do
    match ← peek with
    | none => return [(.broken, .broken)]
    | some .flowMappingEnd =>
      skip
      return []
    | some t =>
      if !first && t != .flowEntry then return [(← breakOff .missingSeparator, .broken)]
      else
        let t ← if first then pure (some t) else skipThenPeek
        match t with
        | none => return [(.broken, .broken)]
        | some .flowMappingEnd =>
          skip
          return []
        | some .key =>
          skip
          let key ←
            nodeUnless fuel (fun t => t == .value || endsFlow .flowMappingEnd t) false false
          let value ←
            match ← peek with
            | none => pure .broken
            | some .value => do
              skip
              nodeUnless fuel (endsFlow .flowMappingEnd) false false
            | some _ => pure (.empty none)
          return (key, value) :: (← flowEntries fuel false)
        | some _ =>
          let key ← node fuel false false
          let value ←
            match ← peek with
            | none => pure .broken
            | some _ => pure (.empty none)
          return (key, value) :: (← flowEntries fuel false)

end

/-- The directives before a document. -/
def directives : Nat → Bool → Step Unit
  | 0, _ => return ()
  | fuel + 1, versioned => do
    match ← peek with
    | some (.version major minor) =>
      if versioned then fail (.badSyntax .duplicateDirective)
      else if major ≠ 1 ∨ (minor ≠ 1 ∧ minor ≠ 2) then fail (.badSyntax .wrongVersion)
      else
        skip
        directives fuel true
    | some (.tagHandle handle uri) =>
      if ((← get).handles.lookup handle).isSome then fail (.badSyntax .duplicateDirective)
      else
        modify fun r => { r with handles := r.handles ++ [(handle, uri)] }
        skip
        directives fuel versioned
    | _ => return ()

/-- The handles that every document has unless it says otherwise. -/
def defaultHandles : List (String × List UInt8) :=
  [("!", [Tag.bang]), ("!!", (Tag.core "").octets)]

/-- Whether a token stands between documents. -/
def isBoundary : Token → Bool
  | .version _ _ | .tagHandle _ _ | .documentStart | .documentEnd | .streamEnd => true
  | _ => false

/-- The top node of a document, if there is a document. -/
def documentRoot (fuel : Nat) : Step (Option Node) := do
  match ← peek with
  | some .streamEnd => return none
  | some .documentEnd => return some (← breakOff .missingContent)
  | none => return some .broken
  | some t =>
    if !isBoundary t then
      modify fun r => { r with handles := defaultHandles }
      return some (← node fuel true false)
    else
      directives fuel false
      modify fun r => { r with handles := r.handles ++ defaultHandles }
      match ← peek with
      | some .documentStart =>
        skip
        return some (← nodeUnless fuel isBoundary true false)
      | _ => return some (← breakOff .missingDocumentStart)

/-- The end of a document, and whether the text goes on after it. -/
def documentTail : Step Bool := do
  match ← peek with
  | none => return true
  | some .streamEnd => return false
  | some _ =>
    match (← get).tokens.dropWhile fun t => t == .documentEnd with
    | .streamEnd :: _ => return false
    | _ => return true

end Reading

/-- The first document of a text. -/
def Document.ofText (text : String) : Document :=
  let (tokens, ending) := tokensOf text
  let start : Reading := { tokens := tokens.drop 1, ending := ending }
  let (root, r) := Reading.documentRoot (3 * tokens.length + 8) start
  if root.isNone then ⟨none, [], none, false⟩
  else
    let (hasMore, r) := Reading.documentTail r
    ⟨root, r.anchored, r.failure, hasMore⟩

end Pipeline.Yaml
