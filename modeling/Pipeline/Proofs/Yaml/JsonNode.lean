import Pipeline.Proofs.Yaml.JsonTokens
import Pipeline.Yaml.Decode

/-!
# Nodes of JSON texts

The tree that is read from the tokens of a JSON value is the tree of the value, with its strings as
they are read (`Value.toNode`). No step of reading finds the end of the text where the tokens do not
have it, so tokens that an error ends make no document (`decodeText_of_unended`).
-/

namespace Pipeline

open Yaml (Token Node)

namespace Json

mutual

/-- The YAML node of a value, when strings become what `f` says. -/
def Value.toNode (f : String → String) : Value → Node
  | .null => .scalar ⟨"null", .plain, none⟩
  | .bool b => .scalar ⟨toString b, .plain, none⟩
  | .number n => .scalar ⟨n.render, .plain, none⟩
  | .string s => .scalar ⟨f s, .doubleQuoted, none⟩
  | .array items => .sequence none (itemNodes f items)
  | .object fields => .mapping none (fieldNodes f fields)

/-- The YAML nodes of some values. -/
def itemNodes (f : String → String) : List Value → List Node
  | [] => []
  | v :: vs => v.toNode f :: itemNodes f vs

/-- The YAML nodes of the keys and values of some fields. -/
def fieldNodes (f : String → String) : List (String × Value) → List (Node × Node)
  | [] => []
  | (key, v) :: fs => (.scalar ⟨key, .doubleQuoted, none⟩, v.toNode f) :: fieldNodes f fs

end

end Json

namespace Yaml

namespace Reading

/-- The state in which other tokens are left. -/
def left (r : Reading) (ts : List Token) : Reading :=
  { r with tokens := ts }

/-- A step reads some tokens at the front with a result, and changes nothing else. -/
def Takes {α : Type} (m : Step α) (front : List Token) (x : α) : Prop :=
  ∀ (r : Reading) (rest : List Token), m (r.left (front ++ rest)) = (x, r.left rest)

variable {α β : Type} {x : α} {y : β} {front back : List Token}

/-- One step reads on where another has stopped. -/
lemma Takes.bind {m : Step α} {next : α → Step β} (h : Takes m front x)
    (h' : Takes (next x) back y) : Takes (m >>= next) (front ++ back) y := by
  intro r rest
  show next (m _).1 (m _).2 = _
  rw [List.append_assoc, h r (back ++ rest)]
  exact h' r rest

/-- What is made of a result needs no tokens. -/
lemma Takes.map {m : Step α} (h : Takes m front x) (f : α → β) : Takes (f <$> m) front (f x) := by
  intro r rest
  show (f (m _).1, (m _).2) = _
  rw [h r rest]

/-- Whether a token is the first of a node of JSON. -/
def beginsNode : Token → Bool
  | .scalar _ _ | .flowSequenceStart | .flowMappingStart => true
  | _ => false

/-- A scalar is a node. -/
lemma takes_scalar (text : String) (style : ScalarStyle) (fuel : Nat) (block : Bool) :
    Takes (node (fuel + 1) block false) [.scalar text style] (.scalar ⟨text, style, none⟩) :=
  fun _ _ => rfl

/-- The items between square brackets make a node. -/
lemma takes_sequence {items : List Node} {fuel : Nat} (h : Takes (flowItems fuel true) front items)
    (block : Bool) :
    Takes (node (fuel + 1) block false) (.flowSequenceStart :: front) (.sequence none items) :=
  h.map (Node.sequence none)

/-- The entries between braces make a node. -/
lemma takes_mapping {entries : List (Node × Node)} {fuel : Nat}
    (h : Takes (flowEntries fuel true) front entries) (block : Bool) :
    Takes (node (fuel + 1) block false) (.flowMappingStart :: front) (.mapping none entries) :=
  h.map (Node.mapping none)

/-- What comes before an item that is not the first. -/
def lead (first : Bool) : List Token :=
  if first then [] else [.flowEntry]

/-- The items end where the closing bracket is. -/
lemma takes_itemsEnd (fuel : Nat) (first : Bool) :
    Takes (flowItems (fuel + 1) first) [.flowSequenceEnd] [] :=
  fun _ _ => rfl

/-- An item is read, and those after it. -/
lemma takes_item {t : Token} {ts : List Token} (begins : beginsNode t = true) {item : Node}
    {items : List Node} {fuel : Nat} (one : Takes (node fuel false false) (t :: ts) item)
    (others : Takes (flowItems fuel false) back items) (first : Bool) :
    Takes (flowItems (fuel + 1) first) (lead first ++ ((t :: ts) ++ back)) (item :: items) := by
  intro r rest
  have step : flowItems (fuel + 1) first (r.left (lead first ++ ((t :: ts) ++ back) ++ rest)) =
      (node fuel false false >>= fun item => (item :: ·) <$> flowItems fuel false)
        (r.left ((t :: ts) ++ back ++ rest)) := by
    cases t with
    | scalar | flowSequenceStart | flowMappingStart => cases first <;> rfl
    | _ => cases begins
  rw [step]
  exact one.bind (others.map _) r rest

/-- The entries end where the closing bracket is. -/
lemma takes_entriesEnd (fuel : Nat) (first : Bool) :
    Takes (flowEntries (fuel + 1) first) [.flowMappingEnd] [] :=
  fun _ _ => rfl

/-- A node is read where it may be left out, if its first token does not end the place of it. -/
lemma takes_nodeUnless {t : Token} {ts : List Token} {n : Node} {ends : Token → Bool} {fuel : Nat}
    (h : Takes (node fuel false false) (t :: ts) n) (goesOn : ends t = false) :
    Takes (nodeUnless (fuel + 1) ends false false) (t :: ts) n := by
  intro r rest
  have step : nodeUnless (fuel + 1) ends false false (r.left (t :: ts ++ rest)) =
      (if ends t then pure (.empty none) else node fuel false false) (r.left (t :: ts ++ rest)) :=
    rfl
  rw [step, goesOn]
  exact h r rest

/-- The entries between braces from after a key on. -/
def entriesFrom (fuel : Nat) (key : Node) : Step (List (Node × Node)) := do
  let value ←
    match ← peek with
    | none => pure .broken
    | some .value => do
      skip
      nodeUnless fuel (endsFlow .flowMappingEnd) false false
    | some _ => pure (.empty none)
  return (key, value) :: (← flowEntries fuel false)

/-- An entry that begins with its key. -/
lemma flowEntries_key (fuel : Nat) (first : Bool) (r : Reading) (ts : List Token) :
    flowEntries (fuel + 1) first (r.left (lead first ++ .key :: ts)) =
      (nodeUnless fuel (fun t => t == .value || endsFlow .flowMappingEnd t) false false >>=
        entriesFrom fuel) (r.left ts) := by
  cases first <;> rfl

/-- The value after a key is read, and the entries after it. -/
lemma takes_value {t : Token} {ts : List Token} (begins : beginsNode t = true) {value : Node}
    {entries : List (Node × Node)} {fuel : Nat}
    (one : Takes (node fuel false false) (t :: ts) value)
    (others : Takes (flowEntries (fuel + 1) false) back entries) (key : Node) :
    Takes (entriesFrom (fuel + 1) key) (.value :: ((t :: ts) ++ back)) ((key, value) :: entries) := by
  have goesOn : endsFlow .flowMappingEnd t = false := by
    cases t with
    | scalar | flowSequenceStart | flowMappingStart => rfl
    | _ => cases begins
  have both : Takes (nodeUnless (fuel + 1) (endsFlow .flowMappingEnd) false false >>= fun value =>
      ((key, value) :: ·) <$> flowEntries (fuel + 1) false) ((t :: ts) ++ back)
      ((key, value) :: entries) :=
    (takes_nodeUnless one goesOn).bind (others.map _)
  exact both

/-- An entry whose key is a scalar is read, and those after it. -/
lemma takes_entry {t : Token} {ts : List Token} (begins : beginsNode t = true) {value : Node}
    {entries : List (Node × Node)} {fuel : Nat}
    (one : Takes (node (fuel + 1) false false) (t :: ts) value)
    (others : Takes (flowEntries (fuel + 2) false) back entries) (first : Bool) (key : String)
    (style : ScalarStyle) :
    Takes (flowEntries (fuel + 3) first)
      (lead first ++ .key :: ([.scalar key style] ++ (.value :: ((t :: ts) ++ back))))
      ((.scalar ⟨key, style, none⟩, value) :: entries) := by
  intro r rest
  rw [List.append_assoc, List.cons_append, flowEntries_key]
  exact (takes_nodeUnless (takes_scalar key style fuel false) rfl).bind
    (takes_value begins one others _) r rest

/-- The tokens of items with what comes before each. -/
def separated (first : Bool) : List (List Token) → List Token
  | [] => []
  | ts :: tss => lead first ++ (ts ++ separated false tss)

/-- The tokens of all items are those of each with separators between them. -/
lemma separated_eq (tss : List (List Token)) :
    separated true tss = List.intercalate [.flowEntry] tss := by
  induction tss with
  | nil => rfl
  | cons ts tss ih =>
    cases tss with
    | nil => simp [separated, lead, List.intercalate]
    | cons ts' tss =>
      rw [List.intercalate_cons_cons, ← ih]
      simp [separated, lead]

variable {f : String → String}

/-- The tokens of a value begin a node. -/
lemma exists_tokens (f : String → String) (v : Json.Value) :
    ∃ t ts, v.tokens f = t :: ts ∧ beginsNode t = true := by
  cases v <;> exact ⟨_, _, rfl, rfl⟩

mutual

/-- The node of a value is read from its tokens. -/
lemma takes_node (v : Json.Value) (fuel : Nat) (enough : (v.tokens f).length ≤ fuel)
    (block : Bool) : Takes (node fuel block false) (v.tokens f) (v.toNode f) := by
  obtain ⟨fuel, rfl⟩ : ∃ n, fuel = n + 1 := by
    obtain ⟨t, ts, tokens, -⟩ := exists_tokens f v
    rw [tokens, List.length_cons] at enough
    exact ⟨fuel - 1, by omega⟩
  cases v with
  | null => exact takes_scalar _ _ fuel block
  | bool b => exact takes_scalar _ _ fuel block
  | number n => exact takes_scalar _ _ fuel block
  | string s => exact takes_scalar _ _ fuel block
  | array items =>
    rw [Json.Value.tokens, ← separated_eq] at enough ⊢
    rw [List.length_cons, List.length_append, List.length_singleton] at enough
    exact takes_sequence (takes_items items fuel true (by omega)) block
  | object fields =>
    rw [Json.Value.tokens, ← separated_eq] at enough ⊢
    rw [List.length_cons, List.length_append, List.length_singleton] at enough
    exact takes_mapping (takes_entries fields fuel true (by omega)) block

/-- The nodes of items are read from their tokens, up to the closing bracket. -/
lemma takes_items (items : List Json.Value) (fuel : Nat) (first : Bool)
    (enough : (separated first (Json.itemTokens f items)).length < fuel) :
    Takes (flowItems fuel first) (separated first (Json.itemTokens f items) ++ [.flowSequenceEnd])
      (Json.itemNodes f items) := by
  obtain ⟨fuel, rfl⟩ : ∃ n, fuel = n + 1 := ⟨fuel - 1, by omega⟩
  cases items with
  | nil => exact takes_itemsEnd fuel first
  | cons v vs =>
    obtain ⟨t, ts, tokens, begins⟩ := exists_tokens f v
    rw [Json.itemTokens, separated] at enough ⊢
    simp only [List.length_append] at enough
    have one := takes_node v fuel (by omega) false
    rw [tokens] at enough one ⊢
    rw [List.length_cons] at enough
    have others := takes_items vs fuel false (by omega)
    rw [List.append_assoc, List.append_assoc]
    exact takes_item begins one others first

/-- The nodes of fields are read from their tokens, up to the closing bracket. -/
lemma takes_entries (fields : List (String × Json.Value)) (fuel : Nat) (first : Bool)
    (enough : (separated first (Json.fieldTokens f fields)).length < fuel) :
    Takes (flowEntries fuel first) (separated first (Json.fieldTokens f fields) ++ [.flowMappingEnd])
      (Json.fieldNodes f fields) := by
  match fields with
  | [] =>
    obtain ⟨fuel, rfl⟩ : ∃ n, fuel = n + 1 := ⟨fuel - 1, by omega⟩
    exact takes_entriesEnd fuel first
  | (key, v) :: fs =>
    obtain ⟨t, ts, tokens, begins⟩ := exists_tokens f v
    rw [Json.fieldTokens, separated] at enough ⊢
    simp only [List.length_append, List.length_cons] at enough
    obtain ⟨fuel, rfl⟩ : ∃ n, fuel = n + 3 := ⟨fuel - 3, by omega⟩
    have one := takes_node v (fuel + 1) (by omega) false
    have others := takes_entries fs (fuel + 2) false (by omega)
    rw [tokens] at one ⊢
    rw [List.append_assoc, Json.fieldNodes]
    have entry := takes_entry begins one others first key .doubleQuoted
    simpa only [List.append_assoc, List.cons_append, List.nil_append] using entry

end

end Reading

/-- The document of the text of an object is its tree. -/
lemma Document.ofText_of_tokens {text : String} {fields : List (String × Json.Value)}
    {f : String → String}
    (scanned : tokensOf text =
      (.streamStart :: ((Json.Value.object fields).tokens f ++ [.streamEnd]), none)) :
    Document.ofText text = ⟨some ((Json.Value.object fields).toNode f), [], none, false⟩ := by
  let start : Reading :=
    { tokens := (Json.Value.object fields).tokens f ++ [.streamEnd], ending := none }
  let r : Reading := { tokens := [], ending := none, handles := Reading.defaultHandles }
  have root (fuel : Nat) (enough : ((Json.Value.object fields).tokens f).length ≤ fuel) :
      Reading.documentRoot fuel start =
        (some ((Json.Value.object fields).toNode f), r.left [.streamEnd]) := by
    have top : Reading.documentRoot fuel start =
        (some <$> Reading.node fuel true false)
          (r.left ((Json.Value.object fields).tokens f ++ [.streamEnd])) := rfl
    rw [top]
    exact (Reading.takes_node _ fuel enough true).map some r [.streamEnd]
  rw [Document.ofText, scanned]
  dsimp only [List.drop]
  rw [root _ (by simp only [List.length_cons, List.length_append]; omega)]
  rfl

namespace Reading

/-- A step does not find the end of the text where it is not ahead. -/
def Keeps {α : Type} (m : Step α) : Prop :=
  ∀ r : Reading, Token.streamEnd ∉ r.tokens → Token.streamEnd ∉ (m r).2.tokens

section

variable {α β : Type} {m : Step α}

lemma Keeps.pure (x : α) : Keeps (Pure.pure x : Step α) :=
  fun _ h => h

lemma Keeps.bind {next : α → Step β} (h : Keeps m) (h' : ∀ x, Keeps (next x)) :
    Keeps (m >>= next) :=
  fun r unended => h' _ _ (h r unended)

/-- A step with something made of its result. -/
lemma Keeps.andThen {make : α → β} (h : Keeps m) : Keeps (m >>= fun x => Pure.pure (make x)) :=
  h.bind fun _ => .pure _

/-- A step, another one, and something made of both results. -/
lemma Keeps.cons {ms : Step (List α)} (h : Keeps m) (h' : Keeps ms) :
    Keeps (m >>= fun x => ms >>= fun xs => Pure.pure (x :: xs)) :=
  h.bind fun _ => h'.andThen

/-- One of two steps, and then a third one. -/
lemma Keeps.either {m' : Step α} {next : α → Step β} (h : Keeps m) (h' : Keeps m')
    (h'' : ∀ x, Keeps (next x)) (c : Prop) [Decidable c] :
    Keeps (if c then m >>= next else m' >>= next) := by
  split
  · exact h.bind h''
  · exact h'.bind h''

lemma keeps_get : Keeps (get : Step Reading) :=
  fun _ h => h

lemma keeps_fail (e : Error) : Keeps (fail e) :=
  fun _ _ => List.not_mem_nil

lemma keeps_skip : Keeps skip :=
  fun _ h mem => h (List.mem_of_mem_drop mem)

lemma keeps_peek : Keeps peek := by
  rintro ⟨tokens, _⟩ h
  cases tokens with
  | nil => exact h
  | cons t ts => exact h

lemma keeps_breakOff (e : SyntaxError) : Keeps (breakOff e) :=
  (keeps_fail _).andThen

lemma keeps_skipThenPeek : Keeps skipThenPeek :=
  keeps_skip.bind fun _ => keeps_peek

lemma keeps_resolveTag (handle : String) (suffix : List UInt8) :
    Keeps (resolveTag handle suffix) := by
  unfold resolveTag
  split
  · exact .pure _
  · refine keeps_get.bind fun r => ?_
    split
    · exact .pure _
    · exact (keeps_fail _).andThen

lemma keeps_properties : Keeps properties := by
  unfold properties
  refine keeps_peek.bind fun t => ?_
  split
  · refine keeps_skipThenPeek.bind fun t => ?_
    split
    · exact keeps_skipThenPeek.bind fun _ => (keeps_resolveTag _ _).andThen
    · exact .pure _
  · refine keeps_skipThenPeek.bind fun t => ?_
    split
    · exact keeps_skipThenPeek.bind fun _ => (keeps_resolveTag _ _).andThen
    · exact (keeps_resolveTag _ _).andThen
  · exact .pure _

lemma keeps_openAnchor (name? : Option String) : Keeps (openAnchor name?) := by
  cases name? with
  | none => exact .pure _
  | some name => exact fun _ h => h

lemma keeps_closeAnchor (mark : Option (Nat × Nat)) (n : Node) : Keeps (closeAnchor mark n) := by
  cases mark with
  | none => exact .pure _
  | some mark => exact fun _ h => h

end

/-- The end of a mapping of one entry. -/
def pairEnd (key value : Node) : Step Node := do
  match ← peek with
  | none => return .mapping none [(key, value), (.broken, .broken)]
  | some _ => return .mapping none [(key, value)]

/-- A mapping of one entry from after its key on. -/
def pairFrom (fuel : Nat) (key : Node) : Step Node := do
  let value ←
    match ← peek with
    | none => pure .broken
    | some .value => do
      skip
      nodeUnless fuel (endsFlow .flowSequenceEnd) false false
    | some _ => pure (.empty none)
  pairEnd key value

/-- No step that reads a node or a part of one finds the end of the text where it is not ahead. -/
structure Keeping (fuel : Nat) : Prop where
  node : ∀ block indentless, Keeps (node fuel block indentless)
  nodeUnless : ∀ ends block indentless, Keeps (nodeUnless fuel ends block indentless)
  blockItems : Keeps (blockItems fuel)
  indentlessItems : Keeps (indentlessItems fuel)
  blockEntries : Keeps (blockEntries fuel)
  flowItems : ∀ first, Keeps (flowItems fuel first)
  flowPair : Keeps (flowPair fuel)
  flowEntries : ∀ first, Keeps (flowEntries fuel first)

section

variable {fuel : Nat} (h : Keeping fuel)

include h

lemma Keeping.node_succ (block indentless : Bool) :
    Keeps (Reading.node (fuel + 1) block indentless) := by
  -- a collection between its two ends
  have within {α : Type} {m : Step α} (make : α → Node) (inside : Keeps m) (anchor : Option String) :
      Keeps (openAnchor anchor >>= fun mark => skip >>= fun _ => m >>= fun x =>
        closeAnchor mark (make x)) :=
    (keeps_openAnchor _).bind fun _ => keeps_skip.bind fun _ => inside.bind fun _ =>
      keeps_closeAnchor _ _
  unfold Reading.node
  refine keeps_peek.bind fun t => ?_
  split
  · exact .pure _
  · refine keeps_skip.bind fun _ => keeps_get.bind fun r => ?_
    split
    · exact .pure _
    · exact (keeps_fail _).andThen
  · refine keeps_properties.bind fun (anchor, tag) => keeps_peek.bind fun t => ?_
    split
    · exact .pure _
    · split
      · exact (keeps_openAnchor _).bind fun _ => h.indentlessItems.bind fun _ =>
          keeps_closeAnchor _ _
      · split
        · exact (keeps_openAnchor _).bind fun _ => keeps_skip.bind fun _ => keeps_closeAnchor _ _
        · exact within (.sequence tag) (h.flowItems true) anchor
        · exact within (.mapping tag) (h.flowEntries true) anchor
        · split
          · exact within (.sequence tag) h.blockItems anchor
          · split
            · exact within (.mapping tag) h.blockEntries anchor
            · split
              · exact (keeps_openAnchor _).bind fun _ => keeps_closeAnchor _ _
              · exact keeps_breakOff _

lemma Keeping.nodeUnless_succ (ends : Token → Bool) (block indentless : Bool) :
    Keeps (Reading.nodeUnless (fuel + 1) ends block indentless) := by
  unfold Reading.nodeUnless
  refine keeps_peek.bind fun t => ?_
  split
  · exact .pure _
  · split
    · exact .pure _
    · exact h.node block indentless

lemma Keeping.blockItems_succ : Keeps (Reading.blockItems (fuel + 1)) := by
  unfold Reading.blockItems
  refine keeps_peek.bind fun t => ?_
  split
  · exact keeps_skip.bind fun _ => (h.nodeUnless _ _ _).cons h.blockItems
  · exact keeps_skip.andThen
  · exact (keeps_breakOff _).andThen

lemma Keeping.indentlessItems_succ : Keeps (Reading.indentlessItems (fuel + 1)) := by
  unfold Reading.indentlessItems
  refine keeps_peek.bind fun t => ?_
  split
  · exact keeps_skip.bind fun _ => (h.nodeUnless _ _ _).cons h.indentlessItems
  · exact .pure _
  · exact .pure _

lemma Keeping.blockEntries_succ : Keeps (Reading.blockEntries (fuel + 1)) := by
  unfold Reading.blockEntries
  refine keeps_peek.bind fun t => ?_
  split
  · refine keeps_skip.bind fun _ => (h.nodeUnless _ _ _).bind fun key => keeps_peek.bind fun t => ?_
    split
    · exact keeps_skip.bind fun _ => (h.nodeUnless _ _ _).bind fun _ => h.blockEntries.andThen
    · exact h.blockEntries.andThen
    · exact h.blockEntries.andThen
  · exact keeps_skip.andThen
  · exact (keeps_breakOff _).andThen

lemma Keeping.flowItems_succ (first : Bool) : Keeps (Reading.flowItems (fuel + 1) first) := by
  unfold Reading.flowItems
  refine keeps_peek.bind fun t => ?_
  split
  · exact .pure _
  · exact keeps_skip.andThen
  · split
    · exact (keeps_breakOff _).andThen
    · refine Keeps.either (.pure _) keeps_skipThenPeek (fun t => ?_) _
      dsimp only
      split
      · exact .pure _
      · exact keeps_skip.andThen
      · exact keeps_skip.bind fun _ => h.flowPair.cons (h.flowItems false)
      · exact (h.node _ _).cons (h.flowItems false)

lemma Keeping.pairFrom (key : Node) : Keeps (Reading.pairFrom fuel key) := by
  have ended (value : Node) : Keeps (pairEnd key value) := by
    unfold pairEnd
    refine keeps_peek.bind fun t => ?_
    split
    · exact .pure _
    · exact .pure _
  unfold Reading.pairFrom
  refine keeps_peek.bind fun t => ?_
  split
  · exact ended _
  · exact keeps_skip.bind fun _ => (h.nodeUnless _ _ _).bind ended
  · exact ended _

lemma Keeping.flowPair_succ : Keeps (Reading.flowPair (fuel + 1)) := by
  unfold Reading.flowPair
  refine keeps_peek.bind fun t => ?_
  split
  · exact h.pairFrom _
  · split
    · exact keeps_skip.bind fun _ => h.pairFrom _
    · exact (h.node _ _).bind h.pairFrom

lemma Keeping.entriesFrom (key : Node) : Keeps (Reading.entriesFrom fuel key) := by
  unfold Reading.entriesFrom
  refine keeps_peek.bind fun t => ?_
  split
  · exact (h.flowEntries false).andThen
  · exact keeps_skip.bind fun _ => (h.nodeUnless _ _ _).bind fun _ => (h.flowEntries false).andThen
  · exact (h.flowEntries false).andThen

lemma Keeping.flowEntries_succ (first : Bool) : Keeps (Reading.flowEntries (fuel + 1) first) := by
  unfold Reading.flowEntries
  refine keeps_peek.bind fun t => ?_
  split
  · exact .pure _
  · exact keeps_skip.andThen
  · split
    · exact (keeps_breakOff _).andThen
    · refine Keeps.either (.pure _) keeps_skipThenPeek (fun t => ?_) _
      dsimp only
      split
      · exact .pure _
      · exact keeps_skip.andThen
      · exact keeps_skip.bind fun _ => (h.nodeUnless _ _ _).bind h.entriesFrom
      · refine (h.node _ _).bind fun key => keeps_peek.bind fun t => ?_
        split
        · exact (h.flowEntries false).andThen
        · exact (h.flowEntries false).andThen

end

/-- Reading a node never finds the end of the text where it is not ahead. -/
lemma keeping (fuel : Nat) : Keeping fuel := by
  induction fuel with
  | zero =>
    exact
      { node := fun _ _ => keeps_breakOff _
        nodeUnless := fun _ _ _ => keeps_breakOff _
        blockItems := .pure _
        indentlessItems := .pure _
        blockEntries := .pure _
        flowItems := fun _ => .pure _
        flowPair := .pure _
        flowEntries := fun _ => .pure _ }
  | succ fuel ih =>
    exact
      { node := ih.node_succ
        nodeUnless := ih.nodeUnless_succ
        blockItems := ih.blockItems_succ
        indentlessItems := ih.indentlessItems_succ
        blockEntries := ih.blockEntries_succ
        flowItems := ih.flowItems_succ
        flowPair := ih.flowPair_succ
        flowEntries := ih.flowEntries_succ }

lemma keeps_directives (fuel : Nat) (versioned : Bool) : Keeps (directives fuel versioned) := by
  induction fuel generalizing versioned with
  | zero => exact .pure _
  | succ fuel ih =>
    unfold directives
    refine keeps_peek.bind fun t => ?_
    split
    · split
      · exact keeps_fail _
      · split
        · exact keeps_fail _
        · exact keeps_skip.bind fun _ => ih true
    · refine keeps_get.bind fun r => ?_
      split
      · exact keeps_fail _
      · refine Keeps.bind (fun _ h => h) fun _ => keeps_skip.bind fun _ => ih versioned
    · exact .pure _

lemma keeps_documentRoot (fuel : Nat) : Keeps (documentRoot fuel) := by
  unfold documentRoot
  refine keeps_peek.bind fun t => ?_
  split
  · exact .pure _
  · exact (keeps_breakOff _).andThen
  · exact .pure _
  · split
    · exact Keeps.bind (fun _ h => h) fun _ => ((keeping fuel).node _ _).andThen
    · refine (keeps_directives _ _).bind fun _ => Keeps.bind (fun _ h => h) fun _ =>
        keeps_peek.bind fun t => ?_
      split
      · exact keeps_skip.bind fun _ => ((keeping fuel).nodeUnless _ _ _).andThen
      · exact (keeps_breakOff _).andThen

/-- Where there is a next token it is looked at. -/
lemma peek_bind {α : Type} {r : Reading} {t : Token} {ts : List Token} (h : r.tokens = t :: ts)
    (next : Option Token → Step α) : (peek >>= next) r = next (some t) r := by
  obtain ⟨tokens, _⟩ := r
  cases h
  rfl

/-- There is a document where the end of the text is not ahead. -/
lemma isSome_documentRoot (fuel : Nat) {r : Reading} (unended : Token.streamEnd ∉ r.tokens) :
    (documentRoot fuel r).1.isSome = true := by
  have goesOn {α : Type} (m : Step α) (next : α → Step (Option Node)) (r : Reading)
      (h : ∀ x r, (next x r).1.isSome = true) : ((m >>= next) r).1.isSome = true :=
    h (m r).1 (m r).2
  cases tokens : r.tokens with
  | nil =>
    obtain ⟨_, _⟩ := r
    cases tokens
    rfl
  | cons t ts =>
    rw [tokens] at unended
    rw [documentRoot, peek_bind tokens]
    cases t with
    | streamEnd => simp at unended
    | version | tagHandle | documentStart =>
      refine goesOn _ _ _ fun _ r => goesOn _ _ _ fun _ r => goesOn _ _ _ fun t r => ?_
      rcases t with _ | t
      · rfl
      · cases t <;> rfl
    | _ => rfl

/-- The text goes on where its end is not ahead. -/
lemma documentTail_of_unended {r : Reading} (unended : Token.streamEnd ∉ r.tokens) :
    (documentTail r).1 = true := by
  cases tokens : r.tokens with
  | nil =>
    obtain ⟨_, _⟩ := r
    cases tokens
    rfl
  | cons t ts =>
    rw [documentTail, peek_bind tokens]
    have goesOn (next : Reading → Step Bool) (h : (next r r).1 = true) :
        ((get >>= next) r).1 = true := h
    have atEnd (ts : List Token) (left : r.tokens.dropWhile (· == .documentEnd) = .streamEnd :: ts) :
        False :=
      unended ((List.dropWhile_sublist _).mem (left ▸ List.mem_cons_self))
    cases t with
    | streamEnd => simp [tokens] at unended
    | _ =>
      refine goesOn _ ?_
      cases left : r.tokens.dropWhile (· == .documentEnd) with
      | nil => rfl
      | cons t ts => cases t <;> first | rfl | exact (atEnd ts left).elim

end Reading

/-- A text whose end is not among its tokens is more than a document. -/
lemma Document.ofText_of_unended {text : String} {ts : List Token} {e : Option SyntaxError}
    (scanned : tokensOf text = (ts, e)) (unended : Token.streamEnd ∉ ts) :
    (Document.ofText text).root.isSome = true ∧ (Document.ofText text).hasMore = true := by
  have ahead : Token.streamEnd ∉ ts.drop 1 := fun mem => unended (List.mem_of_mem_drop mem)
  let start : Reading := { tokens := ts.drop 1, ending := e }
  have isSome := Reading.isSome_documentRoot (3 * ts.length + 8) (r := start) ahead
  have more := Reading.documentTail_of_unended
    (Reading.keeps_documentRoot (3 * ts.length + 8) start ahead)
  rw [Document.ofText, scanned]
  dsimp only
  generalize Reading.documentRoot (3 * ts.length + 8) start = read at isSome more ⊢
  obtain ⟨root, r⟩ := read
  cases root with
  | none => cases isSome
  | some n => exact ⟨rfl, more⟩

/-- A text whose end is not among its tokens cannot be decoded. -/
theorem decodeText_of_unended {text : String} {ts : List Token} {e : Option SyntaxError}
    (scanned : tokensOf text = (ts, e)) (unended : Token.streamEnd ∉ ts) {α : Type}
    (decode : List Part → Node → Decode α) (absent x : α) :
    decodeText decode absent text ≠ .ok x := by
  obtain ⟨root, more⟩ := Document.ofText_of_unended scanned unended
  obtain ⟨n, root⟩ := Option.isSome_iff_exists.1 root
  intro decoded
  unfold decodeText at decoded
  dsimp only at decoded
  rw [root, more] at decoded
  dsimp only at decoded
  cases read : ((decode [] n).run (Document.ofText text)).run' 0 with
  | error e =>
    rw [read] at decoded
    cases decoded
  | ok y =>
    rw [read] at decoded
    cases failure : (Document.ofText text).failure with
    | none =>
      rw [failure] at decoded
      cases decoded
    | some e =>
      rw [failure] at decoded
      cases decoded

end Yaml

end Pipeline
