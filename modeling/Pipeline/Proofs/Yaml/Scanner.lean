import Pipeline.Proofs.Yaml.Plain

/-!
# Scanning tokens between brackets

What the scanner does with the tokens of a JSON text. Outside of blocks no token has to begin a key,
so a state is told by the tokens so far, the brackets that are open and the text that is left,
blanks at its front not counted (`Scanner.Stands`). Each token leads from such a state to the next.
-/

namespace Pipeline.Yaml

/-- The characters at the front with a property are skipped. -/
lemma Cursor.skipWhile_eq {p : Char → Bool} {front tail : List Char} {c : Cursor}
    (rest : c.rest = front ++ tail) (all : ∀ ch ∈ front, p ch = true)
    (stops : tail.head?.any p = false) : c.skipWhile p = c.advance front.length := by
  have found : c.rest.takeWhile p = front := by
    rw [rest, List.takeWhile_append_of_pos all]
    cases tail with
    | nil => simp
    | cons ch tail =>
      have : p ch = false := by simpa using stops
      simp [this]
  simp [skipWhile, span, found]

namespace Scanner

/-- What comes after the spaces of a line is nothing that is skipped with them, and it is a break
only if it ends the line. -/
lemma unskipped_of_head {ch : Char} (h : (ch == '\n' || beginsToken ch) = true) :
    ch ≠ ' ' ∧ ch ≠ '\t' ∧ ch ≠ '#' ∧ ch ≠ '\ufeff' ∧ (isBreak ch = true ↔ ch = '\n') := by
  have : ch = '\n' ∨ beginsToken ch = true := by simpa using h
  rcases this with rfl | begins
  · decide
  · obtain ⟨spacing, comment, mark⟩ := ne_of_beginsToken begins
    simp only [isSpacing, Text.isGap, Bool.or_eq_false_iff, beq_eq_false_iff_ne] at spacing
    obtain ⟨⟨space, tab⟩, unbroken⟩ := spacing
    refine ⟨space, tab, comment, mark, iff_of_false (by simp [unbroken]) ?_⟩
    rintro rfl
    cases unbroken

/-- The spaces at the front of a line are skipped, and the line ends if nothing else is on it. -/
lemma skipToToken_spaces {spaces tail : List Char} (space : ∀ ch ∈ spaces, (ch == ' ') = true)
    (head : tail.head?.all (fun ch => ch == '\n' || beginsToken ch) = true) (fuel : Nat)
    {s : Scanner} (rest : s.cursor.rest = spaces ++ tail) :
    skipToToken (fuel + 1) s =
      if tail.head? = some '\n' then
        skipToToken fuel { s with
          cursor := (s.cursor.advance spaces.length).skipBreak
          keyAllowed := s.keyAllowed || !s.inFlow }
      else { s with cursor := s.cursor.advance spaces.length } := by
  have after := Cursor.rest_advance rest
  have unskipped (ch : Char) (h : tail.head? = some ch) :
      ch ≠ ' ' ∧ ch ≠ '\t' ∧ ch ≠ '#' ∧ ch ≠ '\ufeff' ∧ (isBreak ch = true ↔ ch = '\n') :=
    unskipped_of_head (by simpa [h] using head)
  -- a turn skips one line: a mark, spaces, a comment and a line break are looked for in this order
  have unmarked : s.cursor.at? '\ufeff' = false := by
    rw [Cursor.at?, rest]
    cases spaces with
    | nil =>
      cases tail with
      | nil => rfl
      | cons ch tail => simpa using (unskipped ch rfl).2.2.2.1
    | cons ch spaces =>
      have := space ch List.mem_cons_self
      rw [beq_iff_eq] at this
      subst this
      rfl
  have skips : (s.cursor.skipWhile fun ch => ch == ' ' || ((s.inFlow || !s.keyAllowed) && ch == '\t'))
      = s.cursor.advance spaces.length := by
    refine Cursor.skipWhile_eq rest (fun ch mem => by simp [space ch mem]) ?_
    cases tail with
    | nil => rfl
    | cons ch tail => simp [unskipped ch rfl]
  have uncommented : (s.cursor.advance spaces.length).at? '#' = false := by
    rw [Cursor.at?, after]
    cases tail with
    | nil => rfl
    | cons ch tail => simpa using (unskipped ch rfl).2.2.1
  have breaks : ((s.cursor.advance spaces.length).peek?.any isBreak = true) ↔
      tail.head? = some '\n' := by
    rw [Cursor.peek?, after]
    cases tail with
    | nil => simp
    | cons ch tail => simpa using (unskipped ch rfl).2.2.2.2
  simp only [skipToToken, unmarked, Bool.false_eq_true, and_false, if_false, skips,
    Cursor.skipComment, uncommented, breaks]

/-- Blanks before a token are skipped, and whether a key may begin is not forgotten. -/
lemma skipToToken_blanks {blanks cs : List Char} (blank : ∀ ch ∈ blanks, isBlank ch = true)
    (token : cs.head?.all beginsToken = true) {fuel : Nat} (enough : blanks.length < fuel)
    {s : Scanner} (rest : s.cursor.rest = blanks ++ cs) :
    ∃ c allowed, skipToToken fuel s = { s with cursor := c, keyAllowed := allowed } ∧
      c.rest = cs ∧ (blanks = [] → c = s.cursor) ∧ (s.keyAllowed = true → allowed = true) := by
  induction fuel generalizing blanks s with
  | zero => cases enough
  | succ fuel ih =>
    -- the spaces of this line, and the line ends after them
    obtain ⟨spaces, back, rfl, space, stops⟩ := exists_front (fun ch => ch == ' ') blanks
    rw [List.append_assoc] at rest
    have after := Cursor.rest_advance rest
    rcases back with _ | ⟨ch, back⟩
    · have head : ([] ++ cs).head?.all (fun ch => ch == '\n' || beginsToken ch) = true := by
        cases cs with
        | nil => rfl
        | cons ch cs =>
          have : beginsToken ch = true := by simpa using token
          simp [this]
      have goesOn : ([] ++ cs).head? ≠ some '\n' := by
        intro newline
        rw [List.nil_append] at newline
        simp [newline, beginsToken, isSpacing, isBreak] at token
      refine ⟨_, _, (skipToToken_spaces space head fuel rest).trans (if_neg goesOn), after, ?_, id⟩
      intro none
      rw [List.append_nil] at none
      simp [none]
    · obtain rfl : ch = '\n' := by
        have isBlank : isBlank ch = true := blank ch (by simp)
        have apart : ch ≠ ' ' := by simpa using stops
        simpa [Yaml.isBlank, apart] using isBlank
      -- the next line is skipped in turn, from its first column
      have shorter : back.length < fuel := by
        simp only [List.length_append, List.length_cons] at enough
        omega
      have next : (s.cursor.advance spaces.length).skipBreak.rest = back ++ cs := by
        rw [Cursor.skipBreak, Cursor.takeBreak, after]
        rfl
      obtain ⟨c, allowed, skips, left, -, kept⟩ :=
        ih (s := { s with
          cursor := (s.cursor.advance spaces.length).skipBreak
          keyAllowed := s.keyAllowed || !s.inFlow })
          (fun ch mem => blank ch (by simp [mem])) shorter next
      refine ⟨c, allowed, ?_, left, by simp, fun h => kept (by simp [h])⟩
      exact ((skipToToken_spaces space rfl fuel rest).trans (if_pos rfl)).trans skips

/-- All tokens so far, those given out and those held back. -/
def tokens (s : Scanner) : List Token :=
  s.given.reverse ++ s.held

/-- A candidate after a position is reached, given up if it is too far behind. -/
def outlived (c : Cursor) (k : KeyCandidate) : KeyCandidate :=
  if isStale c k then { k with live := false } else k

/-- The state is outside of all blocks, and no candidate has to begin a key; those that may were not
given out yet. -/
structure Free (s : Scanner) : Prop where
  indent : s.indent = -1
  outer : s.outer = []
  unfinished : s.finished = false
  count : s.count = s.given.length
  optional : ∀ k ∈ s.candidates, k.required = false
  ahead : ∀ k ∈ s.candidates, k.live = true → s.count ≤ k.number

/-- Candidates are given up without an error. -/
lemma dropStale_of_optional {s : Scanner} (h : ∀ k ∈ s.candidates, k.required = false) :
    s.dropStale = .ok { s with candidates := s.candidates.map (outlived s.cursor) } := by
  have none : (s.candidates.any fun k => isStale s.cursor k && k.required) = false := by
    rw [List.any_eq_false]
    intro k mem
    simp [h k mem]
  rw [dropStale, none]
  rfl

/-- A candidate that is given up stays optional, and it is live only if it was. -/
lemma outlived_optional (c : Cursor) (k : KeyCandidate) :
    (outlived c k).required = k.required ∧ (outlived c k).number = k.number ∧
      ((outlived c k).live = true → k.live = true) := by
  unfold outlived
  split <;> simp_all

/-- The state at a position, where candidates that are too far behind are given up. -/
def outlive (s : Scanner) (c : Cursor) : Scanner :=
  { s with candidates := s.candidates.map (outlived c) }

/-- The state in which some tokens are given out and others held back. -/
def gave (s : Scanner) (out held : List Token) : Scanner :=
  { s with held := held, given := out.reverse ++ s.given, count := s.count + out.length }

/-- A state stays free when candidates are given up. -/
lemma Free.outlive {s : Scanner} (h : s.Free) (c : Cursor) : (s.outlive c).Free where
  indent := h.indent
  outer := h.outer
  unfinished := h.unfinished
  count := h.count
  optional _ mapped := by
    obtain ⟨k, mem, rfl⟩ := List.mem_map.1 mapped
    exact (outlived_optional c k).1.trans (h.optional k mem)
  ahead _ mapped live := by
    obtain ⟨k, mem, rfl⟩ := List.mem_map.1 mapped
    rw [(outlived_optional c k).2.1]
    exact h.ahead k mem ((outlived_optional c k).2.2 live)

/-- Before a token is read the blanks are skipped and candidates are given up. -/
lemma Free.fetch {s : Scanner} (h : s.Free) {blanks cs : List Char}
    (blank : ∀ ch ∈ blanks, isBlank ch = true) (token : cs.head?.all beginsToken = true)
    (rest : s.cursor.rest = blanks ++ cs) :
    ∃ c allowed, s.fetch = ({ s with cursor := c, keyAllowed := allowed }.outlive c).fetchAt ∧
      c.rest = cs ∧ (blanks = [] → c = s.cursor) ∧ (s.keyAllowed = true → allowed = true) := by
  have enough : blanks.length < s.cursor.rest.length + 1 := by
    rw [rest, List.length_append]
    omega
  obtain ⟨c, allowed, skips, left, same, kept⟩ := skipToToken_blanks blank token enough rest
  refine ⟨c, allowed, ?_, left, same, kept⟩
  have stale := dropStale_of_optional (s := { s with cursor := c, keyAllowed := allowed }) h.optional
  rw [Scanner.fetch, skips, stale]
  simp only [bind, Except.bind, unroll, h.outer, unrollFrom, ite_self]
  rfl

/-- Tokens are given out up to the first that may begin a key. -/
lemma giveFrom_spec (ts : List Token) {s : Scanner}
    (h : ∀ k ∈ s.candidates, k.live = true → s.count ≤ k.number) :
    ∃ out held, ts = out ++ held ∧ giveFrom ts s = s.gave out held ∧
      (∀ k ∈ s.candidates, k.live = true → s.count + out.length ≤ k.number) ∧
      ((∀ k ∈ s.candidates, k.live = false) → held = []) := by
  induction ts generalizing s with
  | nil => exact ⟨[], [], rfl, rfl, h, fun _ => rfl⟩
  | cons t ts ih =>
    unfold giveFrom
    cases stops : s.candidates.any fun k => k.live && k.number == s.count with
    | true =>
      refine ⟨[], t :: ts, rfl, rfl, h, fun dead => ?_⟩
      obtain ⟨k, mem, live⟩ := List.any_eq_true.1 stops
      simp [dead k mem] at live
    | false =>
      -- no candidate has the number of this token, so each live one has a later one
      have next : ∀ k ∈ s.candidates, k.live = true → s.count + 1 ≤ k.number := by
        intro k mem live
        have apart := List.any_eq_false.1 stops k mem
        simp only [live, Bool.true_and, beq_iff_eq] at apart
        have := h k mem live
        omega
      obtain ⟨out, held, rfl, gives, ahead, all⟩ :=
        ih (s := { s with given := t :: s.given, count := s.count + 1 }) next
      refine ⟨t :: out, held, rfl, ?_, fun k mem live => ?_, all⟩
      · simp [gives, gave, Nat.add_assoc, Nat.add_comm 1]
      · have : s.count + 1 + out.length ≤ k.number := ahead k mem live
        rw [List.length_cons]
        omega

/-- Giving tokens out changes nothing about the tokens so far. -/
lemma Free.give {s : Scanner} (h : s.Free) :
    ∃ s', s.give = .ok s' ∧ s'.Free ∧ s'.tokens = s.tokens ∧ s'.cursor = s.cursor ∧
      s'.keyAllowed = s.keyAllowed ∧ s'.candidates = s.candidates.map (outlived s.cursor) := by
  obtain ⟨out, held, split, gives, ahead, -⟩ := giveFrom_spec s.held (h.outlive s.cursor).ahead
  have given : s.give = .ok ((s.outlive s.cursor).gave out held) := by
    rw [Scanner.give, dropStale_of_optional h.optional, ← gives]
    rfl
  refine ⟨_, given, ⟨h.indent, h.outer, h.unfinished, ?_, (h.outlive s.cursor).optional, ahead⟩, ?_,
    rfl, rfl, rfl⟩
  · simp [gave, Scanner.outlive, h.count, Nat.add_comm]
  · simp [gave, Scanner.outlive, tokens, split]

/-- One state comes some tokens after another, and each token has taken a character at least. -/
def Reaches (s s' : Scanner) : Prop :=
  ∃ n, n + s'.cursor.rest.length ≤ s.cursor.rest.length ∧
    ∀ fuel, tokensWith (n + fuel) s = tokensWith fuel s'

/-- The tokens after a state are ended by an error, before the text ends. -/
def Fails (s : Scanner) : Prop :=
  ∃ n ts e, n ≤ s.cursor.rest.length ∧ Token.streamEnd ∉ ts ∧
    ∀ fuel, tokensWith (n + 1 + fuel) s = (ts, some e)

/-- States come one after the other. -/
lemma Reaches.trans {s s' s'' : Scanner} (h : s.Reaches s') (h' : s'.Reaches s'') :
    s.Reaches s'' := by
  obtain ⟨n, shorter, goes⟩ := h
  obtain ⟨n', shorter', goes'⟩ := h'
  refine ⟨n + n', by omega, fun fuel => ?_⟩
  rw [Nat.add_assoc, goes, goes']

/-- An error after a later state is one after an earlier state. -/
lemma Reaches.fails {s s' : Scanner} (h : s.Reaches s') (fails : s'.Fails) : s.Fails := by
  obtain ⟨n, shorter, goes⟩ := h
  obtain ⟨n', ts, e, shorter', unended, ends⟩ := fails
  refine ⟨n + n', ts, e, by omega, unended, fun fuel => ?_⟩
  rw [Nat.add_assoc, Nat.add_assoc, goes, ← Nat.add_assoc, ends]

/-- The scanner after a token that was read up to a position, with other candidates. -/
def emit (s : Scanner) (ks : List KeyCandidate) (allowed : Bool) (c : Cursor) (t : Token) :
    Scanner :=
  { s with candidates := ks, keyAllowed := allowed, held := s.held ++ [t], cursor := c }

/-- A token that was read comes after those before it. -/
lemma tokens_emit (s : Scanner) (ks : List KeyCandidate) (allowed : Bool) (c : Cursor) (t : Token) :
    (s.emit ks allowed c t).tokens = s.tokens ++ [t] := by
  simp [Scanner.tokens, emit]

/-- The scanner is free, `depth` brackets are open, `ts` are the tokens so far, and `text` is left
once blanks are skipped. -/
structure Stands (s : Scanner) (depth : Nat) (ts : List Token) (text : List Char) : Prop where
  free : s.Free
  open_ : s.candidates.length = depth + 1
  tokens : s.tokens = ts
  left : dropBlanks s.cursor.rest = dropBlanks text

/-- The token at the cursor is `t`, after which `depth` brackets are open, `text` is left, and a key
may begin or not. -/
structure Emits (s : Scanner) (t : Token) (depth : Nat) (text : List Char) (allowed : Bool)
    (ks : List KeyCandidate) (c : Cursor) : Prop where
  fetches : s.fetchAt = .ok (s.emit ks allowed c t)
  optional : ∀ k ∈ ks, k.required = false
  ahead : ∀ k ∈ ks, k.live = true → s.count ≤ k.number
  open_ : ks.length = depth + 1
  left : dropBlanks c.rest = dropBlanks text
  shorter : c.rest.length < s.cursor.rest.length

variable {s : Scanner} {depth depth' : Nat} {ts : List Token} {t : Token} {ch : Char}
  {cs text : List Char} {allowed : Bool}

/-- A free state stays so with one more token. -/
lemma Free.emit (h : s.Free) {ks : List KeyCandidate} (optional : ∀ k ∈ ks, k.required = false)
    (ahead : ∀ k ∈ ks, k.live = true → s.count ≤ k.number) (allowed : Bool) (c : Cursor)
    (t : Token) : (s.emit ks allowed c t).Free :=
  ⟨h.indent, h.outer, h.unfinished, h.count, optional, ahead⟩

/-- Where the scanner stands before a token it reads this one next. -/
lemma Stands.arrive (h : s.Stands depth ts (ch :: cs)) (token : beginsToken ch = true) :
    ∃ s₁ : Scanner, s.fetch = s₁.fetchAt ∧ s₁.Stands depth ts (ch :: cs) ∧
      s₁.cursor.rest = ch :: cs ∧ (s.keyAllowed = true → s₁.keyAllowed = true) ∧
      s₁.cursor.rest.length ≤ s.cursor.rest.length ∧ (s.cursor.rest = ch :: cs →
        s₁.cursor = s.cursor ∧ s₁.candidates = s.candidates.map (outlived s.cursor)) := by
  obtain ⟨blanks, back, split, blank, stops⟩ := exists_front isBlank s.cursor.rest
  obtain rfl : back = ch :: cs := by
    have left := h.left
    rw [split, dropBlanks_append blank, dropBlanks_of_beginsToken token] at left
    rw [← left]
    cases back with
    | nil => rfl
    | cons b back =>
      have : isBlank b = false := by simpa using stops
      simp [dropBlanks, this]
  obtain ⟨c, allowed, fetches, rest, same, kept⟩ :=
    h.free.fetch blank (by simp [token]) split
  have free : ({ s with cursor := c, keyAllowed := allowed }.outlive c).Free :=
    Free.outlive (s := { s with cursor := c, keyAllowed := allowed })
      ⟨h.free.indent, h.free.outer, h.free.unfinished, h.free.count, h.free.optional,
        h.free.ahead⟩ c
  refine ⟨_, fetches, ⟨free, ?_, h.tokens, congrArg dropBlanks rest⟩, rest, kept, ?_, ?_⟩
  · simpa [outlive] using h.open_
  · rw [split, List.length_append]
    simp only [outlive, rest]
    omega
  · intro here
    have none : blanks = [] := by
      rw [here] at split
      exact List.append_left_eq_self.1 split.symm
    obtain rfl := same none
    exact ⟨rfl, rfl⟩

/-- A token that was read leads to the state in which tokens were given out. -/
lemma reaches_of_fetch {s₂ : Scanner} (fetches : s.fetch = .ok s₂) (free : s₂.Free)
    (shorter : s₂.cursor.rest.length < s.cursor.rest.length) :
    ∃ s', s.Reaches s' ∧ s'.Free ∧ s'.tokens = s₂.tokens ∧ s'.cursor = s₂.cursor ∧
      s'.keyAllowed = s₂.keyAllowed ∧ s'.candidates = s₂.candidates.map (outlived s₂.cursor) := by
  obtain ⟨s', gives, free', tokens, cursor, keyAllowed, candidates⟩ := free.give
  refine ⟨s', ⟨1, ?_, fun fuel => ?_⟩, free', tokens, cursor, keyAllowed, candidates⟩
  · rw [cursor]
    omega
  · rw [Nat.add_comm, tokensWith, fetches]
    simp [Except.bind, gives, free'.unfinished]

/-- A token leads to a state where it is the last one. -/
lemma Stands.step (h : s.Stands depth ts (ch :: cs)) (token : beginsToken ch = true)
    (emits : ∀ s₁ : Scanner, s₁.Stands depth ts (ch :: cs) → s₁.cursor.rest = ch :: cs →
      (s.keyAllowed = true → s₁.keyAllowed = true) →
        ∃ ks c, s₁.Emits t depth' text allowed ks c) :
    ∃ s', s.Reaches s' ∧ s'.Stands depth' (ts ++ [t]) text ∧ s'.keyAllowed = allowed := by
  obtain ⟨s₁, fetches, stands, rest, kept, shorter, -⟩ := h.arrive token
  obtain ⟨ks, c, e⟩ := emits s₁ stands rest kept
  obtain ⟨s', reaches, free, tokens, cursor, keyAllowed, candidates⟩ :=
    reaches_of_fetch (fetches.trans e.fetches)
      (stands.free.emit e.optional e.ahead allowed c t) (Nat.lt_of_lt_of_le e.shorter shorter)
  refine ⟨s', reaches, ⟨free, ?_, ?_, ?_⟩, keyAllowed⟩
  · rw [candidates, List.length_map]
    exact e.open_
  · rw [tokens, tokens_emit, stands.tokens]
  · rw [cursor]
    exact e.left

/-- The candidate for a token at the cursor. -/
def fresh (s : Scanner) : KeyCandidate :=
  ⟨true, false, s.count + s.held.length, s.cursor.index, s.cursor.line, s.cursor.column⟩

/-- The innermost candidate can be given up, and it is not live then. -/
lemma Free.dropCandidate (h : s.Free) (open_ : s.candidates.length = depth + 1) :
    ∃ k ks, s.dropCandidate = .ok { s with candidates := k :: ks } ∧ k.live = false ∧
      (∀ c ∈ k :: ks, c.required = false) ∧
      (∀ c ∈ k :: ks, c.live = true → s.count ≤ c.number) ∧ (k :: ks).length = depth + 1 := by
  have optional := h.optional
  have ahead := h.ahead
  cases all : s.candidates with
  | nil => simp [all] at open_
  | cons k ks =>
    rw [all] at optional ahead open_
    refine ⟨{ k with live := false }, ks, ?_, rfl, ?_, ?_, open_⟩
    · simp [Scanner.dropCandidate, candidate, setCandidate, all, optional k List.mem_cons_self]
    · rw [List.forall_mem_cons] at optional ⊢
      exact optional
    · rw [List.forall_mem_cons] at ahead ⊢
      exact ⟨(absurd · Bool.false_ne_true), ahead.2⟩

/-- The next token becomes the innermost candidate where a key may begin. -/
lemma Free.markCandidate (h : s.Free) (open_ : s.candidates.length = depth + 1) :
    ∃ k ks, s.markCandidate = .ok { s with candidates := k :: ks } ∧
      (s.keyAllowed = true → k = s.fresh) ∧ (∀ c ∈ k :: ks, c.required = false) ∧
      (∀ c ∈ k :: ks, c.live = true → s.count ≤ c.number) ∧ (k :: ks).length = depth + 1 := by
  by_cases may : s.keyAllowed = true
  · obtain ⟨k, ks, drops, -, optional, ahead, length⟩ := h.dropCandidate open_
    rw [List.forall_mem_cons] at optional ahead
    have notFirst : (s.indent == (s.cursor.column : Int)) = false := by
      rw [h.indent, beq_eq_false_iff_ne]
      omega
    refine ⟨s.fresh, ks, ?_, fun _ => rfl, List.forall_mem_cons.2 ⟨rfl, optional.2⟩,
      List.forall_mem_cons.2 ⟨fun _ => Nat.le_add_right _ _, ahead.2⟩, length⟩
    simp [Scanner.markCandidate, may, drops, bind, Except.bind, setCandidate, notFirst, fresh]
  · cases all : s.candidates with
    | nil => simp [all] at open_
    | cons k ks =>
      have same : s.markCandidate = .ok s := by simp [Scanner.markCandidate, may]
      refine ⟨k, ks, ?_, (absurd · may), all ▸ h.optional, all ▸ h.ahead, all ▸ open_⟩
      rw [same, ← all]

/-- An opening bracket is read. -/
lemma Stands.opening (h : s.Stands depth ts (ch :: cs))
    (bracket : (ch = '[' ∧ t = .flowSequenceStart) ∨ (ch = '\x7b' ∧ t = .flowMappingStart)) :
    ∃ s', s.Reaches s' ∧ s'.Stands (depth + 1) (ts ++ [t]) cs ∧ s'.keyAllowed = true := by
  have token : beginsToken ch = true := by rcases bracket with ⟨rfl, -⟩ | ⟨rfl, -⟩ <;> decide
  refine h.step token fun s₁ stands rest _ => ?_
  obtain ⟨k, ks, marks, -, optional, ahead, length⟩ := stands.free.markCandidate stands.open_
  have isOpening : s₁.fetchAt = s₁.fetchOpening t := by
    rcases bracket with ⟨rfl, rfl⟩ | ⟨rfl, rfl⟩ <;>
      simp [fetchAt, Cursor.peek?, Cursor.atMarkerOf, Cursor.at?, rest]
  have after := Cursor.rest_advance_one rest
  refine ⟨.none :: k :: ks, s₁.cursor.advance 1, ⟨?_, ?_, ?_, ?_, congrArg dropBlanks after, ?_⟩⟩
  · rw [isOpening, fetchOpening, marks]
    rfl
  · exact List.forall_mem_cons.2 ⟨rfl, optional⟩
  · exact List.forall_mem_cons.2 ⟨(absurd · Bool.false_ne_true), ahead⟩
  · rw [List.length_cons, length]
  · exact Cursor.length_advance_one_lt rest

/-- A closing bracket is read. -/
lemma Stands.closing (h : s.Stands (depth + 1) ts (ch :: cs))
    (bracket : (ch = ']' ∧ t = .flowSequenceEnd) ∨ (ch = '\x7d' ∧ t = .flowMappingEnd)) :
    ∃ s', s.Reaches s' ∧ s'.Stands depth (ts ++ [t]) cs ∧ s'.keyAllowed = false := by
  have token : beginsToken ch = true := by rcases bracket with ⟨rfl, -⟩ | ⟨rfl, -⟩ <;> decide
  refine h.step token fun s₁ stands rest _ => ?_
  obtain ⟨k, ks, drops, -, optional, ahead, length⟩ := stands.free.dropCandidate stands.open_
  have isClosing : s₁.fetchAt = s₁.fetchClosing t := by
    rcases bracket with ⟨rfl, rfl⟩ | ⟨rfl, rfl⟩ <;>
      simp [fetchAt, Cursor.peek?, Cursor.atMarkerOf, Cursor.at?, rest]
  have after := Cursor.rest_advance_one rest
  rw [List.length_cons, Nat.add_right_cancel_iff] at length
  rw [List.forall_mem_cons] at optional ahead
  refine ⟨ks, s₁.cursor.advance 1, ⟨?_, optional.2, ahead.2, length, congrArg dropBlanks after, ?_⟩⟩
  · rw [isClosing, fetchClosing, drops]
    simp [bind, Except.bind, inFlow, length, take, emit, add]
  · exact Cursor.length_advance_one_lt rest

/-- A comma is read, after which a key may begin. -/
lemma Stands.comma (h : s.Stands depth ts (',' :: cs)) :
    ∃ s', s.Reaches s' ∧ s'.Stands depth (ts ++ [.flowEntry]) cs ∧ s'.keyAllowed = true := by
  refine h.step (by decide) fun s₁ stands rest _ => ?_
  obtain ⟨k, ks, drops, -, optional, ahead, length⟩ := stands.free.dropCandidate stands.open_
  have isComma : s₁.fetchAt = s₁.fetchComma := by
    simp [fetchAt, Cursor.peek?, Cursor.atMarkerOf, Cursor.at?, rest]
  have after := Cursor.rest_advance_one rest
  refine ⟨k :: ks, s₁.cursor.advance 1, ⟨?_, optional, ahead, length, congrArg dropBlanks after, ?_⟩⟩
  · rw [isComma, fetchComma, drops]
    rfl
  · exact Cursor.length_advance_one_lt rest

/-- An error at the next token ends the tokens. -/
lemma fails_of_fetch {e : SyntaxError} (fetches : s.fetch = .error e)
    (unended : Token.streamEnd ∉ s.tokens) : s.Fails := by
  refine ⟨0, s.given.reverse, e, Nat.zero_le _,
    fun mem => unended (List.mem_append_left _ mem), fun fuel => ?_⟩
  rw [Nat.zero_add, Nat.add_comm, tokensWith, fetches]
  rfl

/-- A quote begins a string. -/
lemma fetchAt_quote (rest : s.cursor.rest = '"' :: cs) : s.fetchAt = s.fetchQuoted false := by
  simp [fetchAt, Cursor.peek?, Cursor.atMarkerOf, Cursor.at?, rest]

/-- A JSON string is read, if it can be read again. -/
lemma Stands.string {str : String} (h : s.Stands depth ts ((Json.renderString str).toList ++ text))
    (unended : Token.streamEnd ∉ ts) :
    match reread str with
    | none => s.Fails
    | some value => ∃ s', s.Reaches s' ∧
        s'.Stands depth (ts ++ [.scalar value .doubleQuoted]) text := by
  rw [toList_renderString, List.cons_append, List.append_assoc, List.singleton_append] at h
  cases again : reread str with
  | none =>
    obtain ⟨s₁, fetches, stands, rest, -⟩ := h.arrive (by decide)
    obtain ⟨k, ks, marks, -⟩ := stands.free.markCandidate stands.open_
    have scans := scanQuoted_escaped rest
    rw [again] at scans
    refine fails_of_fetch (e := .markerInScalar) ?_ (h.tokens ▸ unended)
    rw [fetches, fetchAt_quote rest, fetchQuoted, marks]
    simp [bind, Except.bind, scans]
  | some value =>
    have steps : ∃ s', s.Reaches s' ∧ s'.Stands depth (ts ++ [.scalar value .doubleQuoted]) text ∧
        s'.keyAllowed = false :=
      h.step (by decide) fun s₁ stands rest _ => by
        obtain ⟨k, ks, marks, -, optional, ahead, length⟩ :=
          stands.free.markCandidate stands.open_
        have scans := scanQuoted_escaped rest
        rw [again] at scans
        obtain ⟨c, scans, left, -⟩ := scans
        refine ⟨k :: ks, c, ⟨?_, optional, ahead, length, congrArg dropBlanks left, ?_⟩⟩
        · rw [fetchAt_quote rest, fetchQuoted, marks]
          simp [bind, Except.bind, scans]
          rfl
        · rw [left, rest]
          simp only [List.length_cons, List.length_append]
          omega
    obtain ⟨s', reaches, stands, -⟩ := steps
    exact ⟨s', reaches, stands⟩

/-- A candidate that is near enough is not given up. -/
lemma outlived_of_near {c : Cursor} {k : KeyCandidate} (line : k.line = c.line)
    (index : c.index ≤ k.index + 1024) : outlived c k = k := by
  have near : isStale c k = false := by
    simp [isStale, line, index]
  simp [outlived, near]

/-- The colon after a token that may begin a key makes it one. -/
lemma fetchValue_of_candidate {k : KeyCandidate} {ks : List KeyCandidate}
    (all : s.candidates = k :: ks) (live : k.live = true) (flow : s.inFlow = true) :
    s.fetchValue = .ok { s with
      held := s.held.insertIdx (k.number - s.count) .key ++ [.value]
      candidates := { k with live := false } :: ks
      keyAllowed := false
      cursor := s.cursor.advance 1 } := by
  have same : (s.insertAt k.number .key).inFlow = true := flow
  simp only [fetchValue, candidate, all, List.headD_cons, live, if_true, roll, same, Bool.not_true,
    Bool.false_and, Bool.false_eq_true, if_false]
  simp [setCandidate, take, add, insertAt, all]

/-- A token that is put in before a held one comes before it in all. -/
lemma insertIdx_held {given held : List Token} {before : List Token} {last : Token}
    (all : given ++ held = before ++ [last]) (front : given.length ≤ before.length) (t : Token) :
    given ++ held.insertIdx (before.length - given.length) t = before ++ [t, last] := by
  obtain ⟨more, rfl⟩ : ∃ more, before = given ++ more := by
    refine ⟨before.drop given.length, ?_⟩
    have begins : given = before.take given.length := by
      have := congrArg (List.take given.length) all
      rwa [List.take_left, List.take_append_of_le_length front] at this
    conv_lhs => rw [← List.take_append_drop given.length before, ← begins]
  obtain rfl : held = more ++ [last] := by simpa using all
  have : (more ++ [last]).insertIdx more.length t = more ++ [t, last] := by
    clear all front
    induction more with
    | nil => rfl
    | cons m more ih => simp [ih]
  simp [this]

/-- A candidate is not given up within its first hundred characters, if they are on one line. -/
lemma outlived_fresh (s : Scanner) {n : Nat} (short : n ≤ 102) :
    outlived (s.cursor.advance n) s.fresh = s.fresh := by
  refine outlived_of_near rfl ?_
  have := Text.octets_le (s.cursor.rest.take n)
  have := List.length_take_le n s.cursor.rest
  simp only [Cursor.advance, fresh]
  omega

/-- A candidate has the number of the next token. -/
lemma Stands.number_fresh (h : s.Stands depth ts text) : s.fresh.number = ts.length := by
  rw [← h.tokens, Scanner.tokens, List.length_append, List.length_reverse, ← h.free.count]
  rfl

/-- The name of a key is read, which becomes the candidate, with a colon right after it. -/
lemma Stands.name {name : String} (word : isWord name = true) (short : name.toList.length ≤ 100)
    (h : s.Stands depth ts ((Json.renderString name).toList ++ ':' :: text))
    (allowed : s.keyAllowed = true) :
    ∃ s' k ks, s.Reaches s' ∧ s'.Stands depth (ts ++ [.scalar name .doubleQuoted]) (':' :: text) ∧
      s'.cursor.rest = ':' :: text ∧ s'.candidates = k :: ks ∧ k.live = true ∧
      k.number = ts.length ∧ outlived s'.cursor k = k := by
  rw [toList_renderString, (escaped_of_isWord word).2, List.cons_append, List.append_assoc,
    List.singleton_append] at h
  obtain ⟨s₁, fetches, stands, rest, kept, shorter, -⟩ := h.arrive (by decide)
  obtain ⟨k, ks, marks, isFresh, optional, ahead, length⟩ :=
    stands.free.markCandidate stands.open_
  -- a key is allowed here, so this scalar is the candidate that a colon may turn into a key
  obtain rfl := isFresh (kept allowed)
  have scans := scanQuoted_word word rest
  have after : (s₁.cursor.advance (name.toList.length + 2)).rest = ':' :: text := by
    have split : s₁.cursor.rest = ('"' :: (name.toList ++ ['"'])) ++ ':' :: text := by simp [rest]
    simpa using Cursor.rest_advance split
  have reads : s₁.fetchAt = .ok (s₁.emit (s₁.fresh :: ks) false
      (s₁.cursor.advance (name.toList.length + 2)) (.scalar name .doubleQuoted)) := by
    rw [fetchAt_quote rest, fetchQuoted, marks]
    simp [bind, Except.bind, scans]
    rfl
  have long : s₁.cursor.rest.length = name.toList.length + 2 + (text.length + 1) := by
    simp only [rest, List.length_cons, List.length_append]
    omega
  obtain ⟨s₂, reaches, free, tokens, cursor, -, candidates⟩ :=
    reaches_of_fetch (fetches.trans reads) (stands.free.emit optional ahead false _ _)
      (by simp only [emit, after, List.length_cons]; omega)
  -- a name is short enough for the candidate to outlive it
  have near := s₁.outlived_fresh (Nat.add_le_add_right short 2)
  have left : s₂.cursor.rest = ':' :: text := by rw [cursor]; exact after
  have all : s₂.candidates = s₁.fresh :: ks.map (outlived s₂.cursor) := by
    rw [candidates, cursor]
    simp only [emit, List.map_cons, near]
  refine ⟨s₂, s₁.fresh, _, reaches, ⟨free, ?_, ?_, congrArg dropBlanks left⟩, left, all, rfl,
    stands.number_fresh, by rw [cursor]; exact near⟩
  · rw [candidates, List.length_map]
    exact length.trans rfl
  · rw [tokens, tokens_emit, stands.tokens]

/-- A colon right after the candidate makes it a key. -/
lemma Stands.colon {last : Token} (h : s.Stands (depth + 1) (ts ++ [last]) (':' :: text))
    (rest : s.cursor.rest = ':' :: text) {k : KeyCandidate} {ks : List KeyCandidate}
    (all : s.candidates = k :: ks) (live : k.live = true) (number : k.number = ts.length)
    (near : outlived s.cursor k = k) :
    ∃ s', s.Reaches s' ∧ s'.Stands (depth + 1) (ts ++ [.key, last, .value]) text := by
  obtain ⟨s₁, fetches, stands, left, -, shorter, still⟩ := h.arrive (by decide)
  have all₁ : s₁.candidates = k :: ks.map (outlived s.cursor) := by
    rw [(still rest).2, all, List.map_cons, near]
  have flow : s₁.inFlow = true := by simp [inFlow, stands.open_]
  have optional := stands.free.optional
  have ahead := stands.free.ahead
  have length := stands.open_
  rw [all₁] at optional ahead length
  rw [List.forall_mem_cons] at optional ahead
  have isValue : s₁.fetchAt = s₁.fetchValue := by
    simp [fetchAt, Cursor.peek?, Cursor.atMarkerOf, Cursor.at?, left, flow]
  have after : (s₁.cursor.advance 1).rest = text := Cursor.rest_advance_one left
  obtain ⟨s₂, reaches, free, tokens, cursor, -, candidates⟩ := reaches_of_fetch
    (fetches.trans (isValue.trans (fetchValue_of_candidate all₁ live flow)))
    ⟨stands.free.indent, stands.free.outer, stands.free.unfinished, stands.free.count,
      List.forall_mem_cons.2 optional, List.forall_mem_cons.2 ⟨(absurd · Bool.false_ne_true), ahead.2⟩⟩
    (by simp only [after, rest, List.length_cons]; omega)
  refine ⟨s₂, reaches, free, ?_, ?_, ?_⟩
  · rw [candidates, List.length_map]
    exact length
  · have front : s₁.given.reverse.length ≤ ts.length := by
      rw [List.length_reverse, ← stands.free.count, ← number]
      exact ahead.1 live
    have inserted := insertIdx_held stands.tokens front .key
    rw [List.length_reverse, ← stands.free.count, ← number] at inserted
    rw [tokens, Scanner.tokens, ← List.append_assoc, inserted]
    simp
  · rw [cursor]
    exact congrArg dropBlanks after

/-- A key of a mapping is read, with the colon after it. -/
lemma Stands.key {name : String} (word : isWord name = true) (short : name.toList.length ≤ 100)
    (h : s.Stands (depth + 1) ts ((Json.renderString name).toList ++ ':' :: text))
    (allowed : s.keyAllowed = true) :
    ∃ s', s.Reaches s' ∧
      s'.Stands (depth + 1) (ts ++ [.key, .scalar name .doubleQuoted, .value]) text := by
  obtain ⟨s₁, k, ks, reaches, stands, rest, all, live, number, near⟩ := h.name word short allowed
  obtain ⟨s₂, reaches', stands'⟩ := stands.colon rest all live number near
  exact ⟨s₂, reaches.trans reaches', stands'⟩

/-- A letter that begins a word of JSON begins a plain scalar. -/
lemma fetchAt_plain (letter : ch = 'n' ∨ ch = 't' ∨ ch = 'f') (rest : s.cursor.rest = ch :: cs) :
    s.fetchAt = s.fetchPlain := by
  have starts (next : Option Char) : startsPlain s.inFlow ch next = true := by
    have : (isSpacing ch || isIndicator ch) = false := by
      rcases letter with rfl | rfl | rfl <;> decide
    simp [startsPlain, this]
  rcases letter with rfl | rfl | rfl <;>
    simp [fetchAt, Cursor.peek?, Cursor.atMarkerOf, Cursor.at?, rest, starts]

/-- A word that JSON has for a value is read, and blanks after it are skipped. -/
lemma Stands.word {w : String} (word : isPlainWord w) {blanks : List Char}
    (blank : ∀ ch ∈ blanks, isBlank ch = true) {mark : Char} (ends : isFlowMark mark = true)
    (h : s.Stands (depth + 1) ts (w.toList ++ (blanks ++ mark :: cs))) :
    ∃ s', s.Reaches s' ∧ s'.Stands (depth + 1) (ts ++ [.scalar w .plain]) (mark :: cs) := by
  obtain ⟨ch, more, spelled, letter⟩ := exists_letter word
  have token : beginsToken ch = true := by rcases letter with rfl | rfl | rfl <;> decide
  have text : w.toList ++ (blanks ++ mark :: cs) = ch :: (more ++ (blanks ++ mark :: cs)) := by
    rw [spelled]
    rfl
  rw [text] at h
  obtain ⟨s₁, fetches, stands, rest, -, shorter, -⟩ := h.arrive token
  obtain ⟨k, ks, marks, -, optional, ahead, length⟩ := stands.free.markCandidate stands.open_
  have flow : s₁.inFlow = true := by simp [inFlow, stands.open_]
  obtain ⟨p, scans, spells, left, shorter'⟩ :=
    scanPlain_plain word blank ends s₁.indent (rest.trans text.symm)
  have reads : s₁.fetchAt = .ok (s₁.emit (k :: ks) p.beforeBreak p.cursor (.scalar w .plain)) := by
    rw [fetchAt_plain letter rest, fetchPlain, marks]
    have same : ({ s₁ with candidates := k :: ks } : Scanner).inFlow = true := by
      simp [inFlow, length]
    simp [bind, Except.bind, same, scans, spells]
    rfl
  obtain ⟨s₂, reaches, free, tokens, cursor, -, candidates⟩ :=
    reaches_of_fetch (fetches.trans reads) (stands.free.emit optional ahead _ _ _)
      (Nat.lt_of_lt_of_le shorter' shorter)
  refine ⟨s₂, reaches, free, ?_, ?_, ?_⟩
  · rw [candidates, List.length_map]
    exact length
  · rw [tokens, tokens_emit, stands.tokens]
  · rw [cursor]
    exact left

/-- At the end of the text the token for it is the last one. -/
lemma Free.fetchEnd (h : s.Free) (open_ : s.candidates.length = 1) :
    ∃ s', s.fetchEnd = .ok s' ∧ s'.tokens = s.tokens ++ [.streamEnd] ∧ s'.finished = true ∧
      (∀ k ∈ s'.candidates, k.live = false) ∧ ∀ k ∈ s'.candidates, k.required = false := by
  let c := if s.cursor.column = 0 then s.cursor
    else { s.cursor with column := 0, line := s.cursor.line + 1 }
  have same : ({ s with cursor := c } : Scanner).Free :=
    ⟨h.indent, h.outer, h.unfinished, h.count, h.optional, h.ahead⟩
  obtain ⟨k, ks, drops, dead, optional, -, length⟩ := same.dropCandidate open_
  obtain rfl : ks = [] := by simpa using length
  have stays : ({ s with cursor := c } : Scanner).unroll (-1) = { s with cursor := c } := by
    simp [unroll, h.outer, unrollFrom]
  refine ⟨{ s with
    cursor := c
    candidates := [k]
    keyAllowed := false
    held := s.held ++ [.streamEnd]
    finished := true }, ?_, ?_, rfl, by simpa using dead, optional⟩
  · rw [Scanner.fetchEnd, leaveBlocks]
    dsimp only
    rw [stays, drops]
    rfl
  · simp [tokens]

/-- Where nothing is left the tokens end. -/
lemma Stands.finish (h : s.Stands 0 ts []) (fuel : Nat) :
    tokensWith (fuel + 1) s = (ts ++ [.streamEnd], none) := by
  obtain ⟨blanks, back, split, blank, stops⟩ := exists_front isBlank s.cursor.rest
  obtain rfl : back = [] := by
    have left := h.left
    rw [split, dropBlanks_append blank] at left
    cases back with
    | nil => rfl
    | cons ch back =>
      have : isBlank ch = false := by simpa using stops
      simp [dropBlanks, this] at left
  obtain ⟨c, allowed, fetches, rest, -⟩ := h.free.fetch blank rfl split
  have free : ({ s with cursor := c, keyAllowed := allowed }.outlive c).Free :=
    Free.outlive (s := { s with cursor := c, keyAllowed := allowed })
      ⟨h.free.indent, h.free.outer, h.free.unfinished, h.free.count, h.free.optional,
        h.free.ahead⟩ c
  obtain ⟨s₁, reads, tokens, finished, dead, optional⟩ :=
    free.fetchEnd (by simpa [outlive] using h.open_)
  have ending : s.fetch = .ok s₁ := by
    rw [fetches, ← reads, fetchAt]
    have none : ({ s with cursor := c, keyAllowed := allowed }.outlive c).cursor.peek? = none := by
      simp [outlive, Cursor.peek?, rest]
    rw [none]
  -- no candidate is live at the end of the text, so no token is held back any longer
  have outlivedDead : ∀ k ∈ (s₁.outlive s₁.cursor).candidates, k.live = false := by
    intro _ mapped
    obtain ⟨k, mem, rfl⟩ := List.mem_map.1 mapped
    rw [outlived]
    split
    · rfl
    · exact dead k mem
  obtain ⟨out, held, all, gives, -, none⟩ := giveFrom_spec s₁.held
    (s := s₁.outlive s₁.cursor) fun k mem live => absurd live (by simp [outlivedDead k mem])
  obtain rfl := none outlivedDead
  have given : s₁.give = .ok ((s₁.outlive s₁.cursor).gave out []) := by
    rw [Scanner.give, dropStale_of_optional optional, ← gives]
    rfl
  have ended : ((s₁.outlive s₁.cursor).gave out []).given.reverse = ts ++ [.streamEnd] := by
    rw [← h.tokens]
    rw [List.append_nil] at all
    have : s₁.tokens = s.tokens ++ [.streamEnd] := tokens
    simpa [gave, outlive, Scanner.tokens, all] using this
  rw [tokensWith, ending]
  simp only [Except.bind, given, ended]
  simp [gave, outlive, finished]

end Scanner

end Pipeline.Yaml
