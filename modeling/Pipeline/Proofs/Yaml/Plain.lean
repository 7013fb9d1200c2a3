import Pipeline.Proofs.Yaml.Quoted

/-!
# Blanks and plain scalars

The spaces and line ends that JSON texts are laid out with, and the words `null`, `true` and `false`
of JSON as plain scalars. A plain scalar between brackets takes the blanks after it, up to what
separates items.
-/

namespace Pipeline.Yaml

variable {cs : List Char}

/-- Whether a character is one of those that JSON texts are laid out with. -/
def isBlank (ch : Char) : Bool :=
  ch == ' ' || ch == '\n'

/-- A text without the blanks at its front. -/
def dropBlanks (cs : List Char) : List Char :=
  cs.dropWhile isBlank

/-- Whether a character may begin a token of a JSON text. -/
def beginsToken (ch : Char) : Bool :=
  !isSpacing ch && ch != '#' && ch != '\ufeff'

/-- Blanks before a text do not count. -/
lemma dropBlanks_append {blanks : List Char} (h : ∀ ch ∈ blanks, isBlank ch = true)
    (cs : List Char) : dropBlanks (blanks ++ cs) = dropBlanks cs :=
  List.dropWhile_append_of_pos h

/-- What begins with a token has no blanks at its front. -/
lemma dropBlanks_of_beginsToken {ch : Char} (h : beginsToken ch = true) (cs : List Char) :
    dropBlanks (ch :: cs) = ch :: cs := by
  have unspaced : isBlank ch = false := by
    have apart {d : Char} (spacing : isSpacing d = true) : (ch == d) = false := by
      rw [beq_eq_false_iff_ne]
      rintro rfl
      simp [beginsToken, spacing] at h
    simp [isBlank, apart (d := ' ') (by decide), apart (d := '\n') (by decide)]
  simp [dropBlanks, unspaced]

/-- A character that begins a token is neither spacing nor anything else that is skipped. -/
lemma ne_of_beginsToken {ch : Char} (h : beginsToken ch = true) :
    isSpacing ch = false ∧ ch ≠ '#' ∧ ch ≠ '\ufeff' := by
  simpa [beginsToken, and_assoc] using h

/-- Whether a text is one of the words that JSON has for values. -/
def isPlainWord (w : String) : Prop :=
  w = "null" ∨ w = "true" ∨ w = "false"

/-- A word of JSON begins with one of three letters. -/
lemma exists_letter {w : String} (word : isPlainWord w) :
    ∃ ch more, w.toList = ch :: more ∧ (ch = 'n' ∨ ch = 't' ∨ ch = 'f') := by
  rcases word with rfl | rfl | rfl
  · exact ⟨'n', ['u', 'l', 'l'], rfl, by decide⟩
  · exact ⟨'t', ['r', 'u', 'e'], rfl, by decide⟩
  · exact ⟨'f', ['a', 'l', 's', 'e'], rfl, by decide⟩

/-- What separates the items between brackets. -/
lemma flowMark_cases {mark : Char} (h : isFlowMark mark = true) :
    mark = ',' ∨ mark = '[' ∨ mark = ']' ∨ mark = '\x7b' ∨ mark = '\x7d' := by
  simpa [isFlowMark, or_assoc] using h

/-- What separates items is no spacing and begins neither a marker nor a comment. -/
lemma ne_of_isFlowMark {mark : Char} (h : isFlowMark mark = true) :
    isSpacing mark = false ∧ mark ≠ '-' ∧ mark ≠ '.' ∧ mark ≠ '#' := by
  rcases flowMark_cases h with rfl | rfl | rfl | rfl | rfl <;> decide

/-- A plain scalar does not go on with what separates items. -/
lemma plainWord_flowMark {mark : Char} (h : isFlowMark mark = true) (cs : List Char) :
    plainWord true (mark :: cs) = .ok [] := by
  rcases flowMark_cases h with rfl | rfl | rfl | rfl | rfl <;>
    simp [plainWord, isSpacing, Text.isGap, isBreak, isFlowMark]

/-- Blanks after a plain scalar are skipped. -/
lemma plainSpacing_blanks {blanks : List Char} (blank : ∀ ch ∈ blanks, isBlank ch = true)
    {mark : Char} (ends : isFlowMark mark = true) {fuel : Nat} (enough : blanks.length < fuel)
    (indent : Int) (spacing : Spacing) {c : Cursor} (rest : c.rest = blanks ++ mark :: cs) :
    ∃ spacing' c', plainSpacing indent fuel spacing c = .ok (spacing', c') ∧
      c'.rest = mark :: cs := by
  induction blanks generalizing fuel spacing c with
  | nil =>
    obtain ⟨fuel, rfl⟩ : ∃ n, fuel = n + 1 := Nat.exists_eq_add_one.2 (by omega)
    refine ⟨spacing, c, ?_, rest⟩
    rw [List.nil_append] at rest
    have unspaced : Text.isGap mark = false ∧ isBreak mark = false := by
      simpa [isSpacing] using (ne_of_isFlowMark ends).1
    simp [plainSpacing, Cursor.peek?, rest, unspaced]
  | cons ch blanks ih =>
    rw [List.length_cons] at enough
    obtain ⟨fuel, rfl⟩ : ∃ n, fuel = n + 1 := Nat.exists_eq_add_one.2 (by omega)
    rw [List.forall_mem_cons] at blank
    obtain ⟨here, blank⟩ := blank
    have shorter : blanks.length < fuel := by omega
    have : ch = ' ' ∨ ch = '\n' := by simpa [isBlank] using here
    rcases this with rfl | rfl
    · have after := Cursor.rest_advance_one rest
      obtain ⟨spacing', c', reads, left⟩ := ih blank shorter (spacing.addGap ' ') after
      refine ⟨spacing', c', ?_, left⟩
      simpa [plainSpacing, Cursor.peek?, rest, Text.isGap] using reads
    · have taken : c.takeBreak =
          (['\n'], ⟨blanks ++ mark :: cs, c.index + '\n'.utf8Size, c.line + 1, 0⟩) := by
        rw [Cursor.takeBreak, rest]
        rfl
      obtain ⟨spacing', c', reads, left⟩ := ih blank shorter (spacing.addBreak ['\n'])
        (c := ⟨blanks ++ mark :: cs, c.index + '\n'.utf8Size, c.line + 1, 0⟩) rfl
      refine ⟨spacing', c', ?_, left⟩
      simpa [plainSpacing, Cursor.peek?, rest, Text.isGap, isBreak, taken] using reads

/-- A plain scalar between brackets ends at blanks or what separates items. -/
lemma plainWord_plain {w : String} (word : isPlainWord w) {tail : List Char}
    (ends : tail.head?.any (fun ch => isBlank ch || isFlowMark ch) = true) :
    plainWord true (w.toList ++ tail) = .ok w.toList := by
  have stops : plainWord true tail = .ok [] := by
    cases tail with
    | nil => simp at ends
    | cons ch tail =>
      have : isBlank ch = true ∨ isFlowMark ch = true := by simpa using ends
      rcases this with blank | mark
      · have : ch = ' ' ∨ ch = '\n' := by simpa [isBlank] using blank
        rcases this with rfl | rfl <;> rfl
      · exact plainWord_flowMark mark tail
  have step (ch : Char) (letter : isSpacing ch = false ∧ (ch == ':') = false ∧ isFlowMark ch = false)
      (cs : List Char) : plainWord true (ch :: cs) = (plainWord true cs).map (ch :: ·) := by
    simp [plainWord, letter]
  rcases word with rfl | rfl | rfl <;>
    simp [step, stops, isSpacing, Text.isGap, isBreak, isFlowMark, Except.map]

/-- No marker and no comment begins with a character that is neither. -/
lemma Cursor.unmarked {c : Cursor} {ch : Char} {cs : List Char} (rest : c.rest = ch :: cs)
    (other : ch ≠ '-' ∧ ch ≠ '.' ∧ ch ≠ '#') : (c.atMarker || c.at? '#') = false := by
  simp [atMarker, atMarkerOf, at?, rest, other]

/-- A plain scalar ends before what separates items. -/
lemma plainFrom_stop {mark : Char} (ends : isFlowMark mark = true) (indent : Int) (fuel : Nat)
    (done : List Char) (spacing : Spacing) {c : Cursor} (rest : c.rest = mark :: cs) :
    plainFrom true indent fuel done spacing c = .ok ⟨String.ofList done, spacing.isBreak, c⟩ := by
  cases fuel with
  | zero => rfl
  | succ fuel =>
    rw [plainFrom, Cursor.unmarked rest (ne_of_isFlowMark ends).2, rest, plainWord_flowMark ends]
    rfl

/-- A word that JSON has for a value is read as a plain scalar, and blanks after it are skipped. -/
lemma scanPlain_plain {w : String} (word : isPlainWord w) {blanks : List Char}
    (blank : ∀ ch ∈ blanks, isBlank ch = true) {mark : Char} (ends : isFlowMark mark = true)
    (indent : Int) {c : Cursor} (rest : c.rest = w.toList ++ (blanks ++ mark :: cs)) :
    ∃ p, scanPlain true indent c = .ok p ∧ p.text = w ∧
      dropBlanks p.cursor.rest = dropBlanks (mark :: cs) ∧
      p.cursor.rest.length < c.rest.length := by
  obtain ⟨ch, more, spelled, letter⟩ := exists_letter word
  have other : ch ≠ '-' ∧ ch ≠ '.' ∧ ch ≠ '#' := by rcases letter with rfl | rfl | rfl <;> decide
  have after := Cursor.rest_advance rest
  have unmarked : (c.atMarker || c.at? '#') = false :=
    Cursor.unmarked (rest.trans (by rw [spelled]; rfl)) other
  have reads : plainWord true c.rest = .ok w.toList := by
    rw [rest]
    refine plainWord_plain word ?_
    cases blanks with
    | nil => simp [ends]
    | cons b blanks => simp [blank b List.mem_cons_self]
  have nonempty : w.toList.isEmpty = false := by simp [spelled]
  have long : c.rest.length = w.toList.length + (blanks.length + (cs.length + 1)) := by
    simp [rest]
  have first : 0 < w.toList.length := by simp [spelled]
  -- the spaces after the word are read with it, since only what follows tells whether it goes on
  cases blanks with
  | nil =>
    have unspaced : isSpacing mark = false := (ne_of_isFlowMark ends).1
    refine ⟨⟨w, false, c.advance w.toList.length⟩, ?_, rfl, congrArg dropBlanks after, ?_⟩
    · rw [scanPlain, plainFrom, unmarked, reads]
      simp [bind, Except.bind, nonempty, Spacing.fold, Cursor.peek?, after, unspaced]
    · simp only [after, List.nil_append, List.length_cons]
      omega
  | cons b blanks =>
    have spacing : isSpacing b = true := by
      have : b = ' ' ∨ b = '\n' := by simpa [isBlank] using blank b List.mem_cons_self
      rcases this with rfl | rfl <;> decide
    have room : (b :: blanks).length < (c.advance w.toList.length).rest.length := by
      simp only [after, List.length_append, List.length_cons]
      omega
    obtain ⟨folded, c₂, skips, left⟩ :=
      plainSpacing_blanks blank ends room (indent + 1) (.gaps []) after
    refine ⟨⟨w, folded.isBreak, c₂⟩, ?_, rfl, congrArg dropBlanks left, ?_⟩
    · have next : (c.advance w.toList.length).peek? = some b := by simp [Cursor.peek?, after]
      rw [scanPlain, plainFrom, unmarked, reads]
      simp [bind, Except.bind, nonempty, Spacing.fold, next, spacing, skips,
        plainFrom_stop ends _ _ _ _ left]
    · rw [left, long, List.length_cons]
      omega

end Pipeline.Yaml
