import Mathlib.Data.List.TakeWhile
import Pipeline.Json.Printer
import Pipeline.Proofs.Yaml.Reread

/-!
# Scanning JSON strings

The scanner on a string that was written for JSON: pieces without spacing come back as they were
before they were escaped (`quotedPiece_escaped`), spacing between them is folded
(`quotedSpacing_run`), and altogether the value is what `reread` says (`scanQuoted_escaped`).
-/

namespace Pipeline.Text

/-- The octets of some characters come before those of the characters after them. -/
lemma octets_append (cs ds : List Char) : octets (cs ++ ds) = octets cs + octets ds := by
  have from_ (n : Nat) (cs : List Char) :
      cs.foldl (fun n ch => n + ch.utf8Size) n = n + octets cs := by
    unfold octets
    induction cs generalizing n with
    | nil => rfl
    | cons ch cs ih =>
      rw [List.foldl_cons, List.foldl_cons, ih, ih (0 + ch.utf8Size)]
      omega
  rw [octets, List.foldl_append, from_]
  rfl

/-- A character takes four octets at most. -/
lemma octets_le (cs : List Char) : octets cs ≤ 4 * cs.length := by
  induction cs with
  | nil => simp [octets]
  | cons ch cs ih =>
    have here := octets_append [ch] cs
    have small : octets [ch] ≤ 4 := by simpa [octets] using ch.utf8Size_le_four
    rw [List.singleton_append] at here
    rw [here, List.length_cons]
    omega

end Pipeline.Text

namespace Pipeline.Yaml

namespace Cursor

/-- No character is read. -/
@[simp] lemma advance_zero (c : Cursor) : c.advance 0 = c := by
  simp [advance, Text.octets]

/-- Characters are read one after the other. -/
lemma advance_advance (c : Cursor) (n m : Nat) : (c.advance n).advance m = c.advance (n + m) := by
  have octets_take : Text.octets (c.rest.take (n + m)) =
      Text.octets (c.rest.take n) + Text.octets ((c.rest.drop n).take m) := by
    rw [← Text.octets_append, List.take_add]
  simp [advance, octets_take, Nat.add_assoc]

/-- What is left after some characters at the front. -/
lemma rest_advance {c : Cursor} {cs tail : List Char} (h : c.rest = cs ++ tail) :
    (c.advance cs.length).rest = tail := by
  simp [advance, h]

/-- What is left after the first character. -/
lemma rest_advance_one {c : Cursor} {ch : Char} {tail : List Char} (h : c.rest = ch :: tail) :
    (c.advance 1).rest = tail := by
  simp [advance, h]

/-- Less is left after the first character. -/
lemma length_advance_one_lt {c : Cursor} {ch : Char} {tail : List Char} (h : c.rest = ch :: tail) :
    (c.advance 1).rest.length < c.rest.length := by
  rw [rest_advance_one h, h, List.length_cons]
  exact Nat.lt_succ_self _

end Cursor

/-- The characters of a JSON string between its quotes. -/
def escaped (cs : List Char) : List Char :=
  cs.flatMap fun ch => (Json.escapeChar ch).toList

/-- A JSON string is what is escaped between its quotes. -/
lemma toList_renderString (s : String) :
    (Json.renderString s).toList = '"' :: (escaped s.toList ++ ['"']) := by
  simp [Json.renderString, escaped, List.flatMap_map]

/-- An escape does not depend on what comes after it. -/
lemma readEscape_append {cs : List Char} {x : Char} {n : Nat} (h : readEscape cs = .ok (x, n))
    (more : List Char) : readEscape (cs ++ more) = .ok (x, n) := by
  cases cs with
  | nil => cases h
  | cons ch cs =>
    simp only [readEscape, List.cons_append] at h ⊢
    split at h
    · exact h
    · cases h
    · rename_i digits _ _
      split at h
      · cases h
      · rename_i enough
        have enough' : ¬ (cs ++ more).length < digits := by
          rw [List.length_append]
          omega
        simp only [enough', if_false]
        rw [List.take_append_of_le_length (by omega)]
        exact h

/-- The escapes of the characters below the space. -/
lemma escapeChar_control : ∀ n : Fin 32,
    (Json.escapeChar (Char.ofNat n)).toList.head? = some '\\' ∧
    readEscape (Json.escapeChar (Char.ofNat n)).toList.tail =
      .ok (Char.ofNat n, (Json.escapeChar (Char.ofNat n)).toList.tail.length) ∧
    (Json.escapeChar (Char.ofNat n)).toList.tail.head?.any isBreak = false ∧
    isBareSpacing (Char.ofNat n) = false ∧ isMark (Char.ofNat n) = false := by
  decide +kernel

/-- How a character is written in a JSON string: as it is, or as an escape that is read as it. -/
inductive Written (ch : Char) : List Char → Prop where
  | bare :
    0x20 ≤ ch.toNat → ch ≠ '"' → ch ≠ '\\' →
    Written ch [ch]
  | escape {ks} :
    readEscape ks = .ok (ch, ks.length) →
    ks.head?.any isBreak = false →
    isBareSpacing ch = false → isMark ch = false →
    Written ch ('\\' :: ks)

/-- A character that needs no escape is written as it is. -/
lemma escapeChar_of_shown {ch : Char} (shown : 0x20 ≤ ch.toNat) (quote : ch ≠ '"')
    (backslash : ch ≠ '\\') : (Json.escapeChar ch).toList = [ch] := by
  have apart {d : Char} (h : d.toNat < 0x20) : ch ≠ d := by
    rintro rfl
    omega
  have high : ¬ ch.toNat < 0x20 := by omega
  simp [Json.escapeChar, quote, backslash, high, apart]

/-- Every character is written in one of the two ways. -/
lemma written (ch : Char) : Written ch (Json.escapeChar ch).toList := by
  by_cases control : ch.toNat < 0x20
  · obtain ⟨backslash, reads, unbroken, bare⟩ := escapeChar_control ⟨ch.toNat, control⟩
    simp only [Char.ofNat_toNat] at backslash reads unbroken bare
    rw [← List.cons_head?_tail backslash]
    exact .escape reads unbroken bare.1 bare.2
  · by_cases quote : ch = '"'
    · subst quote
      exact .escape (by decide) (by decide) (by decide) (by decide)
    · by_cases backslash : ch = '\\'
      · subst backslash
        exact .escape (by decide) (by decide) (by decide) (by decide)
      · rw [escapeChar_of_shown (by omega) quote backslash]
        exact .bare (by omega) quote backslash

/-- A character that is shown is spacing in YAML only if it is bare spacing. -/
lemma isSpacing_eq {ch : Char} (h : 0x20 ≤ ch.toNat) : isSpacing ch = isBareSpacing ch := by
  have apart {d : Char} (low : d.toNat < 0x20) : (ch == d) = false := by
    rw [beq_eq_false_iff_ne]
    rintro rfl
    omega
  have tab := apart (d := '\t') (by decide)
  have newline := apart (d := '\n') (by decide)
  have return_ := apart (d := '\r') (by decide)
  simp [isSpacing, Text.isGap, isBreak, isBareSpacing, isSeparator, tab, newline, return_,
    Bool.or_assoc]

@[simp] lemma escaped_nil : escaped [] = [] := by
  simp [escaped]

lemma escaped_cons (ch : Char) (cs : List Char) :
    escaped (ch :: cs) = (Json.escapeChar ch).toList ++ escaped cs :=
  rfl

lemma escaped_append (cs ds : List Char) : escaped (cs ++ ds) = escaped cs ++ escaped ds :=
  List.flatMap_append

/-- No character is written as nothing. -/
lemma length_le_escaped (cs : List Char) : cs.length ≤ (escaped cs).length := by
  induction cs with
  | nil => simp
  | cons ch cs ih =>
    rw [escaped_cons, List.length_append, List.length_cons]
    have : 0 < (Json.escapeChar ch).toList.length := by
      have way := written ch
      generalize (Json.escapeChar ch).toList = ks at way
      cases way <;> simp
    omega

/-- Spacing that JSON shows is written as it is. -/
lemma escapeChar_of_bareSpacing {ch : Char} (h : isBareSpacing ch = true) :
    0x20 ≤ ch.toNat ∧ (Json.escapeChar ch).toList = [ch] := by
  generalize writes : (Json.escapeChar ch).toList = ks
  have way := written ch
  rw [writes] at way
  cases way with
  | bare shown => exact ⟨shown, rfl⟩
  | escape _ _ bare _ => exact absurd h (by simp [bare])

/-- Spacing that JSON shows is written as it is. -/
lemma escaped_run {run : List Char} (h : ∀ ch ∈ run, isBareSpacing ch = true) :
    escaped run = run := by
  induction run with
  | nil => rfl
  | cons ch run ih =>
    rw [List.forall_mem_cons] at h
    rw [escaped_cons, (escapeChar_of_bareSpacing h.1).2, ih h.2]
    rfl

/-- A piece of a string ends at spacing and at a quote. -/
lemma quotedPiece_stop {tail : List Char} (ends : tail.head?.any fun ch => isSpacing ch || ch == '"')
    (fuel : Nat) (acc : List Char) {c : Cursor} (rest : c.rest = tail) :
    quotedPiece false (fuel + 1) acc c = .ok (acc.reverse, .here, c) := by
  cases tail with
  | nil => simp at ends
  | cons ch tail =>
    have : isSpacing ch = true ∨ ch = '"' := by simpa using ends
    rcases this with spacing | rfl
    · simp [quotedPiece, rest, spacing]
    · simp [quotedPiece, rest, isSpacing, Text.isGap, isBreak]

/-- A character without spacing is read as it was before it was escaped. -/
lemma quotedPiece_escapeChar {ch : Char} (bare : isBareSpacing ch = false) {tail : List Char}
    (fuel : Nat) (acc : List Char) {c : Cursor}
    (rest : c.rest = (Json.escapeChar ch).toList ++ tail) :
    quotedPiece false (fuel + 1) acc c =
      quotedPiece false fuel (ch :: acc) (c.advance (Json.escapeChar ch).toList.length) := by
  have way := written ch
  generalize (Json.escapeChar ch).toList = ks at rest way ⊢
  cases way with
  | bare shown quote backslash =>
    have spacing : isSpacing ch = false := (isSpacing_eq shown).trans bare
    simp only [quotedPiece, rest, List.cons_append, List.nil_append, spacing]
    simp [quote, backslash]
  | @escape ks reads unbroken _ _ =>
    have unbroken' : (ks ++ tail).head?.any isBreak = false := by
      cases ks with
      | nil => cases reads
      | cons k ks => exact unbroken
    have spacing : isSpacing '\\' = false := by decide
    simp only [quotedPiece, rest, List.cons_append, spacing, unbroken', readEscape_append reads]
    simp [bind, Except.bind]

/-- A piece of a string without spacing is read as it was before it was escaped. -/
lemma quotedPiece_escaped {piece : List Char} (bare : ∀ ch ∈ piece, isBareSpacing ch = false)
    (tail : List Char) (ends : tail.head?.any fun ch => isSpacing ch || ch == '"') {fuel : Nat}
    (enough : piece.length < fuel) (acc : List Char) {c : Cursor}
    (rest : c.rest = escaped piece ++ tail) :
    quotedPiece false fuel acc c =
      .ok (acc.reverse ++ piece, .here, c.advance (escaped piece).length) := by
  obtain ⟨fuel, rfl⟩ : ∃ n, fuel = n + 1 := Nat.exists_eq_add_one.2 (by omega)
  induction piece generalizing fuel acc c with
  | nil => simpa using quotedPiece_stop ends fuel acc rest
  | cons ch piece ih =>
    rw [List.forall_mem_cons] at bare
    rw [List.length_cons] at enough
    obtain ⟨fuel, rfl⟩ : ∃ n, fuel = n + 1 := Nat.exists_eq_add_one.2 (by omega)
    rw [escaped_cons, List.append_assoc] at rest
    rw [quotedPiece_escapeChar bare.1 _ _ rest, ih bare.2 (ch :: acc) (Cursor.rest_advance rest)
      fuel (by omega), Cursor.advance_advance, escaped_cons, List.length_append]
    simp

/-- The end of a line that JSON shows: a separator stands for itself, the other for a newline. -/
lemma takeBreak_of_bareSpacing {ch : Char} (bare : isBareSpacing ch = true) (space : ch ≠ ' ')
    {c : Cursor} {tail : List Char} (rest : c.rest = ch :: tail) :
    c.takeBreak = (if isSeparator ch then [ch] else ['\n'],
      ⟨tail, c.index + ch.utf8Size, c.line + 1, 0⟩) := by
  have : ch = '\x85' ∨ ch = '\u2028' ∨ ch = '\u2029' := by
    simpa [isSeparator, space] using bareSpacing_cases bare
  rcases this with rfl | rfl | rfl <;> simp [Cursor.takeBreak, rest, isSeparator, isBreak]

/-- One character of spacing is read, and the position after a break begins a line. -/
lemma quotedSpacing_cons {ch : Char} (bare : isBareSpacing ch = true) (fuel : Nat) (s : Spacing)
    {c : Cursor} {tail : List Char} (rest : c.rest = ch :: tail) :
    ∃ c', quotedSpacing (fuel + 1) s c = quotedSpacing fuel (s.add ch) c' ∧ c'.rest = tail ∧
      c.line ≤ c'.line ∧ (c'.column == 0) = isBreak ch := by
  by_cases space : ch = ' '
  · subst space
    refine ⟨c.advance 1, ?_, Cursor.rest_advance_one rest, Nat.le_refl _, rfl⟩
    simp [quotedSpacing, Cursor.peek?, rest, Spacing.add, Text.isGap]
  · have taken := takeBreak_of_bareSpacing bare space rest
    have : ch = '\x85' ∨ ch = '\u2028' ∨ ch = '\u2029' := by
      simpa [isSeparator, space] using bareSpacing_cases bare
    have kind : Text.isGap ch = false ∧ isBreak ch = true := by
      rcases this with rfl | rfl | rfl <;> decide
    refine ⟨⟨tail, c.index + ch.utf8Size, c.line + 1, 0⟩, ?_, rfl, Nat.le_succ _, kind.2.symm⟩
    simp [quotedSpacing, Cursor.peek?, rest, taken, Spacing.add, kind]

/-- Spacing of a string is folded, and the position after it begins a line if it ends in a break. -/
lemma quotedSpacing_run {run tail : List Char} (bare : ∀ ch ∈ run, isBareSpacing ch = true)
    (ends : tail.head?.any isSpacing = false) (some : tail ≠ []) {fuel : Nat}
    (enough : run.length < fuel) (s : Spacing) {c : Cursor} (rest : c.rest = run ++ tail) :
    ∃ c', quotedSpacing fuel s c = (run.foldl Spacing.add s, c') ∧ c'.rest = tail ∧
      c.line ≤ c'.line ∧ (c'.column == 0) = (run.getLast?.map isBreak).getD (c.column == 0) := by
  obtain ⟨fuel, rfl⟩ : ∃ n, fuel = n + 1 := Nat.exists_eq_add_one.2 (by omega)
  induction run generalizing fuel s c with
  | nil =>
    obtain ⟨ch, tail, rfl⟩ := List.exists_cons_of_ne_nil some
    have unspaced : isSpacing ch = false := by simpa using ends
    simp only [isSpacing, Bool.or_eq_false_iff] at unspaced
    refine ⟨c, ?_, rest, Nat.le_refl _, rfl⟩
    rw [List.nil_append] at rest
    simp [quotedSpacing, Cursor.peek?, rest, unspaced]
  | cons ch run ih =>
    rw [List.forall_mem_cons] at bare
    rw [List.length_cons] at enough
    obtain ⟨fuel, rfl⟩ : ∃ n, fuel = n + 1 := Nat.exists_eq_add_one.2 (by omega)
    obtain ⟨c₁, step, left, line, column⟩ := quotedSpacing_cons bare.1 (fuel + 1) s rest
    obtain ⟨c', reads, left', line', column'⟩ :=
      ih bare.2 (s.add ch) left fuel (by omega)
    refine ⟨c', by rw [step, reads]; rfl, left', Nat.le_trans line line', ?_⟩
    rw [column', column, List.getLast?_cons]
    cases run.getLast? <;> rfl

/-- A character for markers is written as it is. -/
lemma escapeChar_of_isMark {ch : Char} (h : isMark ch = true) :
    (Json.escapeChar ch).toList = [ch] := by
  generalize writes : (Json.escapeChar ch).toList = ks
  have way := written ch
  rw [writes] at way
  cases way with
  | bare => rfl
  | escape _ _ _ unmarked => exact absurd h (by simp [unmarked])

/-- What is left of a string begins with a character for markers if the text did. -/
lemma head_escaped {mark : Char} (h : isMark mark = true) (cs tail : List Char) :
    (escaped cs ++ '"' :: tail).head? = some mark ↔ cs.head? = some mark := by
  have quote : mark ≠ '"' := by rintro rfl; cases h
  have backslash : mark ≠ '\\' := by rintro rfl; cases h
  cases cs with
  | nil => simp [quote.symm]
  | cons ch cs =>
    rw [escaped_cons]
    have way := written ch
    generalize (Json.escapeChar ch).toList = ks at way
    cases way with
    | bare => simp
    | escape _ _ _ unmarked =>
      have apart : ch ≠ mark := by rintro rfl; simp [unmarked] at h
      simp [apart, backslash.symm]

/-- What is left of a string begins with spacing if the text did. -/
lemma head_escaped_spacing (cs tail : List Char) :
    (escaped cs ++ '"' :: tail).head?.any isSpacing = cs.head?.any isBareSpacing := by
  cases cs with
  | nil => rfl
  | cons ch cs =>
    rw [escaped_cons]
    have way := written ch
    generalize (Json.escapeChar ch).toList = ks at way
    cases way with
    | bare shown => simp [isSpacing_eq shown]
    | escape _ _ bare _ =>
      have : isSpacing '\\' = false := by decide
      simp [bare, this]

/-- The first three characters of a text, and whether spacing or the end comes after them. -/
lemma Cursor.atMarkerOf_eq (c : Cursor) (mark : Char) : c.atMarkerOf mark =
    (c.column == 0 && (c.rest.head? == some mark && (c.rest.tail.head? == some mark &&
      (c.rest.tail.tail.head? == some mark && spacingOrEnd c.rest.tail.tail.tail.head?)))) := by
  have ahead (n : Nat) : c.ahead? n = (c.rest.drop n).head? := by
    rw [List.head?_drop]
    rfl
  simp [atMarkerOf, at?, ahead, Bool.and_assoc, ← List.drop_one]

/-- What is left of a string begins with a marker if the text did. -/
lemma atMarkerOf_escaped {c : Cursor} {cs tail : List Char}
    (rest : c.rest = escaped cs ++ '"' :: tail) {mark : Char} (h : isMark mark = true) :
    c.atMarkerOf mark = (c.column == 0 && (cs.head? == some mark && startsMarker cs)) := by
  have head (cs : List Char) :
      ((escaped cs ++ '"' :: tail).head? == some mark) = (cs.head? == some mark) := by
    rw [Bool.eq_iff_iff, beq_iff_eq, beq_iff_eq, head_escaped h]
  have next (cs : List Char) :
      (escaped (mark :: cs) ++ '"' :: tail).tail = escaped cs ++ '"' :: tail := by
    rw [escaped_cons, escapeChar_of_isMark h]
    rfl
  have last (cs : List Char) :
      spacingOrEnd (escaped cs ++ '"' :: tail).head? = cs.head?.any isBareSpacing := by
    rw [← head_escaped_spacing cs tail, spacingOrEnd]
    cases found : (escaped cs ++ '"' :: tail).head? with
    | none => simp at found
    | some ch => rfl
  rw [c.atMarkerOf_eq, rest, head]
  congr 1
  -- one character after the other: what comes after another one does not matter
  rcases cs with _ | ⟨a, cs⟩
  · rfl
  by_cases first : a = mark
  · subst first
    rw [next, head]
    rcases cs with _ | ⟨b, cs⟩
    · rfl
    by_cases second : b = a
    · subst second
      rw [next, head]
      rcases cs with _ | ⟨d, cs⟩
      · simp [startsMarker]
      by_cases third : d = b
      · subst third
        rw [next, last]
        rcases cs with _ | ⟨e, cs⟩ <;> simp [startsMarker, h]
      · rcases cs with _ | ⟨e, cs⟩ <;> simp [startsMarker, beq_false_of_ne third]
    · rcases cs with _ | ⟨d, _ | ⟨e, cs⟩⟩ <;> simp [startsMarker, beq_false_of_ne second]
  · simp [beq_false_of_ne first]

/-- What is left of a string begins with a marker if the text did. -/
lemma atMarker_escaped {c : Cursor} {cs tail : List Char}
    (rest : c.rest = escaped cs ++ '"' :: tail) :
    c.atMarker = (c.column == 0 && startsMarker cs) := by
  rw [Cursor.atMarker, atMarkerOf_escaped rest rfl, atMarkerOf_escaped rest rfl,
    ← Bool.and_or_distrib_left, ← Bool.and_or_distrib_right]
  congr 1
  rcases cs with _ | ⟨a, cs⟩
  · rfl
  · cases marked : startsMarker (a :: cs) with
    | false => simp
    | true =>
      have : isMark a = true := by
        unfold startsMarker at marked
        split at marked <;> simp_all
      simpa [isMark] using this

/-- A piece without spacing is read again as it is. -/
lemma rereadFrom_piece {piece : List Char} (bare : ∀ ch ∈ piece, isBareSpacing ch = false)
    (cs : List Char) : rereadFrom [] (piece ++ cs) = (rereadFrom [] cs).map (piece ++ ·) := by
  induction piece with
  | nil => simp
  | cons ch piece ih =>
    rw [List.forall_mem_cons] at bare
    have empty : foldRun [] = [] := rfl
    simp [rereadFrom, bare.1, ih bare.2, empty, Function.comp_def]

/-- Spacing is collected. -/
lemma rereadFrom_run {run : List Char} (bare : ∀ ch ∈ run, isBareSpacing ch = true)
    (before cs : List Char) : rereadFrom before (run ++ cs) = rereadFrom (before ++ run) cs := by
  induction run generalizing before with
  | nil => simp
  | cons ch run ih =>
    rw [List.forall_mem_cons] at bare
    rw [List.cons_append, rereadFrom, if_pos bare.1, ih bare.2, List.append_assoc,
      List.singleton_append]

/-- Spacing is folded where it ends, unless a line with a marker comes. -/
lemma rereadFrom_stop (run : List Char) {cs : List Char}
    (ends : cs.head?.any isBareSpacing = false) :
    rereadFrom run cs =
      if run.getLast?.any isBreak && startsMarker cs then none
      else (rereadFrom [] cs).map (foldRun run ++ ·) := by
  have empty : foldRun [] = [] := rfl
  cases cs with
  | nil => simp [rereadFrom, startsMarker, empty]
  | cons ch cs =>
    have bare : isBareSpacing ch = false := by simpa using ends
    simp [rereadFrom, bare, empty, Function.comp_def]

/-- The longest front of a list with a property. -/
lemma exists_front {α : Type} (p : α → Bool) (xs : List α) :
    ∃ front back, xs = front ++ back ∧ (∀ x ∈ front, p x = true) ∧ back.head?.any p = false := by
  refine ⟨xs.takeWhile p, xs.dropWhile p, List.takeWhile_append_dropWhile.symm,
    fun x => List.mem_takeWhile_imp, ?_⟩
  have stops := List.head?_dropWhile_not p xs
  cases head : (xs.dropWhile p).head? with
  | none => rfl
  | some x => simpa [head] using stops

/-- After a piece, a string ends or goes on after spacing. -/
lemma quotedFrom_succ (fuel : Nat) (done : List Char) {c : Cursor} (unmarked : c.atMarker = false)
    (some : c.rest.isEmpty = false) {piece : List Char} {c₁ : Cursor}
    (reads : quotedPiece false (c.rest.length + 1) [] c = .ok (piece, .here, c₁)) :
    quotedFrom false (fuel + 1) done c =
      if c₁.at? '"' then .ok (String.ofList (done ++ piece), c₁.advance 1)
      else
        let (spacing, c₂) := quotedSpacing c₁.rest.length (.gaps []) c₁
        quotedFrom false fuel (done ++ piece ++ spacing.fold) c₂ := by
  simp [quotedFrom, unmarked, some, reads, bind, Except.bind]

/-- A piece is shorter than the text that begins with it. -/
lemma length_lt_of_escaped {piece tail : List Char} {c : Cursor}
    (rest : c.rest = escaped piece ++ tail) : piece.length < c.rest.length + 1 := by
  have := length_le_escaped piece
  simp only [rest, List.length_append]
  omega

/-- A piece with the quote after it ends the string. -/
lemma quotedFrom_last {piece tail : List Char} (bare : ∀ ch ∈ piece, isBareSpacing ch = false)
    (fuel : Nat) (done : List Char) {c : Cursor} (unmarked : c.atMarker = false)
    (rest : c.rest = escaped piece ++ '"' :: tail) :
    ∃ c', quotedFrom false (fuel + 1) done c = .ok (String.ofList (done ++ piece), c') ∧
      c'.rest = tail ∧ c.line ≤ c'.line := by
  have reads := quotedPiece_escaped bare ('"' :: tail) rfl (length_lt_of_escaped rest) [] rest
  have after := Cursor.rest_advance rest
  have quote : (c.advance (escaped piece).length).at? '"' = true := by simp [Cursor.at?, after]
  refine ⟨(c.advance (escaped piece).length).advance 1, ?_, Cursor.rest_advance_one after,
    Nat.le_refl _⟩
  rw [quotedFrom_succ fuel done unmarked (by simp [rest]) reads, if_pos quote]
  simp

/-- After a piece with spacing after it the string goes on, on a new line if the spacing ends in a
break. -/
lemma quotedFrom_onward {piece run more tail : List Char}
    (bare : ∀ ch ∈ piece, isBareSpacing ch = false) (spacing : ∀ ch ∈ run, isBareSpacing ch = true)
    (some : run ≠ []) (ends : more.head?.any isBareSpacing = false) (fuel : Nat) (done : List Char)
    {c : Cursor} (unmarked : c.atMarker = false)
    (rest : c.rest = escaped piece ++ (run ++ (escaped more ++ '"' :: tail))) :
    ∃ c', quotedFrom false (fuel + 1) done c =
        quotedFrom false fuel (done ++ piece ++ foldRun run) c' ∧
      c'.rest = escaped more ++ '"' :: tail ∧ c.line ≤ c'.line ∧
      (c'.column == 0) = run.getLast?.any isBreak := by
  obtain ⟨first, run, rfl⟩ := List.exists_cons_of_ne_nil some
  have isRun : isBareSpacing first = true := spacing first List.mem_cons_self
  -- the spacing stands bare in the text, so the piece stops before it
  have head : isSpacing first = true :=
    (isSpacing_eq (escapeChar_of_bareSpacing isRun).1).trans isRun
  have reads := quotedPiece_escaped bare (first :: run ++ (escaped more ++ '"' :: tail))
    (by simp [head]) (length_lt_of_escaped rest) [] rest
  have after := Cursor.rest_advance rest
  have quote : (c.advance (escaped piece).length).at? '"' = false := by
    have apart : first ≠ '"' := by rintro rfl; cases isRun
    simp [Cursor.at?, after, apart]
  have room : (first :: run).length < (c.advance (escaped piece).length).rest.length := by
    simp only [after, List.length_append, List.length_cons]
    omega
  obtain ⟨c', folds, after', line, column⟩ := quotedSpacing_run spacing
    ((head_escaped_spacing more tail).trans ends) (by simp) room (.gaps []) after
  refine ⟨c', ?_, after', line, ?_⟩
  · rw [quotedFrom_succ fuel done unmarked (by simp [rest]) reads, quote, folds]
    rfl
  · rw [column, List.getLast?_cons]
    rfl

/-- The scanner between two pieces of a JSON string: the value is what is read again from here on,
unless a line with a marker comes. -/
lemma quotedFrom_escaped {cs tail : List Char} {fuel : Nat} (enough : cs.length < fuel)
    (done : List Char) {c : Cursor} (rest : c.rest = escaped cs ++ '"' :: tail) :
    match if c.column == 0 && startsMarker cs then none else rereadFrom [] cs with
    | none => quotedFrom false fuel done c = .error .markerInScalar
    | some more => ∃ c', quotedFrom false fuel done c = .ok (String.ofList (done ++ more), c') ∧
        c'.rest = tail ∧ c.line ≤ c'.line := by
  induction fuel generalizing cs done c with
  | zero => cases enough
  | succ fuel ih =>
    have marker := atMarker_escaped rest
    cases marked : c.column == 0 && startsMarker cs with
    | true => simp [quotedFrom, marker, marked]
    | false =>
      rw [marked] at marker
      obtain ⟨piece, back, rfl, bare, ends⟩ := exists_front (fun ch => !isBareSpacing ch) cs
      simp only [Bool.not_eq_true'] at bare
      obtain ⟨run, more, rfl, spacing, ends'⟩ := exists_front isBareSpacing back
      rw [rereadFrom_piece bare, rereadFrom_run spacing, List.nil_append, rereadFrom_stop run ends']
      rw [escaped_append, escaped_append, escaped_run spacing, List.append_assoc, List.append_assoc]
        at rest
      by_cases some : run = []
      · -- no spacing comes, so the string ends here
        subst some
        obtain rfl : more = [] := by
          cases more with
          | nil => rfl
          | cons ch more => simp_all
        have empty : foldRun [] = [] := rfl
        simpa [rereadFrom, startsMarker, empty] using quotedFrom_last bare fuel done marker rest
      · obtain ⟨c₂, step, after, line, lineStart⟩ :=
          quotedFrom_onward bare spacing some ends' fuel done marker rest
        have shorter : more.length < fuel := by
          have := List.length_pos_of_ne_nil some
          simp only [List.length_append] at enough
          omega
        have onward := ih shorter (done ++ piece ++ foldRun run) after
        rw [step, ← lineStart]
        cases hit : c₂.column == 0 && startsMarker more with
        | true => simpa [hit] using onward
        | false =>
          cases again : rereadFrom [] more with
          | none => simpa [hit, again] using onward
          | some value =>
            simp only [hit, again, Bool.false_eq_true, if_false] at onward
            obtain ⟨c', reads, left, line'⟩ := onward
            refine ⟨c', ?_, left, Nat.le_trans line line'⟩
            rw [reads]
            simp

/-- The scanner on a JSON string: the value is what is read again, unless a line with a marker
comes. -/
lemma scanQuoted_escaped {s : String} {tail : List Char} {c : Cursor}
    (rest : c.rest = '"' :: (escaped s.toList ++ '"' :: tail)) :
    match reread s with
    | none => scanQuoted false c = .error .markerInScalar
    | some value => ∃ c', scanQuoted false c = .ok (value, c') ∧ c'.rest = tail ∧
        c.line ≤ c'.line := by
  have enough : s.toList.length < c.rest.length + 1 := by
    have := length_le_escaped s.toList
    simp only [rest, List.length_cons, List.length_append]
    omega
  have inside : (c.advance 1).rest = escaped s.toList ++ '"' :: tail :=
    Cursor.rest_advance_one rest
  have scans := quotedFrom_escaped enough [] inside
  have column : ((c.advance 1).column == 0) = false := rfl
  have line : (c.advance 1).line = c.line := rfl
  rw [column, line, Bool.false_and] at scans
  unfold reread scanQuoted
  cases again : rereadFrom [] s.toList with
  | none => simpa [again] using scans
  | some value => simpa [again] using scans

/-- Whether a text is made of letters and digits. -/
def isWord (s : String) : Bool :=
  s.toList.all Char.isAlphanum

/-- Letters and digits are visible characters of one octet. -/
lemma toNat_of_isAlphanum {ch : Char} (h : ch.isAlphanum = true) :
    0x20 ≤ ch.toNat ∧ ch.toNat ≤ 0x7e := by
  unfold Char.isAlphanum Char.isAlpha Char.isUpper Char.isLower Char.isDigit at h
  simp only [Bool.or_eq_true, decide_eq_true_eq, Bool.and_eq_true, UInt32.le_iff_toNat_le] at h
  have : '0'.val.toNat = 48 ∧ 'Z'.val.toNat = 90 ∧ '9'.val.toNat = 57 ∧ 'z'.val.toNat = 122 ∧
    'A'.val.toNat = 65 ∧ 'a'.val.toNat = 97 := by decide
  simp only [Char.toNat]
  omega

/-- A letter or digit is no spacing, and it is written as it is. -/
lemma escapeChar_of_isAlphanum {ch : Char} (h : ch.isAlphanum = true) :
    isBareSpacing ch = false ∧ (Json.escapeChar ch).toList = [ch] := by
  have apart {d : Char} (other : d.isAlphanum = false) : ch ≠ d := by
    rintro rfl
    simp [other] at h
  refine ⟨?_, escapeChar_of_shown (toNat_of_isAlphanum h).1 (apart (by decide)) (apart (by decide))⟩
  simp [isBareSpacing, isSeparator, apart (d := ' ') (by decide), apart (d := '\x85') (by decide),
    apart (d := '\u2028') (by decide), apart (d := '\u2029') (by decide)]

/-- A word is written as it is. -/
lemma escaped_of_isWord {s : String} (h : isWord s = true) :
    (∀ ch ∈ s.toList, isBareSpacing ch = false) ∧ escaped s.toList = s.toList := by
  unfold isWord at h
  generalize s.toList = cs at h ⊢
  induction cs with
  | nil => simp
  | cons ch cs ih =>
    simp only [List.all_cons, Bool.and_eq_true] at h
    obtain ⟨bare, same⟩ := escapeChar_of_isAlphanum h.1
    obtain ⟨rest, others⟩ := ih h.2
    exact ⟨List.forall_mem_cons.2 ⟨bare, rest⟩, by rw [escaped_cons, same, others]; rfl⟩

/-- The scanner on a word between quotes. -/
lemma scanQuoted_word {s : String} (h : isWord s = true) {tail : List Char} {c : Cursor}
    (rest : c.rest = '"' :: (s.toList ++ '"' :: tail)) :
    scanQuoted false c = .ok (s, c.advance (s.toList.length + 2)) := by
  obtain ⟨bare, same⟩ := escaped_of_isWord h
  have inside : (c.advance 1).rest = escaped s.toList ++ '"' :: tail :=
    same.symm ▸ Cursor.rest_advance_one rest
  have unmarked : (c.advance 1).atMarker = false := by
    rw [atMarker_escaped inside]
    rfl
  have long : s.toList.length < (c.advance 1).rest.length + 1 := by
    have := length_le_escaped s.toList
    simp only [inside, List.length_append]
    omega
  have reads := quotedPiece_escaped bare ('"' :: tail) rfl long [] inside
  have after := Cursor.rest_advance inside
  rw [same] at reads after
  rw [scanQuoted, quotedFrom_succ _ _ unmarked (by simp [inside]) reads,
    if_pos (by simp [Cursor.at?, after]), Cursor.advance_advance, Cursor.advance_advance]
  simp only [List.reverse_nil, List.nil_append, String.ofList_toList]
  congr 3
  omega

end Pipeline.Yaml
