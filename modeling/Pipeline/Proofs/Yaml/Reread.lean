import Pipeline.Yaml.Token.Stream
import Mathlib.Data.List.Basic
import Mathlib.Tactic.Common

/-!
# Strings that are read again

What becomes of a string that was written for JSON and is read as YAML. JSON shows some characters
as they are that YAML takes for spacing, and YAML folds spacing that goes over the end of a line,
and refuses a line that begins with the marker of a document (`reread`). So a string comes back as
it was only if it has no spacing that is folded and no such line (`reread_eq_some_iff`).
-/

namespace Pipeline.Yaml

/-- Whether a character ends a line in YAML and is no other break there. -/
def isSeparator (ch : Char) : Bool :=
  ch == '\u2028' || ch == '\u2029'

/-- Whether a character is spacing in YAML that JSON shows as it is. -/
def isBareSpacing (ch : Char) : Bool :=
  ch == ' ' || ch == '\x85' || isSeparator ch

/-- Whether the markers of documents are made of a character. -/
def isMark (ch : Char) : Bool :=
  ch == '-' || ch == '.'

/-- Whether a text begins with the marker of a document, with spacing after it. -/
def startsMarker : List Char → Bool
  | a :: b :: c :: d :: _ => isMark a && b == a && c == a && isBareSpacing d
  | _ => false

/-- The spacing with one more character. -/
def Spacing.add (s : Spacing) (ch : Char) : Spacing :=
  if Text.isGap ch then s.addGap ch else s.addBreak (if isSeparator ch then [ch] else ['\n'])

/-- What characters that are spacing become in the value of a scalar. -/
def foldRun (run : List Char) : List Char :=
  (run.foldl Spacing.add (.gaps [])).fold

/-- What becomes of the characters of a string from here on, after the spacing in `run`. -/
def rereadFrom : List Char → List Char → Option (List Char)
  | run, [] => some (foldRun run)
  | run, ch :: cs =>
    if isBareSpacing ch then rereadFrom (run ++ [ch]) cs
    else if run.getLast?.any isBreak && startsMarker (ch :: cs) then none
    else (rereadFrom [] cs).map fun more => foldRun run ++ ch :: more

/-- What becomes of a string that was written for JSON and is read as YAML, if it can be read. -/
def reread (s : String) : Option String :=
  (rereadFrom [] s.toList).map String.ofList

/-- Whether a character stays as it is before others: it is no next-line character, no separator
before a space or the marker of a document, and no space before a separator. -/
def staysBefore (ch : Char) (cs : List Char) : Bool :=
  ch != '\x85' && !(isSeparator ch && (cs.head? == some ' ' || startsMarker cs)) &&
    !(ch == ' ' && cs.head?.any isSeparator)

/-- Whether all characters stay as they are. -/
def stays : List Char → Bool
  | [] => true
  | ch :: cs => staysBefore ch cs && stays cs

/-- A character that is spacing in YAML and is shown by JSON. -/
lemma bareSpacing_cases {ch : Char} (h : isBareSpacing ch = true) :
    ch = ' ' ∨ ch = '\x85' ∨ isSeparator ch = true := by
  simpa [isBareSpacing, or_assoc] using h

/-- Spaces and separators are spacing. -/
lemma bareSpacing_of {ch : Char} (h : ch = ' ' ∨ isSeparator ch = true) :
    isBareSpacing ch = true := by
  rcases h with rfl | separator <;> simp [isBareSpacing, *]

/-- A separator is none of the other spacing. -/
lemma ne_of_isSeparator {ch : Char} (h : isSeparator ch = true) : ch ≠ ' ' ∧ ch ≠ '\x85' := by
  have : ch = '\u2028' ∨ ch = '\u2029' := by simpa [isSeparator] using h
  rcases this with rfl | rfl <;> decide

/-- A text that begins with spacing begins with no marker. -/
lemma startsMarker_of_bareSpacing {ch : Char} (h : isBareSpacing ch = true) (cs : List Char) :
    startsMarker (ch :: cs) = false := by
  have apart : isMark ch = false := by
    rcases bareSpacing_cases h with rfl | rfl | separator
    · decide
    · decide
    · have : ch = '\u2028' ∨ ch = '\u2029' := by simpa [isSeparator] using separator
      rcases this with rfl | rfl <;> decide
  unfold startsMarker
  split
  · simp_all
  · rfl

/-- Spaces stay as they are. -/
lemma foldl_add_spaces {run : List Char} (h : ∀ ch ∈ run, ch = ' ') (cs : List Char) :
    run.foldl Spacing.add (.gaps cs) = .gaps (cs ++ run) := by
  induction run generalizing cs with
  | nil => simp
  | cons ch run ih =>
    rw [List.forall_mem_cons] at h
    obtain ⟨rfl, spaces⟩ := h
    calc (' ' :: run).foldl Spacing.add (.gaps cs)
      _ = run.foldl Spacing.add (.gaps (cs ++ [' '])) := rfl
      _ = .gaps (cs ++ [' '] ++ run) := ih spaces _
      _ = .gaps (cs ++ ' ' :: run) := by simp

/-- A separator is a break that stays as it is. -/
lemma Spacing.add_separator {ch : Char} (h : isSeparator ch = true) (s : Spacing) :
    s.add ch = s.addBreak [ch] := by
  have : ch = '\u2028' ∨ ch = '\u2029' := by simpa [isSeparator] using h
  rcases this with rfl | rfl <;> rfl

/-- After a break only the separators count. -/
lemma foldl_add_breaks {run : List Char} (h : ∀ ch ∈ run, ch = ' ' ∨ isSeparator ch = true)
    (first more : List Char) :
    run.foldl Spacing.add (.breaks first more) =
      .breaks first (more ++ run.filter isSeparator) := by
  induction run generalizing more with
  | nil => simp
  | cons ch run ih =>
    rw [List.forall_mem_cons] at h
    obtain ⟨rfl | separator, rest⟩ := h
    · exact ih rest more
    · rw [List.foldl_cons, Spacing.add_separator separator, Spacing.addBreak, ih rest,
        List.filter_cons_of_pos separator]
      simp

/-- Spaces with a separator among them are dropped. -/
lemma foldRun_of_separator {run : List Char} (h : ∀ ch ∈ run, ch = ' ' ∨ isSeparator ch = true)
    (some : ∃ ch ∈ run, isSeparator ch = true) : foldRun run = run.filter isSeparator := by
  suffices general : ∀ cs, ∃ first more, run.foldl Spacing.add (.gaps cs) =
      .breaks [first] more ∧ isSeparator first = true ∧ run.filter isSeparator = first :: more by
    obtain ⟨first, more, folds, separator, filtered⟩ := general []
    have : first ≠ '\n' := by rintro rfl; cases separator
    simp [foldRun, folds, filtered, Spacing.fold, foldBreaks, this]
  induction run with
  | nil => simp at some
  | cons ch run ih =>
    intro cs
    rw [List.forall_mem_cons] at h
    obtain ⟨rfl | separator, rest⟩ := h
    · have later : ∃ ch ∈ run, isSeparator ch = true := by
        obtain ⟨ch, mem, separator⟩ := some
        rcases List.mem_cons.1 mem with rfl | mem
        · cases separator
        · exact ⟨ch, mem, separator⟩
      exact ih rest later (cs ++ [' '])
    · refine ⟨ch, run.filter isSeparator, ?_, separator, List.filter_cons_of_pos separator⟩
      rw [List.foldl_cons, Spacing.add_separator separator, Spacing.addBreak, foldl_add_breaks rest]
      rfl

/-- Spaces alone stay as they are. -/
lemma foldRun_of_spaces {run : List Char} (h : ∀ ch ∈ run, ch = ' ') : foldRun run = run := by
  rw [foldRun, foldl_add_spaces h]
  rfl

/-- The characters of spacing. -/
def Spacing.chars : Spacing → List Char
  | .gaps cs => cs
  | .breaks first more => first ++ more

/-- Spacing becomes characters of its own, or a space. -/
lemma Spacing.mem_chars_of_mem_fold {s : Spacing} {ch : Char} (h : ch ∈ s.fold) :
    ch ∈ s.chars ∨ ch = ' ' := by
  cases s with
  | gaps cs => exact .inl h
  | breaks first more =>
    simp only [Spacing.fold, foldBreaks] at h
    split at h
    · split at h
      · exact .inr (List.mem_singleton.1 h)
      · exact .inl (List.mem_append_right _ h)
    · exact .inl h

/-- One more character adds no next-line character to spacing. -/
lemma Spacing.nextLine_of_mem_add {s : Spacing} {ch : Char} (h : '\x85' ∈ (s.add ch).chars) :
    '\x85' ∈ s.chars := by
  have added {cs : List Char} (mem : '\x85' ∈ cs ++ if isSeparator ch then [ch] else ['\n']) :
      '\x85' ∈ cs := by
    rcases List.mem_append.1 mem with mem | mem
    · exact mem
    · split at mem
      · rename_i separator
        exact absurd (List.mem_singleton.1 mem).symm (ne_of_isSeparator separator).2
      · cases List.mem_singleton.1 mem
  unfold Spacing.add at h
  split at h
  · rename_i gap
    have apart : '\x85' ≠ ch := by rintro rfl; cases gap
    cases s <;> simpa [Spacing.addGap, Spacing.chars, apart] using h
  · cases s with
    | gaps cs =>
      refine added (List.mem_append_right cs ?_)
      simpa only [Spacing.addBreak, Spacing.chars, List.append_nil] using h
    | breaks first more =>
      refine added ?_
      simpa only [Spacing.addBreak, Spacing.chars, List.append_assoc] using h

/-- Spacing makes no next-line character. -/
lemma nextLine_notMem_foldRun (run : List Char) : '\x85' ∉ foldRun run := by
  have none (s : Spacing) (h : '\x85' ∈ (run.foldl Spacing.add s).chars) : '\x85' ∈ s.chars := by
    induction run generalizing s with
    | nil => exact h
    | cons ch run ih => exact Spacing.nextLine_of_mem_add (ih _ h)
  intro mem
  rcases Spacing.mem_chars_of_mem_fold mem with mem | space
  · exact List.not_mem_nil (none _ mem)
  · cases space

/-- What is read again has no next-line character. -/
lemma nextLine_notMem_of_reread {run cs more : List Char} (h : rereadFrom run cs = some more) :
    '\x85' ∉ more := by
  induction cs generalizing run more with
  | nil =>
    cases h
    exact nextLine_notMem_foldRun run
  | cons ch cs ih =>
    unfold rereadFrom at h
    split at h
    · exact ih h
    · rename_i bare
      split at h
      · cases h
      · obtain ⟨rest, rereads, rfl⟩ := Option.map_eq_some_iff.1 h
        have apart : ch ≠ '\x85' := by rintro rfl; exact bare rfl
        simpa [nextLine_notMem_foldRun, apart.symm] using ih rereads

/-- Spacing stays as it is when it is all spaces or all separators. -/
lemma stays_of_run {run : List Char} (h : ∀ ch ∈ run, ch = ' ' ∨ isSeparator ch = true) :
    stays run = true ↔ (∀ ch ∈ run, ch = ' ') ∨ ∀ ch ∈ run, isSeparator ch = true := by
  induction run with
  | nil => simp [stays]
  | cons ch run ih =>
    rw [List.forall_mem_cons] at h
    obtain ⟨first, rest⟩ := h
    simp only [stays, Bool.and_eq_true, ih rest, List.forall_mem_cons]
    have unmarked : startsMarker run = false := by
      cases run with
      | nil => rfl
      | cons next run =>
        rw [List.forall_mem_cons] at rest
        exact startsMarker_of_bareSpacing (bareSpacing_of rest.1) run
    cases run with
    | nil => rcases first with rfl | separator <;> simp_all [staysBefore, ne_of_isSeparator]
    | cons next run =>
      rw [List.forall_mem_cons] at rest
      have space : isSeparator ' ' = false := by decide
      rcases first with rfl | separator <;> rcases rest.1 with rfl | separator' <;>
        simp_all [staysBefore, ne_of_isSeparator]

/-- Spacing stays as it is exactly when folding does not change it. -/
lemma foldRun_eq_self_iff {run : List Char} (h : ∀ ch ∈ run, ch = ' ' ∨ isSeparator ch = true) :
    foldRun run = run ↔ stays run = true := by
  rw [stays_of_run h]
  by_cases some : ∃ ch ∈ run, isSeparator ch = true
  · rw [foldRun_of_separator h some, List.filter_eq_self]
    constructor
    · exact .inr
    · rintro (spaces | separators)
      · obtain ⟨ch, mem, separator⟩ := some
        exact absurd (spaces ch mem) (ne_of_isSeparator separator).1
      · exact separators
  · have spaces : ∀ ch ∈ run, ch = ' ' := fun ch mem =>
      (h ch mem).resolve_right fun separator => some ⟨ch, mem, separator⟩
    exact iff_of_true (foldRun_of_spaces spaces) (.inl spaces)

/-- Spaces and separators become nothing but spaces and separators. -/
lemma mem_foldRun {run : List Char} (h : ∀ ch ∈ run, ch = ' ' ∨ isSeparator ch = true) {ch : Char}
    (mem : ch ∈ foldRun run) : ch = ' ' ∨ isSeparator ch = true := by
  by_cases some : ∃ ch ∈ run, isSeparator ch = true
  · rw [foldRun_of_separator h some] at mem
    exact .inr (List.mem_filter.1 mem).2
  · have spaces : ∀ ch ∈ run, ch = ' ' := fun ch mem =>
      (h ch mem).resolve_right fun separator => some ⟨ch, mem, separator⟩
    rw [foldRun_of_spaces spaces] at mem
    exact h ch mem

/-- A character that is no spacing stays as it is before any others. -/
lemma stays_cons {ch : Char} (h : isBareSpacing ch = false) (cs : List Char) :
    stays (ch :: cs) = stays cs := by
  simp only [isBareSpacing, Bool.or_eq_false_iff, beq_eq_false_iff_ne] at h
  obtain ⟨⟨space, nextLine⟩, separator⟩ := h
  simp [stays, staysBefore, space, nextLine, separator]

/-- Spacing before other text stays as it is if it does alone and the text does not begin with the
marker of a document on a line of its own. -/
lemma stays_run_append {run : List Char} (h : ∀ ch ∈ run, ch = ' ' ∨ isSeparator ch = true)
    {ch : Char} (bare : isBareSpacing ch = false) (cs : List Char) :
    stays (run ++ ch :: cs) = true ↔
      stays run = true ∧ (run.getLast?.any isBreak && startsMarker (ch :: cs)) = false ∧
        stays cs = true := by
  induction run with
  | nil => simp [stays_cons bare, stays]
  | cons first run ih =>
    rw [List.forall_mem_cons] at h
    obtain ⟨here, rest⟩ := h
    simp only [List.cons_append, stays, Bool.and_eq_true, ih rest]
    -- whether spacing stays is settled by the character after it, and `ch` is only after the last
    cases run with
    | nil =>
      simp only [isBareSpacing, Bool.or_eq_false_iff, beq_eq_false_iff_ne] at bare
      obtain ⟨⟨space, -⟩, separator⟩ := bare
      rcases here with rfl | isSeparator
      · have space' : Yaml.isSeparator ' ' = false := by decide
        simp [staysBefore, stays, separator, space', isBreak]
      · have breaks : isBreak first = true := by
          have : first = '\u2028' ∨ first = '\u2029' := by
            simpa [Yaml.isSeparator] using isSeparator
          rcases this with rfl | rfl <;> rfl
        have unmarked : startsMarker [] = false := rfl
        simp [staysBefore, stays, isSeparator, ne_of_isSeparator isSeparator, space, breaks,
          unmarked]
    | cons next run =>
      rw [List.forall_mem_cons] at rest
      have same : staysBefore first (next :: run ++ ch :: cs) = staysBefore first (next :: run) := by
        simp [staysBefore, startsMarker_of_bareSpacing (bareSpacing_of rest.1)]
      rw [same]
      simp [stays, and_assoc]

/-- What stays as it is has no next-line character. -/
lemma nextLine_notMem_of_stays {cs : List Char} (h : stays cs = true) : '\x85' ∉ cs := by
  induction cs with
  | nil => exact List.not_mem_nil
  | cons ch cs ih =>
    simp only [stays, Bool.and_eq_true] at h
    obtain ⟨here, rest⟩ := h
    have apart : ch ≠ '\x85' := by rintro rfl; simp [staysBefore] at here
    simpa [apart.symm] using ih rest

/-- Without next-line characters, characters are read again as they are when they all stay so. -/
lemma rereadFrom_eq_some_iff_of_notMem {run cs : List Char}
    (h : ∀ ch ∈ run, ch = ' ' ∨ isSeparator ch = true) (none : '\x85' ∉ cs) :
    rereadFrom run cs = some (run ++ cs) ↔ stays (run ++ cs) = true := by
  induction cs generalizing run with
  | nil => simp [rereadFrom, foldRun_eq_self_iff h]
  | cons ch cs ih =>
    simp only [List.mem_cons, not_or] at none
    obtain ⟨apart, rest⟩ := none
    unfold rereadFrom
    cases bare : isBareSpacing ch with
    | true =>
      have longer : ∀ c ∈ run ++ [ch], c = ' ' ∨ isSeparator c = true := by
        intro c mem
        rcases List.mem_append.1 mem with mem | mem
        · exact h c mem
        · obtain rfl := List.mem_singleton.1 mem
          rcases bareSpacing_cases bare with space | nextLine | separator
          · exact .inl space
          · exact absurd nextLine.symm apart
          · exact .inr separator
      simpa using ih longer rest
    | false =>
      rw [stays_run_append h bare]
      cases marked : run.getLast?.any isBreak && startsMarker (ch :: cs) with
      | true => simp
      | false =>
        have alone : rereadFrom [] cs = some ([] ++ cs) ↔ stays ([] ++ cs) = true :=
          ih (by simp) rest
        rw [List.nil_append] at alone
        rw [← foldRun_eq_self_iff h, ← alone]
        simp only [Bool.false_eq_true, if_false, Option.map_eq_some_iff, true_and]
        constructor
        · rintro ⟨more, rereads, same⟩
          -- on both sides the spacing ends at the first character that is none
          have ends {w : List Char} (spacing : ∀ c ∈ w, c = ' ' ∨ isSeparator c = true)
              (after : List Char) : (w ++ ch :: after).takeWhile isBareSpacing = w := by
            rw [List.takeWhile_append_of_pos fun c mem => bareSpacing_of (spacing c mem)]
            simp [bare]
          have folded : foldRun run = run := by
            rw [← ends (fun c => mem_foldRun h) more, same, ends h]
          rw [folded, List.append_cancel_left_eq, List.cons.injEq] at same
          exact ⟨folded, same.2 ▸ rereads⟩
        · rintro ⟨folded, rereads⟩
          exact ⟨cs, rereads, by rw [folded]⟩

/-- A string is read again as it is exactly when all its characters stay as they are. -/
theorem reread_eq_some_iff (s : String) : reread s = some s ↔ stays s.toList = true := by
  have whole : reread s = some s ↔ rereadFrom [] s.toList = some s.toList := by
    simp only [reread, Option.map_eq_some_iff]
    constructor
    · rintro ⟨cs, rereads, rfl⟩
      simpa using rereads
    · intro rereads
      exact ⟨_, rereads, String.ofList_toList⟩
  rw [whole]
  by_cases nextLine : '\x85' ∈ s.toList
  · exact iff_of_false (fun rereads => nextLine_notMem_of_reread rereads nextLine)
      fun h => nextLine_notMem_of_stays h nextLine
  · exact rereadFrom_eq_some_iff_of_notMem (by simp) nextLine

end Pipeline.Yaml
