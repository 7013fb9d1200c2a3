import Mathlib.Tactic.Lemma
import Pipeline.Console.Display

/-!
# Truncated output

An output with more lines than may be shown is cut to the first of them, and one line more tells how
many are missing (`Console.split_truncate`; specification, section 15, `--max-output-lines`). That
line always comes after a newline, so where no line may be shown an empty one stands before it
(`Console.split_truncate_zero`).
-/

namespace Pipeline

namespace Text

/-- The end of a line leaves none of its characters but a carriage return out. -/
lemma newline_notMem_endLine {acc : List Char} (h : '\n' ∉ acc) : '\n' ∉ endLine acc := by
  unfold endLine
  split
  · rename_i rest
    rw [List.mem_reverse]
    exact fun mem => h (List.mem_cons_of_mem _ mem)
  · rwa [List.mem_reverse]

/-- A line ends before its newline. -/
lemma newline_notMem_splitLines {acc cs line : List Char} (h : '\n' ∉ acc)
    (mem : line ∈ splitLines acc cs) : '\n' ∉ line := by
  induction cs generalizing acc with
  | nil =>
    unfold splitLines at mem
    split at mem
    · cases mem
    · obtain rfl := List.mem_singleton.1 mem
      rwa [List.mem_reverse]
  | cons c cs ih =>
    unfold splitLines at mem
    split at mem
    · rcases List.mem_cons.1 mem with rfl | mem
      · exact newline_notMem_endLine h
      · exact ih List.not_mem_nil mem
    · rename_i other
      refine ih ?_ mem
      rw [List.mem_cons, not_or]
      exact ⟨Ne.symm other, h⟩

/-- There is no newline in a line of a text. -/
lemma newline_notMem_of_mem_lines {text line : String} (mem : line ∈ lines text) :
    '\n' ∉ line.toList := by
  obtain ⟨cs, inside, rfl⟩ := List.mem_map.1 mem
  rw [String.toList_ofList]
  exact newline_notMem_splitLines List.not_mem_nil inside

/-- There is no newline in the digits of a number. -/
lemma newline_notMem_toString (n : Nat) : '\n' ∉ (toString n).toList := by
  intro mem
  have digit := Nat.isDigit_of_mem_toDigits (by decide) (by decide) (Nat.toList_repr ▸ mem)
  exact absurd digit (by decide)

end Text

namespace Console

/-- The line that stands for lines that are not shown. -/
def hiddenLine (c : Console) (hidden : Nat) : String :=
  c.style .dim "[truncated]" ++ "... (" ++ toString hidden ++ " more lines)"

/-- There is no newline in the line that stands for others, styled or not. -/
lemma newline_notMem_hiddenLine (c : Console) (hidden : Nat) :
    '\n' ∉ (c.hiddenLine hidden).toList := by
  have mark : '\n' ∉ (c.style .dim "[truncated]").toList := by
    unfold style
    split <;> decide
  simp only [hiddenLine, String.toList_append, List.mem_append, not_or]
  exact ⟨⟨⟨mark, by decide⟩, Text.newline_notMem_toString hidden⟩, by decide⟩

/-- The lines before the one that stands for others; where none may be shown this is an empty
one. -/
def linesBefore (output : String) (max : Nat) : List String :=
  if max = 0 then [""] else (Text.lines output).take max

/-- An output that is cut is the lines that may be shown and one line more, with newlines between
them. -/
lemma truncate_eq_intercalate (c : Console) {output : String} {max : Nat}
    (cut : max < (Text.lines output).length) :
    c.truncate output max = "\n".intercalate
      (linesBefore output max ++ [c.hiddenLine ((Text.lines output).length - max)]) := by
  have before : linesBefore output max ≠ [] := by
    unfold linesBefore
    split
    · exact List.cons_ne_nil _ _
    · intro none
      have length := congrArg List.length none
      rw [List.length_take, List.length_nil] at length
      omega
  have joined : "\n".intercalate (linesBefore output max) =
      "\n".intercalate ((Text.lines output).take max) := by
    unfold linesBefore
    split
    · rename_i zero
      rw [zero]
      rfl
    · rfl
  rw [String.intercalate_append_of_ne_nil before (List.cons_ne_nil _ _), joined,
    String.intercalate_singleton, truncate, if_neg (by omega), hiddenLine]
  simp only [String.append_assoc]

/-- Between its newlines an output that is cut has the lines that may be shown and one line more. -/
lemma split_truncate_of_lt (c : Console) {output : String} {max : Nat}
    (cut : max < (Text.lines output).length) :
    ((c.truncate output max).split '\n').toList.map String.Slice.copy =
      linesBefore output max ++ [c.hiddenLine ((Text.lines output).length - max)] := by
  have whole : ∀ line ∈ linesBefore output max ++
      [c.hiddenLine ((Text.lines output).length - max)], '\n' ∉ line.toList := by
    intro line mem
    rcases List.mem_append.1 mem with mem | mem
    · unfold linesBefore at mem
      split at mem
      · obtain rfl := List.mem_singleton.1 mem
        exact List.not_mem_nil
      · exact Text.newline_notMem_of_mem_lines (List.mem_of_mem_take mem)
    · obtain rfl := List.mem_singleton.1 mem
      exact c.newline_notMem_hiddenLine _
  have parts := String.toList_split_intercalate whole
  rw [if_neg (List.append_ne_nil_of_right_ne_nil _ (List.cons_ne_nil _ _))] at parts
  rw [c.truncate_eq_intercalate cut]
  exact parts

/-- An output that has no more lines than may be shown stays as it is. Any other is cut, and then it
has between its newlines as many of the first lines of the output as may be shown, all of which
there are, and a line with the number of the others, which is not zero. Where no line may be shown,
an empty one comes first. -/
theorem split_truncate (pictures : Bool) (output : String) (max : Nat) :
    let lines := Text.lines output
    let cut := (⟨false, pictures⟩ : Console).truncate output max
    (lines.length ≤ max → cut = output) ∧
    (max < lines.length → ∃ hidden, 1 ≤ hidden ∧ hidden + max = lines.length ∧
      (lines.take max).length = max ∧
      (cut.split '\n').toList.map String.Slice.copy =
        (if max = 0 then [""] else lines.take max) ++
          ["[truncated]... (" ++ toString hidden ++ " more lines)"]) := by
  intro lines cut
  constructor
  · intro short
    exact if_pos short
  · intro long
    refine ⟨lines.length - max, by omega, by omega, ?_, ?_⟩
    · rw [List.length_take]
      omega
    · exact split_truncate_of_lt ⟨false, pictures⟩ long

/-- A line of which nothing may be shown leaves two lines, an empty one and the one that stands for
it. -/
theorem split_truncate_zero :
    Text.lines "a" = ["a"] ∧
      (((⟨false, true⟩ : Console).truncate "a" 0).split '\n').toList.map String.Slice.copy =
        ["", "[truncated]... (1 more lines)"] ∧
      (((⟨false, true⟩ : Console).truncate "a" 0).split '\n').toList.map String.Slice.copy ≠
        (Text.lines "a").take 0 ++ ["[truncated]... (1 more lines)"] := by
  have lines : Text.lines "a" = ["a"] := by decide
  have cut : 0 < (Text.lines "a").length := by decide
  have parts := split_truncate_of_lt ⟨false, true⟩ cut
  have shown : linesBefore "a" 0 ++
      [hiddenLine ⟨false, true⟩ ((Text.lines "a").length - 0)] =
        ["", "[truncated]... (1 more lines)"] := by decide
  rw [shown] at parts
  rw [parts]
  exact ⟨lines, rfl, by decide⟩

end Console

end Pipeline
