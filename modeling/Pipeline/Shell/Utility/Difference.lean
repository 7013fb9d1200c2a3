/-!
# Differences

Which elements of two sequences have to go and to come so that one becomes the other. As few as
possible are marked; where there is a choice, marks are moved to the end of what is repeated, unless
they can stand beside marks in the other sequence.
-/

namespace Pipeline.Shell.Utility.Difference

/-- Marks on the elements of two sequences. -/
structure Marks where
  left : Array Bool
  right : Array Bool

/-- Whether the element at a place is marked. -/
def isMarked (marks : Array Bool) (i : Int) : Bool :=
  0 ≤ i && marks.getD i.toNat false

/-- The marks with one set or taken away. -/
def withMark (marks : Array Bool) (i : Int) (value : Bool) : Array Bool :=
  marks.setIfInBounds i.toNat value

/-- A part of two sequences, from places on and up to others. -/
structure Part where
  left : Nat
  leftEnd : Nat
  right : Nat
  rightEnd : Nat

/-- How many elements agree from two places on, as long as they lie in a part. -/
def agreeing (same : Nat → Nat → Bool) (p : Part) : Nat → Nat → Nat → Nat
  | 0, _, _ => 0
  | fuel + 1, x, y =>
    if x < p.leftEnd && y < p.rightEnd && same x y then agreeing same p fuel (x + 1) (y + 1) + 1
    else 0

/-- How many elements agree before two places, as long as they lie in a part. -/
def agreeingBack (same : Nat → Nat → Bool) (p : Part) : Nat → Nat → Nat → Nat
  | 0, _, _ => 0
  | fuel + 1, x, y =>
    if p.left < x && p.right < y && same (x - 1) (y - 1) then
      agreeingBack same p fuel (x - 1) (y - 1) + 1
    else 0

/-- How far the searches from one end have come on each diagonal, and which diagonals they use. -/
structure Front where
  reached : Array Int
  low : Int
  high : Int

/-- How far a search has come on a diagonal, where `base` is the first one. -/
def Front.get (f : Front) (base d : Int) : Int :=
  f.reached.getD (d - base).toNat 0

/-- A search that has come to a place on a diagonal. -/
def Front.put (f : Front) (base d x : Int) : Front :=
  { f with reached := f.reached.setIfInBounds (d - base).toNat x }

/-- A search on more diagonals, up to those of the corners; new ones start `outside`. -/
def Front.widened (f : Front) (base low high outside : Int) : Front :=
  let f :=
    if low < f.low then { f.put base (f.low - 2) outside with low := f.low - 1 }
    else { f with low := f.low + 1 }
  if f.high < high then { f.put base (f.high + 2) outside with high := f.high + 1 }
  else { f with high := f.high - 1 }

/-- Every second diagonal of a search, the highest first. -/
def Front.diagonals (f : Front) : List Int :=
  (List.range (((f.high - f.low) / 2).toNat + 1)).map fun (k : Nat) => f.high - 2 * k

/-- One more step of the search from the front: the place where it meets the other one, or the
search after it. -/
def stepForward (same : Nat → Nat → Bool) (p : Part) (base : Int) (odd : Bool) (other : Front) :
    List Int → Front → (Nat × Nat) ⊕ Front
  | [], f => .inr f
  | d :: ds, f =>
    let low := f.get base (d - 1)
    let high := f.get base (d + 1)
    let start := if low < high then high else low + 1
    let x := start + agreeing same p (p.leftEnd + 1) start.toNat (start - d).toNat
    let f := f.put base d x
    if odd && other.low ≤ d && d ≤ other.high && other.get base d ≤ x then
      .inl (x.toNat, (x - d).toNat)
    else stepForward same p base odd other ds f

/-- One more step of the search from the end: the place where it meets the other one, or the search
after it. -/
def stepBack (same : Nat → Nat → Bool) (p : Part) (base : Int) (odd : Bool) (other : Front) :
    List Int → Front → (Nat × Nat) ⊕ Front
  | [], f => .inr f
  | d :: ds, f =>
    let low := f.get base (d - 1)
    let high := f.get base (d + 1)
    let start := if low < high then low else high - 1
    let x := start - agreeingBack same p (p.leftEnd + 1) start.toNat (start - d).toNat
    let f := f.put base d x
    if !odd && other.low ≤ d && d ≤ other.high && x ≤ other.get base d then
      .inl (x.toNat, (x - d).toNat)
    else stepBack same p base odd other ds f

/-- The place where two searches meet that take turns; `fuel` exceeds the number of steps. -/
def meeting (same : Nat → Nat → Bool) (p : Part) (base : Int) (odd : Bool) :
    Nat → Front → Front → Nat × Nat
  | 0, _, _ => (p.left, p.rightEnd)
  | fuel + 1, forward, back =>
    let low : Int := p.left - p.rightEnd
    let high : Int := p.leftEnd - p.right
    let forward := forward.widened base low high (-1)
    match stepForward same p base odd back forward.diagonals forward with
    | .inl found => found
    | .inr forward =>
      let back := back.widened base low high (p.leftEnd + p.rightEnd + 1 : Nat)
      match stepBack same p base odd forward back.diagonals back with
      | .inl found => found
      | .inr back => meeting same p base odd fuel forward back

/-- A place in the middle of the shortest way through a part. -/
def middle (same : Nat → Nat → Bool) (p : Part) : Nat × Nat :=
  let base : Int := (p.left : Int) - p.rightEnd - 1
  let first : Int := (p.left : Int) - p.right
  let last : Int := (p.leftEnd : Int) - p.rightEnd
  let size := (p.leftEnd - p.left) + (p.rightEnd - p.right) + 3
  let start (d : Int) (x : Nat) : Front :=
    Front.put ⟨Array.replicate size 0, d, d⟩ base d x
  meeting same p base ((first - last) % 2 ≠ 0) size (start first p.left) (start last p.leftEnd)

/-- Marks what differs in a part; `fuel` exceeds the depth of the search. -/
def markPart (same : Nat → Nat → Bool) : Nat → Part → Marks → Marks
  | 0, _, m => m
  | fuel + 1, p, m =>
    let front := agreeing same p (p.leftEnd + 1) p.left p.right
    let p := { p with left := p.left + front, right := p.right + front }
    let back := agreeingBack same p (p.leftEnd + 1) p.leftEnd p.rightEnd
    let p := { p with leftEnd := p.leftEnd - back, rightEnd := p.rightEnd - back }
    let all (marks : Array Bool) (first count : Nat) : Array Bool :=
      (List.range count).foldl (fun (a : Array Bool) i => a.setIfInBounds (first + i) true) marks
    if p.left = p.leftEnd then { m with right := all m.right p.right (p.rightEnd - p.right) }
    else if p.right = p.rightEnd then { m with left := all m.left p.left (p.leftEnd - p.left) }
    else
      let (x, y) := middle same p
      markPart same fuel { p with left := x, right := y }
        (markPart same fuel { p with leftEnd := x, rightEnd := y } m)

/-- The marks of what differs between two sequences. What is in one of them only is marked at
once. -/
def marksOf {α : Type} [BEq α] [Hashable α] (a b : Array α) : Marks :=
  let inBoth (other : Array α) (items : Array α) : Array Nat :=
    (items.toList.zipIdx.filterMap fun (x, i) => if other.contains x then some i else none).toArray
  let left := inBoth b a
  let right := inBoth a b
  let same (i j : Nat) : Bool :=
    match left[i]?, right[j]? with
    | some i, some j =>
      match a[i]?, b[j]? with
      | some x, some y => x == y
      | _, _ => false
    | _, _ => false
  let inner := markPart same (left.size + right.size + 1) ⟨0, left.size, 0, right.size⟩
    ⟨Array.replicate left.size false, Array.replicate right.size false⟩
  let spread (size : Nat) (places : Array Nat) (marks : Array Bool) : Array Bool :=
    (places.toList.zip marks.toList).foldl
      (fun (all : Array Bool) (place, mark) => all.setIfInBounds place mark)
      (Array.replicate size true)
  ⟨spread a.size left inner.left, spread b.size right inner.right⟩

/-- The first place without a mark from a place on. -/
def afterMarks (marks : Array Bool) : Nat → Int → Int
  | 0, i => i
  | fuel + 1, i => if isMarked marks i then afterMarks marks fuel (i + 1) else i

/-- The last place without a mark up to a place. -/
def beforeMarks (marks : Array Bool) : Nat → Int → Int
  | 0, i => i
  | fuel + 1, i => if isMarked marks i then beforeMarks marks fuel (i - 1) else i

/-- A run of marks that is moved: where it starts and ends, the place in the other sequence that its
end belongs to, and its end where it stood beside marks there. -/
structure Run where
  marks : Array Bool
  start : Int
  stop : Int
  other : Int
  beside : Option Int := none

/-- Moves a run back as long as that leaves the same elements. -/
def moveBack (same : Int → Int → Bool) (others : Array Bool) : Nat → Run → Run
  | 0, r => r
  | fuel + 1, r =>
    if 0 < r.start && same (r.start - 1) (r.stop - 1) then
      let marks := withMark (withMark r.marks (r.start - 1) true) (r.stop - 1) false
      moveBack same others fuel
        { r with
          marks := marks
          start := beforeMarks marks marks.size (r.start - 2) + 1
          stop := r.stop - 1
          other := beforeMarks others others.size (r.other - 1) }
    else r

/-- Moves a run on as long as that leaves the same elements. -/
def moveOn (same : Int → Int → Bool) (others : Array Bool) : Nat → Run → Run
  | 0, r => r
  | fuel + 1, r =>
    if r.stop < r.marks.size && same r.start r.stop then
      let marks := withMark (withMark r.marks r.start false) r.stop true
      let stop := afterMarks marks marks.size (r.stop + 1)
      let other := afterMarks others others.size (r.other + 1)
      moveOn same others fuel
        { r with
          marks := marks, start := r.start + 1, stop := stop, other := other
          beside := if other = r.other + 1 then r.beside else some stop }
    else r

/-- Moves a run back and on until it grows no more. -/
def settle (same : Int → Int → Bool) (others : Array Bool) : Nat → Run → Run
  | 0, r => r
  | fuel + 1, r =>
    let size := r.stop - r.start
    let r := moveBack same others (r.marks.size + 1) r
    let r := { r with beside := if isMarked others (r.other - 1) then some r.stop else none }
    let r := moveOn same others (r.marks.size + 1) r
    if r.stop - r.start = size then r else settle same others fuel r

/-- Moves a run back to where it stands beside marks in the other sequence. -/
def moveBeside (others : Array Bool) (target : Int) : Nat → Run → Run
  | 0, r => r
  | fuel + 1, r =>
    if target < r.stop then
      moveBeside others target fuel
        { r with
          marks := withMark (withMark r.marks (r.start - 1) true) (r.stop - 1) false
          start := r.start - 1, stop := r.stop - 1
          other := beforeMarks others others.size (r.other - 1) }
    else r

/-- Moves the runs of marks in one sequence from a place on, where `j` is the place in the other one
that it belongs to. -/
def moveRuns (same : Int → Int → Bool) (others : Array Bool) :
    Nat → Int → Int → Array Bool → Array Bool
  | 0, _, _, marks => marks
  | fuel + 1, i, j, marks =>
    if (marks.size : Int) ≤ i then marks
    else if !(isMarked marks i) then
      moveRuns same others fuel (i + 1) (afterMarks others others.size j + 1) marks
    else
      let run : Run :=
        { marks := marks, start := i, stop := afterMarks marks marks.size i
          other := afterMarks others others.size j }
      let run := settle same others (marks.size + 1) run
      let run :=
        run.beside.elim run fun target => moveBeside others target (marks.size + 1) run
      moveRuns same others fuel run.stop run.other run.marks

/-- The marks with their runs moved to where they are expected. -/
def shifted {α : Type} [BEq α] (a b : Array α) (m : Marks) : Marks :=
  let sameIn (items : Array α) (i j : Int) : Bool :=
    match items[i.toNat]?, items[j.toNat]? with
    | some x, some y => x == y
    | _, _ => false
  let fuel := a.size + b.size + 2
  let left := moveRuns (sameIn a) m.right fuel 0 0 m.left
  let right := moveRuns (sameIn b) left fuel 0 0 m.right
  ⟨left, right⟩

/-- A stretch of one sequence that gives way to one of the other. -/
structure Hunk where
  left : Nat
  leftCount : Nat
  right : Nat
  rightCount : Nat
  deriving DecidableEq, Repr

/-- How many marks stand at the front. -/
def marked (marks : List Bool) : Nat :=
  (marks.takeWhile fun b => b).length

/-- The hunks that marks tell of, from places on; `fuel` exceeds the number of marks. -/
def hunksFrom : Nat → Nat → Nat → List Bool → List Bool → List Hunk
  | 0, _, _, _, _ => []
  | fuel + 1, i, j, left, right =>
    let n := marked left
    let m := marked right
    if n = 0 ∧ m = 0 then
      if left.isEmpty ∨ right.isEmpty then []
      else hunksFrom fuel (i + 1) (j + 1) (left.drop 1) (right.drop 1)
    else ⟨i, n, j, m⟩ :: hunksFrom fuel (i + n) (j + m) (left.drop n) (right.drop m)

/-- How many elements at the front of two lists agree. -/
def agreeingFront {α : Type} [BEq α] : List α → List α → Nat
  | x :: xs, y :: ys => if x == y then agreeingFront xs ys + 1 else 0
  | _, _ => 0

/-- The hunks between two sequences. Of what agrees at both ends only `horizon` elements are looked
at. -/
def hunks {α : Type} [BEq α] [Hashable α] (horizon : Nat) (a b : Array α) : List Hunk :=
  let front := agreeingFront a.toList b.toList
  let back := min (agreeingFront a.toList.reverse b.toList.reverse)
    (min (a.size - front) (b.size - front)) - horizon
  let front := front - horizon
  let left := a.extract front (a.size - back)
  let right := b.extract front (b.size - back)
  let m := shifted left right (marksOf left right)
  hunksFrom (a.size + b.size + 1) front front m.left.toList m.right.toList

end Pipeline.Shell.Utility.Difference
