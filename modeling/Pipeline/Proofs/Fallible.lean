import Mathlib.Data.List.Forall2
import Mathlib.Data.Option.Defs
import Mathlib.Tactic.Lemma

/-!
# Computations that may fail

What a result or an error of a computation comes from: of a mapped one, of one in two stages, and of
one that works through a list. The results of a list are those of its members, one for one
(`mapM_eq_ok_iff`), and its error is that of a member (`exists_of_mapM_error`). Two computations
that are related stage by stage have related results (`ExceptRel`).
-/

namespace Pipeline

section

variable {ε α β : Type}

/-- What a mapped result comes from. -/
lemma map_eq_ok {x : Except ε α} {f : α → β} {b : β} (h : x.map f = .ok b) :
    ∃ a, x = .ok a ∧ f a = b := by
  cases x with
  | error e => cases h
  | ok a => exact ⟨a, rfl, Except.ok.inj h⟩

/-- What the error of a mapped computation comes from. -/
lemma map_eq_error {x : Except ε α} {f : α → β} {e : ε} (h : x.map f = .error e) :
    x = .error e := by
  cases x with
  | error e' => rw [Except.error.inj h]
  | ok a => cases h

/-- What the result of two stages comes from. -/
lemma bind_eq_ok {x : Except ε α} {f : α → Except ε β} {b : β} (h : x >>= f = .ok b) :
    ∃ a, x = .ok a ∧ f a = .ok b := by
  cases x with
  | error e => cases h
  | ok a => exact ⟨a, rfl, h⟩

/-- The error of two stages is one of the first, or of the second after a result of the first. -/
lemma bind_eq_error {x : Except ε α} {f : α → Except ε β} {e : ε} (h : x >>= f = .error e) :
    x = .error e ∨ ∃ a, x = .ok a ∧ f a = .error e := by
  cases x with
  | error e' => exact .inl (by rw [Except.error.inj h])
  | ok a => exact .inr ⟨a, rfl, h⟩

variable {f : α → Except ε β} {xs : List α}

/-- A list is worked through to the results of its members, one for one. -/
lemma mapM_eq_ok_iff {ys : List β} :
    xs.mapM f = .ok ys ↔ List.Forall₂ (fun x y => f x = .ok y) xs ys := by
  constructor
  · intro h
    induction xs generalizing ys with
    | nil =>
      cases h
      exact .nil
    | cons x xs ih =>
      rw [List.mapM_cons] at h
      obtain ⟨y, here, h⟩ := bind_eq_ok h
      obtain ⟨zs, rest, h⟩ := bind_eq_ok h
      cases h
      exact .cons here (ih rest)
  · intro h
    induction h with
    | nil => rfl
    | cons here _ ih =>
      rw [List.mapM_cons, here, ih]
      rfl

/-- A list can be worked through when each of its members can. -/
lemma exists_mapM_iff : (∃ ys, xs.mapM f = .ok ys) ↔ ∀ x ∈ xs, ∃ y, f x = .ok y := by
  simp only [mapM_eq_ok_iff]
  induction xs with
  | nil => simp
  | cons x xs ih =>
    rw [List.forall_mem_cons, ← ih]
    simp only [List.forall₂_cons_left_iff]
    constructor
    · rintro ⟨_, y, ys, here, rest, -⟩
      exact ⟨⟨y, here⟩, ys, rest⟩
    · rintro ⟨⟨y, here⟩, ys, rest⟩
      exact ⟨y :: ys, y, ys, here, rest, rfl⟩

/-- A list that cannot be worked through has a member that cannot. -/
lemma exists_of_mapM_error {e : ε} (h : xs.mapM f = .error e) : ∃ x ∈ xs, f x = .error e := by
  induction xs with
  | nil => cases h
  | cons x xs ih =>
    rw [List.mapM_cons] at h
    rcases bind_eq_error h with here | ⟨y, -, h⟩
    · exact ⟨x, List.mem_cons_self, here⟩
    · rcases bind_eq_error h with rest | ⟨ys, -, h⟩
      · obtain ⟨x', mem, failed⟩ := ih rest
        exact ⟨x', List.mem_cons_of_mem _ mem, failed⟩
      · cases h

/-- Look-ups that are related find nothing, or two things that are related. -/
lemma rel_cases {R : α → β → Prop} {x : Option α} {y : Option β} (h : Option.Rel R x y) :
    (x = none ∧ y = none) ∨ ∃ a b, x = some a ∧ y = some b ∧ R a b := by
  cases h with
  | none => exact .inl ⟨rfl, rfl⟩
  | some related => exact .inr ⟨_, _, rfl, rfl, related⟩

/-- Two results are one error, or are related as what they hold is. -/
inductive ExceptRel (R : α → β → Prop) : Except ε α → Except ε β → Prop where
  | error {e} :
    ExceptRel R (.error e) (.error e)
  | ok {a b} :
    R a b →
    ExceptRel R (.ok a) (.ok b)

end

namespace ExceptRel

variable {ε α β α' β' : Type}

/-- What is done with related values gives results that are related, too. -/
lemma map {R : α → β → Prop} {S : α' → β' → Prop} {f : α → α'} {g : β → β'} {x : Except ε α}
    {y : Except ε β} (h : ExceptRel R x y) (related : ∀ a b, R a b → S (f a) (g b)) :
    ExceptRel S (x.map f) (y.map g) := by
  cases h with
  | error => exact .error
  | ok here => exact .ok (related _ _ here)

/-- Two stages that are related give results that are related, too. -/
lemma bind {R : α → β → Prop} {S : α' → β' → Prop} {f : α → Except ε α'} {g : β → Except ε β'}
    {x : Except ε α} {y : Except ε β} (h : ExceptRel R x y)
    (related : ∀ a b, R a b → ExceptRel S (f a) (g b)) : ExceptRel S (x >>= f) (y >>= g) := by
  cases h with
  | error => exact .error
  | ok here => exact related _ _ here

/-- A list can be worked through as well when its members are changed and each is worked through to
something related, and what comes of it is related. -/
lemma mapM {R : β → β → Prop} {f : α → Except ε β} {change : Nat → α → α}
    (h : ∀ position x, ExceptRel R (f x) (f (change position x))) (xs : List α) :
    ExceptRel (List.Forall₂ R) (xs.mapM f) ((xs.mapIdx change).mapM f) := by
  induction xs generalizing change with
  | nil => exact .ok .nil
  | cons x xs ih =>
    rw [List.mapIdx_cons, List.mapM_cons, List.mapM_cons]
    refine (h 0 x).bind fun y y' first => ?_
    refine (ih fun position => h (position + 1)).bind fun ys ys' rest => ?_
    exact .ok (.cons first rest)

end ExceptRel

end Pipeline
