/-!
# Stateful traversals of lists

Documents are brought into canonical form by traversals that thread the source of new identifiers.
A fact about every step of such a traversal is a fact about its result, whatever the states in
between.

Options and settings are collected by traversals without such a source, in which a later step has
the last word.
-/

namespace DocQuery.Traversal

variable {α β τ : Type}

theorem mapM_cons (f : α → StateM τ β) (x : α) (xs : List α) (state : τ) :
    (x :: xs).mapM f state =
      ((f x state).1 :: (xs.mapM f (f x state).2).1, (xs.mapM f (f x state).2).2) := by
  rw [List.mapM_cons]
  rfl

/-- A traversal has one result for each item. -/
theorem isEmpty_mapM (f : α → StateM τ β) (xs : List α) (state : τ) :
    (xs.mapM f state).1.isEmpty = xs.isEmpty := by
  cases xs with
  | nil => rfl
  | cons x xs =>
      rw [mapM_cons]
      rfl

/-- Items that each step leaves as they are remain. No step changes the state. -/
theorem mapM_of_fixed {f : α → StateM τ α} {xs : List α}
    (fixed : ∀ x ∈ xs, ∀ state, f x state = (x, state)) (state : τ) :
    xs.mapM f state = (xs, state) := by
  induction xs with
  | nil => rfl
  | cons x xs ih =>
      simp only [List.forall_mem_cons] at fixed
      rw [mapM_cons, fixed.1, ih fixed.2]

theorem foldlM_cons (f : β → α → StateM τ β) (b : β) (x : α) (xs : List α) (state : τ) :
    (x :: xs).foldlM f b state = xs.foldlM f (f b x state).1 (f b x state).2 := rfl

/-- Every result of a traversal is the result of its step in some state. -/
theorem exists_of_mem_mapM {f : α → StateM τ β} {xs : List α} {state : τ} {y : β}
    (member : y ∈ (xs.mapM f state).1) : ∃ x ∈ xs, ∃ between, (f x between).1 = y := by
  induction xs generalizing state with
  | nil => exact absurd member List.not_mem_nil
  | cons x xs ih =>
      rw [mapM_cons] at member
      rcases List.mem_cons.mp member with first | later
      · exact ⟨x, List.mem_cons_self, state, first.symm⟩
      · obtain ⟨x', inside, between, result⟩ := ih later
        exact ⟨x', List.mem_cons_of_mem x inside, between, result⟩

/-- What each step of a fold keeps holds of its result. -/
theorem foldlM_invariant {f : β → α → StateM τ β} (invariant : β → Prop)
    (preserved : ∀ b x state, invariant b → invariant (f b x state).1) (xs : List α) (b : β)
    (state : τ) (start : invariant b) : invariant (xs.foldlM f b state).1 := by
  induction xs generalizing b state with
  | nil => exact start
  | cons x xs ih =>
      rw [foldlM_cons]
      exact ih _ _ (preserved b x state start)

/-- Where a step of a fold decides what it speaks of, and leaves it alone otherwise, the last step
that speaks of it decides. -/
theorem foldl_lastWord {γ : Type} (view : β → Option γ) (word? : α → Option γ) {step : β → α → β}
    (said : ∀ b x, view (step b x) = (word? x <|> view b)) (b : β) (xs : List α) :
    view (xs.foldl step b) = (xs.reverse.findSome? word? <|> view b) := by
  induction xs generalizing b with
  | nil => rfl
  | cons x xs ih =>
      rw [List.foldl_cons, ih, said, List.reverse_cons, List.findSome?_append,
        List.findSome?_singleton]
      cases xs.reverse.findSome? word? <;> rfl

end DocQuery.Traversal
