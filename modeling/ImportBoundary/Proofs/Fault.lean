import Mathlib.Data.List.Basic
import ImportBoundary.Tree

/-!
# The first fault decides

Whatever is read in this library is checked from left to right, and the first fault is the one that is
reported. `Reports` says this of a computation and the list of all faults of its input: the computation
fails with the first one, and succeeds if there is none. A computation in steps reports the faults of
its steps, one step after the other (`Reports.bind`), and so does a computation along a list
(`Reports.mapM`) or along a forest (`Reports.traverse`).

The list of faults is made without stopping at the first one. That is what makes it compositional: the
faults of two steps are one list behind the other, while a computation that stops has to be followed
through every branch.
-/

namespace ImportBoundary

variable {α β ε : Type} {faults more : List ε} {x : Except ε α} {e : ε}

/-- The error of a computation that fails. -/
def failure? : Except ε α → Option ε
  | .ok _ => none
  | .error e => some e

/-- The computation fails with the first of the faults, and succeeds if there are none. -/
def Reports (faults : List ε) (x : Except ε α) : Prop := failure? x = faults.head?

theorem reports_ok (a : α) : Reports [] (.ok a : Except ε α) := rfl

theorem reports_error (e : ε) (more : List ε) : Reports (e :: more) (.error e : Except ε α) := rfl

namespace Reports

/-- A computation fails exactly with the first fault. -/
theorem eq_error_iff (h : Reports faults x) : x = .error e ↔ faults.head? = some e := by
  rw [← h]
  cases x <;> simp [failure?]

/-- A computation succeeds exactly if there is no fault. -/
theorem exists_ok_iff (h : Reports faults x) : (∃ a, x = .ok a) ↔ faults = [] := by
  rw [← List.head?_eq_none_iff, ← h]
  cases x <;> simp [failure?]

/-- The faults of the second step come behind those of the first one. -/
theorem bind {f : α → Except ε β} (first : Reports faults x)
    (second : ∀ a, x = .ok a → Reports more (f a)) : Reports (faults ++ more) (x >>= f) := by
  cases x with
  | error e =>
      obtain ⟨rest, rfl⟩ := List.head?_eq_some_iff.mp first.symm
      exact reports_error e (rest ++ more)
  | ok a =>
      obtain rfl := List.head?_eq_none_iff.mp first.symm
      exact second a rfl

/-- What is made of a result that has been found has no faults. -/
theorem map {f : α → β} (h : Reports faults x) : Reports faults (x >>= fun a => pure (f a)) := by
  rw [← List.append_nil faults]
  exact h.bind fun a _ => reports_ok (f a)

/-- Faults may be reported in other words. -/
theorem mapError {δ : Type} (h : Reports faults x) (f : ε → δ) :
    Reports (faults.map f) (x.mapError f) := by
  unfold Reports at h ⊢
  rw [List.head?_map, ← h]
  cases x <;> rfl

/-- The faults along a list are those of its members from left to right. -/
theorem mapM {f : α → Except ε β} {faults : α → List ε} {xs : List α}
    (each : ∀ x ∈ xs, Reports (faults x) (f x)) : Reports (xs.flatMap faults) (xs.mapM f) := by
  induction xs with
  | nil => exact reports_ok []
  | cons x xs ih =>
      obtain ⟨first, others⟩ := List.forall_mem_cons.mp each
      rw [List.mapM_cons, List.flatMap_cons]
      exact first.bind fun _ _ => (ih others).map

/-- The faults in a forest are those of its values, parents before their children and from left to
right. -/
theorem traverse {f : α → Except ε β} {faults : α → List ε} (each : ∀ a, Reports (faults a) (f a))
    (forest : List (Tree α)) :
    Reports ((Tree.forestValues forest).flatMap faults) (Tree.traverse f forest) := by
  induction forest using Tree.forest_induction with
  | nil => exact reports_ok []
  | cons a inside rest ih_inside ih_rest =>
      rw [Tree.forestValues, Tree.values, List.flatMap_append, List.flatMap_cons, Tree.traverse,
        Tree.traverseTree]
      have tree := (each a).bind fun b _ => ih_inside.map (f := Tree.node b)
      exact tree.bind fun _ _ => ih_rest.map

end Reports

end ImportBoundary
