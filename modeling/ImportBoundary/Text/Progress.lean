/-!
# Reading in steps

A reader that consumes a text in steps ends because every step reads some of it. `iterate` repeats a
step at most once for each character that is left to read, and once more for the result, so a machine
that reads text is total by construction. One character is struck off the allowance for each step,
and no length is ever counted.

The fault `stuck` is there for the type. A machine whose steps read something never comes to it, and
nothing else depends on which fault it is.
-/

namespace ImportBoundary.Text

universe u v w

/-- Repeats a step until it has a result, at most once for each character of the allowance and once
more. A step beyond these ends the reading with the fault `stuck`. -/
def iterateWithin {σ : Type u} {α : Type v} {ε : Type w} (stuck : ε)
    (step : σ → Except ε (σ ⊕ α)) : List Char → σ → Except ε α
  | allowance, s =>
    match step s with
    | .error fault => .error fault
    | .ok (.inr result) => .ok result
    | .ok (.inl next) =>
      match allowance with
      | [] => .error stuck
      | _ :: allowance => iterateWithin stuck step allowance next

/-- Repeats a step until it has a result. Steps that each read some of the text that is left never
meet the fault `stuck`. -/
def iterate {σ : Type u} {α : Type v} {ε : Type w} (left : σ → List Char) (stuck : ε)
    (step : σ → Except ε (σ ⊕ α)) (s : σ) : Except ε α :=
  iterateWithin stuck step (left s) s

end ImportBoundary.Text
