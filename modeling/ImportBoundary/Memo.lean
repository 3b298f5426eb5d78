/-!
# Objects and what is remembered of them

Two configurations may hold the same rules and still be different objects. A `Shared` value says
which object it is by a number; copies keep the number. Numbers are drawn from a supply, so that every
new object has one that was not used before.

A memo keeps what was compiled last, under the identity of the object it was compiled from.
`Memo.resolve` hands out the entry when it is asked for the same object again and compiles otherwise;
an object that does not compile leaves the memo as it was. Compilation happens in a monad, so that a
computation shows how often it was needed.
-/

namespace ImportBoundary

universe u v

/-- A value that is a particular object. -/
structure Shared (α : Type u) where
  id : Nat
  value : α
deriving DecidableEq, Repr

/-- Draws numbers of new objects: the state is the next number. -/
abbrev Supply := StateM Nat

def Shared.make {α : Type} (value : α) : Supply (Shared α) := do
  let id ← get
  set (id + 1)
  return ⟨id, value⟩

/-- The last object that compiled, with the outcome. -/
structure Memo (ρ : Type u) (τ : Type v) where
  entry : Option (Shared ρ × τ) := none

namespace Memo

variable {ρ τ ε : Type} {m : Type → Type} [Monad m]

def empty : Memo ρ τ := ⟨none⟩

def clear (_ : Memo ρ τ) : Memo ρ τ := empty

def lookup? (memo : Memo ρ τ) (raw : Shared ρ) : Option τ :=
  match memo.entry with
  | some (key, kept) => if key.id = raw.id then some kept else none
  | none => none

/-- The compiled form of an object, and the memo afterwards. -/
def resolve (compile : ρ → m (Except ε τ)) (raw : Shared ρ) (memo : Memo ρ τ) :
    m (Except ε τ × Memo ρ τ) :=
  match memo.lookup? raw with
  | some kept => pure (.ok kept, memo)
  | none => do
    match ← compile raw.value with
    | .ok made => pure (.ok made, ⟨some (raw, made)⟩)
    | .error e => pure (.error e, memo)

end Memo

end ImportBoundary
