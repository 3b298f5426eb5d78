/-!
# Trees and forests

A tree is a value with a list of trees below it; a forest is a list of trees. `traverse` maps every
value of a forest by a function that may fail, parents before their children and from left to right,
and keeps the shape.
-/

namespace ImportBoundary

universe u v w

/-- A value with the trees below it. -/
inductive Tree (α : Type u) where
  | node (value : α) (children : List (Tree α))

namespace Tree

variable {α : Type u} {β : Type v} {ε : Type w}

def value : Tree α → α
  | .node value _ => value

def children : Tree α → List (Tree α)
  | .node _ children => children

@[simp] theorem value_node (v : α) (ts : List (Tree α)) : (node v ts).value = v := rfl

@[simp] theorem children_node (v : α) (ts : List (Tree α)) : (node v ts).children = ts := rfl

@[simp] theorem node_value_children (t : Tree α) : node t.value t.children = t := by
  cases t
  rfl

/-- What holds of the empty forest, and of a forest whenever it holds of the children of its first
tree and of the other trees, holds of all forests. -/
@[elab_as_elim]
theorem forest_induction {motive : List (Tree α) → Prop} (nil : motive [])
    (cons : ∀ (v : α) (children rest : List (Tree α)),
      motive children → motive rest → motive (node v children :: rest)) :
    ∀ forest, motive forest
  | [] => nil
  | node v children :: rest =>
    cons v children rest (forest_induction nil cons children) (forest_induction nil cons rest)

/-! ### Size

The number of values. Recursions that go from a forest into the children of one of its trees go down by
it.
-/

mutual

def size : Tree α → Nat
  | .node _ children => forestSize children + 1

def forestSize : List (Tree α) → Nat
  | [] => 0
  | t :: rest => size t + forestSize rest

end

@[simp] theorem forestSize_nil : forestSize ([] : List (Tree α)) = 0 := rfl

@[simp] theorem forestSize_cons (t : Tree α) (rest : List (Tree α)) :
    forestSize (t :: rest) = t.size + forestSize rest := rfl

theorem size_eq (t : Tree α) : t.size = forestSize t.children + 1 := by
  cases t
  rfl

@[simp] theorem forestSize_append (a b : List (Tree α)) :
    forestSize (a ++ b) = forestSize a + forestSize b := by
  induction a with
  | nil => simp
  | cons t rest ih => simp [ih, Nat.add_assoc]

/-! ### Maps

The first value that fails decides, so the way in which a forest is gone through is part of what
`traverse` does.
-/

mutual

def traverseTree (f : α → Except ε β) : Tree α → Except ε (Tree β)
  | .node v children => do
    let v ← f v
    let children ← traverse f children
    return .node v children

/-- Maps the values of a forest by a function that may fail: the value of a tree before its children,
and a tree before those to the right of it. The first failure decides. -/
def traverse (f : α → Except ε β) : List (Tree α) → Except ε (List (Tree β))
  | [] => .ok []
  | t :: rest => do
    let t ← traverseTree f t
    let rest ← traverse f rest
    return t :: rest

end

mutual

def values : Tree α → List α
  | .node v children => v :: forestValues children

/-- The values of a forest, parents before their children and from left to right. -/
def forestValues : List (Tree α) → List α
  | [] => []
  | t :: rest => values t ++ forestValues rest

end

end Tree

end ImportBoundary
