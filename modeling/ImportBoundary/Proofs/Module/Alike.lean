import Mathlib.Data.Option.Basic
import ImportBoundary.Proofs.Module.Holder

/-!
# Forests of the same shape

Two forests are alike under a relation when they have the same shape and the relation holds between
the values at the same places. Mapping keeps forests alike (`Alike.exists_traverse`). Where related
modules have the same path, the modules that hold a path are found at the same places
(`locate_alike`), and the scopes inside and beside them are alike again.

The relation is a parameter. With equal boundaries it compares forests that differ in nothing that is
asked, with relaxed boundaries a forest and a more liberal one (`Boundary.RelaxedTo`), and with what a
declaration compiles to a configuration and its compiled modules (`ModuleDeclaration.CompilesTo`).
-/

namespace ImportBoundary

universe u v w x y

/-- A computation in steps succeeds if its first step does and what follows does. -/
theorem bind_eq_ok_iff {α β : Type u} {ε : Type v} {a : Except ε α} {f : α → Except ε β} {y : β} :
    a >>= f = .ok y ↔ ∃ x, a = .ok x ∧ f x = .ok y := by
  cases a <;> simp [bind, Except.bind]

section

variable {α β γ : Type} {R S : α → β → Prop} {a : Option α} {b : Option β}

/-- Related options are both empty, or hold related values. -/
theorem rel_iff :
    Option.Rel R a b ↔ (a = none ∧ b = none) ∨ ∃ x y, a = some x ∧ b = some y ∧ R x y := by
  constructor
  · rintro (related | -)
    · exact Or.inr ⟨_, _, rfl, rfl, related⟩
    · exact Or.inl ⟨rfl, rfl⟩
  · rintro (⟨rfl, rfl⟩ | ⟨x, y, rfl, rfl, related⟩)
    · exact .none
    · exact .some related

/-- Options that are related are related in another way if the values they hold are. -/
theorem rel_of_rel (h : Option.Rel R a b) (imp : ∀ x y, a = some x → b = some y → R x y → S x y) :
    Option.Rel S a b := by
  rcases rel_iff.mp h with ⟨rfl, rfl⟩ | ⟨x, y, rfl, rfl, related⟩
  · exact .none
  · exact .some (imp x y rfl rfl related)

theorem map_eq_map_of_rel {f : α → γ} {g : β → γ} (h : Option.Rel R a b)
    (same : ∀ x y, R x y → f x = g y) : a.map f = b.map g := by
  cases h with
  | none => rfl
  | some related => exact congrArg some (same _ _ related)

theorem isSome_eq_of_rel (h : Option.Rel R a b) : a.isSome = b.isSome := by
  cases h <;> rfl

end

namespace Tree

variable {α : Type u} {β : Type v} {γ : Type w} {δ : Type x} {ε : Type y}

/-- A forest is mapped if the first value, the forest below it and the rest are. -/
theorem traverse_cons_eq_ok_iff {f : α → Except ε γ} {a : α} {inside rest : List (Tree α)}
    {u : List (Tree γ)} :
    traverse f (node a inside :: rest) = .ok u ↔
      ∃ c below beside, f a = .ok c ∧ traverse f inside = .ok below ∧
        traverse f rest = .ok beside ∧ u = node c below :: beside := by
  rw [traverse, traverseTree]
  cases f a with
  | error e => simp [bind, Except.bind]
  | ok c =>
      cases traverse f inside <;> cases traverse f rest <;>
        simp [bind, Except.bind, pure, Except.pure, eq_comm]

/-- Two forests have the same shape, and their values are related place by place. -/
inductive Alike (R : α → β → Prop) : List (Tree α) → List (Tree β) → Prop
  | nil : Alike R [] []
  | cons {a : α} {b : β} {inside rest : List (Tree α)} {inside' rest' : List (Tree β)} :
      R a b → Alike R inside inside' → Alike R rest rest' →
      Alike R (node a inside :: rest) (node b inside' :: rest')

namespace Alike

variable {R : α → β → Prop} {s s' : List (Tree α)} {t t' : List (Tree β)}

theorem imp {S : α → β → Prop} (weaker : ∀ a b, R a b → S a b) (h : Alike R s t) :
    Alike S s t := by
  induction h with
  | nil => exact nil
  | cons related _ _ ih_inside ih_rest => exact cons (weaker _ _ related) ih_inside ih_rest

/-- The two forests may change their places. -/
theorem flip (h : Alike R s t) : Alike (fun b a => R a b) t s := by
  induction h with
  | nil => exact nil
  | cons related _ _ ih_inside ih_rest => exact cons related ih_inside ih_rest

theorem append (first : Alike R s t) (second : Alike R s' t') : Alike R (s ++ s') (t ++ t') := by
  induction first with
  | nil => exact second
  | cons related inside _ _ ih_rest => exact cons related inside ih_rest

theorem length_eq (h : Alike R s t) : s.length = t.length := by
  induction h with
  | nil => rfl
  | cons _ _ _ _ ih_rest => simp [ih_rest]

theorem eq_nil_iff (h : Alike R s t) : s = [] ↔ t = [] := by
  rw [← List.length_eq_zero_iff, ← List.length_eq_zero_iff, h.length_eq]

/-- If related values are mapped to related values, alike forests are mapped to alike forests. -/
theorem exists_traverse {S : γ → δ → Prop} {f : α → Except ε γ} {g : β → Except ε δ}
    (maps : ∀ a b, R a b → ∀ c, f a = .ok c → ∃ d, g b = .ok d ∧ S c d) (h : Alike R s t)
    {u : List (Tree γ)} (mapped : traverse f s = .ok u) :
    ∃ u', traverse g t = .ok u' ∧ Alike S u u' := by
  induction h generalizing u with
  | nil =>
      cases mapped
      exact ⟨[], rfl, nil⟩
  | @cons a b inside rest inside' rest' related _ _ ih_inside ih_rest =>
      obtain ⟨c, below, beside, value, children, others, rfl⟩ := traverse_cons_eq_ok_iff.mp mapped
      obtain ⟨d, value', related'⟩ := maps a b related c value
      obtain ⟨below', children', alike_below⟩ := ih_inside children
      obtain ⟨beside', others', alike_beside⟩ := ih_rest others
      refine ⟨node d below' :: beside', ?_, cons related' alike_below alike_beside⟩
      exact traverse_cons_eq_ok_iff.mpr ⟨d, below', beside', value', children', others', rfl⟩

end Alike

end Tree

/-! ## Located modules

Related modules have the same path, so they hold the same files, and a search through one scope and a
search through the other one stop at the same place.
-/

/-- Two located modules are related, and what stands inside, before and after them is alike. -/
structure Located.Alike (R : Boundary → Boundary → Prop) (l k : Located) : Prop where
  boundary : R l.boundary k.boundary
  inside : Tree.Alike R l.inside k.inside
  before : Tree.Alike R l.before k.before
  after : Tree.Alike R l.after k.after

namespace Located.Alike

variable {R : Boundary → Boundary → Prop} {l k : Located}

theorem place_eq (h : Located.Alike R l k) : l.place = k.place :=
  h.before.length_eq

theorem insideBeside (h : Located.Alike R l k) : Tree.Alike R l.insideBeside k.insideBeside :=
  (h.inside.append h.before).append h.after

end Located.Alike

/-- In alike scopes the module of a path is found at the same place, or in both of them nothing is
found. -/
theorem locate_alike {R : Boundary → Boundary → Prop} (same : ∀ a b, R a b → a.path = b.path)
    {s t : Scope} (h : Tree.Alike R s t) (p : Path) :
    Option.Rel (Located.Alike R) (locate p s) (locate p t) := by
  induction h with
  | nil => exact .none
  | @cons a b inside rest inside' rest' related alike_inside alike_rest _ ih =>
      have holds_iff : b.holds p = a.holds p := by
        unfold Boundary.holds
        rw [same a b related]
      by_cases holds : a.holds p
      · rw [locate_cons_of_holds (m := .node a inside) holds,
          locate_cons_of_holds (m := .node b inside') (holds_iff.trans holds)]
        exact .some ⟨related, alike_inside, .nil, alike_rest⟩
      · rw [locate_cons_of_not_holds (m := .node a inside) holds,
          locate_cons_of_not_holds (m := .node b inside') (holds_iff ▸ holds)]
        rcases rel_iff.mp ih with ⟨missing, missing'⟩ | ⟨l, k, found, found', alike⟩
        · rw [missing, missing']
          exact .none
        · rw [found, found']
          exact .some ⟨alike.boundary, alike.inside, .cons related alike_inside alike.before,
            alike.after⟩

section

variable {R : Boundary → Boundary → Prop} {s t : Scope}

/-- A module found in one of two alike scopes has its counterpart in the other one. -/
theorem exists_located_alike (same : ∀ a b, R a b → a.path = b.path) (h : Tree.Alike R s t)
    {p : Path} {k : Located} (found : locate p t = some k) :
    ∃ l, locate p s = some l ∧ Located.Alike R l k := by
  rcases rel_iff.mp (locate_alike same h p) with ⟨-, missing⟩ | ⟨l, k', found_l, found_k, alike⟩
  · rw [missing] at found
    cases found
  · rw [found_k] at found
    cases found
    exact ⟨l, found_l, alike⟩

/-- The module of a path stands at the same place in alike scopes. -/
theorem place_locate_alike (same : ∀ a b, R a b → a.path = b.path) (h : Tree.Alike R s t)
    (p : Path) : (locate p s).map Located.place = (locate p t).map Located.place :=
  map_eq_map_of_rel (locate_alike same h p) fun _ _ alike => alike.place_eq

theorem isSome_locate_alike (same : ∀ a b, R a b → a.path = b.path) (h : Tree.Alike R s t)
    (p : Path) : (locate p s).isSome = (locate p t).isSome :=
  isSome_eq_of_rel (locate_alike same h p)

theorem boundary_locate_alike (same : ∀ a b, R a b → a.path = b.path) (h : Tree.Alike R s t)
    (p : Path) :
    Option.Rel R ((locate p s).map Located.boundary) ((locate p t).map Located.boundary) := by
  rcases rel_iff.mp (locate_alike same h p) with ⟨missing, missing'⟩ | ⟨l, k, found, found', alike⟩
  · rw [missing, missing']
    exact .none
  · rw [found, found']
    exact .some alike.boundary

end

end ImportBoundary
