import ImportBoundary.Proofs.Edge.Cell
import ImportBoundary.Proofs.Judgement.Course

/-!
# The order of siblings

Where siblings do not overlap, their order at every level does not matter to an import
(`edge_judged_in_any_order`). The judgement goes on into scopes in which the modules inside a module
stand before those beside it. There modules may overlap, because a module may lie outside of the one in
which it is nested, and a reordered forest may not exchange just any two of them. It does not have to:
every reordering comes from exchanges of neighbours that are apart (`Tree.Reordered.rearranged`), and
these carry over to the mixed scopes (`Rearranged.append`).
-/

namespace ImportBoundary

variable {r : Route} {s t u : Scope}

/-! ## Reordered forests

A reordering is given by what may be done at one place: keep a tree and reorder what is nested in it
and what follows it, or exchange two neighbours. That no siblings overlap is a property of the levels
of a forest, and it survives every reordering, because the modules of a level stay together.
-/

/-- The same trees, with the siblings at every level in some order. -/
inductive Tree.Reordered {α : Type} : List (Tree α) → List (Tree α) → Prop
  | nil : Reordered [] []
  | cons (v : α) {children children' rest rest' : List (Tree α)} : Reordered children children' →
      Reordered rest rest' → Reordered (.node v children :: rest) (.node v children' :: rest')
  | swap (a b : Tree α) (rest : List (Tree α)) : Reordered (a :: b :: rest) (b :: a :: rest)
  | trans {s t u : List (Tree α)} : Reordered s t → Reordered t u → Reordered s u

/-- The values at the top are the same, in some order. -/
theorem Tree.Reordered.map_value_perm {α : Type} {s t : List (Tree α)} (h : Reordered s t) :
    (s.map value).Perm (t.map value) := by
  induction h with
  | nil => exact .nil
  | cons v _ _ _ ih => exact ih.cons v
  | swap a b rest => exact .swap b.value a.value _
  | trans _ _ ih_first ih_second => exact ih_first.trans ih_second

/-- At no level of the forest two siblings overlap. -/
def ApartEverywhere (forest : Scope) : Prop := ∀ level ∈ Tree.levels forest, Scope.Apart level

instance (forest : Scope) : Decidable (ApartEverywhere forest) :=
  inferInstanceAs (Decidable (∀ level ∈ Tree.levels forest, Scope.Apart level))

theorem apartEverywhere_cons {m : CompiledModule} {rest : Scope} :
    ApartEverywhere (m :: rest) ↔ (∀ other ∈ rest, m.value.Apart other.value) ∧
      ApartEverywhere m.children ∧ ApartEverywhere rest := by
  simp only [ApartEverywhere, Tree.levels, Tree.levelsInside, Tree.levelsBelow_eq, Scope.Apart,
    List.forall_mem_cons, List.forall_mem_append, List.pairwise_cons]
  constructor
  · rintro ⟨⟨first, top⟩, inside, below⟩
    exact ⟨first, inside, top, below⟩
  · rintro ⟨first, inside, top, below⟩
    exact ⟨⟨first, top⟩, inside, below⟩

/-- A forest without overlapping siblings has none in any other order. -/
theorem ApartEverywhere.of_reordered (apart : ApartEverywhere s) (h : Tree.Reordered s t) :
    ApartEverywhere t := by
  induction h with
  | nil => exact apart
  | @cons b inside inside' rest rest' _ reordered ih_inside ih_rest =>
      obtain ⟨first, apart_inside, apart_rest⟩ := apartEverywhere_cons.mp apart
      refine apartEverywhere_cons.mpr ⟨fun other mem => ?_, ih_inside apart_inside, ih_rest apart_rest⟩
      have mem_values := reordered.map_value_perm.mem_iff.mpr (List.mem_map_of_mem mem)
      obtain ⟨m, mem_rest, same⟩ := List.mem_map.mp mem_values
      exact same ▸ first m mem_rest
  | swap a b rest =>
      obtain ⟨first, inside_first, apart_rest⟩ := apartEverywhere_cons.mp apart
      obtain ⟨second, inside_second, apart_rest⟩ := apartEverywhere_cons.mp apart_rest
      obtain ⟨each, others⟩ := List.forall_mem_cons.mp first
      refine apartEverywhere_cons.mpr ⟨List.forall_mem_cons.mpr ⟨each.symm, second⟩, inside_second, ?_⟩
      exact apartEverywhere_cons.mpr ⟨others, inside_first, apart_rest⟩
  | trans _ _ ih_first ih_second => exact ih_second (ih_first apart)

/-! ## Exchanges of neighbours

An exchange asks for nothing but that the two neighbours are apart from each other. Other modules of
the same list may overlap them, as they do in a mixed scope. This is what makes exchanges fit for an
induction through mixed scopes, where `Tree.Reordered` would ask for too much.
-/

/-- Neighbours that are apart change places, at any level and any number of times. -/
inductive Rearranged : Scope → Scope → Prop
  | nil : Rearranged [] []
  | cons (b : Boundary) {inside inside' rest rest' : Scope} : Rearranged inside inside' →
      Rearranged rest rest' → Rearranged (.node b inside :: rest) (.node b inside' :: rest')
  | swap {m m' : CompiledModule} (rest : Scope) : m.value.Apart m'.value →
      Rearranged (m :: m' :: rest) (m' :: m :: rest)
  | trans {s t u : Scope} : Rearranged s t → Rearranged t u → Rearranged s u

/-- Where siblings do not overlap, every reordering is made of such exchanges. -/
theorem Tree.Reordered.rearranged (h : Reordered s t) (apart : ApartEverywhere s) :
    Rearranged s t := by
  induction h with
  | nil => exact .nil
  | cons b _ _ ih_inside ih_rest =>
      obtain ⟨-, apart_inside, apart_rest⟩ := apartEverywhere_cons.mp apart
      exact .cons b (ih_inside apart_inside) (ih_rest apart_rest)
  | swap a b rest => exact .swap rest ((apartEverywhere_cons.mp apart).1 b List.mem_cons_self)
  | trans first _ ih_first ih_second =>
      exact .trans (ih_first apart) (ih_second (apart.of_reordered first))

namespace Rearranged

theorem refl (s : Scope) : Rearranged s s := by
  induction s using Tree.forest_induction with
  | nil => exact nil
  | cons b inside rest ih_inside ih_rest => exact cons b ih_inside ih_rest

/-- One more module in front. -/
theorem behind (m : CompiledModule) (h : Rearranged s t) : Rearranged (m :: s) (m :: t) := by
  obtain ⟨b, inside⟩ := m
  exact cons b (refl inside) h

theorem append {s' t' : Scope} (first : Rearranged s t) (second : Rearranged s' t') :
    Rearranged (s ++ s') (t ++ t') := by
  have front (u : Scope) : Rearranged (u ++ s') (u ++ t') := by
    induction u with
    | nil => exact second
    | cons m rest ih => exact ih.behind m
  -- The exchanges in the first part leave the second part alone.
  have back (u : Scope) : Rearranged (s ++ u) (t ++ u) := by
    induction first with
    | nil => exact refl u
    | cons b inside _ _ ih => exact cons b inside ih
    | swap rest apart => exact swap (rest ++ u) apart
    | trans _ _ ih_first ih_second => exact ih_first.trans ih_second
  exact (back s').trans (front t)

theorem length_eq (h : Rearranged s t) : s.length = t.length := by
  induction h with
  | nil => rfl
  | cons _ _ _ _ ih => simp [ih]
  | swap => rfl
  | trans _ _ ih_first ih_second => exact ih_first.trans ih_second

theorem eq_nil_iff (h : Rearranged s t) : s = [] ↔ t = [] := by
  rw [← List.length_eq_zero_iff, ← List.length_eq_zero_iff, h.length_eq]

end Rearranged

/-! ## The judgement in a rearranged scope

The places at which modules stand change with their order, so the two judgements are compared by the
boundaries of the modules that they find (`judge_violation_congr`). What lies inside a located module,
and what lies beside it, is rearranged again.
-/

/-- Two located modules have the same boundary, and what is inside and what is beside them is
rearranged. -/
structure Located.Rearranged (l k : Located) : Prop where
  boundary : l.boundary = k.boundary
  inside : ImportBoundary.Rearranged l.inside k.inside
  beside : ImportBoundary.Rearranged (l.before ++ l.after) (k.before ++ k.after)

theorem Located.Rearranged.insideBeside {l k : Located} (h : l.Rearranged k) :
    ImportBoundary.Rearranged l.insideBeside k.insideBeside := by
  have mixed := h.inside.append h.beside
  rwa [← List.append_assoc, ← List.append_assoc] at mixed

/-- A module is found in a rearranged scope exactly if it was found before. -/
theorem locate_rearranged (h : Rearranged s t) (p : Path) :
    Option.Rel Located.Rearranged (locate p s) (locate p t) := by
  induction h with
  | nil => exact .none
  | @cons b inside inside' rest rest' inside_rearranged rest_rearranged _ ih =>
      by_cases holds : b.holds p
      · rw [locate_cons_of_holds (m := .node b inside) holds,
          locate_cons_of_holds (m := .node b inside') holds]
        exact .some ⟨rfl, inside_rearranged, rest_rearranged⟩
      · rw [locate_cons_of_not_holds (m := .node b inside) holds,
          locate_cons_of_not_holds (m := .node b inside') holds]
        rcases rel_iff.mp ih with ⟨found, found'⟩ | ⟨l, k, found, found', rearranged⟩
        · rw [found, found']
          exact .none
        · rw [found, found']
          exact .some ⟨rearranged.boundary, rearranged.inside, .cons b inside_rearranged rearranged.beside⟩
  | @swap m m' rest apart =>
      -- At most one of the two modules holds the path, so it is found before and after the exchange.
      by_cases holds : m.value.holds p
      · have not_holds' := apart.not_holds holds
        rw [locate_cons_of_holds holds, locate_cons_of_not_holds not_holds', locate_cons_of_holds holds]
        exact .some ⟨rfl, .refl _, .refl _⟩
      · by_cases holds' : m'.value.holds p
        · rw [locate_cons_of_not_holds holds, locate_cons_of_holds holds', locate_cons_of_holds holds']
          exact .some ⟨rfl, .refl _, .refl _⟩
        · rw [locate_cons_of_not_holds holds, locate_cons_of_not_holds holds',
            locate_cons_of_not_holds holds', locate_cons_of_not_holds holds]
          cases locate p rest with
          | none => exact .none
          | some l => exact .some ⟨rfl, .refl _, .swap _ apart⟩
  | trans _ _ ih_first ih_second =>
      rcases rel_iff.mp ih_first with ⟨found, found'⟩ | ⟨l, k, found, found', first⟩
      · rw [found'] at ih_second
        rcases rel_iff.mp ih_second with ⟨-, found''⟩ | ⟨k, _, absurd, -, -⟩
        · rw [found, found'']
          exact .none
        · cases absurd
      · rw [found'] at ih_second
        rcases rel_iff.mp ih_second with ⟨absurd, -⟩ | ⟨_, n, same, found'', second⟩
        · cases absurd
        · cases same
          rw [found, found'']
          exact .some ⟨first.boundary.trans second.boundary, first.inside.trans second.inside,
            first.beside.trans second.beside⟩

/-- An import has the same violation in a rearranged scope. -/
theorem judge_violation_of_rearranged (h : Rearranged s t) :
    (judge r s).violation = (judge r t).violation := by
  -- The judgement descends through `s`, and by `locate_rearranged` the one in `t` keeps step with it.
  induction s using scope_induction r.source generalizing t with
  | step s ih =>
      have target := locate_rearranged h r.target
      refine judge_violation_congr (rel_of_rel (locate_rearranged h r.source) ?_)
        (map_eq_map_of_rel target fun _ _ rearranged => rearranged.boundary)
      intro f g found _ rearranged
      obtain ⟨inside, insideBeside⟩ := ih f found
      exact {
        boundary := rearranged.boundary
        leaf := rearranged.inside.eq_nil_iff
        inside := inside rearranged.inside
        owned := isSome_eq_of_rel (locate_rearranged rearranged.insideBeside r.source)
        insideBeside := insideBeside rearranged.insideBeside }

/-- Where siblings do not overlap at any level, they may be reordered at every level: an edge has the same
violation as before, and its file is found in a module with the same boundary. Modules need not lie under
the one in which they are nested. -/
theorem edge_judged_in_any_order {forest forest' : Scope} (apart : ApartEverywhere forest)
    (reordered : Tree.Reordered forest forest') (e : Edge) {cell : Edge.Cell} (keeps : e.Keeps cell) :
    ((e.judge forest).run cell).1.violation = ((e.judge forest').run cell).1.violation ∧
      ((e.judge forest).run cell).1.source.map Tree.value =
        ((e.judge forest').run cell).1.source.map Tree.value := by
  have rearranged : Rearranged forest forest' := reordered.rearranged apart
  rw [(e.yields_judge forest).run_fst keeps, (e.yields_judge forest').run_fst keeps]
  refine ⟨judge_violation_of_rearranged rearranged, ?_⟩
  rw [judge_source, judge_source, Option.map_map, Option.map_map]
  exact map_eq_map_of_rel (locate_rearranged rearranged _) fun _ _ found => found.boundary

/-- A module that publishes the files that match the patterns. -/
def publishing (path : String) (interface : List Pattern) (children : Scope) : CompiledModule :=
  .node ⟨⟨path⟩, interface, [], .all, [], none⟩ children

/-- The application contains a part of the library, which lies outside of it and publishes nothing. Both
levels are reordered, and the file is still kept from importing the part. -/
theorem edge_judged_in_any_order_straying :
    let e : Edge := ⟨"src/app/ui/page.ts", "../../lib/core/list", ⟨"."⟩⟩
    let ui := publishing "src/app/ui" [] []
    let core := publishing "src/lib/core" [] []
    let lib := publishing "src/lib" [⟨"", .empty⟩] []
    let forest := [publishing "src/app" [] [ui, core], lib]
    let forest' := [lib, publishing "src/app" [] [core, ui]]
    ApartEverywhere forest ∧ Tree.Reordered forest forest' ∧ e.Keeps none ∧
      ((e.judge forest).run none).1.violation =
        some ⟨.privateImplementation, none, some ⟨"src/lib/core"⟩, none⟩ ∧
      ((e.judge forest).run none).1.violation = ((e.judge forest').run none).1.violation := by
  intro e ui core lib forest forest'
  have apart : ApartEverywhere forest := by decide +kernel
  have inner : Tree.Reordered forest [publishing "src/app" [] [core, ui], lib] :=
    .cons _ (.swap ui core []) (.cons _ .nil .nil)
  have reordered : Tree.Reordered forest forest' := inner.trans (.swap _ lib [])
  refine ⟨apart, reordered, e.keeps_none, by decide +kernel, ?_⟩
  exact (edge_judged_in_any_order apart reordered e e.keeps_none).1

end ImportBoundary
