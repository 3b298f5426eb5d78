import Mathlib.Logic.Relation
import ImportBoundary.Proofs.Edge.Cell
import ImportBoundary.Proofs.Judgement.Course

/-!
# Modules that an import has nothing to do with

The rules of a module that holds neither end of an import do not matter to it: such a module may be
exchanged for any other one that holds neither end, at any depth and as often as one likes
(`edge_judged_alike`). Nor do the modules matter that are nested in one which leaves the importing file
out (`judge_violation_of_inside_unseen`).

What carries the proof is a relation between scopes, `Agree`, that leaves open all that an import does
not look at. In scopes that agree the ends are located at the same places, and the scopes into which the
judgement goes on from there agree again.
-/

namespace ImportBoundary

variable {r : Route} {s t : Scope}

/-! ## Scopes that agree

Agreement is kept by what the judgement does with a scope. The mixed scope is made of the inside of a
located module and of what stands before and behind it, and `locate_agree` gives agreement for each of
the three, the inside only if the module holds the importing file. It does, since it is the module in
which the file was located.
-/

/-- The module holds neither end of the import. -/
structure Boundary.Uninvolved (b : Boundary) (r : Route) : Prop where
  source : ¬ b.holds r.source
  target : ¬ b.holds r.target

/-- Two scopes agree on everything that the import looks at. They may differ in modules that hold neither
end, and in what is nested in a module that does not hold the importing file. -/
inductive Agree (r : Route) : Scope → Scope → Prop
  | nil : Agree r [] []
  | kept {b : Boundary} {inside inside' rest rest' : Scope} :
      (b.holds r.source → Agree r inside inside') → Agree r rest rest' →
      Agree r (.node b inside :: rest) (.node b inside' :: rest')
  | exchanged {m m' : CompiledModule} {rest rest' : Scope} : m.value.Uninvolved r →
      m'.value.Uninvolved r → Agree r rest rest' → Agree r (m :: rest) (m' :: rest')

namespace Agree

variable {s' t' : Scope}

theorem refl (r : Route) (s : Scope) : Agree r s s := by
  induction s using Tree.forest_induction with
  | nil => exact nil
  | cons v children rest ih_children ih_rest => exact kept (fun _ => ih_children) ih_rest

theorem append (first : Agree r s t) (second : Agree r s' t') : Agree r (s ++ s') (t ++ t') := by
  induction first with
  | nil => exact second
  | kept inside _ _ ih => exact kept inside ih
  | exchanged old new _ ih => exact exchanged old new ih

theorem length_eq (h : Agree r s t) : s.length = t.length := by
  induction h with
  | nil => rfl
  | kept _ _ _ ih => simp [ih]
  | exchanged _ _ _ ih => simp [ih]

theorem eq_nil_iff (h : Agree r s t) : s = [] ↔ t = [] := by
  rw [← List.length_eq_zero_iff, ← List.length_eq_zero_iff, h.length_eq]

end Agree

/-- Two located modules have the same boundary, and what stands before and after them agrees, and what
stands inside them as well if they hold the importing file. -/
structure Located.Agree (r : Route) (l k : Located) : Prop where
  boundary : l.boundary = k.boundary
  inside : l.boundary.holds r.source → ImportBoundary.Agree r l.inside k.inside
  before : ImportBoundary.Agree r l.before k.before
  after : ImportBoundary.Agree r l.after k.after

/-- In scopes that agree either end is located at the same place, or in neither of them. -/
theorem locate_agree (h : Agree r s t) {p : Path} (isEnd : p = r.source ∨ p = r.target) :
    Option.Rel (Located.Agree r) (locate p s) (locate p t) := by
  induction h with
  | nil => exact .none
  | @kept b inside inside' rest rest' agree_inside agree_rest _ ih =>
      by_cases holds : b.holds p
      · rw [locate_cons_of_holds (m := .node b inside) holds,
          locate_cons_of_holds (m := .node b inside') holds]
        exact .some ⟨rfl, agree_inside, .nil, agree_rest⟩
      · rw [locate_cons_of_not_holds (m := .node b inside) holds,
          locate_cons_of_not_holds (m := .node b inside') holds]
        rcases rel_iff.mp ih with ⟨found, found'⟩ | ⟨l, k, found, found', agree⟩
        · rw [found, found']
          exact .none
        · rw [found, found']
          exact .some ⟨agree.boundary, agree.inside, .kept agree_inside agree.before, agree.after⟩
  | @exchanged m m' rest rest' old new agree_rest ih =>
      -- The search for either end passes both modules.
      have not_holds {n : CompiledModule} (uninvolved : n.value.Uninvolved r) : ¬ n.value.holds p := by
        rcases isEnd with rfl | rfl
        · exact uninvolved.source
        · exact uninvolved.target
      rw [locate_cons_of_not_holds (not_holds old), locate_cons_of_not_holds (not_holds new)]
      rcases rel_iff.mp ih with ⟨found, found'⟩ | ⟨l, k, found, found', agree⟩
      · rw [found, found']
        exact .none
      · rw [found, found']
        exact .some ⟨agree.boundary, agree.inside, .exchanged old new agree.before, agree.after⟩

/-- An import has the same violation in scopes that agree. -/
theorem judge_violation_of_agree (h : Agree r s t) :
    (judge r s).violation = (judge r t).violation := by
  -- The judgement descends through `s`; by `locate_agree` the judgement in `t` keeps step with it.
  induction s using scope_induction r.source generalizing t with
  | step s ih =>
      have source := locate_agree h (Or.inl rfl)
      have target := locate_agree h (Or.inr rfl)
      refine judge_violation_congr (rel_of_rel source ?_)
        (map_eq_map_of_rel target fun _ _ agree => agree.boundary)
      intro f g found _ agree
      have inside : Agree r f.inside g.inside := agree.inside (holds_of_locate found)
      have mixed : Agree r f.insideBeside g.insideBeside :=
        (inside.append agree.before).append agree.after
      exact {
        boundary := agree.boundary
        leaf := inside.eq_nil_iff
        inside := (ih f found).1 inside
        owned := isSome_eq_of_rel (locate_agree mixed (Or.inl rfl))
        insideBeside := (ih f found).2 mixed }

/-- The importing file is found in a module with the same boundary. -/
theorem judge_source_of_agree (h : Agree r s t) :
    (judge r s).source.map Tree.value = (judge r t).source.map Tree.value := by
  rw [judge_source, judge_source, Option.map_map, Option.map_map]
  exact map_eq_map_of_rel (locate_agree h (Or.inl rfl)) fun _ _ agree => agree.boundary

/-- What is nested in a module that leaves the importing file out does not matter. -/
theorem judge_violation_of_inside_unseen {b : Boundary} (unseen : ¬ b.holds r.source)
    (before after inside inside' : Scope) :
    (judge r (before ++ .node b inside :: after)).violation =
      (judge r (before ++ .node b inside' :: after)).violation := by
  have here : Agree r (.node b inside :: after) (.node b inside' :: after) :=
    .kept (fun holds => absurd holds unseen) (.refl r after)
  exact judge_violation_of_agree ((Agree.refl r before).append here)

/-! ## Exchanging modules

One exchange concerns one module, at whatever depth. Scopes before and after it agree, and exchanges
are repeated by the reflexive and transitive closure.
-/

/-- A module that holds neither end is exchanged for another one that holds neither end, at the top of the
scope or inside one of its modules. -/
inductive Exchange (r : Route) : Scope → Scope → Prop
  | here (before after : Scope) {m m' : CompiledModule} : m.value.Uninvolved r →
      m'.value.Uninvolved r → Exchange r (before ++ m :: after) (before ++ m' :: after)
  | inside (before after : Scope) {b : Boundary} {children children' : Scope} :
      Exchange r children children' →
      Exchange r (before ++ .node b children :: after) (before ++ .node b children' :: after)

theorem Exchange.agree (h : Exchange r s t) : Agree r s t := by
  induction h with
  | here before after old new =>
      exact (Agree.refl r before).append (.exchanged old new (.refl r after))
  | inside before after _ ih =>
      exact (Agree.refl r before).append (.kept (fun _ => ih) (.refl r after))

/-- Modules that hold neither end of an edge may be exchanged for others that hold neither end, at any
depth and any number of times: the edge has the same violation as before, and its file is found in a module
with the same boundary. -/
theorem edge_judged_alike (e : Edge) {forest forest' : Scope}
    (exchanged : Relation.ReflTransGen (Exchange e.route) forest forest') {cell : Edge.Cell}
    (keeps : e.Keeps cell) :
    ((e.judge forest).run cell).1.violation = ((e.judge forest').run cell).1.violation ∧
      ((e.judge forest).run cell).1.source.map Tree.value =
        ((e.judge forest').run cell).1.source.map Tree.value := by
  induction exchanged with
  | refl => exact ⟨rfl, rfl⟩
  | @tail middle last _ exchange ih =>
      have violation := judge_violation_of_agree exchange.agree
      have source := judge_source_of_agree exchange.agree
      rw [← (e.yields_judge middle).run_fst keeps, ← (e.yields_judge last).run_fst keeps]
        at violation source
      exact ⟨ih.1.trans violation, ih.2.trans source⟩

/-- A module that publishes nothing, depends on nothing and allows no externals. -/
def closedModule (path : String) (children : Scope) : CompiledModule :=
  .node ⟨⟨path⟩, [], [], .only [], [], none⟩ children

/-- An application with a user interface, and a library that publishes its files. One module stands beside
the user interface, another one beside the application. -/
def withUninvolved (inner beside : CompiledModule) : Scope :=
  [beside,
    .node ⟨⟨"src/app"⟩, [], [], .all, [], none⟩ [inner, closedModule "src/app/ui" []],
    .node ⟨⟨"src/lib"⟩, [⟨"", .empty⟩], [], .all, [], none⟩ []]

/-- Both modules are exchanged, the inner one for a module with a nested one. Before and after that, the
library is no dependency of the user interface. -/
theorem edge_judged_alike_nested :
    let e : Edge := ⟨"src/app/ui/page.ts", "../../lib/index", ⟨"."⟩⟩
    let old := withUninvolved (closedModule "src/app/old" []) (closedModule "tools" [])
    let new := withUninvolved (closedModule "src/app/u" [closedModule "src/app/u/i" []])
      (closedModule "src/library" [])
    Relation.ReflTransGen (Exchange e.route) old new ∧ e.Keeps none ∧
      ((e.judge old).run none).1.violation =
        some ⟨.notADependency, some ⟨"src/app/ui"⟩, some ⟨"src/lib"⟩, none⟩ ∧
      ((e.judge new).run none).1.violation = ((e.judge old).run none).1.violation := by
  intro e old new
  have beside : Exchange e.route old
      (withUninvolved (closedModule "src/app/old" []) (closedModule "src/library" [])) :=
    .here [] _ ⟨by decide +kernel, by decide +kernel⟩ ⟨by decide +kernel, by decide +kernel⟩
  have inner : Exchange e.route
      (withUninvolved (closedModule "src/app/old" []) (closedModule "src/library" [])) new := by
    refine .inside [closedModule "src/library" []] _ (.here [] _ ?_ ?_)
    · exact ⟨by decide +kernel, by decide +kernel⟩
    · exact ⟨by decide +kernel, by decide +kernel⟩
  have exchanged : Relation.ReflTransGen (Exchange e.route) old new := .tail (.single beside) inner
  refine ⟨exchanged, e.keeps_none, by decide +kernel, ?_⟩
  exact (edge_judged_alike e exchanged e.keeps_none).1.symm

end ImportBoundary
