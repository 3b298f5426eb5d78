import ImportBoundary.Proofs.Edge.Cell

/-!
# Whose rules an import meets

Where an import breaks a dependency or an external rule, the rule is that of a module which holds the
importing file: the violation is its objection (`Boundary.Objects`). As long as siblings do not overlap
this module is the file's owner, the one that `locate` finds, or it is nested in the owner.

Where siblings overlap, the owner is the one that was declared first, but it does not always answer
for the file. If it has nested modules, the judgement goes on in the scope inside it and beside it, and
a sibling behind it that holds the file as well may be found there (`Located.MayAnswer`,
`exists_objects`).
-/

namespace ImportBoundary

/-! ## Values of a tree

`Tree.values` lists the boundaries of a module and of everything nested in it. The module that is
blamed is one of these for the owner of the file, or for a sibling behind the owner.
-/

namespace Tree

universe u

variable {α : Type u}

theorem value_mem_values (t : Tree α) : t.value ∈ t.values := by
  cases t
  exact List.mem_cons_self

theorem mem_forestValues {forest : List (Tree α)} {v : α} :
    v ∈ forestValues forest ↔ ∃ t ∈ forest, v ∈ t.values := by
  induction forest with
  | nil => simp [forestValues]
  | cons t rest ih => simp [forestValues, ih]

/-- The values of a nested tree are values of the tree around it. -/
theorem mem_values_of_mem_children {t inner : Tree α} {v : α} (mem : inner ∈ t.children)
    (h : v ∈ inner.values) : v ∈ t.values := by
  cases t with
  | node value children => exact List.mem_cons_of_mem _ (mem_forestValues.mpr ⟨inner, mem, h⟩)

end Tree

/-! ## The module that objects

Only the source side is treated here. A violation on the side of the destination names no source
module, so the statements exclude that kind.

The proof follows the steps of the judgement (`Finds`). Two of them hand on what was found in a smaller
scope. Inside a module that holds both ends, whatever objects is nested in that module. In the mixed
scope of the source side it may also be one of the siblings, and then it stands behind the owner,
because a sibling before the owner that holds the file would have been the owner.
-/

namespace Boundary

/-- The module holds the importing file, and the violation is what its own dependencies and
externals make of the import. -/
structure Objects (b : Boundary) (r : Route) (v : Violation) : Prop where
  holds : b.holds r.source
  outbound : ∃ target, b.outbound target r = some v

variable {b : Boundary} {r : Route} {v : Violation}

theorem source_note_of_outbound {target : Option Boundary} (h : b.outbound target r = some v) :
    v.sourceModule = some b.path ∧ v.note = b.note := by
  unfold outbound at h
  split at h <;> split at h <;> cases h <;> exact ⟨rfl, rfl⟩

/-- The violation names the module that objects, and carries its note. -/
theorem Objects.source_note (h : b.Objects r v) :
    v.sourceModule = some b.path ∧ v.note = b.note :=
  source_note_of_outbound h.outbound.choose_spec

end Boundary

/-- The modules that may answer for a file with a given owner: the owner itself, and, if it has nested
modules, the siblings behind it that hold the file as well. -/
inductive Located.MayAnswer (owner : Located) (p : Path) (m : CompiledModule) : Prop
  | owner : m = owner.module → owner.MayAnswer p m
  | sibling : owner.inside ≠ [] → m ∈ owner.after → m.value.holds p → owner.MayAnswer p m

variable {r : Route} {scope : Scope} {v : Violation}

/-- A module that may answer for a file is one of the scope, and it holds the file. -/
theorem Located.MayAnswer.mem_and_holds {owner : Located} {p : Path} {m : CompiledModule}
    (h : owner.MayAnswer p m) (found : locate p scope = some owner) :
    m ∈ scope ∧ m.value.holds p := by
  cases h with
  | owner same => exact same ▸ ⟨mem_of_locate found, holds_of_locate found⟩
  | sibling _ mem holds =>
      rw [← scope_of_locate found]
      exact ⟨List.mem_append_right _ (List.mem_cons_of_mem _ mem), holds⟩

/-- A violation on the source side is the objection of a module that may answer for the importing file,
or of a module nested in it. -/
theorem exists_objects (h : (judge r scope).violation = some v)
    (outbound : v.kind ≠ .privateImplementation) :
    ∃ owner, locate r.source scope = some owner ∧
      ∃ m, owner.MayAnswer r.source m ∧ ∃ b ∈ m.values, b.Objects r v := by
  -- The violation may come from a smaller scope. What is found inside the owner is nested in it; a
  -- module beside the owner that answers in the mixed scope is a sibling that holds the file.
  induction scope using scope_induction r.source with
  | step scope ih =>
      cases judge_violation_eq_some_iff.mp h with
      | refused _ _ _ found =>
          subst found
          exact absurd rfl outbound
      | @common f _ source _ _ found =>
          obtain ⟨owner, located, m, answers, b, mem_values, objects⟩ := (ih f source).1 found
          obtain ⟨mem, -⟩ := answers.mem_and_holds located
          exact ⟨f, source, f.module, .owner rfl, b,
            Tree.mem_values_of_mem_children mem mem_values, objects⟩
      | @nested f source _ inside _ found =>
          obtain ⟨owner, located, m, answers, b, mem_values, objects⟩ := (ih f source).2 found
          obtain ⟨mem, holds⟩ := answers.mem_and_holds located
          rcases Located.mem_insideBeside.mp mem with mem | mem
          · exact ⟨f, source, f.module, .owner rfl, b,
              Tree.mem_values_of_mem_children mem mem_values, objects⟩
          · rcases List.mem_append.mp mem with before | after
            · exact absurd holds (not_holds_before_of_locate source m before)
            · exact ⟨f, source, m, .sibling inside after holds, b, mem_values, objects⟩
      | @own f source _ _ found =>
          exact ⟨f, source, f.module, .owner rfl, f.boundary, f.module.value_mem_values,
            holds_of_locate source, _, found⟩

/-- Where no sibling behind the owner holds the importing file, the owner or a module nested in it
objects. -/
theorem Located.MayAnswer.eq_module {owner : Located} {p : Path} {m : CompiledModule}
    (h : owner.MayAnswer p m) (sole : ∀ s ∈ owner.after, ¬ s.value.holds p) : m = owner.module := by
  cases h with
  | owner same => exact same
  | sibling _ mem holds => exact absurd holds (sole m mem)

/-- A violation of a dependency or an external rule is blamed on a module that holds the importing file
and lies in the file's owner, or else in a sibling behind the owner which holds the file as well; the
sibling is asked only if the owner has nested modules. Where no such sibling holds the file, the owner
or a module nested in it is blamed. -/
theorem edge_blames (e : Edge) {cell : Edge.Cell} (keeps : e.Keeps cell)
    (found : ((e.judge scope).run cell).1.violation = some v)
    (outbound : v.kind ≠ .privateImplementation) :
    ∃ owner, locate e.source scope = some owner ∧
      ∃ m, owner.MayAnswer e.source m ∧
        ((∀ s ∈ owner.after, ¬ s.value.holds e.source) → m = owner.module) ∧
        ∃ b ∈ m.values, b.Objects e.route v ∧ v.sourceModule = some b.path ∧ v.note = b.note := by
  rw [(e.yields_judge scope).run_fst keeps] at found
  obtain ⟨owner, located, m, answers, b, mem, objects⟩ := exists_objects found outbound
  exact ⟨owner, located, m, answers, answers.eq_module, b, mem, objects, objects.source_note⟩

/-- Two siblings of which the second lies under the first one. The first has a nested module
elsewhere, and the second allows no externals. -/
def overlapping : Scope :=
  [.node ⟨⟨"src"⟩, [], [], .all, [], none⟩ [.node ⟨⟨"src/x"⟩, [], [], .all, [], none⟩ []],
    .node ⟨⟨"src/a"⟩, [], [], .only [], [], none⟩ []]

/-- An import of a package, which no module holds. -/
def packageImport : Edge := ⟨"src/a/f.ts", "lodash", ⟨"."⟩⟩

/-- The first sibling owns the file and allows all externals, but the second one is blamed, which is
not nested in the owner. -/
theorem overlapping_sibling_blamed :
    let v : Violation := ⟨.invalidExternal, some ⟨"src/a"⟩, none, none⟩
    ((packageImport.judge overlapping).run none).1.violation = some v ∧
      ∃ owner, locate packageImport.source overlapping = some owner ∧
        ∀ b ∈ owner.module.values, v.sourceModule ≠ some b.path := by
  refine ⟨by decide +kernel, ?_⟩
  exact ⟨_, locate_cons_of_holds (by decide +kernel), by decide +kernel⟩

/-- The sibling behind the owner answers for the file. -/
theorem edge_blames_overlapping :
    packageImport.Keeps none ∧
      ∃ owner, locate packageImport.source overlapping = some owner ∧
        ∃ m, owner.MayAnswer packageImport.source m ∧ ∃ b ∈ m.values, b.path = ⟨"src/a"⟩ := by
  have found : ((packageImport.judge overlapping).run none).1.violation =
      some ⟨.invalidExternal, some ⟨"src/a"⟩, none, none⟩ := by decide +kernel
  obtain ⟨owner, located, m, answers, -, b, mem, -, source, -⟩ :=
    edge_blames packageImport packageImport.keeps_none found (by decide)
  exact ⟨packageImport.keeps_none, owner, located, m, answers, b, mem,
    (Option.some.inj source).symm⟩

end ImportBoundary
