import ImportBoundary.Proofs.Module.Compilation
import ImportBoundary.Proofs.Path.Within

/-!
# The files of a module

A module is declared with a directory in any spelling. What is compiled from it holds the paths of the
repository that are the directory or lie below it, in terms of segments, unless the directory is the
root of the repository: then it holds the root and nothing below it (`ModuleDeclaration.Owns`). Among
siblings, at every depth, the first one declared that owns a path is the one that is found
(`module_of_directory`).
-/

namespace ImportBoundary

/-- The path is in the declared directory. The root of the repository has nothing but itself. -/
structure ModuleDeclaration.Owns (d : ModuleDeclaration) (p : Path) : Prop where
  below : p.Below (Path.normalize d.path)
  root : Path.normalize d.path = Path.root → p = Path.root

instance (d : ModuleDeclaration) (p : Path) : Decidable (d.Owns p) :=
  decidable_of_iff (p.Below (Path.normalize d.path) ∧
    (Path.normalize d.path = Path.root → p = Path.root)) ⟨fun h => ⟨h.1, h.2⟩, fun h => ⟨h.1, h.2⟩⟩

variable {compile : PatternCompiler} {p dir : Path}

namespace Path

theorem eq_root_iff : p = root ↔ p.text = "." := by
  have spelled : root.text = "." := by decide +kernel
  rw [← spelled]
  constructor
  · rintro rfl
    rfl
  · intro same
    exact congrArg Path.mk same

/-- Under the text of the root of the repository is nothing but the root. -/
theorem isUnder_here_iff (hp : Canonical p.toList) : isUnder p.text "." ↔ p.text = "." := by
  constructor
  · intro under
    obtain ⟨tail, whole, goes⟩ := isUnder_iff.mp under
    change p.toList = ['.'] ++ tail at whole
    cases tail with
    | nil => exact String.toList_inj.mp whole
    | cons c rest =>
        -- The first segment would be `.`, which is no segment of a canonical path.
        rw [continues_cons.mp goes] at whole
        have relative : ¬ p.isAbsolute := by
          simp [isAbsolute, whole]
        have ne : p.segments ≠ [] := by
          intro none
          have here := (segments_eq_nil_iff hp relative).mp none
          rw [toList, here] at whole
          cases whole
        have parts := pieces_toList hp ne
        rw [whole, pieces_append, Bool.eq_false_iff.mpr relative, if_neg Bool.false_ne_true,
          List.nil_append] at parts
        have mem : ['.'] ∈ p.segments := by
          rw [← parts]
          apply List.mem_append_left
          decide
        exact absurd rfl (plain_and_ne_here_of_mem_segments mem).2
  · intro here
    rw [here]
    decide

/-- A path of the repository is under a directory if it is below it, and the directory is not the
root. -/
theorem isUnder_iff_below (hp : Canonical p.toList) (inside : p.Inside) (hd : Canonical dir.toList) :
    isUnder p.text dir.text ↔ p.Below dir ∧ (dir = root → p = root) := by
  have stays := up_not_mem_segments hp inside
  -- A directory with segments is compared by these. The two roots have none: a path of the repository
  -- is not below that of the disk, and under that of the repository is nothing else.
  by_cases none : dir.segments = []
  · by_cases absolute : dir.isAbsolute
    · have apart : ¬ p.Below dir := fun below => inside.relative (below.1 ▸ absolute)
      rw [isUnder_top_iff hp hd absolute none]
      constructor
      · rintro rfl
        exact absurd absolute inside.relative
      · rintro ⟨below, -⟩
        exact absurd below apart
    · have here : dir = root := eq_root_iff.mpr ((segments_eq_nil_iff hd absolute).mp none)
      have below : p.Below dir := by
        refine ⟨?_, none ▸ liesIn_nil stays⟩
        rw [Bool.eq_false_iff.mpr inside.relative, Bool.eq_false_iff.mpr absolute]
      rw [eq_root_iff.mp here, isUnder_here_iff hp, ← eq_root_iff]
      constructor
      · intro same
        exact ⟨below, fun _ => same⟩
      · rintro ⟨-, only⟩
        exact only here
  · have other : dir ≠ root := by
      intro here
      exact none ((text_eq_here_iff hd).mp (eq_root_iff.mp here)).2
    have only : dir = root → p = root := fun here => absurd here other
    rw [ isUnder_iff_prefix hp hd none, ← liesIn_iff_prefix stays, and_iff_left only]
    rfl

end Path

/-- A compiled module holds the paths of the repository that the declaration owns. -/
theorem holds_iff_owns {d : ModuleDeclaration} {b : Boundary} (compiled : d.compile compile = .ok b)
    (hp : Path.Canonical p.toList) (inside : p.Inside) : b.holds p ↔ d.Owns p := by
  have spec := ModuleDeclaration.compile_eq_ok_iff.mp compiled
  rw [Boundary.holds, spec.path, Path.isUnder_iff_below hp inside (Path.canonical_normalize d.path)]
  exact ⟨fun h => ⟨h.1, h.2⟩, fun h => ⟨h.below, h.root⟩⟩

/-! ## Levels of a forest

Modules are found among siblings, and a compiled forest has the same lists of siblings as the
declarations, compiled one by one.
-/

namespace Tree

universe u v

variable {α : Type u} {β : Type v} {R : α → β → Prop} {s : List (Tree α)} {t level : List (Tree β)}

/-- Every list of siblings in a forest has its counterpart in an alike forest. -/
theorem Alike.exists_level (h : Alike R s t) (mem : level ∈ levels t) :
    ∃ origin ∈ levels s, Alike R origin level := by
  have nested : ∀ level ∈ levelsInside t, ∃ origin ∈ levelsInside s, Alike R origin level := by
    clear mem
    induction h with
    | nil => exact nofun
    | @cons a b inside rest inside' rest' related alike _ ih_inside ih_rest =>
        intro level mem
        rw [levelsInside, List.mem_append, levelsBelow, List.mem_cons] at mem
        rw [levelsInside, levelsBelow]
        rcases mem with (rfl | mem) | mem
        · exact ⟨inside, List.mem_append_left _ List.mem_cons_self, alike⟩
        · obtain ⟨origin, found, alike⟩ := ih_inside level mem
          exact ⟨origin, List.mem_append_left _ (List.mem_cons_of_mem _ found), alike⟩
        · obtain ⟨origin, found, alike⟩ := ih_rest level mem
          exact ⟨origin, List.mem_append_right _ found, alike⟩
  rcases List.mem_cons.mp mem with rfl | mem
  · exact ⟨s, mem_levels_self s, h⟩
  · obtain ⟨origin, found, alike⟩ := nested level mem
    exact ⟨origin, List.mem_cons_of_mem _ found, alike⟩

end Tree

/-! ## The first module

Which module is found is said by a place in the list of declarations, where nothing is compiled. Two
declarations of the same directory may stand side by side, and then the second one is never found.
-/

/-- The module of a path stands where the first declaration stands that owns the path. -/
theorem place_locate {forest : List DeclaredModule} {scope : Scope}
    (compiled : compileModules compile forest = .ok scope) (hp : Path.Canonical p.toList)
    (inside : p.Inside) :
    (locate p scope).map Located.place = forest.findIdx? fun m => m.value.Owns p := by
  rw [compileModules, Tree.traverse_eq_ok_iff] at compiled
  induction compiled with
  | nil => rfl
  | @cons d b _ _ below _ related _ _ _ ih =>
      have owns : (Tree.node b below).value.holds p ↔ d.Owns p := holds_iff_owns related hp inside
      rw [List.findIdx?_cons, Tree.value_node]
      by_cases holds : (Tree.node b below).value.holds p
      · rw [locate_cons_of_holds holds, decide_eq_true (owns.mp holds), if_pos rfl]
        rfl
      · rw [locate_cons_of_not_holds holds, decide_eq_false (mt owns.mpr holds),
          if_neg Bool.false_ne_true, ← ih, Option.map_map, Option.map_map]
        rfl

/-- The declared directory decides which paths of the repository a module holds, whatever its spelling,
and the first module that owns a path is found, among siblings at every depth of a forest. For a
directory other than the root of the repository, owning is being below it. -/
theorem module_of_directory (compile : PatternCompiler) {p : Path} (hp : Path.Canonical p.toList)
    (inside : p.Inside) :
    (∀ d b, ModuleDeclaration.compile compile d = .ok b →
      (b.holds p ↔ d.Owns p) ∧
        (Path.normalize d.path ≠ Path.root →
          (b.holds p ↔ p.Below (Path.normalize d.path)))) ∧
    ∀ forest scope, compileModules compile forest = .ok scope →
      (∀ l, locate p scope = some l ↔ l.scope = scope ∧
        (forest.findIdx? fun m => m.value.Owns p) = some l.place) ∧
      (locate p scope = none ↔ ∀ m ∈ forest, ¬ m.value.Owns p) ∧
      ∀ level ∈ Tree.levels scope, ∃ declared ∈ Tree.levels forest,
        compileModules compile declared = .ok level := by
  refine ⟨fun d b compiled => ?_, fun forest scope compiled => ?_⟩
  · have owns := holds_iff_owns compiled hp inside
    refine ⟨owns, fun other => owns.trans ⟨fun h => h.below, fun below => ⟨below, ?_⟩⟩⟩
    exact fun here => absurd here other
  · have place := place_locate compiled hp inside
    refine ⟨fun l => ?_, ?_, fun level mem => ?_⟩
    · rw [← place]
      constructor
      · intro found
        rw [found]
        exact ⟨scope_of_locate found, rfl⟩
      · rintro ⟨same, at_place⟩
        obtain ⟨k, found, same_place⟩ := Option.map_eq_some_iff.mp at_place
        rw [found, Located.eq_of_place ((scope_of_locate found).trans same.symm) same_place]
    · rw [← Option.map_eq_none_iff (f := Located.place), place, List.findIdx?_eq_none_iff]
      simp
    · rw [compileModules, Tree.traverse_eq_ok_iff] at compiled
      obtain ⟨declared, found, alike⟩ := compiled.exists_level mem
      exact ⟨declared, found, Tree.traverse_eq_ok_iff.mpr alike⟩

/-- Directories in several spellings. -/
def spelledModules : List DeclaredModule :=
  [.node { path := "./lib//" } [.node { path := "lib\\core" } []],
    .node { path := "lib/../src/" } [], .node { path := "src/app" } []]

/-- A file that two of the modules own belongs to the first of them. -/
theorem module_of_directory_spelled :
    let p := Path.normalize "src\\app//main.ts"
    let d : ModuleDeclaration := { path := "lib/../src/" }
    Path.Canonical p.toList ∧ p.Inside ∧
      (∃ b, d.compile Pattern.compile = .ok b ∧ Path.normalize d.path ≠ Path.root ∧ b.holds p) ∧
      ∃ scope, compileModules Pattern.compile spelledModules = .ok scope ∧
        ∃ l, locate p scope = some l ∧ l.place = 1 := by
  intro p d
  have hp : Path.Canonical p.toList := Path.canonical_normalize _
  have inside : p.Inside := by decide +kernel
  obtain ⟨scope, compiled⟩ : ∃ scope, compileModules Pattern.compile spelledModules = .ok scope :=
    ⟨_, rfl⟩
  obtain ⟨holds_iff, located⟩ := module_of_directory Pattern.compile hp inside
  obtain ⟨finds, missing, -⟩ := located spelledModules scope compiled
  have other : Path.normalize d.path ≠ Path.root := by decide +kernel
  have below : p.Below (Path.normalize d.path) := by decide +kernel
  have first : (spelledModules.findIdx? fun m => m.value.Owns p) = some 1 := by decide +kernel
  refine ⟨hp, inside, ⟨_, rfl, other, ((holds_iff d _ rfl).2 other).mpr below⟩, scope, compiled, ?_⟩
  cases found : locate p scope with
  | none =>
      have nobody := List.findIdx?_eq_none_iff.mpr fun m mem => decide_eq_false (missing.mp found m mem)
      rw [first] at nobody
      cases nobody
  | some l =>
      have place := ((finds l).mp found).2
      rw [first] at place
      exact ⟨l, rfl, (Option.some.inj place).symm⟩

/-- A module whose directory is the root of the repository holds none of the files below it, however
the root is spelled. -/
theorem root_module_holds_nothing :
    let p := Path.normalize "src/main.ts"
    Path.Canonical p.toList ∧ p.Inside ∧ ∀ spelling ∈ ["", ".", "./", "a/.."],
      p.Below (Path.normalize spelling) ∧
        ∃ b rest, compileModules Pattern.compile [.node { path := spelling } []] = .ok [.node b rest] ∧
          ¬ b.holds p ∧ locate p [.node b rest] = none := by
  intro p
  have hp : Path.Canonical p.toList := Path.canonical_normalize _
  refine ⟨hp, by decide +kernel, fun spelling mem => ⟨?_, _, _, rfl, ?_, ?_⟩⟩
  · revert spelling
    decide +kernel
  · revert spelling
    decide +kernel
  · rw [locate_eq_none_iff]
    revert spelling
    decide +kernel

end ImportBoundary
