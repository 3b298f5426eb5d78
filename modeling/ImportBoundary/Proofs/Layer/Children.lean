import ImportBoundary.Layer.Rule
import ImportBoundary.Proofs.Path.Segments

/-!
# Imports within a directory

A layer rule that allows children lets a file import what lies in the directory of the file, and
what has a directory in which the file lies. Apart from two slips this is a question of the segments
of the two paths (`LayerRule.allows_within`), so that it does not matter how the import is spelled,
nor where the two lie together. The slips concern the top of the repository. A destination there has
no directory, not even the root, and counts only if the import starts with a dot. And a destination
whose name starts with two dots is not seen to lie in the root.
-/

namespace ImportBoundary

namespace Edge

/-- Both ends of the edge are in the repository. -/
structure Inside (e : Edge) : Prop where
  source : e.source.Inside
  target : e.target.Inside

/-- One of the two ends lies in the directory of the other. -/
def Related (e : Edge) : Prop :=
  e.target.LiesIn e.source.folder ∨ e.source.LiesIn e.target.folder

/-- Both ends of another edge lie deeper by the same segments. -/
structure Shifted (e : Edge) (shift : List Path.Segment) (e' : Edge) : Prop where
  source : e'.source.segments = shift ++ e.source.segments
  target : e'.target.segments = shift ++ e.target.segments

/-- The destination has a directory other than the root, and if the directory of the file is the
root, the destination does not start with two dots. -/
structure Clear (e : Edge) : Prop where
  below : e.target.folder ≠ []
  undotted : e.source.folder = [] → ¬ e.target.Dotted

end Edge

namespace LayerRule

/-- What the rule says about an edge depends on directories only: it allows children, and the
destination is neither in the layer itself nor one of the paths that may be imported. -/
structure ByDirectory (rule : LayerRule) (e : Edge) : Prop where
  children : rule.allowChildren
  foreign : ¬ rule.ownLayer e.target.text
  closed : ¬ Pattern.anyAccepts rule.target e.target.text

end LayerRule

variable {e e' : Edge} {rule rule' : LayerRule} {shift : List Path.Segment}

instance : Decidable e.Related :=
  inferInstanceAs (Decidable (e.target.LiesIn e.source.folder ∨ e.source.LiesIn e.target.folder))

instance : Decidable e.Inside :=
  decidable_of_iff (e.source.Inside ∧ e.target.Inside) ⟨fun h => ⟨h.1, h.2⟩, fun h => ⟨h.1, h.2⟩⟩

namespace Edge

theorem canonical_source (e : Edge) : Path.Canonical e.source.toList :=
  Path.canonical_relativeTo (Path.canonical_normalize e.file)

theorem canonical_target (e : Edge) : Path.Canonical e.target.toList := by
  unfold target
  split
  · rw [Path.join, Path.toList_ofList]
    exact Path.canonical_normalizeChars _
  · exact Path.canonical_relativeTo (Path.canonical_normalize e.importText)

/-- The directory of a relative file is relative, and may be the root. -/
theorem sourceDir_spec (relative : ¬ e.source.isAbsolute) :
    Path.Canonical e.sourceDir.toList ∧ ¬ e.sourceDir.isAbsolute ∧
      e.sourceDir.segments = e.source.folder := by
  obtain ⟨top, nested⟩ := Path.parent?_spec e.canonical_source relative
  unfold sourceDir
  by_cases none : e.source.folder = []
  · rw [top none, none]
    exact ⟨Path.canonical_normalize ".", by decide, by decide⟩
  · obtain ⟨dir, found, spec⟩ := nested none
    rw [found]
    exact spec

/-- Whether the destination counts as a child. -/
theorem isChild_iff (inside : e.Inside) :
    e.isChild e.destination ↔ (e.target.folder = [] → e.isRelative) ∧
      ((if e.source.folder = [] then ¬ e.target.Dotted
          else e.target.LiesIn e.source.folder) ∨
        e.target.folder ≠ [] ∧ e.source.LiesIn e.target.folder) := by
  obtain ⟨canonical, relative, folder⟩ := sourceDir_spec inside.source.relative
  have downward := Path.isWithin_iff_of_relative e.canonical_target canonical inside.target.relative relative
  obtain ⟨top, nested⟩ := Path.parent?_spec e.canonical_target inside.target.relative
  rw [folder, ← Path.liesIn_iff_prefix (Path.up_not_mem_segments e.canonical_target inside.target)]
    at downward
  unfold isChild destination
  -- Without a directory the destination counts only if the import is relative, and nothing lies in its
  -- directory.
  by_cases none : e.target.folder = []
  · rw [top none]
    cases e.isRelative
    · simp [none]
    · simp [none, downward]
  · obtain ⟨dir, found, canonical_dir, relative_dir, folder_dir⟩ := nested none
    have upward :=
      Path.isWithin_iff_of_relative e.canonical_source canonical_dir inside.source.relative relative_dir
    rw [folder_dir, if_neg none, ← Path.liesIn_iff_prefix
      (Path.up_not_mem_segments e.canonical_source inside.source)] at upward
    rw [found]
    simp [none, downward, upward]

/-! ## Moving an edge

An edge is moved when both of its ends get the same segments in front. The directories of the ends move
in the same way, unless an end has no directory because it stands at the top.
-/

theorem Shifted.source_folder (h : e.Shifted shift e') (ne : e.source.segments ≠ []) :
    e'.source.folder = shift ++ e.source.folder := by
  rw [Path.folder, h.source, List.dropLast_append_of_ne_nil ne, Path.folder]

theorem Clear.target_ne_nil (h : e.Clear) : e.target.segments ≠ [] := by
  intro none
  exact h.below (by rw [Path.folder, none, List.dropLast_nil])

theorem Shifted.target_folder (h : e.Shifted shift e') (clear : e.Clear) :
    e'.target.folder = shift ++ e.target.folder := by
  rw [Path.folder, h.target, List.dropLast_append_of_ne_nil clear.target_ne_nil, Path.folder]

/-- Two edges are related or not, wherever they lie together. -/
theorem Shifted.related_iff (h : e.Shifted shift e') (clear : e.Clear)
    (ne : e.source.segments ≠ []) : e'.Related ↔ e.Related := by
  unfold Related
  rw [h.source_folder ne, h.target_folder clear, Path.liesIn_shift h.target,
    Path.liesIn_shift h.source]

theorem Shifted.clear (h : e.Shifted shift e') (clear : e.Clear) (inside : e.Inside)
    (inside' : e'.Inside) (ne : e.source.segments ≠ []) : e'.Clear := by
  constructor
  · rw [h.target_folder clear]
    exact List.append_ne_nil_of_right_ne_nil _ clear.below
  · rw [h.source_folder ne, List.append_eq_nil_iff]
    rintro ⟨rfl, top⟩
    -- Without a shift the two destinations are spelled alike.
    have same : e'.target.toList = e.target.toList := by
      rw [Path.toList_eq_spell e'.canonical_target, Path.toList_eq_spell e.canonical_target,
        h.target, List.nil_append, Bool.eq_false_iff.mpr inside.target.relative,
        Bool.eq_false_iff.mpr inside'.target.relative]
    rw [Path.Dotted, same]
    exact clear.undotted top

end Edge

/-! ## Judgement

Everything is read off `Edge.isChild_iff`, where the test on the texts of directories and paths has
become one on segments. What remains of the texts are the two slips.
-/

namespace LayerRule

theorem ByDirectory.allows_iff (decides : rule.ByDirectory e) :
    rule.allows e e.destination ↔ e.isChild e.destination := by
  obtain ⟨children, foreign, closed⟩ := decides
  have foreign : rule.ownLayer e.destination.path.text = false := Bool.eq_false_iff.mpr foreign
  have closed : Pattern.anyAccepts rule.target e.destination.path.text = false :=
    Bool.eq_false_iff.mpr closed
  simp [allows, children, foreign, closed]

/-- The rule allows what is related, but for the two slips. -/
theorem ByDirectory.allows_iff_related (decides : rule.ByDirectory e) (inside : e.Inside) :
    rule.allows e e.destination ↔ e.Related ∧
      (e.target.folder = [] → e.isRelative ∧ e.target.LiesIn e.source.folder) ∧
      (e.source.folder = [] → e.target.Dotted →
        e.target.folder ≠ [] ∧ e.source.LiesIn e.target.folder) := by
  rw [decides.allows_iff, Edge.isChild_iff inside, Edge.Related]
  -- Everything in the repository lies in its root.
  have downward : e.source.folder = [] → e.target.LiesIn e.source.folder := by
    intro top
    rw [top]
    exact Path.liesIn_nil (Path.up_not_mem_segments e.canonical_target inside.target)
  have upward : e.target.folder = [] → e.source.LiesIn e.target.folder := by
    intro top
    rw [top]
    exact Path.liesIn_nil (Path.up_not_mem_segments e.canonical_source inside.source)
  by_cases top : e.source.folder = []
  · rw [if_pos top]
    grind
  · rw [if_neg top]
    grind

theorem ByDirectory.allows_iff_of_clear (decides : rule.ByDirectory e) (inside : e.Inside)
    (clear : e.Clear) : rule.allows e e.destination ↔ e.Related := by
  rw [decides.allows_iff_related inside, and_iff_left]
  exact ⟨fun top => absurd top clear.below, fun top dotted => absurd dotted (clear.undotted top)⟩

/-- A rule that decides by directories allows an edge exactly if one of its ends lies in the directory
of the other one, but for two slips. A destination at the top of the repository has to lie in the
directory of the file, and the import to start with a dot; and a destination that starts with two
dots does not count as lying in the root. Where neither can happen, it does not matter how the import
is spelled, nor in which directory both ends lie. -/
theorem allows_within (decides : rule.ByDirectory e) (inside : e.Inside) :
    (rule.allows e e.destination ↔ e.Related ∧
      (e.target.folder = [] → e.isRelative ∧ e.target.LiesIn e.source.folder) ∧
      (e.source.folder = [] → e.target.Dotted →
        e.target.folder ≠ [] ∧ e.source.LiesIn e.target.folder)) ∧
    (e.Clear → (rule.allows e e.destination ↔ e.Related) ∧
      (e.source.segments ≠ [] → ∀ (shift : List Path.Segment) (e' : Edge) (rule' : LayerRule),
        e.Shifted shift e' → e'.Inside → rule'.ByDirectory e' →
          rule'.allows e' e'.destination = rule.allows e e.destination)) := by
  refine ⟨decides.allows_iff_related inside, fun clear => ?_⟩
  refine ⟨decides.allows_iff_of_clear inside clear, ?_⟩
  intro ne shift e' rule' shifted inside' decides'
  rw [Bool.eq_iff_iff, decides.allows_iff_of_clear inside clear,
    decides'.allows_iff_of_clear inside' (shifted.clear clear inside inside' ne)]
  exact shifted.related_iff clear ne

/-- A rule for all files, which may import nothing but children. -/
def childrenOnly : LayerRule := ⟨none, [], [], true, defaultLayerMessage⟩

theorem byDirectory_childrenOnly (e : Edge) : childrenOnly.ByDirectory e :=
  ⟨rfl, Bool.false_ne_true, Bool.false_ne_true⟩

/-- An edge of a repository. -/
def inRepository (file text : String) : Edge := ⟨file, text, Path.normalize "/work/repo"⟩

/-- The file lies in the directory of the destination. It does so too deeper in the repository, with
both of them written behind the root. -/
theorem allows_within_moved :
    let e := inRepository "src/domain/deep/a.ts" "../b"
    let e' := inRepository "/work/repo/packages/src/domain/deep/a.ts"
      "/work/repo/packages/src/domain/b"
    childrenOnly.ByDirectory e ∧ e.Inside ∧ e.Clear ∧ e.source.segments ≠ [] ∧
      e.Shifted ["packages".toList] e' ∧ e'.Inside ∧ childrenOnly.ByDirectory e' ∧
      childrenOnly.allows e' e'.destination = true := by
  intro e e'
  have inside : e.Inside := by decide +kernel
  have inside' : e'.Inside := by decide +kernel
  have clear : e.Clear := ⟨by decide +kernel, by decide +kernel⟩
  have ne : e.source.segments ≠ [] := by decide +kernel
  have shifted : e.Shifted ["packages".toList] e' := ⟨by decide +kernel, by decide +kernel⟩
  have within := (allows_within (byDirectory_childrenOnly e) inside).2 clear
  have allowed : childrenOnly.allows e e.destination = true := within.1.mpr (by decide +kernel)
  refine ⟨byDirectory_childrenOnly e, inside, clear, ne, shifted, inside',
    byDirectory_childrenOnly e', ?_⟩
  exact (within.2 ne _ _ _ shifted inside' (byDirectory_childrenOnly e')).trans allowed

/-- Three edges whose ends are related and which are refused all the same: the destination is at the
top and the file is not, the import does not start with a dot, the name starts with two dots. The
first and the last are allowed one directory deeper, and the second with the import spelled
relatively. -/
theorem related_refused :
    let refused (e : Edge) :=
      childrenOnly.ByDirectory e ∧ e.Inside ∧ e.Related ∧ ¬ childrenOnly.allows e e.destination
    let allowed (e : Edge) :=
      childrenOnly.ByDirectory e ∧ e.Inside ∧ childrenOnly.allows e e.destination
    (refused (inRepository "src/a.ts" "../b") ∧ allowed (inRepository "packages/src/a.ts" "../b")) ∧
      (refused (inRepository "main.ts" "/work/repo/util") ∧
        allowed (inRepository "main.ts" "./util")) ∧
      (refused (inRepository "main.ts" "./..a/b") ∧
        allowed (inRepository "packages/main.ts" "./..a/b")) := by
  intro refused allowed
  refine ⟨⟨?_, ?_⟩, ⟨?_, ?_⟩, ?_, ?_⟩ <;>
    exact ⟨byDirectory_childrenOnly _, by decide +kernel⟩

end LayerRule

end ImportBoundary
