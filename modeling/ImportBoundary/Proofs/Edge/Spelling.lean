import ImportBoundary.Proofs.Edge.Cell
import ImportBoundary.Proofs.Path.Below

/-!
# An edge does not depend on its spelling

A host may write the importing file and the import relative to the project, or behind the project
root. As long as neither of them leads out of the project, every way to write the edge comes to the
same source and the same destination, and so to the same judgement (`judge_spellings`). An import
cannot get around a boundary by being written in another way.

The root itself may be spelled in any way. What is asked of the two ends is that they do not leave the
project, because a path outside of it is not made relative, and then the two ways of writing it differ.
-/

namespace ImportBoundary.Edge

open ImportBoundary.Path (behind)

def directory (file : String) : Path := (Path.normalize file).parent?.getD Path.root

/-- The edges for a file and for an import that is read in the directory of the file, each of the two
as it is and behind the project root. -/
def spellings (root file text : String) : List Edge :=
  [file, behind root file].flatMap fun file' =>
    [text, behind root (behind (directory file).text text)].map fun text' =>
      ⟨file', text', Path.normalize root⟩

variable {root file text : String}

/-- The directory of a relative file is written as a relative text. -/
theorem not_rooted_directory (relative : ¬ Path.Rooted file.toList) :
    (directory file).toList ≠ [] ∧ ¬ Path.Rooted (directory file).toList := by
  unfold directory Path.parent?
  cases cut : Text.beforeLast? '/' (Path.normalize file).toList with
  | none =>
      constructor
      · decide
      · rintro (h | h) <;> cases h
  | some dir =>
      -- The directory begins the text of the file, which does not begin with a slash.
      obtain ⟨last, whole⟩ := Text.exists_of_beforeLast? cut
      have unrooted := Path.not_rooted_normalizeChars relative
      rw [← Path.toList_normalize, whole] at unrooted
      have ne : dir ≠ [] := by
        rintro rfl
        exact unrooted (.inl rfl)
      rw [Option.map_some, Option.getD_some, Path.toList_ofList, if_neg ne]
      refine ⟨ne, fun rooted => unrooted ?_⟩
      obtain ⟨c, rest, rfl⟩ := List.exists_cons_of_ne_nil ne
      exact rooted

theorem join_eq (dir : Path) (text : String) :
    dir.join text = Path.normalize (behind dir.text text) := by
  unfold Path.join Path.normalize behind
  rw [String.toList_ofList]
  rfl

theorem source_of_mem_spellings (absolute : Path.Rooted root.toList)
    (relative : ¬ Path.Rooted file.toList) (below : ¬ (Path.normalize file).Climbs) {e : Edge}
    (mem : e ∈ spellings root file text) : e.source = Path.normalize file := by
  obtain ⟨file', file_mem, mem⟩ := List.mem_flatMap.mp mem
  obtain ⟨text', -, rfl⟩ := List.mem_map.mp mem
  show (Path.normalize file').relativeTo (Path.normalize root) = Path.normalize file
  rcases List.mem_pair.mp file_mem with rfl | rfl
  · exact Path.relativeTo_of_not_rooted absolute relative
  · exact Path.relativeTo_behind absolute relative below

theorem target_of_mem_spellings (absolute : Path.Rooted root.toList)
    (relative : ¬ Path.Rooted file.toList) (below : ¬ (Path.normalize file).Climbs)
    (dotted : text.toList.head? = some '.')
    (stays : ¬ ((directory file).join text).Climbs) {e : Edge}
    (mem : e ∈ spellings root file text) : e.target = (directory file).join text := by
  have source := source_of_mem_spellings absolute relative below mem
  obtain ⟨file', -, mem⟩ := List.mem_flatMap.mp mem
  obtain ⟨text', text_mem, rfl⟩ := List.mem_map.mp mem
  unfold target
  rcases List.mem_pair.mp text_mem with rfl | rfl
  · have relative_import : isRelative ⟨file', text', Path.normalize root⟩ = true :=
      decide_eq_true dotted
    rw [if_pos relative_import, sourceDir, source]
    rfl
  -- Behind the root the text no longer starts with a dot. It is read from the root, and seen from
  -- there it is the text in the directory of the file.
  · have unrooted : ¬ Path.Rooted text.toList := by
      rw [Path.Rooted, dotted]
      rintro (h | h) <;> cases h
    obtain ⟨ne, unrooted_directory⟩ := not_rooted_directory relative
    have unrooted_import : ¬ Path.Rooted (behind (directory file).text text).toList :=
      fun rooted => unrooted_directory ((Path.rooted_behind_iff ne unrooted).mp rooted)
    have rooted := (Path.rooted_behind_iff absolute.ne_nil unrooted_import).mpr absolute
    have absolute_import : ¬ isRelative ⟨file', behind root (behind (directory file).text text),
        Path.normalize root⟩ = true := by
      intro dotted
      rw [Path.Rooted, of_decide_eq_true dotted] at rooted
      rcases rooted with h | h <;> cases h
    rw [join_eq] at stays
    rw [if_neg absolute_import, join_eq]
    exact Path.relativeTo_behind absolute unrooted_import stays

/-- A relative file and an import that starts with a dot may be written behind the root of the
project, and the root in any way. If neither the file nor the import leads out of the project, all
spellings have the same source and destination, and are judged alike in every scope. -/
theorem judge_spellings (absolute : (Path.normalize root).isAbsolute)
    (relative : ¬ (Path.normalize file).isAbsolute) (below : ¬ (Path.normalize file).Climbs)
    (dotted : text.toList.head? = some '.') (stays : ¬ ((directory file).join text).Climbs) :
    (∀ e ∈ spellings root file text, e.source = Path.normalize file ∧ e.sourceDir = directory file ∧
      e.destination =
        ⟨(directory file).join text, ((directory file).join text).parent?⟩) ∧
    ∀ scope : Scope, ∀ e ∈ spellings root file text, ∀ e' ∈ spellings root file text,
      ((e.judge scope).run none).1 = ((e'.judge scope).run none).1 := by
  rw [Path.isAbsolute_normalize_iff] at absolute relative
  have source (e : Edge) (mem : e ∈ spellings root file text) :=
    source_of_mem_spellings absolute relative below mem
  have target (e : Edge) (mem : e ∈ spellings root file text) :=
    target_of_mem_spellings absolute relative below dotted stays mem
  constructor
  · intro e mem
    refine ⟨source e mem, ?_, ?_⟩
    · rw [sourceDir, source e mem]
      rfl
    · rw [destination, target e mem]
  · intro scope e mem e' mem'
    have routes : e.route = e'.route := by
      rw [route, route, source e mem, source e' mem', target e mem, target e' mem']
    rw [(e.yields_judge scope).run_fst e.keeps_none, (e'.yields_judge scope).run_fst e'.keeps_none,
      routes]

/-- The root has a backslash and an empty segment, and the import climbs to the root. -/
theorem judge_spellings_backslash :
    (Path.normalize "\\work//repo").isAbsolute ∧ ¬ (Path.normalize ".\\src/view.ts").isAbsolute ∧
      ¬ (Path.normalize ".\\src/view.ts").Climbs ∧
      ¬ ((directory ".\\src/view.ts").join "../lib").Climbs ∧
      ∀ e ∈ spellings "\\work//repo" ".\\src/view.ts" "../lib",
        e.source = ⟨"src/view.ts"⟩ ∧ e.sourceDir = ⟨"src"⟩ ∧ e.destination = ⟨⟨"lib"⟩, none⟩ := by
  have absolute : (Path.normalize "\\work//repo").isAbsolute := by decide
  have relative : ¬ (Path.normalize ".\\src/view.ts").isAbsolute := by decide
  have below : ¬ (Path.normalize ".\\src/view.ts").Climbs := by decide
  have stays : ¬ ((directory ".\\src/view.ts").join "../lib").Climbs := by decide +kernel
  refine ⟨absolute, relative, below, stays, ?_⟩
  exact (judge_spellings absolute relative below rfl stays).1

end ImportBoundary.Edge
