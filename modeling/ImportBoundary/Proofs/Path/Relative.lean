import ImportBoundary.Edge
import ImportBoundary.Proofs.Path.Composition
import ImportBoundary.Proofs.Path.Within

/-!
# Seen from a directory and joined again

Looking at a path from an absolute directory takes the text of the directory off the path. The segments
of absolute paths are names, so a path below the directory has those of the directory and names behind
them, also where the directory is the root of the disk. These names are what is left, and joining them to
the directory gives the path back (`relativeTo_of_split`). Where the texts agree only up to the middle of
a name, nothing is taken off (`relativeTo_of_not_below`). So what is seen of a path tells whether it was
below the directory, and which path it was (`eq_of_relativeTo_eq`).
-/

namespace ImportBoundary.Path

variable {p q r : Path} {names : List Segment}

/-! ## Absolute paths

An absolute path does not climb, and its text is a slash and its segments. Being below a directory is
then a matter of lists of names.
-/

theorem named_of_mem_segments (absolute : p.isAbsolute) {s : Segment} (mem : s ∈ p.segments) :
    Named s := by
  rw [segments, absolute] at mem
  exact named_of_mem_fold_pieces mem

/-- Being below a directory is beginning with its segments, as an absolute path has none that climb. -/
theorem below_iff_segments (hp : p.isAbsolute) (hr : r.isAbsolute) :
    p.Below r ↔ r.segments <+: p.segments := by
  have stays : up ∉ p.segments := fun mem => (named_of_mem_segments hp mem).ne_up rfl
  rw [Below, liesIn_iff_prefix stays, hp, hr, and_iff_right rfl]

theorem eq_of_isAbsolute (hp : Canonical p.toList) (absolute : p.isAbsolute) :
    p = ⟨String.ofList ('/' :: List.intercalate ['/'] p.segments)⟩ := by
  have spelled := toList_eq_spell hp
  rw [absolute] at spelled
  apply congrArg Path.mk
  rw [← String.toList_inj, String.toList_ofList]
  exact spelled

/-! ## Below the directory

Taking the directory off a path leaves the names behind it, or the path `.` if there are none, and
joining reads what is left in the directory. Neither normalizing step changes names.
-/

/-- The segments that an absolute path has beyond a directory's are names. -/
theorem named_of_split (abs_p : p.isAbsolute) (split : p.segments = r.segments ++ names) :
    ∀ s ∈ names, Named s := by
  intro s mem
  refine named_of_mem_segments abs_p ?_
  rw [split]
  exact List.mem_append_right _ mem

/-- A path below a directory is seen as the segments that it has beyond the directory's. -/
theorem relativeTo_eq_spell (hp : Canonical p.toList) (hr : Canonical r.toList) (abs_p : p.isAbsolute)
    (abs_r : r.isAbsolute) (split : p.segments = r.segments ++ names) :
    p.relativeTo r = ⟨String.ofList (spell false names)⟩ := by
  have named_root : ∀ s ∈ r.segments, Named s := fun s => named_of_mem_segments abs_r
  have spelled := eq_of_isAbsolute hp abs_p
  rw [split] at spelled
  calc p.relativeTo r
      = relativeTo ⟨String.ofList ('/' :: List.intercalate ['/'] (r.segments ++ names))⟩
          ⟨String.ofList ('/' :: List.intercalate ['/'] r.segments)⟩ :=
        congrArg₂ relativeTo spelled (eq_of_isAbsolute hr abs_r)
    _ = ⟨String.ofList (spell false names)⟩ :=
        relativeTo_of_append named_root (named_of_split abs_p split)

theorem not_rooted_spell_of_named (named : ∀ s ∈ names, Named s) : ¬ Rooted (spell false names) :=
  not_rooted_spell fun s mem => (named s mem).toPlain

theorem not_isAbsolute_of_spell (named : ∀ s ∈ names, Named s) :
    ¬ isAbsolute ⟨String.ofList (spell false names)⟩ := by
  rw [isAbsolute, toList_ofList, decide_eq_true_iff]
  exact fun first => not_rooted_spell_of_named named (.inl first)

theorem fold_pieces_spell (named : ∀ s ∈ names, Named s) :
    fold false (pieces (spell false names)) = names := by
  have plain : ∀ s ∈ names, Plain s := fun s mem => (named s mem).toPlain
  rw [fold, foldl_pieces_spell false plain, foldl_push_of_named named, List.append_nil,
    List.reverse_reverse]

/-- Joining names to an absolute directory adds them to its segments. -/
theorem join_spell (hr : Canonical r.toList) (abs_r : r.isAbsolute) (named : ∀ s ∈ names, Named s) :
    r.join (String.ofList (spell false names)) =
      ⟨String.ofList ('/' :: List.intercalate ['/'] (r.segments ++ names))⟩ := by
  have unrooted := not_rooted_spell_of_named named
  have kept := fold_pieces_spell named
  have stays : up ∉ fold false (pieces (spell false names)) := by
    rw [kept]
    exact fun mem => (named up mem).ne_up rfl
  have rooted : Rooted (appendChars r.toList (spell false names)) := by
    rw [Rooted, head?_appendChars hr.ne_nil fun first => unrooted (.inl first)]
    exact (isAbsolute_iff_rooted hr).mp abs_r
  have root : fold true (pieces r.toList) = r.segments := by
    rw [segments, abs_r]
  rw [join, String.toList_ofList, normalizeChars_of_rooted rooted, fold_appendChars unrooted stays,
    root, kept]

/-- What is seen of a path below a directory is relative, and its segments are those that the path has
beyond the directory's. -/
theorem relativeTo_of_split (hp : Canonical p.toList) (hr : Canonical r.toList) (abs_p : p.isAbsolute)
    (abs_r : r.isAbsolute) (split : p.segments = r.segments ++ names) :
    ¬ (p.relativeTo r).isAbsolute ∧ (p.relativeTo r).segments = names ∧
      r.join (p.relativeTo r).text = p := by
  have named := named_of_split abs_p split
  have relative := not_isAbsolute_of_spell named
  rw [relativeTo_eq_spell hp hr abs_p abs_r split]
  refine ⟨relative, ?_, ?_⟩
  · rw [segments, Bool.eq_false_iff.mpr relative, toList_ofList]
    exact fold_pieces_spell named
  · rw [join_spell hr abs_r named, ← split]
    exact (eq_of_isAbsolute hp abs_p).symm

/-! ## Beside the directory

The text of a path may begin with the text of a directory which it is not below: the directory `/a` and
the path `/ab`. What follows the text of the directory then begins without a slash, and the path is
handed on.
-/

/-- A path that is not below a directory is seen as it is. -/
theorem relativeTo_of_not_below (hp : Canonical p.toList) (hr : Canonical r.toList)
    (abs_p : p.isAbsolute) (abs_r : r.isAbsolute) (beside : ¬ p.Below r) : p.relativeTo r = p := by
  rw [below_iff_segments abs_p abs_r] at beside
  have ne : r.segments ≠ [] := fun none => beside (none ▸ List.nil_prefix)
  have other : p ≠ r := by
    rintro rfl
    exact beside List.prefix_rfl
  -- The text of a directory with a name does not end in a slash.
  have trimmed : trimEndSlashes r.toList = r.toList := by
    have plain : ∀ s ∈ r.segments, Plain s := fun s mem => (named_of_mem_segments abs_r mem).toPlain
    obtain ⟨init, c, joined, name⟩ := exists_intercalate_eq_concat ne plain
    have spelled := toList_eq_spell hr
    rw [abs_r, spell, joined, ← List.cons_append] at spelled
    rw [spelled, trimEndSlashes_concat name]
  unfold relativeTo
  rw [if_neg other, trimmed]
  split
  · next rest found =>
    -- What goes on with a slash behind the text of the directory is below it.
    have under : isUnder p.text r.text :=
      isUnder_iff.mpr ⟨'/' :: rest, Text.strip?_eq_some_iff.mp found, continues_cons.mpr rfl⟩
    have texts := isUnder_iff_prefix hp hr ne
    exact absurd (texts.mp under).2 beside
  · rfl

/-! ## All paths

What is seen of a path below the directory is relative, and any other absolute path is seen as it is.
So the two cases can be told apart by what is seen, and in each of them the path can be got back.
-/

theorem join_relativeTo (hp : Canonical p.toList) (hr : Canonical r.toList) (abs_p : p.isAbsolute)
    (abs_r : r.isAbsolute) (below : p.Below r) :
    Canonical (p.relativeTo r).toList ∧ ¬ (p.relativeTo r).isAbsolute ∧
      up ∉ (p.relativeTo r).segments ∧ r.join (p.relativeTo r).text = p := by
  obtain ⟨-, names, split, stays⟩ := below
  obtain ⟨relative, beyond, back⟩ := relativeTo_of_split hp hr abs_p abs_r split
  exact ⟨canonical_relativeTo hp, relative, beyond.symm ▸ stays, back⟩

theorem relativeTo_of_not_absolute (relative : ¬ p.isAbsolute) (abs_r : r.isAbsolute) :
    p.relativeTo r = p := by
  apply relativeTo_of_relative
  · exact fun first => relative (decide_eq_true first)
  · exact of_decide_eq_true abs_r

/-- Absolute paths that look the same from a directory are the same. -/
theorem eq_of_relativeTo_eq (hp : Canonical p.toList) (hq : Canonical q.toList)
    (hr : Canonical r.toList) (abs_p : p.isAbsolute) (abs_q : q.isAbsolute) (abs_r : r.isAbsolute)
    (same : p.relativeTo r = q.relativeTo r) : p = q := by
  by_cases below_p : p.Below r
  · obtain ⟨-, relative, -, back_p⟩ := join_relativeTo hp hr abs_p abs_r below_p
    by_cases below_q : q.Below r
    · obtain ⟨-, -, -, back_q⟩ := join_relativeTo hq hr abs_q abs_r below_q
      rw [← back_p, same, back_q]
    · rw [same, relativeTo_of_not_below hq hr abs_q abs_r below_q] at relative
      exact absurd abs_q relative
  · rw [relativeTo_of_not_below hp hr abs_p abs_r below_p] at same
    by_cases below_q : q.Below r
    · obtain ⟨-, relative, -, -⟩ := join_relativeTo hq hr abs_q abs_r below_q
      exact absurd (same ▸ abs_p) relative
    · rw [same, relativeTo_of_not_below hq hr abs_q abs_r below_q]

/-- Looking at a path from a directory a second time changes nothing. -/
theorem relativeTo_relativeTo (hp : Canonical p.toList) (hr : Canonical r.toList)
    (abs_r : r.isAbsolute) : (p.relativeTo r).relativeTo r = p.relativeTo r := by
  by_cases abs_p : p.isAbsolute
  · by_cases below : p.Below r
    · obtain ⟨-, relative, -, -⟩ := join_relativeTo hp hr abs_p abs_r below
      exact relativeTo_of_not_absolute relative abs_r
    · rw [relativeTo_of_not_below hp hr abs_p abs_r below,
        relativeTo_of_not_below hp hr abs_p abs_r below]
  · rw [relativeTo_of_not_absolute abs_p abs_r, relativeTo_of_not_absolute abs_p abs_r]

/-- An absolute path below an absolute directory is seen from there as a relative path that does not
climb, and joining it to the directory gives the path back. Every other path is seen as it is. So no
two absolute paths are seen as the same one, and no two files that are not the same have one source. -/
theorem seen_from_directory (hr : Canonical r.toList) (abs_r : r.isAbsolute) :
    (∀ p : Path, Canonical p.toList → p.isAbsolute → p.Below r →
      Canonical (p.relativeTo r).toList ∧ ¬ (p.relativeTo r).isAbsolute ∧
        up ∉ (p.relativeTo r).segments ∧ r.join (p.relativeTo r).text = p) ∧
    (∀ p : Path, Canonical p.toList → p.isAbsolute → ¬ p.Below r → p.relativeTo r = p) ∧
    (∀ p q : Path, Canonical p.toList → Canonical q.toList → p.isAbsolute → q.isAbsolute →
      p.relativeTo r = q.relativeTo r → p = q) ∧
    (∀ p : Path, Canonical p.toList → (p.relativeTo r).relativeTo r = p.relativeTo r) ∧
    (∀ p : Path, ¬ p.isAbsolute → p.relativeTo r = p) ∧
    ∀ e e' : Edge, e.root = r → e'.root = r → Rooted e.file.toList → Rooted e'.file.toList →
      e.source = e'.source → normalize e.file = normalize e'.file := by
  refine ⟨?_, ?_, ?_, ?_, ?_, ?_⟩
  · intro p hp abs_p below
    exact join_relativeTo hp hr abs_p abs_r below
  · intro p hp abs_p beside
    exact relativeTo_of_not_below hp hr abs_p abs_r beside
  · intro p q hp hq abs_p abs_q same
    exact eq_of_relativeTo_eq hp hq hr abs_p abs_q abs_r same
  · intro p hp
    exact relativeTo_relativeTo hp hr abs_r
  · intro p relative
    exact relativeTo_of_not_absolute relative abs_r
  · rintro e e' root root' rooted rooted' same
    rw [Edge.source, Edge.source, root, root'] at same
    exact eq_of_relativeTo_eq (canonical_normalize _) (canonical_normalize _) hr
      ((isAbsolute_normalize_iff _).mpr rooted) ((isAbsolute_normalize_iff _).mpr rooted') abs_r same

/-- A file below the root of a project, with a name that starts with two dots, and one in a directory
beside it whose name goes on where that of the root ends. -/
theorem seen_from_directory_lookalike :
    let r := normalize "\\work//repo/"
    let file := normalize "/work/repo/src/../..a/x.ts"
    let other := normalize "/work/repository/x.ts"
    Canonical r.toList ∧ r.isAbsolute ∧ file.isAbsolute ∧ file.Below r ∧
      file.relativeTo r = ⟨"..a/x.ts"⟩ ∧ r.join "..a/x.ts" = file ∧
      other.isAbsolute ∧ ¬ other.Below r ∧ other.relativeTo r = other := by
  intro r file other
  have hr : Canonical r.toList := canonical_normalize _
  have abs_r : r.isAbsolute := by decide +kernel
  obtain ⟨below, beside, -⟩ := seen_from_directory hr abs_r
  have abs_file : file.isAbsolute := by decide +kernel
  have inside : file.Below r := by decide +kernel
  have abs_other : other.isAbsolute := by decide +kernel
  have outside : ¬ other.Below r := by decide +kernel
  have seen : file.relativeTo r = ⟨"..a/x.ts"⟩ := by decide +kernel
  obtain ⟨-, -, -, back⟩ := below file (canonical_normalize _) abs_file inside
  rw [seen] at back
  exact ⟨hr, abs_r, abs_file, inside, seen, back, abs_other, outside,
    beside other (canonical_normalize _) abs_other outside⟩

end ImportBoundary.Path
