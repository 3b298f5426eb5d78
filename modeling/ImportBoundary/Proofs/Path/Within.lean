import ImportBoundary.Proofs.Path.Segments

/-!
# Paths within a directory

A path is below a directory if it has the segments of the directory and goes only down from there
(`Below`). `isWithin` asks the two texts instead, and for a directory with a name in it the answer is
the same. It is not where a directory has no segments, or only segments that climb
(`isWithin_iff_below`): the root of the disk holds nothing but itself, the root of the repository does
not hold names that start with two dots, and a directory that is reached by climbing seems to hold
what is reached by climbing further. Still every path is within itself, and what is within a directory
is within all that the directory is within.
-/

namespace ImportBoundary.Path

/-- The path is the directory or lies below it. -/
def Below (p dir : Path) : Prop := p.isAbsolute = dir.isAbsolute ∧ p.LiesIn dir.segments

/-- Of a root that is written without a name, what lies below is not seen: in the root of the disk all
but the root itself, and in the root of the repository what starts with two dots. -/
structure Unseen (p dir : Path) : Prop where
  root : dir.segments = []
  hidden : if dir.isAbsolute then p ≠ dir else p.Dotted

/-- The path goes up from the directory. -/
def Leaves (p dir : Path) : Prop :=
  p.isAbsolute = dir.isAbsolute ∧ dir.segments ≠ [] ∧ dir.segments ++ [up] <+: p.segments

variable {p d e : Path}

instance : Decidable (p.Below d) := inferInstanceAs (Decidable (_ ∧ _))

instance : Decidable (p.Leaves d) := inferInstanceAs (Decidable (_ ∧ _))

/-! ## Segments that climb

In a canonical path a segment `..` is preceded by others of its kind only. Whether a path climbs can so
be asked of its first segment, or of the two characters with which its text begins, if no name begins
with them.
-/

theorem dotted_iff : p.Dotted ↔ up <+: p.toList := by
  show (Text.strip? up p.toList).isSome ↔ _
  rw [Option.isSome_iff_exists]
  constructor
  · rintro ⟨rest, found⟩
    exact ⟨rest, (Text.strip?_eq_some_iff.mp found).symm⟩
  · rintro ⟨rest, split⟩
    exact ⟨rest, Text.strip?_eq_some_iff.mpr split.symm⟩

/-- Segments that climb come before all others. -/
theorem climbs_first {before behind : List Segment} (split : p.segments = before ++ behind)
    (mem : up ∈ behind) : (∀ s ∈ before, s = up) ∧ ∃ rest, behind = up :: rest := by
  obtain ⟨n, names, shape, -, named⟩ := exists_fold_pieces p.isAbsolute p.toList
  have named_up : up ∉ names := fun inside => (named up inside).ne_up rfl
  rcases List.append_eq_append_iff.mp (shape.symm.trans split) with
    ⟨more, -, rfl⟩ | ⟨more, ups, rfl⟩
  · exact absurd (List.mem_append_right more mem) named_up
  · -- The names begin behind all of `before`.
    have climbs : ∀ s ∈ before ++ more, s = up := by
      intro s inside
      rw [← ups] at inside
      exact List.eq_of_mem_replicate inside
    rw [List.forall_mem_append] at climbs
    refine ⟨climbs.1, ?_⟩
    cases more with
    | nil => exact absurd mem named_up
    | cons s more => exact ⟨more ++ names, by rw [climbs.2 s List.mem_cons_self, List.cons_append]⟩

/-- What has a segment that climbs starts with two dots. -/
theorem dotted_of_up_mem (h : Canonical p.toList) (mem : up ∈ p.segments) : p.Dotted := by
  obtain ⟨-, rest, split⟩ := climbs_first (List.nil_append _).symm mem
  have relative : ¬ p.isAbsolute := by
    intro absolute
    rw [segments, absolute] at mem
    exact (named_of_mem_fold_pieces mem).ne_up rfl
  rw [dotted_iff, toList_eq_intercalate h relative (split ▸ List.cons_ne_nil _ _), split]
  cases rest with
  | nil => simp
  | cons s rest =>
      rw [List.intercalate_cons_cons, List.append_assoc]
      exact List.prefix_append _ _

/-! ## Being within a directory

`isWithin_iff` of the module before says what is within a directory in terms of segments. Here it is
compared with `Below`, which adds that the path does not climb out of the directory again.
-/

/-- What begins with the segments of a directory goes down from it, or up first of all. -/
theorem prefix_iff_liesIn_or {dir : List Segment} :
    dir <+: p.segments ↔ p.LiesIn dir ∨ dir ++ [up] <+: p.segments := by
  constructor
  · rintro ⟨behind, split⟩
    by_cases climbs : up ∈ behind
    · obtain ⟨-, rest, rfl⟩ := climbs_first split.symm climbs
      right
      refine ⟨rest, ?_⟩
      rw [← split, List.append_assoc, List.singleton_append]
    · left
      exact ⟨behind, split.symm, climbs⟩
  · rintro (⟨below, split, -⟩ | further)
    · exact ⟨below, split.symm⟩
    · exact (List.prefix_append dir [up]).trans further

/-- Being within a directory is being below it, but for what is not seen below a root, and for what
leaves a directory that is reached by climbing. -/
theorem isWithin_iff_below (hp : Canonical p.toList) (hd : Canonical d.toList) :
    p.isWithin d ↔ p.Below d ∧ ¬ p.Unseen d ∨ p.Leaves d := by
  rw [isWithin_iff hp hd]
  -- Without segments the texts of the two roots decide, and no path leaves such a directory. With
  -- segments it is a matter of segments alone.
  by_cases none : d.segments = []
  · have stays : ¬ p.Leaves d := fun leaves => leaves.2.1 none
    rw [if_pos none, or_iff_left stays]
    by_cases absolute : d.isAbsolute
    · rw [if_pos absolute]
      constructor
      · rintro rfl
        refine ⟨⟨rfl, [], (List.append_nil _).symm, List.not_mem_nil⟩, ?_⟩
        rintro ⟨-, hidden⟩
        rw [if_pos absolute] at hidden
        exact hidden rfl
      · rintro ⟨-, seen⟩
        by_contra other
        exact seen ⟨none, by rwa [if_pos absolute]⟩
    · rw [if_neg absolute]
      constructor
      · rintro ⟨relative, plain⟩
        have stays : up ∉ p.segments := fun mem => plain (dotted_of_up_mem hp mem)
        refine ⟨⟨?_, none ▸ liesIn_nil stays⟩, ?_⟩
        · rw [Bool.eq_false_iff.mpr relative, Bool.eq_false_iff.mpr absolute]
        · rintro ⟨-, hidden⟩
          rw [if_neg absolute] at hidden
          exact plain hidden
      · rintro ⟨⟨start, -⟩, seen⟩
        refine ⟨start ▸ absolute, fun dotted => ?_⟩
        exact seen ⟨none, by rwa [if_neg absolute]⟩
  · have seen : ¬ p.Unseen d := fun unseen => none unseen.root
    rw [if_neg none, prefix_iff_liesIn_or, and_or_left]
    simp only [Below, Leaves, seen, none, not_false_eq_true, and_true, ne_eq, true_and]

/-- A directory that a path leaves is reached by climbing. -/
theorem Leaves.eq_up (h : p.Leaves d) : ∀ s ∈ d.segments, s = up := by
  obtain ⟨-, -, rest, split⟩ := h
  rw [List.append_assoc, List.singleton_append] at split
  exact (climbs_first split.symm List.mem_cons_self).1

/-- In a directory with a name is what lies below it. -/
theorem isWithin_iff_below_of_name (hp : Canonical p.toList) (hd : Canonical d.toList)
    (name : ∃ s ∈ d.segments, s ≠ up) : p.isWithin d ↔ p.Below d := by
  obtain ⟨s, mem, other⟩ := name
  have seen : ¬ p.Unseen d := fun unseen => List.ne_nil_of_mem mem unseen.root
  have stays : ¬ p.Leaves d := fun leaves => other (leaves.eq_up s mem)
  rw [isWithin_iff_below hp hd, or_iff_left stays, and_iff_left seen]

theorem isWithin_refl (hp : Canonical p.toList) : p.isWithin p := by
  rw [isWithin_iff_below hp hp]
  left
  refine ⟨⟨rfl, [], (List.append_nil _).symm, List.not_mem_nil⟩, ?_⟩
  rintro ⟨root, hidden⟩
  split at hidden
  · exact hidden rfl
  · next relative =>
    have here := (text_eq_here_iff hp).mpr ⟨relative, root⟩
    rw [Dotted, toList, here] at hidden
    exact absurd hidden (by decide)

theorem dotted_of_isUnder (under : isUnder p.text d.text) (dotted : p.Dotted) : d.Dotted := by
  obtain ⟨tail, whole, goes⟩ := isUnder_iff.mp under
  rw [dotted_iff] at dotted ⊢
  change p.toList = d.toList ++ tail at whole
  rw [whole] at dotted
  rcases List.prefix_or_prefix_of_prefix dotted (List.prefix_append d.toList tail) with
    short | ⟨more, long⟩
  · exact short
  · -- What the dots have beyond the directory would be the beginning of the tail, but no dot is.
    rw [← long, List.prefix_append_right_inj] at dotted
    cases more with
    | nil =>
        rw [List.append_nil] at long
        exact long ▸ List.prefix_rfl
    | cons c more =>
        obtain ⟨rest, rfl⟩ := dotted
        have slash : '/' ∈ up := by
          rw [← long, ← continues_cons.mp goes]
          simp
        exact absurd slash (by decide)

theorem isAbsolute_eq_of_isUnder (hd : Canonical d.toList) (under : isUnder p.text d.text) :
    p.isAbsolute = d.isAbsolute := by
  obtain ⟨tail, whole, -⟩ := isUnder_iff.mp under
  change p.toList = d.toList ++ tail at whole
  obtain ⟨c, rest, begins⟩ := List.exists_cons_of_ne_nil hd.ne_nil
  rw [isAbsolute, isAbsolute, whole, begins]
  rfl

/-- Nothing but `.` holds `.`. -/
theorem eq_here_of_isUnder (he : Canonical e.toList) (under : isUnder "." e.text) :
    e.text = "." := by
  obtain ⟨tail, whole, -⟩ := isUnder_iff.mp under
  obtain ⟨c, rest, begins⟩ := List.exists_cons_of_ne_nil he.ne_nil
  change ['.'] = e.toList ++ tail at whole
  rw [begins, List.cons_append] at whole
  obtain ⟨rfl, short⟩ := List.cons.inj whole
  have same : e.text.toList = ".".toList := by
    show e.toList = ['.']
    rw [begins, (List.append_eq_nil_iff.mp short.symm).1]
  exact String.toList_inj.mp same

theorem isWithin_trans (hd : Canonical d.toList) (he : Canonical e.toList) (hpd : p.isWithin d)
    (hde : d.isWithin e) : p.isWithin e := by
  unfold isWithin at hpd hde ⊢
  by_cases here : d.text = "."
  · rw [if_pos here] at hpd
    have repository : e.text = "." := by
      by_contra other
      rw [if_neg other, here] at hde
      exact other (eq_here_of_isUnder he hde)
    rw [if_pos repository]
    exact hpd
  · rw [if_neg here] at hpd
    by_cases repository : e.text = "."
    · rw [if_pos repository, Bool.and_eq_true, Bool.not_eq_true', Bool.not_eq_true'] at hde ⊢
      rw [isAbsolute_eq_of_isUnder hd hpd]
      refine ⟨hde.1, Bool.eq_false_iff.mpr fun dotted => ?_⟩
      exact Bool.eq_false_iff.mp hde.2 (dotted_of_isUnder hpd dotted)
    · rw [if_neg repository] at hde ⊢
      exact isUnder_trans hpd hde

/-- A path is within its directory, unless this is the root of the disk. -/
theorem isWithin_parent_iff (hp : Canonical p.toList) (found : p.parent? = some d) :
    p.isWithin d ↔ (d.text = "/" → p.text = "/") := by
  have hd := canonical_parent hp found
  by_cases top : d.text = "/"
  -- Nothing but the root of the disk itself is under it.
  · have absolute : d.isAbsolute := by
      rw [isAbsolute, toList, top]
      decide
    have none : d.segments = [] := by
      rw [segments, isAbsolute, toList, top]
      decide
    rw [isWithin_iff hp hd, if_pos none, if_pos absolute, ← top]
    constructor
    · rintro rfl _
      rfl
    · intro same
      exact congrArg Path.mk (same rfl)
  · refine iff_of_true ?_ fun same => absurd same top
    by_cases absolute : p.isAbsolute
    · -- The text before the last slash is not empty, and stays as it is.
      obtain ⟨before, cut, rfl⟩ := Option.map_eq_some_iff.mp found
      obtain ⟨last, split⟩ := Text.exists_of_beforeLast? cut
      by_cases empty : before = []
      · exact absurd (by rw [if_pos empty]) top
      · rw [if_neg empty] at hd top ⊢
        have under : isUnder p.text (String.ofList before) := by
          refine isUnder_iff.mpr ⟨'/' :: last, ?_, continues_cons.mpr rfl⟩
          rw [String.toList_ofList]
          exact split
        have start := isAbsolute_eq_of_isUnder hd under
        unfold isWithin
        rwa [if_neg fun here => ((text_eq_here_iff hd).mp here).1 (start ▸ absolute)]
    · obtain ⟨nowhere, somewhere⟩ := parent?_spec hp absolute
      have ne : p.folder ≠ [] := by
        intro none
        rw [nowhere none] at found
        cases found
      obtain ⟨dir, same, -, relative, folder⟩ := somewhere ne
      obtain rfl : d = dir := Option.some.inj (found.symm.trans same)
      rw [isWithin_iff hp hd, folder, if_neg ne, Bool.eq_false_iff.mpr absolute,
        Bool.eq_false_iff.mpr relative]
      exact ⟨rfl, List.dropLast_prefix _⟩

/-- What is within a directory is below it if the directory has a name in it. In general there are two
exceptions: what is not seen below a root, and what leaves a directory that is reached by climbing.
Whatever they are, every path is within itself, what is within a directory is within all that the
directory is within, and every path is within its directory, unless this is the root of the disk. -/
theorem within_directory (s t : String) :
    ((normalize s).isWithin (normalize t) ↔
      (normalize s).Below (normalize t) ∧ ¬ (normalize s).Unseen (normalize t) ∨
        (normalize s).Leaves (normalize t)) ∧
    ((∃ name ∈ (normalize t).segments, name ≠ up) →
      ((normalize s).isWithin (normalize t) ↔ (normalize s).Below (normalize t))) ∧
    (normalize s).isWithin (normalize s) ∧
    (∀ u : String, (normalize s).isWithin (normalize t) → (normalize t).isWithin (normalize u) →
      (normalize s).isWithin (normalize u)) ∧
    ∀ dir, (normalize s).parent? = some dir →
      ((normalize s).isWithin dir ↔ (dir.text = "/" → (normalize s).text = "/")) := by
  have hs := canonical_normalize s
  have ht := canonical_normalize t
  refine ⟨isWithin_iff_below hs ht, isWithin_iff_below_of_name hs ht, isWithin_refl hs, ?_, ?_⟩
  · intro u
    exact isWithin_trans ht (canonical_normalize u)
  · intro dir found
    exact isWithin_parent_iff hs found

/-- A file that lies outside of the repository, in a directory with a name, and all that within a
directory that is reached by climbing. -/
theorem within_directory_climbing :
    let file := normalize "..//lib\\app/./x.ts"
    let lib := normalize "../lib/"
    (∃ name ∈ lib.segments, name ≠ up) ∧ file.Below lib ∧ file.isWithin lib ∧
      lib.isWithin (normalize "..") ∧ file.isWithin (normalize "..") ∧
      file.parent? = some ⟨"../lib/app"⟩ ∧ file.isWithin ⟨"../lib/app"⟩ := by
  intro file lib
  obtain ⟨-, within, -, chain, directory⟩ := within_directory "..//lib\\app/./x.ts" "../lib/"
  have name : ∃ name ∈ lib.segments, name ≠ up := ⟨"lib".toList, by decide +kernel, by decide⟩
  have below : file.Below lib := by decide +kernel
  have file_lib : file.isWithin lib := (within name).mpr below
  have lib_up : lib.isWithin (normalize "..") := by decide +kernel
  have found : file.parent? = some ⟨"../lib/app"⟩ := by decide +kernel
  refine ⟨name, below, file_lib, lib_up, chain ".." file_lib lib_up, found, ?_⟩
  exact (directory _ found).mpr fun top => absurd top (by decide)

/-- The three ways in which the text of a path is taken for what it is not. The root of the disk does
not hold what lies in it, not even as its directory; the root of the repository does not hold a name
that starts with two dots; and the directory above the repository seems to hold the one above it. -/
theorem below_misread :
    ((normalize "/x").Below (normalize "/") ∧ (normalize "/x").parent? = some (normalize "/") ∧
        ¬ (normalize "/x").isWithin (normalize "/")) ∧
      ((normalize "..a/b").Below (normalize ".") ∧
        ¬ (normalize "..a/b").isWithin (normalize ".")) ∧
      ¬ (normalize "../..").Below (normalize "..") ∧
        (normalize "../..").isWithin (normalize "..") := by
  decide +kernel

end ImportBoundary.Path
