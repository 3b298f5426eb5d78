import ImportBoundary.Proofs.Path.Below

/-!
# Paths as lists of segments

A canonical path says no more than whether it is absolute and which segments it has
(`toList_eq_spell`). What is asked of its text can so be asked of its segments. Being under a
directory that has segments is beginning with them (`isUnder_iff_prefix`), and the directory of a
relative path has all its segments but the last, unless these are none (`parent?_spec`). The two roots
have no segments. Whether a path is within one of them is asked of the text alone (`isWithin_iff`): the
root of the disk has nothing in it but itself, and in the root of the repository a name that starts with
two dots is not told from a segment that climbs.
-/

namespace ImportBoundary.Path

def segments (p : Path) : List Segment := fold p.isAbsolute (pieces p.toList)

/-- The segments of the directory of a path. The root, which has no segments, is the directory of a
path with one segment. -/
def folder (p : Path) : List Segment := p.segments.dropLast

/-- The path goes only down from the directory with the given segments. -/
def LiesIn (p : Path) (dir : List Segment) : Prop := ∃ below, p.segments = dir ++ below ∧ up ∉ below

/-- The text of the path starts with two dots, with a segment that climbs or with a name. -/
def Dotted (p : Path) : Prop := Text.startsWith up p.toList

structure Inside (p : Path) : Prop where
  relative : ¬ p.isAbsolute
  stays : ¬ p.Climbs

variable {p q d : Path} {dir shift : List Segment}

theorem liesIn_iff : p.LiesIn dir ↔ dir <+: p.segments ∧ up ∉ p.segments.drop dir.length := by
  constructor
  · rintro ⟨below, split, stays⟩
    rw [split, List.drop_left]
    exact ⟨List.prefix_append _ _, stays⟩
  · rintro ⟨⟨below, split⟩, stays⟩
    rw [← split, List.drop_left] at stays
    exact ⟨below, split.symm, stays⟩

instance : Decidable (p.LiesIn dir) := decidable_of_iff _ liesIn_iff.symm

instance : Decidable p.Dotted := inferInstanceAs (Decidable (Text.startsWith up p.toList = true))

instance : Decidable p.Inside :=
  decidable_of_iff (¬ p.isAbsolute ∧ ¬ p.Climbs) ⟨fun h => ⟨h.1, h.2⟩, fun h => ⟨h.1, h.2⟩⟩

/-- A path without segments that climb goes only down. -/
theorem liesIn_iff_prefix (stays : up ∉ p.segments) : p.LiesIn dir ↔ dir <+: p.segments := by
  rw [liesIn_iff, and_iff_left]
  exact fun mem => stays (List.mem_of_mem_drop mem)

theorem liesIn_nil (stays : up ∉ p.segments) : p.LiesIn [] :=
  ⟨p.segments, rfl, stays⟩

/-- Moving a path and a directory into a common directory changes nothing. -/
theorem liesIn_shift (moved : q.segments = shift ++ p.segments) :
    q.LiesIn (shift ++ dir) ↔ p.LiesIn dir := by
  unfold LiesIn
  simp only [moved, List.append_assoc, List.append_cancel_left_eq]

/-! ## Texts and segments

A path is given by its text, and its segments are found by folding the text again. For canonical paths
nothing is lost: the text is spelled from the segments. Relative paths have the exception of `.`, which
stands for no segments at all.
-/

theorem isAbsolute_iff_rooted (h : Canonical p.toList) : p.isAbsolute ↔ Rooted p.toList := by
  rw [isAbsolute, decide_eq_true_iff, ← head?_normalizeChars, normalizeChars_of_canonical h]

theorem Canonical.ne_nil {s : List Char} (h : Canonical s) : s ≠ [] := by
  rintro rfl
  exact absurd (normalizeChars_of_canonical h) (by decide)

/-- A canonical path is spelled from its segments. -/
theorem toList_eq_spell (h : Canonical p.toList) : p.toList = spell p.isAbsolute p.segments := by
  rw [segments]
  cases kind : p.isAbsolute with
  | true =>
      have rooted := (isAbsolute_iff_rooted h).mp kind
      conv_lhs => rw [← normalizeChars_of_canonical h]
      exact normalizeChars_of_rooted rooted
  | false =>
      have unrooted := mt (isAbsolute_iff_rooted h).mpr (Bool.eq_false_iff.mp kind)
      conv_lhs => rw [← normalizeChars_of_canonical h]
      exact normalizeChars_of_not_rooted unrooted

theorem plain_and_ne_here_of_mem_segments {s : Segment} (mem : s ∈ p.segments) :
    Plain s ∧ s ≠ ['.'] := by
  obtain ⟨n, names, split, -, named⟩ := exists_fold_pieces p.isAbsolute p.toList
  rw [segments, split] at mem
  refine ⟨plain_of_mem named mem, ?_⟩
  rcases List.mem_append.mp mem with mem | mem
  · rw [List.eq_of_mem_replicate mem]
    decide
  · exact (named s mem).ne_here

theorem toList_eq_intercalate (h : Canonical p.toList) (relative : ¬ p.isAbsolute)
    (ne : p.segments ≠ []) : p.toList = List.intercalate ['/'] p.segments := by
  rw [toList_eq_spell h, Bool.eq_false_iff.mpr relative]
  exact spell_false ne fun _ mem => (plain_and_ne_here_of_mem_segments mem).1

theorem segments_eq_nil_iff (h : Canonical p.toList) (relative : ¬ p.isAbsolute) :
    p.segments = [] ↔ p.text = "." := by
  constructor
  · intro none
    rw [← String.toList_inj]
    show p.toList = ['.']
    rw [toList_eq_spell h, none, Bool.eq_false_iff.mpr relative]
    rfl
  · intro here
    rw [segments, isAbsolute, toList, here]
    decide

/-- The pieces of a canonical text are its segments, behind the leading slash if there is one. -/
theorem pieces_toList (h : Canonical p.toList) (ne : p.segments ≠ []) :
    pieces p.toList = (if p.isAbsolute then [[]] else []) ++ p.segments := by
  have joined := pieces_intercalate ne fun _ mem => (plain_and_ne_here_of_mem_segments mem).1
  cases kind : p.isAbsolute with
  | true =>
      rw [toList_eq_spell h, kind, ← List.nil_append (spell _ _)]
      refine (pieces_append [] _).trans ?_
      rw [joined]
      rfl
  | false =>
      rw [toList_eq_intercalate h (Bool.eq_false_iff.mp kind) ne, joined]
      rfl

/-- The segments of a relative path can be read off its text. -/
theorem segments_eq_of_toList {names : List Segment} (h : Canonical p.toList)
    (relative : ¬ p.isAbsolute) (ne : names ≠ []) (proper : ∀ s ∈ names, Plain s ∧ s ≠ ['.'])
    (spelled : p.toList = List.intercalate ['/'] names) : p.segments = names := by
  have joined := pieces_intercalate ne fun s mem => (proper s mem).1
  rw [← spelled] at joined
  by_cases none : p.segments = []
  · -- The text is `.`, which is not made of proper segments.
    rw [toList_eq_spell h, none, Bool.eq_false_iff.mpr relative] at joined
    have here : ['.'] ∈ names := by
      rw [← joined]
      decide
    exact absurd rfl (proper _ here).2
  · rw [pieces_toList h none, Bool.eq_false_iff.mpr relative] at joined
    exact joined

theorem up_not_mem_segments (h : Canonical p.toList) (inside : p.Inside) : up ∉ p.segments := by
  have same : normalize p.text = p := (normalize_eq_iff p.text).mpr h
  have named := named_of_not_climbs (mt (isAbsolute_iff_rooted h).mpr inside.relative)
    (same.symm ▸ inside.stays)
  intro mem
  rw [segments, Bool.eq_false_iff.mpr inside.relative] at mem
  exact (named up mem).ne_up rfl

/-! ## Directories

A text that begins with the text of a directory and goes on with a slash is cut there into segments.
This needs segments on both sides, because the text of a directory without segments does not end where
a segment ends.
-/

theorem length_spell_nil (absolute : Bool) : (spell absolute []).length = 1 := by
  cases absolute <;> rfl

theorem spell_append {names more : List Segment} {absolute : Bool} (ne : names ≠ [])
    (ne_more : more ≠ []) (plain : ∀ s ∈ names ++ more, Plain s) :
    spell absolute (names ++ more) =
      spell absolute names ++ '/' :: List.intercalate ['/'] more := by
  have joined : List.intercalate ['/'] (names ++ more) =
      List.intercalate ['/'] names ++ '/' :: List.intercalate ['/'] more :=
    Text.intercalate_append ne ne_more
  cases absolute with
  | true => exact congrArg (List.cons '/') joined
  | false =>
      rw [spell_false (List.append_ne_nil_of_left_ne_nil ne more) plain, joined,
        spell_false ne fun s mem => plain s (List.mem_append_left more mem)]

/-- A path is under a directory that has segments if it begins with them. -/
theorem isUnder_iff_prefix (hp : Canonical p.toList) (hd : Canonical d.toList)
    (ne : d.segments ≠ []) :
    isUnder p.text d.text ↔ p.isAbsolute = d.isAbsolute ∧ d.segments <+: p.segments := by
  rw [isUnder_iff]
  show (∃ tail, p.toList = d.toList ++ tail ∧ Continues tail) ↔ _
  constructor
  · rintro ⟨tail, whole, goes⟩
    have start : p.isAbsolute = d.isAbsolute := by
      obtain ⟨c, rest, text⟩ := List.exists_cons_of_ne_nil hd.ne_nil
      rw [isAbsolute, isAbsolute, whole, text]
      rfl
    refine ⟨start, ?_⟩
    -- Behind the text of the directory is nothing, or a slash at which the text of the path is cut.
    cases tail with
    | nil =>
        rw [List.append_nil] at whole
        obtain rfl : p = d := congrArg Path.mk (String.toList_inj.mp whole)
        exact List.prefix_rfl
    | cons c rest =>
        rw [continues_cons.mp goes] at whole
        have ne_path : p.segments ≠ [] := by
          intro none
          have short := congrArg List.length (toList_eq_spell hp)
          rw [none, length_spell_nil, whole, List.length_append, List.length_cons] at short
          have := List.length_pos_of_ne_nil hd.ne_nil
          omega
        have parts := congrArg pieces whole
        rw [pieces_append, pieces_toList hp ne_path, pieces_toList hd ne, start, List.append_assoc,
          List.append_cancel_left_eq] at parts
        exact ⟨_, parts.symm⟩
  · rintro ⟨start, more, split⟩
    cases none : more with
    | nil =>
        refine ⟨[], ?_, continues_nil⟩
        rw [toList_eq_spell hp, toList_eq_spell hd, ← split, none, start, List.append_nil,
          List.append_nil]
    | cons s rest =>
        refine ⟨'/' :: List.intercalate ['/'] more, ?_, continues_cons.mpr rfl⟩
        have plain : ∀ s ∈ d.segments ++ more, Plain s := fun s mem =>
          (plain_and_ne_here_of_mem_segments (split ▸ mem)).1
        rw [toList_eq_spell hp, toList_eq_spell hd, ← split, start]
        exact spell_append ne (none ▸ List.cons_ne_nil s rest) plain

/-! ## The two roots

The root of the disk ends in the slash that `isUnder` looks for behind it, so nothing is under it but
itself. The root of the repository is written as a dot, and `isWithin` asks for it in its own way.
-/

theorem text_eq_here_iff (h : Canonical p.toList) :
    p.text = "." ↔ ¬ p.isAbsolute ∧ p.segments = [] := by
  constructor
  · intro here
    have relative : ¬ p.isAbsolute := by
      rw [isAbsolute, toList, here]
      decide
    exact ⟨relative, (segments_eq_nil_iff h relative).mpr here⟩
  · rintro ⟨relative, none⟩
    exact (segments_eq_nil_iff h relative).mp none

theorem toList_of_top (h : Canonical d.toList) (absolute : d.isAbsolute) (none : d.segments = []) :
    d.toList = ['/'] := by
  rw [toList_eq_spell h, absolute, none]
  rfl

/-- Under the root of the disk is nothing but the root. -/
theorem isUnder_top_iff (hp : Canonical p.toList) (hd : Canonical d.toList)
    (absolute : d.isAbsolute) (none : d.segments = []) : isUnder p.text d.text ↔ p = d := by
  have top := toList_of_top hd absolute none
  constructor
  · intro under
    obtain ⟨tail, whole, goes⟩ := isUnder_iff.mp under
    change p.toList = d.toList ++ tail at whole
    rw [top, List.singleton_append] at whole
    have rooted : p.isAbsolute = true := by
      rw [isAbsolute, whole]
      rfl
    have spelled := toList_eq_spell hp
    rw [rooted, whole] at spelled
    have joined : tail = List.intercalate ['/'] p.segments := (List.cons.inj spelled).2
    -- A segment would begin behind the slash, and with another character than a slash.
    have flat : p.segments = [] := by
      by_contra ne
      obtain ⟨c, rest, begins, slash, -⟩ := exists_intercalate_eq_cons ne fun _ mem =>
        (plain_and_ne_here_of_mem_segments mem).1
      rw [joined, begins] at goes
      exact slash (continues_cons.mp goes)
    have texts : p.toList = d.toList := by
      rw [whole, joined, flat, top]
      rfl
    exact congrArg Path.mk (String.toList_inj.mp texts)
  · rintro rfl
    exact isUnder_iff.mpr ⟨[], (List.append_nil _).symm, continues_nil⟩

/-- What is within a directory begins with its segments. The two roots have none and go by other
rules. -/
theorem isWithin_iff (hp : Canonical p.toList) (hd : Canonical d.toList) :
    p.isWithin d ↔
      if d.segments = [] then (if d.isAbsolute then p = d else ¬ p.isAbsolute ∧ ¬ p.Dotted)
      else p.isAbsolute = d.isAbsolute ∧ d.segments <+: p.segments := by
  unfold isWithin
  by_cases none : d.segments = []
  · rw [if_pos none]
    by_cases absolute : d.isAbsolute
    · rw [if_pos absolute, if_neg fun here => ((text_eq_here_iff hd).mp here).1 absolute]
      exact isUnder_top_iff hp hd absolute none
    · rw [if_neg absolute, if_pos ((text_eq_here_iff hd).mpr ⟨absolute, none⟩)]
      simp [Dotted]
  · rw [if_neg none, if_neg fun here => none ((text_eq_here_iff hd).mp here).2]
    exact isUnder_iff_prefix hp hd none

/-- Whether a relative path is within a relative directory. -/
theorem isWithin_iff_of_relative (hp : Canonical p.toList) (hd : Canonical d.toList)
    (relative : ¬ p.isAbsolute) (relative_dir : ¬ d.isAbsolute) :
    p.isWithin d ↔ if d.segments = [] then ¬ p.Dotted else d.segments <+: p.segments := by
  rw [isWithin_iff hp hd, if_neg relative_dir, and_iff_right relative,
    and_iff_right ((Bool.eq_false_iff.mpr relative).trans (Bool.eq_false_iff.mpr relative_dir).symm)]

/-! ## The parent

A relative path with one segment lies in the root, but there is no slash before which to cut its text,
so it has no parent.
-/

/-- The directory of a relative path has its segments but for the last one. There is no directory if
no segments are left. -/
theorem parent?_spec (h : Canonical p.toList) (relative : ¬ p.isAbsolute) :
    (p.folder = [] → p.parent? = none) ∧
      (p.folder ≠ [] → ∃ dir, p.parent? = some dir ∧ Canonical dir.toList ∧ ¬ dir.isAbsolute ∧
        dir.segments = p.folder) := by
  have proper (s : Segment) (mem : s ∈ p.segments) := plain_and_ne_here_of_mem_segments mem
  -- The last slash stands before the last segment, as that has no slash in it.
  rcases List.eq_nil_or_concat' p.segments with none | ⟨init, last, split⟩
  · rw [folder, none, parent?, toList_eq_spell h, none, Bool.eq_false_iff.mpr relative]
    exact ⟨fun _ => rfl, fun ne => absurd rfl ne⟩
  · rw [split, List.forall_mem_append, List.forall_mem_singleton] at proper
    have spelled := toList_eq_intercalate h relative (by simp [split])
    rw [split] at spelled
    rw [folder, split, List.dropLast_concat]
    constructor
    · rintro rfl
      rw [parent?, spelled, List.nil_append, List.intercalate_singleton,
        Text.beforeLast?_of_not_mem proper.2.1.slash]
      rfl
    · intro ne
      have cut := beforeLast?_intercalate proper.2.1 ne
      have plain : ∀ s ∈ init, Plain s := fun s mem => (proper.1 s mem).1
      obtain ⟨c, rest, joined, -⟩ := exists_intercalate_eq_cons ne plain
      have found : p.parent? = some ⟨String.ofList (List.intercalate ['/'] init)⟩ := by
        rw [parent?, spelled, cut, Option.map_some, if_neg (joined ▸ List.cons_ne_nil c rest)]
      have canonical := canonical_parent h found
      have relative_dir : ¬ isAbsolute ⟨String.ofList (List.intercalate ['/'] init)⟩ := by
        rw [isAbsolute_iff_rooted canonical, toList_ofList]
        exact not_rooted_intercalate plain
      refine ⟨_, found, canonical, relative_dir, ?_⟩
      exact segments_eq_of_toList canonical relative_dir ne proper.1 (toList_ofList _)

end ImportBoundary.Path
