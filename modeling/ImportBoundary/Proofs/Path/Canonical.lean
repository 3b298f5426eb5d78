import ImportBoundary.Path.Basic

/-!
# Canonical paths

A segment is a name unless it is empty, `.` or `..`. Folding keeps a stack of names, and in a relative
path the segments `..` that climb out of where it begins are below all names (`Settled`). The text
that is spelled from such a stack is canonical (`Canonical`). Folding a canonical text gives the
stack back that it was spelled from, so the canonical texts are those that normalizing leaves alone
(`normalizeChars_eq_self_iff`).
-/

namespace ImportBoundary.Path

/-! ## Texts and their segments

Normalizing turns backslashes into slashes and splits the text at them. Segments come out empty where
two separators touch, so what a segment may be is said in three steps: it has no separator, it is not
empty, and it is a name.
-/

/-- The segments of a text, before they are folded. -/
def pieces (s : List Char) : List Segment := Text.split '/' (unifySlashes s)

/-- A text is rooted if it starts with a separator. -/
def Rooted (s : List Char) : Prop := s.head? = some '/' ∨ s.head? = some '\\'

/-- A segment that is not empty and has no separator in it. -/
structure Plain (s : Segment) : Prop where
  ne_nil : s ≠ []
  slash : '/' ∉ s
  backslash : '\\' ∉ s

/-- A segment that names something in a directory. -/
structure Named (s : Segment) : Prop extends Plain s where
  ne_here : s ≠ ['.']
  ne_up : s ≠ up

theorem plain_up : Plain up := by
  constructor <;> decide

theorem head?_unifySlashes {s : List Char} : (unifySlashes s).head? = some '/' ↔ Rooted s := by
  cases s with
  | nil => simp [unifySlashes, Rooted]
  | cons c s =>
      by_cases h : c = '\\'
      · simp [unifySlashes, Rooted, h]
      · simp [unifySlashes, Rooted, h]

theorem unifySlashes_append (a b : List Char) :
    unifySlashes (a ++ b) = unifySlashes a ++ unifySlashes b :=
  List.map_append

theorem unifySlashes_of_not_mem {s : List Char} (h : '\\' ∉ s) : unifySlashes s = s := by
  have kept : ∀ c ∈ s, (if c = '\\' then '/' else c) = c := by
    intro c mem
    apply if_neg
    rintro rfl
    exact h mem
  rw [unifySlashes, List.map_congr_left kept, List.map_id']

theorem pieces_append (a b : List Char) : pieces (a ++ '/' :: b) = pieces a ++ pieces b := by
  unfold pieces
  rw [unifySlashes_append]
  exact Text.split_append '/' (unifySlashes a) (unifySlashes b)

/-- No separator is left in a segment. -/
theorem not_mem_of_mem_pieces {s : List Char} {segment : Segment} (mem : segment ∈ pieces s) :
    '/' ∉ segment ∧ '\\' ∉ segment := by
  constructor
  · intro inside
    exact (Text.mem_of_mem_split mem inside).1 rfl
  · intro inside
    obtain ⟨c, -, same⟩ := List.mem_map.mp (Text.mem_of_mem_split mem inside).2
    split at same
    · cases same
    · next other => exact other same

/-! ## Folding

`Settled` is the invariant of folding: `push` keeps it, whatever the segment is, and the empty stack
has it. A stack has its deepest segment first, so the segments that climb are at its end, and at the
beginning of the text.
-/

/-- Kept segments, the deepest first: names, and below them segments `..`, of which an absolute path
has none. -/
inductive Settled (absolute : Bool) : List Segment → Prop
  | ups (n : Nat) (level : absolute = true → n = 0) : Settled absolute (List.replicate n up)
  | name {s : Segment} {stack : List Segment} (named : Named s) (below : Settled absolute stack) :
      Settled absolute (s :: stack)

variable {absolute : Bool} {stack segments names : List Segment}

theorem settled_nil : Settled absolute [] :=
  .ups 0 fun _ => rfl

theorem push_of_named {s : Segment} (named : Named s) : push absolute stack s = s :: stack := by
  unfold push
  rw [if_neg (not_or.mpr ⟨named.ne_nil, named.ne_here⟩), if_neg named.ne_up]

theorem foldl_push_of_named (named : ∀ s ∈ names, Named s) :
    names.foldl (push absolute) stack = names.reverse ++ stack := by
  induction names generalizing stack with
  | nil => rfl
  | cons s names ih =>
      obtain ⟨first, others⟩ := List.forall_mem_cons.mp named
      rw [List.foldl_cons, push_of_named first, ih others, List.reverse_cons, List.append_assoc,
        List.singleton_append]

/-- A relative path climbs as often as it says in the beginning. -/
theorem foldl_push_ups (n : Nat) :
    (List.replicate n up).foldl (push false) [] = List.replicate n up := by
  induction n with
  | zero => rfl
  | succ n ih =>
      rw [List.replicate_succ', List.foldl_append, ih]
      cases n with
      | zero => rfl
      | succ n =>
          rw [← List.replicate_succ']
          rfl

/-- One segment leaves a settled stack settled. -/
theorem Settled.push (settled : Settled absolute stack) {s : Segment} (slash : '/' ∉ s)
    (backslash : '\\' ∉ s) : Settled absolute (push absolute stack s) := by
  unfold Path.push
  split
  · exact settled
  · next other =>
    rw [not_or] at other
    split
    · -- A segment `..` takes a name away, and is kept where there is none.
      cases settled with
      | ups n level =>
          -- On top of segments that climb it climbs once more, which an absolute path cannot.
          cases n with
          | zero =>
              cases absolute with
              | false => exact .ups 1 nofun
              | true => exact settled_nil
          | succ n =>
              have relative : absolute = false :=
                Bool.eq_false_iff.mpr fun h => Nat.succ_ne_zero n (level h)
              rw [relative]
              exact .ups (n + 2) nofun
      | name named below =>
          show Settled absolute (if _ then _ else _)
          rw [if_neg named.ne_up]
          exact below
    · next ne_up => exact .name ⟨⟨other.1, slash, backslash⟩, other.2, ne_up⟩ settled

/-- Folding the segments of a text leaves a settled stack settled. -/
theorem Settled.foldl (settled : Settled absolute stack)
    (clean : ∀ s ∈ segments, '/' ∉ s ∧ '\\' ∉ s) :
    Settled absolute (segments.foldl (Path.push absolute) stack) := by
  induction segments generalizing stack with
  | nil => exact settled
  | cons s segments ih =>
      obtain ⟨first, others⟩ := List.forall_mem_cons.mp clean
      exact ih (settled.push first.1 first.2) others

theorem Settled.exists_reverse (settled : Settled absolute stack) :
    ∃ n names, stack.reverse = List.replicate n up ++ names ∧ (absolute = true → n = 0) ∧
      ∀ s ∈ names, Named s := by
  induction settled with
  | ups n level =>
      refine ⟨n, [], ?_, level, nofun⟩
      rw [List.reverse_replicate, List.append_nil]
  | @name s stack named below ih =>
      obtain ⟨n, names, split, level, all⟩ := ih
      refine ⟨n, names ++ [s], ?_, level, ?_⟩
      · rw [List.reverse_cons, split, List.append_assoc]
      · rw [List.forall_mem_append, List.forall_mem_singleton]
        exact ⟨all, named⟩

/-- A folded text begins with the segments that climb, and goes on with names. -/
theorem exists_fold_pieces (absolute : Bool) (s : List Char) :
    ∃ n names, fold absolute (pieces s) = List.replicate n up ++ names ∧
      (absolute = true → n = 0) ∧ ∀ s ∈ names, Named s := by
  have settled : Settled absolute ((pieces s).foldl (push absolute) []) :=
    settled_nil.foldl fun _ mem => not_mem_of_mem_pieces mem
  exact settled.exists_reverse

theorem named_of_mem_fold_pieces {s : List Char} {segment : Segment}
    (mem : segment ∈ fold true (pieces s)) : Named segment := by
  obtain ⟨n, names, split, level, named⟩ := exists_fold_pieces true s
  rw [split, level rfl] at mem
  exact named segment mem

theorem normalizeChars_of_rooted {s : List Char} (h : Rooted s) :
    normalizeChars s = '/' :: List.intercalate ['/'] (fold true (pieces s)) := by
  have absolute : decide ((unifySlashes s).head? = some '/') = true :=
    decide_eq_true (head?_unifySlashes.mpr h)
  unfold normalizeChars
  simp only [absolute]
  rfl

theorem normalizeChars_of_not_rooted {s : List Char} (h : ¬ Rooted s) :
    normalizeChars s = spell false (fold false (pieces s)) := by
  have relative : decide ((unifySlashes s).head? = some '/') = false :=
    decide_eq_false fun first => h (head?_unifySlashes.mp first)
  unfold normalizeChars
  simp only [relative]
  rfl

/-! ## Canonical texts

Every case of `Canonical` is a text that `spell` gives for a settled stack, with the roots by
themselves because they have no segments. In the other direction a canonical text is split into the
segments that it was joined from, and folding them changes nothing.
-/

/-- A canonical text is `.`, or `/`, or made of segments with one slash between them. Behind a leading
slash all segments are names. Without one, segments `..` may come first. -/
inductive Canonical : List Char → Prop
  | here : Canonical ['.']
  | top : Canonical ['/']
  | absolute {names : List Segment} (ne : names ≠ []) (named : ∀ s ∈ names, Named s) :
      Canonical ('/' :: List.intercalate ['/'] names)
  | relative (n : Nat) {names : List Segment} (ne : List.replicate n up ++ names ≠ [])
      (named : ∀ s ∈ names, Named s) :
      Canonical (List.intercalate ['/'] (List.replicate n up ++ names))

theorem plain_of_mem {n : Nat} (named : ∀ s ∈ names, Named s) {s : Segment}
    (mem : s ∈ List.replicate n up ++ names) : Plain s := by
  rcases List.mem_append.mp mem with mem | mem
  · rw [List.eq_of_mem_replicate mem]
    exact plain_up
  · exact (named s mem).toPlain

/-- Joined segments begin with a character of the first segment. -/
theorem exists_intercalate_eq_cons (ne : segments ≠ []) (plain : ∀ s ∈ segments, Plain s) :
    ∃ c rest, List.intercalate ['/'] segments = c :: rest ∧ c ≠ '/' ∧ c ≠ '\\' := by
  obtain ⟨first, more, rfl⟩ := List.exists_cons_of_ne_nil ne
  obtain ⟨ne_nil, slash, backslash⟩ := plain first List.mem_cons_self
  obtain ⟨c, chars, rfl⟩ := List.exists_cons_of_ne_nil ne_nil
  have other : c ≠ '/' ∧ c ≠ '\\' :=
    ⟨fun same => slash (same ▸ List.mem_cons_self),
      fun same => backslash (same ▸ List.mem_cons_self)⟩
  cases more with
  | nil => exact ⟨c, chars, List.intercalate_singleton, other⟩
  | cons next more => exact ⟨c, _, List.intercalate_cons_cons, other⟩

theorem not_rooted_intercalate (plain : ∀ s ∈ segments, Plain s) :
    ¬ Rooted (List.intercalate ['/'] segments) := by
  by_cases ne : segments = []
  · rw [ne]
    rintro (h | h) <;> cases h
  · obtain ⟨c, rest, joined, slash, backslash⟩ := exists_intercalate_eq_cons ne plain
    rw [joined]
    rintro (h | h)
    · exact slash (Option.some.inj h)
    · exact backslash (Option.some.inj h)

theorem spell_false (ne : segments ≠ []) (plain : ∀ s ∈ segments, Plain s) :
    spell false segments = List.intercalate ['/'] segments := by
  obtain ⟨c, rest, joined, -⟩ := exists_intercalate_eq_cons ne plain
  unfold spell
  rw [joined]

theorem not_rooted_spell (plain : ∀ s ∈ segments, Plain s) : ¬ Rooted (spell false segments) := by
  by_cases empty : segments = []
  · rw [empty]
    rintro (h | h) <;> cases h
  · rw [spell_false empty plain]
    exact not_rooted_intercalate plain

theorem not_rooted_normalizeChars {s : List Char} (h : ¬ Rooted s) :
    ¬ Rooted (normalizeChars s) := by
  obtain ⟨n, names, split, -, named⟩ := exists_fold_pieces false s
  rw [normalizeChars_of_not_rooted h]
  exact not_rooted_spell (split ▸ fun _ mem => plain_of_mem named mem)

theorem head?_normalizeChars {s : List Char} :
    (normalizeChars s).head? = some '/' ↔ Rooted s := by
  by_cases rooted : Rooted s
  · rw [normalizeChars_of_rooted rooted]
    exact iff_of_true rfl rooted
  · exact iff_of_false (fun first => not_rooted_normalizeChars rooted (.inl first)) rooted

theorem canonical_normalizeChars (s : List Char) : Canonical (normalizeChars s) := by
  by_cases rooted : Rooted s
  · rw [normalizeChars_of_rooted rooted]
    by_cases empty : fold true (pieces s) = []
    · rw [empty]
      exact .top
    · exact .absolute empty fun _ mem => named_of_mem_fold_pieces mem
  · rw [normalizeChars_of_not_rooted rooted]
    obtain ⟨n, names, split, -, named⟩ := exists_fold_pieces false s
    rw [split]
    by_cases empty : List.replicate n up ++ names = []
    · rw [empty]
      exact .here
    · rw [spell_false empty fun s mem => plain_of_mem named mem]
      exact .relative n empty named

theorem pieces_intercalate (ne : segments ≠ []) (plain : ∀ s ∈ segments, Plain s) :
    pieces (List.intercalate ['/'] segments) = segments := by
  have no_backslash : '\\' ∉ List.intercalate ['/'] segments := by
    intro mem
    rcases Text.mem_of_mem_intercalate mem with same | ⟨s, s_mem, inside⟩
    · cases same
    · exact (plain s s_mem).backslash inside
  rw [pieces, unifySlashes_of_not_mem no_backslash]
  exact Text.split_intercalate ne fun s mem => (plain s mem).slash

theorem normalizeChars_absolute (named : ∀ s ∈ names, Named s) :
    normalizeChars ('/' :: List.intercalate ['/'] names) =
      '/' :: List.intercalate ['/'] names := by
  rw [normalizeChars_of_rooted (.inl rfl)]
  have split : pieces ('/' :: List.intercalate ['/'] names) =
      [] :: pieces (List.intercalate ['/'] names) := pieces_append [] _
  by_cases ne : names = []
  · rw [ne]
    rfl
  · rw [split, pieces_intercalate ne fun s mem => (named s mem).toPlain]
    have folded : fold true ([] :: names) = names := by
      show (names.foldl (push true) []).reverse = names
      rw [foldl_push_of_named named, List.append_nil, List.reverse_reverse]
    rw [folded]

theorem normalizeChars_relative {n : Nat} (ne : List.replicate n up ++ names ≠ [])
    (named : ∀ s ∈ names, Named s) :
    normalizeChars (List.intercalate ['/'] (List.replicate n up ++ names)) =
      List.intercalate ['/'] (List.replicate n up ++ names) := by
  have plain : ∀ s ∈ List.replicate n up ++ names, Plain s := fun _ mem => plain_of_mem named mem
  have folded : fold false (List.replicate n up ++ names) = List.replicate n up ++ names := by
    rw [fold, List.foldl_append, foldl_push_ups, foldl_push_of_named named, List.reverse_append,
      List.reverse_reverse, List.reverse_replicate]
  rw [normalizeChars_of_not_rooted (not_rooted_intercalate plain), pieces_intercalate ne plain,
    folded, spell_false ne plain]

theorem normalizeChars_of_canonical {s : List Char} (h : Canonical s) : normalizeChars s = s := by
  cases h with
  | here => decide
  | top => decide
  | absolute ne named => exact normalizeChars_absolute named
  | relative n ne named => exact normalizeChars_relative ne named

/-- The canonical texts are those that normalizing leaves alone. -/
theorem normalizeChars_eq_self_iff {s : List Char} : normalizeChars s = s ↔ Canonical s := by
  constructor
  · intro same
    rw [← same]
    exact canonical_normalizeChars s
  · exact normalizeChars_of_canonical

end ImportBoundary.Path
