import ImportBoundary.Host.Disk
import ImportBoundary.Proofs.Host.Files

/-!
# A disk is a lawful host

On a disk a name stands for the place to which its segments lead. Whether the directories on the way
are there does not matter for the place, so a name keeps it whatever is done to the disk (`place_put`).
What is put where no directory is blocks no way that was open (`locate_put`).
-/

namespace ImportBoundary.Disk

open FileName (Segment)
open Host (Alike Builds Keeps Lawful Looks)

variable {d : Disk} {time : Timestamp} {position p q : List Segment} {e : Entry} {name text : String}

/-! ### Places

The place of a name is found by folding its segments, without looking at the disk. Where a way leads at
all, it leads to that place.
-/

/-- Where a segment leads from a position, whether or not anything is there. -/
def turn (position : List Segment) (segment : Segment) : List Segment :=
  if segment = [] ∨ segment = ['.'] then position
  else if segment = ['.', '.'] then position.dropLast
  else position ++ [segment]

/-- The place that a name stands for. -/
def place (d : Disk) (name : String) : List Segment :=
  match name.toList with
  | '/' :: rest => (Text.split '/' rest).foldl turn []
  | chars => (Text.split '/' chars).foldl turn d.workDirectory

theorem place_put (d : Disk) (p : List Segment) (e : Entry) (name : String) :
    (d.put p e).place name = d.place name := rfl

/-- A way goes on from directories only. -/
theorem walk_cons_eq_ok_iff {segment : Segment} {rest : List Segment} :
    d.walk position (segment :: rest) = .ok p ↔
      d.find? position = some .directory ∧ d.walk (turn position segment) rest = .ok p := by
  rw [walk, turn]
  rcases d.find? position with _ | _ | text
  · simp
  · by_cases stays : segment = [] ∨ segment = ['.']
    · simp [stays]
    · by_cases back : segment = ['.', '.'] <;> simp [stays, back]
  · simp

theorem foldl_turn_of_walk {segments : List Segment} (walks : d.walk position segments = .ok p) :
    segments.foldl turn position = p := by
  induction segments generalizing position with
  | nil => exact Except.ok.inj walks
  | cons segment rest ih => exact ih (walk_cons_eq_ok_iff.mp walks).2

theorem place_eq_of_locate (located : d.locate name = .ok p) : d.place name = p := by
  unfold locate at located
  unfold place
  split at located
  · cases located
  · next spelled =>
    rw [spelled]
    exact foldl_turn_of_walk located
  · next relative =>
    split
    · next spelled => exact absurd spelled (relative _)
    · exact foldl_turn_of_walk located

/-! ### Putting something on a disk

Something is put under one place, and every other place keeps what it has.
-/

theorem find?_put_self (free : d.find? p ≠ some .directory) : (d.put p e).find? p = some e := by
  -- The root always is a directory.
  have below : p ≠ [] := by
    rintro rfl
    exact free rfl
  simp [find?, put, below]

theorem find?_put_of_ne (other : q ≠ p) : (d.put p e).find? q = d.find? q := by
  have kept : (d.entries.filter fun entry => entry.1 ≠ p).lookup q = d.entries.lookup q := by
    induction d.entries with
    | nil => rfl
    | cons entry rest ih =>
      obtain ⟨name, e⟩ := entry
      simp only [List.lookup_cons, List.filter_cons]
      by_cases dropped : name = p
      · subst dropped
        simp only [beq_eq_false_iff_ne.mpr other, ih, ne_eq, not_true_eq_false, decide_false,
          Bool.false_eq_true, if_false]
      · simp only [ne_eq, dropped, not_false_eq_true, decide_true, if_true, List.lookup_cons, ih]
  simp only [find?, put, List.lookup_cons, beq_eq_false_iff_ne.mpr other, kept]

/-- A way leads through directories only, so it is not blocked by what is put elsewhere. -/
theorem walk_put {segments : List Segment} (free : d.find? p ≠ some .directory)
    (walks : d.walk position segments = .ok q) : (d.put p e).walk position segments = .ok q := by
  induction segments generalizing position with
  | nil => exact walks
  | cons segment rest ih =>
    obtain ⟨here, onward⟩ := walk_cons_eq_ok_iff.mp walks
    have apart : position ≠ p := by
      rintro rfl
      exact free here
    exact walk_cons_eq_ok_iff.mpr ⟨(find?_put_of_ne apart).trans here, ih onward⟩

theorem locate_put (free : d.find? p ≠ some .directory) (located : d.locate name = .ok q) :
    (d.put p e).locate name = .ok q := by
  unfold locate at located ⊢
  split at located
  · cases located
  · exact walk_put free located
  · exact walk_put free located

/-! ### Texts

What is read under a name is the text at its place, if the way there is open.
-/

theorem entry_eq_ok_iff :
    d.entry name = .ok (p, e) ↔ d.locate name = .ok p ∧ d.find? p = some e := by
  unfold entry
  cases d.locate name with
  | error e => simp [bind, Except.bind]
  | ok q =>
    rcases found : d.find? q with _ | e'
    · simp only [bind, Except.bind, found, reduceCtorEq, false_iff]
      rintro ⟨⟨⟩, there⟩
      rw [found] at there
      cases there
    · simp only [bind, Except.bind, found, pure, Except.pure, Except.ok.injEq, Prod.mk.injEq]
      constructor
      · rintro ⟨rfl, rfl⟩
        exact ⟨rfl, found⟩
      · rintro ⟨rfl, there⟩
        rw [found] at there
        exact ⟨rfl, Option.some.inj there⟩

theorem read_eq_ok_iff :
    d.read name = .ok text ↔ ∃ p, d.locate name = .ok p ∧ d.find? p = some (.file text) := by
  simp only [← entry_eq_ok_iff]
  unfold read
  rcases d.entry name with e | ⟨p, _ | held⟩
  · simp [bind, Except.bind]
  · simp [bind, Except.bind]
  · simp [bind, Except.bind, pure, Except.pure]

/-- What is put where no directory is takes away no text, except under that place. -/
theorem keeps_put (free : d.find? p ≠ some .directory) :
    Keeps (host time) place (· = p) d (d.put p e) where
  file_eq := place_put d p e
  held_eq other held := by
    obtain ⟨q, located, found⟩ := read_eq_ok_iff.mp held
    have apart : q ≠ p := fun same => other ((place_eq_of_locate located).trans same)
    exact read_eq_ok_iff.mpr ⟨q, locate_put free located, (find?_put_of_ne apart).trans found⟩

/-- What is put where nothing is takes away no text. -/
theorem keeps_put_new (new : d.find? p = none) :
    Keeps (host time) place (fun _ => False) d (d.put p e) where
  file_eq := place_put d p e
  held_eq {name _} _ held := by
    have keeps : Keeps (host time) place (· = p) d (d.put p e) := keeps_put (by simp [new])
    refine keeps.held_eq (fun here => ?_) held
    obtain ⟨q, located, found⟩ := read_eq_ok_iff.mp held
    rw [← place_eq_of_locate located, here, new] at found
    cases found

/-! ### The operations

Looking leaves the disk as it is, and both operations that change it put one entry where no directory
is, or leave it as it is as well.
-/

theorem locateNew_eq_ok (located : d.locateNew name = .ok p) :
    d.locate name = .ok p ∧ d.find? p = none := by
  unfold locateNew at located
  cases somewhere : d.locate name with
  | error e => simp [somewhere, bind, Except.bind] at located
  | ok q =>
    cases found : d.find? q with
    | some e => simp [somewhere, found, bind, Except.bind] at located
    | none =>
      simp only [somewhere, found, bind, Except.bind, pure, Except.pure, Except.ok.injEq] at located
      subst located
      exact ⟨rfl, found⟩

theorem locateFile_eq_ok_iff : d.locateFile name = .ok p ↔
    endsWithSlash name = false ∧ d.locate name = .ok p ∧ d.find? p ≠ some .directory := by
  unfold locateFile
  by_cases slash : endsWithSlash name
  · simp only [slash, if_true, Bool.true_eq_false, false_and, iff_false]
    split
    · nofun
    · simp only [bind, Except.bind]
      split <;> nofun
  · simp only [slash, Bool.false_eq_true, if_false, true_and]
    cases d.locate name with
    | error e => simp [bind, Except.bind]
    | ok q =>
      simp only [bind, Except.bind, pure, Except.pure, Except.ok.injEq]
      split
      · next there =>
        simp only [reduceCtorEq, false_iff]
        rintro ⟨rfl, free⟩
        exact free there
      · next free =>
        simp only [Except.ok.injEq]
        exact ⟨fun same => ⟨same, same ▸ free⟩, And.left⟩

theorem looks_host (time : Timestamp) : Looks (host time) Eq where
  trans := Eq.trans
  there_eq name same := same ▸ rfl
  held_eq name same := same ▸ rfl
  canonical d name := by
    simp only [host, Host.run_bind]
    split <;> rfl
  isThere _ _ := rfl
  readText _ _ := rfl
  isDirectory d name := by
    simp only [host, Host.run_bind]
    split <;> rfl
  now _ := rfl

theorem alike_of_eq {d' : Disk} (same : d = d') : Alike (host time) place d d' := by
  subst same
  exact ⟨fun _ => rfl, fun _ => rfl, fun _ => rfl⟩

theorem run_makeDirectory (d : Disk) (name : String) :
    ((host time).makeDirectory name).run d =
      match d.locateNew name with
      | .error refusal => (.error refusal, d)
      | .ok p => (.ok (), d.put p .directory) := by
  change (change (d.locateNew name) .directory).run d = _
  cases d.locateNew name <;> rfl

theorem run_writeText (d : Disk) (name text : String) :
    ((host time).writeText name text).run d =
      match d.locateFile name with
      | .error refusal => (.error refusal, d)
      | .ok p => (.ok (), d.put p (.file text)) := by
  change (change (d.locateFile name) (.file text)).run d = _
  cases d.locateFile name <;> rfl

theorem run_writeText_eq_ok_iff {d' : Disk} :
    ((host time).writeText name text).run d = (.ok (), d') ↔
      ∃ p, d.locateFile name = .ok p ∧ d' = d.put p (.file text) := by
  rw [run_writeText]
  cases d.locateFile name with
  | error refusal =>
    constructor
    · rintro ⟨⟩
    · rintro ⟨_, ⟨⟩, _⟩
  | ok p =>
    constructor
    · rintro ⟨⟩
      exact ⟨p, rfl, rfl⟩
    · rintro ⟨_, ⟨⟩, rfl⟩
      rfl

/-- A machine with a disk is lawful. -/
theorem lawful_host (time : Timestamp) : Lawful (host time) place where
  canonical_alike d name := alike_of_eq ((looks_host time).canonical d name)
  isThere_alike d name := alike_of_eq ((looks_host time).isThere d name)
  readText_alike d name := alike_of_eq ((looks_host time).readText d name)
  isDirectory_alike d name := alike_of_eq ((looks_host time).isDirectory d name)
  now_alike d := alike_of_eq ((looks_host time).now d)
  makeDirectory_keeps d name := by
    rw [run_makeDirectory]
    cases located : d.locateNew name with
    | error e => exact .refl
    | ok p => exact keeps_put_new (locateNew_eq_ok located).2
  writeText_keeps written := by
    obtain ⟨p, placed, rfl⟩ := run_writeText_eq_ok_iff.mp written
    obtain ⟨-, located, free⟩ := locateFile_eq_ok_iff.mp placed
    rw [place_eq_of_locate located]
    exact keeps_put free
  held_writeText written := by
    obtain ⟨p, placed, rfl⟩ := run_writeText_eq_ok_iff.mp written
    obtain ⟨-, located, free⟩ := locateFile_eq_ok_iff.mp placed
    exact read_eq_ok_iff.mpr ⟨p, locate_put free located, find?_put_self free⟩

end ImportBoundary.Disk
