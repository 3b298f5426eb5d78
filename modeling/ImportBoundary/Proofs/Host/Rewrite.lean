import ImportBoundary.Proofs.Host.Disk

/-!
# Writing a file again

On a disk a file that could be written once can be written again, whatever else has been written in the
meantime (`writeFile_again`). A disk only grows: directories stay directories and files stay files
(`Grows`). So the directories on the way to the file are still there, and nothing blocks the way.

This is where a disk does more than the laws ask for. A lawful host may refuse the second write; on a
disk there is no reason to.
-/

namespace ImportBoundary.Disk

open FileName (Segment)
open Host (Builds)

variable {d d' d₁ d₂ : Disk} {time : Timestamp} {p q : List Segment} {e : Entry}
  {kind name text : String}

/-! ### Growth

Everything that a program does to a disk lets it grow, so one lemma for `put` is enough.
-/

/-- Directories stay directories, and files stay files. -/
structure Grows (d d' : Disk) : Prop where
  workDirectory : d'.workDirectory = d.workDirectory
  directory {p : List Segment} : d.find? p = some .directory → d'.find? p = some .directory
  file {p : List Segment} {text : String} : d.find? p = some (.file text) →
    ∃ text', d'.find? p = some (.file text')

namespace Grows

theorem refl (d : Disk) : Grows d d := ⟨rfl, id, fun {_ text} there => ⟨text, there⟩⟩

theorem trans {d₃ : Disk} (first : Grows d₁ d₂) (next : Grows d₂ d₃) : Grows d₁ d₃ where
  workDirectory := next.workDirectory.trans first.workDirectory
  directory there := next.directory (first.directory there)
  file there :=
    let ⟨_, still⟩ := first.file there
    next.file still

theorem walk (grows : Grows d d') {position : List Segment} {segments : List Segment}
    (walks : d.walk position segments = .ok p) : d'.walk position segments = .ok p := by
  induction segments generalizing position with
  | nil => exact walks
  | cons segment rest ih =>
    obtain ⟨here, onward⟩ := walk_cons_eq_ok_iff.mp walks
    exact walk_cons_eq_ok_iff.mpr ⟨grows.directory here, ih onward⟩

theorem locate (grows : Grows d d') (located : d.locate name = .ok p) : d'.locate name = .ok p := by
  unfold Disk.locate at located ⊢
  split at located
  · cases located
  · exact grows.walk located
  · rw [grows.workDirectory]
    exact grows.walk located

end Grows

/-- A disk grows by what is put where nothing is, and by a file that is put in the place of another. -/
theorem grows_put (free : d.find? p ≠ some .directory)
    (fits : d.find? p = none ∨ ∃ text, e = .file text) : Grows d (d.put p e) where
  workDirectory := rfl
  directory {q} there := by
    have apart : q ≠ p := by
      rintro rfl
      exact free there
    exact (find?_put_of_ne apart).trans there
  file {q text} there := by
    by_cases same : q = p
    · subst same
      rcases fits with new | ⟨text', rfl⟩
      · rw [new] at there
        cases there
      · exact ⟨text', find?_put_self free⟩
    · exact ⟨text, (find?_put_of_ne same).trans there⟩

theorem builds_grows (time : Timestamp) : Builds (host time) Grows where
  refl := .refl
  trans := Grows.trans
  isDirectory d name := (looks_host time).isDirectory d name ▸ .refl d
  makeDirectory d name := by
    rw [run_makeDirectory]
    cases located : d.locateNew name with
    | error refusal => exact .refl d
    | ok p =>
      have new := (locateNew_eq_ok located).2
      exact grows_put (by simp [new]) (.inl new)

theorem grows_writeText (time : Timestamp) (d : Disk) (name text : String) :
    Grows d (((host time).writeText name text).run d).2 := by
  rw [run_writeText]
  cases placed : d.locateFile name with
  | error refusal => exact .refl d
  | ok p => exact grows_put (locateFile_eq_ok_iff.mp placed).2.2 (.inr ⟨text, rfl⟩)

theorem grows_writeFile (time : Timestamp) (d : Disk) (kind name text : String) :
    Grows d (((host time).writeFile kind name text).run d).2 := by
  have prepared := (builds_grows time).prepare d name
  unfold Host.writeFile
  rw [Host.run_bind]
  split
  · exact prepared
  · exact prepared.trans (grows_writeText time _ name text)

/-! ### Directories

The directories on the way are made from the outermost one inwards. The induction is on the names that
may be missing; once a name stands for a directory, every later attempt finds it there.
-/

/-- A name stands for a directory. -/
def IsDirectory (d : Disk) (name : String) : Prop :=
  ∃ p, d.locate name = .ok p ∧ d.find? p = some .directory

theorem IsDirectory.grows (there : d.IsDirectory name) (grows : Grows d d') : d'.IsDirectory name := by
  obtain ⟨p, located, found⟩ := there
  exact ⟨p, grows.locate located, grows.directory found⟩

theorem isDirectory_host (time : Timestamp) :
    (((host time).isDirectory name).run d).1 = true ↔ d.IsDirectory name := by
  simp only [host, Host.run_bind]
  constructor
  · intro answered
    split at answered
    · next p found => exact ⟨p, entry_eq_ok_iff.mp found⟩
    · cases answered
  · rintro ⟨p, there⟩
    have found := entry_eq_ok_iff.mpr there
    split
    · rfl
    · next other => exact absurd found (other p)

/-- What is a directory is not made again. -/
theorem run_makeDirectory_of_isDirectory (there : d.IsDirectory name) :
    ((host time).makeDirectory name).run d = (.error .alreadyExists, d) := by
  obtain ⟨p, located, found⟩ := there
  have refused : d.locateNew name = .error .alreadyExists := by
    simp [locateNew, located, found, bind, Except.bind]
  rw [run_makeDirectory, refused]

/-- A directory that is refused because it is there is settled, and nothing else is. -/
theorem run_settle_eq_ok_iff {refusal : OsError} :
    ((host time).settle name refusal).run d = (.ok (), d') ↔
      refusal = .alreadyExists ∧ d.IsDirectory name ∧ d' = d := by
  have same : (((host time).isDirectory name).run d).2 = d :=
    ((looks_host time).isDirectory d name).symm
  unfold Host.settle
  -- Other refusals are not looked into.
  by_cases known : refusal = .alreadyExists
  · rw [if_pos known, Host.run_bind, same, ← isDirectory_host time]
    split
    · next there =>
      constructor
      · rintro ⟨⟩
        exact ⟨known, there, rfl⟩
      · rintro ⟨-, -, rfl⟩
        rfl
    · next missing =>
      constructor
      · rintro ⟨⟩
      · rintro ⟨-, there, -⟩
        exact absurd there missing
  · rw [if_neg known]
    constructor
    · rintro ⟨⟩
    · rintro ⟨there, -, -⟩
      exact absurd there known

theorem run_makeChain_of_isDirectory (there : d.IsDirectory name) (above : List String) :
    ((host time).makeChain (name :: above)).run d = (.ok (), d) := by
  rw [Host.makeChain, Host.run_bind, run_makeDirectory_of_isDirectory there]
  exact run_settle_eq_ok_iff.mpr ⟨rfl, there, rfl⟩

theorem isDirectory_of_makeDirectory (made : ((host time).makeDirectory name).run d = (.ok (), d')) :
    d'.IsDirectory name := by
  rw [run_makeDirectory] at made
  cases placed : d.locateNew name with
  | error refusal =>
    rw [placed] at made
    cases made
  | ok p =>
    rw [placed] at made
    cases made
    obtain ⟨located, new⟩ := locateNew_eq_ok placed
    have free : d.find? p ≠ some .directory := by simp [new]
    exact ⟨p, locate_put free located, find?_put_self free⟩

/-- After a chain of directories has been made, the first one is there. -/
theorem isDirectory_of_makeChain {above : List String}
    (made : ((host time).makeChain (name :: above)).run d = (.ok (), d')) : d'.IsDirectory name := by
  have settled {d : Disk} {refusal : OsError}
      (settled : ((host time).settle name refusal).run d = (.ok (), d')) : d'.IsDirectory name := by
    obtain ⟨-, there, rfl⟩ := run_settle_eq_ok_iff.mp settled
    exact there
  rw [Host.makeChain, Host.run_bind] at made
  rcases first : ((host time).makeDirectory name).run d with ⟨refusal | _, d₁⟩
  · rw [first] at made
    cases refusal with
    | noEntry =>
      -- The directory is made after those above it.
      dsimp only at made
      rw [Host.run_bind] at made
      rcases second : ((host time).makeChain above).run d₁ with ⟨_ | _, d₂⟩
      · rw [second] at made
        cases made
      · rw [second] at made
        dsimp only at made
        rw [Host.run_bind] at made
        rcases third : ((host time).makeDirectory name).run d₂ with ⟨refusal | _, d₃⟩
        · rw [third] at made
          exact settled made
        · rw [third] at made
          cases made
          exact isDirectory_of_makeDirectory third
    | _ => exact settled made
  · rw [first] at made
    cases made
    exact isDirectory_of_makeDirectory first

/-- A chain of directories that has been made is there and need not be made again. -/
theorem makeChain_again {names : List String}
    (made : ((host time).makeChain names).run d = (.ok (), d₁)) (grows : Grows d₁ d₂) :
    ((host time).makeChain names).run d₂ = (.ok (), d₂) := by
  cases names with
  | nil => rfl
  | cons first above =>
    have there := (isDirectory_of_makeChain made).grows grows
    exact run_makeChain_of_isDirectory there above

theorem prepare_again (prepared : ((host time).prepare name).run d = (.ok (), d₁))
    (grows : Grows d₁ d₂) : ((host time).prepare name).run d₂ = (.ok (), d₂) := by
  unfold Host.prepare Host.makeDirectories at prepared ⊢
  cases asked : Host.directoryOf? name with
  | none => rfl
  | some directory =>
    rw [asked] at prepared
    dsimp only at prepared ⊢
    rw [Host.run_bind] at prepared ⊢
    generalize (FileName.ancestors directory).dropLast = names at prepared ⊢
    rcases made : ((host time).makeChain names).run d with ⟨_ | _, d'⟩
    · rw [made] at prepared
      cases prepared
    · rw [made] at prepared
      cases prepared
      rw [makeChain_again made grows]
      rfl

/-- A file that has been written can be written again. -/
theorem writeFile_again (written : ((host time).writeFile kind name text).run d = (.ok (), d₁))
    (grows : Grows d₁ d₂) (kind' text' : String) :
    ∃ d₃, ((host time).writeFile kind' name text').run d₂ = (.ok (), d₃) := by
  obtain ⟨before, prepared, written⟩ := Host.run_writeFile_eq_ok_iff.mp written
  obtain ⟨p, placed, rfl⟩ := run_writeText_eq_ok_iff.mp written
  obtain ⟨slash, located, free⟩ := locateFile_eq_ok_iff.mp placed
  have grows_before := (grows_put free (.inr ⟨text, rfl⟩)).trans grows
  have prepared_again := prepare_again prepared grows_before
  obtain ⟨text'', there⟩ := grows.file (find?_put_self free)
  have placed_again : d₂.locateFile name = .ok p :=
    locateFile_eq_ok_iff.mpr ⟨slash, grows_before.locate located, by simp [there]⟩
  exact ⟨_, Host.run_writeFile_eq_ok_iff.mpr
    ⟨d₂, prepared_again, run_writeText_eq_ok_iff.mpr ⟨p, placed_again, rfl⟩⟩⟩

/-- Whether a file can be written is not a matter of its text. -/
theorem writeFile_other (written : ((host time).writeFile kind name text).run d = (.ok (), d₁))
    (kind' text' : String) :
    ∃ d₂, ((host time).writeFile kind' name text').run d = (.ok (), d₂) := by
  obtain ⟨before, prepared, written⟩ := Host.run_writeFile_eq_ok_iff.mp written
  obtain ⟨p, placed, rfl⟩ := run_writeText_eq_ok_iff.mp written
  exact ⟨_, Host.run_writeFile_eq_ok_iff.mpr
    ⟨before, prepared, run_writeText_eq_ok_iff.mpr ⟨p, placed, rfl⟩⟩⟩

end ImportBoundary.Disk
