import ImportBoundary.Host.Directories

/-!
# Files behind names

A program sees the files of a host through their names only, and two names may stand for one file.
`Lawful` says what may be relied on at a host with a state: looking changes nothing, a new directory
takes away no text, and a file that has been written holds what was written, while the other files keep
their texts. Nothing is said about a write that is refused; it may have cut the file short.

`Lawful.writeFile` carries this over to a write that makes the directories on the way.
-/

namespace ImportBoundary.Host

variable {σ File : Type} {h : Host (StateM σ)} {file : σ → String → File} {s s₁ s₂ : σ}

theorem run_bind {α β : Type} (act : StateM σ α) (f : α → StateM σ β) (s : σ) :
    (act >>= f).run s = (f (act.run s).1).run (act.run s).2 := rfl

/-- What is read under a name. -/
def held (h : Host (StateM σ)) (s : σ) (name : String) : Except OsError String :=
  ((h.readText name).run s).1

/-- Whether something is there under a name. -/
def there (h : Host (StateM σ)) (s : σ) (name : String) : Bool := ((h.isThere name).run s).1

/-! ### What lies between two states

`Alike` is what looking keeps, `Keeps` what writing keeps. The second leaves some files out, those that
may have been written, and the exceptions of several steps add up.
-/

/-- Every name stands for the file it stood for, it is there if it was there, and the same is read
under it. -/
structure Alike (h : Host (StateM σ)) (file : σ → String → File) (s₁ s₂ : σ) : Prop where
  file_eq (name : String) : file s₂ name = file s₁ name
  there_eq (name : String) : h.there s₂ name = h.there s₁ name
  held_eq (name : String) : h.held s₂ name = h.held s₁ name

/-- Every name stands for the file it stood for, and no text is lost, except in some files. -/
structure Keeps (h : Host (StateM σ)) (file : σ → String → File) (except : File → Prop)
    (s₁ s₂ : σ) : Prop where
  file_eq (name : String) : file s₂ name = file s₁ name
  held_eq {name text : String} : ¬except (file s₁ name) → h.held s₁ name = .ok text →
    h.held s₂ name = .ok text

theorem Alike.trans {s₃ : σ} (first : Alike h file s₁ s₂) (next : Alike h file s₂ s₃) :
    Alike h file s₁ s₃ where
  file_eq name := (next.file_eq name).trans (first.file_eq name)
  there_eq name := (next.there_eq name).trans (first.there_eq name)
  held_eq name := (next.held_eq name).trans (first.held_eq name)

theorem Alike.keeps (alike : Alike h file s₁ s₂) {except : File → Prop} :
    Keeps h file except s₁ s₂ where
  file_eq := alike.file_eq
  held_eq _ held := (alike.held_eq _).trans held

theorem Keeps.refl {except : File → Prop} : Keeps h file except s s :=
  ⟨fun _ => rfl, fun _ held => held⟩

theorem Keeps.trans {except : File → Prop} {s₃ : σ} (first : Keeps h file except s₁ s₂)
    (next : Keeps h file except s₂ s₃) : Keeps h file except s₁ s₃ where
  file_eq name := (next.file_eq name).trans (first.file_eq name)
  held_eq {name _} other held :=
    next.held_eq (by rwa [first.file_eq name]) (first.held_eq other held)

theorem Keeps.mono {except others : File → Prop} (keeps : Keeps h file except s₁ s₂)
    (le : ∀ f, except f → others f) : Keeps h file others s₁ s₂ :=
  ⟨keeps.file_eq, fun other => keeps.held_eq fun f => other (le _ f)⟩

/-! ### What the operations keep

`Looks` and `Builds` leave open which relation is kept, because a disk satisfies them with a stronger
one than a lawful host does: there, looking keeps the whole disk.
-/

/-- Looking leads to a state that is like the one before, in that the same names are there and the same
is read under them. -/
structure Looks (h : Host (StateM σ)) (like : σ → σ → Prop) : Prop where
  trans {s₁ s₂ s₃ : σ} : like s₁ s₂ → like s₂ s₃ → like s₁ s₃
  there_eq {s₁ s₂ : σ} (name : String) : like s₁ s₂ → h.there s₂ name = h.there s₁ name
  held_eq {s₁ s₂ : σ} (name : String) : like s₁ s₂ → h.held s₂ name = h.held s₁ name
  canonical (s : σ) (name : String) : like s ((h.canonical? name).run s).2
  isThere (s : σ) (name : String) : like s ((h.isThere name).run s).2
  readText (s : σ) (name : String) : like s ((h.readText name).run s).2
  isDirectory (s : σ) (name : String) : like s ((h.isDirectory name).run s).2
  now (s : σ) : like s (h.now.run s).2

/-- Making directories keeps a relation to the first state. -/
structure Builds (h : Host (StateM σ)) (keeps : σ → σ → Prop) : Prop where
  refl (s : σ) : keeps s s
  trans {s₁ s₂ s₃ : σ} : keeps s₁ s₂ → keeps s₂ s₃ → keeps s₁ s₃
  isDirectory (s : σ) (name : String) : keeps s ((h.isDirectory name).run s).2
  makeDirectory (s : σ) (name : String) : keeps s ((h.makeDirectory name).run s).2

namespace Builds

variable {keeps : σ → σ → Prop} (builds : Builds h keeps)

include builds

theorem settle (s : σ) (name : String) (refusal : OsError) :
    keeps s ((h.settle name refusal).run s).2 := by
  unfold Host.settle
  by_cases there : refusal = .alreadyExists
  · rw [if_pos there, run_bind]
    have looked := builds.isDirectory s name
    split <;> exact looked
  · rw [if_neg there]
    exact builds.refl s

/-- By induction on the directories that may be missing. -/
theorem makeChain (s : σ) (names : List String) : keeps s ((h.makeChain names).run s).2 := by
  induction names generalizing s with
  | nil => exact builds.refl s
  | cons name above ih =>
    rw [Host.makeChain, run_bind]
    have made := builds.makeDirectory s name
    split
    · exact made
    · -- The directory above is missing. It is made first, and then this one.
      rw [run_bind]
      have madeAbove := builds.trans made (ih _)
      split
      · exact madeAbove
      · rw [run_bind]
        have madeAgain := builds.trans madeAbove (builds.makeDirectory _ name)
        split
        · exact madeAgain
        · exact builds.trans madeAgain (builds.settle _ _ _)
    · exact builds.trans made (builds.settle _ _ _)

theorem prepare (s : σ) (name : String) : keeps s ((h.prepare name).run s).2 := by
  unfold Host.prepare
  split
  · exact builds.refl s
  · exact builds.makeChain _ _

end Builds

/-- A file is written exactly if the directories on the way are made and the file itself is written. -/
theorem run_writeFile_eq_ok_iff {kind name text : String} :
    (h.writeFile kind name text).run s₁ = (.ok (), s₂) ↔
      ∃ s, (h.prepare name).run s₁ = (.ok (), s) ∧ (h.writeText name text).run s = (.ok (), s₂) := by
  unfold writeFile
  rw [run_bind]
  rcases (h.prepare name).run s₁ with ⟨_ | _, s⟩
  · constructor
    · rintro ⟨⟩
    · rintro ⟨_, ⟨⟩, _⟩
  · dsimp only
    rw [run_bind]
    rcases written : (h.writeText name text).run s with ⟨_ | _, s'⟩
    · constructor
      · rintro ⟨⟩
      · rintro ⟨_, ⟨⟩, refused⟩
        rw [written] at refused
        cases refused
    · constructor
      · rintro ⟨⟩
        exact ⟨s, rfl, written⟩
      · rintro ⟨_, ⟨⟩, accepted⟩
        rw [written] at accepted
        cases accepted
        rfl

/-! ### Lawful hosts

The laws are those of single operations. That any of them may be refused at any time is left open.
-/

/-- What may be relied on at a host, where `file` says which file a name stands for. -/
structure Lawful (h : Host (StateM σ)) (file : σ → String → File) : Prop where
  canonical_alike (s : σ) (name : String) : Alike h file s ((h.canonical? name).run s).2
  isThere_alike (s : σ) (name : String) : Alike h file s ((h.isThere name).run s).2
  readText_alike (s : σ) (name : String) : Alike h file s ((h.readText name).run s).2
  isDirectory_alike (s : σ) (name : String) : Alike h file s ((h.isDirectory name).run s).2
  now_alike (s : σ) : Alike h file s (h.now.run s).2
  makeDirectory_keeps (s : σ) (name : String) :
    Keeps h file (fun _ => False) s ((h.makeDirectory name).run s).2
  writeText_keeps {s s' : σ} {name text : String} :
    (h.writeText name text).run s = (.ok (), s') → Keeps h file (· = file s name) s s'
  held_writeText {s s' : σ} {name text : String} :
    (h.writeText name text).run s = (.ok (), s') → h.held s' name = .ok text

namespace Lawful

theorem looks (lawful : Lawful h file) : Looks h (Alike h file) where
  trans := Alike.trans
  there_eq name alike := alike.there_eq name
  held_eq name alike := alike.held_eq name
  canonical := lawful.canonical_alike
  isThere := lawful.isThere_alike
  readText := lawful.readText_alike
  isDirectory := lawful.isDirectory_alike
  now := lawful.now_alike

theorem builds (lawful : Lawful h file) : Builds h (Keeps h file fun _ => False) where
  refl _ := .refl
  trans := Keeps.trans
  isDirectory s name := (lawful.isDirectory_alike s name).keeps
  makeDirectory := lawful.makeDirectory_keeps

/-- A file that has been written holds what was written, and the other files keep their texts. -/
theorem writeFile (lawful : Lawful h file) {kind name text : String}
    (written : (h.writeFile kind name text).run s₁ = (.ok (), s₂)) :
    Keeps h file (· = file s₁ name) s₁ s₂ ∧ h.held s₂ name = .ok text := by
  obtain ⟨s, prepared, written⟩ := run_writeFile_eq_ok_iff.mp written
  have before := lawful.builds.prepare s₁ name
  rw [prepared] at before
  have keeps := lawful.writeText_keeps written
  rw [before.file_eq] at keeps
  exact ⟨(before.mono fun _ => False.elim).trans keeps, lawful.held_writeText written⟩

end Lawful

end ImportBoundary.Host
