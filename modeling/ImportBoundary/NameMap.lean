/-!
# Maps with names as keys

A `NameMap` holds its entries in the order of their names, and each name once, so two maps with the
same entries are equal. `insert` writes over the entry of a name or adds one at its place.

That the names rise is part of a map, so no statement about maps has to ask for it.
-/

namespace ImportBoundary

universe u v

structure NameMap (α : Type u) where
  entries : List (String × α)
  /-- The names rise from entry to entry. -/
  rising : entries.Pairwise fun a b => a.1 < b.1 := by simp
deriving DecidableEq

namespace NameMap

variable {α : Type u} {β : Type v}

/-- Writes over the entry of a name, or adds one at its place. -/
def place (name : String) (value : α) : List (String × α) → List (String × α)
  | [] => [(name, value)]
  | (n, v) :: rest =>
    if name = n then (name, value) :: rest
    else if name < n then (name, value) :: (n, v) :: rest
    else (n, v) :: place name value rest

/-- Every entry is the placed one or was there before. -/
theorem mem_place {name : String} {value : α} {entries : List (String × α)} {e : String × α}
    (h : e ∈ place name value entries) : e = (name, value) ∨ e ∈ entries := by
  induction entries with
  | nil => simpa [place] using h
  | cons first rest ih =>
    unfold place at h
    split at h
    · grind
    · split at h <;> grind

theorem lt_of_ne_of_not_lt {a b : String} (ne : a ≠ b) (h : ¬ a < b) : b < a := by
  apply Decidable.byContradiction
  intro h'
  exact ne (String.le_antisymm (String.not_lt.1 h') (String.not_lt.1 h))

/-- Placing keeps the order of the names. -/
theorem rising_place {entries : List (String × α)} (name : String) (value : α)
    (rising : entries.Pairwise fun a b => a.1 < b.1) :
    (place name value entries).Pairwise fun a b => a.1 < b.1 := by
  induction entries with
  | nil => simp [place]
  | cons first rest ih =>
    obtain ⟨above, rest_rising⟩ := List.pairwise_cons.1 rising
    unfold place
    split
    · next same =>
      exact List.pairwise_cons.2 ⟨fun e he => same ▸ above e he, rest_rising⟩
    · next differs =>
      split
      · next before =>
        refine List.pairwise_cons.2 ⟨fun e he => ?_, rising⟩
        rcases List.mem_cons.1 he with rfl | he
        · exact before
        · exact String.lt_trans before (above e he)
      · next not_before =>
        refine List.pairwise_cons.2 ⟨fun e he => ?_, ih rest_rising⟩
        rcases mem_place he with rfl | he
        · exact lt_of_ne_of_not_lt differs not_before
        · exact above e he

def empty : NameMap α := { entries := [] }

def insert (m : NameMap α) (name : String) (value : α) : NameMap α :=
  ⟨place name value m.entries, rising_place name value m.rising⟩

/-- The map of a list of entries; of entries with the same name the last one stays. -/
def ofList (entries : List (String × α)) : NameMap α :=
  entries.foldl (fun m e => m.insert e.1 e.2) empty

def get? (m : NameMap α) (name : String) : Option α := m.entries.lookup name

def map (f : α → β) (m : NameMap α) : NameMap β :=
  ⟨m.entries.map fun e => (e.1, f e.2), List.pairwise_map.2 m.rising⟩

end NameMap

end ImportBoundary
