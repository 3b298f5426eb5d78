import ImportBoundary.Json.Parser
import ImportBoundary.Proofs.Json.Canonical
import ImportBoundary.Proofs.Json.Token

/-!
# Reading values as documents

The machine that consumes the tokens of a value ends behind the value, with the stack it began with
(`run?_tokens`): a bracket pushes a frame, the items or members inside are gathered in it, and the
closing bracket takes it away. Together with the scan this reads an indented text as the node of the
value it was made of (`nodeParse?_pretty`), and keeps it as the value in canonical form
(`parse?_pretty`).
-/

namespace ImportBoundary.Json

namespace State

variable {stack : List Frame} {ts : List Token}

/-- The first item of an array is read as any other. -/
theorem run?_firstItem (item : Json) (items : List Json) :
    run? (.firstItem stack) (itemTokens (item :: items) ++ ts) =
      run? (.nextValue (.array [] :: stack)) (itemTokens (item :: items) ++ ts) := by
  cases items <;> cases item <;> rfl

/-- The first member of an object is read as any other. -/
theorem run?_firstName (m : String × Json) (members : List (String × Json)) :
    run? (.firstName stack) (memberTokens (m :: members) ++ ts) =
      run? (.nextName [] stack) (memberTokens (m :: members) ++ ts) := by
  cases members <;> rfl

theorem run?_cons {state next : State} {token : Token} (h : step? state token = some next) :
    run? state (token :: ts) = run? next ts := by
  rw [run?, h, Option.bind_some]

mutual

/-- The tokens of a value take the machine behind the value. -/
theorem run?_tokens (stack : List Frame) (ts : List Token) : (v : Json) →
    run? (.nextValue stack) (tokens v ++ ts) = run? (.after (Node.ofJson v) stack) ts
  | .null => rfl
  | .bool _ => rfl
  | .number _ => rfl
  | .string _ => rfl
  | .array [] => rfl
  | .array (item :: items) => by
    rw [tokens, List.append_assoc, List.cons_append, run?_cons rfl, List.singleton_append,
      run?_firstItem, run?_itemTokens stack ts [] (item :: items) (List.cons_ne_nil _ _)]
    rfl
  | .object [] => rfl
  | .object (m :: members) => by
    rw [tokens, List.append_assoc, List.cons_append, run?_cons rfl, List.singleton_append,
      run?_firstName, run?_memberTokens stack ts [] (m :: members) (List.cons_ne_nil _ _)]
    rfl

/-- The items that are left are gathered behind those that were read. -/
theorem run?_itemTokens (stack : List Frame) (ts : List Token) (read : List Node) :
    (items : List Json) → items ≠ [] →
    run? (.nextValue (.array read :: stack)) (itemTokens items ++ .closeArray :: ts) =
      run? (.after (.array (read.reverse ++ Node.ofItems items)) stack) ts
  | [], ne => absurd rfl ne
  | [item], _ => by
    rw [itemTokens, run?_tokens, run?_cons rfl, List.reverse_cons]
    rfl
  | item :: next :: items, _ => by
    have split : itemTokens (item :: next :: items) =
        tokens item ++ .comma :: itemTokens (next :: items) := rfl
    rw [split, List.append_assoc, run?_tokens, List.cons_append, run?_cons rfl,
      run?_itemTokens stack ts (Node.ofJson item :: read) (next :: items) (List.cons_ne_nil _ _),
      List.reverse_cons, List.append_assoc]
    rfl

theorem run?_memberTokens (stack : List Frame) (ts : List Token)
    (read : List (Option String × Node)) : (members : List (String × Json)) → members ≠ [] →
    run? (.nextName read stack) (memberTokens members ++ .closeObject :: ts) =
      run? (.after (.object (read.reverse ++ Node.ofMembers members)) stack) ts
  | [], ne => absurd rfl ne
  | [(name, value)], _ => by
    rw [memberTokens, List.cons_append, run?_cons rfl, List.cons_append, run?_cons rfl, run?_tokens,
      run?_cons rfl, List.reverse_cons]
    rfl
  | (name, value) :: next :: members, _ => by
    have split : memberTokens ((name, value) :: next :: members) = .string (some name) ::
        .colon :: (tokens value ++ .comma :: memberTokens (next :: members)) := rfl
    rw [split, List.cons_append, run?_cons rfl, List.cons_append, run?_cons rfl,
      List.append_assoc, run?_tokens, List.cons_append, run?_cons rfl,
      run?_memberTokens stack ts ((some name, Node.ofJson value) :: read) (next :: members)
        (List.cons_ne_nil _ _),
      List.reverse_cons, List.append_assoc]
    rfl

end

end State

/-- The tokens of a value spell its node. -/
theorem ofTokens?_tokens (v : Json) : Node.ofTokens? (tokens v) = some (Node.ofJson v) := by
  have run := State.run?_tokens [] [] v
  rw [List.append_nil] at run
  rw [Node.ofTokens?, run]
  rfl

/-- The indented text of a value is read as the node of the value. -/
theorem nodeParse?_pretty {v : Json} (whole : Whole v) :
    Node.parse? v.pretty = some (Node.ofJson v) := by
  have scan := scan?_prettyChars 0 v whole separated_nil (by rw [Token.scan?])
  rw [List.append_nil, List.append_nil] at scan
  rw [Node.parse?, pretty, String.toList_ofList, scan, Option.bind_some, ofTokens?_tokens]

/-! ## What is written and kept

A text may nest as deep as it likes when it is only scanned, but what is kept has a bound. `Printable`
joins the two conditions, and the lemmas behind it say when a value satisfies them.
-/

/-- A value that is written and kept under a bound: its numbers are integers of 64 bits, and it has no
more arrays and objects inside each other than the bound allows. -/
structure Printable (depth : Nat) (v : Json) : Prop where
  whole : Whole v
  height_le : (Node.ofJson v).height ≤ depth

/-- The indented text of a value is kept as the value in canonical form. -/
theorem parse?_pretty {v : Json} (h : Printable Node.maxDepth v) :
    parse? v.pretty = some v.canonical := by
  rw [parse?, nodeParse?_pretty h.whole, Option.bind_some, Node.toJson?_ofJson v h.height_le]

namespace Printable

variable {depth : Nat}

theorem null : Printable depth .null :=
  ⟨.null, Nat.zero_le _⟩

theorem string (s : String) : Printable depth (.string s) :=
  ⟨.string s, Nat.zero_le _⟩

theorem ofNat {n : Nat} (h : n ≤ Numeral.maxSignificand) : Printable depth (.ofNat n) :=
  ⟨.number ⟨by omega, by omega⟩, Nat.zero_le _⟩

theorem array {items : List Json} (h : ∀ item ∈ items, Printable depth item) :
    Printable (depth + 1) (.array items) := by
  refine ⟨.array fun item mem => (h item mem).whole, Nat.succ_le_succ ?_⟩
  exact Node.itemsHeight_le_iff.mpr fun item mem => (h item mem).height_le

theorem object {members : List (String × Json)} (h : ∀ m ∈ members, Printable depth m.2) :
    Printable (depth + 1) (.object members) := by
  refine ⟨.object fun m mem => (h m mem).whole, Nat.succ_le_succ ?_⟩
  exact Node.membersHeight_le_iff.mpr fun m mem => (h m mem).height_le

theorem sorted {members : List (String × Json)} (h : ∀ m ∈ members, Printable depth m.2) :
    Printable (depth + 1) (.sorted members) :=
  object fun m mem => h m (mem_of_mem_arrange mem)

end Printable

end ImportBoundary.Json
