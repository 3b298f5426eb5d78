import ImportBoundary.Json.Token
import ImportBoundary.Proofs.Json.Numeral

/-!
# Reading indented values as tokens

The tokens of a value are what a reader finds in the value's text, whatever the indentation
(`scan?_prettyChars`). Strings come back because every escape stands for the character it was made of
and no character is half of a surrogate pair (`read?_quote`). Numbers come back if they are integers of
64 bits (`Whole`).
-/

namespace ImportBoundary.Json

namespace Token

variable {s rest : List Char}

/-! ## Strings

Each character is read back by itself, whether it is escaped or not.
-/

/-- The code points of a text. -/
def unitsOf (s : List Char) : List Nat := s.map Char.toNat

/-- A small number is read from four digits, the first two of them zeros. -/
theorem number?_digits {n : Nat} (h : n < 0x20) :
    Text.Hex.number? ['0', '0', Text.Hex.digit (n / 16), Text.Hex.digit (n % 16)] = some n := by
  have zero : Text.Hex.value? '0' = some 0 := by decide
  have high := Text.Hex.value?_digit (n / 16) (by omega)
  have low := Text.Hex.value?_digit (n % 16) (by omega)
  simp [Text.Hex.number?, zero, high, low]
  omega

/-- An escape is read as the code point of the character it was made of. -/
theorem readUnits?_escapeChar (c : Char) (s : List Char) :
    readUnits? (escapeChar c ++ s) =
      (readUnits? s).map fun (units, rest) => (c.toNat :: units, rest) := by
  unfold escapeChar
  split
  -- Seven characters have an escape of one letter, other control characters one of four digits, and
  -- every other character stands for itself.
  iterate 7 cases h : readUnits? s <;> simp [readUnits?, escaped?, h]
  next quote backslash _ _ _ _ _ =>
  split
  · next control =>
    cases h : readUnits? s <;> simp [readUnits?, number?_digits control, h]
  · next plain =>
    rw [List.singleton_append, readUnits?.eq_5 c s quote (fun _ _ _ _ _ same _ => backslash same)
      (fun _ _ same _ => backslash same), if_neg (not_or.mpr ⟨plain, backslash⟩)]
    cases h : readUnits? s <;> simp

theorem readUnits?_quoted (s rest : List Char) :
    readUnits? (s.flatMap escapeChar ++ '"' :: rest) = some (unitsOf s, rest) := by
  induction s with
  | nil => simp [readUnits?, unitsOf]
  | cons c s ih =>
    rw [List.flatMap_cons, List.append_assoc, readUnits?_escapeChar, ih]
    rfl

/-- No character is half of a surrogate pair. -/
theorem not_half (c : Char) : isLead c.toNat = false ∧ isTrail c.toNat = false := by
  have valid : c.toNat < 0xD800 ∨ 0xDFFF < c.toNat ∧ c.toNat < 0x110000 := c.valid
  simp only [isLead, isTrail, decide_eq_false_iff_not]
  omega

/-- A text is put together from its code points. -/
theorem ofUnits?_unitsOf (s : List Char) : ofUnits? (unitsOf s) = some s := by
  induction s with
  | nil => rfl
  | cons c s ih =>
    obtain ⟨lead, trail⟩ := not_half c
    cases s with
    | nil => simp [unitsOf, ofUnits?, lead, trail]
    | cons d s =>
      have ih : ofUnits? (d.toNat :: unitsOf s) = some (d :: s) := ih
      show ofUnits? (c.toNat :: d.toNat :: unitsOf s) = some (c :: d :: s)
      simp [ofUnits?, lead, trail, ih]

/-- A string in quotes is read as its text. -/
theorem read?_quote (s : String) (rest : List Char) :
    read? (quote s.toList ++ rest) = some (.string (some s), rest) := by
  have units := readUnits?_quoted s.toList rest
  rw [quote, List.cons_append, List.cons_append, List.append_assoc, List.singleton_append, read?]
  simp [units, ofUnits?_unitsOf]

/-! ## Steps of a scan

One lemma for each thing that is written: a line end with its indentation, a string, a name with its
colon, a number.
-/

variable {ts : List Token}

/-- A token is found at the start of a text that does not begin with a blank. -/
theorem scan?_of_read? {c : Char} {token : Token} (h : read? (c :: s) = some (token, rest))
    (first : isBlank c = false) (after : scan? rest = some ts) :
    scan? (c :: s) = some (token :: ts) := by
  rw [scan?, first]
  simp only [Bool.false_eq_true, if_false]
  split
  · next none => simp [h] at none
  · next found =>
    rw [h] at found
    cases found
    rw [after, Option.map_some]

/-- Indentation is skipped. -/
theorem scan?_newLine (level : Nat) (s : List Char) : scan? (newLine level ++ s) = scan? s := by
  have blanks (n : Nat) : scan? (List.replicate n ' ' ++ s) = scan? s := by
    induction n with
    | zero => rfl
    | succ n ih => rw [List.replicate_succ, List.cons_append, scan?, if_pos (by decide), ih]
  rw [newLine, List.cons_append, scan?, if_pos (by decide), blanks]

theorem scan?_quote (name : String) (after : scan? rest = some ts) :
    scan? (quote name.toList ++ rest) = some (.string (some name) :: ts) :=
  scan?_of_read? (read?_quote name rest) rfl after

/-- The name of a member with its colon, on a line of its own. -/
theorem scan?_name (level : Nat) (name : String) (after : scan? rest = some ts) :
    scan? (newLine level ++ (quote name.toList ++ (':' :: ' ' :: rest))) =
      some (.string (some name) :: .colon :: ts) := by
  have blank : scan? (' ' :: rest) = some ts := by rw [scan?, if_pos (by decide), after]
  rw [scan?_newLine]
  exact scan?_quote name (scan?_of_read? rfl rfl blank)

/-- A text that begins like a number is read as one. -/
theorem read?_eq_of_numeric {c : Char} (h : c = '-' ∨ c.isDigit) (s : List Char) :
    read? (c :: s) =
      (Numeral.read? (c :: s)).map fun (n, rest) => (number n.value?, rest) := by
  rw [read?.eq_def]
  split
  -- No other token begins with a digit or a minus sign.
  iterate 10
    next same =>
      cases same
      exact absurd h (by decide)
  rfl

theorem exists_intChars_eq_cons (i : Int) :
    ∃ c cs, intChars i = c :: cs ∧ (c = '-' ∨ c.isDigit) := by
  cases i with
  | ofNat n =>
    obtain ⟨c, cs, cons, digit⟩ := Numeral.exists_natChars_eq_cons n
    exact ⟨c, cs, cons, .inr digit⟩
  | negSucc n => exact ⟨'-', natChars (n + 1), rfl, .inl rfl⟩

theorem scan?_intChars {i : Int} (fits : Numeral.Fits i) (sep : Separated rest)
    (after : scan? rest = some ts) :
    scan? (intChars i ++ rest) = some (.number (some (.integer i)) :: ts) := by
  have read := Numeral.read?_intChars i sep
  obtain ⟨c, cs, cons, first⟩ := exists_intChars_eq_cons i
  rw [cons, List.cons_append] at read ⊢
  have number : read? (c :: (cs ++ rest)) = some (.number (some (.integer i)), rest) := by
    rw [read?_eq_of_numeric first, read]
    simp only [Option.map_some, Numeral.value?_ofInt fits]
  have dense : isBlank c = false := by
    refine Bool.eq_false_iff.mpr fun blank => ?_
    rcases of_decide_eq_true blank with rfl | rfl | rfl | rfl <;> exact absurd first (by decide)
  exact scan?_of_read? number dense after

end Token

/-! ## The tokens of a value

By the same recursion as the printer, with any text behind the value that does not continue it.
-/

mutual

/-- The tokens of a value. -/
def tokens : Json → List Token
  | .null => [.null]
  | .bool b => [.bool b]
  | .number n => [.number (some n)]
  | .string s => [.string (some s)]
  | .array items => .openArray :: itemTokens items ++ [.closeArray]
  | .object members => .openObject :: memberTokens members ++ [.closeObject]

def itemTokens : List Json → List Token
  | [] => []
  | [item] => tokens item
  | item :: rest => tokens item ++ .comma :: itemTokens rest

def memberTokens : List (String × Json) → List Token
  | [] => []
  | [(name, value)] => .string (some name) :: .colon :: tokens value
  | (name, value) :: rest =>
    .string (some name) :: .colon :: tokens value ++ .comma :: memberTokens rest

end

/-- The numbers in a value are integers of 64 bits. -/
inductive Whole : Json → Prop
  | null : Whole .null
  | bool (b : Bool) : Whole (.bool b)
  | number {i : Int} : Numeral.Fits i → Whole (.number (.integer i))
  | string (s : String) : Whole (.string s)
  | array {items : List Json} : (∀ item ∈ items, Whole item) → Whole (.array items)
  | object {members : List (String × Json)} : (∀ m ∈ members, Whole m.2) → Whole (.object members)

mutual

/-- What is found in the indented text of a value are its tokens. -/
theorem scan?_prettyChars (level : Nat) : (v : Json) → Whole v → {rest : List Char} →
    {ts : List Token} → Separated rest → Token.scan? rest = some ts →
    Token.scan? (prettyChars level v ++ rest) = some (tokens v ++ ts)
  | .null, _, _, _, _, after => Token.scan?_of_read? rfl rfl after
  | .bool true, _, _, _, _, after => Token.scan?_of_read? rfl rfl after
  | .bool false, _, _, _, _, after => Token.scan?_of_read? rfl rfl after
  | .number _, .number fits, _, _, sep, after => Token.scan?_intChars fits sep after
  | .string s, _, _, _, _, after => Token.scan?_quote s after
  | .array [], _, _, _, _, after => by
    have close := Token.scan?_of_read? (c := ']') rfl rfl after
    exact Token.scan?_of_read? rfl rfl close
  | .array (item :: items), .array whole, _, _, _, after => by
    -- From the end: the closing bracket is read, then the items before it, then the opening one.
    have close := Token.scan?_of_read? (c := ']') rfl rfl after
    rw [← Token.scan?_newLine level] at close
    have inner := scan?_prettyItems (level + 1) (item :: items) whole (separated_newLine _ _) close
    have opened := Token.scan?_of_read? (c := '[') rfl rfl inner
    simpa [prettyChars, tokens] using opened
  | .object [], _, _, _, _, after => by
    have close := Token.scan?_of_read? (c := '}') rfl rfl after
    exact Token.scan?_of_read? rfl rfl close
  | .object (m :: members), .object whole, _, _, _, after => by
    have close := Token.scan?_of_read? (c := '}') rfl rfl after
    rw [← Token.scan?_newLine level] at close
    have inner :=
      scan?_prettyMembers (level + 1) (m :: members) whole (separated_newLine _ _) close
    have opened := Token.scan?_of_read? (c := '{') rfl rfl inner
    simpa [prettyChars, tokens] using opened

theorem scan?_prettyItems (level : Nat) : (items : List Json) → (∀ item ∈ items, Whole item) →
    {rest : List Char} → {ts : List Token} → Separated rest → Token.scan? rest = some ts →
    Token.scan? (prettyItems level items ++ rest) = some (itemTokens items ++ ts)
  | [], _, _, _, _, after => after
  | [item], whole, _, _, sep, after => by
    rw [prettyItems, itemTokens, List.append_assoc, Token.scan?_newLine]
    exact scan?_prettyChars level item (whole item List.mem_cons_self) sep after
  | item :: next :: items, whole, _, _, sep, after => by
    obtain ⟨first, others⟩ := List.forall_mem_cons.mp whole
    have more := scan?_prettyItems level (next :: items) others sep after
    have comma := Token.scan?_of_read? (c := ',') rfl rfl more
    have head := scan?_prettyChars level item first (separated_comma _) comma
    rw [← Token.scan?_newLine level] at head
    simpa [prettyItems, itemTokens] using head

theorem scan?_prettyMembers (level : Nat) : (members : List (String × Json)) →
    (∀ m ∈ members, Whole m.2) → {rest : List Char} → {ts : List Token} → Separated rest →
    Token.scan? rest = some ts →
    Token.scan? (prettyMembers level members ++ rest) = some (memberTokens members ++ ts)
  | [], _, _, _, _, after => after
  | [(name, value)], whole, _, _, sep, after => by
    have first := scan?_prettyChars level value (whole _ List.mem_cons_self) sep after
    have member := Token.scan?_name level name first
    simpa [prettyMembers, memberTokens] using member
  | (name, value) :: next :: members, whole, _, _, sep, after => by
    obtain ⟨first, others⟩ := List.forall_mem_cons.mp whole
    have more := scan?_prettyMembers level (next :: members) others sep after
    have comma := Token.scan?_of_read? (c := ',') rfl rfl more
    have head := scan?_prettyChars level value first (separated_comma _) comma
    have member := Token.scan?_name level name head
    simpa [prettyMembers, memberTokens] using member

end

end ImportBoundary.Json
