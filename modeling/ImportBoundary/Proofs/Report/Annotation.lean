import Mathlib
import ImportBoundary.Proofs.Text.Replace
import ImportBoundary.Report.Annotation
import ImportBoundary.Text.Basic

/-!
# Reading workflow commands

A build server takes a workflow command apart from the left: the level ends at the first blank, the
properties at the first `::` behind it, a property at a comma and its name at the first `=`. Only then
are the escapes undone. `Command.read?` does this, and on the command of a finding it comes to the
level, the properties and the message of the finding (`read?_ofFinding`): escaped values have no
separator in them, and the escapes are undone exactly. So no text of a finding adds a line, a property
or a command, and what a finding says can be told from its command (`annotations_readable`).
-/

namespace ImportBoundary

/-- The texts before and behind the first occurrence of a separator. -/
def Text.cut? (sep : List Char) : List Char → Option (List Char × List Char)
  | [] => none
  | c :: rest =>
    match strip? sep (c :: rest) with
    | some after => some ([], after)
    | none => (cut? sep rest).map fun (before, after) => (c :: before, after)

/-- A text is cut before the first character that the separator starts with. -/
theorem Text.cut?_append {first : Char} {more before : List Char} (h : first ∉ before)
    (after : List Char) :
    cut? (first :: more) (before ++ (first :: more ++ after)) = some (before, after) := by
  induction before with
  | nil => rw [List.nil_append, List.cons_append, cut?, ← List.cons_append, strip?_append]
  | cons c before ih =>
    rw [List.mem_cons, not_or] at h
    have other : strip? (first :: more) (c :: (before ++ (first :: more ++ after))) = none :=
      if_neg h.1
    rw [List.cons_append, cut?, other, ih h.2]
    rfl

namespace Annotation

/-! ## Escaping character by character

The replacements go over the whole text one after another. Since each of them looks for a single
character, they come to the same as one pass in which every character is escaped by itself: the percent
signs that the later replacements bring in are no longer looked for.
-/

/-- A character of a message. -/
def dataChar (c : Char) : List Char :=
  match c with
  | '%' => ['%', '2', '5']
  | '\r' => ['%', '0', 'D']
  | '\n' => ['%', '0', 'A']
  | c => [c]

/-- A character of a property's value. -/
def propertyChar (c : Char) : List Char :=
  match c with
  | ':' => ['%', '3', 'A']
  | ',' => ['%', '2', 'C']
  | c => dataChar c

theorem escapeData_eq (s : List Char) : escapeData s = s.flatMap dataChar := by
  unfold escapeData
  simp only [Text.replaceAll_singleton, List.flatMap_assoc]
  refine List.flatMap_congr fun c _ => ?_
  fun_cases dataChar c with
  | case1 | case2 | case3 => rfl
  | case4 _ percent carriage feed =>
    rw [if_neg percent, List.flatMap_singleton, if_neg carriage, List.flatMap_singleton, if_neg feed]

theorem escapeProperty_eq (s : List Char) : escapeProperty s = s.flatMap propertyChar := by
  unfold escapeProperty
  simp only [Text.replaceAll_singleton, escapeData_eq, List.flatMap_assoc]
  refine List.flatMap_congr fun c _ => ?_
  -- No escape of a message has a colon or a comma in it, so only a plain character can be replaced.
  fun_cases propertyChar c with
  | case1 | case2 => rfl
  | case3 _ colon comma =>
    fun_cases dataChar c with
    | case1 | case2 | case3 => rfl
    | case4 => rw [List.flatMap_singleton, if_neg colon, List.flatMap_singleton, if_neg comma]

/-! ## Undoing the escapes

Escapes are undone from left to right, two digits for every percent sign. This inverts both kinds of
escaping, since a percent sign is always escaped. A text that comes from elsewhere may have a percent
sign with no digits behind it, and is not read.
-/

/-- Undoes the escapes: a percent sign and two hexadecimal digits stand for one character. -/
def unescape? : List Char → Option (List Char)
  | [] => some []
  | '%' :: high :: low :: rest => do
    let c ← Text.Hex.char? [high, low]
    (unescape? rest).map (c :: ·)
  | '%' :: _ => none
  | c :: rest => (unescape? rest).map (c :: ·)

/-- An escape stands for the character it was made of. -/
def Undone (escape : Char → List Char) : Prop :=
  ∀ c rest, unescape? (escape c ++ rest) = (unescape? rest).map (c :: ·)

theorem undone_dataChar : Undone dataChar := by
  intro c rest
  unfold dataChar
  split
  · rfl
  · rfl
  · rfl
  · next percent _ _ =>
      exact unescape?.eq_4 c rest (fun _ _ _ same => absurd same percent) percent

theorem undone_propertyChar : Undone propertyChar := by
  intro c rest
  unfold propertyChar
  split
  · rfl
  · rfl
  · exact undone_dataChar c rest

theorem Undone.unescape?_flatMap {escape : Char → List Char} (h : Undone escape) (s : List Char) :
    unescape? (s.flatMap escape) = some s := by
  induction s with
  | nil => rfl
  | cons c s ih => rw [List.flatMap_cons, h, ih, Option.map_some]

theorem unescape?_data (s : String) : unescape? (data s).toList = some s.toList := by
  rw [data, String.toList_ofList, escapeData_eq]
  exact undone_dataChar.unescape?_flatMap s.toList

theorem unescape?_value (s : String) : unescape? (value s).toList = some s.toList := by
  rw [value, String.toList_ofList, escapeProperty_eq]
  exact undone_propertyChar.unescape?_flatMap s.toList

/-! ## What is never in a command

Escaping removes the characters that end something, and what it puts in is made of a few letters and
digits, none of which ends anything. Membership in the escaped text is traced back to one character of
the text.
-/

def lineEnds : List Char := ['\r', '\n']

/-- The characters that end a property: those that end a line, the comma, and the colon with which the
message begins. -/
def propertyEnds : List Char := ':' :: ',' :: lineEnds

def escapeLetters : List Char := ['%', '0', '2', '3', '5', 'A', 'C', 'D']

theorem letters_inner : ∀ d ∈ escapeLetters, d ∉ propertyEnds := by
  simp [escapeLetters, propertyEnds, lineEnds]

/-- A character is escaped, or it stands for itself. -/
theorem mem_dataChar {c d : Char} (mem : d ∈ dataChar c) :
    d ∈ escapeLetters ∨ d = c ∧ d ∉ lineEnds := by
  unfold dataChar at mem
  split at mem
  · exact .inl (List.subset_def.mp (by simp [escapeLetters]) mem)
  · exact .inl (List.subset_def.mp (by simp [escapeLetters]) mem)
  · exact .inl (List.subset_def.mp (by simp [escapeLetters]) mem)
  · next _ return_ feed =>
      cases List.mem_singleton.mp mem
      exact .inr ⟨rfl, by simpa [lineEnds] using ⟨return_, feed⟩⟩

theorem mem_propertyChar {c d : Char} (mem : d ∈ propertyChar c) :
    d ∈ escapeLetters ∨ d = c ∧ d ∉ propertyEnds := by
  unfold propertyChar at mem
  split at mem
  · exact .inl (List.subset_def.mp (by simp [escapeLetters]) mem)
  · exact .inl (List.subset_def.mp (by simp [escapeLetters]) mem)
  · next colon comma =>
      refine (mem_dataChar mem).imp_right ?_
      rintro ⟨rfl, inner⟩
      exact ⟨rfl, by simpa [propertyEnds, inner] using ⟨colon, comma⟩⟩

theorem not_mem_data {d : Char} (h : d ∈ lineEnds) (s : String) : d ∉ (data s).toList := by
  rw [data, String.toList_ofList, escapeData_eq, List.mem_flatMap]
  rintro ⟨c, -, mem⟩
  rcases mem_dataChar mem with letter | ⟨-, inner⟩
  · exact letters_inner d letter (List.mem_cons_of_mem _ (List.mem_cons_of_mem _ h))
  · exact inner h

theorem not_mem_value {d : Char} (h : d ∈ propertyEnds) (s : String) : d ∉ (value s).toList := by
  rw [value, String.toList_ofList, escapeProperty_eq, List.mem_flatMap]
  rintro ⟨c, -, mem⟩
  rcases mem_propertyChar mem with letter | ⟨-, inner⟩
  · exact letters_inner d letter h
  · exact inner h

/-- A number is written without escapes. -/
theorem value_toString (n : Nat) : value (toString n) = toString n := by
  have plain : ∀ c ∈ (toString n).toList, propertyChar c = [c] := by
    intro c mem
    rw [Nat.toString_eq_ofList_toDigits, String.toList_ofList] at mem
    have digit := Nat.isDigit_of_mem_toDigits (by decide) (by decide) mem
    unfold propertyChar dataChar
    split
    · cases digit
    · cases digit
    · split
      · cases digit
      · cases digit
      · cases digit
      · rfl
  rw [value, escapeProperty_eq, List.flatMap_def, List.map_congr_left plain, ← List.flatMap_def,
    List.flatMap_singleton', String.ofList_toList]

/-! ## The command of a finding

`Command.read?` takes a line apart at the separators, in the order in which they stand in the line, and
each part is known not to contain the separator behind it. The level is one of three words, the
properties have fixed names, and their values and the message are escaped.
-/

/-- A workflow command in parts, with the escapes undone. -/
structure Command where
  kind : String
  properties : List (String × String)
  message : String
deriving DecidableEq, Repr

/-- Reads a property: its name ends at the first equals sign. -/
def readProperty? (s : List Char) : Option (String × String) := do
  let (name, value) ← Text.cut? ['='] s
  let value ← unescape? value
  return (String.ofList name, String.ofList value)

/-- Reads a workflow command. -/
def Command.read? (line : String) : Option Command := do
  let rest ← Text.strip? [':', ':'] line.toList
  let (level, rest) ← Text.cut? [' '] rest
  let (properties, message) ← Text.cut? [':', ':'] rest
  let properties ← (Text.split ',' properties).mapM readProperty?
  let message ← unescape? message
  return ⟨String.ofList level, properties, String.ofList message⟩

/-- A number under its name. -/
def numbered (name : String) : Option Nat → List (String × String)
  | none => []
  | some n => [(name, toString n)]

/-- What a location says, under its names. -/
def placed : Option Location → List (String × String)
  | none => []
  | some l => ("file", l.path.text) :: numbered "line" l.line ++ numbered "col" l.column

/-- What a finding says next to its message, under its names. -/
def named (f : Finding) : List (String × String) :=
  placed f.location ++ [("title", f.check ++ "/" ++ f.code)]

def write (p : String × String) : String := p.1 ++ "=" ++ value p.2

theorem properties_eq (f : Finding) : properties f = (named f).map write := by
  have number (name : String) (n : Option Nat) :
      numberProperty name n = (numbered name n).map write := by
    cases n with
    | none => rfl
    | some n => exact congrArg (fun text => [name ++ "=" ++ text]) (value_toString n).symm
  unfold properties named
  rw [List.map_append]
  cases f.location with
  | none => rfl
  | some l =>
    rw [locationProperties, placed, List.map_append, List.map_cons, number, number]
    rfl

theorem readProperty?_write {name : String} (h : '=' ∉ name.toList) (text : String) :
    readProperty? (write (name, text)).toList = some (name, text) := by
  unfold readProperty? write
  rw [String.toList_append, String.toList_append, List.append_assoc]
  rw [show "=".toList = ['='] from rfl, Text.cut?_append h]
  simp [unescape?_value]

/-- Properties are read one by one. -/
theorem mapM_readProperty? {ps : List (String × String)} (h : ∀ p ∈ ps, '=' ∉ p.1.toList) :
    ((ps.map write).map String.toList).mapM readProperty? = some ps := by
  induction ps with
  | nil => rfl
  | cons p ps ih =>
    obtain ⟨first, others⟩ := List.forall_mem_cons.mp h
    rw [List.map_cons, List.map_cons, List.mapM_cons, ih others, readProperty?_write first p.2]
    rfl

def propertyNames : List String := ["file", "line", "col", "title"]

theorem mem_propertyNames {f : Finding} {p : String × String} (mem : p ∈ named f) :
    p.1 ∈ propertyNames := by
  have number {name : String} {n : Option Nat} (mem : p ∈ numbered name n) : p.1 = name := by
    cases n with
    | none => cases mem
    | some n => rw [List.mem_singleton.mp mem]
  unfold named placed at mem
  rcases List.mem_append.mp mem with place | title
  · split at place
    · cases place
    · rcases List.mem_append.mp place with place | column
      · rcases List.mem_cons.mp place with file | line
        · simp [file, propertyNames]
        · simp [number line, propertyNames]
      · simp [number column, propertyNames]
  · simp [List.mem_singleton.mp title, propertyNames]

/-- A name has nothing in it that ends a name, a property or a line. -/
theorem plain_of_mem_propertyNames :
    ∀ name ∈ propertyNames, ∀ c ∈ name.toList, c ∉ '=' :: propertyEnds := by
  simp [propertyNames, propertyEnds, lineEnds]

/-- A property of a finding stays within its bounds. -/
theorem not_mem_write {f : Finding} {p : String × String} (mem : p ∈ named f) {d : Char}
    (h : d ∈ propertyEnds) : d ∉ (write p).toList := by
  unfold write
  rw [String.toList_append, String.toList_append]
  simp only [List.mem_append, not_or]
  refine ⟨⟨fun name => ?_, fun equals => ?_⟩, not_mem_value h p.2⟩
  · exact plain_of_mem_propertyNames p.1 (mem_propertyNames mem) d name (List.mem_cons_of_mem _ h)
  · rcases List.mem_singleton.mp equals with rfl
    revert h
    decide

/-- The command of a finding in parts: the properties of the finding and no others, each with the
text the finding has. -/
def Command.of (f : Finding) : Command := ⟨level f.severity, named f, f.message⟩

/-- The pieces between the commas are the properties. -/
theorem split_properties (f : Finding) :
    Text.split ',' (",".intercalate (properties f)).toList =
      (properties f).map String.toList := by
  rw [String.toList_intercalate]
  refine Text.split_intercalate ?_ ?_
  · simp [properties]
  · rw [properties_eq]
    intro piece piece_mem
    obtain ⟨text, text_mem, rfl⟩ := List.mem_map.mp piece_mem
    obtain ⟨p, mem, rfl⟩ := List.mem_map.mp text_mem
    exact not_mem_write mem (by decide)

/-- No property begins a message or ends a line. -/
theorem not_mem_properties {f : Finding} {d : Char} (h : d ∈ ':' :: lineEnds) :
    d ∉ (",".intercalate (properties f)).toList := by
  have ends : ':' :: lineEnds ⊆ propertyEnds := by simp [propertyEnds]
  rw [String.toList_intercalate, properties_eq]
  intro mem
  rcases Text.mem_of_mem_intercalate mem with rfl | ⟨piece, piece_mem, inside⟩
  · revert h
    decide
  · obtain ⟨text, text_mem, rfl⟩ := List.mem_map.mp piece_mem
    obtain ⟨p, mem, rfl⟩ := List.mem_map.mp text_mem
    exact not_mem_write mem (ends h) inside

/-- The parts of a command, with the separators between them. -/
theorem toList_ofFinding (f : Finding) :
    (ofFinding f).toList = [':', ':'] ++ ((level f.severity).toList ++ ([' '] ++
      ((",".intercalate (properties f)).toList ++ ([':', ':'] ++ (data f.message).toList)))) := by
  simp [ofFinding]

/-- A command is one line. -/
theorem not_mem_ofFinding (f : Finding) {d : Char} (h : d ∈ lineEnds) :
    d ∉ (ofFinding f).toList := by
  have around : d ∉ [':', ':'] ++ ((level f.severity).toList ++ [' ']) := by
    revert d
    cases f.severity <;> simp [lineEnds, level]
  rw [toList_ofFinding]
  simp only [List.mem_append, not_or] at around ⊢
  exact ⟨around.1, around.2.1, around.2.2, not_mem_properties (List.mem_cons_of_mem _ h), around.1,
    not_mem_data h f.message⟩

/-- The command of a finding is read as what it was made of. -/
theorem read?_ofFinding (f : Finding) : Command.read? (ofFinding f) = some (.of f) := by
  have level_plain : ' ' ∉ (level f.severity).toList := by
    cases f.severity <;> decide
  have no_colon : ':' ∉ (",".intercalate (properties f)).toList := not_mem_properties (by decide)
  have properties_read :
      ((properties f).map String.toList).mapM readProperty? = some (named f) := by
    rw [properties_eq]
    exact mapM_readProperty? fun p mem equals =>
      plain_of_mem_propertyNames p.1 (mem_propertyNames mem) _ equals List.mem_cons_self
  unfold Command.read?
  rw [toList_ofFinding, Text.strip?_append]
  simp only [Option.bind_eq_bind, Option.bind_some]
  rw [Text.cut?_append level_plain]
  simp only [Option.bind_some]
  rw [Text.cut?_append no_colon]
  simp only [Option.bind_some, split_properties, properties_read, unescape?_data]
  simp [Command.of]

/-! ## What a command says

A command does not carry everything that a finding has: its help, its payload and its fingerprint are
not in it, and check and code are joined to a title. `Content` is what is left, and it can be computed
from the parts of a command.
-/

structure Content where
  severity : Severity
  location : Option Location
  /-- The check with the code. -/
  title : String
  message : String
deriving DecidableEq, Repr

def Content.of (f : Finding) : Content :=
  ⟨f.severity, f.location, f.check ++ "/" ++ f.code, f.message⟩

def Command.content? (c : Command) : Option Content := do
  let severity ← [Severity.error, .warning, .info].find? fun s => level s = c.kind
  let location := (c.properties.lookup "file").map fun path =>
    ⟨⟨path⟩, (c.properties.lookup "line").bind String.toNat?,
      (c.properties.lookup "col").bind String.toNat?⟩
  return ⟨severity, location, ← c.properties.lookup "title", c.message⟩

theorem content?_of (f : Finding) : (Command.of f).content? = some (.of f) := by
  have severity : [Severity.error, .warning, .info].find?
      (fun s => level s = level f.severity) = some f.severity := by
    cases f.severity <;> decide
  unfold Command.content? Command.of Content.of named
  rw [severity]
  obtain - | ⟨path, line, column⟩ := f.location
  · simp [placed]
  · cases line <;> cases column <;> simp [placed, numbered, List.lookup, Nat.toNat?_repr]

/-- Findings have the same command only if they say the same. -/
theorem ofFinding_eq_iff {f g : Finding} :
    ofFinding f = ofFinding g ↔ Content.of f = Content.of g := by
  constructor
  · intro same
    have read := read?_ofFinding f
    rw [same, read?_ofFinding g] at read
    have content := content?_of f
    rw [← Option.some.inj read, content?_of g] at content
    exact (Option.some.inj content).symm
  · intro same
    obtain ⟨severity, location, title, message⟩ := Content.mk.inj same
    unfold ofFinding properties
    rw [severity, location, title, message]

/-- There is one command for each finding, in order. It is one line; read from the left it has the
level, the properties and the message of the finding and nothing else, from which the content of the
finding is known; and findings have the same command if, and only if, they have the same content. -/
theorem annotations_readable (r : Report) :
    List.Forall₂
      (fun (f : Finding) (line : String) => '\r' ∉ line.toList ∧ '\n' ∉ line.toList ∧
        Command.read? line = some (.of f) ∧ (Command.of f).content? = some (.of f))
      r.findings r.annotations ∧
    ∀ f g : Finding, ofFinding f = ofFinding g ↔ Content.of f = Content.of g := by
  refine ⟨?_, fun f g => ofFinding_eq_iff⟩
  unfold Report.annotations
  rw [List.forall₂_map_right_iff, List.forall₂_same]
  intro f _
  exact ⟨not_mem_ofFinding f (by decide), not_mem_ofFinding f (by decide), read?_ofFinding f,
    content?_of f⟩

end Annotation

end ImportBoundary
