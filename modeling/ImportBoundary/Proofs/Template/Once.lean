import ImportBoundary.Proofs.Text.Replace
import ImportBoundary.Template

/-!
# Templates filled at once

A template is filled token by token, so what is put in for one token is searched for the next ones.
`fillOnce` is what filling is meant to be: the template is read once, every token that has a text is
replaced by it, and nothing else changes. The two agree if no token arises from what is put in
(`Undisturbed.fillChars_eq`): the tokens filled so far are then those that filling at once fills with
their texts alone (`Undisturbed.substitute_eq`).

Tokens are counted in order to compare the two. Every token of a template is a part of it, and filling
shows each part by itself; so if a token occurs as often as the template has it, none of its
occurrences is made of what was put in, or of that and what stands next to it.
-/

namespace ImportBoundary.Template

/-- The tokens of a template. -/
inductive Token where
  | source
  | target
  | sourceModule
  | targetModule
deriving DecidableEq

namespace Token

def all : List Token := [source, target, sourceModule, targetModule]

def name : Token → List Char
  | source => sourceToken
  | target => targetToken
  | sourceModule => sourceModuleToken
  | targetModule => targetModuleToken

theorem mem_all (t : Token) : t ∈ all := by
  cases t <;> decide

/-- A token begins with a brace, and has no other one of the kind. -/
theorem exists_name_eq (t : Token) : ∃ inner, t.name = '{' :: inner ∧ '{' ∉ inner := by
  cases t
  · exact ⟨['f', 'r', 'o', 'm', '}'], rfl, by decide⟩
  · exact ⟨['t', 'o', '}'], rfl, by decide⟩
  · exact ⟨['f', 'r', 'o', 'm', 'M', 'o', 'd', 'u', 'l', 'e', '}'], rfl, by decide⟩
  · exact ⟨['t', 'o', 'M', 'o', 'd', 'u', 'l', 'e', '}'], rfl, by decide⟩

theorem name_ne_nil (t : Token) : t.name ≠ [] := by
  cases t <;> decide

/-- No token begins another one. -/
theorem strip?_name (t u : Token) (s : List Char) :
    Text.strip? t.name (u.name ++ s) = if t = u then some s else none := by
  by_cases same : t = u
  · rw [if_pos same, same, Text.strip?_append]
  · rw [if_neg same]
    cases t <;> cases u <;> first | exact absurd rfl same | rfl

theorem startsWith_name_iff {t u : Token} {s : List Char} :
    Text.startsWith t.name (u.name ++ s) ↔ t = u := by
  rw [Text.startsWith, strip?_name]
  split <;> simp_all

/-- In front of a text a token adds itself to the tokens that occur. -/
theorem occurrences_name (t u : Token) (s : List Char) :
    Text.occurrences t.name (u.name ++ s) =
      (if t = u then 1 else 0) + Text.occurrences t.name s := by
  obtain ⟨inner, spelled, only⟩ := u.exists_name_eq
  obtain ⟨more, first, -⟩ := t.exists_name_eq
  have behind : Text.occurrences t.name (inner ++ s) = Text.occurrences t.name s := by
    rw [first]
    exact Text.occurrences_append_of_not_mem only
  have begins : Text.startsWith t.name ('{' :: (inner ++ s)) ↔ t = u := by
    rw [← List.cons_append, ← spelled]
    exact startsWith_name_iff
  rw [spelled, List.cons_append, Text.occurrences, behind]
  simp only [begins]

end Token

namespace Values

def value? (values : Values) : Token → Option String
  | .source => values.source
  | .target => values.target
  | .sourceModule => values.sourceModule
  | .targetModule => values.targetModule

/-- The texts that are put in before a token is filled. -/
def before (values : Values) : Token → Values
  | .sourceModule => {}
  | .targetModule => { sourceModule := values.sourceModule }
  | .source => { sourceModule := values.sourceModule, targetModule := values.targetModule }
  | .target => { values with target := none }

/-- The texts that are put in when a token has been filled. -/
def through (values : Values) : Token → Values
  | .sourceModule => values.before .targetModule
  | .targetModule => values.before .source
  | .source => values.before .target
  | .target => values

/-- The texts that are put in after a token is filled. -/
def after (values : Values) : Token → Values
  | .sourceModule => { values with sourceModule := none }
  | .targetModule => { source := values.source, target := values.target }
  | .source => { target := values.target }
  | .target => {}

/-- Every text with the tokens in it filled that are filled after its own. -/
def refilled (values : Values) : Values where
  source := values.source.map fun text => fill text (values.after .source)
  target := values.target
  sourceModule := values.sourceModule.map fun text => fill text (values.after .sourceModule)
  targetModule := values.targetModule.map fun text => fill text (values.after .targetModule)

variable {values : Values} {t u : Token}

theorem value?_before_self : (values.before t).value? t = none := by
  cases t <;> rfl

theorem value?_through_self : (values.through t).value? t = values.value? t := by
  cases t <;> rfl

/-- Filling a token puts in its own text only. -/
theorem value?_through_of_ne (other : u ≠ t) :
    (values.through t).value? u = (values.before t).value? u := by
  cases t <;> cases u <;> simp_all [through, before, value?]

end Values

/-! ## Reading a template once

A template is cut into tokens and single characters. At a place where a token begins it is taken as a
whole, and no token begins another one, so there is only one way to do it.
-/

/-- A part of a template. -/
inductive Part where
  | char (c : Char)
  | token (t : Token)
deriving DecidableEq

/-- The token that a text begins with, and what follows. -/
def token? (s : List Char) : Option (Token × List Char) :=
  Token.all.findSome? fun t => (Text.strip? t.name s).map fun rest => (t, rest)

theorem eq_of_token? {s rest : List Char} {t : Token} (h : token? s = some (t, rest)) :
    s = t.name ++ rest := by
  obtain ⟨u, -, found⟩ := List.exists_of_findSome?_eq_some h
  obtain ⟨after, found, same⟩ := Option.map_eq_some_iff.mp found
  cases same
  exact Text.strip?_eq_some_iff.mp found

theorem token?_eq_none_iff {s : List Char} :
    token? s = none ↔ ∀ t : Token, ¬ Text.startsWith t.name s := by
  simp [token?, Token.mem_all, Text.startsWith]

theorem token?_name (t : Token) (s : List Char) : token? (t.name ++ s) = some (t, s) := by
  cases found : token? (t.name ++ s) with
  | none =>
      exact absurd (Token.startsWith_name_iff.mpr rfl) (token?_eq_none_iff.mp found t)
  | some read =>
      obtain ⟨u, rest⟩ := read
      have split := Text.strip?_eq_some_iff.mpr (eq_of_token? found)
      rw [Token.strip?_name] at split
      split at split
      · next same =>
        rw [same, Option.some.inj split]
      · cases split

/-- The parts of a template, read from left to right. -/
def parts (s : List Char) : List Part :=
  match s with
  | [] => []
  | c :: rest =>
    match _found : token? (c :: rest) with
    | some (t, after) => .token t :: parts after
    | none => .char c :: parts rest
termination_by s.length
decreasing_by
  · have split := congrArg List.length (eq_of_token? _found)
    have := List.length_pos_iff.mpr t.name_ne_nil
    rw [List.length_append] at split
    simp only [List.length_cons] at split ⊢
    omega
  · simp

/-- What is shown for a part. A token without a text stays as it is. -/
def Part.shown (values : Values) : Part → List Char
  | char c => [c]
  | token t => ((values.value? t).map String.toList).getD t.name

/-- Fills a template at once. -/
def once (values : Values) (template : List Char) : List Char :=
  (parts template).flatMap (Part.shown values)

def fillOnce (template : String) (values : Values) : String :=
  String.ofList (once values template.toList)

variable {values given given' : Values} {t : Token} {template : List Char}

/-- Nothing is lost by reading a template. -/
theorem once_empty (template : List Char) : once {} template = template := by
  unfold once
  fun_induction parts template with
  | case1 => rfl
  | case2 c rest u after found ih =>
      rw [List.flatMap_cons, ih, eq_of_token? found]
      cases u <;> rfl
  | case3 c rest found ih =>
      rw [List.flatMap_cons, ih]
      rfl

theorem parts_name_append (t : Token) (s : List Char) :
    parts (t.name ++ s) = .token t :: parts s := by
  obtain ⟨inner, spelled, -⟩ := t.exists_name_eq
  have found := token?_name t s
  rw [spelled, List.cons_append] at found ⊢
  rw [parts]
  split
  · next u after read =>
    rw [found] at read
    cases read
    rfl
  · next missing =>
    rw [found] at missing
    cases missing

theorem parts_cons {c : Char} {s : List Char} (missing : token? (c :: s) = none) :
    parts (c :: s) = .char c :: parts s := by
  rw [parts]
  split
  · next found =>
    rw [missing] at found
    cases found
  · rfl

/-- All occurrences of a token in a template are parts of it. -/
theorem occurrences_eq_count (t : Token) (template : List Char) :
    Text.occurrences t.name template = (parts template).count (.token t) := by
  fun_induction parts template with
  | case1 => rfl
  | case2 c rest u after found ih =>
      rw [eq_of_token? found, Token.occurrences_name, ih]
      by_cases same : t = u
      · rw [if_pos same, same, List.count_cons_self, Nat.add_comm]
      · rw [if_neg same, List.count_cons_of_ne (by simpa using Ne.symm same), Nat.zero_add]
  | case3 c rest missing ih =>
      have absent := token?_eq_none_iff.mp missing t
      rw [Text.occurrences, if_neg absent, ih, List.count_cons_of_ne (by simp), Nat.zero_add]

/-! ## Filling one token

Filling goes through the tokens in a fixed order. What it has reached before a token is the template
with the earlier tokens shown, which is again filling at once, with fewer texts (`Values.before`).
-/

theorem shown_of_absent (absent : given.value? t = none) : (Part.token t).shown given = t.name := by
  rw [Part.shown, absent]
  rfl

theorem count_le_occurrences (absent : given.value? t = none) (ps : List Part) :
    ps.count (.token t) ≤ Text.occurrences t.name (ps.flatMap (Part.shown given)) := by
  induction ps with
  | nil => exact Nat.zero_le _
  | cons p ps ih =>
      rw [List.flatMap_cons]
      by_cases own : p = .token t
      · rw [own, shown_of_absent absent, List.count_cons_self, Token.occurrences_name, if_pos rfl]
        omega
      · rw [List.count_cons_of_ne own]
        exact Nat.le_trans ih (Text.occurrences_le_append _)

/-- If a token occurs only where the template has it, replacing it is showing its text. -/
theorem replaceAll_shown {value : String} (absent : given.value? t = none)
    (present : given'.value? t = some value) (others : ∀ u ≠ t, given'.value? u = given.value? u)
    (ps : List Part)
    (calm : Text.occurrences t.name (ps.flatMap (Part.shown given)) = ps.count (.token t)) :
    Text.replaceAll t.name value.toList (ps.flatMap (Part.shown given)) =
      ps.flatMap (Part.shown given') := by
  induction ps with
  | nil => exact Text.replaceAll_nil
  | cons p ps ih =>
      rw [List.flatMap_cons] at calm ⊢
      rw [List.flatMap_cons]
      -- The token occurs at least as often as it is a part. Since there are not more occurrences in
      -- all, none begins in what is shown for any other part.
      have least := count_le_occurrences absent ps
      by_cases own : p = .token t
      · have shown : (Part.token t).shown given' = value.toList := by
          rw [Part.shown, present]
          rfl
        rw [own, shown_of_absent absent] at calm ⊢
        rw [Token.occurrences_name, if_pos rfl, List.count_cons_self] at calm
        rw [shown, Text.replaceAll_append t.name_ne_nil, ih (by omega)]
      · have same : p.shown given' = p.shown given := by
          cases p with
          | char c => rfl
          | token u =>
              have other : u ≠ t := fun same => own (congrArg Part.token same)
              rw [Part.shown, Part.shown, others u other]
        rw [List.count_cons_of_ne own] at calm
        have rest : Text.occurrences t.name (ps.flatMap (Part.shown given)) ≤
            Text.occurrences t.name (p.shown given ++ ps.flatMap (Part.shown given)) :=
          Text.occurrences_le_append (p.shown given)
        rw [Text.replaceAll_append_of_occurrences (by omega), ih (by omega), same]

/-- No token arises from what is put in before it is filled. -/
def Undisturbed (values : Values) (template : List Char) : Prop :=
  ∀ t : Token, (values.value? t).isSome →
    Text.occurrences t.name (once (values.before t) template) = Text.occurrences t.name template

instance : Decidable (Undisturbed values template) :=
  decidable_of_iff (∀ t ∈ Token.all, (values.value? t).isSome →
    Text.occurrences t.name (once (values.before t) template) = Text.occurrences t.name template)
    ⟨fun h t => h t t.mem_all, fun h t _ => h t⟩

/-- If no token arises, filling one of them adds its text to those that are put in at once. -/
theorem Undisturbed.substitute_eq (calm : Undisturbed values template) (t : Token) :
    substitute t.name (values.value? t) (once (values.before t) template) =
      once (values.through t) template := by
  have calm := calm t
  cases given : values.value? t with
  | none =>
      -- A token without a text is not filled, and none of the texts has changed.
      have same : Part.shown (values.through t) = Part.shown (values.before t) := by
        funext p
        cases p with
        | char c => rfl
        | token u =>
            by_cases own : u = t
            · rw [Part.shown, Part.shown, own, Values.value?_through_self, given,
                Values.value?_before_self]
            · rw [Part.shown, Part.shown, Values.value?_through_of_ne own]
      rw [once, once, same]
      rfl
  | some value =>
      rw [given, occurrences_eq_count t template] at calm
      have present := Values.value?_through_self.trans given
      exact replaceAll_shown Values.value?_before_self present
        (fun u other => Values.value?_through_of_ne other) _ (calm rfl)

/-- If no token arises, filling is filling at once. -/
theorem Undisturbed.fillChars_eq (calm : Undisturbed values template) :
    fillChars values template = once values template := by
  have first := calm.substitute_eq .sourceModule
  have second := calm.substitute_eq .targetModule
  have third := calm.substitute_eq .source
  have last := calm.substitute_eq .target
  rw [Values.before, once_empty] at first
  rw [← Values.through, ← first] at second
  rw [← Values.through, ← second] at third
  rw [← Values.through, ← third] at last
  exact last

end ImportBoundary.Template
