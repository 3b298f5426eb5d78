import ImportBoundary.Layer.Rule
import ImportBoundary.Proofs.Template.Once
import ImportBoundary.Violation

/-!
# Messages from templates

The tokens of a template may stand apart from one another (`Spaced`), as those of all messages of the
program do. Then filling is filling at once with texts that have been filled themselves
(`fillChars_eq_once`). So a message shows the import text as it is, and the path of a file unless it
holds the token of the import text (`filled_once`).

In general, filling token by token is not filling at once: a text that has been put in is searched for
the tokens that are filled later, and two texts side by side can form a token between them.
-/

namespace ImportBoundary

namespace Template

variable {values : Values} {template : List Char}

/-! ## Tokens that stand apart

A template is cut at the characters that are in no token. No replacement reaches across such a border,
so the pieces can be filled one by one.
-/

/-- A character that is in no token. -/
def isBorder (c : Char) : Bool := Token.all.all fun t => c ∉ t.name

/-- Between the characters that are in no token, the template has a single token or none at all. -/
def Spaced (template : List Char) : Prop :=
  ∀ word ∈ template.splitOnP isBorder,
    word ∈ Token.all.map Token.name ∨ ∀ t ∈ Token.all, Text.occurrences t.name word = 0

instance : Decidable (Spaced template) := inferInstanceAs (Decidable (∀ word ∈ _, _))

variable {a b : List Char} {c : Char}

theorem isBorder_iff : isBorder c ↔ ∀ t : Token, c ∉ t.name := by
  simp [isBorder, Token.mem_all]

theorem spaced_append_cons (border : isBorder c) : Spaced (a ++ c :: b) ↔ Spaced a ∧ Spaced b := by
  unfold Spaced
  rw [List.splitOnP_append_cons a b border]
  exact List.forall_mem_append

@[simp] theorem substitute_none (token s : List Char) : substitute token none s = s := rfl

theorem substitute_append_cons (border : isBorder c) (t : Token) (o : Option String) :
    substitute t.name o (a ++ c :: b) = substitute t.name o a ++ c :: substitute t.name o b := by
  cases o with
  | none => rfl
  | some value => exact Text.replaceAll_append_cons t.name_ne_nil (isBorder_iff.mp border t)

/-- The tokens are filled one after another. -/
theorem fillChars_eq (values : Values) (s : List Char) :
    fillChars values s =
      substitute (Token.name .target) values.target
        (substitute (Token.name .source) values.source
          (substitute (Token.name .targetModule) values.targetModule
            (substitute (Token.name .sourceModule) values.sourceModule s))) :=
  rfl

theorem fillChars_append_cons (border : isBorder c) :
    fillChars values (a ++ c :: b) = fillChars values a ++ c :: fillChars values b := by
  simp only [fillChars_eq, substitute_append_cons border]

theorem parts_append_cons (border : isBorder c) (a b : List Char) :
    parts (a ++ c :: b) = parts a ++ .char c :: parts b := by
  rw [isBorder_iff] at border
  have none_begins (d : List Char) : token? (d ++ c :: b) = none ↔ token? d = none := by
    rw [token?_eq_none_iff, token?_eq_none_iff]
    simp only [Text.startsWith, Text.strip?_append_cons (border _), Option.isSome_map]
  fun_induction parts a with
  | case1 => exact parts_cons ((none_begins []).mpr rfl)
  | case2 d rest t after found ih =>
      rw [eq_of_token? found, List.append_assoc, parts_name_append, ih, List.cons_append]
  | case3 d rest missing ih =>
      have missing := (none_begins (d :: rest)).mpr missing
      rw [List.cons_append] at missing ⊢
      rw [parts_cons missing, ih, List.cons_append]

theorem once_append_cons (border : isBorder c) :
    once values (a ++ c :: b) = once values a ++ c :: once values b := by
  rw [once, parts_append_cons border, List.flatMap_append, List.flatMap_cons]
  rfl

/-! ### Single words

Between two borders there is a token or a text without tokens.
-/

/-- Without the tokens that have texts, a text stays as it is. -/
theorem fillChars_of_plain {word : List Char}
    (plain : ∀ t : Token, (values.value? t).isSome → Text.occurrences t.name word = 0) :
    fillChars values word = word := by
  have kept (t : Token) : substitute t.name (values.value? t) word = word := by
    cases given : values.value? t with
    | none => rfl
    | some value =>
        have absent := plain t (by rw [given]; rfl)
        exact Text.replaceAll_of_occurrences_eq_zero absent
  calc
    fillChars values word
      = substitute (Token.name .target) (values.value? .target)
          (substitute (Token.name .source) (values.value? .source)
            (substitute (Token.name .targetModule) (values.value? .targetModule)
              (substitute (Token.name .sourceModule) (values.value? .sourceModule) word))) := rfl
    _ = word := by rw [kept, kept, kept, kept]

theorem once_of_plain {word : List Char} (plain : ∀ t : Token, Text.occurrences t.name word = 0) :
    once values word = word := by
  have same : ∀ p ∈ parts word, p.shown values = p.shown {} := by
    intro p mem
    cases p with
    | char c => rfl
    | token t =>
        have absent : Part.token t ∉ parts word := by
          rw [← List.count_eq_zero, ← occurrences_eq_count]
          exact plain t
        exact absurd mem absent
  calc
    once values word = ((parts word).map (Part.shown values)).flatten := List.flatMap_def
    _ = ((parts word).map (Part.shown {})).flatten := by rw [List.map_congr_left same]
    _ = once {} word := List.flatMap_def.symm
    _ = word := once_empty word

theorem substitute_name (t u : Token) (o : Option String) :
    substitute t.name o u.name =
      if t = u then (o.map String.toList).getD u.name else u.name := by
  cases o with
  | none => split <;> rfl
  | some value =>
      by_cases same : t = u
      · have whole : Text.replaceAll t.name value.toList (t.name ++ []) =
            value.toList ++ Text.replaceAll t.name value.toList [] :=
          Text.replaceAll_append t.name_ne_nil
        rw [List.append_nil, Text.replaceAll_nil, List.append_nil] at whole
        rw [if_pos same, ← same]
        exact whole
      · have absent := Token.occurrences_name t u []
        rw [List.append_nil, if_neg same] at absent
        rw [if_neg same]
        exact Text.replaceAll_of_occurrences_eq_zero absent

/-- A token becomes its text with the later tokens filled in. -/
theorem fillChars_name (values : Values) (t : Token) :
    fillChars values t.name =
      ((values.value? t).map fun text => fillChars (values.after t) text.toList).getD t.name := by
  cases t with
  | sourceModule =>
      cases h : values.sourceModule <;>
        simp [fillChars_eq, substitute_name, Values.value?, Values.after, h]
  | targetModule =>
      cases h : values.targetModule <;>
        simp [fillChars_eq, substitute_name, Values.value?, Values.after, h]
  | source =>
      cases h : values.source <;>
        simp [fillChars_eq, substitute_name, Values.value?, Values.after, h]
  | target =>
      cases h : values.target <;>
        simp [fillChars_eq, substitute_name, Values.value?, Values.after, h]

theorem once_name (values : Values) (t : Token) :
    once values t.name = ((values.value? t).map String.toList).getD t.name := by
  have read := parts_name_append t []
  rw [List.append_nil, parts] at read
  rw [once, read, List.flatMap_singleton]
  rfl

theorem value?_refilled (values : Values) (t : Token) :
    values.refilled.value? t =
      (values.value? t).map fun text => fill text (values.after t) := by
  cases t with
  | source => rfl
  | sourceModule => rfl
  | targetModule => rfl
  | target =>
      show values.target = values.target.map fun text => String.ofList text.toList
      simp

/-- Where the tokens of a template stand apart, filling is filling at once with refilled texts. -/
theorem fillChars_eq_once (spaced : Spaced template) :
    fillChars values template = once values.refilled template := by
  induction h : template.length using Nat.strongRecOn generalizing template with
  | ind n ih =>
      subst h
      by_cases inner : ∀ c ∈ template, isBorder c = false
      · -- A single word.
        rw [Spaced, List.splitOnP_eq_singleton inner, List.forall_mem_singleton] at spaced
        rcases spaced with token | plain
        · obtain ⟨t, -, rfl⟩ := List.mem_map.mp token
          rw [fillChars_name, once_name, value?_refilled, Option.map_map]
          simp only [Function.comp_def, fill, String.toList_ofList]
        · have plain (t : Token) := plain t t.mem_all
          rw [fillChars_of_plain fun t _ => plain t, once_of_plain plain]
      · obtain ⟨c, mem, border⟩ : ∃ c ∈ template, isBorder c := by simpa using inner
        obtain ⟨a, b, rfl⟩ := List.append_of_mem mem
        obtain ⟨spaced_a, spaced_b⟩ := (spaced_append_cons border).mp spaced
        have shorter_a : a.length < (a ++ c :: b).length := by simp
        have shorter_b : b.length < (a ++ c :: b).length := by simp; omega
        rw [fillChars_append_cons border, once_append_cons border, ih _ shorter_a spaced_a rfl,
          ih _ shorter_b spaced_b rfl]

/-- The text of a token holds no token that is filled later. -/
def Values.Plain (values : Values) (t : Token) : Prop :=
  ∀ text ∈ values.value? t, ∀ u : Token, ((values.after t).value? u).isSome →
    Text.occurrences u.name text.toList = 0

/-- A plain text is shown as it is. -/
theorem Values.Plain.value?_refilled (plain : values.Plain t) :
    values.refilled.value? t = values.value? t := by
  rw [Template.value?_refilled]
  cases given : values.value? t with
  | none => rfl
  | some text =>
      have kept := fillChars_of_plain (plain text given)
      simp only [Option.map_some, fill, kept, String.ofList_toList]

theorem Values.refilled_of_plain (plain : ∀ t, values.Plain t) : values.refilled = values := by
  have source : values.refilled.source = values.source := (plain .source).value?_refilled
  have sourceModule : values.refilled.sourceModule = values.sourceModule :=
    (plain .sourceModule).value?_refilled
  have targetModule : values.refilled.targetModule = values.targetModule :=
    (plain .targetModule).value?_refilled
  calc
    values.refilled = ⟨values.refilled.source, values.target, values.refilled.sourceModule,
      values.refilled.targetModule⟩ := rfl
    _ = values := by rw [source, sourceModule, targetModule]

end Template

/-! ## Messages

The templates of the program are known, and they keep their tokens apart. What is not known are the
texts of an edge, and the template of a rule that brings its own.
-/

def Edge.texts (e : Edge) : Template.Values where
  source := some e.file
  target := some e.importText

def Violation.texts (v : Violation) (e : Edge) : Template.Values :=
  { e.texts with
    sourceModule := v.sourceModule.map Path.text, targetModule := v.targetModule.map Path.text }

/-- What stands behind the message of a violation. -/
def Violation.appendix (v : Violation) : String :=
  match v.note with
  | none => ""
  | some note => if note.isEmpty then "" else "\n\n" ++ note

theorem Violation.message_eq (v : Violation) (e : Edge) :
    v.message e = Template.fill v.kind.template (v.texts e) ++ v.appendix := by
  unfold message ViolationKind.format appendix
  cases v.note with
  | none => exact String.append_empty.symm
  | some note =>
      by_cases empty : note.isEmpty
      · simp only [empty, if_true]
        exact String.append_empty.symm
      · simp only [empty]
        exact String.append_assoc

namespace Template

theorem spaced_template (kind : ViolationKind) : Spaced kind.template.toList := by
  -- The characters of a template are written out first; evaluation alone takes long to find them.
  cases kind with
  | privateImplementation =>
      rw [ViolationKind.template, ViolationKind.opening, String.toList_append, String.toList_append,
        String.toList_ofList, String.toList_ofList, String.toList_ofList]
      decide +kernel
  | notADependency =>
      rw [ViolationKind.template, ViolationKind.opening, String.toList_append,
        String.toList_ofList, String.toList_ofList]
      decide +kernel
  | invalidExternal =>
      rw [ViolationKind.template, ViolationKind.opening, String.toList_append, String.toList_append,
        String.toList_ofList, String.toList_ofList, String.toList_ofList]
      decide +kernel

theorem spaced_defaultLayerMessage : Spaced defaultLayerMessage.toList := by
  rw [defaultLayerMessage, String.toList_ofList]
  decide +kernel

/-- Filling is filling at once if no token arises from what is put in. If the tokens of the template
stand apart, it is so with texts in which the tokens are filled that come later; the text of the import
comes last and is put in as it is, like every text without such tokens. In the messages of violations
the tokens stand apart, and in the message of a layer rule that has none of its own. -/
theorem filled_once (template : String) (values : Values) :
    (Undisturbed values template.toList → fill template values = fillOnce template values) ∧
    (Spaced template.toList → fill template values = fillOnce template values.refilled ∧
      ((∀ t, values.Plain t) → fill template values = fillOnce template values)) ∧
    values.refilled.target = values.target ∧
    (∀ t : Token, values.Plain t → values.refilled.value? t = values.value? t) ∧
    (∀ (v : Violation) (e : Edge),
      v.message e = fillOnce v.kind.template (v.texts e).refilled ++ v.appendix) ∧
    (∀ (rule : LayerRule) (e : Edge), Spaced rule.message.toList →
      rule.render e = fillOnce rule.message e.texts.refilled) ∧
    Spaced defaultLayerMessage.toList := by
  have apart (template : String) (values : Values) (spaced : Spaced template.toList) :
      fill template values = fillOnce template values.refilled :=
    congrArg String.ofList (fillChars_eq_once spaced)
  refine ⟨fun calm => congrArg String.ofList calm.fillChars_eq, ?_, rfl,
    fun t plain => plain.value?_refilled, ?_, fun rule e => apart rule.message e.texts,
    spaced_defaultLayerMessage⟩
  · intro spaced
    have filled := apart template values spaced
    refine ⟨filled, fun plain => ?_⟩
    rw [filled, Values.refilled_of_plain plain]
  · intro v e
    rw [v.message_eq, apart _ _ (spaced_template v.kind)]

/-- An import text with a token in it, in a template in which two tokens touch and in the message of a
layer rule. -/
theorem filled_once_touching :
    let template := "\x7btoModule\x7d\x7bfrom\x7d: \x7bto\x7d \x7bfromModule\x7d \x7bto"
    let values : Values := {
      source := some "src/\x7bid\x7d.ts", target := some "\x7bfrom\x7d", targetModule := some "lib/" }
    let rule : LayerRule := ⟨none, [], [], true, "No \x7bto\x7d in \x7bfrom\x7d!"⟩
    let e : Edge := ⟨"src/\x7bid\x7d.ts", "\x7bfrom\x7d", Path.root⟩
    (Undisturbed values template.toList ∧
        fill template values = "lib/src/\x7bid\x7d.ts: \x7bfrom\x7d \x7bfromModule\x7d \x7bto") ∧
      (∀ t, e.texts.Plain t) ∧ Spaced rule.message.toList ∧
        fill rule.message e.texts = fillOnce rule.message e.texts ∧
        e.texts.refilled.value? .source = some e.file ∧
        rule.render e = "No \x7bfrom\x7d in src/\x7bid\x7d.ts!" := by
  intro template values rule e
  have calm : Undisturbed values template.toList := by decide +kernel
  have spaced : Spaced rule.message.toList := by decide +kernel
  have plain : ∀ t, e.texts.Plain t := by
    intro t text given u filled
    cases t with
    | source =>
        obtain rfl : _ = text := Option.some.inj given
        cases u with
        | target => decide +kernel
        | _ => cases filled
    | target => cases u <;> cases filled
    | sourceModule => cases given
    | targetModule => cases given
  obtain ⟨-, apart, -, shown, -, rendered, -⟩ := filled_once rule.message e.texts
  obtain ⟨-, whole⟩ := apart spaced
  refine ⟨⟨calm, ?_⟩, plain, spaced, whole plain, shown .source (plain .source), ?_⟩
  · rw [(filled_once template values).1 calm]
    decide +kernel
  · rw [rendered rule e spaced]
    decide +kernel

/-- A file whose path holds the token of the import text is not shown as it is. -/
theorem file_not_shown :
    let v : Violation := ⟨.invalidExternal, some (Path.normalize "src"), none, none⟩
    let e : Edge := ⟨"src/\x7bto\x7d/x.ts", "lodash", Path.root⟩
    v.message e = fillOnce v.kind.template { v.texts e with source := some "src/lodash/x.ts" } ∧
      v.message e ≠ fillOnce v.kind.template (v.texts e) := by
  intro v e
  have shown : v.message e =
      fillOnce v.kind.template { v.texts e with source := some "src/lodash/x.ts" } := by
    have refilled : (v.texts e).refilled =
        { v.texts e with source := some "src/lodash/x.ts" } := by decide +kernel
    rw [← refilled, v.message_eq]
    show fill v.kind.template _ ++ "" = _
    rw [String.append_empty]
    exact congrArg String.ofList (fillChars_eq_once (spaced_template _))
  refine ⟨shown, ?_⟩
  rw [shown, fillOnce, fillOnce, Ne, String.ofList_inj]
  show once _ (ViolationKind.template .invalidExternal).toList ≠ once _ _
  rw [ViolationKind.template, ViolationKind.opening, String.toList_append, String.toList_append,
    String.toList_ofList, String.toList_ofList, String.toList_ofList]
  decide +kernel

end Template

end ImportBoundary
