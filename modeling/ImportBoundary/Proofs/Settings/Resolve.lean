import ImportBoundary.Proofs.Cache.Faithful
import ImportBoundary.Proofs.Layer.Compilation
import ImportBoundary.Proofs.NameMap
import ImportBoundary.Settings.Resolve

/-!
# What a configuration resolves to

`Config.faults` lists everything that is wrong with a configuration, stage by stage and in each stage
from left to right, whether it would be noticed or not. Resolving reports the first of these faults
(`Config.reports_resolve`), so it succeeds exactly if there is none, which is to say if the
configuration is `Sound`. What it succeeds with takes every value from where it is said first: by the
caller, by the configuration, by the profile (`Config.Settles`).
-/

namespace ImportBoundary

/-! ## Words

A configuration has words for severities and for levels of failure. Both are read in the same way, from
a list of words and what they stand for, with a default where no word is given.
-/

def Severity.words : List (String × Severity) :=
  [("info", .info), ("warning", .warning), ("warn", .warning), ("error", .error)]

def FailOn.words : List (String × FailOn) :=
  [("error", .error), ("warning", .warning), ("warn", .warning)]

section

variable {α ε : Type} {words : List (String × α)} {default value : α} {unknown : String → ε}
  {given : Option String}

/-- The value is the one that a word stands for, or the default if no word is given. -/
inductive Chosen (words : List (String × α)) (default : α) : Option String → α → Prop
  | default : Chosen words default none default
  | word {word : String} {value : α} (mem : (word, value) ∈ words) :
      Chosen words default (some word) value

/-- The words among those given which stand for nothing. -/
def unknownWords (words : List (String × α)) (given : Option String) : List String :=
  (given.filter fun word => word ∉ words.map Prod.fst).toList

/-- The value that a word stands for, or the default if no word is given. -/
def choose (words : List (String × α)) (default : α) (unknown : String → ε) :
    Option String → Except ε α
  | none => .ok default
  | some word =>
    match words.lookup word with
    | some value => .ok value
    | none => .error (unknown word)

theorem unknownWords_eq_nil_iff :
    unknownWords words given = [] ↔ ∀ word, given = some word → word ∈ words.map Prod.fst := by
  cases given <;> simp [unknownWords]

theorem reports_choose (words : List (String × α)) (default : α) (unknown : String → ε)
    (given : Option String) :
    Reports ((unknownWords words given).map unknown) (choose words default unknown given) := by
  unfold choose
  cases given with
  | none => exact reports_ok default
  | some word =>
      by_cases known : word ∈ words.map Prod.fst
      · obtain ⟨value, found⟩ := Option.isSome_iff_exists.mp (lookup_isSome_iff_mem.mpr known)
        have none_unknown : unknownWords words (some word) = [] := by
          rw [unknownWords_eq_nil_iff]
          rintro _ ⟨⟩
          exact known
        dsimp only
        rw [none_unknown, found]
        exact reports_ok value
      · have missing : words.lookup word = none := by
          rw [← Option.not_isSome_iff_eq_none, lookup_isSome_iff_mem]
          exact known
        have only_unknown : unknownWords words (some word) = [word] := by
          rw [unknownWords, Option.filter_some, if_pos (decide_eq_true known), Option.toList_some]
        dsimp only
        rw [only_unknown, missing]
        exact reports_error (unknown word) []

theorem choose_eq_ok_iff (distinct : (words.map Prod.fst).Nodup) :
    choose words default unknown given = .ok value ↔ Chosen words default given value := by
  unfold choose
  cases given with
  | none =>
      constructor
      · rintro ⟨⟩
        exact .default
      · rintro ⟨⟩
        rfl
  | some word =>
      have meaning : words.lookup word = some value ↔ Chosen words default (some word) value := by
        rw [lookup_eq_some_iff_mem distinct]
        constructor
        · exact .word
        · rintro ⟨⟩
          assumption
      rw [← meaning]
      dsimp only
      cases words.lookup word <;> simp

end

theorem Severity.ofWord?_eq (word : String) : ofWord? word = words.lookup word := by
  unfold ofWord? words ofName?
  simp only [lookup_cons_eq, List.find?_cons, List.find?_nil, name, List.lookup_nil]
  grind

theorem FailOn.ofWord?_eq (word : String) : ofWord? word = words.lookup word := by
  unfold ofWord? words
  simp only [lookup_cons_eq, List.lookup_nil]
  grind

/-! ## Checks

What is said about checks is applied to the policies of the profile, entry by entry and in the order of
the names of the checks. Entries have different names, so the one for a check is the only one that
changes its policy.
-/

/-- What is wrong with what a configuration says about a check: the check may be unknown, and the word
for its severity may stand for nothing. -/
def CheckChoice.faults (check : String) (choice : CheckChoice) : List ConfigError :=
  (if check ∈ Check.names then [] else [.unknownCheck check]) ++
    (unknownWords Severity.words choice.severity).map (.unknownSeverity check)

/-- A policy takes over what is said about its check, and the rest from the policy of the profile. -/
structure Policy.Follows (choice : Option CheckChoice) (preset policy : Policy) : Prop where
  enabled : policy.enabled = (choice.bind CheckChoice.enabled).getD preset.enabled
  severity : Chosen Severity.words preset.severity (choice.bind CheckChoice.severity) policy.severity

variable {check : String} {choice : CheckChoice} {preset policy : Policy}
  {policies after : NameMap Policy} {entries : List (String × CheckChoice)}

theorem Policy.follows_none (policy : Policy) : Policy.Follows none policy policy :=
  ⟨rfl, .default⟩

theorem CheckChoice.apply_eq (check : String) (choice : CheckChoice) (preset : Policy) :
    choice.apply check preset =
      choose Severity.words preset.severity (.unknownSeverity check) choice.severity >>=
        fun severity => pure ⟨choice.enabled.getD preset.enabled, severity⟩ := by
  unfold apply choose
  cases choice.severity with
  | none => rfl
  | some word =>
      dsimp only
      rw [Severity.ofWord?_eq]
      cases Severity.words.lookup word <;> rfl

theorem CheckChoice.apply_eq_ok_iff :
    choice.apply check preset = .ok policy ↔ Policy.Follows (some choice) preset policy := by
  rw [apply_eq, bind_eq_ok_iff]
  constructor
  · rintro ⟨severity, chosen, made⟩
    cases made
    exact ⟨rfl, (choose_eq_ok_iff (by decide)).mp chosen⟩
  · rintro ⟨enabled, severity⟩
    obtain ⟨_, chosen⟩ := policy
    cases enabled
    exact ⟨chosen, (choose_eq_ok_iff (by decide)).mpr severity, rfl⟩

theorem applyChoices_cons_of_known (known : check ∈ Check.names) :
    applyChoices policies ((check, choice) :: entries) =
      choice.apply check ((policies.get? check).getD .disabled) >>= fun policy =>
        applyChoices (policies.insert check policy) entries := by
  rw [applyChoices, if_pos (List.contains_iff_mem.mpr known)]

/-- What is said about checks is read from entry to entry. -/
theorem reports_applyChoices (policies : NameMap Policy) (entries : List (String × CheckChoice)) :
    Reports (entries.flatMap fun entry => entry.2.faults entry.1)
      (applyChoices policies entries) := by
  induction entries generalizing policies with
  | nil => exact reports_ok policies
  | cons entry rest ih =>
      obtain ⟨check, choice⟩ := entry
      rw [List.flatMap_cons, CheckChoice.faults]
      by_cases known : check ∈ Check.names
      · rw [applyChoices_cons_of_known known, if_pos known, List.nil_append]
        refine Reports.bind ?_ fun policy _ => ih _
        rw [CheckChoice.apply_eq]
        exact (reports_choose _ _ _ _).map
      · rw [applyChoices, if_neg (mt List.contains_iff_mem.mp known), if_neg known]
        exact reports_error _ _

/-- Afterwards each check has the policy that follows what is said about it. -/
theorem applyChoices_spec (distinct : (entries.map Prod.fst).Nodup)
    (applied : applyChoices policies entries = .ok after) (name : String) :
    (entries.lookup name = none → after.get? name = policies.get? name) ∧
      ∀ choice, entries.lookup name = some choice → name ∈ Check.names ∧
        ∃ policy, after.get? name = some policy ∧
          Policy.Follows (some choice) ((policies.get? name).getD .disabled) policy := by
  induction entries generalizing policies with
  | nil =>
      cases applied
      exact ⟨fun _ => rfl, nofun⟩
  | cons entry rest ih =>
      obtain ⟨check, choice⟩ := entry
      obtain ⟨fresh, distinct⟩ := List.nodup_cons.mp distinct
      by_cases known : check ∈ Check.names
      · rw [applyChoices_cons_of_known known, bind_eq_ok_iff] at applied
        obtain ⟨policy, made, applied⟩ := applied
        have follows := CheckChoice.apply_eq_ok_iff.mp made
        obtain ⟨silent, said⟩ := ih distinct applied
        rw [lookup_cons_eq]
        rw [NameMap.get?_insert] at silent said
        by_cases same : name = check
        · -- The rest of the entries says nothing about this check.
          subst same
          have missing : rest.lookup name = none := by
            rw [← Option.not_isSome_iff_eq_none, lookup_isSome_iff_mem]
            exact fresh
          rw [if_pos rfl]
          refine ⟨nofun, ?_⟩
          rintro _ ⟨⟩
          refine ⟨known, policy, ?_, follows⟩
          rw [silent missing, if_pos rfl]
        -- An entry for another check changes nothing here.
        · rw [if_neg same] at silent said ⊢
          exact ⟨silent, said⟩
      · rw [applyChoices, if_neg (mt List.contains_iff_mem.mp known)] at applied
        cases applied

theorem Profile.mem_and_name_of_ofName? {p : Profile} {name : String} (h : ofName? name = some p) :
    p ∈ all ∧ p.name = name := by
  unfold ofName? at h
  exact ⟨List.mem_of_find?_eq_some h, by simpa using List.find?_some h⟩

/-- A profile has a policy for each check, and for nothing else. -/
theorem Profile.isSome_get?_policies {p : Profile} (mem : p ∈ all) (name : String) :
    (p.policies.get? name).isSome ↔ name ∈ Check.names := by
  have every (modules others : Severity) :
      ((policiesOf modules others).get? name).isSome ↔ name ∈ Check.names := by
    unfold policiesOf
    rw [NameMap.get?_ofList, lookup_isSome_iff_mem, List.map_reverse, List.mem_reverse]
    rfl
  simp only [all, List.mem_cons, List.not_mem_nil, or_false] at mem
  rcases mem with rfl | rfl | rfl
  · exact every _ _
  · exact every _ _
  · exact every _ _

/-! ## Configurations

The faults of a configuration are put together from the faults of its parts. They are defined without
resolving it, and a fault stands in the list also where an earlier one keeps it from being noticed.
-/

/-- Modules are compiled before layers. -/
theorem CompiledRules.checks_ofSettings (compile : PatternCompiler) (s : Settings) :
    Checks compile (moduleSites s.modules.value ++ layerSites s.layers.value)
      (ofSettings compile s) :=
  (checks_compileModules s.modules.value).bind fun _ _ => (checks_compileLayers s.layers.value).map

theorem Shared.run_make {α : Type} (value : α) (supply : Nat) :
    (make value).run supply = (⟨supply, value⟩, supply + 1) :=
  rfl

namespace Config

def profileName (c : Config) (o : Overrides) : String := (o.profile.or c.profile).getD "strict"

/-- What is wrong with the name of the profile. -/
def profileFaults (c : Config) (o : Overrides) : List ConfigError :=
  if c.profileName o ∈ Profile.all.map Profile.name then [] else [.unknownProfile (c.profileName o)]

/-- What is wrong with the words of a configuration: its profile, its checks in the order of their
names, its failure level and its bounded texts. -/
def wordFaults (c : Config) (o : Overrides) : List ConfigError :=
  c.profileFaults o ++ c.checks.entries.flatMap (fun entry => entry.2.faults entry.1) ++
    (unknownWords FailOn.words c.failOn).map .unknownFailOn ++
    if "" ∈ c.bounded then [.emptyBound] else []

/-- The patterns of a configuration: those of its modules and then those of its layers. -/
def sites (c : Config) : List PatternSite := moduleSites c.modules ++ layerSites c.layers

/-- Everything that is wrong with a configuration. -/
def faults (compile : PatternCompiler) (c : Config) (o : Overrides) : List ConfigError :=
  c.wordFaults o ++ (c.sites.filterMap (PatternSite.fault? compile)).map .invalidPattern

/-- Nothing is wrong with a configuration. -/
structure Sound (compile : PatternCompiler) (c : Config) (o : Overrides) : Prop where
  profile : c.profileName o ∈ Profile.all.map Profile.name
  checks : ∀ entry ∈ c.checks.entries, entry.1 ∈ Check.names ∧
    ∀ word, entry.2.severity = some word → word ∈ Severity.words.map Prod.fst
  failOn : ∀ word, c.failOn = some word → word ∈ FailOn.words.map Prod.fst
  bounded : "" ∉ c.bounded
  patterns : ∀ site ∈ c.sites, site.Compiles compile

/-- The settings take every value from where it is said first: by the caller, by the configuration,
by the profile. -/
structure Settles (c : Config) (o : Overrides) (p : Profile) (s : Settings) : Prop where
  known : p ∈ Profile.all
  name : p.name = c.profileName o
  profile : s.profile = p.name
  failOn : Chosen FailOn.words p.failOn c.failOn s.failOn
  maxFindings : s.maxFindings = (o.maxFindings.or c.maxFindings).getD p.maxFindings
  only : ∀ check, (s.policies.get? check).isSome ↔ check ∈ Check.names
  policies : ∀ check preset policy, p.policies.get? check = some preset →
    s.policies.get? check = some policy → Policy.Follows (c.checks.get? check) preset policy
  modules : s.modules.value = c.modules
  layers : s.layers.value = c.layers
  bounded : s.bounded = c.bounded

variable {compile : PatternCompiler} {c : Config} {o : Overrides}
  {modules : Shared (List DeclaredModule)} {layers : Shared (List LayerDeclaration)} {s : Settings}

/-! ### Stages

Each stage reports its own faults (`Reports`), and stages one after another report theirs one after
another. So the order of the stages is the order of the faults in the list.
-/

theorem chosenProfile_eq (c : Config) (o : Overrides) :
    c.chosenProfile o = match Profile.ofName? (c.profileName o) with
      | some p => .ok p
      | none => .error (.unknownProfile (c.profileName o)) :=
  rfl

theorem reports_chosenProfile (c : Config) (o : Overrides) :
    Reports (c.profileFaults o) (c.chosenProfile o) := by
  rw [chosenProfile_eq, profileFaults]
  cases found : Profile.ofName? (c.profileName o) with
  | some p =>
      have known : c.profileName o ∈ Profile.all.map Profile.name :=
        List.mem_map.mpr ⟨p, Profile.mem_and_name_of_ofName? found⟩
      rw [if_pos known]
      exact reports_ok p
  | none =>
      have unknown : c.profileName o ∉ Profile.all.map Profile.name := by
        intro known
        obtain ⟨p, mem, name⟩ := List.mem_map.mp known
        exact List.find?_eq_none.mp found p mem (decide_eq_true name)
      rw [if_neg unknown]
      exact reports_error _ []

theorem chosenProfile_eq_ok {p : Profile} (h : c.chosenProfile o = .ok p) :
    p ∈ Profile.all ∧ p.name = c.profileName o := by
  rw [chosenProfile_eq] at h
  cases found : Profile.ofName? (c.profileName o) with
  | some q =>
      rw [found] at h
      cases h
      exact Profile.mem_and_name_of_ofName? found
  | none =>
      rw [found] at h
      cases h

theorem chosenFailOn_eq (c : Config) (default : FailOn) :
    c.chosenFailOn default = choose FailOn.words default .unknownFailOn c.failOn := by
  unfold chosenFailOn choose
  cases c.failOn with
  | none => rfl
  | some word =>
      dsimp only
      rw [FailOn.ofWord?_eq]
      cases FailOn.words.lookup word <;> rfl

/-- The stages before the patterns, one after another. -/
theorem settings_eq (c : Config) (o : Overrides) (modules : Shared (List DeclaredModule))
    (layers : Shared (List LayerDeclaration)) :
    c.settings o modules layers = c.chosenProfile o >>= fun p =>
      applyChoices p.policies c.checks.entries >>= fun policies =>
      c.chosenFailOn p.failOn >>= fun failOn =>
        if "" ∈ c.bounded then .error .emptyBound
        else .ok ⟨p.name, failOn, (o.maxFindings.or c.maxFindings).getD p.maxFindings, policies,
          modules, layers, c.bounded⟩ := by
  have empty : (c.bounded.any String.isEmpty = true) = ("" ∈ c.bounded) := by
    simp [String.isEmpty_iff]
  unfold settings
  simp only [empty]
  rfl

/-- The stages before the patterns report what is wrong with the words. -/
theorem reports_settings (c : Config) (o : Overrides) (modules : Shared (List DeclaredModule))
    (layers : Shared (List LayerDeclaration)) :
    Reports (c.wordFaults o) (c.settings o modules layers) := by
  rw [settings_eq, wordFaults, List.append_assoc, List.append_assoc]
  refine (reports_chosenProfile c o).bind fun p _ => ?_
  refine (reports_applyChoices p.policies c.checks.entries).bind fun policies _ => ?_
  rw [chosenFailOn_eq]
  refine (reports_choose _ _ _ _).bind fun failOn _ => ?_
  split
  · exact reports_error _ []
  · exact reports_ok _

theorem settles_of_settings (h : c.settings o modules layers = .ok s)
    (same_modules : modules.value = c.modules) (same_layers : layers.value = c.layers) :
    ∃ p, c.Settles o p s := by
  simp only [settings_eq, bind_eq_ok_iff] at h
  obtain ⟨p, found, policies, applied, failOn, chosen, h⟩ := h
  obtain ⟨mem, name⟩ := chosenProfile_eq_ok found
  rw [chosenFailOn_eq, choose_eq_ok_iff (by decide)] at chosen
  split at h
  · cases h
  · cases h
    have spec (check : String) := applyChoices_spec (nodup_of_rising c.checks.rising) applied check
    -- The policies are left: there is one for every check and for nothing else, and it follows what is
    -- said about the check, if anything is.
    refine ⟨p, mem, name, rfl, chosen, rfl, fun check => ?_, fun check preset policy => ?_,
      same_modules, same_layers, rfl⟩
    · obtain ⟨silent, said⟩ := spec check
      cases choice : c.checks.entries.lookup check with
      | none => rw [silent choice, Profile.isSome_get?_policies mem]
      | some choice' =>
          obtain ⟨known, policy, found, -⟩ := said choice' choice
          rw [found]
          exact iff_of_true rfl known
    · intro preset_found policy_found
      obtain ⟨silent, said⟩ := spec check
      rw [NameMap.get?]
      cases choice : c.checks.entries.lookup check with
      | none =>
          rw [silent choice, preset_found] at policy_found
          cases policy_found
          exact Policy.follows_none _
      | some choice' =>
          obtain ⟨-, policy', found, follows⟩ := said choice' choice
          rw [found] at policy_found
          cases policy_found
          rw [preset_found] at follows
          exact follows

/-! ### All stages

The rules are compiled through an empty cache, which has nothing to answer with, so they are compiled
as they are without one (`run_resolve`).
-/

/-- Resolving decides the words first, and then compiles the rules. -/
theorem run_resolve (compile : PatternCompiler) (c : Config) (o : Overrides) (supply : Nat) :
    ((c.resolve compile o).run supply).1 =
      c.settings o ⟨supply, c.modules⟩ ⟨supply + 1, c.layers⟩ >>= fun s =>
      (CompiledRules.ofSettings compile s).mapError ConfigError.invalidPattern >>= fun _ =>
        pure ⟨s, ((Cache.empty.resolve compile s).run (supply + 2)).1.2⟩ := by
  unfold resolve
  rw [Supply.run_bind, Supply.run_bind, Shared.run_make, Shared.run_make]
  dsimp only
  cases c.settings o ⟨supply, c.modules⟩ ⟨supply + 1, c.layers⟩ with
  | error e => rfl
  | ok s =>
      have compiled := (Cache.run_resolve_of_serves (Cache.serves_empty compile s) (supply + 2)).1
      show _ = (CompiledRules.ofSettings compile s).mapError ConfigError.invalidPattern >>=
        fun _ => pure _
      rw [Supply.run_bind, ← compiled]
      rcases (Cache.empty.resolve compile s).run (supply + 2) with ⟨⟨rules, cache⟩, next⟩
      cases rules <;> rfl

theorem reports_resolve (compile : PatternCompiler) (c : Config) (o : Overrides) (supply : Nat) :
    Reports (c.faults compile o) ((c.resolve compile o).run supply).1 := by
  rw [run_resolve]
  refine (reports_settings c o _ _).bind fun s settled => ?_
  obtain ⟨p, settles⟩ := settles_of_settings settled rfl rfl
  rw [sites, ← settles.modules, ← settles.layers]
  exact ((CompiledRules.checks_ofSettings compile s).mapError ConfigError.invalidPattern).map

theorem wordFaults_eq_nil_iff :
    c.wordFaults o = [] ↔ c.profileName o ∈ Profile.all.map Profile.name ∧
      (∀ entry ∈ c.checks.entries, entry.1 ∈ Check.names ∧
        ∀ word, entry.2.severity = some word → word ∈ Severity.words.map Prod.fst) ∧
      (∀ word, c.failOn = some word → word ∈ FailOn.words.map Prod.fst) ∧ "" ∉ c.bounded := by
  have choices (entry : String × CheckChoice) : entry.2.faults entry.1 = [] ↔
      entry.1 ∈ Check.names ∧
        ∀ word, entry.2.severity = some word → word ∈ Severity.words.map Prod.fst := by
    rw [CheckChoice.faults, List.append_eq_nil_iff, List.map_eq_nil_iff, unknownWords_eq_nil_iff]
    simp
  simp only [wordFaults, profileFaults, List.append_eq_nil_iff, List.flatMap_eq_nil_iff, choices,
    List.map_eq_nil_iff, unknownWords_eq_nil_iff, ite_eq_left_iff, ite_eq_right_iff,
    imp_false, not_not, and_assoc, List.cons_ne_nil]

/-- A configuration has no faults exactly if it is sound. -/
theorem faults_eq_nil_iff : c.faults compile o = [] ↔ c.Sound compile o := by
  rw [faults, List.append_eq_nil_iff, wordFaults_eq_nil_iff, List.map_eq_nil_iff,
    List.filterMap_eq_nil_iff]
  simp only [PatternSite.fault?_eq_none_iff]
  constructor
  · rintro ⟨⟨profile, checks, failOn, bounded⟩, patterns⟩
    exact ⟨profile, checks, failOn, bounded, patterns⟩
  · rintro ⟨profile, checks, failOn, bounded, patterns⟩
    exact ⟨⟨profile, checks, failOn, bounded⟩, patterns⟩

/-- A configuration resolves exactly if it is sound; otherwise the first of its faults is reported.
The settings to which it resolves take over what the caller and the configuration say, and the rest
from the profile. -/
theorem resolve_outcome (compile : PatternCompiler) (c : Config) (o : Overrides) (supply : Nat) :
    ((∃ resolved, ((c.resolve compile o).run supply).1 = .ok resolved) ↔ c.Sound compile o) ∧
      (∀ e, ((c.resolve compile o).run supply).1 = .error e ↔
        (c.faults compile o).head? = some e) ∧
      ∀ resolved, ((c.resolve compile o).run supply).1 = .ok resolved →
        ∃ p, c.Settles o p resolved.settings := by
  have reports := c.reports_resolve compile o supply
  refine ⟨reports.exists_ok_iff.trans faults_eq_nil_iff, fun e => reports.eq_error_iff, ?_⟩
  intro resolved h
  rw [run_resolve] at h
  obtain ⟨s, settled, h⟩ := bind_eq_ok_iff.mp h
  obtain ⟨rules, -, made⟩ := bind_eq_ok_iff.mp h
  cases made
  exact settles_of_settings settled rfl rfl

/-- A configuration that says something about two checks. -/
def outspoken (word : String) : Config where
  profile := some "strict"
  failOn := some word
  bounded := ["legacy"]
  checks := ⟨[("imports.bounded", ⟨some false, none⟩), ("imports.modules", ⟨none, some word⟩)],
    List.pairwise_pair.mpr (show "imports.bounded" < "imports.modules" by decide)⟩
  modules := [.node { path := "src", interface := some (.one "*") } []]

/-- The caller's profile replaces that of the configuration. A check keeps the severity of the
profile if only its being enabled is decided, and the other way round. A word that stands for nothing
is reported for the check, before the failure level and the pattern of the module are looked at. -/
theorem resolve_outcome_outspoken :
    let o : Overrides := { profile := some "compat", maxFindings := some 5 }
    (((outspoken "fatal").resolve (refusing "*") o).run 0).1 =
        .error (.unknownSeverity "imports.modules" "fatal") ∧
      ∃ resolved, (((outspoken "warn").resolve (refusing "(") o).run 0).1 = .ok resolved ∧
        resolved.settings.profile = "compat" ∧ resolved.settings.maxFindings = 5 ∧
        resolved.settings.failOn = .warning ∧
        resolved.settings.policies.get? "imports.bounded" = some ⟨false, .warning⟩ ∧
        resolved.settings.policies.get? "imports.modules" = some ⟨true, .warning⟩ := by
  intro o
  constructor
  · refine ((resolve_outcome (refusing "*") (outspoken "fatal") o 0).2.1 _).mpr ?_
    decide +kernel
  · obtain ⟨success, -, result⟩ := resolve_outcome (refusing "(") (outspoken "warn") o 0
    have sound : (outspoken "warn").Sound (refusing "(") o := by
      refine ⟨by decide, by decide, by decide, by decide, fun site mem => ?_⟩
      exact ⟨_, if_neg (by revert site; decide)⟩
    obtain ⟨resolved, h⟩ := success.mpr sound
    obtain ⟨p, settles⟩ := result resolved h
    obtain rfl : p = .compat := by
      have known := settles.known
      simp only [Profile.all, List.mem_cons, List.not_mem_nil, or_false] at known
      rcases known with rfl | rfl | rfl
      · exact absurd settles.name (by decide)
      · exact absurd settles.name (by decide)
      · rfl
    have found (check : String) (known : check ∈ Check.names) :=
      Option.isSome_iff_exists.mp ((settles.only check).mpr known)
    obtain ⟨⟨bounded, severity⟩, found_bounded⟩ := found "imports.bounded" (by decide)
    obtain ⟨⟨modules, severity'⟩, found_modules⟩ := found "imports.modules" (by decide)
    have follows := settles.policies _ ⟨true, .warning⟩ _ (by decide) found_bounded
    have follows' := settles.policies _ ⟨true, .error⟩ _ (by decide) found_modules
    refine ⟨resolved, h, settles.profile, settles.maxFindings, ?_, ?_, ?_⟩
    · cases settles.failOn with
      | word mem => simpa [FailOn.words] using mem
    · obtain ⟨rfl, ⟨⟩⟩ := follows
      exact found_bounded
    · obtain ⟨rfl, mem⟩ := follows'
      cases mem with
      | word mem =>
          obtain rfl : severity' = .warning := by simpa [Severity.words] using mem
          exact found_modules

end Config

end ImportBoundary
