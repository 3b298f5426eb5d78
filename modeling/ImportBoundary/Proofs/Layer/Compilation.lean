import ImportBoundary.Layer.Rule
import ImportBoundary.Proofs.Module.Compilation

/-!
# What layers compile to

Layer rules are compiled like modules: in the order of their sites (`layerSites`), where the pattern
of every path is left out, and each to what `CompilesTo` says. With the modules this is all of
compilation: `compile_outcome` says when it succeeds, which pattern is reported if it does not, and
what comes out if it does.

The number of a rule is part of the error that is reported for it. It counts from one, and it is
carried through the list of rules by `compileLayersFrom`, about which everything is proved for any
number to start from.
-/

namespace ImportBoundary

variable {compile : PatternCompiler}

namespace LayerDeclaration

/-- The pattern of the files that a rule applies to, if it has to be compiled. -/
def sourcePattern? (d : LayerDeclaration) : Option String := d.source.filter (· ≠ everyPath)

/-- The patterns of the rule with a given number in the order in which they are compiled. -/
def sites (d : LayerDeclaration) (number : Nat) : List PatternSite :=
  sitesOf (.layer number) .layerSource d.sourcePattern?.toList ++
    sitesOf (.layer number) .layerTarget d.target ++
    sitesOf (.layer number) .layerExcept d.except

/-- What a rule compiles to. -/
structure CompilesTo (compile : PatternCompiler) (d : LayerDeclaration) (rule : LayerRule) : Prop where
  source : CompiledTo compile d.sourcePattern?.toList rule.source.toList
  target : CompiledTo compile d.target rule.target
  except : CompiledTo compile d.except rule.except
  allowChildren : rule.allowChildren = d.allowChildren.getD true
  message : rule.message = d.message.getD defaultLayerMessage

variable {d : LayerDeclaration} {number : Nat}

theorem compileSource_of_none (h : d.sourcePattern? = none) :
    d.compileSource compile number = .ok none := by
  unfold sourcePattern? at h
  unfold compileSource
  cases source : d.source with
  | none => rfl
  | some s =>
      rw [source] at h
      have every : s = everyPath := by simpa using h
      exact if_pos every

theorem compileSource_of_some {s : String} (h : d.sourcePattern? = some s) :
    d.compileSource compile number =
      compilePattern compile (.layer number) .layerSource s >>= fun p => pure (some p) := by
  obtain ⟨source, other⟩ := Option.filter_eq_some_iff.mp h
  unfold compileSource
  rw [source]
  exact if_neg (of_decide_eq_true other)

theorem checks_compileSource (d : LayerDeclaration) (number : Nat) :
    Checks compile (sitesOf (.layer number) .layerSource d.sourcePattern?.toList)
      (d.compileSource compile number) := by
  cases h : d.sourcePattern? with
  | none =>
      rw [compileSource_of_none h]
      exact reports_ok none
  | some s =>
      rw [compileSource_of_some h]
      exact (checks_compilePattern (.layer number) .layerSource s).map

theorem compileSource_eq_ok_iff {source : Option Pattern} :
    d.compileSource compile number = .ok source ↔
      CompiledTo compile d.sourcePattern?.toList source.toList := by
  cases h : d.sourcePattern? with
  | none =>
      rw [compileSource_of_none h]
      cases source <;> simp [CompiledTo]
  | some s =>
      rw [compileSource_of_some h]
      cases source <;> simp [CompiledTo, bind_eq_ok_iff, compilePattern_eq_ok_iff, pure, Except.pure]

/-- A rule is compiled in the order of its sites. -/
theorem checks_compile (d : LayerDeclaration) (number : Nat) :
    Checks compile (d.sites number) (d.compile compile number) := by
  unfold sites
  rw [List.append_assoc]
  refine (d.checks_compileSource number).bind fun source _ => ?_
  refine (checks_compilePatterns (.layer number) .layerTarget d.target).bind fun target _ => ?_
  exact (checks_compilePatterns (.layer number) .layerExcept d.except).map

theorem compile_eq_ok_iff {rule : LayerRule} :
    d.compile compile number = .ok rule ↔ d.CompilesTo compile rule := by
  unfold LayerDeclaration.compile
  simp only [bind_eq_ok_iff, compileSource_eq_ok_iff, compilePatterns_eq_ok_iff]
  constructor
  · rintro ⟨source, h_source, target, h_target, except, h_except, made⟩
    cases made
    exact ⟨h_source, h_target, h_except, rfl, rfl⟩
  · rintro ⟨source, target, except, allowChildren, message⟩
    refine ⟨_, source, _, target, _, except, ?_⟩
    rw [← allowChildren, ← message]
    rfl

end LayerDeclaration

/-- The patterns of layer rules, numbered from one, in the order in which they are compiled. -/
def layerSites (layers : List LayerDeclaration) : List PatternSite :=
  (layers.zipIdx 1).flatMap fun layer => layer.1.sites layer.2

theorem checks_compileLayersFrom (number : Nat) (layers : List LayerDeclaration) :
    Checks compile ((layers.zipIdx number).flatMap fun layer => layer.1.sites layer.2)
      (compileLayersFrom compile number layers) := by
  induction layers generalizing number with
  | nil => exact reports_ok []
  | cons d rest ih =>
      rw [List.zipIdx_cons, List.flatMap_cons, compileLayersFrom]
      exact (d.checks_compile number).bind fun rule _ => (ih (number + 1)).map

/-- Layer rules are compiled in the order of their sites. -/
theorem checks_compileLayers (layers : List LayerDeclaration) :
    Checks compile (layerSites layers) (compileLayers compile layers) :=
  checks_compileLayersFrom 1 layers

theorem compileLayersFrom_eq_ok_iff {number : Nat} {layers : List LayerDeclaration}
    {rules : List LayerRule} :
    compileLayersFrom compile number layers = .ok rules ↔
      List.Forall₂ (LayerDeclaration.CompilesTo compile) layers rules := by
  induction layers generalizing number rules with
  | nil =>
      rw [List.forall₂_nil_left_iff, compileLayersFrom, Except.ok.injEq, eq_comm]
  | cons d rest ih =>
      rw [compileLayersFrom, List.forall₂_cons_left_iff]
      simp only [bind_eq_ok_iff, LayerDeclaration.compile_eq_ok_iff, ih, pure, Except.pure,
        Except.ok.injEq]
      constructor
      · rintro ⟨rule, first, rules, others, rfl⟩
        exact ⟨rule, rules, first, others, rfl⟩
      · rintro ⟨rule, rules, first, others, rfl⟩
        exact ⟨rule, first, rules, others, rfl⟩

/-! ## All of compilation

Modules are compiled before layer rules, and each of the two on its own, so the theorem is about both
side by side. For modules it adds that paths are normalized once, where they are compiled: a dependency
in one spelling names a module in another one.
-/

/-- A dependency of a module names another module of the forest exactly if the two paths as written
have the same canonical form. -/
def DependenciesName (forest : List DeclaredModule) (compiled : List CompiledModule) : Prop :=
  ∀ owner ∈ (Tree.forestValues forest).zip (Tree.forestValues compiled),
    ∀ entry ∈ owner.1.dependencies.zip owner.2.dependencies,
      ∀ named ∈ (Tree.forestValues forest).zip (Tree.forestValues compiled),
        entry.2.path = named.2.path ↔ Path.normalize entry.1.path = Path.normalize named.1.path

theorem dependenciesName_of_alike {forest : List DeclaredModule} {compiled : List CompiledModule}
    (alike : Tree.Alike (ModuleDeclaration.CompilesTo compile) forest compiled) :
    DependenciesName forest compiled := by
  obtain ⟨-, values⟩ := List.forall₂_iff_zip.mp alike.values
  intro owner mem_owner entry mem_entry named mem_named
  obtain ⟨-, dependencies⟩ := List.forall₂_iff_zip.mp (values mem_owner).dependencies
  rw [(dependencies mem_entry).path, (values mem_named).path]

/-- Modules, and likewise layer rules, compile exactly if all of their patterns do. Otherwise the
first pattern that does not compile is reported, with the module or the rule in which it stands and
with its field. What comes out has the shape of what was declared, and every entry stands at its
place. -/
theorem compile_outcome (compile : PatternCompiler) :
    (∀ forest : List DeclaredModule,
      ((∃ compiled, compileModules compile forest = .ok compiled) ↔
        ∀ site ∈ moduleSites forest, site.Compiles compile) ∧
      (∀ e, compileModules compile forest = .error e ↔ FirstFault compile (moduleSites forest) e) ∧
      ∀ compiled, compileModules compile forest = .ok compiled →
        Tree.Alike (ModuleDeclaration.CompilesTo compile) forest compiled ∧
        countModules forest = (Tree.forestValues compiled).length ∧
        DependenciesName forest compiled) ∧
    ∀ layers : List LayerDeclaration,
      ((∃ rules, compileLayers compile layers = .ok rules) ↔
        ∀ site ∈ layerSites layers, site.Compiles compile) ∧
      (∀ e, compileLayers compile layers = .error e ↔ FirstFault compile (layerSites layers) e) ∧
      ∀ rules, compileLayers compile layers = .ok rules →
        List.Forall₂ (LayerDeclaration.CompilesTo compile) layers rules := by
  constructor
  · intro forest
    have checks : Checks compile _ _ := checks_compileModules forest
    refine ⟨checks.exists_ok_iff, fun e => checks.eq_error_iff, fun compiled h => ?_⟩
    have alike := compileModules_eq_ok_iff.mp h
    refine ⟨alike, ?_, dependenciesName_of_alike alike⟩
    rw [← alike.values.length_eq, Tree.length_forestValues, countModules]
  · intro layers
    have checks : Checks compile _ _ := checks_compileLayers layers
    exact ⟨checks.exists_ok_iff, fun e => checks.eq_error_iff,
      fun rules => compileLayersFrom_eq_ok_iff.mp⟩

/-- A compiler that refuses one pattern. -/
def refusing (refused : String) : PatternCompiler := fun source =>
  if source = refused then .error ⟨source, .missingOperand⟩ else .ok ⟨source, .empty⟩

/-- Two modules, of which the first has another one nested in it and names the second in another
spelling. -/
def spelledTwice (older : String) : List DeclaredModule :=
  [.node { path := "src//a", interface := some (.one "index"),
           dependencies := [.restricted "./src/x/../b" ["api"]],
           techdebt := [⟨"^src", older⟩] }
      [.node { path := "src/a/core", externals := some [], exceptions := [⟨"*", "*"⟩] } []],
    .node { path := "src/b/" } []]

/-- The pattern of every path is no fault of a rule, whatever the compiler says of it. Of the patterns
that a compiler refuses, the one in the exceptions of the first module stands before those of the
module nested in it. -/
theorem compile_outcome_spelledTwice :
    (∃ rules,
        compileLayers (refusing ".*") [{ source := some ".*", target := ["^src/"] }] = .ok rules) ∧
      compileModules (refusing "*") (spelledTwice "*") =
        .error ⟨.module "src//a", .exceptionTarget, ⟨"*", .missingOperand⟩⟩ ∧
      ∃ compiled, compileModules (refusing "(") (spelledTwice "^lib") = .ok compiled ∧
        (Tree.forestValues compiled).length = 3 ∧ DependenciesName (spelledTwice "^lib") compiled := by
  have accepts {refused : String} {site : PatternSite} (other : site.source ≠ refused) :
      site.Compiles (refusing refused) := ⟨_, if_neg other⟩
  refine ⟨?_, ?_, ?_⟩
  · refine ((compile_outcome (refusing ".*")).2 _).1.mpr fun site mem => accepts ?_
    revert site
    decide
  · refine (((compile_outcome (refusing "*")).1 (spelledTwice "*")).2.1 _).mpr ?_
    have compiles (source : String) (other : source ≠ "*") (owner : PatternOwner)
        (field : PatternField) : PatternSite.Compiles (refusing "*") ⟨owner, field, source⟩ :=
      accepts other
    refine .later (compiles _ (by decide) _ _) (.later (compiles _ (by decide) _ _) ?_)
    exact .later (compiles _ (by decide) _ _) (.here rfl)
  · obtain ⟨success, -, result⟩ := (compile_outcome (refusing "(")).1 (spelledTwice "^lib")
    obtain ⟨compiled, h⟩ := success.mpr fun site mem => accepts (by revert site; decide)
    obtain ⟨-, count, named⟩ := result compiled h
    exact ⟨compiled, h, count.symm, named⟩

end ImportBoundary
