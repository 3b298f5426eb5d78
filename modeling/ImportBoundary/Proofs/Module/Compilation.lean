import ImportBoundary.Proofs.Fault
import ImportBoundary.Proofs.Module.Entries

/-!
# What modules compile to

A declaration has its patterns at sites, in the order in which they are compiled (`PatternSite`,
`moduleSites`). Modules compile exactly if all of these patterns do, and otherwise the first one that
does not is reported, with its owner and its field (`checks_compileModules`). A forest that compiles
keeps its shape, and every module in it becomes what `CompilesTo` says, entry by entry
(`compileModules_eq_ok_iff`). The pattern compiler is any partial function.
-/

namespace ImportBoundary

variable {compile : PatternCompiler}

/-! ## Sites of patterns

A site says where a pattern stands, in the terms in which a pattern is reported that does not compile.
A computation that compiles the patterns of some sites, in order, is described by them alone
(`Checks`): the sites of a sequence of computations are those of the first one, and then those of the
second one, whatever the first one has come to.
-/

/-- A pattern of a configuration, with the place at which it stands. -/
structure PatternSite where
  owner : PatternOwner
  field : PatternField
  source : String
deriving DecidableEq, Repr

namespace PatternSite

def Compiles (compile : PatternCompiler) (site : PatternSite) : Prop :=
  ∃ p, compile site.source = .ok p

/-- The error of a pattern that does not compile. -/
def fault? (compile : PatternCompiler) (site : PatternSite) : Option CompileError :=
  (failure? (compile site.source)).map fun e => ⟨site.owner, site.field, e⟩

variable {site : PatternSite}

theorem fault?_eq_none_iff : site.fault? compile = none ↔ site.Compiles compile := by
  unfold fault? Compiles
  cases compile site.source <;> simp [failure?]

theorem fault?_of_error {e : PatternError} (h : compile site.source = .error e) :
    site.fault? compile = some ⟨site.owner, site.field, e⟩ := by
  rw [fault?, h]
  rfl

end PatternSite

/-- The error is that of the first pattern which does not compile. -/
inductive FirstFault (compile : PatternCompiler) : List PatternSite → CompileError → Prop
  | here {site : PatternSite} {rest : List PatternSite} {e : PatternError} :
      compile site.source = .error e → FirstFault compile (site :: rest) ⟨site.owner, site.field, e⟩
  | later {site : PatternSite} {rest : List PatternSite} {e : CompileError} :
      site.Compiles compile → FirstFault compile rest e → FirstFault compile (site :: rest) e

/-- The computation compiles the patterns at the sites, one after another. -/
def Checks {α : Type} (compile : PatternCompiler) (sites : List PatternSite)
    (x : Except CompileError α) : Prop :=
  Reports (sites.filterMap (PatternSite.fault? compile)) x

theorem head?_faults_eq_some_iff {sites : List PatternSite} {e : CompileError} :
    (sites.filterMap (PatternSite.fault? compile)).head? = some e ↔ FirstFault compile sites e := by
  induction sites with
  | nil =>
      constructor
      · exact nofun
      · exact nofun
  | cons site rest ih =>
      -- A site that compiles has no fault and is passed over. At one that does not, both sides stop.
      cases outcome : compile site.source with
      | ok p =>
          have compiles : site.Compiles compile := ⟨p, outcome⟩
          rw [List.filterMap_cons_none (PatternSite.fault?_eq_none_iff.mpr compiles), ih]
          refine ⟨.later compiles, fun first => ?_⟩
          cases first with
          | here failed =>
              rw [outcome] at failed
              cases failed
          | later _ first => exact first
      | error cause =>
          rw [List.filterMap_cons_some (PatternSite.fault?_of_error outcome), List.head?_cons,
            Option.some.injEq]
          constructor
          · rintro rfl
            exact .here outcome
          · intro first
            cases first with
            | here failed =>
                rw [outcome] at failed
                cases failed
                rfl
            | later compiles _ =>
                obtain ⟨p, compiled⟩ := compiles
                rw [outcome] at compiled
                cases compiled

namespace Checks

variable {α β : Type} {sites more : List PatternSite} {x : Except CompileError α}

theorem eq_error_iff (h : Checks compile sites x) {e : CompileError} :
    x = .error e ↔ FirstFault compile sites e :=
  (Reports.eq_error_iff h).trans head?_faults_eq_some_iff

theorem exists_ok_iff (h : Checks compile sites x) :
    (∃ a, x = .ok a) ↔ ∀ site ∈ sites, site.Compiles compile := by
  rw [Reports.exists_ok_iff h, List.filterMap_eq_nil_iff]
  simp only [PatternSite.fault?_eq_none_iff]

theorem bind {f : α → Except CompileError β} (first : Checks compile sites x)
    (second : ∀ a, x = .ok a → Checks compile more (f a)) :
    Checks compile (sites ++ more) (x >>= f) := by
  rw [Checks, List.filterMap_append]
  exact Reports.bind first second

theorem mapM {f : α → Except CompileError β} {sites : α → List PatternSite} {xs : List α}
    (each : ∀ x, Checks compile (sites x) (f x)) :
    Checks compile (xs.flatMap sites) (xs.mapM f) := by
  rw [Checks, List.filterMap_flatMap]
  exact Reports.mapM fun x _ => each x

end Checks

/-! ## Patterns

The field of a pattern and the module in which it stands go into the error only. What a list of
patterns compiles to is a matter of the texts (`CompiledTo`).
-/

variable {owner : PatternOwner} {field : PatternField} {sources : List String}

/-- The sites of a list of patterns. -/
def sitesOf (owner : PatternOwner) (field : PatternField) (sources : List String) :
    List PatternSite :=
  sources.map fun source => ⟨owner, field, source⟩

/-- The patterns are what the texts compile to, one by one and in order. -/
def CompiledTo (compile : PatternCompiler) : List String → List Pattern → Prop :=
  List.Forall₂ fun source pattern => compile source = .ok pattern

theorem compilePattern_eq_ok_iff {source : String} {p : Pattern} :
    compilePattern compile owner field source = .ok p ↔ compile source = .ok p := by
  unfold compilePattern
  cases compile source <;> simp [Except.mapError]

theorem compilePatterns_eq_ok_iff {patterns : List Pattern} :
    compilePatterns compile owner field sources = .ok patterns ↔
      CompiledTo compile sources patterns := by
  show sources.mapM (compilePattern compile owner field) = .ok patterns ↔ _
  rw [mapM_eq_ok_iff]
  simp only [compilePattern_eq_ok_iff]
  rfl

theorem checks_compilePattern (owner : PatternOwner) (field : PatternField) (source : String) :
    Checks compile [⟨owner, field, source⟩] (compilePattern compile owner field source) := by
  unfold compilePattern Checks Reports
  cases outcome : compile source with
  | ok p => simp [failure?, PatternSite.fault?, outcome, Except.mapError]
  | error e => simp [failure?, PatternSite.fault?, outcome, Except.mapError]

theorem checks_compilePatterns (owner : PatternOwner) (field : PatternField)
    (sources : List String) :
    Checks compile (sitesOf owner field sources) (compilePatterns compile owner field sources) := by
  rw [sitesOf, List.map_eq_flatMap]
  exact Checks.mapM (checks_compilePattern owner field)

/-! ## Modules

What a declaration compiles to is a relation with one line for each field. The rest shows for each kind
of entry, and then for a whole module, that compiling checks its sites and that it succeeds with
nothing but what the relation says.
-/

namespace ModuleDeclaration

/-- The patterns of a module, without the modules nested in it, in the order in which they are
compiled. -/
def sites (d : ModuleDeclaration) : List PatternSite :=
  sitesOf d.owner .interface ((d.interface.map InterfaceDeclaration.patterns).getD []) ++
    d.dependencies.flatMap (fun dependency => sitesOf d.owner .dependency dependency.patterns) ++
    sitesOf d.owner .externals (d.externals.getD []) ++
    (d.exceptions ++ d.techdebt).flatMap fun e =>
      [⟨d.owner, .exceptionSource, e.source⟩, ⟨d.owner, .exceptionTarget, e.target⟩]

/-- A dependency on the module at the canonical path, with the same patterns. -/
structure DependencyCompilesTo (compile : PatternCompiler) (declared : DependencyDeclaration)
    (dependency : Dependency) : Prop where
  path : dependency.path = Path.normalize declared.path
  only : CompiledTo compile declared.patterns dependency.only

/-- All externals are allowed if none are listed, and otherwise those of the list, even if it is
empty. -/
inductive ExternalsCompileTo (compile : PatternCompiler) : Option (List String) → Externals → Prop
  | all : ExternalsCompileTo compile none .all
  | only {sources : List String} {patterns : List Pattern} : CompiledTo compile sources patterns →
      ExternalsCompileTo compile (some sources) (.only patterns)

/-- An exception with the same two patterns. -/
structure ExceptionCompilesTo (compile : PatternCompiler) (declared : ExceptionDeclaration)
    (e : BoundaryException) : Prop where
  source : compile declared.source = .ok e.source
  target : compile declared.target = .ok e.target

/-- What a declaration compiles to: every list keeps its entries and their order. -/
structure CompilesTo (compile : PatternCompiler) (d : ModuleDeclaration) (b : Boundary) : Prop where
  path : b.path = Path.normalize d.path
  interface : CompiledTo compile ((d.interface.map InterfaceDeclaration.patterns).getD []) b.interface
  dependencies : List.Forall₂ (DependencyCompilesTo compile) d.dependencies b.dependencies
  externals : ExternalsCompileTo compile d.externals b.externals
  exceptions : List.Forall₂ (ExceptionCompilesTo compile) (d.exceptions ++ d.techdebt) b.exceptions
  note : b.note = d.note

variable {d : ModuleDeclaration}

/-! ### Entries

For each kind of entry two facts: which of its sites are checked, and what it compiles to.
-/

theorem checks_compileDependency (d : ModuleDeclaration) (declared : DependencyDeclaration) :
    Checks compile (sitesOf d.owner .dependency declared.patterns)
      (d.compileDependency compile declared) :=
  (checks_compilePatterns d.owner .dependency declared.patterns).map

theorem compileDependency_eq_ok_iff {declared : DependencyDeclaration} {dependency : Dependency} :
    d.compileDependency compile declared = .ok dependency ↔
      DependencyCompilesTo compile declared dependency := by
  unfold compileDependency
  simp only [bind_eq_ok_iff, compilePatterns_eq_ok_iff]
  constructor
  · rintro ⟨only, patterns, made⟩
    cases made
    exact ⟨rfl, patterns⟩
  · rintro ⟨path, patterns⟩
    exact ⟨dependency.only, patterns, congrArg Except.ok (path ▸ rfl)⟩

theorem checks_compileExternals (d : ModuleDeclaration) :
    Checks compile (sitesOf d.owner .externals (d.externals.getD [])) (d.compileExternals compile) := by
  unfold compileExternals
  cases d.externals with
  | none => exact reports_ok Externals.all
  | some sources => exact (checks_compilePatterns d.owner .externals sources).map

theorem compileExternals_eq_ok_iff {e : Externals} :
    d.compileExternals compile = .ok e ↔ ExternalsCompileTo compile d.externals e := by
  unfold compileExternals
  cases d.externals with
  | none =>
      constructor
      · rintro ⟨⟩
        exact .all
      · rintro ⟨⟩
        rfl
  | some sources =>
      simp only [bind_eq_ok_iff, compilePatterns_eq_ok_iff]
      constructor
      · rintro ⟨patterns, compiled, made⟩
        cases made
        exact .only compiled
      · intro compiles
        cases compiles with
        | only compiled => exact ⟨_, compiled, rfl⟩

theorem checks_compileException (d : ModuleDeclaration) (e : ExceptionDeclaration) :
    Checks compile [⟨d.owner, .exceptionSource, e.source⟩, ⟨d.owner, .exceptionTarget, e.target⟩]
      (d.compileException compile e) :=
  (checks_compilePattern d.owner .exceptionSource e.source).bind fun _ _ =>
    (checks_compilePattern d.owner .exceptionTarget e.target).map

theorem compileException_eq_ok_iff {declared : ExceptionDeclaration} {e : BoundaryException} :
    d.compileException compile declared = .ok e ↔ ExceptionCompilesTo compile declared e := by
  unfold compileException
  simp only [bind_eq_ok_iff, compilePattern_eq_ok_iff]
  constructor
  · rintro ⟨source, compiled_source, target, compiled_target, made⟩
    cases made
    exact ⟨compiled_source, compiled_target⟩
  · rintro ⟨compiled_source, compiled_target⟩
    exact ⟨e.source, compiled_source, e.target, compiled_target, rfl⟩

/-! ### A module

The sites of a module are those of its interface, its dependencies, its externals and its exceptions,
one behind the other, and this is the order in which they are compiled.
-/

/-- A module without the modules nested in it is compiled in the order of its sites. -/
theorem checks_compile (d : ModuleDeclaration) :
    Checks compile d.sites (d.compile compile) := by
  unfold sites
  rw [List.append_assoc, List.append_assoc]
  refine (checks_compilePatterns d.owner .interface _).bind fun interface _ => ?_
  refine (Checks.mapM d.checks_compileDependency).bind fun dependencies _ => ?_
  refine d.checks_compileExternals.bind fun externals _ => ?_
  exact (Checks.mapM d.checks_compileException).map

theorem compile_eq_ok_iff {b : Boundary} :
    d.compile compile = .ok b ↔ d.CompilesTo compile b := by
  unfold ModuleDeclaration.compile
  simp only [bind_eq_ok_iff, compilePatterns_eq_ok_iff, mapM_eq_ok_iff, compileDependency_eq_ok_iff,
    compileExternals_eq_ok_iff, compileException_eq_ok_iff]
  constructor
  · rintro ⟨interface, h_interface, dependencies, h_dependencies, externals, h_externals, exceptions,
      h_exceptions, made⟩
    cases made
    exact ⟨rfl, h_interface, h_dependencies, h_externals, h_exceptions, rfl⟩
  · rintro ⟨path, interface, dependencies, externals, exceptions, note⟩
    refine ⟨_, interface, _, dependencies, _, externals, _, exceptions, ?_⟩
    rw [← path, ← note]
    rfl

end ModuleDeclaration

/-! ## Forests

A forest is compiled by mapping its trees, so both facts about a module carry over to forests along
`Tree.traverse`, by induction over the values of a forest and what is nested in them.
-/

namespace Tree

variable {α β ε : Type} {R : α → β → Prop} {s : List (Tree α)} {t : List (Tree β)}

/-- A forest is mapped to a forest of the same shape, value by value. -/
theorem traverse_eq_ok_iff {f : α → Except ε β} :
    traverse f s = .ok t ↔ Alike (fun a b => f a = .ok b) s t := by
  induction s using forest_induction generalizing t with
  | nil =>
      constructor
      · rintro ⟨⟩
        exact .nil
      · rintro ⟨⟩
        rfl
  | cons a inside rest ih_inside ih_rest =>
      rw [traverse_cons_eq_ok_iff]
      constructor
      · rintro ⟨b, below, beside, value, children, others, rfl⟩
        exact .cons value (ih_inside.mp children) (ih_rest.mp others)
      · intro alike
        cases alike with
        | cons value children others =>
            exact ⟨_, _, _, value, ih_inside.mpr children, ih_rest.mpr others, rfl⟩

/-- Every value of a forest stands for itself in the list of its values. -/
theorem length_forestValues (s : List (Tree α)) : (forestValues s).length = forestSize s := by
  induction s using forest_induction with
  | nil => rfl
  | cons a inside rest ih_inside ih_rest =>
      rw [forestValues, values, List.length_append, List.length_cons, ih_inside, ih_rest,
        forestSize_cons, size_eq]
      rfl

/-- The values at the same places of alike forests are related. -/
theorem Alike.values (h : Alike R s t) : List.Forall₂ R (forestValues s) (forestValues t) := by
  induction h with
  | nil => exact .nil
  | cons related _ _ ih_inside ih_rest => exact .cons related (List.rel_append ih_inside ih_rest)

end Tree

/-- The patterns of a forest in the order in which they are compiled: those of a module before those of
the modules nested in it, and siblings from left to right. -/
def moduleSites (forest : List DeclaredModule) : List PatternSite :=
  (Tree.forestValues forest).flatMap ModuleDeclaration.sites

/-- Modules are compiled in the order of their sites. -/
theorem checks_compileModules (forest : List DeclaredModule) :
    Checks compile (moduleSites forest) (compileModules compile forest) := by
  rw [Checks, moduleSites, List.filterMap_flatMap]
  exact Reports.traverse ModuleDeclaration.checks_compile forest

/-- What a forest compiles to has the same shape, and its modules are what the declarations at the same
places compile to. -/
theorem compileModules_eq_ok_iff {forest : List DeclaredModule} {compiled : List CompiledModule} :
    compileModules compile forest = .ok compiled ↔
      Tree.Alike (ModuleDeclaration.CompilesTo compile) forest compiled := by
  rw [compileModules, Tree.traverse_eq_ok_iff]
  simp only [ModuleDeclaration.compile_eq_ok_iff]

end ImportBoundary
