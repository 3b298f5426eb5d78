import ImportBoundary.Config
import ImportBoundary.Proofs.Graph.Codec
import ImportBoundary.Proofs.Module.Codec

/-!
# Reading configurations back

A layer rule and a configuration are recovered from what was written of them; of a configuration, the
number of findings has to have 32 bits (`Config.Fits`). With graphs, this is all that a run takes in
(`inputs_read_back`).

What is written of two different values is different in whatever order the members stand, so nothing is
lost on the way and nothing runs together: a field that was left out is not one that is empty, and a
single pattern is not a list of one pattern.
-/

namespace ImportBoundary

open Json (Decoder Node Row lookup_ifSome lookup_ifAny map_fst_ifSome_sublist map_fst_ifAny_sublist
  forall_mem_ifSome whole_of_mem_ifAny)

theorem LayerDeclaration.recovers (l : LayerDeclaration) : decode.Recovers l.encode l := by
  apply Decoder.recovers_record fields (by decide)
  · simp only [List.map_append]
    exact (((map_fst_ifSome_sublist.append (List.Sublist.refl ["to"])).append
      map_fst_ifAny_sublist).append map_fst_ifSome_sublist).append map_fst_ifSome_sublist
  · simp only [List.forall_mem_append, List.forall_mem_singleton, forall_mem_ifSome]
    exact ⟨⟨⟨⟨fun _ _ => .string _, (Decoder.recovers_texts l.target).whole⟩,
      whole_of_mem_ifAny fun s _ => .string s⟩, fun _ _ => .bool _⟩, fun _ _ => .string _⟩
  · intro depth nodes row found shows
    have source : row.defaulted "from" none (Decoder.nullable Decoder.string depth) =
        some l.source :=
      shows.nullable_string
        (by simp [lookup_cons_eq, List.lookup_append, lookup_ifSome, lookup_ifAny])
    have target : row.required "to" (Decoder.list Decoder.string depth) = some l.target :=
      shows.required (by simp [List.lookup_append, lookup_ifSome]) (Decoder.recovers_texts l.target)
    have except : row.defaulted "except" [] (Decoder.list Decoder.string depth) = some l.except :=
      shows.list (by simp [lookup_cons_eq, List.lookup_append, lookup_ifSome, lookup_ifAny])
        (fun _ _ => Decoder.recovers_string _)
    have allowChildren : row.defaulted "allow_children" none (Decoder.nullable Decoder.bool depth) =
        some l.allowChildren :=
      shows.nullable_bool
        (by simp [lookup_cons_eq, List.lookup_append, lookup_ifSome, lookup_ifAny])
    have message : row.defaulted "message" none (Decoder.nullable Decoder.string depth) =
        some l.message :=
      shows.nullable_string
        (by simp [lookup_cons_eq, List.lookup_append, lookup_ifSome, lookup_ifAny])
    rw [decode, Row.ofNode?, found]
    simp [source, target, except, allowChildren, message]

theorem CheckChoice.recovers (c : CheckChoice) : decode.Recovers c.encode c := by
  apply Decoder.recovers_record fields (by decide)
  · rw [List.map_append]
    exact map_fst_ifSome_sublist.append map_fst_ifSome_sublist
  · simp only [List.forall_mem_append, forall_mem_ifSome]
    exact ⟨fun _ _ => .bool _, fun _ _ => .string _⟩
  · intro depth nodes row found shows
    have enabled : row.defaulted "enabled" none (Decoder.nullable Decoder.bool depth) =
        some c.enabled :=
      shows.nullable_bool (by simp [List.lookup_append, lookup_ifSome])
    have severity : row.defaulted "severity" none (Decoder.nullable Decoder.string depth) =
        some c.severity :=
      shows.nullable_string (by simp [List.lookup_append, lookup_ifSome])
    rw [decode, Row.ofNode?, found]
    simp [enabled, severity]

namespace Config

def Fits (c : Config) : Prop := ∀ n ∈ c.maxFindings, n ≤ Decoder.maxNat32

theorem recovers {c : Config} (fits : c.Fits) : decode.Recovers c.encode c := by
  have choices : (Decoder.map CheckChoice.decode).Recovers
      (.object (c.checks.map CheckChoice.encode).entries) c.checks :=
    Decoder.recovers_map fun e _ => e.2.recovers
  -- Three things are to be shown of the members: their names are fields in order, their values hold
  -- whole numbers, and the row that shows them is read field by field.
  apply Decoder.recovers_record fields (by decide)
  · simp only [List.map_append]
    have schema : ((Json.ifSome "schema" .string c.schema).map Prod.fst).Sublist ["schema"] :=
      map_fst_ifSome_sublist
    exact ((((((schema.append map_fst_ifSome_sublist).append map_fst_ifSome_sublist).append
      map_fst_ifSome_sublist).append map_fst_ifAny_sublist).append
      (List.Sublist.refl ["checks"])).append map_fst_ifAny_sublist).append map_fst_ifAny_sublist
  · simp only [List.forall_mem_append, List.forall_mem_singleton, forall_mem_ifSome]
    exact ⟨⟨⟨⟨⟨⟨⟨fun _ _ => .string _, fun _ _ => .string _⟩, fun _ _ => .string _⟩,
      fun n mem => (Decoder.recovers_nat32 (fits n mem)).whole⟩,
      whole_of_mem_ifAny fun s _ => .string s⟩, choices.whole⟩,
      whole_of_mem_ifAny fun m _ => (DeclaredModule.recovers m).whole⟩,
      whole_of_mem_ifAny fun l _ => l.recovers.whole⟩
  · intro depth nodes row found shows
    have schema : row.defaulted "schema" none (Decoder.nullable Decoder.string depth) =
        some c.schema :=
      shows.nullable_string
        (by simp [lookup_cons_eq, List.lookup_append, lookup_ifSome, lookup_ifAny])
    have profile : row.defaulted "profile" none (Decoder.nullable Decoder.string depth) =
        some c.profile :=
      shows.nullable_string
        (by simp [lookup_cons_eq, List.lookup_append, lookup_ifSome, lookup_ifAny])
    have failOn : row.defaulted "fail_on" none (Decoder.nullable Decoder.string depth) =
        some c.failOn :=
      shows.nullable_string
        (by simp [lookup_cons_eq, List.lookup_append, lookup_ifSome, lookup_ifAny])
    have maxFindings : row.defaulted "max_findings" none (Decoder.nullable Decoder.nat32 depth) =
        some c.maxFindings :=
      shows.nullable_nat32
        (by simp [lookup_cons_eq, List.lookup_append, lookup_ifSome, lookup_ifAny]) fits
    have bounded : row.defaulted "bounded" [] (Decoder.list Decoder.string depth) =
        some c.bounded :=
      shows.list (by simp [lookup_cons_eq, List.lookup_append, lookup_ifSome, lookup_ifAny])
        (fun _ _ => Decoder.recovers_string _)
    have checks : row.defaulted "checks" .empty (Decoder.map CheckChoice.decode depth) =
        some c.checks :=
      shows.written (by simp [List.lookup_append, lookup_ifSome, lookup_ifAny]) choices
    have modules : row.defaulted "modules" [] (Decoder.list DeclaredModule.decode depth) =
        some c.modules :=
      shows.list (by simp [lookup_cons_eq, List.lookup_append, lookup_ifSome, lookup_ifAny])
        (fun m _ => DeclaredModule.recovers m)
    have layers : row.defaulted "layers" [] (Decoder.list LayerDeclaration.decode depth) =
        some c.layers :=
      shows.list (by simp [lookup_cons_eq, List.lookup_append, lookup_ifSome, lookup_ifAny])
        (fun l _ => l.recovers)
    rw [decode, Row.ofNode?, found]
    simp [schema, profile, failOn, maxFindings, bounded, checks, modules, layers]

end Config

/-! ## What a run takes in

Layer rules, modules, configurations, records and graphs, as values and as texts. However deep modules
nest, what was written is read back; a reader that limits how deep texts nest reads it back within its
limit.
-/

/-- Whatever a run takes in is read back as it was written. Modules and rules that differ in anything
are written differently, so what was left out, what is empty and what is spelled in another way are
kept apart; and modules and rules that were read back are compiled to the same. -/
theorem inputs_read_back :
    (∀ c : Config, c.Fits → Config.decode.ReadsBack c.encode c) ∧
      (∀ m : DeclaredModule, Decoder.ReadsBack DeclaredModule.decode m.encode m) ∧
      (∀ l : LayerDeclaration, LayerDeclaration.decode.ReadsBack l.encode l) ∧
      (∀ g : ImportGraph, (∀ record ∈ g.records, record.Fits) →
        ImportGraph.decode.ReadsBack g.encode g) ∧
      (∀ record : ImportRecord, record.Fits → ImportRecord.decode.ReadsBack record.encode record) ∧
      (∀ m m' : DeclaredModule, m'.encode.Reordered m.encode → m' = m) ∧
      (∀ l l' : LayerDeclaration, l'.encode.Reordered l.encode → l' = l) ∧
      (∀ (compile : PatternCompiler) (modules : List DeclaredModule) (w : Json),
        w.Reordered (.array (modules.map DeclaredModule.encode)) →
        ((Decoder.list DeclaredModule.decode).unbounded? (Node.ofJson w)).map
          (compileModules compile) = some (compileModules compile modules)) ∧
      ∀ (compile : PatternCompiler) (layers : List LayerDeclaration) (w : Json),
        w.Reordered (.array (layers.map LayerDeclaration.encode)) →
        ((Decoder.list LayerDeclaration.decode).unbounded? (Node.ofJson w)).map
          (compileLayers compile) = some (compileLayers compile layers) := by
  refine ⟨fun c fits => (Config.recovers fits).readsBack,
    fun m => (DeclaredModule.recovers m).readsBack, fun l => l.recovers.readsBack,
    fun g fits => (ImportGraph.recovers fits).readsBack,
    fun record fits => (ImportRecord.recovers fits).readsBack, ?_, ?_, ?_, ?_⟩
  · intro m m' same
    exact (DeclaredModule.recovers m).eq_of_reordered (DeclaredModule.recovers m') same
  · intro l l' same
    exact l.recovers.eq_of_reordered l'.recovers same
  · intro compile modules w same
    have recovers := Decoder.recovers_list fun m (_ : m ∈ modules) => DeclaredModule.recovers m
    rw [recovers.readsBack.of_value w same, Option.map_some]
  · intro compile layers w same
    have recovers := Decoder.recovers_list fun l (_ : l ∈ layers) => l.recovers
    rw [recovers.readsBack.of_value w same, Option.map_some]

/-- A configuration in which much is empty rather than left out. -/
def sparseConfig : Config where
  schema := some ""
  maxFindings := some Decoder.maxNat32
  checks := .ofList [("imports.layers", { enabled := some false }), ("imports.bounded", {})]
  modules := [.node { path := "src", externals := some [], note := some "" }
    [.node { path := "src/a", interface := some (.many ["index"]),
             dependencies := [.whole "b", .restricted "b" []],
             techdebt := [⟨"x", "y"⟩] } []]]
  layers := [{ target := [], allowChildren := some true }]

/-- A graph with the largest line there is. -/
def longGraph : ImportGraph where
  records := [{ file := "a.ts", importText := "b", line := some Decoder.maxNat32 }]

/-- Both are read back, from their texts as well. -/
theorem inputs_read_back_sparse :
    Config.decode.ReadsBack sparseConfig.encode sparseConfig ∧
      Config.decode.parse? sparseConfig.encode.pretty = some sparseConfig ∧
      ImportGraph.decode.parse? longGraph.encode.pretty = some longGraph := by
  obtain ⟨configs, -, -, graphs, -⟩ := inputs_read_back
  have config : Config.decode.ReadsBack sparseConfig.encode sparseConfig := by
    refine configs sparseConfig ?_
    rintro n ⟨⟩
    exact Nat.le_refl _
  have graph : ImportGraph.decode.ReadsBack longGraph.encode longGraph := by
    refine graphs longGraph fun record mem => ?_
    cases List.mem_singleton.mp mem
    refine ⟨?_, nofun⟩
    rintro n ⟨⟩
    exact Nat.le_refl _
  exact ⟨config, config.of_text_within (by decide +kernel),
    graph.of_text_within (by decide +kernel)⟩

end ImportBoundary
