import ImportBoundary.Module.Codec
import ImportBoundary.Proofs.Json.Reordered

/-!
# Reading modules back

A declared module is recovered from what was written of it, with everything nested in it
(`DeclaredModule.recovers`): by induction over the forest of nested modules, from the fields of one
module. The two spellings of an interface and of a dependency are told apart by their shapes, and
what was left out is read as its default and as nothing else.

The members of an object may come in another order when they are read, and each is looked up by its
name. The fields of a module are therefore checked as a row (`Row.Shows`), and only the list of nested
modules leads to the induction hypothesis.
-/

namespace ImportBoundary

open Json (Decoder Row ifAny lookup_ifSome lookup_ifAny map_fst_ifSome_sublist
  map_fst_ifAny_sublist forall_mem_ifSome whole_of_mem_ifAny)

theorem ExceptionDeclaration.recovers (e : ExceptionDeclaration) : decode.Recovers e.encode e := by
  apply Decoder.recovers_record exceptionFields (by decide)
  · exact List.Sublist.refl exceptionFields
  · simp only [List.forall_mem_cons]
    exact ⟨.string _, .string _, List.forall_mem_nil _⟩
  · intro depth nodes row found shows
    have source : row.required "from" (Decoder.string depth) = some e.source :=
      shows.required (by simp) (Decoder.recovers_string _)
    have target : row.required "to" (Decoder.string depth) = some e.target :=
      shows.required (by simp [lookup_cons_eq]) (Decoder.recovers_string _)
    rw [decode, Row.ofNode?, found]
    simp [source, target]

theorem InterfaceDeclaration.recovers (i : InterfaceDeclaration) : decode.Recovers i.encode i := by
  apply Decoder.Recovers.kept
  cases i with
  | one pattern =>
    constructor
    · intro w same depth _
      cases same
      rfl
    · exact .string pattern
  | many patterns =>
    -- The node of a list is no text, so it is read as the second spelling.
    have texts := Decoder.recovers_texts patterns
    refine ⟨?_, texts.whole⟩
    intro w same depth bound
    have read := texts.reads w same depth bound
    cases same
    exact congrArg (Option.map many) read

theorem DependencyDeclaration.recovers (d : DependencyDeclaration) :
    decode.Recovers d.encode d := by
  apply Decoder.Recovers.kept
  cases d with
  | whole path =>
    constructor
    · intro w same depth _
      cases same
      cases depth <;> rfl
    · exact .string path
  | restricted path only =>
    apply Decoder.recovers_record ["path", "on"] (by decide)
    · exact List.Sublist.refl ["path", "on"]
    · simp only [List.forall_mem_cons]
      exact ⟨.string _, (Decoder.recovers_texts only).whole, List.forall_mem_nil _⟩
    · intro depth nodes row found shows
      have path_read : row.required "path" (Decoder.string depth) = some path :=
        shows.required (by simp) (Decoder.recovers_string _)
      have only_read : row.defaulted "on" [] (Decoder.list Decoder.string depth) = some only :=
        shows.written (by simp [lookup_cons_eq]) (Decoder.recovers_texts only)
      simp [found, path_read, only_read]

namespace DeclaredModule

theorem encodeAll_eq_map (forest : List DeclaredModule) : encodeAll forest = forest.map encode := by
  induction forest with
  | nil => rfl
  | cons m rest ih => rw [encodeAll, ih, List.map_cons]

/-- The members of a module: its own, and the modules nested in it if there are any. -/
theorem encode_eq (d : ModuleDeclaration) (nested : List DeclaredModule) :
    encode (.node d nested) = .object (d.members ++ ifAny "submodules" encode nested) := by
  rw [encode, encodeAll_eq_map]
  rfl

variable {d : ModuleDeclaration} {nested : List DeclaredModule}

theorem map_fst_members_sublist :
    ((d.members ++ ifAny "submodules" encode nested).map Prod.fst).Sublist
      ModuleDeclaration.fields := by
  simp only [ModuleDeclaration.members, List.map_append]
  have path := List.Sublist.refl ["path"]
  exact ((((((path.append map_fst_ifSome_sublist).append map_fst_ifAny_sublist).append
    map_fst_ifSome_sublist).append map_fst_ifAny_sublist).append map_fst_ifAny_sublist).append
    map_fst_ifSome_sublist).append map_fst_ifAny_sublist

theorem whole_of_mem_members (h : ∀ m ∈ nested, m.encode.Whole) :
    ∀ k ∈ d.members ++ ifAny "submodules" encode nested, k.2.Whole := by
  simp only [ModuleDeclaration.members, List.forall_mem_append, List.forall_mem_singleton,
    forall_mem_ifSome]
  exact ⟨⟨⟨⟨⟨⟨⟨.string _, fun i _ => i.recovers.whole⟩,
    whole_of_mem_ifAny fun dependency _ => dependency.recovers.whole⟩,
    fun patterns _ => (Decoder.recovers_texts patterns).whole⟩,
    whole_of_mem_ifAny fun e _ => e.recovers.whole⟩,
    whole_of_mem_ifAny fun e _ => e.recovers.whole⟩, fun _ _ => .string _⟩, whole_of_mem_ifAny h⟩

theorem ofRow?_of_shows {row : Row} {depth : Nat}
    (h : row.Shows (d.members ++ ifAny "submodules" encode nested) depth) :
    ModuleDeclaration.ofRow? depth row = some d := by
  unfold ModuleDeclaration.members at h
  have path : row.required "path" (Decoder.string depth) = some d.path :=
    h.required (by simp) (Decoder.recovers_string _)
  have interface : row.defaulted "interface" none
      (Decoder.nullable InterfaceDeclaration.decode depth) = some d.interface :=
    h.nullable (by simp [lookup_cons_eq, List.lookup_append, lookup_ifSome, lookup_ifAny])
      (fun i _ => i.recovers) (fun i _ => by cases i <;> nofun)
  have dependencies : row.defaulted "dependencies" []
      (Decoder.list DependencyDeclaration.decode depth) = some d.dependencies :=
    h.list (by simp [lookup_cons_eq, List.lookup_append, lookup_ifSome, lookup_ifAny])
      (fun dependency _ => dependency.recovers)
  have externals : row.defaulted "externals" none
      (Decoder.nullable (Decoder.list Decoder.string) depth) = some d.externals :=
    h.nullable (by simp [lookup_cons_eq, List.lookup_append, lookup_ifSome, lookup_ifAny])
      (fun patterns _ => Decoder.recovers_texts patterns) (fun _ _ => nofun)
  have exceptions : row.defaulted "exceptions" []
      (Decoder.list ExceptionDeclaration.decode depth) = some d.exceptions :=
    h.list (by simp [lookup_cons_eq, List.lookup_append, lookup_ifSome, lookup_ifAny])
      (fun e _ => e.recovers)
  have techdebt : row.defaulted "techdebt" []
      (Decoder.list ExceptionDeclaration.decode depth) = some d.techdebt :=
    h.list (by simp [lookup_cons_eq, List.lookup_append, lookup_ifSome, lookup_ifAny])
      (fun e _ => e.recovers)
  have note : row.defaulted "message" none (Decoder.nullable Decoder.string depth) = some d.note :=
    h.nullable_string (by simp [lookup_cons_eq, List.lookup_append, lookup_ifSome, lookup_ifAny])
  simp [ModuleDeclaration.ofRow?, path, interface, dependencies, externals, exceptions, techdebt,
    note]

theorem recovers_node (h : ∀ m ∈ nested, Decoder.Recovers decode m.encode m) :
    Decoder.Recovers decode (encode (.node d nested)) (.node d nested) := by
  rw [encode_eq]
  apply Decoder.recovers_record ModuleDeclaration.fields (by decide) map_fst_members_sublist
  · exact whole_of_mem_members fun m mem => (h m mem).whole
  · intro depth nodes row found shows
    have own := ofRow?_of_shows shows
    have submodules :
        row.defaulted "submodules" [] (Decoder.items depth fun d _ => decode d) = some nested := by
      apply shows.list _ h
      simp [ModuleDeclaration.members, lookup_cons_eq, List.lookup_append, lookup_ifSome,
        lookup_ifAny]
    rw [decode, Row.ofNode?, found]
    simp [own, submodules]

/-- A module is recovered with everything nested in it. -/
theorem recovers (m : DeclaredModule) : Decoder.Recovers decode m.encode m := by
  -- The modules nested in a module are a forest, so the induction is over forests.
  have all (forest : List DeclaredModule) : ∀ m ∈ forest, Decoder.Recovers decode m.encode m := by
    induction forest using Tree.forest_induction with
    | nil => exact List.forall_mem_nil _
    | cons d nested rest ih_nested ih_rest =>
      exact List.forall_mem_cons.mpr ⟨recovers_node ih_nested, ih_rest⟩
  exact all [m] m (List.mem_singleton_self m)

end DeclaredModule

end ImportBoundary
