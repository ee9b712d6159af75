import TagGrammar.Proofs.Completions
import TagGrammar.Proofs.Inputs

/-!
# Definitions spread over files

A directory of valid type definition files can be loaded exactly if no type and no domain is defined
twice in all of them together. What is loaded then depends only on the definitions, and not on the
files they stand in or on their order there (`load_redistributed`).
-/

namespace TagGrammar

namespace SearchPath

theorem addFile_of_extends {layer result : Layer} {path : Path} {file : DefinitionFile}
    (h : Extends layer [file] result) : addFile layer path file = .ok result := by
  obtain ⟨htypes, hdomains, hbindings⟩ := h
  rw [List.flatMap_singleton] at htypes hdomains
  unfold addFile
  rw [addTypes_eq_ok_iff.2 htypes, show addDomains path layer.domains file.domains = .ok result.domains from
    addDomains_eq_ok_iff.2 hdomains]
  obtain ⟨types, domains, bindings⟩ := result
  subst hbindings
  rfl

theorem extends_cons_iff {layer result : Layer} {file : DefinitionFile} {files : List DefinitionFile} :
    Extends layer (file :: files) result ↔
      ∃ between, Extends layer [file] between ∧ Extends between files result := by
  refine ⟨fun h => ?_, fun ⟨between, h, h'⟩ => h.append h'⟩
  have htypes := h.types
  have hdomains := h.domains
  rw [List.flatMap_cons, Table.adds_append_iff] at htypes hdomains
  obtain ⟨types, hfirst, hrest⟩ := htypes
  obtain ⟨domains, hfirst', hrest'⟩ := hdomains
  refine ⟨⟨types, domains, layer.bindings⟩, ⟨?_, ?_, rfl⟩, hrest, hrest', h.bindings⟩
  · rwa [List.flatMap_singleton]
  · rwa [List.flatMap_singleton]

theorem loadFiles_of_extends {tree : FileTree} {paths : List Path} {files : List DefinitionFile}
    (hread : List.Forall₂ (fun path file => readFile tree path = .ok file) paths files) {layer result : Layer}
    (h : Extends layer files result) (log : List LogRecord) :
    ∃ after, (loadFiles tree layer paths).run log = .ok result after := by
  induction hread generalizing layer log with
  | nil =>
    obtain ⟨types, domains, bindings⟩ := result
    obtain ⟨htypes, hdomains, hbindings⟩ := h
    obtain rfl := Table.adds_nil_iff.1 htypes
    obtain rfl := Table.adds_nil_iff.1 hdomains
    subst hbindings
    exact ⟨log, rfl⟩
  | @cons path file paths files hfile _ ih =>
    obtain ⟨between, hfirst, hrest⟩ := extends_cons_iff.1 h
    obtain ⟨after, hafter⟩ := ih hrest (log ++ [⟨"bindings", .debug,
      s!"Loaded {file.types.length} types, {file.domains.length} domains from {path}"⟩])
    refine ⟨after, ?_⟩
    simp only [loadFiles, run_bind_eq_ok_iff, run_ofExcept_eq_ok_iff]
    exact ⟨file, log, ⟨hfile, rfl⟩, between, log, ⟨addFile_of_extends hfirst, rfl⟩, (), _, rfl, hafter⟩

/-- A directory all of whose type definition files are valid, with what they define. Whatever is named
like such a file counts as one, so a directory of such a name is not valid. -/
structure Defines (tree : FileTree) (path : Path) (defined : List DefinitionFile) : Prop where
  directory : tree.find? path = .ok (some .directory)
  valid : List.Forall₂ (fun place file => readFile tree place = .ok file) (files tree path) defined

/-- No type and no domain is defined twice, in one file or in two. -/
structure Distinct (defined : List DefinitionFile) : Prop where
  types : ((defined.flatMap DefinitionFile.types).map ComponentType.identity).Nodup
  domains : ((defined.flatMap DefinitionFile.domains).map Domain.key).Nodup

/-- The same definitions, in other files or in another order. -/
structure Redistributed (defined others : List DefinitionFile) : Prop where
  types : (defined.flatMap DefinitionFile.types).Perm (others.flatMap DefinitionFile.types)
  domains : (defined.flatMap DefinitionFile.domains).Perm (others.flatMap DefinitionFile.domains)

theorem Redistributed.distinct_iff {defined others : List DefinitionFile} (h : Redistributed defined others) :
    Distinct defined ↔ Distinct others := by
  have htypes := (h.types.map ComponentType.identity).nodup_iff
  have hdomains := (h.domains.map Domain.key).nodup_iff
  exact ⟨fun hd => ⟨htypes.1 hd.types, hdomains.1 hd.domains⟩, fun hd => ⟨htypes.2 hd.types, hdomains.2 hd.domains⟩⟩

theorem exists_extends_iff {defined : List DefinitionFile} :
    (∃ layer, Extends .empty defined layer) ↔ Distinct defined := by
  constructor
  · rintro ⟨layer, h⟩
    exact ⟨Table.exists_adds_iff.1 ⟨_, h.types⟩, Table.exists_adds_iff.1 ⟨_, h.domains⟩⟩
  · intro h
    obtain ⟨types, htypes⟩ := (Table.exists_adds_iff (t := .empty)).2 h.types
    obtain ⟨domains, hdomains⟩ := (Table.exists_adds_iff (t := .empty)).2 h.domains
    exact ⟨⟨types, domains, .empty⟩, htypes, hdomains, rfl⟩

section
variable {tree : FileTree} {path : Path} {defined : List DefinitionFile} (h : Defines tree path defined)
include h

theorem Defines.extends {layer : Layer} {log : List LogRecord} (hload : answer (load tree path) log = .ok layer) :
    Extends .empty defined layer := by
  obtain ⟨after, hrun⟩ := answer_eq_ok_iff.1 hload
  obtain ⟨found, hread, hextends⟩ := extends_of_load hrun
  -- the files have been read before, with the same result
  have hsame : found = defined := by
    have hfound := mapM_eq_ok_iff.2 hread
    exact Except.ok.inj (hfound.symm.trans (mapM_eq_ok_iff.2 h.valid))
  rwa [← hsame]

theorem Defines.load_eq_ok_iff (log : List LogRecord) :
    (∃ layer, answer (load tree path) log = .ok layer) ↔ Distinct defined := by
  constructor
  · rintro ⟨layer, hload⟩
    exact exists_extends_iff.1 ⟨layer, h.extends hload⟩
  · intro hdistinct
    obtain ⟨layer, hextends⟩ := exists_extends_iff.2 hdistinct
    obtain ⟨after, hrun⟩ := loadFiles_of_extends h.valid hextends log
    refine ⟨layer, answer_eq_ok_iff.2 ⟨after, ?_⟩⟩
    unfold load
    rw [h.directory]
    exact hrun

end

/-- **How definitions are spread over files does not matter.** Two directories with the same definitions
can both be loaded or neither, and they can if no type and no domain is defined twice. The identities and
all answers are then the same. -/
theorem load_redistributed {tree other : FileTree} {path place : Path} {defined others : List DefinitionFile}
    (h : Defines tree path defined) (h' : Defines other place others) (hsame : Redistributed defined others)
    (log log' : List LogRecord) :
    ((∃ layer, answer (load tree path) log = .ok layer) ↔ ∃ layer, answer (load other place) log' = .ok layer) ∧
    ((∃ layer, answer (load tree path) log = .ok layer) ↔ Distinct defined) ∧
    ∀ layer layer', answer (load tree path) log = .ok layer → answer (load other place) log' = .ok layer' →
      identities layer = identities layer' ∧ (identities layer).Pairwise (· < ·) ∧
      (∀ name, name ∈ identities layer ↔ name ∈ (defined.flatMap DefinitionFile.types).map ComponentType.identity) ∧
      (∀ name, answer (Registry.resolve name) (Registry.withFallback layer none) =
        answer (Registry.resolve name) (Registry.withFallback layer' none)) ∧
      ∀ key, answer (Registry.resolveDomain key) (Registry.withFallback layer none) =
        answer (Registry.resolveDomain key) (Registry.withFallback layer' none) := by
  have hloads := h.load_eq_ok_iff log
  refine ⟨hloads.trans (hsame.distinct_iff.trans (h'.load_eq_ok_iff log').symm), hloads, ?_⟩
  intro layer layer' hload hload'
  have hextends := h.extends hload
  have hextends' := h'.extends hload'
  have htypes := hextends.types.entries_perm hextends'.types hsame.types
  have hdomains := hextends.domains.entries_perm hextends'.domains hsame.domains
  refine ⟨sortNames_eq_of_perm (htypes.map _) layer.types.nodup, sortNames_pairwise layer.types.nodup,
    fun name => ?_,
    fun name => ?_, fun key => ?_⟩
  · rw [identities, mem_sortNames, Table.keys, hextends.types]
    simp [Layer.empty, Table.empty]
  · simp [Registry.answer_resolve, Table.get?_eq_of_perm htypes]
  · simp [Registry.answer_resolveDomain, Table.get?_eq_of_perm hdomains]

end SearchPath

/-! ### Two files in the place of one -/

namespace Spread

open SearchPath

def lib : Path :=
  ⟨.here, ["lib"]⟩

def gaugeText : String :=
  "\x7b\"identity\":\"Gauge\",\"base\":\"Dial\"\x7d"

def dialText : String :=
  "\x7b\"identity\":\"Dial\"\x7d"

def domainText : String :=
  "\"domains\":[\x7b\"key\":\"M\",\"constants\":[\x7b\"name\":\"ON\"\x7d]\x7d]"

def gathered : FileTree :=
  ⟨[], [(["lib"], .directory), (["lib", "all.json"],
    .file ("\x7b\"types\":[" ++ dialText ++ "," ++ gaugeText ++ "]," ++ domainText ++ "\x7d").toUTF8)]⟩

def spread : FileTree :=
  ⟨[], [(["lib"], .directory), (["lib", "gauge.json"], .file ("\x7b\"types\":[" ++ gaugeText ++ "]\x7d").toUTF8),
    (["lib", "parts"], .directory),
    (["lib", "parts", "dial.json"], .file ("\x7b\"types\":[" ++ dialText ++ "]," ++ domainText ++ "\x7d").toUTF8)]⟩

def gauge : ComponentType :=
  ⟨"Gauge", "Dial", []⟩

def dial : ComponentType :=
  ⟨"Dial", rootType, []⟩

def domain : Domain :=
  ⟨"M", [⟨"ON", "on"⟩]⟩

theorem readFile_eq {tree : FileTree} {path : Path} {types : List ComponentType} {domains : List Domain}
    (h : (readFile tree path).toOption.map (fun file => (file.types, file.domains)) = some (types, domains)) :
    readFile tree path = .ok ⟨types, domains⟩ := by
  obtain ⟨file, hread, hparts⟩ := Option.map_eq_some_iff.1 h
  obtain ⟨rfl, rfl⟩ := Prod.mk.inj hparts
  exact toOption_eq_some_iff.1 hread

theorem find?_lib {tree : FileTree} (h : tree.locate lib = .ok ["lib"])
    (hnode : tree.nodes.lookup ["lib"] = some .directory) : tree.find? lib = .ok (some .directory) := by
  have hupward : lib.isUpward = false := by decide
  unfold FileTree.find?
  rw [h]
  simp [FileTree.reached?, FileTree.node?, hupward, hnode]

theorem files_lib {tree : FileTree} (hlocate : tree.locate lib = .ok ["lib"]) {found : List (List String)}
    (h : (tree.below ["lib"]).filter isDefinitionFile = found) :
    files tree lib = (found.mergeSort fun a b => !b.lex a).map lib.append := by
  rw [files, hlocate]
  dsimp only
  rw [h]

theorem defines_gathered : Defines gathered lib [⟨[dial, gauge], [domain]⟩] := by
  have hlocate : gathered.locate lib = .ok ["lib"] := by
    decide
  have hbelow : (gathered.below ["lib"]).filter isDefinitionFile = [["all.json"]] := by
    decide +kernel
  have hfiles : files gathered lib = [⟨.here, ["lib", "all.json"]⟩] := by
    rw [files_lib hlocate hbelow, List.mergeSort_singleton]
    rfl
  refine ⟨find?_lib hlocate rfl, ?_⟩
  rw [hfiles]
  exact .cons (readFile_eq (by decide +kernel)) .nil

theorem defines_spread : Defines spread lib [⟨[gauge], []⟩, ⟨[dial], [domain]⟩] := by
  have hlocate : spread.locate lib = .ok ["lib"] := by
    decide
  have hbelow : (spread.below ["lib"]).filter isDefinitionFile = [["gauge.json"], ["parts", "dial.json"]] := by
    decide +kernel
  have hsorted : [["gauge.json"], ["parts", "dial.json"]].Pairwise fun a b => (!b.lex a) = true := by
    decide
  have hfiles : files spread lib = [⟨.here, ["lib", "gauge.json"]⟩, ⟨.here, ["lib", "parts", "dial.json"]⟩] := by
    rw [files_lib hlocate hbelow, List.mergeSort_of_pairwise hsorted]
    rfl
  refine ⟨find?_lib hlocate rfl, ?_⟩
  rw [hfiles]
  exact .cons (readFile_eq (by decide +kernel)) (.cons (readFile_eq (by decide +kernel)) .nil)

end Spread

open SearchPath in
theorem Spread.load_redistributed_gathered : ∃ layer layer', answer (load gathered lib) [] = .ok layer ∧
    answer (load spread lib) [] = .ok layer' ∧ identities layer = identities layer' ∧ "Dial" ∈ identities layer ∧
    answer (Registry.resolve "Gauge") (Registry.withFallback layer none) =
      answer (Registry.resolve "Gauge") (Registry.withFallback layer' none) := by
  have hswapped : Redistributed [⟨[dial, gauge], [domain]⟩] [⟨[gauge], []⟩, ⟨[dial], [domain]⟩] :=
    ⟨.swap gauge dial [], .refl _⟩
  obtain ⟨hboth, hdistinct, hsame⟩ := load_redistributed defines_gathered defines_spread hswapped [] []
  obtain ⟨layer, hload⟩ := hdistinct.2 ⟨by decide, by decide⟩
  obtain ⟨layer', hload'⟩ := hboth.1 ⟨layer, hload⟩
  obtain ⟨heq, -, hmem, hresolve, -⟩ := hsame layer layer' hload hload'
  exact ⟨layer, layer', hload, hload', heq, (hmem "Dial").2 (by decide), hresolve "Gauge"⟩

end TagGrammar
