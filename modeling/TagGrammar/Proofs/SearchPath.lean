import TagGrammar.Proofs.Dependence
import TagGrammar.Proofs.Inputs

/-!
# What a search path resolves

What is loaded from a directory resolves exactly the types and domains that the files below it spell,
and these keep the rules for definitions. Grammars can hold their names, with one exception: an
information separator is no white space in a definition file, but it is a blank in a grammar
(`load_resolves`).
-/

namespace TagGrammar

open Text
open JsonValue (member?)
open DefinitionFile (Members)

/-! ## Names of definitions -/

/-- The blanks that are not white space. -/
def isSeparator (c : Char) : Bool :=
  inSpans [(0x1C, 0x1F)] c

structure Admitted (name : String) : Prop where
  ne_empty : name ≠ ""
  chars : ∀ c ∈ name.toList, isSpace c = false ∧ c ∉ reservedChars
  isName_iff : isName name.toList = true ↔ ∀ c ∈ name.toList, isSeparator c = false

theorem admitted_of_isDefinedName {name : String} (h : isDefinedName name.toList = true) : Admitted name := by
  obtain ⟨hne, hchars⟩ := isDefinedName_iff.1 h
  have hblank : ∀ c, isBlank c = (isSpace c || isSeparator c) := fun _ => rfl
  refine ⟨by simpa using hne, fun c hc => isDefinedNameChar_iff.1 (hchars c hc), fun hname c hc => ?_,
    fun hfree => ?_⟩
  · have hsolid := isSolid_of_isName hname c hc
    rw [hblank, Bool.or_eq_false_iff] at hsolid
    exact hsolid.2
  · apply isName_of_isSolid h
    intro c hc
    rw [hblank, Bool.or_eq_false_iff]
    exact ⟨(isDefinedNameChar_iff.1 (hchars c hc)).1, hfree c hc⟩

def ComponentType.names (type : ComponentType) : List String :=
  type.identity :: type.base :: type.properties.map Property.name

theorem ComponentType.Lawful.admitted {type : ComponentType} (h : type.Lawful) :
    ∀ name ∈ type.names, Admitted name := by
  intro name hname
  apply admitted_of_isDefinedName
  simp only [names, List.mem_cons, List.mem_map] at hname
  rcases hname with rfl | rfl | ⟨property, hp, rfl⟩
  · exact h.identity
  · exact h.base
  · exact h.names property hp

theorem Domain.Lawful.admitted {domain : Domain} (h : domain.Lawful) :
    ∀ name ∈ domain.tokens ++ domain.keys, Admitted name := by
  intro name hname
  apply admitted_of_isDefinedName
  obtain ⟨hkeys, htokens⟩ := h.areTokens
  rcases List.mem_append.1 hname with htoken | hkey
  · exact htokens.2 name htoken
  · exact hkeys.2 name hkey

/-! ## Definitions below a directory -/

namespace SearchPath

/-- An object in one of the lists of a file below a directory. -/
def Lists (tree : FileTree) (path : Path) (list : String) (members : Members) : Prop :=
  ∃ place ∈ files tree path, ∃ text file items, tree.readText place = .ok text ∧
    JsonValue.parse? text = some (.object file) ∧ member? file list = some (.array items) ∧
    JsonValue.object members ∈ items

section
variable {α : Type} {spells : Members → α → Prop} {lawful : α → Prop} {part : DefinitionFile → List α}
  {list : String}
variable (hpart : ∀ members file, DefinitionFile.Spelled members file →
  ((member? members list).getD (.array [])).IsListOf spells (part file))
include hpart

theorem exists_lists {tree : FileTree} {path place : Path} (hplace : place ∈ files tree path)
    {file : DefinitionFile}
    (hread : readFile tree place = .ok file) {a : α} (ha : a ∈ part file) :
    ∃ members, Lists tree path list members ∧ spells members a := by
  obtain ⟨text, htext, hparse⟩ := readFile_eq_ok_iff.1 hread
  obtain ⟨object, hobject, hspelled, -⟩ := DefinitionFile.parse_eq_ok_iff.1 hparse
  obtain ⟨items, hitems, hall⟩ := hpart object file hspelled
  obtain ⟨item, hitem, members, rfl, hspells⟩ := exists_of_forall₂ hall.flip ha
  cases hlist : member? object list with
  | none =>
    rw [hlist, Option.getD_none, JsonValue.array.injEq] at hitems
    subst hitems
    cases hitem
  | some value =>
    rw [hlist, Option.getD_some] at hitems
    subst hitems
    exact ⟨members, ⟨place, hplace, text, object, items, htext, hobject, hlist, hitem⟩, hspells⟩

theorem exists_mem_of_lists {tree : FileTree} {path : Path} {defined : List DefinitionFile}
    (hread : List.Forall₂ (fun place file => readFile tree place = .ok file) (files tree path) defined)
    {members : Members} (h : Lists tree path list members) :
    ∃ file ∈ defined, ∃ a ∈ part file, spells members a := by
  obtain ⟨place, hplace, text, object, items, htext, hobject, hlist, hitem⟩ := h
  obtain ⟨file, hfile, hfound⟩ := exists_of_forall₂ hread hplace
  obtain ⟨text', htext', hparse⟩ := readFile_eq_ok_iff.1 hfound
  obtain rfl := Except.ok.inj (htext.symm.trans htext')
  obtain ⟨object', hobject', hspelled, -⟩ := DefinitionFile.parse_eq_ok_iff.1 hparse
  obtain rfl := JsonValue.object.inj (Option.some.inj (hobject.symm.trans hobject'))
  obtain ⟨items', hitems, hall⟩ := hpart object file hspelled
  rw [hlist, Option.getD_some, JsonValue.array.injEq] at hitems
  subst hitems
  obtain ⟨a, ha, members', heq, hspells⟩ := exists_of_forall₂ hall hitem
  obtain rfl := JsonValue.object.inj heq
  exact ⟨file, hfile, a, ha, hspells⟩

theorem mem_defined_iff {check : Members → Checked α}
    (hcheck : ∀ members a, check members = .ok a ↔ spells members a ∧ lawful a)
    (hlawful : ∀ file : DefinitionFile, file.Lawful → ∀ a ∈ part file, lawful a)
    {tree : FileTree} {path : Path} {defined : List DefinitionFile}
    (hread : List.Forall₂ (fun place file => readFile tree place = .ok file) (files tree path) defined) {a : α} :
    a ∈ defined.flatMap part ↔ lawful a ∧ ∃ members, Lists tree path list members ∧ spells members a := by
  have hsound : ∀ file ∈ defined, ∃ place ∈ files tree path, readFile tree place = .ok file := fun file hfile =>
    exists_of_forall₂ hread.flip hfile
  rw [List.mem_flatMap]
  constructor
  · rintro ⟨file, hfile, ha⟩
    obtain ⟨place, hplace, hfound⟩ := hsound file hfile
    exact ⟨hlawful file (readFile_sound hfound) a ha, exists_lists hpart hplace hfound ha⟩
  · rintro ⟨ha, members, hlists, hspells⟩
    obtain ⟨file, hfile, b, hb, hspells'⟩ := exists_mem_of_lists hpart hread hlists
    obtain ⟨place, -, hfound⟩ := hsound file hfile
    -- an object spells one thing only, because checking it gives one result
    have hchecks : check members = .ok b :=
      (hcheck members b).2 ⟨hspells', hlawful file (readFile_sound hfound) b hb⟩
    obtain rfl := Except.ok.inj (((hcheck members a).2 ⟨hspells, ha⟩).symm.trans hchecks)
    exact ⟨file, hfile, hb⟩

end

/-- **A search path resolves exactly what its files spell, if that keeps the rules for definitions.** The
names it hands out are names of the grammar, unless there are separators in them. -/
theorem load_resolves {tree : FileTree} {path : Path} {layer : Layer} {log after : List LogRecord}
    (h : (load tree path).run log = .ok layer after) :
    (∀ identity type, answer (Registry.resolve identity) (Registry.withFallback layer none) = .ok type ↔
      type.identity = identity ∧ type.Lawful ∧ ∃ members, Lists tree path "types" members ∧ type.Spelled members) ∧
    (∀ key domain, answer (Registry.resolveDomain key) (Registry.withFallback layer none) = .ok domain ↔
      domain.key = key ∧ domain.Lawful ∧ ∃ members, Lists tree path "domains" members ∧ domain.Spelled members) ∧
    (∀ identity type, answer (Registry.resolve identity) (Registry.withFallback layer none) = .ok type →
      ∀ name ∈ type.names, Admitted name) ∧
    (∀ key domain, answer (Registry.resolveDomain key) (Registry.withFallback layer none) = .ok domain →
      ∀ name ∈ domain.tokens ++ domain.keys, Admitted name) := by
  obtain ⟨defined, hread, hextends⟩ := extends_of_load h
  have htypes : ∀ identity type, answer (Registry.resolve identity) (Registry.withFallback layer none) = .ok type ↔
      type.identity = identity ∧ type.Lawful ∧ ∃ members, Lists tree path "types" members ∧
        type.Spelled members := by
    intro identity type
    have hmem := mem_defined_iff (fun _ _ hspelled => hspelled.types)
      (fun _ _ => DefinitionFile.checkType_eq_ok_iff)
      (fun _ hfile => hfile.types) hread (a := type)
    rw [Registry.answer_resolve_eq_ok_iff, Registry.type?_withFallback_none, hextends.types.get?_iff, hmem,
      and_comm]
    simp [Layer.empty]
  have hdomains : ∀ key domain,
    answer (Registry.resolveDomain key) (Registry.withFallback layer none) = .ok domain ↔
      domain.key = key ∧ domain.Lawful ∧ ∃ members, Lists tree path "domains" members ∧ domain.Spelled members := by
    intro key domain
    have hmem := mem_defined_iff (fun _ _ hspelled => hspelled.domains)
      (fun _ _ => DefinitionFile.checkDomainDefinition_eq_ok_iff) (fun _ hfile => hfile.domains) hread (a := domain)
    rw [Registry.answer_resolveDomain_eq_ok_iff, Registry.domain?_withFallback_none, hextends.domains.get?_iff,
      hmem, and_comm]
    simp [Layer.empty]
  refine ⟨htypes, hdomains, fun identity type hresolve => ?_, fun key domain hresolve => ?_⟩
  · exact ((htypes identity type).1 hresolve).2.1.admitted
  · exact ((hdomains key domain).1 hresolve).2.1.admitted

end SearchPath

/-! ### A directory of one file -/

namespace Stocked

open SearchPath

def lib : Path :=
  ⟨.here, ["lib"]⟩

def tree (definitions : String) : FileTree :=
  ⟨[], [(["lib"], .directory), (["lib", "gauge.json"], .file definitions.toUTF8)]⟩

def enumerated : String :=
  "\x7b\"types\":[\x7b\"identity\":\"Gauge\"," ++
    "\"properties\":[\x7b\"name\":\"mode\",\"type\":\"enum\",\"domain\":\"M\"\x7d]\x7d]," ++
    "\"domains\":[\x7b\"key\":\"M\",\"constants\":[\x7b\"name\":\"TO_DO\"\x7d]\x7d]\x7d"

def separated : String :=
  "\x7b\"types\":[\x7b\"identity\":\"Gauge\"," ++
    "\"properties\":[\x7b\"name\":\"max\\u001fvalue\",\"type\":\"int\"\x7d]\x7d]\x7d"

theorem loads {tree : FileTree} {path : Path} {test : Layer → Bool}
    (h : ((answer (load tree path) []).toOption.any test) = true) :
    ∃ layer after, (load tree path).run [] = .ok layer after ∧ test layer = true := by
  obtain ⟨layer, hload, htest⟩ := (Option.any_eq_true _ _).1 h
  obtain ⟨after, hrun⟩ := answer_eq_ok_iff.1 (toOption_eq_some_iff.1 hload)
  exact ⟨layer, after, hrun, htest⟩

end Stocked

theorem Stocked.load_resolves_enumerated : ∃ layer after,
    (SearchPath.load (tree enumerated) lib).run [] = .ok layer after ∧
    (∃ members, SearchPath.Lists (tree enumerated) lib "types" members ∧
      ComponentType.Spelled members ⟨"Gauge", rootType, [⟨"mode", .enum, some "M"⟩]⟩) ∧
    (∃ members, SearchPath.Lists (tree enumerated) lib "domains" members ∧
      Domain.Spelled members ⟨"M", [⟨"TO_DO", "to-do"⟩]⟩) ∧
    Admitted "mode" ∧ Admitted "to-do" := by
  have h : ((answer (SearchPath.load (tree enumerated) lib) []).toOption.any fun layer =>
      decide (layer.types.get? "Gauge" = some ⟨"Gauge", rootType, [⟨"mode", .enum, some "M"⟩]⟩) &&
      decide (layer.domains.get? "M" = some ⟨"M", [⟨"TO_DO", "to-do"⟩]⟩)) = true := by
    decide +kernel
  obtain ⟨layer, after, hrun, hlayer⟩ := loads h
  simp only [Bool.and_eq_true, decide_eq_true_eq] at hlayer
  rw [← Registry.type?_withFallback_none, ← Registry.domain?_withFallback_none, ← Registry.answer_resolve_eq_ok_iff,
    ← Registry.answer_resolveDomain_eq_ok_iff] at hlayer
  obtain ⟨htype, hdomain⟩ := hlayer
  obtain ⟨htypes, hdomains, hnames, htokens⟩ := SearchPath.load_resolves hrun
  exact ⟨layer, after, hrun, ((htypes _ _).1 htype).2.2, ((hdomains _ _).1 hdomain).2.2,
    hnames _ _ htype _ (by decide), htokens _ _ hdomain _ (List.mem_append_right _ (by decide))⟩

/-- The grammar cannot hold a name that a search path hands out. -/
theorem Stocked.load_separated : ∃ layer after type,
    (SearchPath.load (tree separated) lib).run [] = .ok layer after ∧
    answer (Registry.resolve "Gauge") (Registry.withFallback layer none) = .ok type ∧
    "max\x1fvalue" ∈ type.names ∧ isName "max\x1fvalue".toList = false := by
  have h : ((answer (SearchPath.load (tree separated) lib) []).toOption.any fun layer =>
      decide (layer.types.get? "Gauge" = some ⟨"Gauge", rootType, [⟨"max\x1fvalue", .int, none⟩]⟩)) = true := by
    decide +kernel
  obtain ⟨layer, after, hrun, hlayer⟩ := loads h
  rw [decide_eq_true_eq, ← Registry.type?_withFallback_none, ← Registry.answer_resolve_eq_ok_iff] at hlayer
  exact ⟨layer, after, _, hrun, hlayer, by decide, by decide⟩

end TagGrammar
