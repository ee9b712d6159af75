import Mathlib.Data.List.Count
import Mathlib.Data.List.Forall2
import Mathlib.Data.List.Nodup
import TagGrammar.DefinitionFile
import TagGrammar.Proofs.Names
import TagGrammar.Proofs.Registry.Answers

/-!
# What type definition files define

The checks pass a file if it spells types and domains that keep the rules for definitions, and give
these types and domains then (`parse_eq_ok_iff`). By the rules all names are defined names, no type
is the root type or has two properties of one name, an enumerated property names its domain, and
each domain has a constant.
-/

namespace TagGrammar

open JsonValue (member?)
open DefinitionFile (Members)

/-! ## Rules for definitions -/

/-- A type of defined names, its properties distinct. -/
structure ComponentType.Defined (type : ComponentType) : Prop where
  identity : isDefinedName type.identity.toList = true
  names : ∀ property ∈ type.properties, isDefinedName property.name.toList = true
  nodup : (type.properties.map Property.name).Nodup

/-- A domain of defined names, with at least one constant. -/
structure Domain.Defined (domain : Domain) : Prop where
  ne_nil : domain.constants ≠ []
  names : ∀ constant ∈ domain.constants, isDefinedName constant.name.toList = true
  keys : ∀ constant ∈ domain.constants, isDefinedName constant.key.toList = true

/-- Tokens that an attribute can be given. -/
def AreTokens (tokens : List String) : Prop :=
  tokens ≠ [] ∧ ∀ token ∈ tokens, isDefinedName token.toList = true

theorem Domain.Defined.areTokens {domain : Domain} (h : domain.Defined) :
    AreTokens domain.keys ∧ AreTokens domain.tokens := by
  refine ⟨⟨by simpa [Domain.keys] using h.ne_nil, fun token ht => ?_⟩,
    ⟨by simpa [Domain.tokens] using h.ne_nil, fun token ht => ?_⟩⟩
  · obtain ⟨constant, hc, rfl⟩ := List.mem_map.1 ht
    exact h.keys constant hc
  · obtain ⟨constant, hc, rfl⟩ := List.mem_map.1 ht
    exact isDefinedName_tokenOfName (h.names constant hc)

def Property.NamesDomain (property : Property) : Prop :=
  property.type = .enum → ∃ key ∈ property.domain, key ≠ ""

/-- A type as a file may define it. -/
structure ComponentType.Lawful (type : ComponentType) : Prop extends type.Defined where
  base : isDefinedName type.base.toList = true
  ne_root : type.identity ≠ rootType
  domains : ∀ property ∈ type.properties, property.NamesDomain

structure Domain.Lawful (domain : Domain) : Prop extends domain.Defined where
  key_ne : domain.key ≠ ""

structure DefinitionFile.Lawful (file : DefinitionFile) : Prop where
  types : ∀ type ∈ file.types, type.Lawful
  domains : ∀ domain ∈ file.domains, domain.Lawful

/-! ## Spelling of definitions -/

def JsonValue.IsObjectOf {α : Type} (spells : Members → α → Prop) (value : JsonValue) (found : α) : Prop :=
  ∃ members, value = .object members ∧ spells members found

def JsonValue.IsListOf {α : Type} (spells : Members → α → Prop) (value : JsonValue) (found : List α) : Prop :=
  ∃ items, value = .array items ∧ List.Forall₂ (IsObjectOf spells) items found

structure Property.Spelled (members : Members) (property : Property) : Prop where
  name : member? members "name" = some (.string property.name)
  type : member? members "type" = some (.string property.type.word)
  domain : (member? members "domain").getD .null = (property.domain.map JsonValue.string).getD .null

/-- A type without a base is right below the root type, and one without properties has none. -/
structure ComponentType.Spelled (members : Members) (type : ComponentType) : Prop where
  identity : member? members "identity" = some (.string type.identity)
  base : (member? members "base").getD (.string rootType) = .string type.base
  properties : ((member? members "properties").getD (.array [])).IsListOf Property.Spelled type.properties

/-- A constant without a key has its token for a key. -/
structure Constant.Spelled (members : Members) (constant : Constant) : Prop where
  name : member? members "name" = some (.string constant.name)
  key : (member? members "key").getD .null = .string constant.key ∨
    (member? members "key").getD .null = .null ∧ constant.key = constant.token

structure Domain.Spelled (members : Members) (domain : Domain) : Prop where
  key : member? members "key" = some (.string domain.key)
  constants : ∃ value, member? members "constants" = some value ∧ value.IsListOf Constant.Spelled domain.constants

structure DefinitionFile.Spelled (members : Members) (file : DefinitionFile) : Prop where
  types : ((member? members "types").getD (.array [])).IsListOf ComponentType.Spelled file.types
  domains : ((member? members "domains").getD (.array [])).IsListOf Domain.Spelled file.domains

/-! ## Checks -/

namespace Checked

variable {α β : Type}

@[simp] theorem inside_eq_ok_iff {step : ValueStep} {checked : Checked α} {value : α} :
    inside step checked = .ok value ↔ checked = .ok value := by
  cases checked <;> simp [inside]

@[simp] theorem both_eq_ok_iff {first : Checked α} {second : Checked β} {a : α} {b : β} :
    both first second = .ok (a, b) ↔ first = .ok a ∧ second = .ok b := by
  cases first <;> cases second <;> simp [both]

theorem each_eq_ok_iff {check : JsonValue → Checked α} {index : Nat} {items : List JsonValue} {values : List α} :
    each check index items = .ok values ↔ List.Forall₂ (fun item value => check item = .ok value) items values := by
  induction items generalizing index values with
  | nil => simp [each, eq_comm]
  | cons item rest ih =>
    rw [each, List.forall₂_cons_left_iff]
    constructor
    · intro h
      cases hboth : both (inside (.index index) (check item)) (each check (index + 1) rest) with
      | error problems => simp [hboth, Except.map] at h
      | ok found =>
        obtain ⟨value, values⟩ := found
        obtain ⟨hvalue, hvalues⟩ := both_eq_ok_iff.1 hboth
        simp only [hboth, Except.map, Except.ok.injEq] at h
        exact ⟨value, values, inside_eq_ok_iff.1 hvalue, ih.1 hvalues, h.symm⟩
    · rintro ⟨value, values, hvalue, hvalues, rfl⟩
      rw [both_eq_ok_iff.2 ⟨inside_eq_ok_iff.2 hvalue, ih.2 hvalues⟩]
      rfl

theorem refuse_eq_ok_iff {checked : Checked α} {bad : α → Bool} {kind : ProblemKind} {found : α} :
    (checked >>= fun value => if bad value then problem kind else pure value) = .ok found ↔
      checked = .ok found ∧ bad found = false := by
  rw [bind_eq_ok_iff]
  constructor
  · rintro ⟨value, hvalue, h⟩
    cases hbad : bad value with
    | true => simp [hbad, problem] at h
    | false =>
      simp only [hbad, Bool.false_eq_true, if_false] at h
      obtain rfl := Except.ok.inj h
      exact ⟨hvalue, hbad⟩
  · rintro ⟨hfound, hbad⟩
    exact ⟨found, hfound, by rw [hbad]; rfl⟩

end Checked

theorem forall₂_and_right {α β : Type} {r : α → β → Prop} {p : β → Prop} {l : List α} {u : List β} :
    List.Forall₂ (fun a b => r a b ∧ p b) l u ↔ List.Forall₂ r l u ∧ ∀ b ∈ u, p b := by
  induction l generalizing u with
  | nil => simp +contextual [List.forall₂_nil_left_iff]
  | cons a l ih =>
    cases u with
    | nil => simp
    | cons b u => simp only [List.forall₂_cons, ih, List.forall_mem_cons]; tauto

namespace DefinitionFile

open Checked

section
variable {α : Type} {members : Members} {name : String} {value : JsonValue}

@[simp] theorem required_eq_ok_iff {check : JsonValue → Checked α} {found : α} :
    required members name check = .ok found ↔
      ∃ value, member? members name = some value ∧ check value = .ok found := by
  rw [required, inside_eq_ok_iff]
  cases member? members name <;> simp [problem]

/-- A default is what some value in the place of the missing one would stand for. -/
theorem withDefault_eq_ok_iff {check : JsonValue → Checked α} {spells : JsonValue → α → Prop}
    (hcheck : ∀ value found, check value = .ok found ↔ spells value found) {default found : α} {absent : JsonValue}
    (hdefault : spells absent default) : withDefault members name default check = .ok found ↔
      spells ((member? members name).getD absent) found := by
  rw [withDefault, inside_eq_ok_iff, ← hcheck]
  cases member? members name <;> simp [(hcheck _ _).2 hdefault]

theorem checkObjects_eq_ok_iff {check : Members → Checked α} {spells : Members → α → Prop} {lawful : α → Prop}
    (hcheck : ∀ members found, check members = .ok found ↔ spells members found ∧ lawful found) {found : List α} :
    checkList (checkObject check) value = .ok found ↔ value.IsListOf spells found ∧ ∀ a ∈ found, lawful a := by
  have hobject : ∀ item a, checkObject check item = .ok a ↔ item.IsObjectOf spells a ∧ lawful a := by
    intro item a
    cases item <;> simp [checkObject, problem, JsonValue.IsObjectOf, hcheck]
  cases value <;> simp [checkList, problem, JsonValue.IsListOf, each_eq_ok_iff, hobject, forall₂_and_right]

theorem optionalObjects_eq_ok_iff {check : Members → Checked α} {spells : Members → α → Prop} {lawful : α → Prop}
    (hcheck : ∀ members found, check members = .ok found ↔ spells members found ∧ lawful found) {found : List α} :
    withDefault members name [] (checkList (checkObject check)) = .ok found ↔
      ((member? members name).getD (.array [])).IsListOf spells found ∧ ∀ a ∈ found, lawful a :=
  withDefault_eq_ok_iff (fun _ _ => checkObjects_eq_ok_iff hcheck) ⟨⟨[], rfl, .nil⟩, List.forall_mem_nil _⟩

@[simp] theorem checkString_eq_ok_iff {text : String} : checkString value = .ok text ↔ value = .string text := by
  cases value <;> simp [checkString, problem]

@[simp] theorem checkName_eq_ok_iff {text : String} :
    checkName value = .ok text ↔ value = .string text ∧ isDefinedName text.toList = true := by
  have hrefuse : checkName value =
      checkString value >>= fun text => if !isDefinedName text.toList then problem .notName else pure text := by
    rw [checkName]
    congr
    funext text
    cases isDefinedName text.toList <;> rfl
  rw [hrefuse, refuse_eq_ok_iff]
  simp

theorem orNull_checkString_eq_ok_iff {found : Option String} :
    orNull checkString value = .ok found ↔ value = (found.map JsonValue.string).getD .null := by
  cases value <;> cases found <;> simp [orNull, checkString, problem, Except.map]

theorem orNull_checkName_eq_ok_iff {found : Option String} : orNull checkName value = .ok found ↔
    value = (found.map JsonValue.string).getD .null ∧ ∀ text ∈ found, isDefinedName text.toList = true := by
  have hmap : ∀ checked : Checked String, checked.map some = .ok found ↔
    ∃ text, checked = .ok text ∧ found = some text := by
    intro checked
    cases checked <;> simp [Except.map, eq_comm]
  cases found with
  | none => cases value <;> simp [orNull, hmap]
  | some text => cases value <;> simp [orNull, hmap]

end

/-! ## Types -/

theorem ofWord?_eq_some_iff {word : String} {type : PropertyType} :
    PropertyType.ofWord? word = some type ↔ type.word = word := by
  constructor
  · intro h
    simpa using List.find?_some h
  · rintro rfl
    cases type <;> rfl

@[simp] theorem checkPropertyType_eq_ok_iff {value : JsonValue} {type : PropertyType} :
    checkPropertyType value = .ok type ↔ value = .string type.word := by
  cases value with
  | string word =>
    rw [checkPropertyType, JsonValue.string.injEq, eq_comm (a := word), ← ofWord?_eq_some_iff]
    cases PropertyType.ofWord? word <;> simp [problem]
  | _ => simp [checkPropertyType, problem]

theorem checkDomain_eq_ok_iff {property found : Property} :
    checkDomain property = .ok found ↔ property = found ∧ property.NamesDomain := by
  have hnames : property.NamesDomain ↔ ¬ (property.type = .enum && (property.domain.getD "").isEmpty) = true := by
    cases hdomain : property.domain <;> simp [Property.NamesDomain, hdomain, String.isEmpty_iff]
  by_cases h : (property.type = .enum && (property.domain.getD "").isEmpty) = true
  · simp [checkDomain, h, problem, hnames]
  · rw [checkDomain, if_neg h, Except.ok.injEq, hnames]
    exact (and_iff_left h).symm

theorem checkProperty_eq_ok_iff {members : Members} {property : Property} :
    checkProperty members = .ok property ↔
      property.Spelled members ∧ isDefinedName property.name.toList = true ∧ property.NamesDomain := by
  have hdomain : ∀ domain, withDefault members "domain" none (orNull checkString) = .ok domain ↔
      (member? members "domain").getD .null = (domain.map JsonValue.string).getD .null :=
    fun domain => withDefault_eq_ok_iff (fun _ _ => orNull_checkString_eq_ok_iff) rfl
  simp only [checkProperty, bind_eq_ok_iff, Prod.exists, both_eq_ok_iff, required_eq_ok_iff, checkName_eq_ok_iff,
    checkPropertyType_eq_ok_iff, hdomain, checkDomain_eq_ok_iff]
  constructor
  · rintro ⟨name, type, domain, ⟨⟨_, hname, rfl, hdefined⟩, ⟨_, htype, rfl⟩, hdomain⟩, rfl, hnames⟩
    exact ⟨⟨hname, htype, hdomain⟩, hdefined, hnames⟩
  · rintro ⟨⟨hname, htype, hdomain⟩, hdefined, hnames⟩
    exact ⟨_, _, _, ⟨⟨_, hname, rfl, hdefined⟩, ⟨_, htype, rfl⟩, hdomain⟩, rfl, hnames⟩

theorem repeatedNames_eq_nil_iff {names : List String} : repeatedNames names = [] ↔ names.Nodup := by
  have hmem : ∀ name, name ∈ repeatedNames names ↔ 1 < names.count name := by
    intro name
    rw [repeatedNames, sortNames, List.mem_mergeSort, List.mem_eraseDups, List.mem_filter]
    constructor
    · rintro ⟨-, hcount⟩
      simpa using hcount
    · intro hcount
      exact ⟨List.count_pos_iff.1 (by omega), by simpa using hcount⟩
  simp only [List.eq_nil_iff_forall_not_mem, hmem, List.nodup_iff_count_le_one, Nat.not_lt]

theorem checkDeclared_eq_ok_iff {type found : ComponentType} : checkDeclared type = .ok found ↔
    type = found ∧ (type.properties.map Property.name).Nodup ∧ type.identity ≠ rootType := by
  rw [checkDeclared, ← repeatedNames_eq_nil_iff]
  cases repeatedNames (type.properties.map Property.name) with
  | nil => by_cases hroot : type.identity = rootType <;> simp [hroot, problem]
  | cons name names => simp [problem]

theorem checkType_eq_ok_iff {members : Members} {type : ComponentType} :
    checkType members = .ok type ↔ type.Spelled members ∧ type.Lawful := by
  have hbase : ∀ base, withDefault members "base" rootType checkName = .ok base ↔
      (member? members "base").getD (.string rootType) = .string base ∧ isDefinedName base.toList = true :=
    fun base => withDefault_eq_ok_iff (fun _ _ => checkName_eq_ok_iff) ⟨rfl, by decide⟩
  simp only [checkType, bind_eq_ok_iff, Prod.exists, both_eq_ok_iff, required_eq_ok_iff, checkName_eq_ok_iff,
    hbase, optionalObjects_eq_ok_iff fun _ _ => checkProperty_eq_ok_iff, checkDeclared_eq_ok_iff]
  constructor
  · rintro ⟨identity, base, properties, ⟨⟨_, hid, rfl, hidentity⟩, ⟨hbase, hdefined⟩, hlist, hall⟩, rfl, hnodup,
      hroot⟩
    exact ⟨⟨hid, hbase, hlist⟩,
      ⟨⟨hidentity, fun p hp => (hall p hp).1, hnodup⟩, hdefined, hroot, fun p hp => (hall p hp).2⟩⟩
  · rintro ⟨⟨hid, hbase, hlist⟩, hlawful⟩
    exact ⟨_, _, _, ⟨⟨_, hid, rfl, hlawful.identity⟩, ⟨hbase, hlawful.base⟩, hlist,
      fun p hp => ⟨hlawful.names p hp, hlawful.domains p hp⟩⟩, rfl, hlawful.nodup, hlawful.ne_root⟩

/-! ## Domains -/

theorem checkConstant_eq_ok_iff {members : Members} {constant : Constant} :
    checkConstant members = .ok constant ↔ constant.Spelled members ∧
      isDefinedName constant.name.toList = true ∧ isDefinedName constant.key.toList = true := by
  have hkey : ∀ key, withDefault members "key" none (orNull checkName) = .ok key ↔
      (member? members "key").getD .null = (key.map JsonValue.string).getD .null ∧
        ∀ text ∈ key, isDefinedName text.toList = true :=
    fun key => withDefault_eq_ok_iff (fun _ _ => orNull_checkName_eq_ok_iff) ⟨rfl, by simp⟩
  simp only [checkConstant, bind_eq_ok_iff, Prod.exists, both_eq_ok_iff, required_eq_ok_iff, checkName_eq_ok_iff,
    hkey]
  constructor
  · rintro ⟨name, key, ⟨⟨_, hname, rfl, hdefined⟩, hkey, hkeys⟩, heq⟩
    obtain rfl := Except.ok.inj heq
    cases key with
    | none => exact ⟨⟨hname, .inr ⟨hkey, rfl⟩⟩, hdefined, isDefinedName_tokenOfName hdefined⟩
    | some key => exact ⟨⟨hname, .inl hkey⟩, hdefined, hkeys key rfl⟩
  · rintro ⟨⟨hname, hkey | ⟨hkey, htoken⟩⟩, hdefined, hkeys⟩
    · exact ⟨_, some constant.key, ⟨⟨_, hname, rfl, hdefined⟩, hkey, by simpa using hkeys⟩, rfl⟩
    · refine ⟨_, none, ⟨⟨_, hname, rfl, hdefined⟩, hkey, by simp⟩, ?_⟩
      obtain ⟨name, key⟩ := constant
      obtain rfl : key = tokenOfName name := htoken
      rfl

theorem checkDomainDefinition_eq_ok_iff {members : Members} {domain : Domain} :
    checkDomainDefinition members = .ok domain ↔ domain.Spelled members ∧ domain.Lawful := by
  have hkey : ∀ value key, checkKey value = .ok key ↔ value = .string key ∧ key ≠ "" := by
    intro value key
    rw [checkKey, refuse_eq_ok_iff, checkString_eq_ok_iff, Bool.eq_false_iff, ne_eq, String.isEmpty_iff]
  have hconstants : ∀ value constants, checkConstants value = .ok constants ↔
      value.IsListOf Constant.Spelled constants ∧ constants ≠ [] ∧ ∀ constant ∈ constants,
        isDefinedName constant.name.toList = true ∧ isDefinedName constant.key.toList = true := by
    intro value constants
    rw [checkConstants, refuse_eq_ok_iff, checkObjects_eq_ok_iff fun _ _ => checkConstant_eq_ok_iff,
      Bool.eq_false_iff,
      ne_eq, List.isEmpty_iff, and_assoc, and_comm (b := constants ≠ [])]
  simp only [checkDomainDefinition, bind_eq_ok_iff, Prod.exists, both_eq_ok_iff, required_eq_ok_iff, hkey,
    hconstants]
  constructor
  · rintro ⟨key, constants, ⟨⟨_, hkey, rfl, hne⟩, value, hvalue, hlist, hnil, hall⟩, heq⟩
    obtain rfl := Except.ok.inj heq
    exact ⟨⟨hkey, value, hvalue, hlist⟩, ⟨⟨hnil, fun c hc => (hall c hc).1, fun c hc => (hall c hc).2⟩, hne⟩⟩
  · rintro ⟨⟨hkey, value, hvalue, hlist⟩, hlawful⟩
    exact ⟨_, _, ⟨⟨_, hkey, rfl, hlawful.key_ne⟩, value, hvalue, hlist, hlawful.ne_nil,
      fun c hc => ⟨hlawful.names c hc, hlawful.keys c hc⟩⟩, rfl⟩

/-! ## Files -/

theorem check_eq_ok_iff {members : Members} {file : DefinitionFile} :
    check members = .ok file ↔ file.Spelled members ∧ file.Lawful := by
  simp only [check, bind_eq_ok_iff, Prod.exists, both_eq_ok_iff,
    optionalObjects_eq_ok_iff fun _ _ => checkType_eq_ok_iff,
    optionalObjects_eq_ok_iff fun _ _ => checkDomainDefinition_eq_ok_iff]
  constructor
  · rintro ⟨types, domains, ⟨⟨htypes, hlawful⟩, hdomains, hlawful'⟩, heq⟩
    obtain rfl := Except.ok.inj heq
    exact ⟨⟨htypes, hdomains⟩, ⟨hlawful, hlawful'⟩⟩
  · rintro ⟨⟨htypes, hdomains⟩, ⟨hlawful, hlawful'⟩⟩
    exact ⟨_, _, ⟨⟨htypes, hlawful⟩, hdomains, hlawful'⟩, rfl⟩

/-- **The checks pass exactly the files that spell lawful definitions.** -/
theorem parse_eq_ok_iff {text : String} {file : DefinitionFile} : parse text = .ok file ↔
    ∃ members, JsonValue.parse? text = some (.object members) ∧ file.Spelled members ∧ file.Lawful := by
  rw [parse]
  cases JsonValue.parse? text with
  | none => simp [problem]
  | some value => cases value <;> simp [checkObject, problem, check_eq_ok_iff]

end DefinitionFile

end TagGrammar
