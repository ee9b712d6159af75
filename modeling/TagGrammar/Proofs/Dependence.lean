import TagGrammar.Proofs.Compilation

/-!
# What a grammar depends on

Compiling asks a registry for the types that base types lead to from the bound ones, and for the
domains that the properties of these types use. Registries that answer this much alike have the same
grammar or the same error, whatever else they hold and wherever they hold it
(`grammar_of_resolvesAlike`). The order of the bindings shows in the order of the elements only.
-/

namespace TagGrammar

open Registry

/-- The domains that the attribute of a property takes its tokens from. -/
inductive Property.Uses (property : Property) (key : String) : Prop where
  | selector (htype : property.type.isSelector = true)
      (hkey : Builtin.selectorDomains.lookup property.name = some key) : Uses property key
  | enum (htype : property.type = .enum) (hkey : property.domain = some key) : Uses property key

namespace Registry

/-- The identities that base types lead to from the bound ones. -/
inductive Reaches (registry : Registry) : String → Prop where
  | bound {tag identity : String} (h : (tag, identity) ∈ registry.bindings) : Reaches registry identity
  | base {identity : String} {type : ComponentType} (h : Reaches registry identity)
      (htype : answer (resolve identity) registry = .ok type) : Reaches registry type.base

/-- Two registries that resolve what the first one's bindings reach alike, or fail alike: the types,
and the domains that their properties use. -/
structure ResolvesAlike (registry other : Registry) : Prop where
  types : ∀ identity, registry.Reaches identity →
    answer (resolve identity) registry = answer (resolve identity) other
  domains : ∀ identity type, registry.Reaches identity → answer (resolve identity) registry = .ok type →
    ∀ property ∈ type.properties, ∀ key, property.Uses key →
      answer (resolveDomain key) registry = answer (resolveDomain key) other

/-- Two registries that know the same of the identities with a property, which is handed on to base
types. -/
structure AgreesOn (p : String → Prop) (registry other : Registry) : Prop where
  types : ∀ identity, p identity → registry.type? identity = other.type? identity
  bases : ∀ identity type, p identity → registry.type? identity = some type → p type.base
  domains : ∀ identity type, p identity → registry.type? identity = some type →
    ∀ property ∈ type.properties, ∀ key, property.Uses key → registry.domain? key = other.domain? key

theorem answer_resolve_eq_ok_iff {identity : String} {registry : Registry} {type : ComponentType} :
    answer (resolve identity) registry = .ok type ↔ registry.type? identity = some type := by
  rw [answer_resolve]
  cases registry.type? identity <;> simp

theorem answer_resolveDomain_eq_ok_iff {key : String} {registry : Registry} {domain : Domain} :
    answer (resolveDomain key) registry = .ok domain ↔ registry.domain? key = some domain := by
  rw [answer_resolveDomain]
  cases registry.domain? key <;> simp

theorem ResolvesAlike.agreesOn {registry other : Registry} (h : registry.ResolvesAlike other) :
    AgreesOn registry.Reaches registry other := by
  refine ⟨fun identity hreach => ?_, fun identity type hreach htype => ?_,
    fun identity type hreach htype property hp key huses => ?_⟩
  · ext type
    rw [← answer_resolve_eq_ok_iff, ← answer_resolve_eq_ok_iff, h.types identity hreach]
  · exact .base hreach (answer_resolve_eq_ok_iff.2 htype)
  · ext domain
    rw [← answer_resolveDomain_eq_ok_iff, ← answer_resolveDomain_eq_ok_iff,
      h.domains identity type hreach (answer_resolve_eq_ok_iff.2 htype) property hp key huses]

/-! ## Lineages -/

namespace AgreesOn

variable {p : String → Prop} {registry other : Registry} (h : AgreesOn p registry other)
include h

theorem climb {unvisited others : List String} (hsame : ∀ name, p name → (name ∈ unvisited ↔ name ∈ others))
    {identity : String} (hid : p identity) :
    answer (Registry.climb unvisited identity) registry = answer (Registry.climb others identity) other := by
  -- the identities still to be visited may differ in the two registries, but not in those with `p`
  induction unvisited, identity using climb.induct generalizing others with
  | case1 unvisited =>
    rw [climb_root, climb_root]
    rfl
  | case2 unvisited identity hne ih =>
    rw [answer_climb _ hne, answer_climb _ hne, ← h.types identity hid]
    cases htype : registry.type? identity with
    | none => rfl
    | some type =>
      by_cases hmem : identity ∈ unvisited
      · have hwithout : ∀ name, p name → (name ∈ without identity unvisited ↔ name ∈ without identity others) :=
          fun name hname => by rw [mem_without, mem_without, hsame name hname]
        have habove := ih type hmem hwithout (h.bases identity type hid htype)
        simp only [hmem, (hsame identity hid).1 hmem, if_true, habove]
      · simp only [hmem, mt (hsame identity hid).2 hmem, if_false]

theorem lineage {identity : String} (hid : p identity) :
    answer (Registry.lineage identity) registry = answer (Registry.lineage identity) other := by
  apply h.climb _ hid
  intro name hname
  simp [h.types name hname]

theorem depth {identity : String} (hid : p identity) :
    answer (Registry.depth identity) registry = answer (Registry.depth identity) other := by
  unfold Registry.depth
  simp [h.lineage hid]

theorem pairwise_precedes {types : List ComponentType} (hall : ∀ type ∈ types, p type.identity)
    (hsorted : types.Pairwise (Compile.Precedes other)) : types.Pairwise (Compile.Precedes registry) := by
  refine hsorted.imp_of_mem fun {a b} ha hb hab => ?_
  unfold Compile.Precedes
  rw [h.depth (hall a ha), h.depth (hall b hb)]
  exact hab

theorem contentModel {identity : String} (hid : p identity) :
    answer (Registry.contentModel identity) registry = answer (Registry.contentModel identity) other := by
  unfold Registry.contentModel
  simp [h.lineage hid]

theorem of_chain (hR : registry.WellFormed) {identity : String} {types : List ComponentType}
    (hchain : Chain registry identity types) (hid : p identity) :
    ∀ type ∈ types, p type.identity ∧ registry.type? type.identity = some type := by
  induction hchain with
  | root => simp
  | step hne htype _ ih =>
    rw [List.forall_mem_cons, (hR.type? htype).1]
    exact ⟨⟨hid, htype⟩, ih (h.bases _ _ hid htype)⟩

end AgreesOn

end Registry

/-! ## Attributes -/

namespace Compile

variable {registry other : Registry}

theorem deriveAttribute_congr {property : Property}
    (h : ∀ key, property.Uses key → registry.domain? key = other.domain? key) :
    answer (deriveAttribute property) registry = answer (deriveAttribute property) other := by
  have hresolve : ∀ {key : String} (f : Domain → Option Attribute), property.Uses key →
      answer (resolveDomain key >>= fun domain => pure (f domain)) registry =
        answer (resolveDomain key >>= fun domain => pure (f domain)) other := by
    intro key f huses
    simp [answer_resolveDomain, h key huses]
  unfold deriveAttribute
  split
  · rename_i key hkey
    split at hkey
    · exact hresolve _ (.selector (by assumption) hkey)
    · cases hkey
  · split
    · rfl
    · rename_i htype
      split
      · rfl
      · rename_i key hkey
        exact hresolve _ (.enum htype hkey)
    · rfl

theorem attributesOf_congr {type : ComponentType} (h : ∀ property ∈ type.properties, ∀ key,
    property.Uses key → registry.domain? key = other.domain? key) :
    registry.attributesOf type = other.attributesOf type := by
  have hown : ∀ properties : List Property, (∀ property ∈ properties, ∀ key,
      property.Uses key → registry.domain? key = other.domain? key) →
      answer (propertyAttributes type properties) ⟨registry, []⟩ =
        answer (propertyAttributes type properties) ⟨other, []⟩ := by
    intro properties hknown
    induction properties with
    | nil => rfl
    | cons property rest ih =>
      rw [List.forall_mem_cons] at hknown
      rw [answer_propertyAttributes_cons, answer_propertyAttributes_cons, deriveAttribute_congr hknown.1,
        ih hknown.2]
  unfold attributesOf fragmentAttributes
  simp [hown type.properties h]

end Compile

/-! ## Grammars -/

namespace Registry.AgreesOn

variable {p : String → Prop} {registry other : Registry} (h : AgreesOn p registry other)
include h

theorem attributesOf {type : ComponentType} (hid : p type.identity)
    (htype : registry.type? type.identity = some type) : registry.attributesOf type = other.attributesOf type :=
  Compile.attributesOf_congr (h.domains type.identity type hid htype)

theorem elements (hbound : ∀ binding ∈ registry.bindings, p binding.2) (heq : registry.bindings = other.bindings) :
    answer Compile.elements registry = answer Compile.elements other := by
  rw [Compile.answer_elements, Compile.answer_elements, ← heq]
  apply mapM_congr
  intro binding hb
  rw [h.contentModel (hbound binding hb)]

section
variable (hR : registry.WellFormed) (hbound : ∀ binding ∈ registry.bindings, p binding.2)
include hR hbound

theorem of_lineage {binding : String × String} (hb : binding ∈ registry.bindings) {types : List ComponentType}
    (hline : answer (Registry.lineage binding.2) registry = .ok types) :
    ∀ type ∈ types, p type.identity ∧ registry.type? type.identity = some type :=
  h.of_chain hR (chain_of_lineage hline) (hbound binding hb)

theorem mapM_fragment {types : List ComponentType} (htypes : Compile.Collects registry types)
    (log log' : List LogRecord) :
    types.mapM (fun type => answer (Compile.fragment type) ⟨registry, log⟩) =
      types.mapM fun type => answer (Compile.fragment type) ⟨other, log'⟩ := by
  apply mapM_congr
  intro type hmem
  obtain ⟨binding, hb, lineage, hline, htype⟩ := htypes.origin type hmem
  obtain ⟨hid, hknown⟩ := h.of_lineage hR hbound hb hline type htype
  rw [Compile.answer_fragment, Compile.answer_fragment, h.attributesOf hid hknown]

theorem collectTypes (heq : registry.bindings = other.bindings) :
    answer Compile.collectTypes registry = answer Compile.collectTypes other := by
  have hfold : registry.bindings.foldlM (fun collected binding => do
      return Compile.addLineage collected (← answer (Registry.lineage binding.2) registry)) .empty =
      other.bindings.foldlM (fun collected binding => do
        return Compile.addLineage collected (← answer (Registry.lineage binding.2) other)) .empty := by
    rw [← heq]
    apply foldlM_congr
    intro collected binding hb
    rw [h.lineage (hbound binding hb)]
  rw [Compile.answer_collectTypes, Compile.answer_collectTypes, ← hfold]
  apply bind_congr_of_ok
  intro collected hcollected
  -- what has been collected is sorted by depth, which is asked of types in bound lineages only
  have hinv := Compile.collectedFor_foldlM hR Compile.collectedFor_nil hcollected
  congr 1
  apply mapM_congr
  intro type hmem
  obtain ⟨entry, hentry, rfl⟩ := List.mem_map.1 hmem
  obtain ⟨binding, hb, types, hline, htype⟩ := hinv.origin _ _ (Table.get?_eq_some_iff.2 hentry)
  rw [h.depth (h.of_lineage hR hbound hb hline _ htype).1]

theorem grammar (heq : registry.bindings = other.bindings) (log log' : List LogRecord) :
    answer Compile.grammar ⟨registry, log⟩ = answer Compile.grammar ⟨other, log'⟩ := by
  rw [Compile.answer_grammar, Compile.answer_grammar, ← h.collectTypes hR hbound heq, ← h.elements hbound heq]
  apply bind_congr_of_ok
  intro types htypes
  rw [h.mapM_fragment hR hbound (Compile.collectTypes_sound hR htypes) log log']

/-! ### Another order of the bindings -/

variable (hO : other.WellFormed) (hperm : registry.bindings.Perm other.bindings)
include hO hperm

theorem collectTypes_of_perm {types : List ComponentType}
    (htypes : answer Compile.collectTypes registry = .ok types) :
    answer Compile.collectTypes other = .ok types := by
  have hcollects := Compile.collectTypes_sound hR htypes
  have hlineage : ∀ binding ∈ other.bindings,
      answer (Registry.lineage binding.2) registry = answer (Registry.lineage binding.2) other :=
    fun binding hb => h.lineage (hbound binding (hperm.mem_iff.2 hb))
  obtain ⟨others, hothers⟩ : ∃ others, answer Compile.collectTypes other = .ok others := by
    apply Compile.collectTypes_complete hO
    intro binding hb
    obtain ⟨types, hline, -⟩ := hcollects.complete binding (hperm.mem_iff.2 hb)
    exact ⟨types, chain_of_lineage (hlineage binding hb ▸ hline)⟩
  have hcollects' := Compile.collectTypes_sound hO hothers
  have hmem : ∀ type, type ∈ types ↔ type ∈ others := by
    intro type
    rw [hcollects.mem_iff, hcollects'.mem_iff]
    constructor
    · rintro ⟨binding, hb, lineage, hline, htype⟩
      rw [hperm.mem_iff] at hb
      exact ⟨binding, hb, lineage, hlineage binding hb ▸ hline, htype⟩
    · rintro ⟨binding, hb, lineage, hline, htype⟩
      exact ⟨binding, hperm.mem_iff.2 hb, lineage, (hlineage binding hb).trans hline, htype⟩
  -- both lists are in the one order of the first registry, so they are equal
  have hsorted : others.Pairwise (Compile.Precedes registry) := by
    apply h.pairwise_precedes _ (Compile.collectTypes_pairwise hothers)
    intro type htype
    obtain ⟨binding, hb, lineage, hline, htype⟩ := hcollects.origin type ((hmem type).2 htype)
    exact (h.of_lineage hR hbound hb hline type htype).1
  rw [hothers, Compile.eq_of_pairwise_precedes hmem hcollects.nodup hcollects'.nodup
    (Compile.collectTypes_pairwise htypes) hsorted]

omit hR hO in
theorem elements_of_perm {grammar : Grammar} {types : List ComponentType}
    (hgrammar : grammar.Compiles registry types) :
    answer Compile.elements other =
      .ok (other.bindings.map fun binding => ⟨binding.1, binding.2, registry.contentFor binding.2⟩) := by
  rw [Compile.answer_elements]
  apply mapM_eq_ok_map
  intro binding hb
  rw [← hperm.mem_iff] at hb
  rw [← h.contentModel (hbound binding hb), hgrammar.contentModel_eq hb]
  rfl

theorem grammar_of_perm {log : List LogRecord} {grammar : Grammar}
    (hgrammar : answer Compile.grammar ⟨registry, log⟩ = .ok grammar) (log' : List LogRecord) :
    answer Compile.grammar ⟨other, log'⟩ = .ok ⟨grammar.types,
      other.bindings.map fun binding => ⟨binding.1, binding.2, registry.contentFor binding.2⟩⟩ := by
  obtain ⟨_, hcompiles⟩ := Compile.grammar_sound hR hgrammar
  simp only [Compile.answer_grammar, bind_eq_ok_iff] at hgrammar ⊢
  obtain ⟨types, htypes, fragments, hfragments, elements, -, heq⟩ := hgrammar
  obtain rfl := Except.ok.inj heq
  rw [h.mapM_fragment hR hbound (Compile.collectTypes_sound hR htypes) log log'] at hfragments
  exact ⟨types, h.collectTypes_of_perm hR hbound hO hperm htypes, fragments, hfragments, _,
    h.elements_of_perm hbound hperm hcompiles, rfl⟩

end

end Registry.AgreesOn

/-- **A grammar depends only on what the bound names resolve to.** Registries that bind the same tags
in the same order compile alike or fail alike. If the order of the bindings differs, the elements
come in the other order, and nothing else changes. -/
theorem Compile.grammar_of_resolvesAlike {registry other : Registry} (hR : registry.WellFormed)
    (hO : other.WellFormed) (h : registry.ResolvesAlike other) (log log' : List LogRecord) :
    (registry.bindings = other.bindings →
      answer Compile.grammar ⟨registry, log⟩ = answer Compile.grammar ⟨other, log'⟩) ∧
    (registry.bindings.Perm other.bindings → ∀ grammar, answer Compile.grammar ⟨registry, log⟩ = .ok grammar →
      ∃ content : String → ContentModel,
        grammar.elements = registry.bindings.map (fun binding => ⟨binding.1, binding.2, content binding.2⟩) ∧
        answer Compile.grammar ⟨other, log'⟩ = .ok ⟨grammar.types,
          other.bindings.map fun binding => ⟨binding.1, binding.2, content binding.2⟩⟩) := by
  have hbound : ∀ binding ∈ registry.bindings, registry.Reaches binding.2 := fun _ hb => .bound hb
  constructor
  · intro heq
    exact h.agreesOn.grammar hR hbound heq log log'
  · intro hperm grammar hgrammar
    obtain ⟨_, hcompiles⟩ := grammar_sound hR hgrammar
    exact ⟨registry.contentFor, hcompiles.elements_eq,
      h.agreesOn.grammar_of_perm hR hbound hO hperm hgrammar log'⟩

/-! ### Two registries of one vocabulary -/

namespace Scattered

def widget : ComponentType :=
  ⟨"Widget", rootType, [⟨"name", .string, none⟩]⟩

def control : ComponentType :=
  ⟨"Control", "Widget", [⟨"orientation", .int, none⟩]⟩

def knob : ComponentType :=
  ⟨"Knob", "Control", [⟨"turn", .enum, some "Turns"⟩]⟩

def turns : Domain :=
  ⟨"Turns", [⟨"LEFT", "left"⟩, ⟨"RIGHT", "right"⟩]⟩

def layer (types : List ComponentType) (domains : List Domain) (bindings : List (String × String)) : Layer :=
  ⟨Table.ofList (types.map fun type => (type.identity, type)),
    Table.ofList (domains.map fun domain => (domain.key, domain)), Table.ofList bindings⟩

def gathered : Registry :=
  ⟨layer [widget, control, knob] [turns, Builtin.orientation] [("knob", "Knob"), ("control", "Control")], []⟩

/-- The same vocabulary over three layers, with types and domains that are not bound or are hidden by
others. -/
def scattered : Registry :=
  ⟨layer [control, knob] [] [("control", "Control"), ("knob", "Knob")],
    [layer [⟨"Spare", "Lost", []⟩, widget] [turns, ⟨"Spares", []⟩] [],
      layer [⟨"Knob", rootType, []⟩] [⟨"Turns", []⟩, Builtin.orientation] [("knob", "Knob")]]⟩

theorem wellFormed : gathered.WellFormed ∧ scattered.WellFormed := by
  have hlayer : ∀ {types : List ComponentType} {domains : List Domain} {bindings : List (String × String)},
      (∀ type ∈ types, type.identity ≠ rootType) → (∀ binding ∈ bindings, isName binding.1.toList = true ∧
        binding.2 ∈ types.map ComponentType.identity) → (layer types domains bindings).WellFormed :=
    fun htypes hbindings => Layer.wellFormed_ofList htypes hbindings
  constructor
  · exact wellFormed_mk (hlayer (by decide) (by decide)) (by simp)
  · apply wellFormed_mk (hlayer (by decide) (by decide))
    intro other hother
    rcases List.mem_cons.1 hother with rfl | hother
    · exact hlayer (by decide) (by decide)
    · obtain rfl := List.mem_singleton.1 hother
      exact hlayer (by decide) (by decide)

theorem known : ∀ type ∈ [widget, control, knob],
    gathered.type? type.identity = some type ∧ scattered.type? type.identity = some type := by
  decide

theorem reaches {identity : String} (h : gathered.Reaches identity) :
    identity = rootType ∨ ∃ type ∈ [widget, control, knob], type.identity = identity := by
  induction h with
  | bound h =>
    have hbound : ∀ binding ∈ gathered.bindings, ∃ type ∈ [widget, control, knob], type.identity = binding.2 := by
      decide
    exact .inr (hbound _ h)
  | @base identity type _ htype ih =>
    have hbases : ∀ type ∈ [widget, control, knob],
        type.base = rootType ∨ ∃ base ∈ [widget, control, knob], base.identity = type.base := by
      decide
    rw [answer_resolve_eq_ok_iff] at htype
    rcases ih with rfl | ⟨found, hmem, rfl⟩
    · cases htype
    · obtain rfl := Option.some.inj ((known found hmem).1.symm.trans htype)
      exact hbases found hmem

theorem resolvesAlike : gathered.ResolvesAlike scattered := by
  constructor
  · intro identity hreach
    rcases reaches hreach with rfl | ⟨type, hmem, rfl⟩
    · rfl
    · rw [answer_resolve_eq_ok_iff.2 (known type hmem).1, answer_resolve_eq_ok_iff.2 (known type hmem).2]
  · intro identity type hreach htype property hp key huses
    have hdomains : ∀ type ∈ [widget, control, knob], ∀ property ∈ type.properties,
        (∀ key ∈ Builtin.selectorDomains.lookup property.name, gathered.domain? key = scattered.domain? key) ∧
          ∀ key ∈ property.domain, gathered.domain? key = scattered.domain? key := by
      decide
    have hsame : gathered.domain? key = scattered.domain? key := by
      rw [answer_resolve_eq_ok_iff] at htype
      rcases reaches hreach with rfl | ⟨found, hmem, rfl⟩
      · cases htype
      · obtain rfl := Option.some.inj ((known found hmem).1.symm.trans htype)
        cases huses with
        | selector _ hkey => exact (hdomains found hmem property hp).1 key hkey
        | enum _ hkey => exact (hdomains found hmem property hp).2 key hkey
    rw [answer_resolveDomain, answer_resolveDomain, hsame]

theorem chain_control : Chain gathered "Control" [control, widget] :=
  .step (by decide) rfl (.step (by decide) rfl .root)

theorem chain_knob : Chain gathered "Knob" [knob, control, widget] :=
  .step (by decide) rfl chain_control

theorem compiles : ∃ grammar, answer Compile.grammar ⟨gathered, []⟩ = .ok grammar := by
  have hattributes : ∀ type ∈ [knob, control, widget],
      ∃ attributes, gathered.attributesOf type = .ok attributes := by
    simp only [List.forall_mem_cons]
    exact ⟨⟨_, rfl⟩, ⟨_, rfl⟩, ⟨_, rfl⟩, by simp⟩
  have hR : (Workbench.mk gathered []).registry.WellFormed := wellFormed.1
  apply Compile.grammar_complete hR
  intro binding hb
  have hall : ∀ binding ∈ gathered.bindings, binding.2 = "Knob" ∨ binding.2 = "Control" := by decide
  rcases hall binding hb with hid | hid
  · exact ⟨_, hid ▸ chain_knob, hattributes⟩
  · exact ⟨_, hid ▸ chain_control, fun type hmem => hattributes type (List.mem_cons_of_mem _ hmem)⟩

end Scattered

theorem Scattered.grammar_scattered : ∃ grammar, answer Compile.grammar ⟨gathered, []⟩ = .ok grammar ∧
    gathered.bindings.Perm scattered.bindings ∧ ∃ content : String → ContentModel,
      grammar.elements = gathered.bindings.map (fun binding => ⟨binding.1, binding.2, content binding.2⟩) ∧
      answer Compile.grammar ⟨scattered, []⟩ = .ok ⟨grammar.types,
        scattered.bindings.map fun binding => ⟨binding.1, binding.2, content binding.2⟩⟩ := by
  obtain ⟨grammar, hgrammar⟩ := compiles
  have hperm : gathered.bindings.Perm scattered.bindings := by decide
  exact ⟨grammar, hgrammar, hperm,
    (Compile.grammar_of_resolvesAlike wellFormed.1 wellFormed.2 resolvesAlike [] []).2 hperm grammar hgrammar⟩

end TagGrammar
