import TagGrammar.Proofs.Registry.Trail

/-!
# Subtypes

A type is a subtype of another exactly if the lineage of the other is an end of its own lineage
(`isSubtype_iff`). Ends of one list are in line by their lengths, so subtyping is the order of a
tree whose depths are the lengths of the lineages, and content models pass down the branches.
-/

namespace TagGrammar.Registry

/-- A partial order in which all that is above one element is in line. -/
structure IsTreeOrder {α : Type} (below : α → α → Prop) : Prop where
  refl : ∀ a, below a a
  trans : ∀ a b c, below a b → below b c → below a c
  antisymm : ∀ a b, below a b → below b a → a = b
  inLine : ∀ a b c, below a b → below a c → below b c ∨ below c b

/-- The identities that have a lineage, the root type apart. -/
def Rooted (registry : Registry) : Type :=
  { identity : String // identity ≠ rootType ∧ ∃ types, answer (lineage identity) registry = .ok types }

section
variable {registry : Registry}

theorem Rooted.exists_chain (a : registry.Rooted) : ∃ type above, Chain registry a.1 (type :: above) := by
  obtain ⟨identity, hne, types, hline⟩ := a
  have hchain := chain_of_lineage hline
  cases hchain with
  | root => exact absurd rfl hne
  | step hne htype hrest => exact ⟨_, _, .step hne htype hrest⟩

variable (hR : registry.WellFormed)
include hR

theorem Chain.identity_eq {identity : String} {type : ComponentType} {above : List ComponentType}
    (h : Chain registry identity (type :: above)) : type.identity = identity := by
  cases h with
  | step _ htype _ => exact (hR.type? htype).1

theorem Chain.eq_of_same {identity other : String} {type : ComponentType} {above : List ComponentType}
    (h : Chain registry identity (type :: above)) (h' : Chain registry other (type :: above)) : identity = other :=
  (h.identity_eq hR).symm.trans (h'.identity_eq hR)

theorem answer_isSubtype_of_chain {identity : String} {types : List ComponentType}
    (h : Chain registry identity types) (ancestor : String) : answer (isSubtype identity ancestor) registry =
      .ok (types.any fun type => type.identity = ancestor) := by
  simp [isSubtype, lineage_of_chain hR h]

theorem answer_contentModel_of_chain {identity : String} {types : List ComponentType}
    (h : Chain registry identity types) : answer (contentModel identity) registry =
      .ok (if types.any fun type => containerTypes.contains type.identity then .any else .empty) := by
  simp [contentModel, lineage_of_chain hR h]

/-- A subtype is one whose lineage ends with the lineage of the ancestor. -/
theorem isSubtype_iff {identity ancestor : String} : answer (isSubtype identity ancestor) registry = .ok true ↔
    ∃ types type above, Chain registry identity types ∧ Chain registry ancestor (type :: above) ∧
      type :: above <:+ types := by
  constructor
  · intro h
    unfold isSubtype at h
    rw [answer_bind_pure, bind_eq_ok_iff] at h
    obtain ⟨types, hline, hany⟩ := h
    obtain ⟨type, hmem, hid⟩ := List.any_eq_true.1 (Except.ok.inj hany)
    have hchain := chain_of_lineage hline
    obtain ⟨name, above, hname, habove, hsuffix⟩ := hchain.of_mem hmem
    obtain rfl : name = ancestor := (hR.type? hname).1.symm.trans (of_decide_eq_true hid)
    exact ⟨types, type, above, hchain, habove, hsuffix⟩
  · rintro ⟨types, type, above, hchain, habove, hsuffix⟩
    rw [answer_isSubtype_of_chain hR hchain]
    have hmem : type ∈ types := hsuffix.subset List.mem_cons_self
    have hany : (types.any fun other => other.identity = ancestor) = true :=
      List.any_eq_true.2 ⟨type, hmem, decide_eq_true (habove.identity_eq hR)⟩
    rw [hany]

theorem isSubtype_refl {identity : String} {type : ComponentType} {above : List ComponentType}
    (h : Chain registry identity (type :: above)) : answer (isSubtype identity identity) registry = .ok true :=
  (isSubtype_iff hR).2 ⟨_, type, above, h, h, List.suffix_rfl⟩

theorem isSubtype_trans {a b c : String} (h : answer (isSubtype a b) registry = .ok true)
    (h' : answer (isSubtype b c) registry = .ok true) : answer (isSubtype a c) registry = .ok true := by
  rw [isSubtype_iff hR] at h h' ⊢
  obtain ⟨types, type, above, hchain, hb, hsuffix⟩ := h
  obtain ⟨others, last, rest, hchain', hc, hsuffix'⟩ := h'
  rw [← hb.unique hchain'] at hsuffix'
  exact ⟨types, last, rest, hchain, hc, hsuffix'.trans hsuffix⟩

theorem isSubtype_antisymm {a b : String} (h : answer (isSubtype a b) registry = .ok true)
    (h' : answer (isSubtype b a) registry = .ok true) : a = b := by
  rw [isSubtype_iff hR] at h h'
  obtain ⟨types, type, above, hchain, hb, hsuffix⟩ := h
  obtain ⟨others, last, rest, hchain', ha, hsuffix'⟩ := h'
  obtain rfl := hchain.unique ha
  obtain rfl := hb.unique hchain'
  -- two lists that are ends of each other are the same list
  have hsame := hsuffix.eq_of_length_le hsuffix'.length_le
  rw [hsame] at hb
  exact ha.eq_of_same hR hb

theorem isSubtype_inLine {a b c : String} (h : answer (isSubtype a b) registry = .ok true)
    (h' : answer (isSubtype a c) registry = .ok true) :
    answer (isSubtype b c) registry = .ok true ∨ answer (isSubtype c b) registry = .ok true := by
  simp only [isSubtype_iff hR] at h h' ⊢
  obtain ⟨types, type, above, hchain, hb, hsuffix⟩ := h
  obtain ⟨others, last, rest, hchain', hc, hsuffix'⟩ := h'
  obtain rfl := hchain.unique hchain'
  rcases List.suffix_or_suffix_of_suffix hsuffix hsuffix' with hends | hends
  · exact .inr ⟨_, type, above, hc, hb, hends⟩
  · exact .inl ⟨_, last, rest, hb, hc, hends⟩

theorem depth_lt_of_isSubtype {a b : String} (h : answer (isSubtype a b) registry = .ok true) (hne : a ≠ b) :
    ∃ m n, answer (depth a) registry = .ok m ∧ answer (depth b) registry = .ok n ∧ n < m := by
  obtain ⟨types, type, above, ha, hb, hsuffix⟩ := (isSubtype_iff hR).1 h
  refine ⟨_, _, answer_depth_of_trail hR (trail_root_iff.2 ha), answer_depth_of_trail hR (trail_root_iff.2 hb), ?_⟩
  by_contra hlt
  have hsame := hsuffix.eq_of_length_le (Nat.le_of_not_lt hlt)
  rw [← hsame] at ha
  exact hne (ha.eq_of_same hR hb)

theorem contentModel_eq_any_iff {identity : String} : answer (contentModel identity) registry = .ok .any ↔
    ∃ container ∈ containerTypes, answer (isSubtype identity container) registry = .ok true := by
  constructor
  · intro h
    unfold contentModel at h
    rw [answer_bind_pure, bind_eq_ok_iff] at h
    obtain ⟨types, hline, hany⟩ := h
    by_cases hcontainer : (types.any fun type => containerTypes.contains type.identity) = true
    · obtain ⟨type, hmem, hid⟩ := List.any_eq_true.1 hcontainer
      refine ⟨type.identity, List.contains_iff_mem.1 hid, ?_⟩
      rw [answer_isSubtype_of_chain hR (chain_of_lineage hline)]
      have hfound : (types.any fun other => other.identity = type.identity) = true :=
        List.any_eq_true.2 ⟨type, hmem, decide_eq_true rfl⟩
      rw [hfound]
    · rw [if_neg hcontainer] at hany
      cases hany
  · rintro ⟨container, hmem, h⟩
    obtain ⟨types, type, above, hchain, hcontainer, hsuffix⟩ := (isSubtype_iff hR).1 h
    have hid := hcontainer.identity_eq hR
    have hany : (types.any fun other => containerTypes.contains other.identity) = true := by
      refine List.any_eq_true.2 ⟨type, hsuffix.subset List.mem_cons_self, ?_⟩
      rw [hid]
      exact List.contains_iff_mem.2 hmem
    rw [answer_contentModel_of_chain hR hchain, if_pos hany]

theorem isTreeOrder_isSubtype :
    IsTreeOrder fun a b : registry.Rooted => answer (isSubtype a.1 b.1) registry = .ok true := by
  constructor
  · intro a
    obtain ⟨type, above, hchain⟩ := a.exists_chain
    exact isSubtype_refl hR hchain
  · exact fun a b c => isSubtype_trans hR
  · exact fun a b h h' => Subtype.ext (isSubtype_antisymm hR h h')
  · exact fun a b c => isSubtype_inLine hR

/-- **Subtyping orders the types that have a lineage like a tree**, descendants are deeper than their
ancestors, and content models are inherited: the elements that have content are those of containers and
of their subtypes. None of the questions fails, and asking them changes no answer. -/
theorem subtypes_inherit :
    IsTreeOrder (fun a b : registry.Rooted => answer (isSubtype a.1 b.1) registry = .ok true) ∧
    (∀ a b : registry.Rooted, answer (isSubtype a.1 b.1) registry = .ok true → a ≠ b →
      ∃ m n, answer (depth a.1) registry = .ok m ∧ answer (depth b.1) registry = .ok n ∧ n < m) ∧
    (∀ a : registry.Rooted, answer (contentModel a.1) registry = .ok .any ↔
      ∃ container ∈ containerTypes, answer (isSubtype a.1 container) registry = .ok true) ∧
    (∀ a b : registry.Rooted, answer (isSubtype a.1 b.1) registry = .ok true →
      answer (contentModel b.1) registry = .ok .any → answer (contentModel a.1) registry = .ok .any) ∧
    (∀ (a : registry.Rooted) (ancestor : String), (∃ below, answer (isSubtype a.1 ancestor) registry = .ok below) ∧
      ∃ content, answer (contentModel a.1) registry = .ok content) ∧
    ∀ identity ancestor, Transparent Agrees (isSubtype identity ancestor) ∧ Transparent Agrees (depth identity) ∧
      Transparent Agrees (contentModel identity) := by
  refine ⟨isTreeOrder_isSubtype hR, fun a b h hne => ?_, fun a => contentModel_eq_any_iff hR, fun a b h hany => ?_,
    fun a ancestor => ?_, fun identity ancestor => ?_⟩
  · exact depth_lt_of_isSubtype hR h fun heq => hne (Subtype.ext heq)
  · obtain ⟨container, hmem, hcontainer⟩ := (contentModel_eq_any_iff hR).1 hany
    exact (contentModel_eq_any_iff hR).2 ⟨container, hmem, isSubtype_trans hR h hcontainer⟩
  · obtain ⟨type, above, hchain⟩ := a.exists_chain
    exact ⟨⟨_, answer_isSubtype_of_chain hR hchain ancestor⟩, _, answer_contentModel_of_chain hR hchain⟩
  · exact ⟨isSubtype_transparent identity ancestor, depth_transparent identity, contentModel_transparent identity⟩

end

/-! ### A container with another base type -/

namespace Rebased

def dash : ComponentType := ⟨"Dash", "javax.swing.JPanel", []⟩

def panel : ComponentType := ⟨"javax.swing.JPanel", "Frame", []⟩

def frame : ComponentType := ⟨"Frame", rootType, []⟩

/-- The panel that is fallen back to is hidden by one that stands below a frame. -/
def registry : Registry :=
  ⟨Tangled.layer [dash, panel] [("dash", "Dash")],
    [Tangled.layer [⟨"javax.swing.JPanel", rootType, []⟩, frame, Tangled.left, Tangled.right] []]⟩

theorem wellFormed : registry.WellFormed := by
  apply wellFormed_mk
  · exact Layer.wellFormed_ofList (by decide) (by decide)
  · exact List.forall_mem_singleton.2 (Layer.wellFormed_ofList (by decide) (by decide))

theorem chain_frame : Chain registry "Frame" [frame] :=
  .step (by decide) rfl .root

theorem chain_panel : Chain registry "javax.swing.JPanel" [panel, frame] :=
  .step (by decide) rfl chain_frame

theorem chain_dash : Chain registry "Dash" [dash, panel, frame] :=
  .step (by decide) rfl chain_panel

def rooted {identity : String} {types : List ComponentType} (hne : identity ≠ rootType)
    (h : Chain registry identity types) : registry.Rooted :=
  ⟨identity, hne, types, lineage_of_chain wellFormed h⟩

end Rebased

theorem Rebased.subtypes_inherit_dash : registry.WellFormed ∧
    answer (isSubtype "Dash" "javax.swing.JPanel") registry = .ok true ∧
    answer (isSubtype "Dash" "Frame") registry = .ok true ∧
    (answer (isSubtype "javax.swing.JPanel" "Frame") registry = .ok true ∨
      answer (isSubtype "Frame" "javax.swing.JPanel") registry = .ok true) ∧
    (∃ m n, answer (depth "Dash") registry = .ok m ∧ answer (depth "Frame") registry = .ok n ∧ n < m) ∧
    answer (contentModel "javax.swing.JPanel") registry = .ok .any ∧
    answer (contentModel "Dash") registry = .ok .any ∧ answer (contentModel "Frame") registry = .ok .empty := by
  let dash := rooted (by decide) chain_dash
  let panel := rooted (by decide) chain_panel
  let frame := rooted (by decide) chain_frame
  have hpanel : answer (isSubtype "Dash" "javax.swing.JPanel") registry = .ok true :=
    answer_isSubtype_of_chain wellFormed chain_dash _
  have hframe : answer (isSubtype "Dash" "Frame") registry = .ok true :=
    answer_isSubtype_of_chain wellFormed chain_dash _
  have hself : answer (isSubtype "javax.swing.JPanel" "javax.swing.JPanel") registry = .ok true :=
    answer_isSubtype_of_chain wellFormed chain_panel _
  obtain ⟨horder, hdepth, hany, hinherits, -⟩ := subtypes_inherit wellFormed
  have hcontent : answer (contentModel "javax.swing.JPanel") registry = .ok .any :=
    (hany panel).2 ⟨"javax.swing.JPanel", by decide, hself⟩
  refine ⟨wellFormed, hpanel, hframe, horder.inLine dash panel frame hpanel hframe, ?_, hcontent,
    hinherits dash panel hpanel hcontent, answer_contentModel_of_chain wellFormed chain_frame⟩
  exact hdepth dash frame hframe fun heq => absurd (congrArg Subtype.val heq) (by decide)

end TagGrammar.Registry
