import TagGrammar.Proofs.Text
import TagGrammar.Settings

/-!
# Paths in normal form

The steps of a path in normal form are neither empty nor a step to the same place, and no slash splits
them. Every path that is read is in normal form (`isNormal_ofString`), and a path in normal form is read
back from what it is written as (`ofString_toString`).
-/

namespace TagGrammar

open Text

theorem not_mem_of_mem_splitOn {sep : Char} {text part : List Char} (h : part ∈ text.splitOn sep) : sep ∉ part := by
  induction text generalizing part with
  | nil =>
    obtain rfl := List.mem_singleton.1 (List.splitOn_nil sep ▸ h)
    exact List.not_mem_nil
  | cons c rest ih =>
    rw [List.splitOn_cons_eq_if_modifyHead] at h
    split at h
    · rcases List.mem_cons.1 h with rfl | h
      · exact List.not_mem_nil
      · exact ih h
    · rename_i hc
      obtain ⟨first, others, hsplit⟩ := List.exists_cons_of_ne_nil (List.splitOn_ne_nil sep rest)
      rw [hsplit] at h ih
      rcases List.mem_cons.1 h with rfl | h
      · have hfirst := ih List.mem_cons_self
        simp only [beq_iff_eq] at hc
        simp [hfirst, Ne.symm hc]
      · exact ih (List.mem_cons_of_mem _ h)

namespace Path

/-- A path whose steps are steps of a written path. -/
def IsNormal (path : Path) : Prop :=
  ∀ step ∈ path.steps, isStep step.toList = true ∧ '/' ∉ step.toList

theorem isNormal_ofString (s : String) : (ofString s).IsNormal := by
  intro step hstep
  obtain ⟨part, hpart, rfl⟩ := List.mem_map.1 hstep
  obtain ⟨hsplit, hstep⟩ := List.mem_filter.1 hpart
  rw [String.toList_ofList]
  exact ⟨hstep, not_mem_of_mem_splitOn hsplit⟩

theorem IsNormal.within {directory path : Path} (hdirectory : directory.IsNormal) (h : path.IsNormal) :
    (directory.within path).IsNormal := by
  unfold Path.within
  split
  · exact h
  · intro step hstep
    rcases List.mem_append.1 hstep with hstep | hstep
    · exact hdirectory step hstep
    · exact h step hstep

/-! ## Reading a written path -/

/-- The slashes that a path starts with. -/
def slashes : Anchor → List Char
  | .here => []
  | .root => ['/']
  | .doubleRoot => ['/', '/']

theorem anchorOf_slashes_append (anchor : Anchor) {text : List Char} (h : StopsAt (· == '/') text) :
    anchorOf (slashes anchor ++ text) = anchor := by
  have hrun : ∀ c ∈ slashes anchor, (c == '/') = true := by
    cases anchor <;> decide
  rw [anchorOf, takeWhile_run hrun h]
  cases anchor <;> rfl

theorem filter_splitOn_slashes_append (anchor : Anchor) (text : List Char) :
    ((slashes anchor ++ text).splitOn '/').filter isStep = (text.splitOn '/').filter isStep := by
  have hslash : ∀ text : List Char,
      (('/' :: text).splitOn '/').filter isStep = (text.splitOn '/').filter isStep := by
    intro text
    rw [← List.nil_append ('/' :: text), List.splitOn_append_cons_self_of_not_mem List.not_mem_nil,
      List.filter_cons_of_neg (by decide)]
  cases anchor with
  | here => rfl
  | root => exact hslash text
  | doubleRoot => exact (hslash ('/' :: text)).trans (hslash text)

theorem toList_toString {path : Path} (hne : path.steps ≠ []) :
    path.toString.toList = slashes path.anchor ++ ['/'].intercalate (path.steps.map String.toList) := by
  obtain ⟨anchor, steps⟩ := path
  cases anchor with
  | here => simp [toString, slashes, hne]
  | root => simp [toString, slashes]
  | doubleRoot => simp [toString, slashes]

theorem IsNormal.filter_splitOn {path : Path} (h : path.IsNormal) (hne : path.steps ≠ []) :
    ((['/'].intercalate (path.steps.map String.toList)).splitOn '/').filter isStep =
      path.steps.map String.toList := by
  rw [List.splitOn_intercalate '/' ?_ (by simpa using hne), List.filter_eq_self]
  · simpa using fun step hstep => (h step hstep).1
  · simpa using fun step hstep => (h step hstep).2

/-- The first step does not start with a slash. -/
theorem IsNormal.stopsAt {path : Path} (h : path.IsNormal) (hne : path.steps ≠ []) :
    StopsAt (· == '/') (['/'].intercalate (path.steps.map String.toList)) := by
  obtain ⟨step, others, hsteps⟩ := List.exists_cons_of_ne_nil hne
  obtain ⟨hstep, hslash⟩ := h step (hsteps ▸ List.mem_cons_self)
  have hfilled : step.toList ≠ [] := by
    intro hempty
    rw [hempty] at hstep
    cases hstep
  have hfree : ∀ c ∈ step.toList, (c == '/') = false := by
    intro c hc
    rw [beq_eq_false_iff_ne]
    rintro rfl
    exact hslash hc
  have hstart : ∃ rest, ['/'].intercalate ((step :: others).map String.toList) = step.toList ++ rest := by
    cases others with
    | nil => exact ⟨[], by simp⟩
    | cons next others =>
      refine ⟨['/'] ++ ['/'].intercalate ((next :: others).map String.toList), ?_⟩
      rw [List.map_cons, List.map_cons, List.intercalate_cons_cons, List.append_assoc]
  obtain ⟨rest, hrest⟩ := hstart
  rw [hsteps, hrest]
  exact stopsAt_append hfilled hfree

theorem ofString_toString {path : Path} (h : path.IsNormal) : ofString path.toString = path := by
  obtain ⟨anchor, steps⟩ := path
  by_cases hne : steps = []
  · subst hne
    cases anchor <;> rfl
  · have hparts := h.filter_splitOn hne
    rw [ofString, toList_toString hne, anchorOf_slashes_append _ (h.stopsAt hne),
      filter_splitOn_slashes_append, hparts]
    simp [Function.comp_def]

end Path

/-! ## Paths from settings -/

theorem SettingValue.isNormal_ofText {raw : Option String} {kind : SettingKind} {default : SettingValue}
    {path : Path} (hdefault : ∀ path, default = .path path → path.IsNormal)
    (h : ofText raw kind default = .path path) : path.IsNormal := by
  unfold ofText at h
  split at h
  · exact hdefault path h
  · exact hdefault path h
  · cases kind with
    | text => cases h
    | integer =>
      rename_i s _
      cases hread : Text.readInt? s.toList with
      | none => exact hdefault path (by simpa [hread] using h)
      | some n => simp [hread] at h
    | truth =>
      rename_i s _
      cases hread : readTruth? s with
      | none => exact hdefault path (by simpa [hread] using h)
      | some b => simp [hread] at h
    | path =>
      cases h
      exact Path.isNormal_ofString _

namespace Environment

theorem isNormal_path? {env : Environment} {v : Variable} {path : Path} (h : env.path? v = some path) :
    path.IsNormal := by
  have hvalue : env.value v = .path path := by
    unfold path? at h
    split at h
    · rename_i found hfound
      rw [hfound, Option.some.inj h]
    · cases h
  refine SettingValue.isNormal_ofText ?_ hvalue
  intro found hfound
  cases v with
  | grammarFile =>
    cases hfound
    exact Path.isNormal_ofString _
  | _ => cases hfound

theorem grammarPath_congr {env other : Environment} (h : other.value .grammarFile = env.value .grammarFile)
    (working choice : Option Path) : other.grammarPath working choice = env.grammarPath working choice := by
  unfold grammarPath path?
  rw [h]

theorem grammarPath_of_directory (env : Environment) (directory : Path) (choice : Option Path) :
    env.grammarPath (some directory) choice =
      some (directory.within ((choice <|> env.path? .grammarFile).getD Variable.defaultGrammar)) := by
  unfold grammarPath Path.within
  split <;> simp_all

theorem isNormal_grammarPath {env : Environment} {directory path : Path} {choice : Option Path}
    (hdirectory : directory.IsNormal) (hchoice : ∀ chosen ∈ choice, chosen.IsNormal)
    (h : env.grammarPath (some directory) choice = some path) : path.IsNormal := by
  rw [grammarPath_of_directory, Option.some.injEq] at h
  subst h
  apply hdirectory.within
  cases choice with
  | some path => exact hchoice path rfl
  | none =>
    cases hpath : env.path? .grammarFile with
    | some path => exact isNormal_path? hpath
    | none => exact Path.isNormal_ofString _

theorem isAbsolute_grammarPath {env : Environment} {working choice : Option Path} {path : Path}
    (hworking : ∀ directory ∈ working, directory.isAbsolute = true)
    (h : env.grammarPath working choice = some path) : path.isAbsolute = true := by
  unfold grammarPath at h
  dsimp only at h
  split at h
  · rename_i habsolute
    exact Option.some.inj h ▸ habsolute
  · obtain ⟨directory, hdirectory, rfl⟩ := Option.map_eq_some_iff.1 h
    exact Path.isAbsolute_within (hworking directory hdirectory)

/-- A path that has been resolved is the same in every environment and in every directory, and also
without one. -/
theorem grammarPath_of_isAbsolute (env : Environment) (working : Option Path) {path : Path}
    (h : path.isAbsolute = true) : env.grammarPath working (some path) = some path :=
  if_pos h

end Environment

end TagGrammar
