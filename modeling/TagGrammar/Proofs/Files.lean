import TagGrammar.GrammarFile
import TagGrammar.Proofs.Acceptance

/-!
# Writing and reading files

A file that has been written is read from the same path with the same content, and a grammar that
has been written has the schema of its text (`loadSchema_writeText`): the line breaks that reading
unifies end the same lines.
-/

namespace TagGrammar

open Text

namespace FileTree

/-! ## Nodes -/

theorem lookup_replaced {nodes : List (Place × FileNode)} {place : Place}
    (hany : (nodes.any fun entry => entry.1 = place) = true) (node : FileNode) (other : Place) :
    (nodes.map fun entry => if entry.1 = place then (place, node) else entry).lookup other =
      if other = place then some node else nodes.lookup other := by
  induction nodes with
  | nil => cases hany
  | cons entry rest ih =>
    rw [List.map_cons, List.lookup_cons, List.lookup_cons]
    by_cases hentry : entry.1 = place
    · by_cases hother : other = place
      · simp [hentry, hother]
      · have hne : (other == place) = false := beq_eq_false_iff_ne.2 hother
        simp only [hentry, if_true, hne, if_neg hother]
        by_cases hrest : (rest.any fun entry => entry.1 = place) = true
        · rw [ih hrest, if_neg hother]
        · -- nothing is left to replace
          congr 1
          rw [List.map_congr_left (g := id) fun entry he => ?_, List.map_id]
          exact if_neg fun heq => hrest (List.any_eq_true.2 ⟨entry, he, by simpa using heq⟩)
    · have hrest : (rest.any fun entry => entry.1 = place) = true := by
        simpa [hentry] using hany
      rw [if_neg hentry, ih hrest]
      by_cases hother : other = place
      · have hne : (other == entry.1) = false := beq_eq_false_iff_ne.2 fun heq => hentry (heq ▸ hother)
        simp [hother, hother ▸ hne]
      · simp [hother]

theorem lookup_append_new {nodes : List (Place × FileNode)} {place : Place}
    (hnone : (nodes.any fun entry => entry.1 = place) = false) (node : FileNode) (other : Place) :
    (nodes ++ [(place, node)]).lookup other = if other = place then some node else nodes.lookup other := by
  rw [List.lookup_append]
  by_cases hother : other = place
  · subst hother
    have hlookup : nodes.lookup other = none := by
      rw [List.lookup_eq_none_iff]
      intro entry he
      have hne : entry.1 ≠ other := by
        simpa using List.any_eq_false.1 hnone entry he
      simpa using hne.symm
    simp [hlookup]
  · have hne : (other == place) = false := beq_eq_false_iff_ne.2 hother
    simp [List.lookup_cons, hne, hother]

/-- Putting a node at a place changes nothing elsewhere. -/
@[simp] theorem node?_set (tree : FileTree) {place : Place} (hplace : place ≠ []) (node : FileNode)
    (other : Place) :
    (tree.set place node).node? other = if other = place then some node else tree.node? other := by
  have hlookup : (tree.set place node).nodes.lookup other =
      if other = place then some node else tree.nodes.lookup other := by
    unfold set
    by_cases hany : (tree.nodes.any fun entry => entry.1 = place) = true
    · rw [if_pos hany]
      exact lookup_replaced hany node other
    · rw [if_neg hany]
      exact lookup_append_new (Bool.not_eq_true _ ▸ hany) node other
  unfold node?
  by_cases hroot : other = []
  · rw [if_pos hroot, if_pos hroot, if_neg]
    exact fun heq => hplace (heq ▸ hroot)
  · rw [if_neg hroot, if_neg hroot, hlookup]

/-! ## Walking -/

/-- Steps lead to the same place whatever is put at a place that is no directory. -/
theorem walk_set {tree : FileTree} {place : Place} (hplace : place ≠ [])
    (hnode : tree.node? place ≠ some .directory) (node : FileNode) {start dest : Place} {steps : List String}
    (h : tree.walk start steps = .ok dest) : (tree.set place node).walk start steps = .ok dest := by
  induction steps generalizing start with
  | nil => exact h
  | cons step rest ih =>
    rw [walk] at h ⊢
    cases hstart : tree.node? start with
    | none => simp [hstart] at h
    | some found =>
      cases found with
      | file bytes => simp [hstart] at h
      | directory =>
        have hne : start ≠ place := by
          rintro rfl
          exact hnode hstart
        rw [node?_set tree hplace, if_neg hne, hstart]
        simp only [hstart] at h ⊢
        by_cases hlong : maxNameLength < step.utf8ByteSize
        · simp [hlong] at h
        · rw [if_neg hlong] at h ⊢
          exact ih h

theorem working_set (tree : FileTree) (place : Place) (node : FileNode) :
    (tree.set place node).working = tree.working := by
  unfold set
  split <;> rfl

theorem walkUp_set {tree : FileTree} {place : Place} (hplace : place ≠ [])
    (hnode : tree.node? place ≠ some .directory) (node : FileNode) {start dest : Place} {steps : List String}
    (h : tree.walkUp start steps = .ok dest) : (tree.set place node).walkUp start steps = .ok dest := by
  induction steps generalizing start with
  | nil => exact h
  | cons step rest ih =>
    rw [walkUp] at h ⊢
    by_cases hup : step = ".."
    · rw [if_pos hup] at h ⊢
      exact ih h
    · rw [if_neg hup] at h ⊢
      exact walk_set hplace hnode node h

theorem locate_set {tree : FileTree} {place : Place} (hplace : place ≠ [])
    (hnode : tree.node? place ≠ some .directory) (node : FileNode) {path : Path} {dest : Place}
    (h : tree.locate path = .ok dest) : (tree.set place node).locate path = .ok dest := by
  unfold locate at h ⊢
  rw [working_set]
  by_cases hnull : path.hasNull = true
  · simp [hnull] at h
  · rw [if_neg hnull] at h ⊢
    by_cases hlong : maxPathLength < path.toString.utf8ByteSize
    · simp [hlong] at h
    · rw [if_neg hlong] at h ⊢
      by_cases habsolute : path.isAbsolute = true
      · rw [if_pos habsolute] at h ⊢
        exact walk_set hplace hnode node h
      · rw [if_neg habsolute] at h ⊢
        exact walkUp_set hplace hnode node h

theorem ne_nil_of_node? {tree : FileTree} {place : Place} (h : tree.node? place ≠ some .directory) :
    place ≠ [] := by
  rintro rfl
  exact h rfl

/-- A path that starts at the root leads to what stands at its place. -/
theorem reached?_of_isAbsolute (tree : FileTree) {path : Path} (h : path.isAbsolute = true) (place : Place) :
    tree.reached? path place = tree.node? place := by
  simp [reached?, Path.isUpward, h]

theorem reached?_of_ne_directory {tree : FileTree} {path : Path} {place : Place}
    (h : tree.reached? path place ≠ some .directory) :
    path.isUpward = false ∧ tree.node? place ≠ some .directory := by
  unfold reached? at h
  split at h
  · exact absurd rfl h
  · exact ⟨Bool.not_eq_true _ ▸ ‹_›, h⟩

/-! ## Writing and removing -/

theorem write_eq_ok_iff {tree after : FileTree} {path : Path} {bytes : ByteArray} :
    tree.write path bytes = .ok after ↔ ∃ place, tree.locate path = .ok place ∧
      tree.reached? path place ≠ some .directory ∧ after = tree.set place (.file bytes) := by
  unfold write
  cases tree.locate path with
  | error fault => simp
  | ok place =>
    cases hnode : tree.reached? path place with
    | none => simp [hnode, eq_comm]
    | some node => cases node <;> simp [hnode, eq_comm]

theorem path_of_write_error {tree : FileTree} {path : Path} {bytes : ByteArray} {error : FileError}
    (h : tree.write path bytes = .error error) : error.path = path := by
  unfold write at h
  split at h
  · cases h
    rfl
  · split at h
    · cases h
      rfl
    · cases h

/-- A file that could not be written is not there to be removed. Most faults prevent even the
attempt. -/
theorem remove_of_write_error {tree : FileTree} {path : Path} {bytes : ByteArray} {error : FileError}
    (h : tree.write path bytes = .error error) :
    tree.remove path = if error.fault = .notFound then .ok tree else .error error := by
  unfold write at h
  unfold remove
  cases hlocate : tree.locate path with
  | error fault =>
    simp only [hlocate, Except.error.injEq] at h
    subst h
    cases fault <;> rfl
  | ok place =>
    simp only [hlocate] at h ⊢
    cases hnode : tree.reached? path place with
    | none => simp [hnode] at h
    | some node =>
      cases node with
      | file bytes => simp [hnode] at h
      | directory =>
        simp only [hnode, Except.error.injEq] at h
        subst h
        rfl

@[simp] theorem node?_clear (tree : FileTree) {place : Place} (hplace : place ≠ []) (other : Place) :
    (tree.clear place).node? other = if other = place then none else tree.node? other := by
  have hlookup : (tree.clear place).nodes.lookup other =
      if other = place then none else tree.nodes.lookup other := by
    unfold clear
    dsimp only
    induction tree.nodes with
    | nil => simp
    | cons entry rest ih =>
      by_cases hentry : entry.1 = place
      · rw [List.filter_cons_of_neg (by simpa using hentry), ih]
        by_cases hother : other = place
        · simp [hother]
        · have hne : (other == entry.1) = false := beq_eq_false_iff_ne.2 (hentry.symm ▸ hother)
          rw [List.lookup_cons, hne]
      · rw [List.filter_cons_of_pos (by simpa using hentry), List.lookup_cons, List.lookup_cons, ih]
        by_cases hother : other = place
        · have hne : (other == entry.1) = false := beq_eq_false_iff_ne.2 fun heq => hentry (heq ▸ hother)
          simp [hother, hother ▸ hne]
        · simp [hother]
  unfold node?
  by_cases hroot : other = []
  · rw [if_pos hroot, if_pos hroot, if_neg]
    exact fun heq => hplace (heq ▸ hroot)
  · rw [if_neg hroot, if_neg hroot, hlookup]

theorem remove_eq_ok {tree after : FileTree} {path : Path} (h : tree.remove path = .ok after) :
    after = tree ∨ ∃ place bytes, tree.node? place = some (.file bytes) ∧ after = tree.clear place := by
  unfold remove at h
  split at h
  · exact .inl (Except.ok.inj h).symm
  · cases h
  · split at h
    · exact .inl (Except.ok.inj h).symm
    · cases h
    · rename_i place _ _ bytes hreached
      refine .inr ⟨place, bytes, ?_, (Except.ok.inj h).symm⟩
      unfold reached? at hreached
      split at hreached
      · cases hreached
      · exact hreached

/-! ## The working directory -/

theorem currentPath?_eq_some_iff {tree : FileTree} {path : Path} : tree.currentPath? = some path ↔
    tree.node? tree.working = some .directory ∧ path = ⟨.root, tree.working⟩ := by
  unfold currentPath?
  split
  · rename_i hnode
    simp [hnode, eq_comm]
  · rename_i hnode
    exact iff_of_false (by simp) fun h => hnode h.1

theorem isAbsolute_of_currentPath? {tree : FileTree} {path : Path} (h : tree.currentPath? = some path) :
    path.isAbsolute = true := by
  obtain ⟨-, rfl⟩ := currentPath?_eq_some_iff.1 h
  rfl

/-- The working directory keeps its path as long as no directory is put in its place or taken away. -/
theorem currentPath?_congr {tree other : FileTree} (hworking : other.working = tree.working)
    (hnode : other.node? tree.working = some .directory ↔ tree.node? tree.working = some .directory) :
    other.currentPath? = tree.currentPath? := by
  ext path
  rw [currentPath?_eq_some_iff, currentPath?_eq_some_iff, hworking, hnode]

theorem currentPath?_of_write {tree after : FileTree} {path : Path} {bytes : ByteArray}
    (h : tree.write path bytes = .ok after) : after.currentPath? = tree.currentPath? := by
  obtain ⟨place, -, hreached, rfl⟩ := write_eq_ok_iff.1 h
  have hnode := (reached?_of_ne_directory hreached).2
  apply currentPath?_congr (working_set tree place _)
  rw [node?_set tree (ne_nil_of_node? hnode)]
  split
  · rename_i heq
    rw [heq]
    exact iff_of_false (by simp) hnode
  · rfl

theorem currentPath?_of_remove {tree after : FileTree} {path : Path} (h : tree.remove path = .ok after) :
    after.currentPath? = tree.currentPath? := by
  rcases remove_eq_ok h with rfl | ⟨place, bytes, hfile, rfl⟩
  · rfl
  · have hnode : tree.node? place ≠ some .directory := by simp [hfile]
    have hworking : (tree.clear place).working = tree.working := rfl
    apply currentPath?_congr hworking
    rw [node?_clear tree (ne_nil_of_node? hnode)]
    split
    · rename_i heq
      rw [heq]
      exact iff_of_false (by simp) hnode
    · rfl

/-! ## Reading what was written -/

theorem read_write {tree after : FileTree} {path : Path} {bytes : ByteArray}
    (h : tree.write path bytes = .ok after) : after.read path = .ok bytes := by
  obtain ⟨place, hlocate, hreached, rfl⟩ := write_eq_ok_iff.1 h
  obtain ⟨hupward, hnode⟩ := reached?_of_ne_directory hreached
  have hplace := ne_nil_of_node? hnode
  unfold read
  rw [locate_set hplace hnode _ hlocate]
  simp [reached?, hupward, hplace]

theorem readText_writeText {tree after : FileTree} {path : Path} {text : String}
    (h : tree.writeText path text = .ok after) :
    after.readText path = .ok (String.ofList (unifyBreaks text.toList)) := by
  unfold readText
  rw [read_write h]
  show (decodeText text.toUTF8).mapError ReadError.encoding = _
  rw [decodeText, Utf8.decode_toUTF8]
  rfl

end FileTree

/-! ## Grammar files -/

theorem readSchema_eq (text : String) : (readSchema text).map Prod.fst = Schema.parse text := by
  unfold readSchema Schema.parse
  cases Declarations.read text with
  | error error => rfl
  | ok declared =>
    show Except.map _ (declared.schema >>= _) = declared.schema
    cases declared.schema <;> rfl

theorem Schema.parse_unifyBreaks (text : String) :
    Schema.parse (String.ofList (unifyBreaks text.toList)) = Schema.parse text := by
  unfold Schema.parse Declarations.read
  rw [String.toList_ofList, lines_unifyBreaks]

theorem map_loadSchema_writeText {tree after : FileTree} {path : Path} {text : String}
    (h : tree.writeText path text = .ok after) :
    (loadSchema after path).map Prod.fst = (Schema.parse text).mapError .malformed := by
  unfold loadSchema
  rw [FileTree.readText_writeText h, ← Schema.parse_unifyBreaks, ← readSchema_eq]
  dsimp only
  cases readSchema (String.ofList (unifyBreaks text.toList)) <;> rfl

/-- A grammar that has been written has the schema of its text. -/
theorem loadSchema_writeText {tree after : FileTree} {path : Path} {text : String}
    (h : tree.writeText path text = .ok after) (schema : Schema) :
    (∃ records, loadSchema after path = .ok (schema, records)) ↔ Schema.parse text = .ok schema := by
  have hload : (∃ records, loadSchema after path = .ok (schema, records)) ↔
      (loadSchema after path).map Prod.fst = .ok schema := by
    cases loadSchema after path <;> simp [Except.map, Prod.ext_iff]
  rw [hload, map_loadSchema_writeText h]
  cases Schema.parse text <;> simp [Except.mapError]

theorem loadSchema_writeText_error {tree after : FileTree} {path : Path} {text : String}
    (h : tree.writeText path text = .ok after) (error : GrammarFileError) :
    loadSchema after path = .error error ↔
      ∃ fault, error = .malformed fault ∧ Schema.parse text = .error fault := by
  have hload : loadSchema after path = .error error ↔ (loadSchema after path).map Prod.fst = .error error := by
    cases loadSchema after path <;> simp [Except.map]
  rw [hload, map_loadSchema_writeText h]
  cases Schema.parse text <;> simp [Except.mapError, eq_comm]

/-- **A written grammar is read as its text is**: the file holds the text as it stands, reading it
unifies its breaks but leaves its lines, and it has the schema or the error of the text. -/
theorem loadSchema_written {tree after : FileTree} {path : Path} {text : String}
    (h : tree.writeText path text = .ok after) :
    after.read path = .ok text.toUTF8 ∧
    (∃ found, after.readText path = .ok found ∧ lines found.toList = lines text.toList) ∧
    (∀ schema, (∃ records, loadSchema after path = .ok (schema, records)) ↔ Schema.parse text = .ok schema) ∧
    ∀ error, loadSchema after path = .error error ↔
      ∃ fault, error = .malformed fault ∧ Schema.parse text = .error fault := by
  refine ⟨FileTree.read_write h, ⟨_, FileTree.readText_writeText h, ?_⟩, loadSchema_writeText h,
    loadSchema_writeText_error h⟩
  rw [String.toList_ofList, lines_unifyBreaks]

/-! ### A file with breaks of several kinds -/

/-- Breaks of which reading unifies some, one of them inside a statement. -/
def mixedBreaks : String :=
  "<!ENTITY % Dial \"\">\r\u2028\r\n<!ELEMENT dial EMPTY>\r<!ATTLIST dial %Dial;>\n\r\x0b<!ELEMENT\u0085knob ANY>"

theorem loadSchema_mixedBreaks : ∃ after,
    (FileTree.bare []).writeText ⟨.here, ["grammar.dtd"]⟩ mixedBreaks = .ok after ∧
    after.read ⟨.here, ["grammar.dtd"]⟩ = .ok mixedBreaks.toUTF8 ∧
    (∃ found, after.readText ⟨.here, ["grammar.dtd"]⟩ = .ok found ∧ lines found.toList = lines mixedBreaks.toList) ∧
    loadSchema after ⟨.here, ["grammar.dtd"]⟩ = .error (.malformed ⟨.unrecognized, 8, "<!ELEMENT"⟩) := by
  have hlocate : (FileTree.bare []).locate ⟨.here, ["grammar.dtd"]⟩ = .ok ["grammar.dtd"] := by
    decide
  have hwrite : (FileTree.bare []).writeText ⟨.here, ["grammar.dtd"]⟩ mixedBreaks =
      .ok ((FileTree.bare []).set ["grammar.dtd"] (.file mixedBreaks.toUTF8)) := by
    rw [FileTree.writeText, FileTree.write, hlocate]
    rfl
  have herror : Schema.parse mixedBreaks = .error ⟨.unrecognized, 8, "<!ELEMENT"⟩ := by
    decide +kernel
  obtain ⟨hbytes, hlines, -, herrors⟩ := loadSchema_written hwrite
  exact ⟨_, hwrite, hbytes, hlines, (herrors _).2 ⟨_, rfl, herror⟩⟩

end TagGrammar
