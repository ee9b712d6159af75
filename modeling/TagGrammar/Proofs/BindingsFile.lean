import Mathlib.Tactic.MkIffOfInductiveProp
import TagGrammar.Inputs
import TagGrammar.Proofs.Table
import TagGrammar.Proofs.Text

/-!
# Reading bindings files

A bindings file whose lines state bindings as they are, without quotes, comments or blanks, holds
exactly these bindings, in the order of the lines (`run_loadBindings`).
-/

namespace TagGrammar

open Text

namespace BindingsFile

/-! ## Lines -/

/-- A binding that a line can state as it is: its parts are not taken for quoted ones, and the tag not
for a comment or a byte order mark. -/
@[mk_iff]
structure Plain (binding : String × String) : Prop where
  tag : isName binding.1.toList = true
  tag_chars : '=' ∉ binding.1.toList ∧ '#' ∉ binding.1.toList
  tag_start : binding.1.toList.head? ≠ some '\'' ∧ binding.1.toList.head? ≠ some '\uFEFF'
  identity : isName binding.2.toList = true
  identity_start : binding.2.toList.head? ≠ some '\''

instance (binding : String × String) : Decidable (Plain binding) :=
  decidable_of_iff' _ (plain_iff binding)

def line (binding : String × String) : List Char :=
  binding.1.toList ++ '=' :: binding.2.toList

/-- A text that states bindings, one in a line. The last line may lack its break. -/
inductive States : List (String × String) → List Char → Prop
  | nil : States [] []
  | last (binding : String × String) : States [binding] (line binding)
  | line (binding : String × String) {rest : List (String × String)} {text : List Char} (h : States rest text) :
    States (binding :: rest) (line binding ++ '\n' :: text)

/-- A text that starts with the end of a line, or is empty. -/
def EndsLine (text : List Char) : Prop :=
  text = [] ∨ ∃ rest, text = '\n' :: rest

theorem EndsLine.stopsAt {p : Char → Bool} {text : List Char} (h : EndsLine text) (hp : p '\n' = false) :
    StopsAt p text := by
  rcases h with rfl | ⟨rest, rfl⟩
  · intro c hc
    cases hc
  · exact stopsAt_cons hp

theorem isInlineBlank_eq_false {c : Char} (h : isBlank c = false) : isInlineBlank c = false := by
  simp [isInlineBlank, h]

theorem isInline_of_not_isBlank {c : Char} (h : isBlank c = false) : isInline c = true := by
  have hr : c ≠ '\r' := by
    rintro rfl
    cases h
  have hn : c ≠ '\n' := by
    rintro rfl
    cases h
  simp [isInline, hr, hn]

theorem stopsAt_reverse_of_isSolid {text : List Char} (h : IsSolid text) : StopsAt isBlank text.reverse := by
  intro c hc
  exact h c (List.mem_reverse.1 (List.mem_of_mem_head? hc))

/-! ## The parts of a line -/

theorem skipWhile_run {p : Char → Bool} {text : List Char} (h : StopsAt p text) :
    (skipWhile p).run text = .ok () text := by
  simp only [skipWhile, EStateM.run_modify, dropWhile_of_stopsAt h]

theorem skipExport_run {key rest : List Char} (hkey : IsSolid key) :
    skipExport.run (key ++ '=' :: rest) = .ok () (key ++ '=' :: rest) := by
  simp only [skipExport, EStateM.run_modify]
  split
  · rename_i c after hstart
    -- what follows the word is the `=` or still belongs to the key
    have hsolid : isBlank c = false := by
      rcases List.append_eq_append_iff.1 (afterStart?_eq_some_iff.1 hstart) with
        ⟨mid, hword, hmid⟩ | ⟨mid, rfl, hmid⟩
      · cases mid with
        | nil =>
          rw [← (List.cons.inj hmid).1]
          rfl
        | cons d mid =>
          obtain ⟨rfl, -⟩ := List.cons.inj hmid
          have hmem : '=' ∈ "export".toList := by simp [hword]
          exact absurd hmem (by decide)
      · cases mid with
        | nil =>
          rw [(List.cons.inj hmid).1]
          rfl
        | cons d mid =>
          obtain ⟨rfl, -⟩ := List.cons.inj hmid
          exact hkey c (by simp)
    simp [isInlineBlank_eq_false hsolid]
  · rfl

theorem readKey_run {key : String} (hname : isName key.toList = true) (hchars : '=' ∉ key.toList ∧ '#' ∉ key.toList)
    (hstart : key.toList.head? ≠ some '\'') (rest : List Char) :
    readKey.run (key.toList ++ '=' :: rest) = .ok (some key) ('=' :: rest) := by
  have hne := (isName_iff.1 hname).1
  have hhead : ∀ {c text}, key.toList ++ '=' :: rest = c :: text → c ∈ key.toList.head? := by
    intro c text h
    obtain ⟨d, key, hd⟩ := List.exists_cons_of_ne_nil hne
    rw [hd] at h ⊢
    exact congrArg some (List.cons.inj h).1
  have hkey : takeSome? isKeyChar (key.toList ++ '=' :: rest) = some (key.toList, '=' :: rest) := by
    refine takeSome?_eq_some_iff.2 ⟨hne, fun c hc => ?_, rfl, stopsAt_cons (by decide)⟩
    have heq : c ≠ '=' := fun h => hchars.1 (h ▸ hc)
    have hmark : c ≠ '#' := fun h => hchars.2 (h ▸ hc)
    simp [isKeyChar, isSolid_of_isName hname c hc, heq, hmark]
  unfold readKey
  simp only [EStateM.run_bind, EStateM.run_get]
  split
  · rename_i heq
    exact absurd (List.mem_of_mem_head? (hhead heq)) hchars.2
  · rename_i heq
    exact absurd (hhead heq) hstart
  · rw [hkey]
    show EStateM.Result.ok (some (String.ofList key.toList)) ('=' :: rest) = _
    rw [String.ofList_toList]

theorem cutComment_eq_self {text : List Char} (h : IsSolid text) : cutComment text = text := by
  induction text with
  | nil => rfl
  | cons c text ih =>
    have hc : isBlank c = false := h c (by simp)
    rw [cutComment, ih fun d hd => h d (List.mem_cons_of_mem _ hd)]
    simp [hc]

theorem readType_run {identity : String} (hname : isName identity.toList = true)
    (hstart : identity.toList.head? ≠ some '\'') {rest : List Char} (hrest : EndsLine rest) :
    (readType false).run (identity.toList ++ rest) = .ok identity rest := by
  have hsolid := isSolid_of_isName hname
  have hinline : ∀ c ∈ identity.toList, isInline c = true := fun c hc => isInline_of_not_isBlank (hsolid c hc)
  have hstop : StopsAt isInline rest := hrest.stopsAt (by decide)
  have htake := takeWhile_run hinline hstop
  have hdrop := dropWhile_run hinline hstop
  have hend : dropEndWhile isBlank identity.toList = identity.toList := by
    rw [dropEndWhile, dropWhile_of_stopsAt (stopsAt_reverse_of_isSolid hsolid), List.reverse_reverse]
  obtain ⟨c, text, hc⟩ := List.exists_cons_of_ne_nil (isName_iff.1 hname).1
  have hquote : c ≠ '\'' := fun h => hstart (by simp [hc, h])
  have hdouble : c ≠ '"' := fun h => not_mem_of_isName hname (by decide : '"' ∈ reservedChars) (by simp [hc, h])
  have hresult : (readType false).run (c :: (text ++ rest)) =
      .ok (String.ofList (dropEndWhile isBlank (cutComment ((c :: (text ++ rest)).takeWhile isInline))))
        ((c :: (text ++ rest)).dropWhile isInline) := by
    unfold readType
    simp only [EStateM.run_bind, EStateM.run_get, hquote, hdouble, Bool.false_and, Bool.false_eq_true, if_false]
    rfl
  rw [← List.cons_append, ← hc] at hresult
  rw [hresult, htake, hdrop, cutComment_eq_self hsolid, hend, String.ofList_toList]

theorem readAssigned_run {binding : String × String} (h : Plain binding) {rest : List Char}
    (hrest : EndsLine rest) :
    readAssigned.run ('=' :: (binding.2.toList ++ rest)) = .ok (some binding.2) rest := by
  have hsolid := isSolid_of_isName h.identity
  have hstop : StopsAt isInlineBlank (binding.2.toList ++ rest) :=
    stopsAt_append (isName_iff.1 h.identity).1 fun c hc => isInlineBlank_eq_false (hsolid c hc)
  have hblank : ((binding.2.toList ++ rest).head?.map isInlineBlank).getD false = false := by
    cases hhead : (binding.2.toList ++ rest).head? with
    | none => rfl
    | some c => exact hstop c hhead
  unfold readAssigned
  simp only [EStateM.run_bind, EStateM.run_get, EStateM.run_set, dropWhile_of_stopsAt hstop, hblank,
    readType_run h.identity h.identity_start hrest]
  rfl

theorem skipComment_run {text : List Char} (h : EndsLine text) : skipComment.run text = .ok () text := by
  rcases h with rfl | ⟨rest, rfl⟩
  · rfl
  · rfl

theorem endLine_run {text : List Char} (h : EndsLine text) : endLine.run text = .ok () text.tail := by
  rcases h with rfl | ⟨rest, rfl⟩
  · rfl
  · rfl

/-! ## Statements -/

/-- A line is read as the binding it states, whatever follows in the next line. -/
theorem readStatement_run {binding : String × String} (h : Plain binding) {rest : List Char}
    (hrest : EndsLine rest) :
    readStatement.run (line binding ++ rest) = .ok (some (binding.1, some binding.2)) rest.tail := by
  have hsolid := isSolid_of_isName h.tag
  have hne := (isName_iff.1 h.tag).1
  have htext : line binding ++ rest = binding.1.toList ++ '=' :: (binding.2.toList ++ rest) := by
    simp [line]
  have hempty : (binding.1.toList ++ '=' :: (binding.2.toList ++ rest)).isEmpty = false := by
    simp
  have hequals : StopsAt isInlineBlank ('=' :: (binding.2.toList ++ rest)) := stopsAt_cons (by decide)
  rw [htext]
  unfold readStatement
  simp only [EStateM.run_bind, EStateM.run_get, skipWhile_run (stopsAt_append hne hsolid), hempty,
    skipExport_run hsolid, readKey_run h.tag h.tag_chars h.tag_start.1, skipWhile_run hequals,
    readAssigned_run h hrest, skipComment_run hrest, endLine_run hrest, Bool.false_eq_true, if_false]
  rfl

/-- Reading goes on after the break of a line. -/
theorem readStatements_line {binding : String × String} (h : Plain binding) {rest : List Char}
    (hrest : EndsLine rest)
    (start : Nat) : ∃ next, readStatements start (line binding ++ rest) =
      .ok (binding.1, some binding.2) :: readStatements next rest.tail := by
  have hempty : (line binding ++ rest).isEmpty = false := by
    simp [line]
  have hshorter : rest.tail.length < (line binding ++ rest).length := by
    simp [line]
    omega
  rw [readStatements, hempty]
  simp only [Bool.false_eq_true, if_false, readStatement_run h hrest, if_pos hshorter]
  exact ⟨_, rfl⟩

/-- **The lines of a text are read in order, and nothing else.** -/
theorem States.readStatements_eq {bindings : List (String × String)} {text : List Char} (h : States bindings text)
    (hplain : ∀ binding ∈ bindings, Plain binding) (start : Nat) :
    readStatements start text = bindings.map fun binding => .ok (binding.1, some binding.2) := by
  induction h generalizing start with
  | nil =>
    rw [readStatements]
    rfl
  | last binding =>
    obtain ⟨next, hnext⟩ := readStatements_line (hplain binding (by simp)) (.inl rfl) start
    rw [List.append_nil] at hnext
    rw [hnext, List.tail_nil, readStatements]
    rfl
  | line binding _ ih =>
    rw [List.forall_mem_cons] at hplain
    obtain ⟨next, hnext⟩ := readStatements_line hplain.1 (.inr ⟨_, rfl⟩) start
    rw [hnext, List.tail_cons, ih hplain.2]
    rfl

/-! ## Contents -/

theorem dropMark_eq_self {text : List Char} (h : text.head? ≠ some '\uFEFF') : dropMark text = text := by
  unfold dropMark
  split
  · exact absurd rfl h
  · rfl

theorem complete_eq_ok {bindings : List (String × String)}
    (h : ∀ binding ∈ bindings, isName binding.2.toList = true)
    (table : Table String) : complete table (bindings.map fun binding => (binding.1, some binding.2)) =
      .ok (bindings.foldl (fun table binding => table.insert binding.1 binding.2) table) := by
  induction bindings generalizing table with
  | nil => rfl
  | cons binding rest ih =>
    rw [List.forall_mem_cons] at h
    have hsolid := isSolid_of_isName h.1
    have htrim : trimString binding.2 = binding.2 := by
      have hhead : StopsAt isBlank binding.2.toList := fun c hc => hsolid c (List.mem_of_mem_head? hc)
      rw [trimString, trim_eq_self hhead (stopsAt_reverse_of_isSolid hsolid), String.ofList_toList]
    have hne : binding.2 ≠ "" := by
      intro hempty
      exact (isName_iff.1 h.1).1 (by simp [hempty])
    rw [List.map_cons, complete, Option.getD_some, htrim, if_neg hne, ih h.2]
    rfl

theorem Plain.head?_ne {binding : String × String} (h : Plain binding) (rest : List Char) :
    (line binding ++ rest).head? ≠ some '\uFEFF' := by
  obtain ⟨c, tag, hc⟩ := List.exists_cons_of_ne_nil (isName_iff.1 h.tag).1
  have hmark := h.tag_start.2
  simpa [line, hc] using hmark

theorem States.head?_ne {bindings : List (String × String)} {text : List Char} (h : States bindings text)
    (hplain : ∀ binding ∈ bindings, Plain binding) : text.head? ≠ some '\uFEFF' := by
  cases h with
  | nil => simp
  | last binding => simpa using (hplain binding (by simp)).head?_ne []
  | line binding _ => exact (hplain binding (by simp)).head?_ne _

theorem States.parse_eq {bindings : List (String × String)} {text : String} (h : States bindings text.toList)
    (hplain : ∀ binding ∈ bindings, Plain binding) :
    parse text = ⟨Table.ofList (bindings.map fun binding => (binding.1, some binding.2)), []⟩ := by
  unfold parse
  rw [dropMark_eq_self (h.head?_ne hplain), h.readStatements_eq hplain]
  simp only [List.filterMap_map, Function.comp_def, Except.toOption, List.filterMap_eq_map', List.filterMap_none]

/-- **A file of plain lines holds the bindings of its lines.** -/
theorem States.bindings_eq {bindings : List (String × String)} {text : String} (h : States bindings text.toList)
    (hplain : ∀ binding ∈ bindings, Plain binding) (hnodup : (bindings.map Prod.fst).Nodup) :
    ∃ table, (parse text).bindings = .ok table ∧ table.entries = bindings := by
  have hkeys : ((bindings.map fun binding => (binding.1, some binding.2)).map Prod.fst).Nodup := by
    simpa [Function.comp_def] using hnodup
  refine ⟨Table.ofList bindings, ?_, Table.entries_ofList hnodup⟩
  rw [h.parse_eq hplain, Contents.bindings, Table.entries_ofList hkeys]
  exact complete_eq_ok (fun binding hb => (hplain binding hb).identity) .empty

/-! ## Files -/

theorem Plain.not_mem_line {binding : String × String} (h : Plain binding) {c : Char} (hc : isBlank c = true) :
    c ∉ line binding := by
  intro hmem
  rcases List.mem_append.1 hmem with hmem | hmem
  · rw [isSolid_of_isName h.tag c hmem] at hc
    cases hc
  · rcases List.mem_cons.1 hmem with rfl | hmem
    · cases hc
    · rw [isSolid_of_isName h.identity c hmem] at hc
      cases hc

theorem States.not_mem {bindings : List (String × String)} {text : List Char} (h : States bindings text)
    (hplain : ∀ binding ∈ bindings, Plain binding) : '\r' ∉ text := by
  induction h with
  | nil => simp
  | last binding => exact (hplain binding (by simp)).not_mem_line (by decide)
  | line binding _ ih =>
    rw [List.forall_mem_cons] at hplain
    have hline := hplain.1.not_mem_line (by decide : isBlank '\r' = true)
    simp [hline, ih hplain.2]

theorem unifyBreaks_eq_self {text : List Char} (h : '\r' ∉ text) : unifyBreaks text = text := by
  fun_induction unifyBreaks text with
  | case1 => rfl
  | case2 rest ih => simp at h
  | case3 c rest _ ih =>
    rw [List.mem_cons, not_or] at h
    rw [if_neg (Ne.symm h.1), ih h.2]

end BindingsFile

open BindingsFile in
/-- A file of plain lines is loaded as the list of its lines, without a warning. -/
theorem run_loadBindings {tree : FileTree} {path : Path} {bindings : List (String × String)} {text : String}
    (hfile : tree.find? path = .ok (some (.file text.toUTF8))) (h : States bindings text.toList)
    (hplain : ∀ binding ∈ bindings, Plain binding) (hnodup : (bindings.map Prod.fst).Nodup) :
    ∃ table, table.entries = bindings ∧ ∀ log, (loadBindings tree path).run log = .ok table log := by
  obtain ⟨table, htable, hentries⟩ := h.bindings_eq hplain hnodup
  have hdecode : FileTree.decodeText text.toUTF8 = .ok text := by
    rw [FileTree.decodeText, Utf8.decode_toUTF8]
    show Except.ok (String.ofList (unifyBreaks text.toList)) = _
    rw [unifyBreaks_eq_self (h.not_mem hplain), String.ofList_toList]
  refine ⟨table, hentries, fun log => ?_⟩
  unfold loadBindings
  simp only [hfile, hdecode, readBindings, htable]
  rw [h.parse_eq hplain]
  rfl

end TagGrammar
