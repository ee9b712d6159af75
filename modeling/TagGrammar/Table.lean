/-!
# Tables

A table holds values under distinct names and keeps the order in which the names were first
entered. Entering a name again replaces its value and keeps its place.
-/

namespace TagGrammar

/-- Values under distinct names, in the order of first entry. -/
structure Table (α : Type) where
  entries : List (String × α)
  nodup : (entries.map Prod.fst).Nodup

namespace Table

variable {α : Type}

/-- The names of a table, in order. -/
def keys (t : Table α) : List String :=
  t.entries.map Prod.fst

def values (t : Table α) : List α :=
  t.entries.map Prod.snd

def size (t : Table α) : Nat :=
  t.entries.length

def empty : Table α :=
  ⟨[], List.nodup_nil⟩

def get? (t : Table α) (key : String) : Option α :=
  t.entries.lookup key

def contains (t : Table α) (key : String) : Bool :=
  t.keys.contains key

/-- Puts a value in the place of the one a name has. -/
def replaceEntry (key : String) (value : α) (entry : String × α) : String × α :=
  if entry.1 = key then (key, value) else entry

@[simp] theorem map_fst_replaceEntry (entries : List (String × α)) (key : String) (value : α) :
    (entries.map (replaceEntry key value)).map Prod.fst = entries.map Prod.fst := by
  induction entries with
  | nil => rfl
  | cons entry rest ih =>
    by_cases h : entry.1 = key <;> simp_all [replaceEntry]

def insert (t : Table α) (key : String) (value : α) : Table α :=
  if h : key ∈ t.keys then
    ⟨t.entries.map (replaceEntry key value), by
      rw [map_fst_replaceEntry]; exact t.nodup⟩
  else
    ⟨t.entries ++ [(key, value)], by
      rw [List.map_append, List.nodup_append]
      refine ⟨t.nodup, by simp, ?_⟩
      intro a ha b hb hab
      simp only [List.map_cons, List.map_nil, List.mem_singleton] at hb
      exact h (hb ▸ hab ▸ ha)⟩

/-- Enters the values of a second table, one after the other. -/
def update (t other : Table α) : Table α :=
  other.entries.foldl (fun table entry => table.insert entry.1 entry.2) t

def ofList (entries : List (String × α)) : Table α :=
  entries.foldl (fun table entry => table.insert entry.1 entry.2) empty

/-! ## Names and values after an entry -/

theorem keys_insert (t : Table α) (key : String) (value : α) :
    (t.insert key value).keys = if key ∈ t.keys then t.keys else t.keys ++ [key] := by
  by_cases h : key ∈ t.keys
  · simp only [insert, h, dif_pos, if_pos]
    exact map_fst_replaceEntry t.entries key value
  · simp only [insert, h, dif_neg, if_neg, not_false_iff]
    simp [keys]

theorem lookup_replaceEntry (entries : List (String × α)) (key : String) (value : α)
    (name : String) :
    (entries.map (replaceEntry key value)).lookup name =
      if name = key then (entries.lookup name).map fun _ => value else entries.lookup name := by
  induction entries with
  | nil => simp
  | cons entry rest ih =>
    obtain ⟨k, v⟩ := entry
    rw [List.map_cons]
    by_cases hk : k = key
    · subst hk
      by_cases hn : name = k
      · subst hn
        simp [replaceEntry]
      · have hb : (name == k) = false := beq_eq_false_iff_ne.2 hn
        simpa [replaceEntry, List.lookup_cons, hb, hn] using ih
    · by_cases hn : name = k
      · subst hn
        simp [replaceEntry, hk]
      · have hb : (name == k) = false := beq_eq_false_iff_ne.2 hn
        simpa [replaceEntry, List.lookup_cons, hb, hk] using ih

theorem lookup_isSome_iff (entries : List (String × α)) (name : String) :
    (entries.lookup name).isSome ↔ name ∈ entries.map Prod.fst := by
  induction entries with
  | nil => simp
  | cons entry rest ih =>
    obtain ⟨k, v⟩ := entry
    by_cases hn : name = k
    · subst hn
      simp
    · have hb : (name == k) = false := beq_eq_false_iff_ne.2 hn
      rw [List.map_cons, List.mem_cons, ← ih]
      simp [List.lookup_cons, hb, hn]

/-- The value just entered is found, and the others are as before. -/
@[simp, grind =] theorem get?_insert (t : Table α) (key : String) (value : α) (name : String) :
    (t.insert key value).get? name = if name = key then some value else t.get? name := by
  by_cases h : key ∈ t.keys
  · simp only [insert, h, dif_pos, get?, lookup_replaceEntry]
    by_cases hn : name = key
    · subst hn
      have := (lookup_isSome_iff t.entries name).2 h
      cases hl : t.entries.lookup name <;> simp_all
    · simp [hn]
  · simp only [insert, h, dif_neg, not_false_iff, get?, List.lookup_append]
    by_cases hn : name = key
    · subst hn
      have : ¬ (t.entries.lookup name).isSome := fun hs => h ((lookup_isSome_iff _ _).1 hs)
      cases hl : t.entries.lookup name <;> simp_all
    · simp [hn, List.lookup_cons, beq_eq_false_iff_ne.2 hn]

/-- A name has a value exactly if it is among the names. -/
@[simp] theorem get?_isSome_iff (t : Table α) (name : String) : (t.get? name).isSome ↔ name ∈ t.keys :=
  lookup_isSome_iff t.entries name

end Table

end TagGrammar
