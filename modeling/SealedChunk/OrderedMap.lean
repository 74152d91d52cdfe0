/-!
# Maps that remember the order of arrival

Attributes are signed as text, so the order in which their names arrived is part of what a
signature covers.  `OrderedMap` keeps its entries in that order: a new name goes to the end, a
name that is already there gets its new value in place and moves nothing.  That no name occurs
twice is part of the type.

* `insert`, `find?`, `ofList` — the operations, each a recursion over the entries.
* `exchange` — an insertion that hands out the value that it replaces.
* **`find?_insert`** — what a look-up finds after an insertion.
* `names_insert_of_mem`, `names_insert_of_not_mem` — what an insertion does to the order.
-/

namespace SealedChunk

/-- Replaces the value of a name in place, or puts a new name at the end. -/
def insertEntry {α : Type} (name : String) (value : α) : List (String × α) → List (String × α)
  | [] => [(name, value)]
  | (n, v) :: rest => if n = name then (n, value) :: rest else (n, v) :: insertEntry name value rest

/-- The same, together with the value that is replaced. -/
def exchangeEntry {α : Type} (name : String) (value : α) :
    List (String × α) → Option α × List (String × α)
  | [] => (none, [(name, value)])
  | (n, v) :: rest =>
    if n = name then (some v, (n, value) :: rest)
    else
      let (previous, rest) := exchangeEntry name value rest
      (previous, (n, v) :: rest)

/-- The value of the first entry with a name. -/
def findEntry? {α : Type} (name : String) : List (String × α) → Option α
  | [] => none
  | (n, v) :: rest => if n = name then some v else findEntry? name rest

section Entries

variable {α : Type} {entries : List (String × α)} {name : String}

theorem names_insertEntry_of_mem (value : α) (h : name ∈ entries.map Prod.fst) :
    (insertEntry name value entries).map Prod.fst = entries.map Prod.fst := by
  induction entries with
  | nil => simp at h
  | cons entry rest ih =>
    by_cases hn : entry.1 = name
    · simp [insertEntry, hn]
    · simp [insertEntry, hn, ih (by simpa [Ne.symm hn] using h)]

theorem insertEntry_of_not_mem (value : α) (h : name ∉ entries.map Prod.fst) :
    insertEntry name value entries = entries ++ [(name, value)] := by
  induction entries with
  | nil => rfl
  | cons entry rest ih =>
    simp only [List.map_cons, List.mem_cons, not_or] at h
    simp [insertEntry, Ne.symm h.1, ih h.2]

theorem findEntry?_eq_some_iff {value : α} (h : (entries.map Prod.fst).Nodup) :
    findEntry? name entries = some value ↔ (name, value) ∈ entries := by
  induction entries with
  | nil => exact iff_of_false (by rintro ⟨⟩) (by simp)
  | cons entry rest ih =>
    obtain ⟨n, v⟩ := entry
    rw [List.map_cons, List.nodup_cons] at h
    rw [List.mem_cons, Prod.mk.injEq, findEntry?]
    by_cases hn : n = name
    · subst hn
      have hmem : (n, value) ∉ rest := fun hmem => h.1 (List.mem_map.2 ⟨_, hmem, rfl⟩)
      simp [hmem, eq_comm]
    · simp [hn, Ne.symm hn, ih h.2]

/-- An insertion never makes a name occur twice. -/
theorem nodup_insertEntry (value : α) (h : (entries.map Prod.fst).Nodup) :
    ((insertEntry name value entries).map Prod.fst).Nodup := by
  by_cases hm : name ∈ entries.map Prod.fst
  · rwa [names_insertEntry_of_mem value hm]
  · rw [insertEntry_of_not_mem value hm, List.map_append, List.nodup_append]
    refine ⟨h, by simp, ?_⟩
    intro a ha b hb hab
    simp only [List.map_cons, List.map_nil, List.mem_singleton] at hb
    exact hm (hb ▸ hab ▸ ha)

theorem findEntry?_insertEntry (value : α) (other : String) :
    findEntry? other (insertEntry name value entries)
      = if name = other then some value else findEntry? other entries := by
  induction entries with
  | nil => simp [insertEntry, findEntry?]
  | cons entry rest ih =>
    by_cases hn : entry.1 = name
    · by_cases ho : name = other <;> simp [insertEntry, findEntry?, hn, ho]
    · by_cases ho : entry.1 = other
      · have : name ≠ other := fun h => hn (ho.trans h.symm)
        simp [insertEntry, findEntry?, ho, this, Ne.symm this]
      · simp [insertEntry, findEntry?, hn, ho, ih]

/-- An exchange hands out what a look-up finds. -/
theorem fst_exchangeEntry (value : α) :
    (exchangeEntry name value entries).1 = findEntry? name entries := by
  induction entries with
  | nil => rfl
  | cons entry rest ih => by_cases hn : entry.1 = name <;> simp [exchangeEntry, findEntry?, hn, ih]

/-- An exchange leaves what an insertion leaves. -/
theorem snd_exchangeEntry (value : α) :
    (exchangeEntry name value entries).2 = insertEntry name value entries := by
  induction entries with
  | nil => rfl
  | cons entry rest ih => by_cases hn : entry.1 = name <;> simp [exchangeEntry, insertEntry, hn, ih]

theorem nodup_exchangeEntry (value : α) (h : (entries.map Prod.fst).Nodup) :
    ((exchangeEntry name value entries).2.map Prod.fst).Nodup := by
  rw [snd_exchangeEntry]
  exact nodup_insertEntry value h

end Entries

/-- A map from names to values that keeps its entries in the order in which their names arrived. -/
structure OrderedMap (α : Type) where
  entries : List (String × α)
  nodup : (entries.map Prod.fst).Nodup

namespace OrderedMap

variable {α : Type}

theorem ext {m n : OrderedMap α} (h : m.entries = n.entries) : m = n := by
  cases m; cases n; simp_all

instance [DecidableEq α] : DecidableEq (OrderedMap α) := fun m n =>
  decidable_of_iff (m.entries = n.entries) ⟨ext, fun h => h ▸ rfl⟩

/-- The map without entries. -/
def empty : OrderedMap α := ⟨[], by simp⟩

instance : Inhabited (OrderedMap α) := ⟨empty⟩

/-- The names, in order of arrival. -/
def names (m : OrderedMap α) : List String := m.entries.map Prod.fst

/-- How many names there are. -/
def size (m : OrderedMap α) : Nat := m.entries.length

/-- Whether there is no name at all. -/
def isEmpty (m : OrderedMap α) : Bool := m.entries.isEmpty

/-- Gives a name its value: in place if the name is there, else at the end. -/
def insert (m : OrderedMap α) (name : String) (value : α) : OrderedMap α :=
  ⟨insertEntry name value m.entries, nodup_insertEntry value m.nodup⟩

/-- Gives a name its value as `insert` does, and hands out the value that it had. -/
def exchange (m : OrderedMap α) (name : String) (value : α) : Option α × OrderedMap α :=
  let outcome := exchangeEntry name value m.entries
  (outcome.1, ⟨outcome.2, nodup_exchangeEntry value m.nodup⟩)

/-- The value of a name. -/
def find? (m : OrderedMap α) (name : String) : Option α := findEntry? name m.entries

/-- Whether a name has a value. -/
def contains (m : OrderedMap α) (name : String) : Bool := (m.find? name).isSome

/-- The map that arises from inserting the entries one after the other. -/
def ofList (entries : List (String × α)) : OrderedMap α :=
  entries.foldl (fun m entry => m.insert entry.1 entry.2) empty

theorem exchange_eq (m : OrderedMap α) (name : String) (value : α) :
    m.exchange name value = (m.find? name, m.insert name value) :=
  Prod.ext (fst_exchangeEntry value) (ext (snd_exchangeEntry value))

/-- What a name finds stands beside it. -/
theorem find?_eq_some_iff (m : OrderedMap α) {name : String} {value : α} :
    m.find? name = some value ↔ (name, value) ∈ m.entries :=
  findEntry?_eq_some_iff m.nodup

/-- A name finds the value it was last given; other names find what they found before. -/
theorem find?_insert (m : OrderedMap α) (name other : String) (value : α) :
    (m.insert name value).find? other = if name = other then some value else m.find? other :=
  findEntry?_insertEntry value other

theorem find?_insert_eq_some_iff (m : OrderedMap α) {name other : String} {value found : α} :
    (m.insert name value).find? other = some found
      ↔ name = other ∧ value = found ∨ name ≠ other ∧ m.find? other = some found := by
  rw [find?_insert]
  by_cases h : name = other <;> simp [h]

/-- Giving a value to a name that is there moves nothing. -/
theorem names_insert_of_mem (m : OrderedMap α) {name : String} (value : α) (h : name ∈ m.names) :
    (m.insert name value).names = m.names :=
  names_insertEntry_of_mem value h

/-- A new name goes to the end. -/
theorem names_insert_of_not_mem (m : OrderedMap α) {name : String} (value : α)
    (h : name ∉ m.names) : (m.insert name value).names = m.names ++ [name] := by
  have := insertEntry_of_not_mem value h
  simp [names, insert, this]

theorem entries_foldl_insert (entries : List (String × α)) (m : OrderedMap α)
    (h : ((m.entries ++ entries).map Prod.fst).Nodup) :
    (entries.foldl (fun m entry => m.insert entry.1 entry.2) m).entries = m.entries ++ entries := by
  induction entries generalizing m with
  | nil => simp
  | cons entry rest ih =>
    have hnew : entry.1 ∉ m.entries.map Prod.fst := by
      simp only [List.map_append, List.map_cons, List.nodup_append] at h
      exact fun hm => h.2.2 _ hm entry.1 (by simp) rfl
    have hins : (m.insert entry.1 entry.2).entries = m.entries ++ [entry] :=
      insertEntry_of_not_mem entry.2 hnew
    rw [List.foldl_cons, ih _ (by simpa [hins] using h), hins]
    simp

/-- Entries with different names are the entries of the map built from them. -/
theorem entries_ofList {entries : List (String × α)} (h : (entries.map Prod.fst).Nodup) :
    (ofList entries).entries = entries := by
  simpa [ofList, empty] using entries_foldl_insert entries empty (by simpa [empty] using h)

/-- A map is rebuilt from its entries. -/
theorem ofList_entries (m : OrderedMap α) : ofList m.entries = m := ext (entries_ofList m.nodup)

end OrderedMap

end SealedChunk
