/-!
# Maps sorted by name

Request metadata and the obligations of a key are unordered by meaning and are always written in
ascending order of their names.  Names are compared code point by code point, which is also the
order of their UTF-8 bytes.  `SortedMap` keeps that order at all times, so a map has exactly one
representation; the ascending order, and with it that no name occurs twice, is part of the type.

* `insertSorted` — puts an entry where its name belongs, over an entry of that name if there is one.
* **`pairwise_insertSorted`** — ascending entries stay ascending.
-/

namespace SealedChunk

/-- Puts an entry where its name belongs, in place of an entry with that name. -/
def insertSorted {α : Type} (name : String) (value : α) : List (String × α) → List (String × α)
  | [] => [(name, value)]
  | (n, v) :: rest =>
    if name < n then (name, value) :: (n, v) :: rest
    else if n < name then (n, v) :: insertSorted name value rest
    else (n, value) :: rest

theorem mem_names_insertSorted {α : Type} {name : String} {value : α} {entries : List (String × α)}
    {other : String} (h : other ∈ (insertSorted name value entries).map Prod.fst) :
    other = name ∨ other ∈ entries.map Prod.fst := by
  induction entries with
  | nil => simpa [insertSorted] using h
  | cons entry rest ih =>
    rw [insertSorted] at h
    split at h
    · simpa using h
    · split at h
      · simp only [List.map_cons, List.mem_cons] at h ⊢
        rcases h with h | h
        · exact .inr (.inl h)
        · exact (ih h).imp_right .inr
      · exact .inr (by simpa using h)

/-- Inserting keeps the names ascending. -/
theorem pairwise_insertSorted {α : Type} {entries : List (String × α)} (name : String) (value : α)
    (h : (entries.map Prod.fst).Pairwise (· < ·)) :
    ((insertSorted name value entries).map Prod.fst).Pairwise (· < ·) := by
  induction entries with
  | nil => simp [insertSorted]
  | cons entry rest ih =>
    simp only [List.map_cons, List.pairwise_cons] at h
    rw [insertSorted]
    split
    · rename_i hlt
      simp only [List.map_cons, List.pairwise_cons, List.mem_cons, forall_eq_or_imp]
      exact ⟨⟨hlt, fun a ha => String.lt_trans hlt (h.1 a ha)⟩, h.1, h.2⟩
    · split
      · rename_i hgt
        simp only [List.map_cons, List.pairwise_cons]
        refine ⟨fun a ha => ?_, ih h.2⟩
        rcases mem_names_insertSorted ha with rfl | ha
        · exact hgt
        · exact h.1 a ha
      · simpa using h

/-- An entry with a name above all others goes to the end. -/
theorem insertSorted_of_lt {α : Type} {entries : List (String × α)} {name : String} (value : α)
    (h : ∀ n ∈ entries.map Prod.fst, n < name) :
    insertSorted name value entries = entries ++ [(name, value)] := by
  induction entries with
  | nil => rfl
  | cons entry rest ih =>
    simp only [List.map_cons, List.mem_cons, forall_eq_or_imp] at h
    simp [insertSorted, String.lt_asymm h.1, h.1, ih h.2]

/-- A map from names to values in ascending order of the names. -/
structure SortedMap (α : Type) where
  entries : List (String × α)
  ascending : (entries.map Prod.fst).Pairwise (· < ·)

namespace SortedMap

variable {α : Type}

theorem ext {m n : SortedMap α} (h : m.entries = n.entries) : m = n := by
  cases m; cases n; simp_all

instance [DecidableEq α] : DecidableEq (SortedMap α) := fun m n =>
  decidable_of_iff (m.entries = n.entries) ⟨ext, fun h => h ▸ rfl⟩

/-- The map without entries. -/
def empty : SortedMap α := ⟨[], by simp⟩

instance : Inhabited (SortedMap α) := ⟨empty⟩

/-- Gives a name its value. -/
def insert (m : SortedMap α) (name : String) (value : α) : SortedMap α :=
  ⟨insertSorted name value m.entries, pairwise_insertSorted name value m.ascending⟩

/-- The map that arises from inserting the entries one after the other: the last value of a name
counts. -/
def ofList (entries : List (String × α)) : SortedMap α :=
  entries.foldl (fun m entry => m.insert entry.1 entry.2) empty

/-- Entries that ascend already are the entries of the map built from them. -/
theorem entries_foldl_insert (entries : List (String × α)) (m : SortedMap α)
    (h : ((m.entries ++ entries).map Prod.fst).Pairwise (· < ·)) :
    (entries.foldl (fun m entry => m.insert entry.1 entry.2) m).entries = m.entries ++ entries := by
  induction entries generalizing m with
  | nil => simp
  | cons entry rest ih =>
    have hlt : ∀ n ∈ m.entries.map Prod.fst, n < entry.1 := by
      intro n hn
      simp only [List.map_append, List.map_cons, List.pairwise_append] at h
      exact h.2.2 n hn entry.1 (by simp)
    have hins : (m.insert entry.1 entry.2).entries = m.entries ++ [entry] :=
      insertSorted_of_lt entry.2 hlt
    rw [List.foldl_cons, ih _ (by simpa [hins] using h), hins]
    simp

/-- A map is rebuilt from its entries. -/
theorem ofList_entries (m : SortedMap α) : ofList m.entries = m := by
  refine ext ((entries_foldl_insert m.entries empty ?_).trans ?_)
  · simpa [empty] using m.ascending
  · rfl

end SortedMap

end SealedChunk
