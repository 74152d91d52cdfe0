import Mathlib.Data.List.Induction
import Mathlib.Tactic.SplitIfs
import SealedChunk.OrderedMap

/-!
# What insertions one after the other add up to

A map that is built from a list of entries may be given a name more than once.  Then the first
occurrence decides where the name stands and the last one decides its value: the map keeps a place
once it is taken, and a value only until the next one comes.

* `names_ofList` — the names, each at its first occurrence.
* `find?_ofList` — the values, each from its last occurrence.
-/

namespace SealedChunk.OrderedMap

variable {α : Type}

lemma names_insert (m : OrderedMap α) (name : String) (value : α) :
    (m.insert name value).names = if name ∈ m.names then m.names else m.names ++ [name] := by
  split_ifs with h
  · exact m.names_insert_of_mem value h
  · exact m.names_insert_of_not_mem value h

lemma eraseDups_concat (names : List String) (name : String) :
    (names ++ [name]).eraseDups
      = if name ∈ names then names.eraseDups else names.eraseDups ++ [name] := by
  rw [List.eraseDups_append]
  split_ifs with h
  · simp [List.removeAll, h]
  · simp [List.removeAll, h, List.eraseDups_cons]

lemma ofList_concat (entries : List (String × α)) (entry : String × α) :
    ofList (entries ++ [entry]) = (ofList entries).insert entry.1 entry.2 := by
  rw [ofList, List.foldl_append]
  rfl

/-- Names stand where they occur first. -/
theorem names_ofList (entries : List (String × α)) :
    (ofList entries).names = (entries.map Prod.fst).eraseDups := by
  -- from the end of the list, since the last entry is inserted last
  induction entries using List.reverseRecOn with
  | nil => rfl
  | append_singleton entries entry ih =>
    have hmem : entry.1 ∈ (ofList entries).names ↔ entry.1 ∈ entries.map Prod.fst := by
      rw [ih, List.mem_eraseDups]
    rw [ofList_concat, names_insert, List.map_append, List.map_cons, List.map_nil,
      eraseDups_concat, ih]
    simp only [← ih, hmem]

/-- Names have the value that they are given last. -/
theorem find?_ofList (entries : List (String × α)) (name : String) :
    (ofList entries).find? name = findEntry? name entries.reverse := by
  induction entries using List.reverseRecOn with
  | nil => rfl
  | append_singleton entries entry ih =>
    rw [ofList_concat, find?_insert, ih, List.reverse_concat]
    rfl

end SealedChunk.OrderedMap
