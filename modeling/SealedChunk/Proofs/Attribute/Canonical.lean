import SealedChunk.Attribute.Map
import SealedChunk.Json.RoundTrip.Codec
import SealedChunk.Proofs.Map.Insertion

/-!
# Canonical text says all there is to say

The canonical text of a map is a compact object that lists its entries: names and values between
quotes, commas between entries and between values, and nothing else.  Such an object can be written
down for any list of entries, and it is read as what inserting them one after the other leads to.
For the entries of a map that is the map itself, in its order.  So reading undoes writing, and
**no two maps share a canonical text**: whoever signs the text signs the map.

* `listing` — the compact object of a list of entries, put together from its tokens.
* `parse_listing` — how it is read, names that occur twice included.
* `parse_canonical` — reading undoes writing.
* **`parse_listing_and_canonical`** — both, with the order and the values that a list leads to.
-/

namespace SealedChunk.AttributeMap

open Json

/-! ## The text, token by token -/

/-- A string between its quotes. -/
def spellText (s : String) : String := "\"" ++ String.ofList (s.toList.flatMap escape) ++ "\""

/-- A list of values. -/
def spellValues (values : List String) : String :=
  "[" ++ ",".intercalate (values.map spellText) ++ "]"

/-- The compact object of some entries, in their order. -/
def listing (entries : List (String × List String)) : String :=
  "\x7b"
    ++ ",".intercalate (entries.map fun entry => spellText entry.1 ++ ":" ++ spellValues entry.2)
    ++ "\x7d"

lemma separated_eq_intercalate (parts : List (List Char)) :
    separated parts = [','].intercalate parts := by
  induction parts with
  | nil => rfl
  | cons part more ih =>
    cases more with
    | nil => simp [separated, List.intercalate]
    | cons other more =>
      rw [separated_cons_cons, ih, List.intercalate_cons_cons, List.append_assoc]
      rfl

lemma toList_spellText (s : String) : (spellText s).toList = writeText s := by
  simp [spellText, writeText]

lemma toList_spellValues (values : List String) :
    (spellValues values).toList = valuesCodec.write values := by
  have hparts : (values.map spellText).map String.toList = values.map writeText := by
    simp [toList_spellText]
  rw [spellValues, String.toList_append, String.toList_append, String.toList_intercalate, hparts]
  show '[' :: [','].intercalate (values.map writeText) ++ [']'] = writeArray (values.map writeText)
  rw [writeArray, separated_eq_intercalate]

lemma toList_listing (entries : List (String × List String)) : (listing entries).toList
    = writeObject (entries.map fun entry => writeMember entry.1 (valuesCodec.write entry.2)) := by
  have hparts : (entries.map fun entry => spellText entry.1 ++ ":" ++ spellValues entry.2).map
      String.toList = entries.map fun entry => writeMember entry.1 (valuesCodec.write entry.2) := by
    simp [toList_spellText, toList_spellValues, writeMember]
  rw [listing, String.toList_append, String.toList_append, String.toList_intercalate, hparts,
    writeObject, separated_eq_intercalate]
  rfl

/-! ## Reading it -/

lemma faithful_valuesCodec (levels : Nat) (values : List String) :
    valuesCodec.Faithful (levels + 1) values :=
  Codec.faithful_list fun s _ => Codec.faithful_text levels s

/-- A listing is read as the map that its entries lead to. -/
theorem parse_listing (entries : List (String × List String)) :
    parse (listing entries) = .ok (OrderedMap.ofList entries) := by
  have hblank : Text.isBlankText (listing entries) = false := by
    rw [Text.isBlankText, toList_listing]
    rfl
  have hvalues : ∀ entry ∈ entries, valuesCodec.Faithful 126 entry.2 :=
    fun entry _ => faithful_valuesCodec 125 entry.2
  have hread := Codec.read_ordered_writeObject hvalues []
  rw [List.append_nil, ← toList_listing] at hread
  have hbegins : beginsElement (listing entries).toList = true := by
    rw [toList_listing]
    rfl
  rw [parse, hblank]
  exact Codec.decode_of_read hbegins hread

lemma canonical_eq_listing (m : AttributeMap) : m.canonical = listing m.entries := by
  rw [← String.toList_inj, toList_listing, canonical, Codec.encode, String.toList_ofList]
  rfl

/-- Canonical text is read as the map that it was made from. -/
theorem parse_canonical (m : AttributeMap) : parse m.canonical = .ok m := by
  rw [canonical_eq_listing, parse_listing, OrderedMap.ofList_entries]

lemma canonical_inj {m n : AttributeMap} : m.canonical = n.canonical ↔ m = n := by
  constructor
  · intro h
    have hparse := parse_canonical m
    rw [h, parse_canonical n] at hparse
    exact (Except.ok.inj hparse).symm
  · exact congrArg canonical

/-- **Canonical text is read back exactly.**  A compact object is read as its entries inserted in
order, each name where it occurs first and with the values that it is given last.  The canonical
text of a map is such an object, so it is read as the map, and other maps have other texts. -/
theorem parse_listing_and_canonical :
    (∀ entries, ∃ m, parse (listing entries) = .ok m ∧ m = OrderedMap.ofList entries
        ∧ m.names = (entries.map Prod.fst).eraseDups
        ∧ ∀ name, m.find? name = findEntry? name entries.reverse)
      ∧ ∀ m : AttributeMap, m.canonical = listing m.entries ∧ parse m.canonical = .ok m
        ∧ ∀ n : AttributeMap, m.canonical = n.canonical ↔ m = n := by
  constructor
  · intro entries
    exact ⟨_, parse_listing entries, rfl, OrderedMap.names_ofList entries,
      OrderedMap.find?_ofList entries⟩
  · intro m
    exact ⟨canonical_eq_listing m, parse_canonical m, fun n => canonical_inj⟩

end SealedChunk.AttributeMap
