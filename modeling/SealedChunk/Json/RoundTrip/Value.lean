import SealedChunk.Json.RoundTrip.Codec

/-!
# Values of any shape are read back

A JSON value is carried faithfully if the reader may open as many brackets as the value needs, and
if its numbers are whole and within 64 bits: a double may lose its last place on the way.

* `Value.Fits` — the condition.
* **`faithful_value`** — it suffices.
-/

namespace SealedChunk.Json

namespace Value

/-- The value opens no more brackets inside each other than the levels allow, its numbers are whole
and within 64 bits, and the members of its objects ascend. -/
inductive Fits : (levels : Nat) → Value → Prop where
  | null {levels : Nat} : Fits levels .null
  | flag {levels : Nat} (b : Bool) : Fits levels (.flag b)
  | integer {levels : Nat} {n : Int} (hlow : -0x8000000000000000 ≤ n)
    (hhigh : n < 0x10000000000000000) : Fits levels (.number (.integer n))
  | text {levels : Nat} (s : String) : Fits levels (.text s)
  | array {levels : Nat} {elements : List Value} (h : ∀ v ∈ elements, Fits levels v) :
    Fits (levels + 1) (.array elements)
  | object {levels : Nat} {members : List (String × Value)}
    (hascending : (members.map Prod.fst).Pairwise (· < ·))
    (h : ∀ entry ∈ members, Fits levels entry.2) : Fits (levels + 1) (.object members)

theorem writeElements_eq_map (elements : List Value) :
    writeElements elements = elements.map write := by
  induction elements with
  | nil => rfl
  | cons v more ih => rw [writeElements, ih, List.map_cons]

theorem writeMembers_eq_map (members : List (String × Value)) :
    writeMembers members = members.map fun entry => writeMember entry.1 (write entry.2) := by
  induction members with
  | nil => rfl
  | cons entry more ih => rw [writeMembers, ih, List.map_cons]

/-- Reading a value at a character that opens no bracket is reading a value without parts. -/
theorem read_eq_readScalar (levels : Nat) {c : Char} (s : List Char) (hsquare : c ≠ '[')
    (hcurly : c ≠ '\x7b') : read levels (c :: s) = readScalar (c :: s) := by
  cases levels <;> simp [read, hsquare, hcurly]

theorem foldl_insertSorted {members : List (String × Value)}
    (h : (members.map Prod.fst).Pairwise (· < ·)) :
    members.foldl (fun gathered entry => insertSorted entry.1 entry.2 gathered) [] = members := by
  have hentries (m : SortedMap Value) :
      members.foldl (fun gathered entry => insertSorted entry.1 entry.2 gathered) m.entries
        = (members.foldl (fun m entry => m.insert entry.1 entry.2) m).entries := by
    clear h
    induction members generalizing m with
    | nil => rfl
    | cons entry rest ih => exact ih (m.insert entry.1 entry.2)
  exact (hentries SortedMap.empty).trans (SortedMap.entries_foldl_insert members SortedMap.empty h)

end Value

theorem Codec.faithful_value {levels : Nat} {v : Value} (h : v.Fits levels) :
    Codec.value.Faithful levels v := by
  induction h with
  | null =>
    exact ⟨rfl, fun rest _ => Value.read_eq_readScalar _ _ (by decide) (by decide)⟩
  | flag b =>
    cases b <;> exact ⟨rfl, fun rest _ => Value.read_eq_readScalar _ _ (by decide) (by decide)⟩
  | @integer levels n hlow hhigh =>
    obtain ⟨c, s, hs, hc⟩ := integer_eq_cons n
    have hne {d : Char} (hd : beginsNumber d = false) : c ≠ d := ne_of_beginsNumber hc hd
    constructor
    · show beginsElement (Decimal.integer n) = true
      rw [hs]
      exact beginsElement_of_beginsNumber s hc
    · intro rest hrest
      have hnumber := readNumber_integer hlow hhigh hrest
      show Value.read levels (Decimal.integer n ++ rest) = _
      rw [hs, List.cons_append] at hnumber ⊢
      rw [Value.read_eq_readScalar levels _ (hne rfl) (hne rfl), Value.readScalar, if_neg (hne rfl),
        if_neg (hne rfl), if_neg (by simp [hne (d := 't') rfl, hne (d := 'f') rfl]), if_pos hc,
        hnumber]
      rfl
  | @text levels s =>
    refine ⟨rfl, fun rest _ => ?_⟩
    obtain ⟨t, ht, hr⟩ := readText_writeText s rest
    show Value.read levels (writeText s ++ rest) = _
    rw [ht, Value.read_eq_readScalar levels _ (by decide) (by decide), Value.readScalar, if_pos rfl,
      hr]
    rfl
  | @array levels elements _ ih =>
    refine ⟨rfl, fun rest _ => ?_⟩
    obtain ⟨s, hs, hr⟩ := readArray_writeArray (Value.read levels) Value.write
      (fun v hv => (ih v hv).begins) (fun v hv => (ih v hv).reads) rest
    show Value.read (levels + 1) (Value.write (.array elements) ++ rest) = _
    rw [Value.write, Value.writeElements_eq_map, hs, Value.read, hr]
    rfl
  | @object levels members hascending _ ih =>
    refine ⟨rfl, fun rest _ => ?_⟩
    obtain ⟨s, hs, hr⟩ := readObject_writeObject (Value.readMember (Value.read levels)) Prod.fst
      (fun entry => Value.write entry.2)
      (fun gathered entry => insertSorted entry.1 entry.2 gathered)
      (fun entries _ => ∀ entry ∈ entries, Codec.value.Faithful levels entry.2) members [] ih
      (fun e es gathered hfits => ⟨fun entry he => hfits entry (List.mem_cons_of_mem e he),
        fun rest hrest => Codec.member_writeMember
          (fun gathered name v => insertSorted name v gathered)
          (hfits e List.mem_cons_self) gathered e.1 hrest⟩) rest
    show Value.read (levels + 1) (Value.write (.object members) ++ rest) = _
    rw [Value.write, Value.writeMembers_eq_map, hs, Value.read, hr,
      Value.foldl_insertSorted hascending]
    rfl

end SealedChunk.Json
