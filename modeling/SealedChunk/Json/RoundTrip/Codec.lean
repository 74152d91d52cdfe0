import SealedChunk.Json.Codec
import SealedChunk.Json.RoundTrip.Collection

/-!
# Codecs that carry values faithfully

A codec carries a value faithfully if its reader gets the value back from the text that its writer
made, whatever follows that text.  Only what could be more of a number must not follow.

* `Codec.Faithful` — a codec carries a value, if so many brackets may be opened.
* `faithful_text`, `faithful_int32`, … — values without parts.
* `faithful_list`, `faithful_ordered`, `faithful_sorted` — arrays and objects of faithful parts.
* **`decode_encode`** — a value that is carried faithfully is read back from its whole text.
-/

namespace SealedChunk.Json

theorem ne_of_beginsNumber {c d : Char} (h : beginsNumber c = true) (hd : beginsNumber d = false) :
    c ≠ d := by
  rintro rfl
  exact absurd h (by simp [hd])

theorem beginsElement_of_beginsNumber {c : Char} (s : List Char) (h : beginsNumber c = true) :
    beginsElement (c :: s) = true := by
  have hne {d : Char} (hd : beginsNumber d = false) : c ≠ d := ne_of_beginsNumber h hd
  simp [beginsElement, isJsonBlank, hne (d := ' ') rfl, hne (d := '\t') rfl, hne (d := '\n') rfl,
    hne (d := '\r') rfl, hne (d := ']') rfl]

theorem integer_eq_cons (n : Int) :
    ∃ c s, Decimal.integer n = c :: s ∧ beginsNumber c = true := by
  cases n with
  | ofNat n =>
    obtain ⟨c, s, hs, -⟩ := Decimal.exists_digits_eq_cons n
    have hc : Decimal.isDigit c = true := Decimal.isDigit_of_mem_digits (hs ▸ List.mem_cons_self)
    exact ⟨c, s, hs, by simp [beginsNumber, hc]⟩
  | negSucc n => exact ⟨'-', Decimal.digits (n + 1), rfl, rfl⟩

namespace Codec

variable {α : Type}

/-- The codec carries the value, if as many brackets may be opened as the levels allow. -/
structure Faithful (codec : Codec α) (levels : Nat) (x : α) : Prop where
  begins : beginsElement (codec.write x) = true
  reads : ∀ rest, endsNumber rest = true → codec.read levels (codec.write x ++ rest) = .ok (x, rest)

/-! ### Values without parts -/

theorem faithful_text (levels : Nat) (s : String) : text.Faithful levels s := by
  refine ⟨rfl, fun rest _ => ?_⟩
  obtain ⟨t, ht, hr⟩ := readText_writeText s rest
  show text.read levels (writeText s ++ rest) = _
  rw [ht]
  exact hr

theorem faithful_flag (levels : Nat) (b : Bool) : flag.Faithful levels b := by
  cases b <;> exact ⟨rfl, fun _ _ => rfl⟩

/-- Whole numbers of a range that 64 bits can hold. -/
theorem faithful_integer {ofInt? : Int → Option α} {toInt : α → Int} (levels : Nat) {x : α}
    (hx : ofInt? (toInt x) = some x) (hlow : -0x8000000000000000 ≤ toInt x)
    (hhigh : toInt x < 0x10000000000000000) : (integer ofInt? toInt).Faithful levels x := by
  obtain ⟨c, s, hs, hc⟩ := integer_eq_cons (toInt x)
  constructor
  · show beginsElement (Decimal.integer (toInt x)) = true
    rw [hs]
    exact beginsElement_of_beginsNumber s hc
  · intro rest hrest
    have hnumber := readNumber_integer hlow hhigh hrest
    show (integer ofInt? toInt).read levels (Decimal.integer (toInt x) ++ rest) = _
    rw [hs, List.cons_append] at hnumber ⊢
    simp only [integer, if_pos hc, hnumber, hx]

theorem faithful_int32 (levels : Nat) (n : Int32) : int32.Faithful levels n := by
  have hlow := n.le_toInt
  have hhigh := n.toInt_lt
  refine faithful_integer levels ?_ (by omega) (by omega)
  rw [if_pos ⟨by omega, by omega⟩, Int32.ofInt_toInt]

theorem faithful_uint32 (levels : Nat) (n : UInt32) : uint32.Faithful levels n := by
  have hhigh := n.toNat_lt
  refine faithful_integer levels ?_ (by omega) (by omega)
  rw [if_pos ⟨by omega, by omega⟩, Int.toNat_natCast, UInt32.ofNat_toNat]

/-! ### Values with parts -/

theorem faithful_optional_none (codec : Codec α) (levels : Nat) :
    (optional codec).Faithful levels none := ⟨rfl, fun _ _ => rfl⟩

/-- A value is not taken for `null` if its text does not begin with that letter. -/
theorem faithful_optional_some {codec : Codec α} {levels : Nat} {x : α}
    (h : codec.Faithful levels x) (hletter : (codec.write x).head? ≠ some 'n') :
    (optional codec).Faithful levels (some x) := by
  refine ⟨h.begins, fun rest hrest => ?_⟩
  have hread := h.reads rest hrest
  have hbegins := h.begins
  show (optional codec).read levels (codec.write x ++ rest) = _
  generalize codec.write x = s at hread hbegins hletter
  cases s with
  | nil => simp [beginsElement] at hbegins
  | cons c s =>
    have hc : c ≠ 'n' := fun hc => hletter (by simp [hc])
    rw [List.cons_append] at hread ⊢
    simp only [optional]
    split
    · simp_all
    · rw [hread]
      rfl

theorem faithful_list {element : Codec α} {levels : Nat} {xs : List α}
    (h : ∀ x ∈ xs, element.Faithful levels x) : (list element).Faithful (levels + 1) xs := by
  refine ⟨rfl, fun rest _ => ?_⟩
  obtain ⟨s, hs, hr⟩ := readArray_writeArray (element.read levels) element.write
    (fun x hx => (h x hx).begins) (fun x hx => (h x hx).reads) rest
  show (list element).read (levels + 1) (writeArray (xs.map element.write) ++ rest) = _
  rw [hs]
  exact hr

/-- A member is put to the others. -/
theorem member_writeMember {σ : Type} {value : Codec α} (put : σ → String → α → σ) {levels : Nat}
    {x : α} (h : value.Faithful levels x) (gathered : σ) (name : String) {rest : List Char}
    (hrest : endsNumber rest = true) :
    value.member put levels gathered name (':' :: value.write x ++ rest)
      = .ok (put gathered name x, rest) := by
  have hcolon : skipColon (':' :: (value.write x ++ rest)) = .ok (value.write x ++ rest) :=
    skipColon_of_beginsElement (beginsElement_append rest h.begins)
  rw [List.cons_append, member, hcolon]
  simp only [h.reads rest hrest]
  rfl

/-- The object that lists some entries is read as the map that they are inserted into, one after the
other; a name may occur twice. -/
theorem read_ordered_writeObject {value : Codec α} {levels : Nat} {entries : List (String × α)}
    (h : ∀ entry ∈ entries, value.Faithful levels entry.2) (rest : List Char) :
    (ordered value).read (levels + 1)
        (writeObject (entries.map fun entry => writeMember entry.1 (value.write entry.2)) ++ rest)
      = .ok (OrderedMap.ofList entries, rest) := by
  obtain ⟨s, hs, hr⟩ := readObject_writeObject (value.member OrderedMap.insert levels) Prod.fst
    (fun entry => value.write entry.2) (fun gathered entry => gathered.insert entry.1 entry.2)
    (fun entries _ => ∀ entry ∈ entries, value.Faithful levels entry.2) entries OrderedMap.empty h
    (fun e es gathered hfits => ⟨fun entry he => hfits entry (List.mem_cons_of_mem e he),
      fun rest hrest =>
        member_writeMember OrderedMap.insert (hfits e List.mem_cons_self) gathered e.1 hrest⟩) rest
  rw [hs]
  exact hr

theorem faithful_ordered {value : Codec α} {levels : Nat} {m : OrderedMap α}
    (h : ∀ entry ∈ m.entries, value.Faithful levels entry.2) :
    (ordered value).Faithful (levels + 1) m := by
  refine ⟨rfl, fun rest _ => ?_⟩
  have hread := read_ordered_writeObject h rest
  rw [OrderedMap.ofList_entries] at hread
  exact hread

theorem faithful_sorted {value : Codec α} {levels : Nat} {m : SortedMap α}
    (h : ∀ entry ∈ m.entries, value.Faithful levels entry.2) :
    (sorted value).Faithful (levels + 1) m := by
  refine ⟨rfl, fun rest _ => ?_⟩
  obtain ⟨s, hs, hr⟩ := readObject_writeObject (value.member SortedMap.insert levels) Prod.fst
    (fun entry => value.write entry.2) (fun gathered entry => gathered.insert entry.1 entry.2)
    (fun entries _ => ∀ entry ∈ entries, value.Faithful levels entry.2) m.entries _ h
    (fun e es gathered hfits => ⟨fun entry he => hfits entry (List.mem_cons_of_mem e he),
      fun rest hrest =>
        member_writeMember SortedMap.insert (hfits e List.mem_cons_self) gathered e.1 hrest⟩) rest
  show (sorted value).read (levels + 1)
    (writeObject (m.entries.map fun entry => writeMember entry.1 (value.write entry.2)) ++ rest) = _
  rw [hs]
  exact hr.trans (by rw [← SortedMap.ofList, SortedMap.ofList_entries])

/-! ### Whole texts -/

/-- A text that is used up by the reader is the text of what was read. -/
theorem decode_of_read {codec : Codec α} {s : String} {x : α}
    (hbegins : beginsElement s.toList = true)
    (hread : codec.read maxLevels s.toList = .ok (x, [])) : codec.decode s = .ok x := by
  rw [decode, parse?, skipBlanks_of_beginsElement hbegins, hread]
  rfl

/-- A value that the codec carries faithfully is read back from its text. -/
theorem decode_encode {codec : Codec α} {x : α} (h : codec.Faithful maxLevels x) :
    codec.decode (codec.encode x) = .ok x := by
  have hread := h.reads [] rfl
  rw [List.append_nil] at hread
  refine decode_of_read ?_ ?_
  · rw [encode, String.toList_ofList]
    exact h.begins
  · rw [encode, String.toList_ofList]
    exact hread

end Codec

end SealedChunk.Json
