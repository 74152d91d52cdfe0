import SealedChunk.Proofs.Attribute.Canonical
import SealedChunk.Proofs.Attribute.Slots

/-!
# Opening divides a map

A map that arrives is gone through entry by entry.  An attribute that is not protected is taken
over, one that is protected and opens is taken over with what was sealed in it, and one that does
not open is set aside as it arrived.  So there are two lists in the end, and `Divides` says what is
to be true of them: together they have every name of the map and no other, each of them has its
names in the order of the map, and on which side a name is, and with which values, is a matter of
that one entry.

None of it can stop a slot or change what its signature is worth.

* `openEntry_eq_ok_iff`, `openEntry_eq_error_iff` — one entry.
* `names_perm`, `setAside_sublist` — the entries of a map, by induction over them.
* `divides_openMap` — a whole map.
* `unopened_openMap_eq_nil_iff`, `names_openMap_eq_iff` — the maps that open in full.
* **`decodeSlot_divides`** — a slot: what stops it, how it is divided, what its signature is worth.
-/

namespace SealedChunk.Attribute

open Crypto

variable {key secret : Bytes} {owner name : String} {values received : List String}
  {unopened : Unopened}

/-! ## One entry -/

/-- What does not open is reported under its name. -/
lemma name_of_unprotect {error : ProtectError}
    (h : unprotect name values owner key = .error error) : error.name = name := by
  revert h
  fun_cases unprotect name values owner key
  case case4 =>
    intro h
    obtain ⟨fault, -, rfl⟩ := mapError_eq_error_iff.1 h
    rfl
  all_goals
    rintro ⟨⟩
    rfl

lemma openEntry_of_unprotected (hname : isProtected name = false) (values : List String) :
    openEntry key owner (name, values) = .ok (name, values) := by
  rw [openEntry, hname]
  rfl

/-- A protected entry opens if its values do. -/
lemma openEntry_eq_ok_iff (hname : isProtected name = true) :
    openEntry key owner (name, received) = .ok (name, values) ↔
      unprotect name received owner key = .ok values := by
  rw [openEntry, if_pos hname]
  dsimp only
  cases unprotect name received owner key <;> simp

/-- Only protected entries are set aside, with the values that arrived. -/
lemma openEntry_eq_error_iff :
    openEntry key owner (name, received) = .error unopened ↔
      isProtected name = true ∧ received = unopened.values
        ∧ unprotect name received owner key = .error unopened.error := by
  rw [openEntry]
  obtain ⟨kept, error⟩ := unopened
  cases hname : isProtected name with
  | false => simp
  | true =>
    dsimp only
    cases unprotect name received owner key <;> simp

/-! ## The entries of a map -/

/-- What is set aside of an entry, if anything is. -/
def setAside (key : Bytes) (owner : String) (entry : String × List String) : Option Unopened :=
  match openEntry key owner entry with
  | .ok _ => none
  | .error unopened => some unopened

lemma setAside_eq_some_iff {entry : String × List String} :
    setAside key owner entry = some unopened ↔ openEntry key owner entry = .error unopened := by
  rw [setAside]
  cases openEntry key owner entry <;> simp

/-- What is set aside has the name and the values of the entry that it comes from. -/
lemma eq_of_setAside {entry : String × List String} (h : setAside key owner entry = some unopened) :
    (unopened.error.name, unopened.values) = entry := by
  obtain ⟨-, hvalues, herror⟩ := openEntry_eq_error_iff.1 (setAside_eq_some_iff.1 h)
  rw [name_of_unprotect herror, ← hvalues]

lemma unopened_openMap (m : AttributeMap) (key : Bytes) (owner : String) :
    (openMap m key owner).unopened = m.entries.filterMap (setAside key owner) := by
  rw [openMap]
  dsimp only
  rw [List.filterMap_map]
  rfl

lemma setAside_sublist (key : Bytes) (owner : String) (entries : List (String × List String)) :
    ((entries.filterMap (setAside key owner)).map fun u => (u.error.name, u.values)).Sublist
      entries := by
  induction entries with
  | nil => exact .slnil
  | cons entry rest ih =>
    rw [List.filterMap_cons]
    cases haside : setAside key owner entry with
    | none => exact ih.cons entry
    | some unopened =>
      rw [List.map_cons, eq_of_setAside haside]
      exact ih.cons_cons entry

/-- An entry is taken over or set aside, under its name. -/
lemma names_perm (key : Bytes) (owner : String) (entries : List (String × List String)) :
    (((entries.map (openEntry key owner)).filterMap Except.toOption).map Prod.fst
        ++ (entries.filterMap (setAside key owner)).map (·.error.name)).Perm
      (entries.map Prod.fst) := by
  induction entries with
  | nil => exact .nil
  | cons entry rest ih =>
    rw [List.map_cons, List.map_cons, List.filterMap_cons, List.filterMap_cons]
    cases hopened : openEntry key owner entry with
    | ok opened =>
      have haside : setAside key owner entry = none := by rw [setAside, hopened]
      rw [haside]
      dsimp only [Except.toOption]
      rw [List.map_cons, (openEntry_eq_ok hopened).1]
      exact ih.cons entry.1
    | error unopened =>
      have haside := setAside_eq_some_iff.2 hopened
      rw [haside]
      dsimp only [Except.toOption]
      rw [List.map_cons, show unopened.error.name = entry.1 from
        congrArg Prod.fst (eq_of_setAside haside)]
      -- the name heads the second list, behind all that are taken over
      exact List.perm_middle.trans (ih.cons entry.1)

/-! ## A whole map -/

/-- What it takes for attributes and for what is set aside to be what opening makes of a map. -/
structure Divides (m : AttributeMap) (key : Bytes) (owner : String) (opened : Opened) : Prop where
  /-- Every name is on one side, and no other name is on either. -/
  names : (opened.attributes.names ++ opened.unopened.map (·.error.name)).Perm m.names
  /-- The attributes are in the order of the map. -/
  attributes_order : opened.attributes.names.Sublist m.names
  /-- What is set aside consists of entries of the map, in its order. -/
  unopened_order :
    (opened.unopened.map fun u => (u.error.name, u.values)).Sublist m.entries
  /-- Attributes that are not protected are those of the map. -/
  plain : ∀ name values, isProtected name = false →
    ((name, values) ∈ opened.attributes.entries ↔ (name, values) ∈ m.entries)
  /-- Protected attributes are those that open, with what was sealed in them. -/
  sealed : ∀ name values, isProtected name = true →
    ((name, values) ∈ opened.attributes.entries ↔
      ∃ received, (name, received) ∈ m.entries ∧ unprotect name received owner key = .ok values)
  /-- What is set aside are those that do not open, with the values that arrived. -/
  unopened : ∀ unopened, unopened ∈ opened.unopened ↔ isProtected unopened.error.name = true
    ∧ (unopened.error.name, unopened.values) ∈ m.entries
    ∧ unprotect unopened.error.name unopened.values owner key = .error unopened.error

lemma mem_entries_openMap {m : AttributeMap} :
    (name, values) ∈ (openMap m key owner).attributes.entries ↔
      ∃ received, (name, received) ∈ m.entries
        ∧ openEntry key owner (name, received) = .ok (name, values) := by
  rw [entries_openMap, List.mem_filterMap]
  simp only [List.mem_map, toOption_eq_some_iff]
  constructor
  · rintro ⟨_, ⟨⟨n, received⟩, hmem, rfl⟩, hopened⟩
    obtain rfl : name = n := (openEntry_eq_ok hopened).1
    exact ⟨received, hmem, hopened⟩
  · rintro ⟨received, hmem, hopened⟩
    exact ⟨_, ⟨_, hmem, rfl⟩, hopened⟩

lemma mem_unopened_openMap {m : AttributeMap} : unopened ∈ (openMap m key owner).unopened ↔
    (unopened.error.name, unopened.values) ∈ m.entries
      ∧ openEntry key owner (unopened.error.name, unopened.values) = .error unopened := by
  rw [unopened_openMap, List.mem_filterMap]
  constructor
  · rintro ⟨entry, hmem, haside⟩
    rw [eq_of_setAside haside]
    exact ⟨hmem, setAside_eq_some_iff.1 haside⟩
  · rintro ⟨hmem, herror⟩
    exact ⟨_, hmem, setAside_eq_some_iff.2 herror⟩

/-- Opening divides a map. -/
theorem divides_openMap (m : AttributeMap) (key : Bytes) (owner : String) :
    Divides m key owner (openMap m key owner) where
  names := by
    rw [OrderedMap.names, entries_openMap, unopened_openMap]
    exact names_perm key owner m.entries
  attributes_order := by
    rw [names_openMap]
    exact List.filter_sublist.map Prod.fst
  unopened_order := by
    rw [unopened_openMap]
    exact setAside_sublist key owner m.entries
  plain := by
    intro name values hname
    rw [mem_entries_openMap]
    simp only [openEntry_of_unprotected hname, Except.ok.injEq, Prod.mk.injEq, true_and,
      exists_eq_right]
  sealed := by
    intro name values hname
    rw [mem_entries_openMap]
    simp only [openEntry_eq_ok_iff hname]
  unopened := by
    intro unopened
    rw [mem_unopened_openMap, openEntry_eq_error_iff]
    constructor
    · rintro ⟨hmem, hname, -, herror⟩
      exact ⟨hname, hmem, herror⟩
    · rintro ⟨hname, hmem, herror⟩
      exact ⟨hmem, hname, rfl, herror⟩

/-! ## Maps that open in full -/

lemma setAside_eq_none_iff {entry : String × List String} :
    setAside key owner entry = none ↔ opensEntry key owner entry = true := by
  rw [setAside, ← isOk_openEntry]
  cases openEntry key owner entry <;> simp [Except.isOk, Except.toBool]

/-- Nothing is set aside if every entry opens. -/
lemma unopened_openMap_eq_nil_iff {m : AttributeMap} :
    (openMap m key owner).unopened = []
      ↔ ∀ entry ∈ m.entries, opensEntry key owner entry = true := by
  rw [unopened_openMap, List.filterMap_eq_nil_iff]
  simp only [setAside_eq_none_iff]

/-- And then no name is lost; it takes every entry for that. -/
lemma names_openMap_eq_iff {m : AttributeMap} : (openMap m key owner).attributes.names = m.names ↔
    ∀ entry ∈ m.entries, opensEntry key owner entry = true := by
  rw [names_openMap, ← List.filter_eq_self]
  constructor
  · intro hnames
    have hlength := congrArg List.length hnames
    rw [OrderedMap.names, List.length_map, List.length_map] at hlength
    exact List.filter_sublist.eq_of_length hlength
  · intro hall
    rw [hall]
    rfl

/-! ## Slots -/

/-- **Opening a slot loses nothing and invents nothing, and nothing that does not open stops it.**
Under a key that is not empty, a slot is stopped by its text alone, whatever its signature and its
sealed values are.  If the text is a map, that map is divided, and the signature is worth what it is
worth over the text: nothing that opens or does not open enters into it. -/
theorem decodeSlot_divides (hsecret : secret ≠ []) (slot : SignedAttributes)
    (ctx : SigningContext) :
    (∀ error, decodeSlot slot secret ctx = .error error ↔
        ∃ fault, AttributeMap.parse slot.text = .error fault ∧ error = .malformed fault)
      ∧ ∀ m, AttributeMap.parse slot.text = .ok m →
          ∃ decoded, decodeSlot slot secret ctx = .ok decoded
            ∧ Divides m secret ctx.id ⟨decoded.attributes, decoded.unopened⟩
            ∧ decoded.signature = slot.signature
            ∧ (decoded.status = .missing ↔ slot.signature = none)
            ∧ (decoded.status = .valid ↔ ∃ signature, slot.signature = some signature
              ∧ verify ctx slot.text secret signature = .ok true) := by
  obtain ⟨status, hstatus⟩ := exists_signatureStatus hsecret slot ctx
  have hreads : ∀ m, AttributeMap.parse slot.text = .ok m → decodeSlot slot secret ctx
      = .ok { attributes := (openMap m secret ctx.id).attributes, signature := slot.signature,
              status, unopened := (openMap m secret ctx.id).unopened } := fun m hparse =>
    decodeSlot_eq_ok_iff.2 ⟨hstatus, rfl, m, hparse, rfl⟩
  constructor
  · intro error
    cases hparse : AttributeMap.parse slot.text with
    | error fault =>
      rw [decodeSlot_of_unreadable hsecret ctx hparse]
      simp [eq_comm]
    | ok m =>
      rw [hreads m hparse]
      simp
  · intro m hparse
    refine ⟨_, hreads m hparse, divides_openMap m secret ctx.id, rfl, ?_, ?_⟩
    · rw [signatureStatus] at hstatus
      cases hsignature : slot.signature with
      | none =>
        rw [hsignature] at hstatus
        simp [← Except.ok.inj hstatus]
      | some signature =>
        rw [hsignature] at hstatus
        obtain ⟨holds, -, rfl⟩ := map_eq_ok_iff.1 hstatus
        cases holds <;> simp
    · rw [← signatureStatus_eq_valid_iff, hstatus, Except.ok.injEq]

/-- Without a signature, and with values in the place of a seal that nobody sealed. -/
theorem decodeSlot_divides_unsealed :
    let received : AttributeMap := OrderedMap.ofList
      [("protected-ssn", ["not sealed"]), ("owner", ["né"])]
    let secret : Bytes := [1]
    secret ≠ [] ∧ ∃ decoded,
      decodeSlot { text := received.canonical } secret { id := "abc.def" } = .ok decoded
        ∧ ("owner", ["né"]) ∈ decoded.attributes.entries
        ∧ ⟨["not sealed"], "protected-ssn", .malformed⟩ ∈ decoded.unopened
        ∧ decoded.status = .missing := by
  intro received secret
  have hsecret : secret ≠ [] := List.cons_ne_nil _ _
  obtain ⟨decoded, hdecoded, hdivides, -, hmissing, -⟩ :=
    (decodeSlot_divides hsecret { text := received.canonical } { id := "abc.def" }).2 received
      (AttributeMap.parse_canonical received)
  exact ⟨hsecret, decoded, hdecoded, (hdivides.plain _ _ (by decide)).2 (by decide),
    (hdivides.unopened _).2 ⟨by decide, by decide, by decide⟩, hmissing.2 rfl⟩

end SealedChunk.Attribute
