import Mathlib.Data.List.Forall2
import SealedChunk.Proofs.Attribute.Slots
import SealedChunk.Proofs.Crypto.Sealing

/-!
# A slot survives the way

Outbound, the values of protected attributes are sealed one after the other, the map is written as
text, and the text is signed.  Inbound all of that is undone, under the same key and in the same
circumstances: the signature holds because the text is the one that was signed, the text is read as
the sealed map, and each sealed list opens as the list that it was made from.  So nothing is set
aside, and what comes out is the map that went in, in its order.

The only thing that can keep a map from going out is size.  `Sealable` says so, and it is a matter
of the protected attributes alone.

* `unprotect_of_protect`, `openEntry_of_sealEntry` — one value list, one entry.
* `forall₂_of_sealMap`, `openMap_of_sealMap` — a whole map, by induction over its entries.
* `decodeSlot_of_encodeSlot` — a slot.
* **`slot_round_trip`** — when a map goes out, and that it comes back.
-/

namespace SealedChunk.Attribute

open Crypto

variable {key : Bytes} {owner : String} {nonces later : Nonces}

/-! ## One attribute -/

lemma decode_canonicalValues (values : List String) :
    valuesCodec.decode (canonicalValues values) = .ok values :=
  Json.Codec.decode_encode (AttributeMap.faithful_valuesCodec 126 values)

/-- Sealed values are one spelling, of a body that opens as their canonical text. -/
lemma exists_body_of_protect {name : String} {values closed : List String}
    (hkey : key.length = keyLength)
    (h : (protect name values key owner).run nonces = (.ok closed, later)) :
    ∃ body, closed = [Base64.encode body]
      ∧ body.length = sealOverhead + (Bytes.ofText (canonicalValues values)).length
      ∧ openSealed body key (Bytes.ofText owner) = .ok (Bytes.ofText (canonicalValues values)) := by
  rw [protect] at h
  split_ifs at h with hname
  · obtain ⟨body, between, hbody, h⟩ := Drawing.run_bind_eq_ok_iff.1 h
    obtain ⟨rfl, -⟩ := Drawing.run_pure_eq_ok_iff.1 h
    exact ⟨body, rfl, opens_of_sealBytes hkey (Drawing.run_mapError_eq_ok_iff.1 hbody)⟩
  · cases h

/-- What was sealed opens. -/
lemma unprotect_of_protect {name : String} {values closed : List String}
    (hkey : key.length = keyLength)
    (h : (protect name values key owner).run nonces = (.ok closed, later)) :
    unprotect name closed owner key = .ok values := by
  obtain ⟨body, rfl, -, hopened⟩ := exists_body_of_protect hkey h
  simp only [unprotect, Base64.decode?_encode, hopened, Bytes.toText?_ofText,
    decode_canonicalValues]
  rfl

lemma protect_isOk_iff {name : String} {values : List String} (hkey : key.length = keyLength)
    (hname : isProtected name = true) (nonces : Nonces) :
    (∃ closed later, (protect name values key owner).run nonces = (.ok closed, later)) ↔
      (Bytes.ofText (canonicalValues values)).length ≤ GcmSiv.maxLength
        ∧ (Bytes.ofText owner).length ≤ GcmSiv.maxLength := by
  rw [← sealBytes_isOk_iff hkey nonces, protect, if_pos hname]
  constructor
  · rintro ⟨closed, later, h⟩
    obtain ⟨body, between, hbody, -⟩ := Drawing.run_bind_eq_ok_iff.1 h
    exact ⟨body, between, Drawing.run_mapError_eq_ok_iff.1 hbody⟩
  · rintro ⟨body, later, hbody⟩
    exact ⟨_, later, Drawing.run_bind_eq_ok_iff.2
      ⟨body, later, Drawing.run_mapError_eq_ok_iff.2 hbody, rfl⟩⟩

/-! ## One entry -/

/-- The entry is not protected, or neither its values nor its owner are too long to be sealed. -/
def SealableEntry (owner : String) (entry : String × List String) : Prop :=
  isProtected entry.1 = true →
    (Bytes.ofText (canonicalValues entry.2)).length ≤ GcmSiv.maxLength
      ∧ (Bytes.ofText owner).length ≤ GcmSiv.maxLength

instance (owner : String) (entry : String × List String) : Decidable (SealableEntry owner entry) :=
  inferInstanceAs (Decidable (_ → _))

/-- An entry is sealed, or taken over, under its name. -/
lemma sealEntry_eq_ok {entry closed : String × List String}
    (h : (sealEntry key owner entry).run nonces = (.ok closed, later)) : closed.1 = entry.1
      ∧ (isProtected entry.1 = false → closed = entry)
      ∧ (isProtected entry.1 = true →
          ∃ between, (protect entry.1 entry.2 key owner).run nonces = (.ok closed.2, between)) := by
  rw [sealEntry] at h
  split_ifs at h with hname
  · obtain ⟨values, between, hvalues, h⟩ := Drawing.run_bind_eq_ok_iff.1 h
    obtain ⟨rfl, -⟩ := Drawing.run_pure_eq_ok_iff.1 h
    exact ⟨rfl, fun hplain => absurd hname (by simp [hplain]), fun _ => ⟨between, hvalues⟩⟩
  · obtain ⟨rfl, -⟩ := Drawing.run_pure_eq_ok_iff.1 h
    exact ⟨rfl, fun _ => rfl, fun hprotected => absurd hprotected hname⟩

lemma openEntry_of_sealEntry {entry closed : String × List String} (hkey : key.length = keyLength)
    (h : (sealEntry key owner entry).run nonces = (.ok closed, later)) :
    openEntry key owner closed = .ok entry := by
  obtain ⟨name, values⟩ := closed
  obtain ⟨rfl, hplain, hsealed⟩ := sealEntry_eq_ok h
  cases hname : isProtected entry.1 with
  | false =>
    rw [hplain hname, openEntry, hname]
    rfl
  | true =>
    obtain ⟨between, hvalues⟩ := hsealed hname
    rw [openEntry, if_pos hname, unprotect_of_protect hkey hvalues]

lemma sealEntry_isOk_iff {entry : String × List String} (hkey : key.length = keyLength)
    (nonces : Nonces) :
    (∃ closed later, (sealEntry key owner entry).run nonces = (.ok closed, later))
      ↔ SealableEntry owner entry := by
  rw [SealableEntry, sealEntry]
  split_ifs with hname
  · simp only [hname, true_imp_iff, ← protect_isOk_iff hkey hname nonces]
    constructor
    · rintro ⟨closed, later, h⟩
      obtain ⟨values, between, hvalues, -⟩ := Drawing.run_bind_eq_ok_iff.1 h
      exact ⟨values, between, hvalues⟩
    · rintro ⟨values, later, hvalues⟩
      exact ⟨_, later, Drawing.run_bind_eq_ok_iff.2 ⟨values, later, hvalues, rfl⟩⟩
  · exact iff_of_true ⟨entry, nonces, rfl⟩ fun hprotected => absurd hprotected hname

/-! ## A whole map -/

/-- Each entry is sealed on its own. -/
lemma forall₂_of_sealEntries {entries closed : List (String × List String)}
    (h : (sealEntries key owner entries).run nonces = (.ok closed, later)) :
    List.Forall₂ (fun entry closed => ∃ before after,
      (sealEntry key owner entry).run before = (.ok closed, after)) entries closed := by
  induction entries generalizing closed nonces later with
  | nil =>
    obtain ⟨rfl, -⟩ := Drawing.run_pure_eq_ok_iff.1 h
    exact .nil
  | cons entry rest ih =>
    obtain ⟨first, between, hfirst, h⟩ := Drawing.run_bind_eq_ok_iff.1 h
    obtain ⟨others, after, hothers, h⟩ := Drawing.run_bind_eq_ok_iff.1 h
    obtain ⟨rfl, -⟩ := Drawing.run_pure_eq_ok_iff.1 h
    exact .cons ⟨_, _, hfirst⟩ (ih hothers)

/-- A map is sealed entry by entry, and its names stay where they are. -/
lemma forall₂_of_sealMap {m closed : AttributeMap}
    (h : (sealMap m key owner).run nonces = (.ok closed, later)) : closed.names = m.names
      ∧ List.Forall₂ (fun entry closed => ∃ before after,
          (sealEntry key owner entry).run before = (.ok closed, after))
        m.entries closed.entries := by
  obtain ⟨entries, between, hentries, h⟩ := Drawing.run_bind_eq_ok_iff.1 h
  obtain ⟨rfl, -⟩ := Drawing.run_pure_eq_ok_iff.1 h
  have hsealed := forall₂_of_sealEntries hentries
  have hnames : m.entries.map Prod.fst = entries.map Prod.fst := by
    rw [← List.forall₂_eq_eq_eq, List.forall₂_map_left_iff, List.forall₂_map_right_iff]
    exact hsealed.imp fun _ _ ⟨_, _, hentry⟩ => (sealEntry_eq_ok hentry).1.symm
  rw [OrderedMap.names, OrderedMap.names, OrderedMap.entries_ofList (hnames ▸ m.nodup)]
  exact ⟨hnames.symm, hsealed⟩

lemma sealEntries_isOk_iff {entries : List (String × List String)} (hkey : key.length = keyLength)
    (nonces : Nonces) :
    (∃ closed later, (sealEntries key owner entries).run nonces = (.ok closed, later))
      ↔ ∀ entry ∈ entries, SealableEntry owner entry := by
  induction entries generalizing nonces with
  | nil => exact iff_of_true ⟨[], nonces, rfl⟩ (by simp)
  | cons entry rest ih =>
    rw [List.forall_mem_cons, ← sealEntry_isOk_iff hkey nonces]
    constructor
    · rintro ⟨closed, later, h⟩
      obtain ⟨first, between, hfirst, h⟩ := Drawing.run_bind_eq_ok_iff.1 h
      obtain ⟨others, after, hothers, -⟩ := Drawing.run_bind_eq_ok_iff.1 h
      exact ⟨⟨first, between, hfirst⟩, (ih between).1 ⟨others, after, hothers⟩⟩
    · rintro ⟨⟨first, between, hfirst⟩, hrest⟩
      obtain ⟨others, after, hothers⟩ := (ih between).2 hrest
      exact ⟨_, after, Drawing.run_bind_eq_ok_iff.2 ⟨first, between, hfirst,
        Drawing.run_bind_eq_ok_iff.2 ⟨others, after, hothers, rfl⟩⟩⟩

lemma openMap_of_sealMap {m closed : AttributeMap} (hkey : key.length = keyLength)
    (h : (sealMap m key owner).run nonces = (.ok closed, later)) :
    openMap closed key owner = { attributes := m, unopened := [] } := by
  have hopens : closed.entries.map (openEntry key owner) = m.entries.map .ok := by
    rw [← List.forall₂_eq_eq_eq, List.forall₂_map_left_iff, List.forall₂_map_right_iff]
    exact (forall₂_of_sealMap h).2.flip.imp fun _ _ ⟨_, _, hentry⟩ =>
      openEntry_of_sealEntry hkey hentry
  rw [openMap, hopens, List.filterMap_map, List.filterMap_map]
  have hsome : m.entries.filterMap (fun entry => some entry) = m.entries := List.filterMap_some
  have hnone : m.entries.filterMap (fun _ => (none : Option Unopened)) = [] := by simp
  show ({ attributes := .ofList (m.entries.filterMap fun entry => some entry),
          unopened := m.entries.filterMap fun _ => none } : Opened) = _
  rw [hsome, hnone, OrderedMap.ofList_entries]

/-- Every protected value list of the map can be sealed for an owner. -/
def Sealable (m : AttributeMap) (owner : String) : Prop :=
  ∀ entry ∈ m.entries, SealableEntry owner entry

instance (m : AttributeMap) (owner : String) : Decidable (Sealable m owner) :=
  inferInstanceAs (Decidable (∀ entry ∈ m.entries, SealableEntry owner entry))

lemma sealMap_isOk_iff {m : AttributeMap} (hkey : key.length = keyLength) (nonces : Nonces) :
    (∃ closed later, (sealMap m key owner).run nonces = (.ok closed, later))
      ↔ Sealable m owner := by
  rw [Sealable, ← sealEntries_isOk_iff hkey nonces]
  constructor
  · rintro ⟨closed, later, h⟩
    obtain ⟨entries, between, hentries, -⟩ := Drawing.run_bind_eq_ok_iff.1 h
    exact ⟨entries, between, hentries⟩
  · rintro ⟨entries, later, hentries⟩
    exact ⟨_, later, Drawing.run_bind_eq_ok_iff.2 ⟨entries, later, hentries, rfl⟩⟩

/-! ## A slot -/

variable {m : AttributeMap} {ctx : SigningContext}

lemma ne_nil_of_length (hkey : key.length = keyLength) : key ≠ [] := by
  rintro rfl
  cases hkey

/-- Whoever signs, the key that seals decides what can go out. -/
lemma exists_encodeSlot_iff {signKey : Bytes} (hkey : key.length = keyLength)
    (hsignKey : signKey ≠ []) (nonces : Nonces) :
    (∃ signed later, (encodeSlot m key signKey ctx).run nonces = (.ok signed, later))
      ↔ Sealable m ctx.id := by
  rw [← sealMap_isOk_iff hkey nonces]
  constructor
  · rintro ⟨signed, later, h⟩
    obtain ⟨closed, between, hclosed, -⟩ := Drawing.run_bind_eq_ok_iff.1 h
    exact ⟨closed, between, Drawing.run_mapError_eq_ok_iff.1 hclosed⟩
  · rintro ⟨closed, later, hclosed⟩
    have hsign := (sign_eq_ok_iff hsignKey ctx closed.canonical).2 rfl
    exact ⟨_, later, Drawing.run_bind_eq_ok_iff.2
      ⟨closed, later, Drawing.run_mapError_eq_ok_iff.2 hclosed, Drawing.run_bind_eq_ok_iff.2
        ⟨_, later, Drawing.run_lift_eq_ok_iff.2 ⟨mapError_eq_ok_iff.2 hsign, rfl⟩, rfl⟩⟩⟩

lemma encodeSlot_isOk_iff (hkey : key.length = keyLength) (nonces : Nonces) :
    (∃ signed later, (encodeSlot m key key ctx).run nonces = (.ok signed, later))
      ↔ Sealable m ctx.id :=
  exists_encodeSlot_iff hkey (ne_nil_of_length hkey) nonces

/-- What goes out under a key comes back under it. -/
lemma decodeSlot_of_encodeSlot {signed : SignedAttributes} (hkey : key.length = keyLength)
    (h : (encodeSlot m key key ctx).run nonces = (.ok signed, later)) :
    decodeSlot signed key ctx
      = .ok
        { attributes := m, signature := signed.signature, status := .valid, unopened := [] } := by
  obtain ⟨closed, between, hclosed, h⟩ := Drawing.run_bind_eq_ok_iff.1 h
  obtain ⟨signature, after, hsign, h⟩ := Drawing.run_bind_eq_ok_iff.1 h
  obtain ⟨rfl, -⟩ := Drawing.run_pure_eq_ok_iff.1 h
  rw [Drawing.run_lift_eq_ok_iff, mapError_eq_ok_iff] at hsign
  have hopened := openMap_of_sealMap hkey (Drawing.run_mapError_eq_ok_iff.1 hclosed)
  have hstatus : signatureStatus { text := closed.canonical, signature := some signature } key ctx
      = .ok .valid := by
    rw [signatureStatus]
    dsimp only
    rw [verify_of_sign hsign.1 rfl]
    rfl
  refine bind_eq_ok_iff.2 ⟨.valid, mapError_eq_ok_iff.2 hstatus, bind_eq_ok_iff.2
    ⟨closed, mapError_eq_ok_iff.2 (AttributeMap.parse_canonical closed), ?_⟩⟩
  rw [hopened]

/-- **A slot survives the way.**  Under a key of the right length a map goes out, whatever nonces
come next, unless one of its protected value lists is too long.  And once it is out it comes back
under that key, in the same circumstances: with the signature that was sent, which holds, with
nothing set aside, and with the very entries, in their order. -/
theorem slot_round_trip (hkey : key.length = keyLength) (m : AttributeMap) (ctx : SigningContext)
    (nonces : Nonces) :
    ((∃ signed later, (encodeSlot m key key ctx).run nonces = (.ok signed, later))
        ↔ Sealable m ctx.id)
      ∧ ∀ signed later, (encodeSlot m key key ctx).run nonces = (.ok signed, later) →
          ∃ decoded, decodeSlot signed key ctx = .ok decoded ∧ decoded.status = .valid
            ∧ decoded.signature = signed.signature ∧ decoded.unopened = []
            ∧ decoded.attributes = m := by
  refine ⟨encodeSlot_isOk_iff hkey nonces, ?_⟩
  intro signed later h
  exact ⟨_, decodeSlot_of_encodeSlot hkey h, rfl, rfl, rfl, rfl⟩

/-- A protected name between two others, in circumstances that replace a signature by force. -/
theorem slot_round_trip_mixed :
    let m : AttributeMap := OrderedMap.ofList
      [("owner", ["né"]), ("protected-ssn", ["\"", "\n"]), ("tags", [])]
    let key : Bytes := List.replicate 32 1
    let ctx : SigningContext :=
      { id := "abc.def", mutable := true, previous := some ":force", force := true }
    key.length = keyLength
      ∧ ∃ signed later, (encodeSlot m key key ctx).run (.ofBytes [7]) = (.ok signed, later)
        ∧ ∃ decoded, decodeSlot signed key ctx = .ok decoded ∧ decoded.status = .valid
          ∧ decoded.attributes = m := by
  intro m key ctx
  have hkey : key.length = keyLength := rfl
  obtain ⟨hgoes, hcomes⟩ := slot_round_trip hkey m ctx (.ofBytes [7])
  obtain ⟨signed, later, h⟩ := hgoes.2 (by decide)
  obtain ⟨decoded, hdecoded, hstatus, -, -, hattributes⟩ := hcomes signed later h
  exact ⟨hkey, signed, later, h, decoded, hdecoded, hstatus, hattributes⟩

end SealedChunk.Attribute
