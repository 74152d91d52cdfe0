import SealedChunk.Attribute.Slot
import SealedChunk.Proofs.Attribute.Readable
import SealedChunk.Proofs.Envelope.Padding

/-!
# Slots under a key

Whoever has a key can sign: only an empty key is refused.  So what becomes of a slot under a key is
plain.  Outbound it carries the signature of its own text.  Inbound it is stopped by nothing but its
text, and its signature holds if it is the one that signing the text makes.

* `sign_eq_ok_iff` — what signing makes.
* **`verify_of_sign`** — a signature holds wherever the text that is signed is the same.
* **`encodeSlot_eq_ok`** — an outbound slot.
* `decodeSlot_eq_ok_iff`, **`decodeSlot_isOk_iff`** — what an inbound slot is read as, and which can
  be read.
* `names_openMap`, `find?_openMap_of_unprotected` — what opening leaves alone.
-/

namespace SealedChunk.Attribute

open Crypto

variable {ctx other : SigningContext} {attributes text signature : String} {secret : Bytes}

/-! ## Signatures -/

lemma tag_eq_ok (hsecret : secret ≠ []) (message : Bytes) :
    Mac.tag secret message = .ok (Mac.hmac secret message) := by
  rw [Mac.tag, if_neg (by simpa using hsecret)]

lemma sign_eq_ok_iff (hsecret : secret ≠ []) (ctx : SigningContext) (attributes : String) :
    sign ctx attributes secret = .ok signature ↔
      signature = Base64.encode (Mac.hmac secret (Bytes.ofText (ctx.signingText attributes))) := by
  rw [sign, tag_eq_ok hsecret]
  exact ⟨fun h => (Except.ok.inj h).symm, fun h => congrArg _ h.symm⟩

/-- A signature is the strict Base64 of 32 bytes. -/
lemma exists_decode?_of_sign (h : sign ctx attributes secret = .ok signature) :
    ∃ tag, Base64.decode? signature = some tag ∧ tag.length = 32 := by
  rw [sign, map_eq_ok_iff] at h
  obtain ⟨tag, htag, rfl⟩ := h
  refine ⟨tag, Base64.decode?_encode tag, ?_⟩
  rw [Mac.tag] at htag
  split_ifs at htag
  obtain rfl := Except.ok.inj htag
  exact length_sha256 _

lemma isBlank_digit : ∀ v, v < 64 → Text.isBlank (Base64.digit v) = false := by decide

/-- No blank stands in Base64. -/
lemma isBlank_of_isBase64Char {c : Char} (h : Base64.isBase64Char c = true) :
    Text.isBlank c = false := by
  rw [Base64.isBase64Char, Bool.or_eq_true, Option.isSome_iff_exists, beq_iff_eq] at h
  rcases h with ⟨v, hv⟩ | rfl
  · obtain ⟨rfl, hlt⟩ := Base64.digit_of_digitValue? hv
    exact isBlank_digit v hlt
  · rfl

lemma dropWhile_isBlank_eq_self {s : List Char} (h : ∀ c ∈ s, Text.isBlank c = false) :
    s.dropWhile Text.isBlank = s := by
  cases s with
  | nil => rfl
  | cons c s => rw [List.dropWhile_cons, if_neg (by simp [h c List.mem_cons_self])]

/-- So there is nothing around Base64 that could be taken away. -/
lemma trim_encode (bytes : Bytes) : Text.trim (Base64.encode bytes) = Base64.encode bytes := by
  have h : ∀ c ∈ Base64.encodeChars bytes, Text.isBlank c = false := fun c hc =>
    isBlank_of_isBase64Char (Base64.isBase64Char_of_mem_encodeChars hc)
  have hreverse : ∀ c ∈ (Base64.encodeChars bytes).reverse, Text.isBlank c = false :=
    fun c hc => h c (List.mem_reverse.1 hc)
  rw [Text.trim, Base64.encode, String.toList_ofList, Text.trimChars, dropWhile_isBlank_eq_self h,
    dropWhile_isBlank_eq_self hreverse, List.reverse_reverse]

/-- Under a key that is not empty every signature can be checked. -/
lemma exists_verify (hsecret : secret ≠ []) (ctx : SigningContext) (attributes signature : String) :
    ∃ holds, verify ctx attributes secret signature = .ok holds := by
  rw [verify]
  cases Base64.decode? (Text.trim signature) with
  | none => exact ⟨_, rfl⟩
  | some tag =>
    dsimp only
    rw [Mac.verify, tag_eq_ok hsecret]
    exact ⟨_, rfl⟩

/-- **A signature binds the text that is signed, and only that.**  It holds in other circumstances
and for other attributes, too, if the text that is signed is the same. -/
theorem verify_of_sign (h : sign ctx attributes secret = .ok signature)
    (htext : other.signingText text = ctx.signingText attributes) :
    verify other text secret signature = .ok true := by
  rw [sign, map_eq_ok_iff] at h
  obtain ⟨tag, htag, rfl⟩ := h
  rw [verify, trim_encode, Base64.decode?_encode]
  simp [Mac.verify, htext, htag, Except.map]

/-! ## Outbound -/

/-- **An outbound slot** carries the canonical text of a map and the signature of that text. -/
theorem encodeSlot_eq_ok {m : AttributeMap} {sealKey signKey : Bytes} {signed : SignedAttributes}
    {nonces later : Nonces}
    (h : (encodeSlot m sealKey signKey ctx).run nonces = (.ok signed, later)) :
    ∃ (closed : AttributeMap) (signature : String),
      sign ctx closed.canonical signKey = .ok signature
        ∧ signed = { text := closed.canonical, signature := some signature } := by
  rw [encodeSlot, Drawing.run_bind_eq_ok_iff] at h
  obtain ⟨closed, between, -, h⟩ := h
  rw [Drawing.run_bind_eq_ok_iff] at h
  obtain ⟨signature, between, hsign, h⟩ := h
  rw [Drawing.run_lift_eq_ok_iff, mapError_eq_ok_iff] at hsign
  obtain ⟨rfl, -⟩ := Drawing.run_pure_eq_ok_iff.1 h
  exact ⟨closed, signature, hsign.1, rfl⟩

lemma run_sealEntries_of_unprotected {entries : List (String × List String)}
    (h : ∀ entry ∈ entries, isProtected entry.1 = false) (key : Bytes) (owner : String)
    (nonces : Nonces) : (sealEntries key owner entries).run nonces = (.ok entries, nonces) := by
  induction entries with
  | nil => rfl
  | cons entry rest ih =>
    have hentry : (sealEntry key owner entry).run nonces = (.ok entry, nonces) := by
      rw [sealEntry, h entry List.mem_cons_self]
      rfl
    rw [sealEntries, Drawing.run_bind_ok hentry,
      Drawing.run_bind_ok (ih fun e he => h e (List.mem_cons_of_mem _ he))]
    rfl

/-- Without protected attributes no nonce is drawn, and what is signed is the map itself. -/
lemma run_encodeSlot_of_unprotected {m : AttributeMap} {signKey : Bytes} (hsignKey : signKey ≠ [])
    (h : ∀ entry ∈ m.entries, isProtected entry.1 = false) (sealKey : Bytes) (ctx : SigningContext)
    (nonces : Nonces) :
    ∃ signed, (encodeSlot m sealKey signKey ctx).run nonces = (.ok signed, nonces) := by
  have hentries := run_sealEntries_of_unprotected h sealKey ctx.id nonces
  have hmap : (sealMap m sealKey ctx.id).run nonces = (.ok m, nonces) := by
    rw [sealMap, Drawing.run_bind_ok hentries, OrderedMap.ofList_entries]
    rfl
  have hsign := (sign_eq_ok_iff hsignKey ctx m.canonical).2 rfl
  rw [encodeSlot, Drawing.run_bind_ok (Drawing.run_mapError_eq_ok_iff.2 hmap),
    Drawing.run_bind_ok (Drawing.run_lift_eq_ok_iff.2 ⟨mapError_eq_ok_iff.2 hsign, rfl⟩)]
  exact ⟨_, rfl⟩

/-! ## Inbound -/

/-- A signature holds only where there is one. -/
lemma signatureStatus_eq_valid_iff {slot : SignedAttributes} :
    signatureStatus slot secret ctx = .ok .valid ↔
      ∃ signature, slot.signature = some signature
        ∧ verify ctx slot.text secret signature = .ok true := by
  rw [signatureStatus]
  cases slot.signature with
  | none => simp
  | some signature =>
    simp only [map_eq_ok_iff, Option.some.injEq]
    constructor
    · rintro ⟨_ | _, hverify, hstatus⟩
      · cases hstatus
      · exact ⟨signature, rfl, hverify⟩
    · rintro ⟨_, rfl, hverify⟩
      exact ⟨true, hverify, rfl⟩

lemma decodeSlot_eq_ok_iff {slot : SignedAttributes} {decoded : DecodedSlot} :
    decodeSlot slot secret ctx = .ok decoded ↔
      signatureStatus slot secret ctx = .ok decoded.status ∧ decoded.signature = slot.signature
        ∧ ∃ closed, AttributeMap.parse slot.text = .ok closed
          ∧ openMap closed secret ctx.id = ⟨decoded.attributes, decoded.unopened⟩ := by
  rw [decodeSlot, bind_eq_ok_iff]
  constructor
  · rintro ⟨status, hstatus, h⟩
    obtain ⟨closed, hclosed, h⟩ := bind_eq_ok_iff.1 h
    obtain rfl := Except.ok.inj h
    exact ⟨mapError_eq_ok_iff.1 hstatus, rfl, closed, mapError_eq_ok_iff.1 hclosed, rfl⟩
  · rintro ⟨hstatus, hsignature, closed, hclosed, hopen⟩
    refine ⟨decoded.status, mapError_eq_ok_iff.2 hstatus,
      bind_eq_ok_iff.2 ⟨closed, mapError_eq_ok_iff.2 hclosed, ?_⟩⟩
    rw [hopen, ← hsignature]

lemma decodeSlot_eq_ok {slot : SignedAttributes} {decoded : DecodedSlot}
    (h : decodeSlot slot secret ctx = .ok decoded) :
    AttributeMap.Readable slot.text ∧ decoded.signature = slot.signature
      ∧ signatureStatus slot secret ctx = .ok decoded.status := by
  obtain ⟨hstatus, hsignature, closed, hclosed, -⟩ := decodeSlot_eq_ok_iff.1 h
  exact ⟨⟨closed, hclosed⟩, hsignature, hstatus⟩

lemma exists_signatureStatus (hsecret : secret ≠ []) (slot : SignedAttributes)
    (ctx : SigningContext) : ∃ status, signatureStatus slot secret ctx = .ok status := by
  rw [signatureStatus]
  cases slot.signature with
  | none => exact ⟨_, rfl⟩
  | some signature =>
    obtain ⟨holds, hverify⟩ := exists_verify hsecret ctx slot.text signature
    dsimp only
    rw [hverify]
    exact ⟨_, rfl⟩

/-- **An inbound slot** can be read if its text can be read; its signature does not matter. -/
theorem decodeSlot_isOk_iff (hsecret : secret ≠ []) (slot : SignedAttributes)
    (ctx : SigningContext) :
    (∃ decoded, decodeSlot slot secret ctx = .ok decoded) ↔ AttributeMap.Readable slot.text := by
  constructor
  · rintro ⟨decoded, h⟩
    exact (decodeSlot_eq_ok h).1
  · rintro ⟨closed, hclosed⟩
    obtain ⟨status, hstatus⟩ := exists_signatureStatus hsecret slot ctx
    rw [decodeSlot, hstatus, hclosed]
    exact ⟨_, rfl⟩

lemma decodeSlot_of_unreadable (hsecret : secret ≠ []) (ctx : SigningContext)
    {slot : SignedAttributes} {fault : Json.Fault}
    (h : AttributeMap.parse slot.text = .error fault) :
    decodeSlot slot secret ctx = .error (.malformed fault) := by
  obtain ⟨status, hstatus⟩ := exists_signatureStatus hsecret slot ctx
  rw [decodeSlot, hstatus, h]
  rfl

/-! ## What opening leaves alone -/

variable {key : Bytes} {owner name : String} {entry opened : String × List String}

lemma openEntry_eq_ok (h : openEntry key owner entry = .ok opened) :
    opened.1 = entry.1 ∧ (isProtected entry.1 = false → opened = entry) := by
  rw [openEntry] at h
  split_ifs at h with hname
  · split at h
    · obtain rfl := Except.ok.inj h
      exact ⟨rfl, fun hopen => absurd hname (by simp [hopen])⟩
    · cases h
  · obtain rfl := Except.ok.inj h
    exact ⟨rfl, fun _ => rfl⟩

/-- The entry is not protected, or its values open. -/
def opensEntry (key : Bytes) (owner : String) (entry : String × List String) : Bool :=
  !isProtected entry.1 || (unprotect entry.1 entry.2 owner key).isOk

lemma isOk_openEntry (key : Bytes) (owner : String) (entry : String × List String) :
    (openEntry key owner entry).isOk = opensEntry key owner entry := by
  rw [openEntry, opensEntry]
  cases isProtected entry.1 with
  | false => rfl
  | true => cases unprotect entry.1 entry.2 owner key <;> rfl

/-- What is taken over are the entries that open, under their names. -/
lemma names_opened (key : Bytes) (owner : String) (entries : List (String × List String)) :
    ((entries.map (openEntry key owner)).filterMap Except.toOption).map Prod.fst
      = (entries.filter (opensEntry key owner)).map Prod.fst := by
  induction entries with
  | nil => rfl
  | cons entry rest ih =>
    have hopens := isOk_openEntry key owner entry
    cases hopened : openEntry key owner entry with
    | error unopened =>
      rw [hopened] at hopens
      simp only [List.map_cons, hopened, Except.toOption, List.filterMap_cons, List.filter_cons,
        ← hopens]
      exact ih
    | ok opened =>
      rw [hopened] at hopens
      simp only [List.map_cons, hopened, Except.toOption, List.filterMap_cons, List.filter_cons,
        ← hopens, (openEntry_eq_ok hopened).1, ih]
      rfl

lemma entries_openMap (m : AttributeMap) (key : Bytes) (owner : String) :
    (openMap m key owner).attributes.entries
      = (m.entries.map (openEntry key owner)).filterMap Except.toOption := by
  have hnodup := ((List.filter_sublist (p := opensEntry key owner)).map Prod.fst).nodup m.nodup
  rw [← names_opened] at hnodup
  rw [← OrderedMap.entries_ofList hnodup, openMap]
  dsimp only
  congr 3
  funext outcome
  cases outcome <;> rfl

/-- The names that are left, in the order of the map. -/
lemma names_openMap (m : AttributeMap) (key : Bytes) (owner : String) :
    (openMap m key owner).attributes.names
      = (m.entries.filter (opensEntry key owner)).map Prod.fst := by
  rw [OrderedMap.names, entries_openMap, names_opened]

/-- An attribute that is not protected has the values that arrived. -/
lemma find?_openMap_of_unprotected (hname : isProtected name = false) (m : AttributeMap)
    (key : Bytes) (owner : String) :
    (openMap m key owner).attributes.find? name = m.find? name := by
  ext values
  rw [OrderedMap.find?_eq_some_iff, OrderedMap.find?_eq_some_iff, entries_openMap,
    List.mem_filterMap]
  simp only [List.mem_map, toOption_eq_some_iff]
  constructor
  · rintro ⟨_, ⟨entry, hmem, rfl⟩, hopened⟩
    obtain ⟨hsame, hunchanged⟩ := openEntry_eq_ok hopened
    rw [hunchanged (hsame ▸ hname)]
    exact hmem
  · intro hmem
    refine ⟨_, ⟨_, hmem, rfl⟩, ?_⟩
    rw [openEntry, hname]
    rfl

end SealedChunk.Attribute
