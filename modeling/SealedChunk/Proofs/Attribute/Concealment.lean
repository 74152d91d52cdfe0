import SealedChunk.Proofs.Attribute.SlotRoundTrip

/-!
# What is protected goes out sealed

That a slot comes back as it was sent would be true as well if nothing were sealed at all.  So here
the slot is looked at on its way.  Its text is read as a map with the names of the map that was
sent, in their order, and every name has values of one of two kinds.  Under a name that is not
protected they are the values that were sent.  Under a protected name there is one text and nothing
else: the Base64 of a nonce, a ciphertext and a tag.  The ciphertext is as long as the canonical
text of the values, and it opens as that text under the sealing key and for the id that the slot is
meant for.  Whether a name has no values, one or many makes no difference.

Which key signs does not matter.

* `Conceals` — what is sent in the place of the values of an attribute.
* `conceals_of_sealEntry` — one entry.
* `parse_of_encodeSlot` — the text of a slot, and the sealed map that it was made from.
* **`encodeSlot_conceals`** — when a map goes out, and what its text shows.
-/

namespace SealedChunk.Attribute

open Crypto

variable {key signKey : Bytes} {owner : String} {nonces later : Nonces} {m closed : AttributeMap}
  {ctx : SigningContext} {signed : SignedAttributes}

/-- What is sent in the place of the values of an attribute. -/
structure Conceals (key : Bytes) (owner name : String) (values sent : List String) : Prop where
  /-- What is not protected is sent as it is. -/
  plain : isProtected name = false → sent = values
  /-- What is protected is sent as one text, which opens for the owner and no longer than it has to
  be. -/
  sealed : isProtected name = true → ∃ spelling body, sent = [spelling]
    ∧ Base64.decode? spelling = some body
    ∧ body.length = 28 + (Bytes.ofText (canonicalValues values)).length
    ∧ openSealed body key (Bytes.ofText owner) = .ok (Bytes.ofText (canonicalValues values))

/-- One entry, under its name. -/
lemma conceals_of_sealEntry {entry sent : String × List String} (hkey : key.length = keyLength)
    (h : (sealEntry key owner entry).run nonces = (.ok sent, later)) :
    sent.1 = entry.1 ∧ Conceals key owner entry.1 entry.2 sent.2 := by
  obtain ⟨hname, hplain, hsealed⟩ := sealEntry_eq_ok h
  refine ⟨hname, fun hentry => by rw [hplain hentry], fun hentry => ?_⟩
  obtain ⟨between, hvalues⟩ := hsealed hentry
  obtain ⟨body, hbody, hlength, hopens⟩ := exists_body_of_protect hkey hvalues
  exact ⟨_, body, hbody, Base64.decode?_encode body, hlength, hopens⟩

/-- Every entry of a map, wherever it stands. -/
lemma exists_conceals_of_mem {entries sent : List (String × List String)}
    (h : List.Forall₂ (fun entry sent => sent.1 = entry.1
      ∧ Conceals key owner entry.1 entry.2 sent.2) entries sent) {name : String}
    {values : List String} (hmem : (name, values) ∈ entries) :
    ∃ received, (name, received) ∈ sent ∧ Conceals key owner name values received := by
  obtain ⟨i, hi, hentry⟩ := List.getElem_of_mem hmem
  have hi' : i < sent.length := h.length_eq ▸ hi
  obtain ⟨hname, hconceals⟩ := h.get hi hi'
  simp only [List.get_eq_getElem, hentry] at hname hconceals
  refine ⟨sent[i].2, ?_, hconceals⟩
  rw [← hname]
  exact List.getElem_mem hi'

/-- The text of a slot is that of the sealed map. -/
lemma parse_of_encodeSlot (h : (encodeSlot m key signKey ctx).run nonces = (.ok signed, later)) :
    ∃ closed between, (sealMap m key ctx.id).run nonces = (.ok closed, between)
      ∧ AttributeMap.parse signed.text = .ok closed := by
  obtain ⟨closed, between, hclosed, h⟩ := Drawing.run_bind_eq_ok_iff.1 h
  obtain ⟨signature, after, -, h⟩ := Drawing.run_bind_eq_ok_iff.1 h
  obtain ⟨rfl, -⟩ := Drawing.run_pure_eq_ok_iff.1 h
  exact ⟨closed, between, Drawing.run_mapError_eq_ok_iff.1 hclosed,
    AttributeMap.parse_canonical closed⟩

/-- **What is protected goes out sealed.**  Let the sealing key have the right length, and let the
signing key not be empty.  Then a map goes out, whatever nonces come next, unless one of its
protected value lists is too long.  And once it is out, its text is read as a map with its names, in
their order.  Under a name that is not protected there are the values of the map.  Under a protected
name there is one text, strict Base64 of 28 bytes more than the canonical text of the values has,
and it opens as that text, under the sealing key and for the id of the circumstances. -/
theorem encodeSlot_conceals (hkey : key.length = keyLength) (hsignKey : signKey ≠ [])
    (m : AttributeMap) (ctx : SigningContext) (nonces : Nonces) :
    ((∃ signed later, (encodeSlot m key signKey ctx).run nonces = (.ok signed, later))
        ↔ Sealable m ctx.id)
      ∧ ∀ signed later, (encodeSlot m key signKey ctx).run nonces = (.ok signed, later) →
          ∃ closed, AttributeMap.parse signed.text = .ok closed ∧ closed.names = m.names
            ∧ ∀ name values, m.find? name = some values →
                ∃ sent, closed.find? name = some sent ∧ Conceals key ctx.id name values sent := by
  refine ⟨exists_encodeSlot_iff hkey hsignKey nonces, ?_⟩
  intro signed later h
  obtain ⟨closed, between, hsealed, hparse⟩ := parse_of_encodeSlot h
  obtain ⟨hnames, hentries⟩ := forall₂_of_sealMap hsealed
  refine ⟨closed, hparse, hnames, fun name values hfind => ?_⟩
  have hconceals := hentries.imp fun _ _ ⟨_, _, hentry⟩ => conceals_of_sealEntry hkey hentry
  obtain ⟨sent, hmem, hsent⟩ :=
    exists_conceals_of_mem hconceals (m.find?_eq_some_iff.1 hfind)
  exact ⟨sent, closed.find?_eq_some_iff.2 hmem, hsent⟩

/-- A protected name without values, one that is protected by itself, and one that only looks as if
it was protected; one key seals and another one signs. -/
theorem encodeSlot_conceals_lookalikes :
    let m : AttributeMap := OrderedMap.ofList
      [("protected-", []), ("integrity-hash-2", ["né"]), ("integrity-hash", ["\"", ""])]
    let key : Bytes := List.replicate 32 1
    let ctx : SigningContext := { id := "abc.def", mutable := true }
    key.length = keyLength ∧ [2] ≠ ([] : Bytes)
      ∧ ∃ signed later, (encodeSlot m key [2] ctx).run (.ofBytes [7]) = (.ok signed, later)
        ∧ ∃ closed, AttributeMap.parse signed.text = .ok closed
          ∧ closed.names = ["protected-", "integrity-hash-2", "integrity-hash"]
          ∧ closed.find? "integrity-hash-2" = some ["né"]
          ∧ ∃ spelling body, closed.find? "protected-" = some [spelling]
            ∧ Base64.decode? spelling = some body ∧ body.length = 30
            ∧ openSealed body key (Bytes.ofText "abc.def") = .ok (Bytes.ofText "[]") := by
  intro m key ctx
  have hkey : key.length = keyLength := rfl
  have hsignKey : [2] ≠ ([] : Bytes) := List.cons_ne_nil _ _
  obtain ⟨hgoes, hshows⟩ := encodeSlot_conceals hkey hsignKey m ctx (.ofBytes [7])
  obtain ⟨signed, later, h⟩ := hgoes.2 (by decide)
  obtain ⟨closed, hparse, hnames, hvalues⟩ := hshows signed later h
  obtain ⟨plain, hplain, hconceals⟩ := hvalues "integrity-hash-2" ["né"] (by decide)
  obtain ⟨sent, hsent, hconcealed⟩ := hvalues "protected-" [] (by decide)
  obtain rfl := hconceals.plain (by decide)
  obtain ⟨spelling, body, rfl, hbody, hlength, hopens⟩ := hconcealed.sealed (by decide)
  exact ⟨hkey, hsignKey, signed, later, h, closed, hparse, hnames, hplain, spelling, body, hsent,
    hbody, hlength, hopens⟩

end SealedChunk.Attribute
