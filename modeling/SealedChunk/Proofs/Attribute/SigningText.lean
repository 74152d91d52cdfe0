import SealedChunk.Proofs.Attribute.Slots

/-!
# What a signature covers

The text that is signed is made of the circumstances and the attributes, with colons between them.
Neither lengths nor escapes keep the parts apart, and the attributes are whatever text arrived.
They are kept apart all the same, by how the attributes are read.  A readable text begins with a
blank or with a bracket, so the mark of a mutable slot is not mistaken for one; and it cannot go on
behind a colon, so nothing behind the attributes can be moved into them or out of them.

Behind the attributes stand the signature that is replaced and the mark of force.  Of these only the
signature is a text that came from elsewhere, and Base64 has no colon.

* `SigningContext.ending` — what stands behind the attributes.
* **`signingText_eq_iff`** — which part of the circumstances is kept apart at any rate.
* `SigningContext.Chained` — circumstances that replace a signature, if anything.
* **`ending_inj`** — what stands behind the attributes of these.
* **`signingText_separates`** — the text that is signed determines what is signed.
-/

namespace SealedChunk.Attribute

open AttributeMap

namespace SigningContext

/-- How a text that is signed ends if it is to replace another at any rate. -/
def forceMark (force : Bool) : List Char := if force then ":force".toList else []

/-- What stands behind the attributes in the text that is signed. -/
def ending (ctx : SigningContext) : List Char :=
  match ctx.previous with
  | some signature => ':' :: (signature.toList ++ forceMark ctx.force)
  | none => forceMark ctx.force

lemma toList_signingText (ctx : SigningContext) (attributes : String) :
    (ctx.signingText attributes).toList = ctx.id.toList
      ++ ((if ctx.mutable then [':', 'm'] else [])
        ++ ':' :: (attributes.toList ++ ctx.ending)) := by
  rcases ctx with ⟨id, mutable, previous, force⟩
  cases mutable <;> cases previous <;> cases force <;> simp [signingText, ending, forceMark]

lemma ending_eq_nil_iff {ctx : SigningContext} :
    ctx.ending = [] ↔ ctx.previous = none ∧ ctx.force = false := by
  rcases ctx with ⟨id, mutable, previous, force⟩
  cases previous <;> cases force <;> simp [ending, forceMark]

/-- Behind the attributes nothing stands, or a colon. -/
lemma eq_colon_of_ending {ctx : SigningContext} {c : Char} {s : List Char}
    (h : ctx.ending = c :: s) : c = ':' := by
  rcases ctx with ⟨id, mutable, previous, force⟩
  cases previous <;> cases force <;> simp [ending, forceMark] at h <;> exact h.1.symm

end SigningContext

open SigningContext

variable {c d : SigningContext} {a b : String}

/-! ## Where the attributes begin and end -/

/-- No readable text, with what stands behind it, begins with the mark of a mutable slot. -/
lemma ne_mark_of_readable (ha : Readable a) {s : List Char} : a.toList ++ c.ending ≠ 'm' :: s := by
  intro h
  cases hlist : a.toList with
  | nil =>
    rw [hlist, List.nil_append] at h
    exact absurd (eq_colon_of_ending h) (by decide)
  | cons x r =>
    rw [hlist, List.cons_append] at h
    obtain ⟨rfl, -⟩ := List.cons.inj h
    rcases head_of_readable ha hlist with hblank | hbracket
    · exact absurd hblank (by decide)
    · exact absurd hbracket (by decide)

/-- What a readable text has in addition to another one does not come from behind the attributes. -/
lemma eq_nil_of_ending (ha : Readable a) (hb : Readable b) {s t : List Char}
    (hmore : b.toList = a.toList ++ s) (hending : c.ending = s ++ t) : s = [] := by
  cases s with
  | nil => rfl
  | cons x s =>
    obtain rfl := eq_colon_of_ending hending
    have hcolon : b = a ++ ":" ++ String.ofList s := by
      rw [← String.toList_inj, hmore]
      simp
    exact absurd (hcolon ▸ hb) (not_readable_colon ha _)

/-- Two readable texts end at the same place. -/
lemma eq_of_append_ending (ha : Readable a) (hb : Readable b)
    (h : a.toList ++ c.ending = b.toList ++ d.ending) : a = b ∧ c.ending = d.ending := by
  have hlist : a.toList = b.toList := by
    rcases List.append_eq_append_iff.1 h with ⟨s, hmore, hending⟩ | ⟨s, hmore, hending⟩
    · rw [hmore, eq_nil_of_ending ha hb hmore hending, List.append_nil]
    · rw [hmore, eq_nil_of_ending hb ha hmore hending, List.append_nil]
  rw [hlist, List.append_cancel_left_eq] at h
  exact ⟨String.toList_inj.1 hlist, h⟩

/-- **What is kept apart at any rate.**  Whatever the signatures are that are replaced, the text
that is signed shows which slot it is, what the attributes are, and what stands behind them. -/
theorem signingText_eq_iff (hid : c.id = d.id) (ha : Readable a) (hb : Readable b) :
    c.signingText a = d.signingText b ↔ c.mutable = d.mutable ∧ a = b ∧ c.ending = d.ending := by
  rw [← String.toList_inj, toList_signingText, toList_signingText, hid, List.append_cancel_left_eq]
  constructor
  · intro h
    cases hc : c.mutable <;> cases hd : d.mutable <;>
      simp only [hc, hd, if_true, if_false, Bool.false_eq_true, List.nil_append, List.cons_append,
        List.cons.injEq, true_and] at h
    · exact ⟨rfl, eq_of_append_ending ha hb h⟩
    · exact absurd h (ne_mark_of_readable ha)
    · exact absurd h.symm (ne_mark_of_readable hb)
    · exact ⟨rfl, eq_of_append_ending ha hb h⟩
  · rintro ⟨hmutable, rfl, hending⟩
    rw [hmutable, hending]

/-! ## What stands behind the attributes -/

/-- If a signature is replaced, it is strict Base64. -/
def SigningContext.Chained (ctx : SigningContext) : Prop :=
  ∀ signature ∈ ctx.previous, (Base64.decode? signature).isSome = true

/-- Signatures that were made are strict Base64. -/
lemma SigningContext.chained_of_sign {secret : Bytes} {signature : String}
    (h : sign d a secret = .ok signature) (hprevious : c.previous = some signature) :
    c.Chained := by
  intro other hother
  obtain rfl := Option.some.inj (hprevious.symm.trans hother)
  obtain ⟨tag, htag, -⟩ := exists_decode?_of_sign h
  rw [htag, Option.isSome_some]

lemma colon_notMem_of_decode? {signature : String} (h : (Base64.decode? signature).isSome = true) :
    ':' ∉ signature.toList := by
  obtain ⟨bytes, hbytes⟩ := Option.isSome_iff_exists.1 h
  obtain rfl := Base64.decode?_eq_some.1 hbytes
  rw [Base64.encode, String.toList_ofList]
  intro hcolon
  exact absurd (Base64.isBase64Char_of_mem_encodeChars hcolon) (by decide)

/-- The mark of force is no Base64 behind a colon: Base64 has no colon, and comes in groups of
four. -/
lemma forceMark_ne_chained {signature : String} (h : (Base64.decode? signature).isSome = true)
    (f g : Bool) : forceMark f ≠ ':' :: (signature.toList ++ forceMark g) := by
  intro heq
  cases f with
  | false => cases heq
  | true =>
    obtain ⟨-, hforce⟩ : ':' = ':' ∧ "force".toList = signature.toList ++ forceMark g :=
      List.cons.inj heq
    cases g with
    | true =>
      have hcolon : ':' ∈ "force".toList := by rw [hforce]; simp [forceMark]
      exact absurd hcolon (by decide)
    | false =>
      have hsignature : signature = "force" := by
        rw [← String.toList_inj, hforce]
        exact (List.append_nil _).symm
      rw [hsignature] at h
      exact absurd h (by decide)

/-- Behind texts without a colon the mark of force is there in both or in neither. -/
lemma forceMark_inj {s t : List Char} {f g : Bool} (hs : ':' ∉ s) (ht : ':' ∉ t)
    (h : s ++ forceMark f = t ++ forceMark g) : s = t ∧ f = g := by
  have hmem : ∀ b, ':' ∈ forceMark b ↔ b = true := by decide
  have hforce : f = true ↔ g = true := by
    rw [← hmem, ← hmem]
    have hcolon := congrArg (':' ∈ ·) h
    simpa [List.mem_append, hs, ht] using hcolon
  obtain rfl := Bool.eq_iff_iff.2 hforce
  exact ⟨List.append_cancel_right h, rfl⟩

/-- What stands behind the attributes shows the signature that is replaced, and whether by force. -/
theorem ending_inj (hc : c.Chained) (hd : d.Chained) (h : c.ending = d.ending) :
    c.previous = d.previous ∧ c.force = d.force := by
  rw [ending, ending] at h
  cases hp : c.previous with
  | none =>
    cases hq : d.previous with
    | none =>
      rw [hp, hq] at h
      exact ⟨rfl, (forceMark_inj (List.not_mem_nil) (List.not_mem_nil) h).2⟩
    | some t =>
      rw [hp, hq] at h
      exact absurd h (forceMark_ne_chained (hd t hq) _ _)
  | some s =>
    cases hq : d.previous with
    | none =>
      rw [hp, hq] at h
      exact absurd h.symm (forceMark_ne_chained (hc s hp) _ _)
    | some t =>
      rw [hp, hq] at h
      obtain ⟨hst, hforce⟩ := forceMark_inj (colon_notMem_of_decode? (hc s hp))
        (colon_notMem_of_decode? (hd t hq)) (List.cons.inj h).2
      exact ⟨congrArg some (String.toList_inj.1 hst), hforce⟩

/-- **The text that is signed determines what is signed.**  For readable attributes of one key, and
signatures that are replaced, if any, that are Base64: only equal attributes in equal circumstances
share a signature.  And whatever is replaced, a signature covers a slot that can be read only if it
was made for that slot and its very text, and for replacing something, or by force, only if the slot
does so. -/
theorem signingText_separates (hid : c.id = d.id) (ha : Readable a) :
    (Readable b → c.Chained → d.Chained →
        (c.signingText a = d.signingText b ↔ c = d ∧ a = b))
      ∧ ∀ slot secret decoded, decodeSlot slot secret d = .ok decoded →
          c.signingText a = d.signingText slot.text →
            c.mutable = d.mutable ∧ a = slot.text
              ∧ (c.previous = none ∧ c.force = false ↔ d.previous = none ∧ d.force = false) := by
  refine ⟨fun hb hc hd => ⟨fun h => ?_, ?_⟩, fun slot secret decoded hdecoded h => ?_⟩
  · obtain ⟨hmutable, hab, hending⟩ := (signingText_eq_iff hid ha hb).1 h
    obtain ⟨hprevious, hforce⟩ := ending_inj hc hd hending
    rcases c with ⟨⟩
    rcases d with ⟨⟩
    simp_all
  · rintro ⟨rfl, rfl⟩
    rfl
  · obtain ⟨hmutable, htext, hending⟩ :=
      (signingText_eq_iff hid ha (decodeSlot_eq_ok hdecoded).1).1 h
    exact ⟨hmutable, htext, by rw [← ending_eq_nil_iff, hending, ending_eq_nil_iff]⟩

/-- Blank attributes that replace a signature by force, and no attributes. -/
theorem signingText_separates_blank :
    let c : SigningContext := { id := "k:m", mutable := true, previous := "AAAA", force := true }
    let d : SigningContext := { id := "k:m", mutable := true }
    Readable " " ∧ Readable "\x7b\x7d" ∧ c.Chained ∧ d.Chained
      ∧ (c.signingText " " = d.signingText "\x7b\x7d" ↔ c = d ∧ " " = "\x7b\x7d")
      ∧ decodeSlot { text := "\x7b\x7d" } [1] d
        = .ok { attributes := .empty, signature := none, status := .missing, unopened := [] }
      ∧ c.signingText " " ≠ d.signingText "\x7b\x7d" := by
  intro c d
  have hblank : Readable " " := ⟨_, rfl⟩
  have hempty : Readable "\x7b\x7d" := ⟨_, rfl⟩
  have hc : c.Chained := by
    rintro _ ⟨⟩
    rfl
  have hd : d.Chained := by rintro _ ⟨⟩
  have hdecoded : decodeSlot { text := "\x7b\x7d" } [1] d
      = .ok { attributes := .empty, signature := none, status := .missing, unopened := [] } := rfl
  obtain ⟨hsame, hcover⟩ := signingText_separates (c := c) (d := d) (b := "\x7b\x7d") rfl hblank
  refine ⟨hblank, hempty, hc, hd, hsame hempty hc hd, hdecoded, fun h => ?_⟩
  exact absurd (hcover _ _ _ hdecoded h).2.1 (by decide)

end SealedChunk.Attribute
