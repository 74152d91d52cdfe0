import SealedChunk.Proofs.Envelope.Padding

/-!
# When padding can be taken away and put back

A text is put back together from what is left of it without the `=` at its end only if the length
alone tells how many there were.  Restoring adds as few as it takes to a multiple of four bytes, so
it adds at most three and it adds what was there exactly if the text was well padded: a multiple of
four bytes, with at most three `=` at the end.  Base64 does not come into it, nor does any other
alphabet.  A character may take several bytes, and the `=` may be all there is.

In the other direction nothing can go wrong.  What is added is stripped again, and a text that is a
multiple of four bytes has nothing missing.

* `eq_stripPadding_append` — a text is what stripping leaves of it, and padding.
* `four_le_iff` — when there are four or more `=`.
* `exists_restorePadding` — how many are added.
* **`restorePadding_stripPadding_eq_self_iff`** — which texts are put back together.
* **`padding_restored`** — both directions.
-/

namespace SealedChunk.Envelope

open Text Base64

/-! ## What is stripped -/

/-- A text is what stripping leaves of it, followed by padding. -/
lemma eq_stripPadding_append (s : List Char) :
    ∃ n, s = stripPadding s ++ List.replicate n '=' := by
  have hpads : s.rtakeWhile (· = '=') = List.replicate (s.rtakeWhile (· = '=')).length '=' :=
    List.eq_replicate_of_mem fun c hc => by simpa using List.mem_rtakeWhile_imp hc
  refine ⟨(s.rtakeWhile (· = '=')).length, ?_⟩
  rw [stripPadding_eq_rdropWhile, ← hpads, List.rdropWhile_append_rtakeWhile]

/-- However much padding there is, stripping leaves nothing of it. -/
lemma stripPadding_append_replicate (s : List Char) (n : Nat) :
    stripPadding (s ++ List.replicate n '=') = stripPadding s := by
  have hlast : ∀ hs : stripPadding s ≠ [], (stripPadding s).getLast hs ≠ '=' := fun hs hpad =>
    List.rdropWhile_last_not (· = '=') s hs (decide_eq_true hpad)
  obtain ⟨m, hm⟩ := eq_stripPadding_append s
  calc stripPadding (s ++ List.replicate n '=')
      = stripPadding (stripPadding s ++ List.replicate (m + n) '=') := by
        rw [← List.replicate_append_replicate, ← List.append_assoc, ← hm]
    _ = stripPadding s := stripPadding_append hlast (m + n)

/-- A text ends in four `=` exactly if stripping takes away four or more. -/
lemma four_le_iff {s : List Char} {n : Nat} (h : s = stripPadding s ++ List.replicate n '=') :
    4 ≤ n ↔ List.replicate 4 '=' <:+ s := by
  constructor
  · intro hn
    rw [h, ← Nat.sub_add_cancel hn, ← List.replicate_append_replicate, ← List.append_assoc]
    exact List.suffix_append _ _
  · rintro ⟨front, hfront⟩
    -- what stripping leaves is a front of what stands before the four
    have hprefix : stripPadding s <+: front := by
      rw [← hfront, stripPadding_append_replicate, stripPadding_eq_rdropWhile]
      exact List.rdropWhile_prefix _ _
    have hlength := congrArg List.length (hfront.trans h)
    simp only [List.length_append, List.length_replicate] at hlength
    have := hprefix.length_le
    omega

/-! ## What is restored -/

lemma utf8Length_append_replicate (s : List Char) (n : Nat) :
    utf8Length (s ++ List.replicate n '=') = utf8Length s + n := by
  rw [utf8Length_append, utf8Length_replicate_pad]

/-- Restoring adds at most three `=`, and fills the text up to a multiple of four bytes. -/
lemma exists_restorePadding (s : List Char) :
    ∃ n < 4, restorePadding s = s ++ List.replicate n '=' ∧ 4 ∣ utf8Length s + n :=
  ⟨_, by omega, rfl, by omega⟩

lemma restorePadding_eq_self {s : List Char} (h : 4 ∣ utf8Length s) : restorePadding s = s := by
  rw [restorePadding_eq_append (n := 0) (by omega) (by omega), List.replicate_zero, List.append_nil]

lemma dvd_utf8Length_restorePadding (s : List Char) : 4 ∣ utf8Length (restorePadding s) := by
  obtain ⟨n, -, heq, hdvd⟩ := exists_restorePadding s
  rwa [heq, utf8Length_append_replicate]

/-- **The texts that are put back together** are the well-padded ones. -/
theorem restorePadding_stripPadding_eq_self_iff (s : List Char) :
    restorePadding (stripPadding s) = s ↔ 4 ∣ utf8Length s ∧ ¬ List.replicate 4 '=' <:+ s := by
  obtain ⟨n, hn⟩ := eq_stripPadding_append s
  have hlength : utf8Length s = utf8Length (stripPadding s) + n := by
    rw [← utf8Length_append_replicate, ← hn]
  rw [← four_le_iff hn, hlength]
  constructor
  · intro h
    obtain ⟨added, hadded, heq, hdvd⟩ := exists_restorePadding (stripPadding s)
    have hsame : added = n := by
      have := congrArg List.length (heq.symm.trans (h.trans hn))
      simpa using this
    subst hsame
    exact ⟨hdvd, by omega⟩
  · rintro ⟨hdvd, hfew⟩
    rw [restorePadding_eq_append (n := n) (by omega) (by omega), ← hn]

/-- **Padding comes back exactly where the text was well padded.**  Restoring undoes stripping on
the texts of a multiple of four bytes that do not end in four `=`, and on no others; those that
strict Base64 accepts are among them.  Stripping leaves the same of a text and of what is restored
from it, and restoring twice is restoring once.  What is restored is the shortest text of a multiple
of four bytes that continues the given one with `=`. -/
theorem padding_restored :
    (∀ s, restorePadding (stripPadding s) = s
        ↔ 4 ∣ utf8Length s ∧ ¬ List.replicate 4 '=' <:+ s)
      ∧ (∀ text bytes, Base64.decode? text = some bytes →
          restorePadding (stripPadding text.toList) = text.toList)
      ∧ ∀ t, stripPadding (restorePadding t) = stripPadding t
        ∧ restorePadding (restorePadding t) = restorePadding t
        ∧ ∃ n, restorePadding t = t ++ List.replicate n '='
          ∧ 4 ∣ utf8Length (t ++ List.replicate n '=')
          ∧ ∀ m, 4 ∣ utf8Length (t ++ List.replicate m '=') → n ≤ m := by
  refine ⟨restorePadding_stripPadding_eq_self_iff, fun text bytes h => ?_, fun t => ?_⟩
  · rw [Base64.decode?_eq_some.1 h, Base64.encode, String.toList_ofList,
      restorePadding_stripPadding]
  · obtain ⟨n, hn, heq, hdvd⟩ := exists_restorePadding t
    refine ⟨?_, restorePadding_eq_self (dvd_utf8Length_restorePadding t), n, heq, ?_,
      fun m hm => ?_⟩
    · rw [heq, stripPadding_append_replicate]
    · rwa [utf8Length_append_replicate]
    · rw [utf8Length_append_replicate] at hm
      omega

/-- The spelling of a byte, and two texts beyond Base64 that lack a `=` or have one to spare. -/
theorem padding_restored_byte :
    Base64.decode? "QQ==" = some [65]
      ∧ restorePadding (stripPadding "QQ==".toList) = "QQ==".toList
      ∧ restorePadding (stripPadding "né=".toList) = "né=".toList
      ∧ restorePadding (stripPadding "====".toList) ≠ "====".toList := by
  obtain ⟨hiff, hspelling, -⟩ := padding_restored
  have hbytes : Base64.decode? "QQ==" = some [65] := rfl
  exact ⟨hbytes, hspelling _ _ hbytes, (hiff _).2 (by decide), (hiff _).not.2 (by decide)⟩

end SealedChunk.Envelope
