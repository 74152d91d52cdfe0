import SealedChunk.Proofs.Engine.RoundTrip

/-!
# Finding the variant of an envelope

An engine that is not told the variant of an envelope tries its own and the built-in ones.  It
exists only if these can be told apart, so at most one of them recognises a text, and it does not
matter which is tried first.

From there on the envelope is treated as by an engine that was made for the variant.  Such an engine
exists, because a built-in variant is fit beside the built-in ones.  It asks for the same, and comes
to the same result and the same notes; only its log names another variant when there is no response.

* `Exchange.Alike` — operations that cannot be told apart but by their logs.
* `alike_decryptAs` — engines that wait equally long and are equally strict decrypt alike.
* **`recognised_once`** — all of it together.
-/

namespace SealedChunk.Engine

open Broker Envelope

/-- Operations that agree, and whose notes are the same as well. -/
structure Exchange.Alike {α : Type} (x y : Exchange (Report α)) : Prop extends x.Agrees y where
  capture_eq (reply : Reply) : (x.answered reply).capture = (y.answered reply).capture

variable {d e : Engine}

lemma judge_congr (hstrict : d.strict = e.strict) : d.judge = e.judge := by
  funext v keyId findings plaintext
  rw [judge, judge, hstrict]

/-- Engines that wait equally long and are equally strict decrypt alike. -/
lemma alike_decryptAs (htimeout : d.timeout = e.timeout) (hstrict : d.strict = e.strict)
    (v : Variant) (envelope : String) (metadata : Metadata) (capture : Capture) :
    (d.decryptAs v envelope metadata capture).Alike (e.decryptAs v envelope metadata capture) := by
  have hsame (reply : Reply) : ∃ response result after,
      (d.decryptAs v envelope metadata capture).Ends reply response result after
        ∧ (e.decryptAs v envelope metadata capture).Ends reply response result after := by
    rcases decryptAs_cases v envelope e.timeout reply with
      ⟨failure, -, hends⟩ | ⟨parts, body, response, -, -, -, ⟨failure, -, hends⟩ |
        ⟨record, rest, opened, -, -, -, hends⟩⟩
    · exact ⟨_, _, _, hends d metadata capture htimeout, hends e metadata capture rfl⟩
    · exact ⟨_, _, _, hends d metadata capture, hends e metadata capture⟩
    · exact ⟨_, _, _, judge_congr hstrict ▸ hends d metadata capture, hends e metadata capture⟩
  refine ⟨⟨request?_decryptAs d e v envelope metadata capture capture, fun reply => ?_⟩,
    fun reply => ?_⟩
  · obtain ⟨_, _, _, hd, he⟩ := hsame reply
    rw [hd.result_eq, he.result_eq]
  · obtain ⟨_, _, _, hd, he⟩ := hsame reply
    rw [hd.capture_eq, he.capture_eq]

/-- The variants that an engine tries are all fit. -/
lemma fit_of_mem {v : Variant} (hv : v ∈ e.variant :: Variant.builtIn) :
    v.validateAlongside Variant.builtIn = .ok () := by
  have hbuiltIn : ∀ w ∈ Variant.builtIn, w.validateAlongside Variant.builtIn = .ok () := by decide
  rcases List.mem_cons.1 hv with rfl | hv
  · exact e.fit
  · exact hbuiltIn v hv

/-- **No text is claimed twice.**  A text that is recognised under a variant is recognised under
none that the variant was checked alongside.  So an engine finds the variant of a text in whatever
order it tries them, and then decrypts like an engine of that variant with the same settings; and a
text that none of them recognises is malformed, without a request. -/
theorem recognised_once :
    (∀ (v : Variant) (others : List Variant), v.validateAlongside others = .ok () →
        ∀ data info, classify v data = some info → ∀ w ∈ others, w ≠ v → classify w data = none)
      ∧ ∀ (e : Engine) (data : String),
        (∀ order : List Variant, order.Perm (e.variant :: Variant.builtIn) →
            classifyAny order data = classifyAny (e.variant :: Variant.builtIn) data)
        ∧ ∀ (metadata : Metadata) (capture : Capture),
          (∀ v ∈ e.variant :: Variant.builtIn, ∀ info, classify v data = some info →
              ∃ fit : v.validateAlongside Variant.builtIn = .ok (),
                (e.decryptAuto data metadata capture).Alike
                  (decrypt { e with variant := v, fit } data metadata capture))
          ∧ ((∀ v ∈ e.variant :: Variant.builtIn, classify v data = none) →
              e.decryptAuto data metadata capture = .finished (.failed (.malformedEnvelope
                e.variant.id "no known cipher variant recognises the envelope") capture [])) := by
  refine ⟨fun v others h data info hinfo w hw hne =>
    classify_eq_none_of_validateAlongside h hinfo hw hne, fun e data =>
      ⟨fun order horder => ?_,
        fun metadata capture => ⟨fun v hv info hinfo => ?_, fun hnone => ?_⟩⟩⟩
  · exact classifyAny_congr (fun w => horder.mem_iff) fun v hv w hw hne info hinfo =>
      classify_eq_none_of_mem hv hw hne hinfo
  · rw [decryptAuto_eq_decryptAs hv hinfo]
    exact ⟨fit_of_mem hv, alike_decryptAs (d := e)
      (e := { e with variant := v, fit := fit_of_mem hv }) rfl rfl v data metadata capture⟩
  · have hany : classifyAny (e.variant :: Variant.builtIn) data = none :=
      List.findSome?_eq_none_iff.2 hnone
    rw [decryptAuto, hany]

end SealedChunk.Engine
