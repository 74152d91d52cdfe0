import SealedChunk.Proofs.Broker.Records
import SealedChunk.Proofs.Engine.RoundTrip
import SealedChunk.Session.Session

/-!
# One request, and which

To mint a key twice is not the same as to mint it once, so a request that is made again, or too
early, does harm that nobody sees.  What a call asks its broker for is therefore settled before the
broker says anything: it is a matter of what the caller gave to the engine.  An encryption orders
one key, with the caller's attributes closed under the client secret; a decryption fetches the key
that its envelope names; and what can be refused without the broker is refused without it.

Whoever carries the operation makes that request once, if there is one.  Neither an answer nor the
lack of one leads to another, and the broker is left as the one request leaves it.

* `Session.after` — a session once a request was made.
* `Exchange.Asks` — what an operation asks for, whoever carries it.
* `Exchange.Asks.carry`, `Exchange.Asks.encrypt` — whole calls.
* `CreateSpec.Orders`, `exists_orders` — the key that is ordered for an encryption.
* `Exchange.AsksAsRead`, `asksAsRead_decryptAs` — a request for the key that an envelope names.
* **`asks_once`** — all operations of an engine.
-/

namespace SealedChunk

open Broker Attribute Crypto Envelope Engine Session

/-- The session once this request was made, if there is one: the broker has answered it, and nothing
else has happened. -/
def Session.after (s : Session) : Option Request → Session
  | none => s
  | some request =>
    { backend := (s.backend.answer request s.nonces).backend
      nonces := (s.backend.answer request s.nonces).nonces }

/-- What is ordered for an encryption: one key, with the variant's id in place of its own, and with
slots that read under the client secret as the caller's maps. -/
structure Broker.CreateSpec.Orders (spec : CreateSpec) (e : Engine) (inputs : EncryptInputs) :
    Prop where
  ref_eq : spec.ref = e.variant.id
  quantity_eq : spec.quantity = 1
  fixed : spec.attributes.Reads e.clientSecret.bytes (.ofSlot .immutable e.variant.id)
    inputs.attributes
  current : spec.mutableAttributes.Reads e.clientSecret.bytes (.ofSlot .mutable e.variant.id)
    inputs.mutableAttributes

namespace Engine

/-! ## What an operation asks for -/

/-- The operation asks for this, if for anything, and only once: whatever the session that carries
it, and however long the answer may take, unless it is called off before it begins. -/
structure Exchange.Asks {α : Type} (exchange : Exchange α) (request : Option Request) : Prop where
  request_eq (s : Session) (bound : Duration) {cancellation : Cancellation} :
    cancellation ≠ .before → (s.exchange bound cancellation exchange).1.2 = request
  session_eq (s : Session) (bound : Duration) {cancellation : Cancellation} :
    cancellation ≠ .before → (s.exchange bound cancellation exchange).2 = s.after request

/-- Every operation asks for what it awaits, and for nothing if it is finished. -/
lemma Exchange.asks_of_request? {α : Type} {exchange : Exchange α} {request : Option Request}
    (h : exchange.request? = request) : exchange.Asks request := by
  subst h
  cases exchange with
  | finished result => exact ⟨fun _ _ _ _ => rfl, fun _ _ _ _ => rfl⟩
  | awaiting request resume =>
    constructor
    all_goals
      intro s bound cancellation hcancellation
      rw [Session.exchange, if_neg hcancellation]
      rfl

variable {e : Engine} {inputs : EncryptInputs} {nonces later : Nonces}

/-- A call that draws no nonces makes the request that its operation asks for. -/
theorem Exchange.Asks.carry {α : Type} {operation : Exchange (Report α)} {request : Option Request}
    (h : operation.Asks request) (s : Session) (e : Engine) {cancellation : Cancellation}
    (hcancellation : cancellation ≠ .before) :
    (s.carry e cancellation operation).1.request = request
      ∧ (s.carry e cancellation operation).2 = s.after request :=
  ⟨h.request_eq s e.timeout hcancellation, h.session_eq s e.timeout hcancellation⟩

/-- So does an encryption, after the nonces for its order are drawn; those for the payload are drawn
without the broker. -/
theorem Exchange.Asks.encrypt {plaintext : Bytes} {request : Option Request} {s : Session}
    (h : (e.encrypt plaintext inputs {} s.nonces).1.Asks request) {cancellation : Cancellation}
    (hcancellation : cancellation ≠ .before) :
    let drawn : Session := { s with nonces := (e.encrypt plaintext inputs {} s.nonces).2 }
    (s.encrypt e plaintext inputs cancellation).1.request = request
      ∧ (s.encrypt e plaintext inputs cancellation).2.backend = (drawn.after request).backend := by
  intro drawn
  have hsession := h.session_eq drawn e.timeout hcancellation
  refine ⟨h.request_eq drawn e.timeout hcancellation, ?_⟩
  rw [← hsession]
  rfl

/-! ## Orders -/

lemma sealable_of_signOutbound {m : AttributeMap} {slot : Slot} {signed : SignedAttributes}
    (h : (e.signOutbound m slot).run nonces = (.ok signed, later)) : Sealable m e.variant.id :=
  (encodeSlot_isOk_iff e.clientSecret.length_eq nonces).1
    ⟨signed, later, Drawing.run_mapError_eq_ok_iff.1 h⟩

/-- Both maps of an order could be sealed. -/
lemma sealable_of_order {request : CreateRequest}
    (h : (e.order inputs).run nonces = (.ok request, later)) :
    Sealable inputs.attributes e.variant.id ∧ Sealable inputs.mutableAttributes e.variant.id := by
  obtain ⟨fixed, between, hfixed, h⟩ := Drawing.run_bind_eq_ok_iff.1 h
  obtain ⟨current, after, hcurrent, -⟩ := Drawing.run_bind_eq_ok_iff.1 h
  exact ⟨sealable_of_signOutbound hfixed, sealable_of_signOutbound hcurrent⟩

/-- And if both can be sealed, there is an order. -/
lemma exists_orders (hfixed : Sealable inputs.attributes e.variant.id)
    (hcurrent : Sealable inputs.mutableAttributes e.variant.id) (nonces : Nonces) :
    ∃ spec later, spec.Orders e inputs ∧ (e.order inputs).run nonces
      = (.ok { metadata := inputs.metadata, keys := [spec] }, later) := by
  obtain ⟨request, later, horder⟩ := exists_order hfixed hcurrent nonces
  obtain ⟨fixed, between, hsigned, h⟩ := Drawing.run_bind_eq_ok_iff.1 horder
  obtain ⟨current, after, hsigned', h⟩ := Drawing.run_bind_eq_ok_iff.1 h
  obtain ⟨rfl, -⟩ := Drawing.run_pure_eq_ok_iff.1 h
  exact ⟨_, later, ⟨rfl, rfl, signOutbound_eq_ok hsigned, signOutbound_eq_ok hsigned'⟩, horder⟩

lemma request?_encrypt {plaintext : Bytes} (hplaintext : plaintext ≠ []) (capture : Capture) :
    (e.encrypt plaintext inputs capture nonces).1.request?
      = ((e.order inputs).run nonces).1.toOption.map .create := by
  rw [encrypt, if_neg (by simpa using hplaintext)]
  rcases (e.order inputs).run nonces with ⟨failure | request, later⟩ <;> rfl

/-! ## Requests for keys -/

/-- The operation asks for the key that the envelope names, if the envelope can be read and its body
is Base64, and else for nothing. -/
structure Exchange.AsksAsRead {α : Type} (exchange : Exchange α) (v : Variant) (envelope : String)
    (metadata : Metadata) : Prop where
  fetch {parts : Parts} {body : Bytes} : Envelope.decode v envelope = .ok parts →
    Base64.decode? parts.base64 = some body →
      exchange.Asks (some (.fetch { metadata, keyIds := [parts.keyId], externalIds := [] }))
  nothing : (∀ parts, Envelope.decode v envelope = .ok parts →
    Base64.decode? parts.base64 = none) → exchange.Asks none

lemma asksAsRead_decryptAs (e : Engine) (v : Variant) (envelope : String) (metadata : Metadata)
    (capture : Capture) :
    (e.decryptAs v envelope metadata capture).AsksAsRead v envelope metadata where
  fetch := by
    intro parts body hparts hbody
    rw [decryptAs_eq_awaiting hparts hbody]
    exact Exchange.asks_of_request? rfl
  nothing := by
    intro hnone
    rw [decryptAs]
    cases hparts : Envelope.decode v envelope with
    | error error => exact Exchange.asks_of_request? rfl
    | ok parts =>
      dsimp only
      rw [hnone parts hparts]
      exact Exchange.asks_of_request? rfl

/-! ## All operations -/

/-- **An engine asks once, and for the right thing.**  Whatever was noted before:

* To encrypt nothing, it asks for nothing.  Otherwise, and unless a map is too long to be sealed, it
  asks for one key, with the caller's metadata, and with slots that read under the client secret as
  the caller's maps: their signatures hold, and nothing in them fails to open.
* To decrypt, it asks with the caller's metadata for the one key that the envelope names, under the
  variant that it is of, or for nothing if there is no such variant, if the envelope cannot be read,
  or if its body is not Base64.
* To find keys by an external id, it asks for those with that id, if there is one. -/
theorem asks_once (e : Engine) (capture : Capture) :
    (∀ inputs nonces, (e.encrypt [] inputs capture nonces).1.Asks none)
      ∧ (∀ plaintext inputs nonces, plaintext ≠ [] →
          (Sealable inputs.attributes e.variant.id
              ∧ Sealable inputs.mutableAttributes e.variant.id →
            ∃ spec : CreateSpec, spec.Orders e inputs
              ∧ (e.encrypt plaintext inputs capture nonces).1.Asks
                (some (.create { metadata := inputs.metadata, keys := [spec] })))
          ∧ (¬ (Sealable inputs.attributes e.variant.id
                ∧ Sealable inputs.mutableAttributes e.variant.id) →
              (e.encrypt plaintext inputs capture nonces).1.Asks none))
      ∧ (∀ envelope metadata,
          (e.decrypt envelope metadata capture).AsksAsRead e.variant envelope metadata)
      ∧ (∀ envelope metadata,
          (∀ v ∈ e.variant :: Variant.builtIn, ∀ info, classify v envelope = some info →
            (e.decryptAuto envelope metadata capture).AsksAsRead v envelope metadata)
          ∧ ((∀ v ∈ e.variant :: Variant.builtIn, classify v envelope = none) →
              (e.decryptAuto envelope metadata capture).Asks none))
      ∧ ∀ externalId metadata, (e.keysByExternalId externalId metadata capture).Asks
          (if externalId = "" then none
            else some (.fetch { metadata, keyIds := [], externalIds := [externalId] })) := by
  refine ⟨fun inputs nonces => Exchange.asks_of_request? rfl,
    fun plaintext inputs nonces hplaintext => ⟨?_, ?_⟩,
    fun envelope metadata => asksAsRead_decryptAs e e.variant envelope metadata capture,
    fun envelope metadata => ⟨?_, ?_⟩, fun externalId metadata => ?_⟩
  · rintro ⟨hfixed, hcurrent⟩
    obtain ⟨spec, later, horders, horder⟩ := exists_orders hfixed hcurrent nonces
    refine ⟨spec, horders, Exchange.asks_of_request? ?_⟩
    rw [request?_encrypt hplaintext, horder]
    rfl
  · intro hlong
    refine Exchange.asks_of_request? ?_
    rw [request?_encrypt hplaintext]
    rcases horder : (e.order inputs).run nonces with ⟨failure | request, later⟩
    · rfl
    · exact absurd (sealable_of_order horder) hlong
  · intro v hv info hinfo
    rw [decryptAuto_eq_decryptAs hv hinfo]
    exact asksAsRead_decryptAs e v envelope metadata capture
  · intro hnone
    have hany : classifyAny (e.variant :: Variant.builtIn) envelope = none :=
      List.findSome?_eq_none_iff.2 hnone
    rw [decryptAuto, hany]
    exact Exchange.asks_of_request? rfl
  · rw [keysByExternalId]
    by_cases h : externalId = ""
    · subst h
      exact Exchange.asks_of_request? rfl
    · rw [if_neg h, if_neg (by simpa using h)]
      exact Exchange.asks_of_request? rfl

/-- A broker that cannot be reached at first, asked for a key with a protected attribute, or for the
key of an envelope of another variant than the engine's.  It is not asked again, though it could be
reached by then. -/
theorem asks_once_unreachable :
    let inputs : EncryptInputs := { attributes := OrderedMap.ofList [("protected-ssn", ["1"])] }
    let envelope := "~!1!abc.def!1!QUJD!1!~"
    let later : Scripted := { outcome := .ok { keys := [] } }
    let s : Session := ⟨.script [{ outcome := .error "away" }, later], .ofBytes [7]⟩
    (∃ spec : CreateSpec, spec.Orders someEngine inputs
        ∧ (s.encrypt someEngine [104] inputs .never).1.request
          = some (.create { metadata := .empty, keys := [spec] })
        ∧ (s.encrypt someEngine [104] inputs .never).2.backend = .script [later])
      ∧ (s.decrypt someEngine envelope .empty .never).1.request = none
      ∧ (s.decryptAuto someEngine envelope .empty .never).1.request
        = some (.fetch { metadata := .empty, keyIds := ["abc.def"], externalIds := [] })
      ∧ (s.decryptAuto someEngine envelope .empty .never).2.backend = .script [later] := by
  intro inputs envelope later s
  obtain ⟨-, hencrypt, hdecrypt, hauto, -⟩ := asks_once someEngine {}
  have hnever : Cancellation.never ≠ .before := by decide
  have hsealable : Sealable inputs.attributes someEngine.variant.id
      ∧ Sealable inputs.mutableAttributes someEngine.variant.id := by decide
  obtain ⟨spec, horders, hasks⟩ :=
    (hencrypt [104] inputs s.nonces (List.cons_ne_nil _ _)).1 hsealable
  obtain ⟨hrequest, hbackend⟩ := hasks.encrypt hnever
  have hunread : Envelope.decode someEngine.variant envelope = .error .missingKeyTag := by decide
  have hnothing : (someEngine.decrypt envelope .empty {}).Asks none :=
    (hdecrypt envelope .empty).nothing fun parts h => by
      rw [hunread] at h
      cases h
  have hinfo : classify .v1 envelope = some ⟨.v1, "abc.def", 14, 4⟩ := by decide
  have hparts : Envelope.decode .v1 envelope = .ok ⟨"abc.def", "QUJD"⟩ := by decide
  have hbody : Base64.decode? "QUJD" = some [65, 66, 67] := by decide
  have hfetches := ((hauto envelope .empty).1 .v1 (by decide) _ hinfo).fetch hparts hbody
  obtain ⟨hfetch, hsession⟩ := hfetches.carry s someEngine hnever
  exact ⟨⟨spec, horders, hrequest, hbackend⟩, (hnothing.carry s someEngine hnever).1, hfetch,
    congrArg Session.backend hsession⟩

end Engine

end SealedChunk
