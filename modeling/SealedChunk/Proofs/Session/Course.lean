import Mathlib.Data.List.Induction
import SealedChunk.Proofs.Session.Requests

/-!
# The course of a session

In the course of a session engines encrypt, decrypt, and fetch keys by external id.  Whoever has
seen a key may prepare updates for it, and have the broker carry them out, at once, later, more than
once, or never.  `Course` is a session together with what has come up in it so far: nothing of that
is needed to go on, but it is what one can ask about in the end.

* `Action`, `Course.perform` — what can be done, one thing at a time.
* `Course.play` — any number of things, one after the other.
* `Course.given` — the keys that are minted meanwhile, with the attributes that they are given.
* **`Course.play_induction`** — what every action preserves.
-/

namespace SealedChunk

open Broker Crypto Engine Envelope Session

/-- What can be done in a session.  Keys that were seen and updates that were prepared are counted
from the latest. -/
inductive Action where
  | encrypt (e : Engine) (plaintext : Bytes) (inputs : EncryptInputs) (cancellation : Cancellation)
  | decrypt (e : Engine) (envelope : String) (metadata : Metadata) (cancellation : Cancellation)
  | decryptAuto (e : Engine) (envelope : String) (metadata : Metadata) (cancellation : Cancellation)
  | keysByExternalId (e : Engine) (externalId : String) (metadata : Metadata)
    (cancellation : Cancellation)
  | prepare (key : Nat) (attributes : AttributeMap) (force : Bool)
  | apply (update : Nat)

/-- Engines that encrypt share this secret with the broker. -/
def Action.Shares (secret : Secret) : Action → Prop
  | .encrypt e _ _ _ => e.clientSecret = secret
  | _ => True

/-- An envelope that was returned, the key that was noted, and what was encrypted. -/
structure Written where
  variant : Variant
  envelope : String
  keyId : Option String
  plaintext : Bytes
  inputs : EncryptInputs

/-- A session with what has come up in its course, the latest first. -/
structure Course where
  session : Session
  /-- Keys that operations noted or returned. -/
  keys : List Key := []
  /-- Updates that were prepared, with the maps that they are to bring. -/
  prepared : List (UpdateSpec × AttributeMap) := []
  written : List Written := []
  /-- Maps that updates brought, with the ids of their keys. -/
  accepted : List (String × AttributeMap) := []
  /-- Ids of the keys that the broker minted. -/
  minted : List String := []

namespace Course

/-- The beginning of a session with a broker in memory. -/
def start (b : MemoryBroker) (nonces : Nonces) : Course :=
  { session := { backend := .memory b, nonces } }

/-- The course after a decryption. -/
def noteDecryption (c : Course) (ended : Transcript Bytes × Session) : Course :=
  { c with session := ended.2, keys := ended.1.report.capture.key.toList ++ c.keys }

/-- The course after an action. -/
def perform (c : Course) : Action → Course
  | .encrypt e plaintext inputs cancellation =>
    let ended := c.session.encrypt e plaintext inputs cancellation
    let key := ended.1.report.capture.key
    let envelope := ended.1.report.result.toOption
    { c with
      session := ended.2
      keys := key.toList ++ c.keys
      written := (envelope.map fun envelope =>
        ⟨e.variant, envelope, key.map (·.id), plaintext, inputs⟩).toList ++ c.written
      minted := c.session.mintedIds e plaintext inputs cancellation ++ c.minted }
  | .decrypt e envelope metadata cancellation =>
    c.noteDecryption (c.session.decrypt e envelope metadata cancellation)
  | .decryptAuto e envelope metadata cancellation =>
    c.noteDecryption (c.session.decryptAuto e envelope metadata cancellation)
  | .keysByExternalId e externalId metadata cancellation =>
    let ended := c.session.keysByExternalId e externalId metadata cancellation
    let fetched := ended.1.report.result.toOption.getD []
    { c with session := ended.2, keys := fetched.map (·.key) ++ c.keys }
  | .prepare key attributes force =>
    match c.keys[key]? with
    | none => c
    | some key =>
      let ended := c.session.prepareUpdate key attributes force
      { c with
        session := ended.2
        prepared := (ended.1.toOption.map fun u => (u, attributes)).toList ++ c.prepared }
  | .apply update =>
    match c.session.memory?, c.prepared[update]? with
    | some b, some (u, attributes) =>
      let ended := c.session.applyUpdate b u
      { c with
        session := ended.2
        accepted := (ended.1.toOption.map fun _ => (u.keyId, attributes)).toList ++ c.accepted }
    | _, _ => c

/-- The course after some actions, one after the other. -/
def play (c : Course) (actions : List Action) : Course := actions.foldl perform c

lemma play_nil (c : Course) : c.play [] = c := rfl

lemma play_cons (c : Course) (action : Action) (actions : List Action) :
    c.play (action :: actions) = (c.perform action).play actions := rfl

lemma play_concat (c : Course) (actions : List Action) (action : Action) :
    c.play (actions ++ [action]) = (c.play actions).perform action := by
  rw [play, List.foldl_append]
  rfl

/-- The map of the last update of a key, or the first map if there was none. -/
def current (c : Course) (keyId : String) (first : AttributeMap) : AttributeMap :=
  (c.accepted.lookup keyId).getD first

/-! ## Keys that were minted -/

/-- The keys that the broker mints for an action: their ids, with the attributes that were given. -/
def mints (c : Course) : Action → List (String × AttributeMap)
  | .encrypt e plaintext inputs cancellation =>
    (c.session.mintedIds e plaintext inputs cancellation).map fun id => (id, inputs.attributes)
  | _ => []

/-- The keys that are minted in the course of some actions, the latest first. -/
def given (c : Course) : List Action → List (String × AttributeMap)
  | [] => []
  | action :: actions => (c.perform action).given actions ++ c.mints action

lemma given_concat (c : Course) (actions : List Action) (action : Action) :
    c.given (actions ++ [action]) = (c.play actions).mints action ++ c.given actions := by
  induction actions generalizing c with
  | nil => exact (List.append_nil _).symm
  | cons first actions ih =>
    rw [List.cons_append, given, ih, play_cons, given, List.append_assoc]

/-- The ids are those that are noted as minted. -/
lemma map_fst_mints (c : Course) (action : Action) :
    (c.mints action).map Prod.fst ++ c.minted = (c.perform action).minted := by
  cases action with
  | encrypt e plaintext inputs cancellation =>
    rw [mints, List.map_map]
    exact congrArg (· ++ c.minted) (List.map_id _)
  | decrypt e envelope metadata cancellation => rfl
  | decryptAuto e envelope metadata cancellation => rfl
  | keysByExternalId e externalId metadata cancellation => rfl
  | prepare key attributes force =>
    rw [perform]
    split
    · rfl
    · rfl
  | apply update =>
    rw [perform]
    split
    · rfl
    · rfl

/-- What was minted stays minted. -/
lemma minted_suffix_perform (c : Course) (action : Action) :
    c.minted <:+ (c.perform action).minted :=
  ⟨(c.mints action).map Prod.fst, map_fst_mints c action⟩

lemma map_fst_given (c : Course) (actions : List Action) :
    (c.given actions).map Prod.fst ++ c.minted = (c.play actions).minted := by
  induction actions generalizing c with
  | nil => rfl
  | cons action actions ih =>
    rw [given, List.map_append, List.append_assoc, map_fst_mints, ih, play_cons]

/-- What holds of a course and of the keys that were given holds in the end, if every action by
which no id is minted twice preserves it.  The induction is from the end: the last action adds to
the ids that were minted before it, so those were not minted twice, either. -/
theorem play_induction {P : Course → List (String × AttributeMap) → Prop} {secret : Secret}
    (hstep : ∀ {c : Course} {given : List (String × AttributeMap)} {action : Action}, P c given →
      action.Shares secret → (c.perform action).minted.Nodup →
        P (c.perform action) (c.mints action ++ given))
    {c : Course} (given : List (String × AttributeMap)) (hc : P c given) {actions : List Action}
    (hsecret : ∀ action ∈ actions, action.Shares secret)
    (hminted : (c.play actions).minted.Nodup) :
    P (c.play actions) (c.given actions ++ given) := by
  induction actions using List.reverseRecOn with
  | nil => exact hc
  | append_singleton actions action ih =>
    rw [play_concat] at hminted ⊢
    rw [given_concat, List.append_assoc]
    obtain ⟨hearlier, hlast⟩ := List.forall_mem_append.1 hsecret
    have hsuffix := minted_suffix_perform (c.play actions) action
    exact hstep (ih hearlier (hminted.sublist hsuffix.sublist)) (hlast action List.mem_cons_self)
      hminted

end Course

end SealedChunk
