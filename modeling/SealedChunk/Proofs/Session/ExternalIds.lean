import SealedChunk.Proofs.Broker.ExternalIds
import SealedChunk.Proofs.Session.RoundTrip
import SealedChunk.Proofs.Text.ByteOrder

/-!
# Keys by external id in the course of a session

Each action changes the records of the broker in one of the ways in which they change at all, or it
leaves them alone.  So in the end the broker has the keys that were minted and no others, with the
immutable attributes that were given, and a request by an external id finds just those that were
given that external id.

* `exists_change_perform` — what an action does to the records.
* `exists_lists_play` — the keys in the end.
* **`keysByExternalId_play`** — what is found in the end.
-/

namespace SealedChunk

open Attribute Broker Crypto Engine Session

namespace Course

variable {c : Course} {secret : Secret} {b : MemoryBroker} {given : List (String × AttributeMap)}

/-! ## One action -/

lemma change_encrypt (h : c.Keeps secret b) {e : Engine} (he : e.clientSecret = secret)
    (plaintext : Bytes) (inputs : EncryptInputs) (cancellation : Cancellation) :
    ∃ after, (c.session.encrypt e plaintext inputs cancellation).2.backend = .memory after
      ∧ b.Change (c.mints (.encrypt e plaintext inputs cancellation)) after := by
  rw [mints]
  rcases encrypt_cases h.backend e plaintext inputs cancellation with
    ⟨-, -, hbackend, hids⟩ | ⟨request, between, horder, hplaintext, hcancellation⟩
  · rw [hids]
    exact ⟨b, hbackend, .kept b.queue b.counter⟩
  · obtain ⟨-, hbackend, hids⟩ := encrypt_of_order h.backend hplaintext horder hcancellation
    refine ⟨_, hbackend, ?_⟩
    rw [hids]
    obtain ⟨spec, hkeys, hquantity, hfixed, hcurrent⟩ := order_eq_ok horder
    rw [he, ← h.clientSecret] at hfixed hcurrent
    rcases hnext : b.nextKey with ⟨⟨id, keySecret⟩, after⟩
    obtain ⟨queue, counter, rfl⟩ := MemoryBroker.eq_of_nextKey hnext
    rcases MemoryBroker.create_cases h.orderly.deny hnext hkeys hquantity hfixed hcurrent between
      with ⟨-, hnone, hbroker⟩ | ⟨record, hone, hholds, hbroker⟩
    · rw [hnone, hbroker]
      exact .kept queue counter
    · rw [hone, hbroker, List.map_singleton, List.map_singleton, hholds.id_eq]
      exact .put queue counter hholds

lemma change_apply (h : c.Keeps secret b) (update : Nat) :
    ∃ after, (c.perform (.apply update)).session.backend = .memory after ∧ b.Change [] after := by
  have hmemory : c.session.memory? = some b := by rw [memory?, h.backend]
  rw [perform, hmemory]
  cases c.prepared[update]? with
  | none => exact ⟨b, h.backend, .kept b.queue b.counter⟩
  | some order =>
    dsimp only
    rw [applyUpdate]
    rcases hupdate : (b.update order.1).run c.session.nonces with ⟨error | after, later⟩
    · exact ⟨b, h.backend, .kept b.queue b.counter⟩
    · exact ⟨after, rfl, MemoryBroker.change_update hupdate⟩

/-- **What one action does to the records**, by the keys that are minted for it. -/
lemma exists_change_perform (h : c.Keeps secret b) {action : Action} (ha : action.Shares secret) :
    ∃ after, (c.perform action).session.backend = .memory after
      ∧ b.Change (c.mints action) after := by
  cases action with
  | encrypt e plaintext inputs cancellation =>
    exact change_encrypt h ha plaintext inputs cancellation
  | decrypt e envelope metadata cancellation =>
    obtain ⟨hsame, -⟩ :=
      has_of_decryptAs h.backend h.orderly e e.variant envelope metadata cancellation
    exact ⟨b, (congrArg Session.backend hsame).trans h.backend, .kept b.queue b.counter⟩
  | decryptAuto e envelope metadata cancellation =>
    exact ⟨b, (keeps_decryptAuto h e envelope metadata cancellation).backend,
      .kept b.queue b.counter⟩
  | keysByExternalId e externalId metadata cancellation =>
    exact ⟨b, (keeps_keysByExternalId h e externalId metadata cancellation).backend,
      .kept b.queue b.counter⟩
  | prepare key attributes force =>
    exact ⟨b, (keeps_prepare h key attributes force).backend, .kept b.queue b.counter⟩
  | apply update => exact change_apply h update

/-- The keys that are minted for an action come to those that the broker has. -/
lemma exists_lists_perform (h : c.Keeps secret b) (hsound : b.Sound) (hlists : b.Lists given)
    {action : Action} (ha : action.Shares secret) (hminted : (c.perform action).minted.Nodup) :
    ∃ after, (c.perform action).Keeps secret after ∧ after.Sound
      ∧ after.Lists (c.mints action ++ given) := by
  obtain ⟨after, hkeeps⟩ := exists_keeps_perform h ha hminted
  obtain ⟨other, hbackend, hchange⟩ := exists_change_perform h ha
  obtain rfl : after = other := Backend.memory.inj (hkeeps.backend.symm.trans hbackend)
  refine ⟨after, hkeeps, hsound.change hchange, hlists.change hchange ?_⟩
  -- an id that was minted before would now be there twice
  rw [← map_fst_mints, List.nodup_append] at hminted
  intro entry hentry
  rw [Option.eq_none_iff_forall_ne_some]
  intro record hfind
  exact hminted.2.2 entry.1 (List.mem_map_of_mem hentry) entry.1 (h.minted hfind) rfl

/-! ## Any number of actions -/

/-- **The keys in the end** are those that were there, and those that were minted. -/
lemma exists_lists_play (h : c.Keeps secret b) (hsound : b.Sound) (hlists : b.Lists given)
    {actions : List Action} (hsecret : ∀ action ∈ actions, action.Shares secret)
    (hminted : (c.play actions).minted.Nodup) :
    ∃ after, (c.play actions).Keeps secret after ∧ after.Sound
      ∧ after.Lists (c.given actions ++ given) := by
  refine play_induction
    (P := fun c given => ∃ b, c.Keeps secret b ∧ b.Sound ∧ b.Lists given) ?_ given
    ⟨b, h, hsound, hlists⟩ hsecret hminted
  rintro c given action ⟨b, hb, hsound, hlists⟩ ha hminted
  exact exists_lists_perform hb hsound hlists ha hminted

/-! ## The end of a session -/

/-- **Keys are found by their external ids.**  Let a broker in memory begin without records, let
engines that share its secret use it in any order and as often as they like, with updates in
between, and let no id be minted twice.  Then in the end any engine, strict or not, may ask for the
keys with an external id, and gets the keys that were minted with that external id among their
immutable attributes: all of these and no others, each of them once and with just the attributes
that were given, also if no envelope came of it.  They are in ascending order of the bytes of their
ids, and nothing is found on opening them. -/
theorem keysByExternalId_play {nonces : Nonces} {actions : List Action}
    (hempty : b.records = .empty) (hdeny : b.deny = false) (hanswerAs : b.answerAs = none)
    (hsecret : ∀ action ∈ actions, action.Shares b.clientSecret)
    (hminted : ((start b nonces).play actions).minted.Nodup) :
    let course := (start b nonces).play actions
    let given := (start b nonces).given actions
    given.map Prod.fst = course.minted
      ∧ ∀ (d : Engine) (externalId : String) (metadata : Metadata) (cancellation : Cancellation),
        externalId ≠ "" → cancellation ≠ .before →
          ∃ fetched,
            (course.session.keysByExternalId d externalId metadata cancellation).1.report.result
                = .ok fetched
              ∧ (fetched.map fun f => Bytes.ofText f.key.id).Pairwise (· < ·)
              ∧ (∀ f ∈ fetched, f.findings = {})
              ∧ ∀ id m, (∃ f ∈ fetched, f.key.id = id ∧ f.key.attributes = m)
                ↔ (id, m) ∈ given
                  ∧ ∃ values, m.find? externalIdName = some values ∧ externalId ∈ values := by
  intro course given
  have hids : given.map Prod.fst = course.minted := by
    rw [← List.append_nil (given.map Prod.fst)]
    exact map_fst_given (start b nonces) actions
  refine ⟨hids, ?_⟩
  intro d externalId metadata cancellation hexternalId hcancellation
  obtain ⟨after, hafter, hsound, hlists⟩ :=
    exists_lists_play (keeps_start hempty hdeny hanswerAs nonces)
      (MemoryBroker.sound_of_empty hempty) (MemoryBroker.lists_of_empty hempty) hsecret hminted
  rw [List.append_nil] at hlists
  obtain ⟨fetched, hfetched, hascending, hfindings, hmem⟩ :=
    exists_finishFetch hafter.orderly hsound hlists d externalId metadata
  refine ⟨fetched, ?_, ?_, hfindings, hmem⟩
  · obtain ⟨-, hreport⟩ := carry_fetch hafter.backend d cancellation
      { metadata, externalIds := [externalId] } (d.finishFetch externalId {})
    rw [if_neg hcancellation] at hreport
    have hnonempty : externalId.isEmpty = false := by simpa using hexternalId
    rw [Session.keysByExternalId, Engine.keysByExternalId, hnonempty]
    exact (congrArg Report.result hreport).trans hfetched
  · rw [List.pairwise_map] at hascending ⊢
    exact hascending.imp Bytes.ofText_lt

/-- Two external ids, and something to keep to oneself. -/
def listedInputs : EncryptInputs :=
  { attributes := .ofList [("external-id", ["order-7", "invoice-3"]), ("protected-ssn", ["1"])] }

/-- A key that is found by the second of its external ids. -/
theorem keysByExternalId_play_second :
    let actions : List Action := [.encrypt someEngine [104] listedInputs .never]
    let course := (start someBroker (.ofBytes [])).play actions
    course.minted.Nodup ∧ ∃ fetched,
      (course.session.keysByExternalId someEngine "invoice-3" .empty .never).1.report.result
          = .ok fetched
        ∧ ∃ f ∈ fetched, f.key.id = "abc.def" ∧ f.key.attributes = listedInputs.attributes := by
  intro actions course
  obtain ⟨session, key, envelope, hid, hencrypted⟩ :=
    @exists_perform_byte listedInputs (by decide) (by decide)
  have hids : course.minted = ["abc.def"] := by
    rw [← hid]
    exact congrArg Course.minted hencrypted
  have hminted : course.minted.Nodup := by
    rw [hids]
    simp
  have hmint :
      (start someBroker (.ofBytes [])).session.mintedIds someEngine [104] listedInputs .never
        = ["abc.def"] := (List.append_nil _).symm.trans hids
  have hgiven : (start someBroker (.ofBytes [])).given actions
      = [("abc.def", listedInputs.attributes)] := by
    rw [given, given, List.nil_append, mints, hmint, List.map_singleton]
  have hshared : ∀ action ∈ actions, action.Shares (.ofByte 5) :=
    List.forall_mem_singleton.2 rfl
  obtain ⟨-, hfinds⟩ := keysByExternalId_play (b := someBroker) rfl rfl rfl hshared hminted
  obtain ⟨fetched, hfetched, -, -, hmem⟩ :=
    hfinds someEngine "invoice-3" .empty .never (by decide) (by simp)
  refine ⟨hminted, fetched, hfetched, (hmem _ _).2 ⟨?_, _, rfl, by decide⟩⟩
  rw [hgiven]
  exact List.mem_cons_self

end Course

end SealedChunk
