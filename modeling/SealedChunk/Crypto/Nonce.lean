import SealedChunk.Bytes

/-!
# Nonces

Every sealing takes a fresh nonce.  Nonces come from a supply, a stream of them with a count of how
many are used up, so what a computation seals is a function of where it stands in the stream.

* `Nonce`, `Nonces` — twelve bytes, and the supply.
* `Drawing` — a computation that may draw nonces and may fail.  Nonces drawn before a failure stay
  drawn.
-/

namespace SealedChunk.Crypto

/-- Twelve bytes that are used once. -/
structure Nonce where
  bytes : Bytes
  length_eq : bytes.length = 12

/-- A nonce is the first twelve bytes of what it stands before. -/
theorem Nonce.take_append (nonce : Nonce) (rest : Bytes) :
    (nonce.bytes ++ rest).take 12 = nonce.bytes := by
  rw [← nonce.length_eq, List.take_left]

theorem Nonce.drop_append (nonce : Nonce) (rest : Bytes) :
    (nonce.bytes ++ rest).drop 12 = rest := by
  rw [← nonce.length_eq, List.drop_left]

/-- A supply of nonces. -/
structure Nonces where
  stream : Nat → Nonce
  /-- How many nonces of the stream are used up. -/
  drawn : Nat

/-- The next nonce, and the supply without it. -/
def Nonces.draw (nonces : Nonces) : Nonce × Nonces :=
  (nonces.stream nonces.drawn, { nonces with drawn := nonces.drawn + 1 })

/-- A supply that repeats some bytes without end; none at all repeat zeros. -/
def Nonces.ofBytes (bytes : Bytes) : Nonces :=
  let cells := bytes.toArray
  { stream := fun n =>
      ⟨(List.range 12).map fun i => cells.getD ((12 * n + i) % cells.size) 0, by simp⟩
    drawn := 0 }

/-- A computation that may draw nonces, and fails with `ε` or gives an `α`. -/
def Drawing (ε α : Type) : Type := Nonces → Except ε α × Nonces

namespace Drawing

variable {ε α β : Type}

/-- Runs the computation. -/
def run (x : Drawing ε α) (nonces : Nonces) : Except ε α × Nonces := x nonces

/-- Draws a nonce. -/
def draw : Drawing ε Nonce := fun nonces => (.ok nonces.draw.1, nonces.draw.2)

/-- A computation that draws nothing. -/
def lift (outcome : Except ε α) : Drawing ε α := fun nonces => (outcome, nonces)

/-- Changes the failure of a computation. -/
def mapError {ε' : Type} (f : ε → ε') (x : Drawing ε α) : Drawing ε' α := fun nonces =>
  ((x nonces).1.mapError f, (x nonces).2)

instance : Monad (Drawing ε) where
  pure a := fun nonces => (.ok a, nonces)
  bind x f := fun nonces =>
    match x nonces with
    | (.ok a, nonces) => f a nonces
    | (.error e, nonces) => (.error e, nonces)

theorem run_pure (a : α) (nonces : Nonces) : (pure a : Drawing ε α).run nonces = (.ok a, nonces) :=
  rfl

theorem run_lift (outcome : Except ε α) (nonces : Nonces) :
    (lift outcome).run nonces = (outcome, nonces) :=
  rfl

/-- A sequence goes on where its first part succeeded, with the nonces left over. -/
theorem run_bind_ok {x : Drawing ε α} {f : α → Drawing ε β} {a : α} {nonces later : Nonces}
    (h : x.run nonces = (.ok a, later)) : (x >>= f).run nonces = (f a).run later := by
  show (match x nonces with | (.ok a, n) => f a n | (.error e, n) => (.error e, n)) = _
  rw [show x nonces = (.ok a, later) from h]
  rfl

/-- A sequence fails where its first part failed. -/
theorem run_bind_error {x : Drawing ε α} {f : α → Drawing ε β} {e : ε} {nonces later : Nonces}
    (h : x.run nonces = (.error e, later)) : (x >>= f).run nonces = (.error e, later) := by
  show (match x nonces with | (.ok a, n) => f a n | (.error e, n) => (.error e, n)) = _
  rw [show x nonces = (.error e, later) from h]

end Drawing

end SealedChunk.Crypto
