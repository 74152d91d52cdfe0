/-!
# Decimal digits of whole numbers

Whole numbers are written without leading zeros, and with a minus sign if they are negative.

* `digits` and `value` — writing a natural number and reading a row of digits.
* **`value_digits`** — reading what was written gives the number.
-/

namespace SealedChunk.Decimal

/-- The digit for a number below ten. -/
def digitChar (n : Nat) : Char := Char.ofNat (48 + n)

/-- Whether a character is a decimal digit. -/
def isDigit (c : Char) : Bool := 48 ≤ c.toNat && c.toNat ≤ 57

/-- The number that a digit stands for. -/
def digitValue (c : Char) : Nat := c.toNat - 48

/-- The decimal digits of a number, most significant first. -/
def digits (n : Nat) : List Char :=
  if n < 10 then [digitChar n] else digits (n / 10) ++ [digitChar (n % 10)]
termination_by n

/-- The number that a row of digits stands for. -/
def value (ds : List Char) : Nat := ds.foldl (fun n d => 10 * n + digitValue d) 0

theorem digitValue_digitChar : ∀ n, n < 10 → digitValue (digitChar n) = n := by decide

theorem isDigit_digitChar : ∀ n, n < 10 → isDigit (digitChar n) = true := by decide

/-- Reading the digits of a number gives the number. -/
theorem value_digits (n : Nat) : value (digits n) = n := by
  fun_induction digits n with
  | case1 n h => simp [value, digitValue_digitChar n h]
  | case2 n h ih =>
    simp only [value, List.foldl_append, List.foldl_cons, List.foldl_nil] at ih ⊢
    rw [ih, digitValue_digitChar _ (Nat.mod_lt _ (by decide))]
    omega

theorem isDigit_of_mem_digits {n : Nat} {c : Char} (h : c ∈ digits n) : isDigit c = true := by
  fun_induction digits n with
  | case1 n hn => simp only [List.mem_singleton] at h; exact h ▸ isDigit_digitChar n hn
  | case2 n hn ih =>
    rcases List.mem_append.1 h with h | h
    · exact ih h
    · simp only [List.mem_singleton] at h
      exact h ▸ isDigit_digitChar _ (Nat.mod_lt _ (by decide))

/-- Only zero is written with a leading zero. -/
theorem exists_digits_eq_cons (n : Nat) :
    ∃ c ds, digits n = c :: ds ∧ (c = '0' → n = 0) := by
  fun_induction digits n with
  | case1 n h =>
    have hzero : ∀ n, n < 10 → digitChar n = '0' → n = 0 := by decide
    exact ⟨digitChar n, [], rfl, hzero n h⟩
  | case2 n h ih =>
    obtain ⟨c, ds, hds, hc⟩ := ih
    refine ⟨c, ds ++ [digitChar (n % 10)], by rw [hds]; rfl, fun h0 => ?_⟩
    have := hc h0
    omega

/-- The digits of an integer, after a minus sign if it is negative. -/
def integer : Int → List Char
  | .ofNat n => digits n
  | .negSucc n => '-' :: digits (n + 1)

/-- The text of an integer, as messages show it. -/
def text (n : Int) : String := String.ofList (integer n)

end SealedChunk.Decimal
