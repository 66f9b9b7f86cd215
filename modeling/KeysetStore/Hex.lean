import KeysetStore.Power

/-!
# Hex — hexadecimal digits

A number is written with a fixed count of lower-case digits, high digits first, and read back from
digits of either case.  `value?_digits` says that reading undoes writing for every number that fits.
-/

namespace KeysetStore.Hex

/-- The lower-case digit of a number below sixteen. -/
def digit (n : Nat) : Char := if n < 10 then Char.ofNat (48 + n) else Char.ofNat (87 + n)

/-- The value of a digit of either case; no other character has one. -/
def digitValue? (c : Char) : Option Nat :=
  if '0' ≤ c ∧ c ≤ '9' then some (c.toNat - 48)
  else if 'a' ≤ c ∧ c ≤ 'f' then some (c.toNat - 87)
  else if 'A' ≤ c ∧ c ≤ 'F' then some (c.toNat - 55)
  else none

/-- The last `count` digits of a number, high digits first. -/
def digits : (count : Nat) → (n : Nat) → List Char
  | 0, _ => []
  | count + 1, n => digits count (n / 16) ++ [digit (n % 16)]

/-- The number a list of digits writes, after the digits already read into `acc`. -/
def value? (acc : Nat) : List Char → Option Nat
  | [] => some acc
  | c :: rest => (digitValue? c).bind fun d => value? (16 * acc + d) rest

@[simp] theorem length_digits (count n : Nat) : (digits count n).length = count := by
  induction count generalizing n with
  | zero => rfl
  | succ count ih => simp [digits, ih]

theorem digitValue?_digit {n : Nat} (h : n < 16) : digitValue? (digit n) = some n := by
  have : ∀ m : Fin 16, digitValue? (digit m) = some m.val := by decide
  exact this ⟨n, h⟩

theorem value?_append (acc : Nat) (xs ys : List Char) :
    value? acc (xs ++ ys) = (value? acc xs).bind (value? · ys) := by
  induction xs generalizing acc with
  | nil => rfl
  | cons c xs ih =>
    cases h : digitValue? c <;> simp [value?, h, ih]

/-- **Reading undoes writing.** -/
theorem value?_digits (acc : Nat) (count n : Nat) (h : n < 16 ^ count) :
    value? acc (digits count n) = some (16 ^ count * acc + n) := by
  induction count generalizing n with
  | zero => simp [digits, value?]; omega
  | succ count ih =>
    have hq : n / 16 < 16 ^ count := by
      rw [Nat.div_lt_iff_lt_mul (by decide)]; omega
    rw [digits, value?_append, ih _ hq]
    simp only [Option.bind_some, value?, digitValue?_digit (Nat.mod_lt n (by decide))]
    congr 1
    rw [Nat.pow_succ, Nat.mul_add, ← Nat.mul_assoc, Nat.mul_comm 16 (16 ^ count), Nat.add_assoc,
      Nat.div_add_mod]

end KeysetStore.Hex
