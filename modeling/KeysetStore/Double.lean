import KeysetStore.Power

/-!
# Double — binary64 numbers, by their bits

A double is its 64 bits.  Everything that is asked of one here is exact integer arithmetic on them:
the order is the order of an integer *position* on the line (`position?`), an integer is rounded to
the nearest double with ties to even (`ofInt`), and a whole double is read back as an integer
(`whole?`).
-/

namespace KeysetStore

/-- A binary64 number: sign, eleven exponent bits and 52 fraction bits. -/
structure Double where
  /-- The bits, sign first. -/
  bits : BitVec 64
deriving DecidableEq, Inhabited

namespace Double

/-- The sign bit, set also in the negative zero. -/
def negative (x : Double) : Bool := 2 ^ (63 : Nat) ≤ x.bits.toNat

/-- The bits below the sign.  They grow with the absolute value. -/
def magnitude (x : Double) : Nat := x.bits.toNat % 2 ^ (63 : Nat)

/-- The magnitude of the infinities; every greater one is no number. -/
def infinite : Nat := 2047 * 2 ^ (52 : Nat)

/-- Whether the bits stand for no number. -/
def isNaN (x : Double) : Bool := infinite < x.magnitude

/-- **The place of a double on the line**, and none for a NaN.  The two zeros share the place
`0`. -/
def position? (x : Double) : Option Int :=
  if x.isNaN then none else some (if x.negative then -(x.magnitude : Int) else x.magnitude)

/-- A quotient by `2 ^ shift`, rounded to nearest, a tie to the even neighbour. -/
def halfEven (m shift : Nat) : Nat :=
  let quotient := m / 2 ^ shift
  let twice := 2 * (m % 2 ^ shift)
  if 2 ^ shift < twice ∨ (twice = 2 ^ shift ∧ quotient % 2 = 1) then quotient + 1 else quotient

/-- The magnitude nearest to a natural number.  The leading bit of the 53 kept ones adds the last
step of the exponent, and so does a carry out of the rounding. -/
def nearestMagnitude (m : Nat) : Nat :=
  if m = 0 then 0
  else if m.log2 ≤ 52 then (m.log2 + 1022) * 2 ^ (52 : Nat) + m * 2 ^ (52 - m.log2)
  else (m.log2 + 1022) * 2 ^ (52 : Nat) + halfEven m (m.log2 - 52)

/-- **The double nearest to an integer**, a tie to the even neighbour. -/
def ofInt (n : Int) : Double :=
  ⟨BitVec.ofNat 64 ((if n < 0 then 2 ^ (63 : Nat) else 0) + nearestMagnitude n.natAbs)⟩

/-- Rounding moves a quotient up by one at most. -/
theorem halfEven_le (m shift : Nat) : halfEven m shift ≤ m / 2 ^ shift + 1 := by
  simp only [halfEven]
  split <;> omega

/-- The magnitude of a 64-bit integer is far below the infinities. -/
theorem nearestMagnitude_lt {m : Nat} (h : m < 2 ^ (64 : Nat)) :
    nearestMagnitude m < 1088 * 2 ^ (52 : Nat) := by
  unfold nearestMagnitude
  split
  · omega
  · next hm =>
    have hlog : m.log2 < 64 := (Nat.log2_lt hm).2 h
    have hself : m < 2 ^ (m.log2 + 1) := Nat.lt_log2_self
    split
    · next hle =>
      have : m * 2 ^ (52 - m.log2) < 2 ^ (53 : Nat) := by
        calc m * 2 ^ (52 - m.log2)
            < 2 ^ (m.log2 + 1) * 2 ^ (52 - m.log2) :=
              Nat.mul_lt_mul_of_pos_right hself (Nat.two_pow_pos _)
          _ = 2 ^ (53 : Nat) := by rw [← Nat.pow_add]; congr 1; omega
      omega
    · next hlt =>
      have hquotient : m / 2 ^ (m.log2 - 52) < 2 ^ (53 : Nat) := by
        refine Nat.div_lt_of_lt_mul ?_
        rwa [← Nat.pow_add, show m.log2 - 52 + 53 = m.log2 + 1 by omega]
      have := halfEven_le m (m.log2 - 52)
      omega

theorem magnitude_ofInt {n : Int} (h : n.natAbs < 2 ^ (64 : Nat)) :
    (ofInt n).magnitude = nearestMagnitude n.natAbs := by
  have hlt := nearestMagnitude_lt h
  rw [magnitude, ofInt, BitVec.toNat_ofNat]
  split <;> omega

/-- **The double nearest to a 64-bit integer is a number.** -/
theorem isNaN_ofInt {n : Int} (h : n.natAbs < 2 ^ (64 : Nat)) : (ofInt n).isNaN = false := by
  have hlt := nearestMagnitude_lt h
  simp only [isNaN, magnitude_ofInt h, infinite, decide_eq_false_iff_not]
  omega

/-- The significand of a finite magnitude: the value is this times `2 ^ power`. -/
def significand (x : Double) : Nat :=
  if x.magnitude < 2 ^ (52 : Nat) then x.magnitude
  else x.magnitude % 2 ^ (52 : Nat) + 2 ^ (52 : Nat)

/-- The power of two of the last significand bit. -/
def power (x : Double) : Int := max (x.magnitude / 2 ^ (52 : Nat) : Nat) 1 - 1075

/-- **The integer a double is**, where it is finite and has no fractional part. -/
def whole? (x : Double) : Option Int :=
  if infinite ≤ x.magnitude then none
  else
    let unit := 2 ^ (-x.power).toNat
    if x.significand % unit = 0 then
      let absolute : Int := x.significand / unit * 2 ^ x.power.toNat
      some (if x.negative then -absolute else absolute)
    else none

end Double

end KeysetStore
