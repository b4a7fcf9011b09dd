set_option autoImplicit false

/-! # Binary floating point

A `Binary64` is a number of IEEE 754 by its sixty-four bits. Two numbers can be compared by their
bits (`=`) or as numbers (`agrees`): a NaN agrees with nothing, and the two zeros agree. Sums start
at the negative zero, which is neutral for the addition. -/

namespace DeferredMetrics

/-- A floating-point number by its bits. -/
structure Binary64 where
  bits : UInt64
deriving DecidableEq, Inhabited

namespace Binary64

/-- Two to the power of `k`. -/
def twoTo (k : Nat) : Nat := Nat.pow 2 k

/-- The eleven bits after the sign. -/
def exponentField (x : Binary64) : Nat := x.bits.toNat / twoTo 52 % twoTo 11

/-- The lowest fifty-two bits. -/
def fractionField (x : Binary64) : Nat := x.bits.toNat % twoTo 52

/-- The bits of no number. -/
def isNaN (x : Binary64) : Bool :=
  decide (x.exponentField = 2047 ∧ x.fractionField ≠ 0)

/-- One of the two zeros. -/
def isZero (x : Binary64) : Bool := decide (x.bits.toNat % twoTo 63 = 0)

/-- Equality of numbers: no NaN equals anything, and the zeros equal each other. -/
def agrees (x y : Binary64) : Bool :=
  !x.isNaN && !y.isNaN && (decide (x = y) || (x.isZero && y.isZero))

/-- The sum, rounded to nearest. -/
def add (x y : Binary64) : Binary64 := ⟨(Float.ofBits x.bits + Float.ofBits y.bits).toBits⟩

/-- The zero with the sign bit set. -/
def negZero : Binary64 := ⟨0x8000000000000000⟩

/-- The numbers added one after the other, from the negative zero on. -/
def sum (xs : List Binary64) : Binary64 := xs.foldl add negZero

/-- The quotient by `twoTo shift`, rounded to nearest, a tie to the even neighbour. -/
def roundShift (n shift : Nat) : Nat :=
  let quotient := n / twoTo shift
  let rest := n % twoTo shift
  if twoTo shift < 2 * rest ∨ (2 * rest = twoTo shift ∧ quotient % 2 = 1) then quotient + 1
  else quotient

/-- The rounded quotient is no further from the exact one than a half. -/
theorem roundShift_near (n shift : Nat) :
    2 * (twoTo shift * roundShift n shift) ≤ 2 * n + twoTo shift ∧
      2 * n ≤ 2 * (twoTo shift * roundShift n shift) + twoTo shift := by
  have hn : twoTo shift * (n / twoTo shift) + n % twoTo shift = n := Nat.div_add_mod n _
  have hr : n % twoTo shift < twoTo shift := Nat.mod_lt _ (Nat.two_pow_pos shift)
  simp only [roundShift]
  split
  · rw [Nat.mul_add]
    omega
  · omega

/-- A quotient that lies in the middle is rounded to the even neighbour. -/
theorem roundShift_even_of_tie (n shift : Nat) (h : 2 * (n % twoTo shift) = twoTo shift) :
    roundShift n shift % 2 = 0 := by
  simp only [roundShift, h, Nat.lt_irrefl, false_or, true_and]
  split <;> omega

/-- The bits, without the sign, of the number nearest to `n`. A carry out of the significand is the
next exponent. -/
def magnitude (n : Nat) : Nat :=
  if n = 0 then 0
  else
    let top := n.log2
    let significand := if top ≤ 52 then n * twoTo (52 - top) else roundShift n (top - 52)
    (1023 + top) * twoTo 52 + (significand - twoTo 52)

/-- The number nearest to a natural number below `2 ^ 64`. -/
def ofNat (n : Nat) : Binary64 := ⟨UInt64.ofNat (magnitude n)⟩

/-- The number nearest to an integer between `-2 ^ 63` and `2 ^ 63`. -/
def ofInt : Int → Binary64
  | .ofNat n => ofNat n
  | .negSucc n => ⟨UInt64.ofNat (twoTo 63 + magnitude (n + 1))⟩

theorem agrees_comm (x y : Binary64) : x.agrees y = y.agrees x := by
  simp only [agrees, eq_comm (a := x)]
  cases x.isNaN <;> cases y.isNaN <;> cases x.isZero <;> cases y.isZero <;> rfl

theorem agrees_trans {x y z : Binary64} (hxy : x.agrees y = true) (hyz : y.agrees z = true) :
    x.agrees z = true := by
  simp only [agrees, Bool.and_eq_true, Bool.or_eq_true, Bool.not_eq_true', decide_eq_true_eq] at *
  obtain ⟨⟨hx, hy⟩, hxy⟩ := hxy
  obtain ⟨⟨-, hz⟩, hyz⟩ := hyz
  refine ⟨⟨hx, hz⟩, ?_⟩
  rcases hxy with rfl | ⟨zx, zy⟩
  · exact hyz
  · rcases hyz with rfl | ⟨-, zz⟩
    · exact Or.inr ⟨zx, zy⟩
    · exact Or.inr ⟨zx, zz⟩

/-- A number agrees with itself exactly if it is a number. -/
theorem agrees_self (x : Binary64) : x.agrees x = !x.isNaN := by
  simp [agrees]

end Binary64
end DeferredMetrics
