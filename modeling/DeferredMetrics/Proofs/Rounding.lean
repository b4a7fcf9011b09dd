import Mathlib.Tactic.Ring
import DeferredMetrics.Instrument

set_option autoImplicit false

/-! # Integers as floating-point numbers

Counts and changes are kept as floating-point numbers. Such a number is a multiple of the smallest
positive one, so that numbers can be compared without fractions: `units` is how often it goes into
the number. An integer becomes the number nearest to it, and of two that are equally near the one
whose last bit is zero (`Nearest`, `nearest_ofNat`, `nearest_ofInt`). -/

namespace DeferredMetrics

namespace Binary64

/-- The sign bit is set. -/
def isNegative (x : Binary64) : Bool := decide (twoTo 63 ≤ x.bits.toNat)

/-- The number is neither infinite nor a NaN. -/
def Finite (x : Binary64) : Prop := x.exponentField < 2047

/-- How often the smallest positive number goes into a finite number, without its sign. -/
def units (x : Binary64) : Nat :=
  if x.exponentField = 0 then x.fractionField
  else (twoTo 52 + x.fractionField) * twoTo (x.exponentField - 1)

/-- How far apart two natural numbers are. -/
def gap (m n : Nat) : Nat := m - n + (n - m)

/-- How far the number is from a natural number, without its sign. One is `twoTo 1074` units. -/
def distance (x : Binary64) (n : Nat) : Nat := gap x.units (n * twoTo 1074)

/-- The number is the one nearest to `i`: it has the sign of `i`, no other is nearer, and if another
one is as near, its last bit is zero. -/
structure Nearest (i : Int) (x : Binary64) : Prop where
  sign : x.isNegative = decide (i < 0)
  finite : x.Finite
  near : ∀ y : Binary64, y.Finite → x.distance i.natAbs ≤ y.distance i.natAbs
  even : ∀ y : Binary64, y.Finite → y.distance i.natAbs = x.distance i.natAbs →
    y.units = x.units ∨ x.fractionField % 2 = 0

theorem twoTo_add (j k : Nat) : twoTo (j + k) = twoTo j * twoTo k := Nat.pow_add 2 j k

theorem twoTo_pos (k : Nat) : 0 < twoTo k := Nat.two_pow_pos k

theorem fractionField_lt (x : Binary64) : x.fractionField < twoTo 52 := Nat.mod_lt _ (twoTo_pos 52)

/-! ## The nearest multiple -/

/-- A multiple that is no further than a half is the nearest one, and if another one is as near, both
are at a half. -/
theorem gap_of_near {g q m : Nat} (habove : 2 * (q * g) ≤ 2 * m + g)
    (hbelow : 2 * m ≤ 2 * (q * g) + g) (k : Nat) : gap (q * g) m ≤ gap (k * g) m ∧
      (gap (k * g) m = gap (q * g) m → k = q ∨ 2 * gap (q * g) m = g) := by
  unfold gap
  -- any other multiple is a whole `g` further on its side
  rcases Nat.lt_trichotomy k q with hk | rfl | hk
  · have hstep : (k + 1) * g ≤ q * g := Nat.mul_le_mul_right g hk
    rw [Nat.succ_mul] at hstep
    omega
  · exact ⟨Nat.le_refl _, fun _ => .inl rfl⟩
  · have hstep : (q + 1) * g ≤ k * g := Nat.mul_le_mul_right g hk
    rw [Nat.succ_mul] at hstep
    omega

/-! ## Significands -/

/-- The significand of the number nearest to `n`, with its leading bit. -/
def significand (n : Nat) : Nat :=
  if n.log2 ≤ 52 then n * twoTo (52 - n.log2) else roundShift n (n.log2 - 52)

/-- The units between one number and the next where `n` is. -/
def spacing (n : Nat) : Nat := twoTo (1022 + n.log2)

section Significand

variable {n : Nat}

theorem magnitude_of_ne_zero (h : n ≠ 0) :
    magnitude n = (1023 + n.log2) * twoTo 52 + (significand n - twoTo 52) := by
  rw [magnitude, if_neg h]
  rfl

theorem significand_bounds (h : n ≠ 0) :
    twoTo 52 ≤ significand n ∧ significand n ≤ twoTo 53 := by
  have hle : twoTo n.log2 ≤ n := Nat.log2_self_le h
  have hlt : n < twoTo (n.log2 + 1) := Nat.lt_log2_self
  unfold significand
  split
  case isTrue htop =>
    have hlow : twoTo n.log2 * twoTo (52 - n.log2) = twoTo 52 := by
      rw [← twoTo_add, Nat.add_sub_cancel' htop]
    have hhigh : twoTo (n.log2 + 1) * twoTo (52 - n.log2) = twoTo 53 := by
      rw [← twoTo_add]
      congr 1
      omega
    exact ⟨hlow ▸ Nat.mul_le_mul_right _ hle, hhigh ▸ Nat.mul_le_mul_right _ (Nat.le_of_lt hlt)⟩
  case isFalse htop =>
    have hpos := twoTo_pos (n.log2 - 52)
    have hlow : twoTo 52 * twoTo (n.log2 - 52) = twoTo n.log2 := by
      rw [← twoTo_add]
      congr 1
      omega
    have hhigh : twoTo 53 * twoTo (n.log2 - 52) = twoTo (n.log2 + 1) := by
      rw [← twoTo_add]
      congr 1
      omega
    have hquotient : twoTo 52 ≤ n / twoTo (n.log2 - 52) :=
      (Nat.le_div_iff_mul_le hpos).2 (hlow ▸ hle)
    have hquotient' : n / twoTo (n.log2 - 52) < twoTo 53 :=
      (Nat.div_lt_iff_lt_mul hpos).2 (hhigh ▸ hlt)
    simp only [roundShift]
    split <;> omega

/-- Where nothing is rounded, the significand has the very value. -/
theorem significand_exact (htop : n.log2 ≤ 52) :
    significand n * spacing n = n * twoTo 1074 := by
  rw [significand, if_pos htop, spacing, Nat.mul_assoc, ← twoTo_add]
  congr 2
  omega

theorem spacing_of_large (htop : ¬ n.log2 ≤ 52) :
    spacing n = twoTo (n.log2 - 52) * twoTo 1074 := by
  rw [spacing, ← twoTo_add]
  congr 1
  omega

theorem gap_mul (a b c : Nat) : gap (a * c) (b * c) = gap a b * c := by
  simp only [gap, Nat.add_mul, Nat.sub_mul]

/-- The significand is no further from the value than a half. -/
theorem significand_near (n : Nat) :
    2 * (significand n * spacing n) ≤ 2 * (n * twoTo 1074) + spacing n ∧
      2 * (n * twoTo 1074) ≤ 2 * (significand n * spacing n) + spacing n := by
  by_cases htop : n.log2 ≤ 52
  · rw [significand_exact htop]
    omega
  · -- the rounded quotient is off by half of what was divided by, here measured in units
    obtain ⟨habove, hbelow⟩ := roundShift_near n (n.log2 - 52)
    rw [significand, if_neg htop, spacing_of_large htop]
    generalize twoTo (n.log2 - 52) = t at *
    generalize roundShift n (n.log2 - 52) = q at *
    generalize twoTo 1074 = u
    constructor
    · calc 2 * (q * (t * u)) = 2 * (t * q) * u := by ring
        _ ≤ (2 * n + t) * u := Nat.mul_le_mul_right u habove
        _ = 2 * (n * u) + t * u := by ring
    · calc 2 * (n * u) = 2 * n * u := by ring
        _ ≤ (2 * (t * q) + t) * u := Nat.mul_le_mul_right u hbelow
        _ = 2 * (q * (t * u)) + t * u := by ring

/-- Between two numbers the significand is the even one. -/
theorem significand_even (h : 2 * gap (significand n * spacing n) (n * twoTo 1074) = spacing n) :
    significand n % 2 = 0 := by
  have hspacing : 0 < spacing n := twoTo_pos _
  by_cases htop : n.log2 ≤ 52
  · rw [significand_exact htop, gap] at h
    omega
  · rw [significand, if_neg htop, spacing_of_large htop, ← Nat.mul_assoc, gap_mul,
      ← Nat.mul_assoc] at h
    have htie := Nat.eq_of_mul_eq_mul_right (twoTo_pos 1074) h
    rw [significand, if_neg htop]
    refine roundShift_even_of_tie n _ ?_
    have hdiv := Nat.div_add_mod n (twoTo (n.log2 - 52))
    have hrest := Nat.mod_lt n (twoTo_pos (n.log2 - 52))
    rw [gap] at htie
    simp only [roundShift] at htie
    generalize twoTo (n.log2 - 52) = t at *
    rw [Nat.mul_comm] at hdiv
    split at htie
    · have hstep : (n / t + 1) * t = n / t * t + t := Nat.succ_mul _ t
      rw [hstep] at htie
      omega
    · omega

/-! ## Where other numbers lie -/

/-- The numbers from the binade of `n` on are multiples of the spacing there. -/
theorem exists_units_of_le {y : Binary64} (h : 1023 + n.log2 ≤ y.exponentField) :
    ∃ k, y.units = k * spacing n := by
  refine ⟨(twoTo 52 + y.fractionField) * twoTo (y.exponentField - (1023 + n.log2)), ?_⟩
  rw [units, if_neg (by omega), spacing, Nat.mul_assoc, ← twoTo_add]
  congr 2
  omega

/-- The numbers of smaller binades are smaller than any in that of `n`. -/
theorem units_lt_of_lt {y : Binary64} (h : y.exponentField < 1023 + n.log2) :
    y.units < twoTo 52 * spacing n := by
  have hfraction := fractionField_lt y
  have hspacing : 0 < spacing n := twoTo_pos _
  unfold units
  split
  case isTrue hzero => exact Nat.lt_of_lt_of_le hfraction (Nat.le_mul_of_pos_right _ hspacing)
  case isFalse hzero =>
    calc (twoTo 52 + y.fractionField) * twoTo (y.exponentField - 1)
        < (twoTo 52 * 2) * twoTo (y.exponentField - 1) :=
          Nat.mul_lt_mul_of_pos_right (by omega) (twoTo_pos _)
      _ = twoTo 52 * twoTo (y.exponentField - 1 + 1) := by
          rw [Nat.mul_assoc, Nat.mul_comm 2, twoTo_add]
          rfl
      _ ≤ twoTo 52 * spacing n :=
          Nat.mul_le_mul_left _ (Nat.pow_le_pow_right (by decide) (by omega))

/-- No number is nearer than the one with the significand, and if one is as near, the significand is
even. -/
theorem nearest_units (h : n ≠ 0) (y : Binary64) :
    gap (significand n * spacing n) (n * twoTo 1074) ≤ y.distance n ∧
      (y.distance n = gap (significand n * spacing n) (n * twoTo 1074) →
        y.units = significand n * spacing n ∨ significand n % 2 = 0) := by
  obtain ⟨habove, hbelow⟩ := significand_near n
  by_cases hy : 1023 + n.log2 ≤ y.exponentField
  · obtain ⟨k, hk⟩ := exists_units_of_le hy
    obtain ⟨hle, htie⟩ := gap_of_near habove hbelow k
    rw [distance, hk]
    refine ⟨hle, fun heq => ?_⟩
    rcases htie heq with rfl | htie
    · exact .inl rfl
    · exact .inr (significand_even htie)
  · -- such a number is further away than the smallest one of the binade
    have hlow := (gap_of_near habove hbelow (twoTo 52)).1
    have hsmall := units_lt_of_lt (Nat.lt_of_not_le hy)
    have hle : twoTo 52 * spacing n ≤ n * twoTo 1074 := by
      calc twoTo 52 * spacing n = twoTo n.log2 * twoTo 1074 := by
            rw [spacing, ← twoTo_add, ← twoTo_add]
            congr 1
            omega
        _ ≤ n * twoTo 1074 := Nat.mul_le_mul_right _ (Nat.log2_self_le h)
    simp only [distance, gap] at *
    omega

end Significand

/-! ## The bits -/

/-- The fields of a number whose bits, without the sign, are the magnitude of `n`. -/
structure HasMagnitude (n : Nat) (x : Binary64) : Prop where
  finite : x.Finite
  units : x.units = significand n * spacing n
  even : x.fractionField % 2 = significand n % 2

theorem hasMagnitude_of_bits {n : Nat} (h : n ≠ 0) (hn : n < twoTo 64) {x : Binary64} {sign : Nat}
    (hbits : x.bits.toNat = sign * twoTo 63 + magnitude n) : HasMagnitude n x := by
  have htop : n.log2 < 64 := (Nat.log2_lt h).2 hn
  have hbounds := significand_bounds h
  rw [magnitude_of_ne_zero h] at hbits
  have hexponent : x.exponentField = x.bits.toNat / twoTo 52 % twoTo 11 := rfl
  have hfraction : x.fractionField = x.bits.toNat % twoTo 52 := rfl
  -- the fields are quotients and remainders of the bits by these numbers
  have h11 : twoTo 11 = 2048 := rfl
  have h52 : twoTo 52 = 4503599627370496 := rfl
  have h53 : twoTo 53 = 9007199254740992 := rfl
  have h63 : twoTo 63 = 9223372036854775808 := rfl
  rw [h52, h53] at hbounds
  rw [h52, h63] at hbits
  rw [h52, h11] at hexponent
  rw [h52] at hfraction
  by_cases hcarry : significand n = twoTo 53
  · -- the carry makes the exponent one more
    rw [h53] at hcarry
    have hfraction' : x.fractionField = 0 := by omega
    have hexponent' : x.exponentField = 1023 + n.log2 + 1 := by omega
    have hdouble : twoTo (1023 + n.log2 + 1 - 1) = 2 * twoTo (1022 + n.log2) := by
      rw [show 1023 + n.log2 + 1 - 1 = 1 + (1022 + n.log2) by omega, twoTo_add]
      rfl
    refine ⟨by rw [Finite]; omega, ?_, by omega⟩
    rw [Binary64.units, if_neg (by omega), hfraction', hexponent', hdouble, h52, hcarry, spacing,
      ← Nat.mul_assoc]
  · rw [h53] at hcarry
    have hfraction' : x.fractionField = significand n - 4503599627370496 := by omega
    have hexponent' : x.exponentField = 1023 + n.log2 := by omega
    have hsum : twoTo 52 + (significand n - 4503599627370496) = significand n := by
      rw [h52]
      omega
    refine ⟨by rw [Finite]; omega, ?_, by omega⟩
    rw [Binary64.units, if_neg (by omega), hfraction', hexponent', hsum, spacing,
      show 1023 + n.log2 - 1 = 1022 + n.log2 by omega]

theorem magnitude_lt {n : Nat} (hn : n < twoTo 64) : magnitude n < twoTo 63 := by
  by_cases h : n = 0
  · rw [h]
    decide
  · have htop : n.log2 < 64 := (Nat.log2_lt h).2 hn
    have hbounds := significand_bounds h
    have h52 : twoTo 52 = 4503599627370496 := rfl
    have h53 : twoTo 53 = 9007199254740992 := rfl
    have h63 : twoTo 63 = 9223372036854775808 := rfl
    rw [magnitude_of_ne_zero h]
    rw [h52, h53] at hbounds
    rw [h52, h63]
    omega

/-- A number with the magnitude of an integer and its sign is the nearest one. -/
theorem nearest_of_bits {i : Int} (hi : i.natAbs < twoTo 64) {x : Binary64}
    (hbits : x.bits.toNat = (decide (i < 0)).toNat * twoTo 63 + magnitude i.natAbs) :
    x.Nearest i := by
  have hsmall := magnitude_lt hi
  have hsign : x.isNegative = decide (i < 0) := by
    rw [isNegative, hbits]
    by_cases hneg : i < 0 <;> simp [hneg, hsmall]
  -- zero has no leading bit, so no significand
  by_cases hzero : i.natAbs = 0
  · obtain rfl := Int.natAbs_eq_zero.1 hzero
    have hbits : x.bits.toNat = 0 := hbits
    have hfields : x.exponentField = 0 ∧ x.fractionField = 0 := by
      simp [exponentField, fractionField, hbits]
    have hdistance : x.distance (0 : Int).natAbs = 0 := by
      simp [distance, units, hfields, gap]
    refine ⟨hsign, ?_, fun y _ => ?_, fun _ _ _ => .inr ?_⟩
    · simp [Finite, hfields]
    · rw [hdistance]
      exact Nat.zero_le _
    · rw [hfields.2]
  · obtain ⟨hfinite, hunits, heven⟩ := hasMagnitude_of_bits hzero hi hbits
    have hdistance : x.distance i.natAbs =
        gap (significand i.natAbs * spacing i.natAbs) (i.natAbs * twoTo 1074) := by
      rw [distance, hunits]
    refine ⟨hsign, hfinite, fun y _ => ?_, fun y _ heq => ?_⟩
    · rw [hdistance]
      exact (nearest_units hzero y).1
    · rw [hunits, heven]
      exact (nearest_units hzero y).2 (heq.trans hdistance)

/-- A natural number becomes the number nearest to it. -/
theorem nearest_ofNat {n : Nat} (h : n < twoTo 64) : (ofNat n).Nearest n := by
  have hsmall := magnitude_lt h
  have h64 : twoTo 64 = 2 * twoTo 63 := by decide
  refine nearest_of_bits (i := n) h ?_
  have hbits : (ofNat n).bits.toNat = magnitude n := by
    rw [ofNat, UInt64.toNat_ofNat']
    exact Nat.mod_eq_of_lt (show magnitude n < twoTo 64 by omega)
  have hsign : decide ((n : Int) < 0) = false := decide_eq_false (by omega)
  rw [hbits, hsign, Int.natAbs_natCast]
  exact (Nat.zero_add _).symm

/-- An integer becomes the number nearest to it. -/
theorem nearest_ofInt {i : Int} (h : i.natAbs < twoTo 64) : (ofInt i).Nearest i := by
  cases i with
  | ofNat n => exact nearest_ofNat h
  | negSucc n =>
      have hsmall : magnitude (n + 1) < twoTo 63 := magnitude_lt h
      have h64 : twoTo 64 = 2 * twoTo 63 := by decide
      refine nearest_of_bits h ?_
      have hbits : (ofInt (.negSucc n)).bits.toNat = twoTo 63 + magnitude (n + 1) := by
        rw [ofInt, UInt64.toNat_ofNat']
        exact Nat.mod_eq_of_lt (show _ < twoTo 64 by omega)
      rw [hbits, decide_eq_true (Int.negSucc_lt_zero n)]
      show _ = 1 * twoTo 63 + _
      rw [Nat.one_mul]
      rfl

end Binary64

end DeferredMetrics
