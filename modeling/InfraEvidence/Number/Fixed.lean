/-
  InfraEvidence — floating-point numbers with a fixed number of places.

  * `roundDiv`: a quotient rounded to the nearest integer, a tie to the even
    one;
  * `Fixed.render`: a number with so many places after the point, rounded from
    its exact binary value.
-/
namespace InfraEvidence

/-- `num / den` rounded to the nearest integer; a tie goes to the even one. -/
def roundDiv (num den : Nat) : Nat :=
  let q := num / den
  let r := num % den
  if 2 * r < den then q else if den < 2 * r then q + 1 else q + q % 2

/-- A rounded quotient is at most half a unit away. -/
theorem roundDiv_near (num : Nat) {den : Nat} (h : 0 < den) :
    2 * (roundDiv num den * den) ≤ 2 * num + den ∧ 2 * num ≤ 2 * (roundDiv num den * den) + den := by
  have hd := Nat.div_add_mod num den
  have hm := Nat.mod_lt num h
  rw [Nat.mul_comm] at hd
  simp only [roundDiv]
  split
  · omega
  split
  · rw [Nat.add_mul]; omega
  · rcases Nat.mod_two_eq_zero_or_one (num / den) with e | e
    · rw [e, Nat.add_zero]; omega
    · rw [e, Nat.add_mul]; omega

namespace Fixed

/-- `10 ^ p`: a count of `10⁻ᵖ` that is one. -/
def unit (p : Nat) : Nat := Nat.pow 10 p

/-- The digits of a count of `10⁻ᵖ`, with `p` places. -/
def places (p n : Nat) : String :=
  let fraction := toString (n % unit p)
  toString (n / unit p) ++ "." ++ "".pushn '0' (p - fraction.length) ++ fraction

/-- The count of `10⁻ᵖ` nearest to `m · 2 ^ (e - 1075)`. -/
def scaled (p m e : Nat) : Nat :=
  if 1075 ≤ e then m * unit p * Nat.pow 2 (e - 1075)
  else roundDiv (m * unit p) (Nat.pow 2 (1075 - e))

/-- The number of fractions that the bits of a number distinguish. -/
def fractions : Nat := Nat.pow 2 52

/-- The number of exponents that the bits of a number distinguish. -/
def exponents : Nat := Nat.pow 2 11

/-- A number with `p` places. -/
def render (p : Nat) (x : Float) : String :=
  let bits := x.toBits.toNat
  let fraction := bits % fractions
  let exponent := bits / fractions % exponents
  let sign := if bits / fractions / exponents = 1 then "-" else ""
  if exponent = exponents - 1 then if fraction = 0 then sign ++ "inf" else "NaN"
  else if exponent = 0 then sign ++ places p (scaled p fraction 1)
  else sign ++ places p (scaled p (fraction + fractions) exponent)

end Fixed

end InfraEvidence
