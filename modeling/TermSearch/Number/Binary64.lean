/-!
# Finite binary64 numbers, exactly

A finite binary64 number is an integer multiple of `2⁻¹⁰⁷⁴`, so it is kept as a sign and a count of
these units. The sign is kept apart because zero has two signs, and they print differently. Order
and equality are those of the integer `toInt`, and every operation is one exact quotient of natural
numbers that is rounded once (`roundUnits`): to the nearest number with 53 significant bits, a tie
going to the even significand.

A count of units at or above `overflow` is not finite, and the operations that can reach it answer
with `none`.
-/

namespace TermSearch.Number

/-- A finite binary64 number: `units` times `2⁻¹⁰⁷⁴`, negated when `negative` holds. -/
structure Binary64 where
  negative : Bool
  units : Nat
  deriving DecidableEq, Repr

namespace Binary64

/-- The number of units in one. -/
def one : Nat := Nat.pow 2 1074

/-- The first count of units that is too large to be finite: `2¹⁰²⁴`. -/
def overflow : Nat := Nat.pow 2 2098

/-! ## Rounding -/

/-- The integer nearest to `n / d`; a tie goes to the even neighbour. -/
def roundQuotient (n d : Nat) : Nat :=
  let q := n / d
  let r := n % d
  if 2 * r < d then q
  else if d < 2 * r then q + 1
  else if q % 2 = 0 then q else q + 1

/-- How many low bits a count of units has to lose to fit in 53 bits. -/
def excessBits (units : Nat) : Nat := units.log2 + 1 - 53

/-- The count of units nearest to `n / d` that fits in 53 significant bits. -/
def roundUnits (n d : Nat) : Nat :=
  let spacing := Nat.pow 2 (excessBits (n / d))
  roundQuotient n (d * spacing) * spacing

/-- The number with this sign and magnitude, when it is finite. -/
def ofUnits? (negative : Bool) (units : Nat) : Option Binary64 :=
  if units < overflow then some ⟨negative, units⟩ else none

/-- The number nearest to `n / d`, when it is finite. -/
def ofRatio? (negative : Bool) (n d : Nat) : Option Binary64 :=
  ofUnits? negative (roundUnits (n * one) d)

/-- The number nearest to an integer. -/
def ofInt (i : Int) : Binary64 := ⟨decide (i < 0), roundUnits (i.natAbs * one) 1⟩

/-! ## Value and arithmetic -/

/-- The signed count of units. -/
def toInt (x : Binary64) : Int := if x.negative then -(x.units : Int) else x.units

/-- The order of the values; the two zeros are equal. -/
def compare (x y : Binary64) : Ordering := Ord.compare x.toInt y.toInt

/-- Whether the values are equal; the two zeros are. -/
def sameValue (x y : Binary64) : Bool := x.toInt == y.toInt

/-- The product, rounded once. -/
def mul? (x y : Binary64) : Option Binary64 :=
  ofUnits? (x.negative != y.negative) (roundUnits (x.units * y.units) one)

/-- The quotient, rounded once. -/
def div? (x y : Binary64) : Option Binary64 :=
  ofUnits? (x.negative != y.negative) (roundUnits (x.units * one) y.units)

/-- The number with the other sign. -/
def neg (x : Binary64) : Binary64 := { x with negative := !x.negative }

end Binary64

end TermSearch.Number
