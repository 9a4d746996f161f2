import TermSearch.Number.Binary64

/-!
# Shortest decimal text of a binary64 number

Among the decimals that round to a number, the text shows one with the fewest digits, and of those
the nearest to the number. For each count of digits from one up, `candidate?` tests the two
neighbours of the number on the decimal grid with that many digits, in exact arithmetic on natural
numbers; 17 digits always suffice.

Zero and one share the layout of all others: `layout` writes the digits positionally from `1e-5` up
to below `1e16`, always with a fraction, and otherwise with an exponent that carries its sign.
-/

namespace TermSearch.Number

namespace Binary64

/-! ## The reals that round to a number -/

/-- The open or closed interval of magnitudes that round to a number, in quarters of a unit. -/
structure Interval where
  low : Nat
  high : Nat
  /-- The ends belong to it exactly when the significand is even. -/
  closed : Bool

/-- The magnitudes that round to a non-zero count of units. Below a power of two the next number is
half as far away as above it. -/
def Interval.ofUnits (units : Nat) : Interval :=
  let excess := excessBits units
  let spacing := Nat.pow 2 excess
  let significand := units / spacing
  let below := if excess ≠ 0 ∧ significand = Nat.pow 2 52 then spacing else 2 * spacing
  { low := 4 * units - below
    high := 4 * units + 2 * spacing
    closed := significand % 2 = 0 }

/-- Whether the magnitude `n / d` quarters of a unit lies in the interval. -/
def Interval.holds (i : Interval) (n d : Nat) : Bool :=
  if i.closed then i.low * d ≤ n && n ≤ i.high * d else i.low * d < n && n < i.high * d

/-! ## Digits -/

/-- A positive decimal `digits · 10 ^ exponent`. -/
structure Decimal where
  digits : Nat
  exponent : Int

/-- The exponent of the leading decimal digit of the ratio `n / d`, found from an estimate `e` by at
most `fuel` corrections. -/
def leadingExponent (n d : Nat) : Nat → Int → Int
  | 0, e => e
  | fuel + 1, e =>
    let reaches (k : Int) : Bool :=
      if 0 ≤ k then Nat.pow 10 k.toNat * d ≤ n else d ≤ n * Nat.pow 10 (-k).toNat
    if !reaches e then leadingExponent n d fuel (e - 1)
    else if reaches (e + 1) then leadingExponent n d fuel (e + 1)
    else e

/-- The quotient `n / (d · 10 ^ e)` as a numerator and a denominator. -/
def scaled (n d : Nat) (e : Int) : Nat × Nat :=
  if 0 ≤ e then (n, d * Nat.pow 10 e.toNat) else (n * Nat.pow 10 (-e).toNat, d)

/-- The decimal on the grid `10 ^ e` that rounds to the number, if there is one: the neighbour below
or above, and the nearer of the two when both do. -/
def candidate? (units : Nat) (e : Int) : Option Decimal :=
  let interval := Interval.ofUnits units
  let (n, d) := scaled units one e
  let lower := n / d
  let hits (digits : Nat) : Bool :=
    let quarters := 4 * digits * one
    if 0 ≤ e then interval.holds (quarters * Nat.pow 10 e.toNat) 1
    else interval.holds quarters (Nat.pow 10 (-e).toNat)
  match decide (0 < lower) && hits lower, hits (lower + 1) with
  | true, true => some ⟨roundQuotient n d, e⟩
  | true, false => some ⟨lower, e⟩
  | false, true => some ⟨lower + 1, e⟩
  | false, false => none

/-- The shortest decimal among those with `count`, `count + 1`, … digits, `fuel` counts long. -/
def shortestFrom (units : Nat) (leading : Int) : Nat → Nat → Decimal
  | 0, _ => ⟨units, 0⟩
  | fuel + 1, count =>
    match candidate? units (leading - count + 1) with
    | some decimal => decimal
    | none => shortestFrom units leading fuel (count + 1)

/-- The shortest decimal that rounds to a non-zero count of units. -/
def shortest (units : Nat) : Decimal :=
  let estimate : Int := ((units.log2 : Int) - 1074) * 30103 / 100000
  shortestFrom units (leadingExponent units one 4 estimate) 17 1

/-! ## Text -/

/-- The decimal digits without the zeros at the end, and how many zeros were dropped. -/
def significant (digits : Nat) : List Char × Nat :=
  let all := (Nat.repr digits).toList
  let zeros := (all.reverse.takeWhile (· = '0')).length
  (all.take (all.length - zeros), zeros)

/-- The text of digits whose first one stands for `10 ^ leading`. -/
def layout (digits : List Char) (leading : Int) : List Char :=
  let zeros (n : Nat) : List Char := List.replicate n '0'
  if -5 ≤ leading ∧ leading < 0 then
    '0' :: '.' :: (zeros (-leading - 1).toNat ++ digits)
  else if 0 ≤ leading ∧ leading < 16 then
    let whole := leading.toNat + 1
    let fraction := digits.drop whole
    digits.take whole ++ zeros (whole - digits.length) ++
      '.' :: (if fraction.isEmpty then ['0'] else fraction)
  else
    let fraction := digits.drop 1
    let sign := if leading < 0 then '-' else '+'
    digits.take 1 ++ (if fraction.isEmpty then [] else '.' :: fraction) ++
      'e' :: sign :: (Nat.repr leading.natAbs).toList

/-- The shortest text that reads back as the number. -/
def toText (x : Binary64) : String :=
  let magnitude :=
    if x.units = 0 then ['0', '.', '0']
    else
      let decimal := shortest x.units
      let (digits, zeros) := significant decimal.digits
      layout digits (decimal.exponent + zeros + digits.length - 1)
  String.ofList (if x.negative then '-' :: magnitude else magnitude)

end Binary64

end TermSearch.Number
