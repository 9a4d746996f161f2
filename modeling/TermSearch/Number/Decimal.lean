import TermSearch.Number.Binary64

/-!
# Reading decimal text

Text read as a number is an optional sign, digits with at most one point among them and at least one
digit, and an optional exponent. The value is rounded once, from the exact decimal. Text whose value
is beyond the finite numbers reads as none, and so do the names of infinity and of no number.
-/

namespace TermSearch.Number

/-- Whether a character is an ASCII digit. -/
def isDigit (c : Char) : Bool := '0' ≤ c && c ≤ '9'

/-- The value of a run of decimal digits. -/
def digitsValue (cs : List Char) : Nat :=
  cs.foldl (fun n c => 10 * n + (c.toNat - '0'.toNat)) 0

/-- A decimal as written: `mantissa · 10 ^ exponent`, negated when `negative` holds. -/
structure Written where
  negative : Bool
  mantissa : Nat
  exponent : Int
  deriving DecidableEq, Repr

/-- The sign in front of a number, and what follows it. -/
def readSign : List Char → Bool × List Char
  | '-' :: rest => (true, rest)
  | '+' :: rest => (false, rest)
  | cs => (false, cs)

/-- The exponent at the end of a number: nothing at all, or a mark, a sign and digits. -/
def readExponent? : List Char → Option Int
  | [] => some 0
  | c :: rest =>
    if c = 'e' ∨ c = 'E' then
      let (negative, digits) := readSign rest
      if digits.isEmpty || !digits.all isDigit then none
      else
        let n : Int := digitsValue digits
        some (if negative then -n else n)
    else none

/-- The decimal that a whole text writes. -/
def Written.read? (cs : List Char) : Option Written :=
  let (negative, unsigned) := readSign cs
  let whole := unsigned.takeWhile isDigit
  let afterWhole := unsigned.dropWhile isDigit
  let (fraction, afterFraction) : List Char × List Char :=
    match afterWhole with
    | '.' :: rest => (rest.takeWhile isDigit, rest.dropWhile isDigit)
    | rest => ([], rest)
  if whole.isEmpty && fraction.isEmpty then none
  else (readExponent? afterFraction).map fun e =>
    ⟨negative, digitsValue (whole ++ fraction), e - fraction.length⟩

/-- The binary64 number nearest to a decimal, when it is finite. A decimal with its leading digit far
above or below the range is answered without its power of ten. -/
def Written.toBinary64? (w : Written) : Option Binary64 :=
  if w.mantissa = 0 then some ⟨w.negative, 0⟩
  else
    let leading := w.exponent + (Nat.repr w.mantissa).length
    if 400 < leading then none
    else if leading < -400 then some ⟨w.negative, 0⟩
    else if 0 ≤ w.exponent then
      Binary64.ofRatio? w.negative (w.mantissa * Nat.pow 10 w.exponent.toNat) 1
    else
      Binary64.ofRatio? w.negative w.mantissa (Nat.pow 10 (-w.exponent).toNat)

/-- The finite number that a whole text writes. -/
def Binary64.ofText? (s : String) : Option Binary64 :=
  (Written.read? s.toList).bind Written.toBinary64?

end TermSearch.Number
