/-!
# Shortest decimals

A double stands for the interval of the real numbers that round to it. The shortest decimal of a
double is the one on the coarsest decimal grid that has a point in the interval; of two such points
the nearer one is taken, and the even one if both are equally near. All comparisons are exact.
-/

namespace LogFollow

/-- A decimal: `digits` times a power of ten. -/
structure Decimal where
  digits : Nat
  exponent : Int
deriving DecidableEq, Repr

namespace Decimal

/-- A double as `significand` times a power of two. `narrow` tells that the next smaller double is
only half as far away as the next greater one. -/
structure Binary where
  significand : Nat
  exponent : Int
  narrow : Bool
deriving DecidableEq, Repr

namespace Binary

/-- The bit of a significand that is not stored. -/
def hiddenBit : Nat := 4503599627370496

/-- The magnitude of a finite double with the given bits. -/
def ofBits (bits : Nat) : Binary :=
  let fraction := bits % hiddenBit
  let biased := bits / hiddenBit % 2048
  if biased = 0 then ⟨fraction, -1074, false⟩
  else ⟨hiddenBit + fraction, (biased : Int) - 1075, fraction = 0 && biased > 1⟩

/-- Quarters of the unit of the double, as a fraction with a grid step for its unit: `x` quarters are
`x * (scale k).1 / (scale k).2` steps of `10 ^ k`. -/
def scale (b : Binary) (k : Int) : Nat × Nat :=
  (Nat.pow 2 b.exponent.toNat * Nat.pow 10 (-k).toNat,
    4 * Nat.pow 2 (-b.exponent).toNat * Nat.pow 10 k.toNat)

/-- Whether `n` steps of `10 ^ k` lie in the interval of the double. -/
def holds (b : Binary) (k : Int) (n : Nat) : Bool :=
  let (num, den) := b.scale k
  let low := (4 * b.significand - (if b.narrow then 1 else 2)) * num
  let high := (4 * b.significand + 2) * num
  if b.significand % 2 = 0 then low ≤ n * den && n * den ≤ high
  else low < n * den && n * den < high

/-- The point of the grid of `10 ^ k` that stands for the double, if the interval holds one. -/
def onGrid? (b : Binary) (k : Int) : Option Nat :=
  let (num, den) := b.scale k
  let value := 4 * b.significand * num
  let below := value / den
  match b.holds k below, b.holds k (below + 1) with
  | false, false => none
  | true, false => some below
  | false, true => some (below + 1)
  | true, true =>
    let down := value - below * den
    let up := (below + 1) * den - value
    if down < up || (down == up && below % 2 == 0) then some below else some (below + 1)

/-- The decimal on the first grid from `10 ^ k` downwards that has one. -/
def firstGrid (b : Binary) : (fuel : Nat) → (k : Int) → Decimal
  | 0, k => ⟨0, k⟩
  | fuel + 1, k =>
    match b.onGrid? k with
    | some n => ⟨n, k⟩
    | none => firstGrid b fuel (k - 1)

/-- The shortest decimal of a positive double. -/
def shortest (b : Binary) : Decimal := b.firstGrid 640 309

end Binary

/-- How a decimal is written: the exponents of the leading digit for which its digits are written out,
and the least number of digits of an exponent. -/
structure Style where
  leastPositional : Int
  greatestPositional : Int
  exponentDigits : Nat
deriving DecidableEq, Repr

def digitChars (n : Nat) : List Char := Nat.toDigits 10 n

def zeros (n : Nat) : List Char := List.replicate n '0'

def exponentChars (style : Style) (e : Int) : List Char :=
  let digits := digitChars e.natAbs
  'e' :: (if e < 0 then '-' else '+') :: zeros (style.exponentDigits - digits.length) ++ digits

def writeChars (style : Style) (d : Decimal) : List Char :=
  let digits := digitChars d.digits
  let leading := d.exponent + (digits.length : Int) - 1
  if style.leastPositional ≤ leading ∧ leading ≤ style.greatestPositional then
    if 0 ≤ d.exponent then digits ++ zeros d.exponent.toNat ++ ['.', '0']
    else if 0 ≤ leading then
      let whole := leading.toNat + 1
      digits.take whole ++ '.' :: digits.drop whole
    else '0' :: '.' :: zeros (-leading - 1).toNat ++ digits
  else
    (match digits with
      | [] | [_] => digits
      | first :: rest => first :: '.' :: rest) ++ exponentChars style leading

/-- The bit that tells whether a double is negative. -/
def signBit : Nat := 9223372036854775808

def ofFloat (style : Style) (x : Float) : String :=
  let bits := x.toBits.toNat
  let sign := if bits ≥ signBit then ['-'] else []
  let magnitude := Binary.ofBits (bits % signBit)
  String.ofList (sign ++
    if magnitude.significand = 0 then ['0', '.', '0'] else writeChars style magnitude.shortest)

end Decimal

end LogFollow
