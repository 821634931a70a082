/-
# Divert.Number.Shortest — the fewest decimal digits that read back as the same binary fraction.

A finite binary64 number stands for every real number that rounds to it: an interval around
`mantissa · 2 ^ exponent` whose ends belong to it if the mantissa is even.  Among the decimals with one
digit, then two, and so on, the first that lies in the interval is taken; of two such neighbours the one
nearer to the number.  Everything is computed with natural numbers.
-/

namespace Divert.Number

/-! ## Binary fractions -/

/-- The positive number `mantissa · 2 ^ exponent`.  It is `narrow` if the gap to the number below is half
the gap to the number above. -/
structure Binary where
  mantissa : Nat
  exponent : Int
  narrow : Bool
  deriving DecidableEq, Repr

/-- The decimal `digits · 10 ^ exponent`. -/
structure Decimal where
  digits : Nat
  exponent : Int
  deriving DecidableEq, Repr

namespace Binary

/-- The number in quarters of its last binary place, as a fraction with the second part below the line
and the first part the weight of a quarter above it. -/
def weights (x : Binary) : Nat × Nat :=
  if 2 ≤ x.exponent then (Nat.pow 2 (x.exponent - 2).toNat, 1)
  else (1, Nat.pow 2 (2 - x.exponent).toNat)

/-- The weights of the decimal place `10 ^ place`, above and below the line. -/
def placeWeights (place : Int) : Nat × Nat :=
  if 0 ≤ place then (Nat.pow 10 place.toNat, 1) else (1, Nat.pow 10 (-place).toNat)

/-- Whether `digits · 10 ^ place` rounds to the number. -/
def holds (x : Binary) (place : Int) (digits : Nat) : Bool :=
  let (quarter, below) := x.weights
  let (ten, underTen) := placeWeights place
  let value := digits * ten * below
  let low := (4 * x.mantissa - if x.narrow then 1 else 2) * quarter * underTen
  let high := (4 * x.mantissa + 2) * quarter * underTen
  if x.mantissa % 2 = 0 then decide (low ≤ value ∧ value ≤ high)
  else decide (low < value ∧ value < high)

/-- The decimal neighbours of the number on the grid of `10 ^ place`: the digits of the one below, and
twice the distance to it compared with the grid. -/
def floorAt (x : Binary) (place : Int) : Nat × Ordering :=
  let (quarter, below) := x.weights
  let (ten, underTen) := placeWeights place
  let above := 4 * x.mantissa * quarter * underTen
  let grid := ten * below
  (above / grid, compare (2 * (above % grid)) grid)

/-- The place of the first decimal digit of the number. -/
def leadingPlace (x : Binary) : Int :=
  let (quarter, below) := x.weights
  let above := 4 * x.mantissa * quarter
  if below ≤ above then (Nat.toDigits 10 (above / below)).length - 1
  else
    let places := (Nat.toDigits 10 (below / above)).length
    if below ≤ above * Nat.pow 10 (places - 1) then -(places - 1 : Nat) else -(places : Nat)

/-- The decimal with `count` digits that rounds to the number, if there is one.  On a tie the even
neighbour is taken. -/
def withDigits? (x : Binary) (count : Nat) : Option Decimal :=
  let place := x.leadingPlace - (count - 1 : Nat)
  let (digits, order) := x.floorAt place
  let below := x.holds place digits
  let above := x.holds place (digits + 1)
  let up := match order with
    | .lt => false
    | .eq => digits % 2 == 1
    | .gt => true
  if below && above then some ⟨if up then digits + 1 else digits, place⟩
  else if below then some ⟨digits, place⟩
  else if above then some ⟨digits + 1, place⟩
  else none

/-- The decimal with the fewest digits that rounds to the number.  Seventeen digits always suffice. -/
def shortest (x : Binary) : Decimal :=
  ((List.range 17).findSome? fun n => x.withDigits? (n + 1)).getD ⟨x.mantissa, 0⟩

example : shortest ⟨1, -1074, false⟩ = ⟨5, -324⟩ := by decide +kernel

example : shortest ⟨7205759403792794, -56, false⟩ = ⟨1, -1⟩ := by decide +kernel

end Binary

/-! ## Binary64 -/

/-- The magnitude of a finite binary64 number, and whether it is negative; `none` for a zero magnitude.
Of its 64 bits the lower 52 are the fraction, the next 11 the exponent, and the last is the sign. -/
def magnitude (x : Float) : Bool × Option Binary :=
  let bits : Nat := x.toBits.toNat
  let biased : Nat := bits / 0x10000000000000 % 0x800
  let fraction : Nat := bits % 0x10000000000000
  let negative := decide (0x8000000000000000 ≤ bits)
  if biased = 0 then
    (negative, if fraction = 0 then none else some ⟨fraction, -1074, false⟩)
  else
    (negative,
      some ⟨0x10000000000000 + fraction, (biased : Int) - 1075, fraction = 0 && decide (1 < biased)⟩)

end Divert.Number
