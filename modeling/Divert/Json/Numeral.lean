/-
# Divert.Json.Numeral — the numbers of a document.

A numeral is kept as it is written until its value is asked for, because a value that nobody asks for
is not checked for its range.  A numeral without point and exponent whose value fits 64 bits is an
integer.  Any other is a binary64 number, obtained from the leading digits that fit 64 bits and one
multiplication or division by a power of ten.
-/
import Divert.Json.Fault
import Divert.Number.Shortest

namespace Divert.Json

/-! ## Numerals -/

/-- A number as it is written. -/
structure Numeral where
  negative : Bool
  /-- The digits before the point. -/
  whole : List Char
  /-- The digits after the point; a numeral without a point has none. -/
  fraction : List Char
  /-- The sign of the exponent, negative or not, and its digits. -/
  exponent : Option (Bool × List Char)
  deriving DecidableEq, Repr

/-- The value of a numeral. -/
inductive Number where
  | integer (value : Int)
  | floating (value : Float)

namespace Number

/-- The digits and the sign of a binary64 number in a message: positional notation with at least one
digit after the point from `1e-5` up to `1e16`, an exponent with its sign outside. -/
def floatText (x : Float) : String :=
  let (negative, magnitude) := Number.magnitude x
  let text := match magnitude with
    | none => ['0', '.', '0']
    | some binary =>
      let decimal := binary.shortest
      let digits := Nat.toDigits 10 decimal.digits
      let kept := (digits.reverse.dropWhile (· = '0')).reverse
      let point := decimal.exponent + digits.length
      if 0 < point ∧ point ≤ 16 then
        let whole := kept.take point.toNat
        let fraction := kept.drop point.toNat
        whole ++ List.replicate (point.toNat - whole.length) '0' ++ '.' ::
          if fraction = [] then ['0'] else fraction
      else if -5 < point ∧ point ≤ 0 then
        ['0', '.'] ++ List.replicate (-point).toNat '0' ++ kept
      else
        let power := point - 1
        let fraction := kept.tail
        kept.take 1 ++ (if fraction = [] then [] else '.' :: fraction) ++
          ['e', if power < 0 then '-' else '+'] ++ Nat.toDigits 10 power.natAbs
  String.ofList (if negative then '-' :: text else text)

/-- The value in words. -/
def found : Number → Found
  | integer value => .integer value
  | floating value => .floating (floatText value)

end Number

namespace Numeral

/-! ## Reading a numeral -/

/-- What is wrong with a numeral that ends too early: a reader that decodes it misses the rest of the
text, a reader that skips it finds the numeral broken. -/
structure Broken where
  decoding : Fault
  skipping : Fault
  deriving DecidableEq, Repr

/-- The numeral is broken by the text that follows, which may be its end. -/
def broken (rest : List Char) : Broken :=
  ⟨if rest = [] then .endInValue else .invalidNumber, .invalidNumber⟩

/-- At least one digit, and the text after the digits. -/
def digits (s : List Char) : Except Broken (List Char × List Char) :=
  if s.takeWhile Char.isDigit = [] then .error (broken s)
  else .ok (s.takeWhile Char.isDigit, s.dropWhile Char.isDigit)

/-- The digits after a point, if there is one. -/
def fractionOf (s : List Char) : Except Broken (List Char × List Char) :=
  match s with
  | '.' :: rest => digits rest
  | _ => .ok ([], s)

/-- The sign in front of an exponent's digits: whether it is negative, and the text after it. -/
def signOf : List Char → Bool × List Char
  | '+' :: rest => (false, rest)
  | '-' :: rest => (true, rest)
  | s => (false, s)

/-- The exponent, if there is one. -/
def exponentOf (s : List Char) : Except Broken (Option (Bool × List Char) × List Char) :=
  match s with
  | c :: rest =>
    if c = 'e' ∨ c = 'E' then do
      let (negative, rest) := signOf rest
      let (digits, rest) ← digits rest
      return (some (negative, digits), rest)
    else .ok (none, s)
  | [] => .ok (none, [])

/-- The numeral that a text starts with after its sign, and the text after it.  A leading zero stands
alone. -/
def read (negative : Bool) (s : List Char) : Except Broken (Numeral × List Char) := do
  let (whole, rest) ← digits s
  if whole.head? = some '0' ∧ whole ≠ ['0'] then throw ⟨.invalidNumber, .invalidNumber⟩
  let (fraction, rest) ← fractionOf rest
  let (exponent, rest) ← exponentOf rest
  return (⟨negative, whole, fraction, exponent⟩, rest)

/-! ## The value of a numeral -/

/-- The largest significand. -/
def maxSignificand : Nat := 0xFFFFFFFFFFFFFFFF

/-- Digits are added to a significand as long as it fits; the digits left over come second. -/
def significand (start : Nat) : List Char → Nat × List Char
  | [] => (start, [])
  | c :: rest =>
    let next := start * 10 + (c.toNat - '0'.toNat)
    if next ≤ maxSignificand then significand next rest else (start, c :: rest)

/-- A power of ten that binary64 can hold. -/
def powerOfTen (n : Nat) : Float := Float.ofScientific 1 false n

/-- Divide by `10 ^ n` in steps of at most `10 ^ 308`.  After three steps every significand is zero. -/
def scaleDown (x : Float) (n : Nat) : Nat → Float
  | 0 => 0
  | steps + 1 =>
    if n ≤ 308 then x / powerOfTen n
    else if x == 0 then x
    else scaleDown (x / powerOfTen 308) (n - 308) steps

/-- A significand times a power of ten. -/
def scale (significand : Nat) (power : Int) : Except Fault Float :=
  let x := Float.ofNat significand
  if power < 0 then .ok (scaleDown x power.natAbs 4)
  else if significand = 0 then .ok x
  else if 308 < power then .error .numberOutOfRange
  else
    let product := x * powerOfTen power.natAbs
    if product.isInf then .error .numberOutOfRange else .ok product

/-- The value of a numeral, if it is in range. -/
def value (n : Numeral) : Except Fault Number := do
  let signed (x : Float) : Number := .floating (if n.negative then -x else x)
  let (whole, dropped) := significand 0 n.whole
  if n.fraction = [] ∧ n.exponent = none ∧ dropped = [] then
    if !n.negative then return .integer whole
    else if whole ≠ 0 ∧ whole ≤ 0x8000000000000000 then return .integer (-whole)
    else return signed (Float.ofNat whole)
  let (digits, left) := significand whole n.fraction
  let power : Int := dropped.length - (n.fraction.length - left.length : Nat)
  let exponent : Int := match n.exponent with
    | none => 0
    | some (negative, digits) =>
      let size := Nat.ofDigitChars 10 digits 0
      if negative then -size else size
  return signed (← scale digits (power + exponent))

end Numeral

end Divert.Json
