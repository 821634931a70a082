/-
# Divert.Net.Address — IPv4 addresses and their dotted form.

An address is four octets.  It is written as four decimal numbers with dots between them, and read
strictly: exactly four numbers up to 255, no leading zero, no sign, no blank.  So an address has one
written form.
-/

namespace Divert

/-! ## Addresses -/

/-- An IPv4 address, most significant octet first. -/
structure Address where
  a : UInt8
  b : UInt8
  c : UInt8
  d : UInt8
  deriving DecidableEq, Repr, Inhabited

namespace Address

/-- The number of an address: comparing numbers is comparing octet by octet. -/
def toNat (ip : Address) : Nat :=
  ((ip.a.toNat * 256 + ip.b.toNat) * 256 + ip.c.toNat) * 256 + ip.d.toNat

/-! ## Writing -/

/-- The decimal digits of an octet. -/
def octetDigits (n : UInt8) : List Char := Nat.toDigits 10 n.toNat

/-- The characters of the dotted form. -/
def dotted (ip : Address) : List Char :=
  octetDigits ip.a ++ '.' :: octetDigits ip.b ++ '.' :: octetDigits ip.c ++ '.' :: octetDigits ip.d

/-- The dotted form. -/
def toText (ip : Address) : String := String.ofList ip.dotted

instance : ToString Address := ⟨toText⟩

/-! ## Reading -/

/-- The octet that a text starts with, and the text after it. -/
def octet? (s : List Char) : Option (UInt8 × List Char) :=
  let digits := s.takeWhile Char.isDigit
  let n := Nat.ofDigitChars 10 digits 0
  if digits = Nat.toDigits 10 n ∧ n < 256 then
    some (UInt8.ofNat n, s.dropWhile Char.isDigit)
  else none

/-- The text after a dot. -/
def afterDot? : List Char → Option (List Char)
  | '.' :: rest => some rest
  | _ => none

/-- The address that a text is the dotted form of. -/
def ofDotted? (s : List Char) : Option Address := do
  let (a, s) ← octet? s
  let (b, s) ← octet? (← afterDot? s)
  let (c, s) ← octet? (← afterDot? s)
  let (d, s) ← octet? (← afterDot? s)
  if s = [] then some ⟨a, b, c, d⟩ else none

/-- The address that a text is the dotted form of. -/
def ofText? (s : String) : Option Address := ofDotted? s.toList

example : ofText? "10.0.0.255" = some ⟨10, 0, 0, 255⟩ := by decide

example : ofText? "1.2.3.04" = none ∧ ofText? "256.1.1.1" = none ∧ ofText? "1.2.3.4 " = none := by
  decide

end Address

end Divert
