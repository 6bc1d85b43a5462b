/-!
# Binary64 numbers

A double is kept as its sixty-four bits, so that equality is decidable and nothing about it is left
to floating-point hardware. A finite double is, up to its sign, a natural number times a power of
two; everything that is said about its value is said about that product.
-/

namespace DocQuery

/-- A binary64 number, given by its bits. -/
structure Double where
  bits : UInt64
deriving DecidableEq, Repr, Inhabited

/-- The number `significand * 2 ^ exponent`, together with what is known of its neighbours. -/
structure Dyadic where
  significand : Nat
  exponent : Int
  /-- The double below is half as far away as the double above, as below a power of two. -/
  closerBelow : Bool := false
deriving DecidableEq, Repr

namespace Double

/-- The bit in front of the binary point, which is not stored. -/
abbrev leadingBit : Nat :=
  0x10000000000000

/-- The biased exponent. -/
def exponentField (x : Double) : Nat :=
  x.bits.toNat / leadingBit % 2048

/-- The bits behind the binary point. -/
def fraction (x : Double) : Nat :=
  x.bits.toNat % leadingBit

/-- Whether the sign bit is set. Zero and NaN carry a sign too. -/
def isNegative (x : Double) : Bool :=
  UInt64.size / 2 ≤ x.bits.toNat

def isNaN (x : Double) : Bool :=
  x.exponentField = 2047 ∧ x.fraction ≠ 0

def isInfinite (x : Double) : Bool :=
  x.exponentField = 2047 ∧ x.fraction = 0

/-- The absolute value of a finite double. Subnormal numbers lack the leading bit. -/
def magnitude (x : Double) : Dyadic :=
  if x.exponentField = 0 then
    { significand := x.fraction, exponent := -1074 }
  else
    { significand := leadingBit + x.fraction
      exponent := (x.exponentField : Int) - 1075
      closerBelow := x.fraction = 0 ∧ 1 < x.exponentField }

def isPositive (x : Double) : Bool :=
  !x.isNegative && !x.isNaN && (x.exponentField != 0 || x.fraction != 0)

end Double

/-- The whole part: the greatest natural number that is at most the dyadic number. -/
def Dyadic.floor (d : Dyadic) : Nat :=
  d.significand <<< d.exponent.toNat >>> (-d.exponent).toNat

/-- The whole part of a positive double as a word; what exceeds the greatest word is that word. -/
def Double.toWord (x : Double) : UInt64 :=
  if x.isInfinite then .ofNatClamp UInt64.size else .ofNatClamp x.magnitude.floor

end DocQuery
