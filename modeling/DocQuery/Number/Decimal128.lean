import DocQuery.Text.Numeral

/-!
# Decimal128 numbers

A decimal floating-point number of 128 bits in the binary integer encoding: a sign, an exponent of
fourteen bits and a coefficient. The two bits below the sign, if both are set, announce either a
special value or a coefficient that is too large for the format; such a coefficient counts as zero.
-/

namespace DocQuery

/-- A decimal floating-point number, given by its bits. -/
structure Decimal128 where
  bits : BitVec 128
deriving DecidableEq, Repr

namespace Decimal128

/-- The greatest coefficient: thirty-four nines. -/
def maxCoefficient : Nat :=
  9999999999999999999999999999999999

def isNegative (d : Decimal128) : Bool :=
  d.bits.getLsbD 127

/-- Whether the number is an infinity or no number. -/
def isSpecial (d : Decimal128) : Bool :=
  d.bits.toNat >>> 123 % 16 = 15

/-- Whether a special value is no number, rather than an infinity. -/
def isNaN (d : Decimal128) : Bool :=
  d.isSpecial && d.bits.getLsbD 122

/-- Whether the exponent is shifted down to make room for a leading coefficient of `100`. -/
def hasShiftedExponent (d : Decimal128) : Bool :=
  d.bits.getLsbD 126 && d.bits.getLsbD 125

/-- The power of ten that the coefficient is multiplied by. -/
def exponent (d : Decimal128) : Int :=
  let field := if d.hasShiftedExponent then d.bits.toNat >>> 111 else d.bits.toNat >>> 113
  (field % (1 <<< 14) : Nat) - 6176

/-- The coefficient, or zero if it does not fit thirty-four digits. -/
def coefficient (d : Decimal128) : Nat :=
  let field := d.bits.toNat % (1 <<< 113)
  if d.hasShiftedExponent || maxCoefficient < field then 0 else field

/-- A coefficient and its exponent. The number is written positionally if it is whole or has its
leading digit at most six places behind the point, and with an exponent otherwise. -/
def finiteText (coefficient : Nat) (exponent : Int) : List Char :=
  let digits := Text.Numeral.digits coefficient
  let adjusted := exponent + digits.length - 1
  if exponent ≤ 0 ∧ -6 ≤ adjusted then
    if exponent = 0 then digits
    else if adjusted < 0 then
      '0' :: '.' :: List.replicate (-adjusted - 1).toNat '0' ++ digits
    else digits.take (adjusted + 1).toNat ++ '.' :: digits.drop (adjusted + 1).toNat
  else
    let mantissa := match digits with
      | first :: second :: rest => first :: '.' :: second :: rest
      | few => few
    mantissa ++ 'E' :: (if 0 ≤ adjusted then ['+'] else ['-']) ++
      Text.Numeral.digits adjusted.natAbs

/-- The text of a number. No number has no sign. -/
def text (d : Decimal128) : String :=
  let sign := if d.isNegative then "-" else ""
  if d.isNaN then "NaN"
  else if d.isSpecial then sign ++ "Infinity"
  else sign ++ String.ofList (finiteText d.coefficient d.exponent)

end Decimal128

end DocQuery
