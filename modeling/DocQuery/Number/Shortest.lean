import DocQuery.Number.Double
import DocQuery.Text.Numeral

/-!
# The fewest digits that read back

A double is written with the fewest decimal digits that identify it among all doubles, and among
those with the decimal closest to it. The decimals that identify a double form an interval: it
reaches halfway to the neighbours, and contains its ends exactly if the significand is even. All
comparisons are between natural numbers, by cross-multiplication.

Which digits are chosen leaves one question open, a tie between two decimals that are equally
close, and says nothing about where the point goes. Both are settled by a `Layout`.
-/

namespace DocQuery

/-- The number `digits * 10 ^ exponent`. -/
structure Decimal where
  digits : Nat
  exponent : Int
deriving DecidableEq, Repr

/-- Which of two neighbouring decimals stands for the value halfway between them. -/
inductive Tie where
  | up
  | even
deriving DecidableEq, Repr

namespace Dyadic

/-- The number measured on the grid of multiples of `10 ^ grid`: a factor for the significand and
the divisor that the product is taken by. -/
def onGrid (d : Dyadic) (grid : Int) : Nat × Nat :=
  (Nat.pow 10 (-grid).toNat <<< d.exponent.toNat, Nat.pow 10 grid.toNat <<< (-d.exponent).toNat)

/-- Whether `c * 10 ^ grid` lies among the numbers that are read as this double. The ends of that
interval are counted in quarters of the last binary place. -/
def readsBack (d : Dyadic) (grid : Int) (c : Nat) : Bool :=
  let (factor, divisor) := d.onGrid grid
  let low := (if d.closerBelow then 4 * d.significand - 1 else 4 * d.significand - 2) * factor
  let high := (4 * d.significand + 2) * factor
  let point := 4 * c * divisor
  if d.significand % 2 = 0 then low ≤ point && point ≤ high else low < point && point < high

/-- The decimal on the grid that identifies the number, if there is one: of its two neighbours on
the grid the closer one that reads back. -/
def nearest? (d : Dyadic) (tie : Tie) (grid : Int) : Option Decimal :=
  let (factor, divisor) := d.onGrid grid
  let value := d.significand * factor
  let below := value / divisor
  let above := below + 1
  match d.readsBack grid below, d.readsBack grid above with
  | false, false => none
  | true, false => some ⟨below, grid⟩
  | false, true => some ⟨above, grid⟩
  | true, true =>
    -- Twice the value against the sum of the two neighbours.
    match compare (2 * value) ((below + above) * divisor), tie with
    | .lt, _ => some ⟨below, grid⟩
    | .gt, _ => some ⟨above, grid⟩
    | .eq, .up => some ⟨above, grid⟩
    | .eq, .even => some ⟨if below % 2 = 0 then below else above, grid⟩

/-- The place of the leading digit of a number that is not zero: the least `k` such that the number
is below `10 ^ k`. -/
def order (d : Dyadic) : Int :=
  let (factor, divisor) := d.onGrid 0
  let value := d.significand * factor
  if divisor ≤ value then (Text.Numeral.digits (value / divisor)).length
  else 1 - (Text.Numeral.digits (divisor / value)).length

def exact (d : Dyadic) : Decimal :=
  if 0 ≤ d.exponent then ⟨d.significand <<< d.exponent.toNat, 0⟩
  else ⟨d.significand * Nat.pow 5 (-d.exponent).toNat, d.exponent⟩

/-- The decimal with the fewest digits that identifies a number other than zero: grids of more and
more digits are tried. Seventeen digits identify every double; were they not to, all digits are
written. -/
def shortest (d : Dyadic) (tie : Tie) : Decimal :=
  ((List.range 17).findSome? fun (n : Nat) => d.nearest? tie (d.order - 1 - n)).getD d.exact

end Dyadic

/-- How the digits of a double are set. -/
structure Layout where
  /-- Whether a number whose point stands behind this many digits is written without exponent. -/
  positional : Int → Bool
  /-- What follows the digits of a whole number. -/
  wholeSuffix : String
  tie : Tie

namespace Layout

/-- Drops the trailing zeros of a list of digits and counts them. -/
def dropZeros (digits : List Char) : List Char × Nat :=
  let kept := (digits.reverse.dropWhile (· = '0')).reverse
  (kept, digits.length - kept.length)

/-- Digits with the point set behind the first `point` of them; a point outside the digits is
reached over zeros. -/
def place (layout : Layout) (digits : List Char) (point : Int) : List Char :=
  if point ≤ 0 then '0' :: '.' :: List.replicate (-point).toNat '0' ++ digits
  else if digits.length ≤ point.toNat then
    digits ++ List.replicate (point.toNat - digits.length) '0' ++ layout.wholeSuffix.toList
  else digits.take point.toNat ++ '.' :: digits.drop point.toNat

/-- Digits with the point behind the first of them and an exponent that always carries a sign. -/
def scientific (digits : List Char) (exponent : Int) : List Char :=
  let sign := if exponent < 0 then '-' else '+'
  let mantissa := match digits with
    | first :: second :: rest => first :: '.' :: second :: rest
    | few => few
  mantissa ++ 'e' :: sign :: Text.Numeral.digits exponent.natAbs

/-- The text of a number other than zero. -/
def decimal (layout : Layout) (d : Decimal) : List Char :=
  let (digits, zeros) := dropZeros (Text.Numeral.digits d.digits)
  let point := (digits.length : Int) + zeros + d.exponent
  if layout.positional point then layout.place digits point else scientific digits (point - 1)

/-- The text of a finite double. Zero keeps its sign. -/
def render (layout : Layout) (x : Double) : String :=
  let sign := if x.isNegative then ['-'] else []
  let text :=
    if x.magnitude.significand = 0 then '0' :: layout.wholeSuffix.toList
    else layout.decimal (x.magnitude.shortest layout.tie)
  String.ofList (sign ++ text)

end Layout

end DocQuery
