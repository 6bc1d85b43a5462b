/-!
# Base64

The standard alphabet with padding: three bytes become four characters, and an incomplete group is
filled up with equals signs.
-/

namespace DocQuery.Text.Base64

/-- The characters for the values from 0 to 63. -/
def alphabet : List Char :=
  "ABCDEFGHIJKLMNOPQRSTUVWXYZabcdefghijklmnopqrstuvwxyz0123456789+/".toList

/-- The character for a value, of which the six low bits count. -/
def symbol (n : Nat) : Char :=
  alphabet.getD (n % 64) '='

/-- The characters of a list of bytes, group by group. -/
def encode : List UInt8 → List Char
  | [] => []
  | [a] =>
    let n := a.toNat * 16
    [symbol (n / 64), symbol n, '=', '=']
  | [a, b] =>
    let n := (a.toNat * 256 + b.toNat) * 4
    [symbol (n / 4096), symbol (n / 64), symbol n, '=']
  | a :: b :: c :: rest =>
    let n := a.toNat * 65536 + b.toNat * 256 + c.toNat
    symbol (n / 262144) :: symbol (n / 4096) :: symbol (n / 64) :: symbol n :: encode rest

example : encode [0xDE, 0xAD, 0xBE, 0xEF] = "3q2+7w==".toList := by decide

end DocQuery.Text.Base64
