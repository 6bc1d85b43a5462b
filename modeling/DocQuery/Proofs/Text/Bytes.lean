import DocQuery.Text.Base64
import DocQuery.Text.Hex
import Mathlib.Data.List.Basic

/-!
# What the digits of bytes tell apart

A byte is told by its hexadecimal digits, and a list of bytes by its base64 text: the signs that
fill up the last group say how many bytes it has.
-/

namespace DocQuery.Text

namespace Hex

/-- A byte has one digit or two. -/
theorem unpadded_eq (b : UInt8) :
    unpadded b = if b.toNat < 16 then [Nat.digitChar b.toNat] else ofByte b := by
  have bounded := b.toNat_lt
  rw [unpadded]
  split
  · rename_i small
    exact Nat.toDigits_of_lt_base small
  · rename_i large
    rw [Nat.toDigits_of_base_le (by decide) (by omega), Nat.toDigits_of_lt_base (by omega)]
    rfl

theorem digitChar_inj {m n : Nat} (small : m < 16) (small' : n < 16)
    (same : Nat.digitChar m = Nat.digitChar n) : m = n := by
  have each : ∀ m < 16, ∀ n < 16, Nat.digitChar m = Nat.digitChar n → m = n := by decide
  exact each m small n small' same

theorem unpadded_inj {a b : UInt8} : unpadded a = unpadded b ↔ a = b := by
  constructor
  · intro same
    have bounded := a.toNat_lt
    have bounded' := b.toNat_lt
    rw [unpadded_eq, unpadded_eq] at same
    apply UInt8.toNat_inj.mp
    split at same <;> split at same
    · exact digitChar_inj (by omega) (by omega) (List.head_eq_of_cons_eq same)
    · exact absurd (congrArg List.length same) (by simp [ofByte])
    · exact absurd (congrArg List.length same) (by simp [ofByte])
    · have high := digitChar_inj (by omega) (by omega) (List.head_eq_of_cons_eq same)
      have low := digitChar_inj (by omega) (by omega)
        (List.head_eq_of_cons_eq (List.tail_eq_of_cons_eq same))
      omega
  · rintro rfl
    rfl

theorem comma_not_mem_unpadded (b : UInt8) : ',' ∉ unpadded b := by
  have apart : ∀ n < 16, Nat.digitChar n ≠ ',' := by decide
  have bounded := b.toNat_lt
  have high := apart (b.toNat / 16) (by omega)
  have low := apart (b.toNat % 16) (by omega)
  rw [unpadded_eq]
  split
  · rename_i small
    exact fun member => apart _ small (List.mem_singleton.mp member).symm
  · simp [ofByte, high.symm, low.symm]

end Hex

namespace Base64

/-- The value of a symbol is its place in the alphabet. -/
theorem idxOf_symbol (n : Nat) : alphabet.idxOf (symbol n) = n % 64 := by
  have each : ∀ k < 64, alphabet.idxOf (alphabet.getD k '=') = k := by decide +kernel
  exact each (n % 64) (Nat.mod_lt n (by decide))

theorem idxOf_filling : alphabet.idxOf '=' = 64 := by decide

/-- The sign that fills up a group is no symbol. -/
theorem symbol_ne (n : Nat) : symbol n ≠ '=' := by
  intro same
  have place := idxOf_symbol n
  rw [same, idxOf_filling] at place
  omega

/-- The bytes that groups of four characters stand for. -/
def decode : List Char → List UInt8
  | a :: b :: c :: d :: rest =>
    let n := ((alphabet.idxOf a * 64 + alphabet.idxOf b) * 64 + alphabet.idxOf c) * 64 +
      alphabet.idxOf d
    if c = '=' then [.ofNat (n / 65536)]
    else if d = '=' then [.ofNat (n / 65536), .ofNat (n / 256)]
    else .ofNat (n / 65536) :: .ofNat (n / 256) :: .ofNat n :: decode rest
  | _ => []

/-- A byte is known by any number that ends in it. -/
theorem ofNat_eq_of_mod {n : Nat} {b : UInt8} (same : n % 256 = b.toNat) : UInt8.ofNat n = b :=
  UInt8.toNat_inj.mp ((UInt8.toNat_ofNat' ..).trans same)

/-- Bytes are read back from their text. -/
theorem decode_encode (bytes : List UInt8) : decode (encode bytes) = bytes := by
  induction bytes using encode.induct with
  | case1 => rfl
  | case2 a =>
      have bounded := a.toNat_lt
      simp only [encode, decode, idxOf_symbol, idxOf_filling, if_true]
      rw [ofNat_eq_of_mod (b := a) (by omega)]
  | case3 a b =>
      have bounded := a.toNat_lt
      have bounded' := b.toNat_lt
      simp only [encode, decode, idxOf_symbol, idxOf_filling, symbol_ne, if_true, if_false]
      rw [ofNat_eq_of_mod (b := a) (by omega), ofNat_eq_of_mod (b := b) (by omega)]
  | case4 a b c rest ih =>
      have bounded := a.toNat_lt
      have bounded' := b.toNat_lt
      have bounded'' := c.toNat_lt
      simp only [encode, decode, idxOf_symbol, symbol_ne, if_false, ih]
      rw [ofNat_eq_of_mod (b := a) (by omega), ofNat_eq_of_mod (b := b) (by omega),
        ofNat_eq_of_mod (b := c) (by omega)]

theorem encode_inj {xs ys : List UInt8} : encode xs = encode ys ↔ xs = ys := by
  constructor
  · intro same
    rw [← decode_encode xs, same, decode_encode]
  · rintro rfl
    rfl

end Base64

end DocQuery.Text
