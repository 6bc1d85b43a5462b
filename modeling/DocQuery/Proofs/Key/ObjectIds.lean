import DocQuery.Key.Codec

/-!
# Texts of object identifiers

An object identifier is written as the digits of its bytes, and reading these digits gives the same
identifier. A text that was handed out for an identifier is therefore never taken for a misspelt
one, and no new identifier is drawn for it.
-/

namespace DocQuery

namespace Text

theorem utf8_ofList (cs : List Char) :
    utf8 (String.ofList cs) = cs.flatMap String.utf8EncodeChar := by
  rw [utf8, String.toList_ofList]

namespace Hex

/-- A digit is read as the number that it was written for. -/
theorem digit?_digitChar {n : Nat} (small : n < 16) :
    digit? (.ofNat (Nat.digitChar n).toNat) = some (.ofNat n) := by
  have each : ∀ n < 16, digit? (.ofNat (Nat.digitChar n).toNat) = some (.ofNat n) := by decide
  exact each n small

/-- A digit takes one byte of a text. -/
theorem utf8EncodeChar_digitChar {n : Nat} (small : n < 16) :
    String.utf8EncodeChar (Nat.digitChar n) = [.ofNat (Nat.digitChar n).toNat] := by
  have each : ∀ n < 16,
      String.utf8EncodeChar (Nat.digitChar n) = [.ofNat (Nat.digitChar n).toNat] := by decide
  exact each n small

/-- A byte is known by its two halves. -/
theorem ofNat_halves (b : UInt8) :
    16 * UInt8.ofNat (b.toNat / 16) + UInt8.ofNat (b.toNat % 16) = b := by
  have bounded := b.toNat_lt
  apply UInt8.toNat_inj.mp
  have sixteen : UInt8.toNat 16 = 16 := rfl
  rw [UInt8.toNat_add, UInt8.toNat_mul, UInt8.toNat_ofNat', UInt8.toNat_ofNat', sixteen]
  omega

theorem utf8_encode_cons (b : UInt8) (bytes : List UInt8) :
    utf8 (String.ofList (encode (b :: bytes))) =
      .ofNat (Nat.digitChar (b.toNat / 16)).toNat ::
        .ofNat (Nat.digitChar (b.toNat % 16)).toNat :: utf8 (String.ofList (encode bytes)) := by
  have bounded := b.toNat_lt
  have high := utf8EncodeChar_digitChar (n := b.toNat / 16) (by omega)
  have low := utf8EncodeChar_digitChar (n := b.toNat % 16) (by omega)
  rw [utf8_ofList, utf8_ofList, encode, List.flatMap_cons, List.flatMap_append, ofByte,
    List.flatMap_cons, List.flatMap_singleton, high, low]
  rfl

theorem length_utf8_encode (bytes : List UInt8) :
    (utf8 (String.ofList (encode bytes))).length = 2 * bytes.length := by
  induction bytes with
  | nil => rfl
  | cons b bytes ih =>
      rw [utf8_encode_cons, List.length_cons, List.length_cons, List.length_cons, ih]
      omega

theorem decodeFrom_encode (index : Nat) (bytes : List UInt8) :
    decodeFrom index (utf8 (String.ofList (encode bytes))) = .ok bytes := by
  induction bytes generalizing index with
  | nil => rfl
  | cons b bytes ih =>
      have bounded := b.toNat_lt
      have high := digit?_digitChar (n := b.toNat / 16) (by omega)
      have low := digit?_digitChar (n := b.toNat % 16) (by omega)
      rw [utf8_encode_cons, decodeFrom, high, low]
      simp only [ih, Except.map, ofNat_halves]

/-- Bytes are read back from the text of their digits. -/
theorem decode_encode (bytes : List UInt8) :
    decode (utf8 (String.ofList (encode bytes))) = .ok bytes := by
  have even : (utf8 (String.ofList (encode bytes))).length % 2 ≠ 1 := by
    rw [length_utf8_encode]
    omega
  rw [decode, if_neg even, decodeFrom_encode]

end Hex

end Text

/-- An identifier is read back from its digits. -/
theorem ObjectId.parse_toHex (id : ObjectId) : ObjectId.parse id.toHex = .ok id := by
  rw [parse, toHex, Text.Hex.decode_encode]
  exact dif_pos id.length_eq

namespace Codec

variable {τ : Type} (next : τ → ObjectId × τ)

theorem ofText_toText_objectId (id : ObjectId) :
    (objectId next).ofText ((objectId next).toText (.objectId id)) = .ok (.objectId id) := by
  change objectIdOfText id.toHex = _
  rw [objectIdOfText, ObjectId.parse_toHex]

/-- The text of an identifier stands for this identifier, and none is drawn for it. -/
theorem readOrMint_toText_objectId (id : ObjectId) (source : τ) :
    (objectId next).readOrMint ((objectId next).toText (.objectId id)) source =
      (.objectId id, source) := by
  rw [readOrMint, ofText_toText_objectId]

end Codec

end DocQuery
