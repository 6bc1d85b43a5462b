import DocQuery.Key.Codec
import DocQuery.Proofs.Calendar
import DocQuery.Proofs.Key.ObjectIds
import DocQuery.Proofs.Text.Bytes

/-!
# What the texts of values tell apart

The text of a value is made for people, and values of different kinds may have the same text: a
string may be any text at all, numbers of different width look alike, and strings inside an array
are quoted without escapes. Among the values of one kind, most kinds are such that different values
have different texts.
-/

namespace DocQuery

open Text

namespace ObjectId

/-- An identifier is known by its digits. -/
theorem toHex_inj {a b : ObjectId} : a.toHex = b.toHex ↔ a = b := by
  constructor
  · intro same
    have read := parse_toHex a
    rw [same, parse_toHex] at read
    exact (Except.ok.inj read).symm
  · rintro rfl
    rfl

end ObjectId

namespace Value

/-- Bytes are known by their text, together with what they are for: a comma stands between. -/
theorem binaryText_inj {subtype subtype' : UInt8} {bytes bytes' : List UInt8} :
    binaryText subtype bytes = binaryText subtype' bytes' ↔ subtype = subtype' ∧ bytes = bytes' := by
  constructor
  · intro same
    have characters := congrArg String.toList same
    simp only [binaryText, String.toList_append, String.toList_ofList] at characters
    have inner := List.append_cancel_right characters
    simp only [List.append_assoc] at inner
    obtain ⟨subtypes, rest⟩ := append_cons_inj (Hex.comma_not_mem_unpadded subtype)
      (Hex.comma_not_mem_unpadded subtype') (List.append_cancel_left inner)
    exact ⟨Hex.unpadded_inj.mp subtypes, Base64.encode_inj.mp (List.tail_eq_of_cons_eq rest)⟩
  · rintro ⟨rfl, rfl⟩
    rfl

theorem timestampText_inj {time time' increment increment' : UInt32}
    (same : (timestamp time increment).text = (timestamp time' increment').text) :
    time = time' ∧ increment = increment' := by
  have characters := congrArg String.toList same
  simp only [text, Numeral.ofNat, String.toList_append, String.toList_ofList] at characters
  have inner := List.append_cancel_right characters
  simp only [List.append_assoc] at inner
  obtain ⟨times, rest⟩ := append_cons_inj (Numeral.not_mem_digits rfl time.toNat)
    (Numeral.not_mem_digits rfl time'.toNat) (List.append_cancel_left inner)
  exact ⟨UInt32.toNat_inj.mp (Numeral.digits_inj.mp times),
    UInt32.toNat_inj.mp (Numeral.digits_inj.mp (List.tail_eq_of_cons_eq rest))⟩

/-- Two values of one kind, as far as it is a kind of which texts tell everything. -/
inductive Akin : Value → Value → Prop where
  | bool (a b : Bool) : Akin (.bool a) (.bool b)
  | int32 (m n : Int32) : Akin (.int32 m) (.int32 n)
  | int64 (m n : Int64) : Akin (.int64 m) (.int64 n)
  | string (s s' : String) : Akin (.string s) (.string s')
  | objectId (id id' : ObjectId) : Akin (.objectId id) (.objectId id')
  | dateTime (t t' : DateTime) : Akin (.dateTime t) (.dateTime t')
  | binary (subtype subtype' : UInt8) (bytes bytes' : List UInt8) :
      Akin (.binary subtype bytes) (.binary subtype' bytes')
  | code (source source' : String) : Akin (.code source) (.code source')
  | timestamp (time time' increment increment' : UInt32) :
      Akin (.timestamp time increment) (.timestamp time' increment')
  | symbol (s s' : String) : Akin (.symbol s) (.symbol s')

/-- Values of one kind are told apart by their texts. -/
theorem Akin.eq_of_text_eq {a b : Value} (akin : a.Akin b)
    (same : Codec.objectIdText a = Codec.objectIdText b) : a = b := by
  cases akin with
  | bool a b => cases a <;> cases b <;> first | rfl | exact absurd same (by decide)
  | int32 m n => rw [Int32.toInt_inj.mp (Numeral.ofInt_inj.mp same)]
  | int64 m n => rw [Int64.toInt_inj.mp (Numeral.ofInt_inj.mp same)]
  | string s s' => exact congrArg Value.string same
  | objectId id id' => rw [ObjectId.toHex_inj.mp same]
  | dateTime t t' =>
      have inner := (String.append_right_inj _).mp ((String.append_left_inj _).mp same)
      rw [DateTime.text_inj.mp inner]
  | binary subtype subtype' bytes bytes' =>
      obtain ⟨rfl, rfl⟩ := binaryText_inj.mp same
      rfl
  | code source source' => exact congrArg Value.code same
  | timestamp time time' increment increment' =>
      obtain ⟨rfl, rfl⟩ := timestampText_inj same
      rfl
  | symbol s s' =>
      have inner := (String.append_right_inj _).mp ((String.append_left_inj _).mp same)
      rw [inner]

end Value

end DocQuery
