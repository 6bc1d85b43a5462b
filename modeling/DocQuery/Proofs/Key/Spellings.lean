import DocQuery.Proofs.Document.Texts
import DocQuery.Settings.LogSwitches

/-!
# Spellings of object identifiers

The spellings of an object identifier are the texts of twenty-four hexadecimal digits, small ones
and capital ones mixed at will, that come to its own text in small letters. Which texts these are is
said of their characters, while they are read byte by byte: a character that is not ASCII takes
several bytes, none of which is a digit, so that a text of twenty-four bytes is no spelling either
unless it has as many characters.

Every other text is refused with the cause, and where an identifier has to be made of it
nonetheless, a new one is drawn.
-/

namespace DocQuery

namespace Text.Hex

def IsDigit (c : Char) : Prop :=
  '0' ≤ c ∧ c ≤ '9' ∨ 'a' ≤ c ∧ c ≤ 'f' ∨ 'A' ≤ c ∧ c ≤ 'F'

instance : DecidablePred IsDigit := fun _ => inferInstanceAs (Decidable (_ ∨ _))

/-! ## Bytes of digits -/

theorem toNat_lt_of_isDigit {c : Char} (digit : IsDigit c) : c.toNat < 128 := by
  have bound : c ≤ 'f' := by
    rcases digit with ⟨-, high⟩ | ⟨-, high⟩ | ⟨-, high⟩
    · exact Char.le_trans high (by decide)
    · exact high
    · exact Char.le_trans high (by decide)
  exact Nat.lt_of_le_of_lt (Char.le_def.mp bound) (by decide)

/-- A byte that is read as a digit is the character of this digit, of either case. -/
theorem digit?_eq_some {b d : UInt8} (read : digit? b = some d) :
    b.toNat < 128 ∧ IsDigit (Char.ofNat b.toNat) ∧ d.toNat < 16 ∧
      Nat.digitChar d.toNat = (Char.ofNat b.toNat).toLower := by
  have each : ∀ n < 256, ∀ d ∈ digit? (.ofNat n), n < 128 ∧ IsDigit (Char.ofNat n) ∧
      d.toNat < 16 ∧ Nat.digitChar d.toNat = (Char.ofNat n).toLower := by decide +kernel
  have found := each b.toNat b.toNat_lt d
  rw [UInt8.ofNat_toNat] at found
  exact found read

theorem isSome_digit? {c : Char} (digit : IsDigit c) : (digit? (.ofNat c.toNat)).isSome := by
  have each : ∀ n < 128, IsDigit (Char.ofNat n) → (digit? (.ofNat n)).isSome := by decide +kernel
  refine each c.toNat (toNat_lt_of_isDigit digit) ?_
  rwa [Char.ofNat_toNat]

/-- An ASCII character takes one byte. -/
theorem utf8EncodeChar_of_ascii {c : Char} (ascii : c.toNat < 128) :
    String.utf8EncodeChar c = [.ofNat c.toNat] :=
  if_pos (Nat.le_of_lt_succ ascii)

/-- The bytes of any other character are not ASCII. -/
theorem le_of_mem_utf8EncodeChar {c : Char} (other : 128 ≤ c.toNat) {b : UInt8}
    (member : b ∈ String.utf8EncodeChar c) : 128 ≤ b.toNat := by
  have large : ¬ c.val.toNat ≤ 127 := Nat.not_le_of_lt other
  have small : c.val.toNat < 1114112 := by
    have valid : c.toNat < 0xD800 ∨ 0xDFFF < c.toNat ∧ c.toNat < 0x110000 := c.valid
    change c.toNat < 1114112
    omega
  unfold String.utf8EncodeChar at member
  simp only [large, if_false] at member
  split at member
  · rcases List.mem_pair.mp member with rfl | rfl <;> rw [UInt8.toNat_ofNat'] <;> omega
  · split at member <;> simp only [List.mem_cons, List.not_mem_nil, or_false] at member
    · rcases member with rfl | rfl | rfl <;> rw [UInt8.toNat_ofNat'] <;> omega
    · rcases member with rfl | rfl | rfl | rfl <;> rw [UInt8.toNat_ofNat'] <;> omega

/-- A character whose bytes are digits is a digit itself. -/
theorem isDigit_of_utf8 {c : Char}
    (all : ∀ b ∈ String.utf8EncodeChar c, (digit? b).isSome) : IsDigit c := by
  obtain ⟨b, member⟩ := List.exists_mem_of_ne_nil _ (String.utf8EncodeChar_ne_nil (c := c))
  obtain ⟨d, read⟩ := Option.isSome_iff_exists.mp (all b member)
  obtain ⟨small, digit, -⟩ := digit?_eq_some read
  by_cases ascii : c.toNat < 128
  · rw [utf8EncodeChar_of_ascii ascii] at member
    obtain rfl := List.mem_singleton.mp member
    rwa [UInt8.toNat_ofNat_of_lt' (Nat.lt_trans ascii (by decide)), Char.ofNat_toNat] at digit
  · have large := le_of_mem_utf8EncodeChar (Nat.le_of_not_lt ascii) member
    omega

/-- Digits take one byte each. -/
theorem utf8_of_digits {s : String} (digits : ∀ c ∈ s.toList, IsDigit c) :
    utf8 s = s.toList.map fun c => .ofNat c.toNat := by
  rw [utf8, List.map_eq_flatMap]
  exact List.flatMap_congr fun c member =>
    utf8EncodeChar_of_ascii (toNat_lt_of_isDigit (digits c member))

/-! ## Reading digits -/

/-- Two digits are written for the byte that was made of them. -/
theorem ofByte_join {high low : UInt8} (small : high.toNat < 16) (small' : low.toNat < 16) :
    ofByte (16 * high + low) = [Nat.digitChar high.toNat, Nat.digitChar low.toNat] := by
  have whole : (16 * high + low).toNat = 16 * high.toNat + low.toNat := by
    have sixteen : UInt8.toNat 16 = 16 := rfl
    rw [UInt8.toNat_add, UInt8.toNat_mul, sixteen]
    omega
  rw [ofByte, whole, Nat.mul_add_div (by decide), Nat.div_eq_of_lt small', Nat.add_zero,
    Nat.mul_add_mod, Nat.mod_eq_of_lt small']

/-- What was read are digits, and they are written again in small letters. -/
theorem encode_of_decodeFrom {index : Nat} {digits bytes : List UInt8}
    (read : decodeFrom index digits = .ok bytes) :
    (∀ b ∈ digits, (digit? b).isSome) ∧
      encode bytes = digits.map fun b => (Char.ofNat b.toNat).toLower := by
  induction index, digits using decodeFrom.induct generalizing bytes with
  | case1 index =>
      obtain rfl := Except.ok.inj read
      exact ⟨nofun, rfl⟩
  | case2 index b => contradiction
  | case3 index high low rest none =>
      rw [decodeFrom, none] at read
      contradiction
  | case4 index high low rest h none found =>
      rw [decodeFrom, found, none] at read
      contradiction
  | case5 index high low rest h l found' found ih =>
      rw [decodeFrom, found, found'] at read
      cases later : decodeFrom (index + 2) rest with
      | error flaw =>
          rw [later] at read
          contradiction
      | ok bytes' =>
          rw [later] at read
          obtain rfl := Except.ok.inj read
          obtain ⟨all, written⟩ := ih later
          obtain ⟨-, -, small, first⟩ := digit?_eq_some found
          obtain ⟨-, -, small', second⟩ := digit?_eq_some found'
          refine ⟨?_, ?_⟩
          · simp only [List.forall_mem_cons]
            exact ⟨found ▸ rfl, found' ▸ rfl, all⟩
          · rw [encode, List.flatMap_cons, ofByte_join small small', first, second]
            exact congrArg _ written

/-- Digits are read if there is an even number of them. -/
theorem exists_decodeFrom {digits : List UInt8} (index : Nat) (even : digits.length % 2 = 0)
    (all : ∀ b ∈ digits, (digit? b).isSome) : ∃ bytes, decodeFrom index digits = .ok bytes := by
  induction index, digits using decodeFrom.induct with
  | case1 index => exact ⟨[], rfl⟩
  | case2 index b => contradiction
  | case3 index high low rest none =>
      have there := all high List.mem_cons_self
      rw [none] at there
      contradiction
  | case4 index high low rest h none found =>
      have there := all low (List.mem_cons_of_mem _ List.mem_cons_self)
      rw [none] at there
      contradiction
  | case5 index high low rest h l found' found ih =>
      rw [List.length_cons, List.length_cons] at even
      obtain ⟨bytes, later⟩ := ih (by omega) fun b member =>
        all b (List.mem_cons_of_mem _ (List.mem_cons_of_mem _ member))
      refine ⟨(16 * h + l) :: bytes, ?_⟩
      rw [decodeFrom, found, found']
      simp only [later, Except.map]

theorem length_encode (bytes : List UInt8) : (encode bytes).length = 2 * bytes.length := by
  induction bytes with
  | nil => rfl
  | cons b bytes ih =>
      have pair : (ofByte b).length = 2 := rfl
      change (ofByte b ++ encode bytes).length = _
      rw [List.length_append, pair, ih, List.length_cons]
      omega

end Text.Hex

namespace ObjectId

/-- Twenty-four hexadecimal digits of either case. -/
structure IsSpelling (s : String) : Prop where
  length_eq : s.toList.length = 24
  digits : ∀ c ∈ s.toList, Text.Hex.IsDigit c

open Text

/-- What was read is a spelling, and the digits of its identifier are those of the spelling in small
letters. -/
theorem spelling_of_parse {s : String} {id : ObjectId} (read : parse s = .ok id) :
    IsSpelling s ∧ id.toHex = asciiLower s := by
  rw [parse] at read
  cases found : Hex.decode (utf8 s) with
  | error flaw =>
      rw [found] at read
      cases flaw <;> contradiction
  | ok bytes =>
      rw [found] at read
      dsimp only at read
      split at read
      case isFalse => contradiction
      case isTrue twelve =>
        obtain rfl := Except.ok.inj read
        rw [Hex.decode] at found
        split at found
        · contradiction
        · obtain ⟨all, written⟩ := Hex.encode_of_decodeFrom found
          have digits : ∀ c ∈ s.toList, Hex.IsDigit c := fun c member =>
            Hex.isDigit_of_utf8 fun b inside => all b (List.mem_flatMap.mpr ⟨c, member, inside⟩)
          have lower : Hex.encode bytes = s.toList.map Char.toLower := by
            rw [written, Hex.utf8_of_digits digits, List.map_map]
            refine List.map_congr_left fun c member => ?_
            have ascii := Hex.toNat_lt_of_isDigit (digits c member)
            rw [Function.comp_apply, UInt8.toNat_ofNat_of_lt' (Nat.lt_trans ascii (by decide)),
              Char.ofNat_toNat]
          refine ⟨⟨?_, digits⟩, congrArg String.ofList lower⟩
          rw [← List.length_map Char.toLower, ← lower, Hex.length_encode, twelve]

/-- Every spelling is read. -/
theorem IsSpelling.exists_parse {s : String} (spelling : IsSpelling s) :
    ∃ id, parse s = .ok id := by
  have bytes := Hex.utf8_of_digits spelling.digits
  have length : (utf8 s).length = 24 := by rw [bytes, List.length_map, spelling.length_eq]
  have all : ∀ b ∈ utf8 s, (Hex.digit? b).isSome := by
    rw [bytes, List.forall_mem_map]
    exact fun c member => Hex.isSome_digit? (spelling.digits c member)
  obtain ⟨read, found⟩ := Hex.exists_decodeFrom 0 (by rw [length]) all
  have twelve : read.length = 12 := by
    have written := congrArg List.length (Hex.encode_of_decodeFrom found).2
    rw [Hex.length_encode, List.length_map, length] at written
    omega
  refine ⟨⟨read, twelve⟩, ?_⟩
  rw [parse, Hex.decode, if_neg (by rw [length]; decide), found]
  exact dif_pos twelve

theorem exists_parse_iff {s : String} : (∃ id, parse s = .ok id) ↔ IsSpelling s :=
  ⟨fun ⟨_, read⟩ => (spelling_of_parse read).1, IsSpelling.exists_parse⟩

/-- Two spellings are read alike if they differ in the case of letters only. -/
theorem eq_iff_of_parse {s s' : String} {id id' : ObjectId} (read : parse s = .ok id)
    (read' : parse s' = .ok id') : id = id' ↔ asciiLower s = asciiLower s' := by
  rw [← (spelling_of_parse read).2, ← (spelling_of_parse read').2, toHex_inj]

end ObjectId

namespace Codec

variable {τ : Type} (next : τ → ObjectId × τ)

theorem objectId_ofText_eq_ok_iff {s : String} {value : Value} :
    (objectId next).ofText s = .ok value ↔
      ∃ id, ObjectId.parse s = .ok id ∧ value = .objectId id := by
  change objectIdOfText s = _ ↔ _
  rw [objectIdOfText]
  cases ObjectId.parse s with
  | ok id => simp [eq_comm]
  | error cause => simp

/-- What is no spelling is refused with the cause. -/
theorem objectId_ofText_of_not_spelling {s : String} (senseless : ¬ ObjectId.IsSpelling s) :
    ∃ cause : ObjectId.Malformed,
      (objectId next).ofText s = .error (.invalidIdentifier (cause.message s)) := by
  cases read : ObjectId.parse s with
  | ok id => exact absurd (ObjectId.spelling_of_parse read).1 senseless
  | error cause =>
      refine ⟨cause, ?_⟩
      change objectIdOfText s = _
      rw [objectIdOfText, read]

/-- Identifiers and their spellings are the same but for the case of letters: the texts that are
read are the spellings, each is written again in small letters, every identifier is read back from
its text, and two spellings name one identifier if they agree in small letters. Any other text is an
error, and a new identifier where none is allowed. -/
theorem spellings_name_identifiers :
    (∀ s, (∃ value, (objectId next).ofText s = .ok value) ↔ ObjectId.IsSpelling s) ∧
      (∀ s value, (objectId next).ofText s = .ok value →
        (∃ id, value = .objectId id) ∧ (objectId next).toText value = asciiLower s) ∧
      (∀ id, (objectId next).ofText ((objectId next).toText (.objectId id)) = .ok (.objectId id)) ∧
      (∀ s s' value value', (objectId next).ofText s = .ok value →
        (objectId next).ofText s' = .ok value' →
          (value = value' ↔ asciiLower s = asciiLower s')) ∧
      ∀ s, ¬ ObjectId.IsSpelling s →
        (∃ cause : ObjectId.Malformed,
          (objectId next).ofText s = .error (.invalidIdentifier (cause.message s))) ∧
        ∀ source,
          (objectId next).readOrMint s source = (.objectId (next source).1, (next source).2) := by
  refine ⟨fun s => ?_, fun s value accepted => ?_, ofText_toText_objectId next,
    fun s s' value value' accepted accepted' => ?_, fun s senseless => ?_⟩
  · rw [← ObjectId.exists_parse_iff]
    constructor
    · rintro ⟨value, accepted⟩
      obtain ⟨id, read, -⟩ := (objectId_ofText_eq_ok_iff next).mp accepted
      exact ⟨id, read⟩
    · rintro ⟨id, read⟩
      exact ⟨.objectId id, (objectId_ofText_eq_ok_iff next).mpr ⟨id, read, rfl⟩⟩
  · obtain ⟨id, read, rfl⟩ := (objectId_ofText_eq_ok_iff next).mp accepted
    exact ⟨⟨id, rfl⟩, (ObjectId.spelling_of_parse read).2⟩
  · obtain ⟨id, read, rfl⟩ := (objectId_ofText_eq_ok_iff next).mp accepted
    obtain ⟨id', read', rfl⟩ := (objectId_ofText_eq_ok_iff next).mp accepted'
    rw [← ObjectId.eq_iff_of_parse read read', Value.objectId.injEq]
  · obtain ⟨cause, refused⟩ := objectId_ofText_of_not_spelling next senseless
    refine ⟨⟨cause, refused⟩, fun source => ?_⟩
    rw [readOrMint, refused]
    rfl

/-- Capital letters are read, and small ones are written in their place. Twenty-four bytes are no
spelling if two of them are one character, and the next number is given out for them. -/
theorem spellings_name_identifiers_of_capitals :
    ObjectId.IsSpelling "5D71C5415C998d3dc4006832" ∧
      (∃ value, counting.ofText "5D71C5415C998d3dc4006832" = .ok value ∧
        counting.toText value = "5d71c5415c998d3dc4006832") ∧
      "é71c5415c998d3dc4006832".utf8ByteSize = 24 ∧
      ¬ ObjectId.IsSpelling "é71c5415c998d3dc4006832" ∧
      counting.readOrMint "é71c5415c998d3dc4006832" 4 = (.objectId (.ofNat 5), 5) := by
  obtain ⟨accepts, writes, -, -, refuses⟩ :=
    spellings_name_identifiers fun given : Nat => (ObjectId.ofNat (given + 1), given + 1)
  have digits : ("5D71C5415C998d3dc4006832".toList.all
      fun c => decide (Text.Hex.IsDigit c)) = true := by decide
  have spelling : ObjectId.IsSpelling "5D71C5415C998d3dc4006832" :=
    ⟨by decide, by simpa using digits⟩
  have senseless : ¬ ObjectId.IsSpelling "é71c5415c998d3dc4006832" :=
    fun spelling => absurd spelling.length_eq (by decide)
  obtain ⟨value, accepted⟩ := (accepts _).mpr spelling
  refine ⟨spelling, ⟨value, accepted, ?_⟩, by decide, senseless, (refuses _ senseless).2 4⟩
  rw [counting, (writes _ value accepted).2]
  decide

end Codec

end DocQuery
