import DocQuery.Document.ExtendedJson
import DocQuery.Proofs.Json.ReadingBack

/-!
# Documents that JSON text says completely

A number that is no integer is read as the characters that it is written with. Everything else that
a document holds becomes a tree of which the text says all there is, in both of the forms in which
documents are written. What has to be kept away is a double, at any depth; the variables of a code
count as well.
-/

namespace DocQuery.Value

mutual

/-- Whether a value is a double or holds one at any depth. -/
def hasDouble : Value → Bool
  | .double _ => true
  | .array items => itemsHaveDouble items
  | .document ⟨entries⟩ => entriesHaveDouble entries
  | .scopedCode _ ⟨entries⟩ => entriesHaveDouble entries
  | _ => false

def itemsHaveDouble : List Value → Bool
  | [] => false
  | item :: items => hasDouble item || itemsHaveDouble items

def entriesHaveDouble : List (String × Value) → Bool
  | [] => false
  | (_, value) :: entries => hasDouble value || entriesHaveDouble entries

end

theorem legible_object {members : List (Option String × Json)}
    (all : ∀ member ∈ members, member.1.isSome ∧ member.2.Legible) :
    (Json.object members).Legible :=
  .object (fun member inside => (all member inside).1) fun member inside => (all member inside).2

theorem legible_tagged (name : String) {json : Json} (legible : json.Legible) :
    (tagged name json).Legible :=
  legible_object (by simpa using legible)

/-- What a form writes other than doubles is legible. -/
structure JsonForm.Legible (form : JsonForm) : Prop where
  dateTime : ∀ t, (form.dateTime t).Legible
  binary : ∀ subtype bytes, (form.binary subtype bytes).Legible
  regex : ∀ pattern options, (form.regex pattern options).Legible

theorem legible_millisJson (t : DateTime) : (millisJson t).Legible :=
  legible_tagged _ (legible_tagged _ (.text _))

theorem legible_binaryJson (subtype : UInt8) (bytes : List UInt8) :
    (binaryJson subtype bytes).Legible :=
  legible_tagged _ (legible_object (by simp [Json.Legible.text]))

theorem legible_regexJson (pattern options : String) : (regexJson pattern options).Legible :=
  legible_tagged _ (legible_object (by simp [Json.Legible.text]))

theorem legible_relaxed : JsonForm.relaxed.Legible where
  dateTime t := by
    change (dateTimeJson t).Legible
    unfold dateTimeJson
    split
    · exact legible_tagged _ (.text _)
    · exact legible_millisJson t
  binary := legible_binaryJson
  regex pattern options := legible_regexJson pattern _

theorem legible_plain : JsonForm.plain.Legible where
  dateTime := legible_millisJson
  binary subtype bytes := by
    change (if subtype = 0 then _ else _ : Json).Legible
    split
    · exact .array (List.forall_mem_map.mpr fun byte _ => .int _)
    · exact legible_binaryJson subtype bytes
  regex := legible_regexJson

mutual

/-- A value without doubles becomes a legible tree. -/
theorem legible_toJsonIn {form : JsonForm} (legible : form.Legible) :
    ∀ {value : Value}, value.hasDouble = false → (value.toJsonIn form).Legible
  | .null, _ => .null
  | .bool b, _ => .bool b
  | .int32 _, _ => .int _
  | .int64 _, _ => .int _
  | .double _, undoubled => by contradiction
  | .string s, _ => .text s
  | .array items, undoubled => by
      rw [toJsonIn]
      exact .array (legible_itemsToJson legible undoubled)
  | .document ⟨entries⟩, undoubled => by
      rw [toJsonIn]
      exact legible_object (legible_entriesToJson legible undoubled)
  | .objectId _, _ => legible_tagged _ (.text _)
  | .dateTime t, _ => legible.dateTime t
  | .binary subtype bytes, _ => legible.binary subtype bytes
  | .regex pattern options, _ => legible.regex pattern options
  | .code source, _ => legible_tagged _ (.text source)
  | .scopedCode source ⟨entries⟩, undoubled => by
      have scope := legible_object (legible_entriesToJson legible_plain undoubled)
      rw [toJsonIn]
      exact legible_object (by simpa using ⟨.text source, scope⟩)
  | .timestamp time increment, _ =>
      legible_tagged _ (legible_object (by simp [Json.Legible.int]))
  | .symbol s, _ => legible_tagged _ (.text s)
  | .decimal128 d, _ => legible_tagged _ (.text d.text)
  | .undefined, _ => legible_tagged _ (.bool true)
  | .minKey, _ => legible_tagged _ (.int 1)
  | .maxKey, _ => legible_tagged _ (.int 1)

theorem legible_itemsToJson {form : JsonForm} (legible : form.Legible) :
    ∀ {items : List Value}, itemsHaveDouble items = false →
      ∀ json ∈ itemsToJson form items, json.Legible
  | [], _ => nofun
  | item :: items, undoubled => by
      rw [itemsHaveDouble, Bool.or_eq_false_iff] at undoubled
      rw [itemsToJson, List.forall_mem_cons]
      exact ⟨legible_toJsonIn legible undoubled.1, legible_itemsToJson legible undoubled.2⟩

theorem legible_entriesToJson {form : JsonForm} (legible : form.Legible) :
    ∀ {entries : List (String × Value)}, entriesHaveDouble entries = false →
      ∀ member ∈ entriesToJson form entries, member.1.isSome ∧ member.2.Legible
  | [], _ => nofun
  | (name, value) :: entries, undoubled => by
      rw [entriesHaveDouble, Bool.or_eq_false_iff] at undoubled
      rw [entriesToJson, List.forall_mem_cons]
      exact ⟨⟨rfl, legible_toJsonIn legible undoubled.1⟩, legible_entriesToJson legible undoubled.2⟩

end

end DocQuery.Value
