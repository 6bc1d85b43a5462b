/-!
# JSON trees

What a JSON text says once its spelling is forgotten. Members of an object stay in order, and one
name may occur twice. Two things are kept that a looser tree would lose: whether a number is written
as an integer, and whether a string literal denotes a text at all. A literal may hold an escape for
one half of a surrogate pair without the other half; such a literal is well formed and can be
skipped, but no text is what it says.
-/

namespace DocQuery

inductive Json where
  | null
  | bool (b : Bool)
  /-- A number without fraction and exponent, other than minus zero. -/
  | int (n : Int)
  /-- Any other number, as it is written. -/
  | real (literal : String)
  /-- A string literal with its text, if it denotes one. -/
  | string (text : Option String)
  | array (items : List Json)
  | object (members : List (Option String × Json))

namespace Json

instance : Inhabited Json := ⟨.null⟩

/-- The string literal that denotes a text. -/
abbrev text (s : String) : Json := .string (some s)

/-! ## Equality of trees -/

mutual

/-- Whether two trees are the same. -/
def same : Json → Json → Bool
  | .null, .null => true
  | .bool a, .bool b => a == b
  | .int m, .int n => m == n
  | .real s, .real t => s == t
  | .string s, .string t => s == t
  | .array items, .array others => sameItems items others
  | .object members, .object others => sameMembers members others
  | _, _ => false

def sameItems : List Json → List Json → Bool
  | [], [] => true
  | json :: items, other :: others => same json other && sameItems items others
  | _, _ => false

def sameMembers : List (Option String × Json) → List (Option String × Json) → Bool
  | [], [] => true
  | (name, json) :: members, (label, other) :: others =>
    name == label && same json other && sameMembers members others
  | _, _ => false

end

mutual

theorem same_iff : (a b : Json) → (same a b = true ↔ a = b)
  | .null, b | .bool _, b | .int _, b | .real _, b | .string _, b => by cases b <;> simp [same]
  | .array items, b => by cases b <;> simp [same, sameItems_iff items]
  | .object members, b => by cases b <;> simp [same, sameMembers_iff members]

theorem sameItems_iff : (a b : List Json) → (sameItems a b = true ↔ a = b)
  | [], b => by cases b <;> simp [sameItems]
  | json :: items, b => by cases b <;> simp [sameItems, same_iff json, sameItems_iff items]

theorem sameMembers_iff : (a b : List (Option String × Json)) → (sameMembers a b = true ↔ a = b)
  | [], b => by cases b <;> simp [sameMembers]
  | (name, json) :: members, b => by
    cases b <;> simp [sameMembers, same_iff json, sameMembers_iff members, Prod.ext_iff, and_assoc]

end

instance : DecidableEq Json := fun a b => decidable_of_iff _ (same_iff a b)

end Json

end DocQuery
