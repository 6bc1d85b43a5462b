import DocQuery.Json.Basic

/-!
# Records as JSON

A record is written as an object with a member for each field. It is read from an object in which
members of other names are passed over and no field occurs twice, or from an array of its first
fields. A field that is left open takes its default where it has one.
-/

namespace DocQuery.Json

/-- The values of the named fields of a record, in the order of the names. -/
def fields? (names : List String) : Json → Option (List (Option Json))
  | .object members =>
    -- A member whose name is no text is neither known nor unknown.
    if members.all (·.1.isSome) ∧ ∀ name ∈ names, (members.countP (·.1 = some name)) ≤ 1 then
      some (names.map fun name => (members.find? (·.1 = some name)).map Prod.snd)
    else none
  | .array items =>
    if items.length ≤ names.length then
      some ((List.range names.length).map fun index => items[index]?)
    else none
  | _ => none

def hasOnly (names : List String) : Json → Bool
  | .object members => members.all fun member => member.1.any (· ∈ names)
  | _ => true

def text? : Json → Option String
  | .string text => text
  | _ => none

def bool? : Json → Option Bool
  | .bool b => some b
  | _ => none

def natBelow? (bound : Nat) : Json → Option Nat
  | .int n => if 0 ≤ n ∧ n < bound then some n.toNat else none
  | _ => none

def uint32? (json : Json) : Option UInt32 :=
  (json.natBelow? UInt32.size).map .ofNat

def uint64? (json : Json) : Option UInt64 :=
  (json.natBelow? UInt64.size).map .ofNat

def optional? {α : Type} (read : Json → Option α) : Json → Option (Option α)
  | .null => some none
  | json => (read json).map some

def orDefault {α : Type} (read : Json → Option α) (default : α) : Option Json → Option α
  | none => some default
  | some json => read json

/-- What may be absent, as a value that may be null. -/
def ofOption {α : Type} (write : α → Json) : Option α → Json
  | none => .null
  | some a => write a

end DocQuery.Json
