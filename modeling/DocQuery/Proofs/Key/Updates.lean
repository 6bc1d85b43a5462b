import DocQuery.Proofs.Key.Drawings
import DocQuery.Proofs.Statement.Updates

/-!
# Updates in their brief form

Each field of an update in its brief form is one use of an operator: its value stands for the
operator and an operand, and the operand is brought into canonical form under the field's name. The
update is made of these uses, in the order of the fields.

Within one operator the last use of a field decides, whatever blanks its name was written with. Two
operators do not know of each other: if fields whose names become equal stand for different
operators, the update has the name under each of them.
-/

namespace DocQuery

variable {τ : Type}

/-- Whether fields whose names become equal stand for one operator. -/
def FieldUpdate.Unambiguous (raw : Document) : Prop :=
  ∀ first ∈ raw.entries, ∀ second ∈ raw.entries, Text.trim first.1 = Text.trim second.1 →
    (ofValue first.2).parts.1 = (ofValue second.2).parts.1

namespace PrimaryKey

/-- The uses that the fields of an update in its brief form stand for, and what is drawn for their
operands. -/
inductive Routes (key : PrimaryKey τ) :
    List (String × Value) → List Drawing → List Use → Prop where
  | nil : Routes key [] [] []
  | cons {name field operator : String} {value operand canonical : Value}
      {entries : List (String × Value)} {drawn drawings : List Drawing} {uses : List Use}
      (stands : value.StandsFor operator operand)
      (canonizes : key.Canonizes [(name, operand)] drawn [(field, canonical)])
      (rest : Routes key entries drawings uses) :
      Routes key ((name, value) :: entries) (drawn ++ drawings)
        (⟨operator, field, canonical⟩ :: uses)

/-- Each use has the name of its field without blanks, and the operator of its value. -/
theorem Routes.map_uses {key : PrimaryKey τ} {entries : List (String × Value)}
    {drawings : List Drawing} {uses : List Use} (routes : key.Routes entries drawings uses) :
    uses.map (fun use => (use.field, use.operator)) =
      entries.map fun entry => (Text.trim entry.1, (FieldUpdate.ofValue entry.2).parts.1) := by
  induction routes with
  | nil => rfl
  | @cons name field _ _ _ _ _ _ _ _ stands canonizes _ ih =>
      have named : field = Text.trim name := List.singleton_inj.mp canonizes.map_fst
      rw [List.map_cons, List.map_cons, ih, FieldUpdate.standsFor_iff.mp stands, named]

variable (key : PrimaryKey τ)

/-- A field is added to an update as one use. -/
theorem exists_addEntry (update : UpdateDocument) (name : String) (value : Value) (source : τ) :
    ∃ operator operand field canonical drawn after,
      value.StandsFor operator operand ∧
      key.Canonizes [(name, operand)] drawn [(field, canonical)] ∧
      key.codec.Mints source (drawn.map Drawing.id) after ∧
      key.addEntry update (name, value) source =
        (update.addUse ⟨operator, field, canonical⟩, after) := by
  have stands := FieldUpdate.standsFor_iff.mpr (Eq.refl (FieldUpdate.ofValue value).parts)
  obtain ⟨drawn, canonizes, mints⟩ :=
    key.exists_canonizes [(name, (FieldUpdate.ofValue value).parts.2)] source
  exact ⟨_, _, _, _, drawn, _, stands, canonizes, mints, rfl⟩

/-- An operand that is no text under the primary key is added as it is. -/
theorem addEntry_of_other {name operator : String} {value operand : Value}
    (stands : value.StandsFor operator operand)
    (other : Text.trim name = key.field → ∀ raw, operand ≠ .string raw) (update : UpdateDocument)
    (source : τ) :
    key.addEntry update (name, value) source =
      (update.addUse ⟨operator, Text.trim name, operand⟩, source) := by
  simp only [addEntry, canonicalOperand, FieldUpdate.standsFor_iff.mp stands, bind, StateT.bind,
    key.canonicalValue_of_other other]
  rfl

/-- The fields are added as one use after another. -/
theorem exists_routes (entries : List (String × Value)) (update : UpdateDocument) (source : τ) :
    ∃ drawings uses,
      key.Routes entries drawings uses ∧
      key.codec.Mints source (drawings.map Drawing.id)
        (entries.foldlM key.addEntry update source).2 ∧
      (entries.foldlM key.addEntry update source).1 = uses.foldl UpdateDocument.addUse update := by
  induction entries generalizing update source with
  | nil => exact ⟨[], [], .nil, .nil source, rfl⟩
  | cons entry entries ih =>
      obtain ⟨operator, operand, field, canonical, drawn, between, stands, canonizes, mints,
        added⟩ := key.exists_addEntry update entry.1 entry.2 source
      obtain ⟨drawings, uses, routes, later, result⟩ :=
        ih (update.addUse ⟨operator, field, canonical⟩) between
      rw [Traversal.foldlM_cons, added]
      refine ⟨drawn ++ drawings, _, .cons stands canonizes routes, ?_, result⟩
      rw [List.map_append]
      exact mints.append later

/-- What is sorted by operators are the uses that the fields stand for. -/
theorem exists_sorts (raw : Document) (source : τ) :
    ∃ drawings uses,
      key.Routes raw.entries drawings uses ∧
      key.codec.Mints source (drawings.map Drawing.id) (key.sortedUpdate raw source).2 ∧
      (key.sortedUpdate raw source).1.Sorts uses := by
  obtain ⟨drawings, uses, routes, mints, result⟩ := key.exists_routes raw.entries .empty source
  refine ⟨drawings, uses, routes, mints, ?_⟩
  rw [sortedUpdate, result]
  exact UpdateDocument.Sorts.empty.foldl_addUse uses

/-- An update in its brief form that has fields is sorted by operators; without fields it is
refused, as there is nothing to be updated. -/
theorem canonicalUpdate_sorts (raw : Document) (source : τ) :
    ((key.canonicalUpdate raw source).1 = .error .emptyUpdate ↔ raw.isEmpty = true) ∧
      (raw.isEmpty = false → ∃ update drawings uses,
        (key.canonicalUpdate raw source).1 = .ok update ∧
        key.Routes raw.entries drawings uses ∧
        key.codec.Mints source (drawings.map Drawing.id) (key.canonicalUpdate raw source).2 ∧
        update.Sorts uses) := by
  rw [canonicalUpdate_eq]
  cases raw.isEmpty with
  | true => simp
  | false =>
      refine ⟨by simp, fun _ => ?_⟩
      obtain ⟨drawings, uses, routes, mints, sorts⟩ := key.exists_sorts raw source
      exact ⟨_, drawings, uses, rfl, routes, mints, sorts⟩

def countingKey : PrimaryKey Nat := ⟨"_id", .counting⟩

/-- An update in its brief form in which a name has blanks, an array is longer than a pair, and a
text under the primary key is misspelt. -/
def sampleUpdate : Document :=
  ⟨[("a", .int32 1), (" n", .array [.string "$inc", .int32 2]), ("a ", .int32 3),
    ("list", .array [.string "$inc", .int32 4, .int32 5]), ("_id", .string "none")]⟩

def sortedSample : UpdateDocument :=
  ⟨⟨[("$set", ⟨[("a", .int32 3), ("list", .array [.string "$inc", .int32 4, .int32 5]),
      ("_id", .objectId (.ofNat 1))]⟩),
    ("$inc", .singleton "n" (.int32 2))]⟩⟩

/-- Blanks are taken off, a pair of an operator and an operand is told from a longer array, and a
misspelt text under the primary key is replaced. -/
theorem canonicalUpdate_sorts_mixed :
    sampleUpdate.isEmpty = false ∧ ∃ drawings uses,
      (countingKey.canonicalUpdate sampleUpdate 0).1 = .ok sortedSample ∧
      countingKey.Routes sampleUpdate.entries drawings uses ∧
      countingKey.codec.Mints 0 (drawings.map Drawing.id)
        (countingKey.canonicalUpdate sampleUpdate 0).2 ∧
      sortedSample.Sorts uses := by
  have fields : sampleUpdate.isEmpty = false := rfl
  obtain ⟨update, drawings, uses, accepted, routes, mints, sorts⟩ :=
    (countingKey.canonicalUpdate_sorts sampleUpdate 0).2 fields
  have result : (countingKey.canonicalUpdate sampleUpdate 0).1 = .ok sortedSample := by rfl
  obtain rfl := Except.ok.inj (accepted.symm.trans result)
  exact ⟨fields, drawings, uses, accepted, routes, mints, sorts⟩

/-- An accepted update asks for the last use of each field, and for no other one, exactly if the
fields whose names become equal stand for one operator. -/
theorem asks_last_uses_iff {raw : Document} {source : τ} {update : UpdateDocument}
    (accepted : (key.canonicalUpdate raw source).1 = .ok update) :
    ∃ drawings uses,
      key.Routes raw.entries drawings uses ∧
      key.codec.Mints source (drawings.map Drawing.id) (key.canonicalUpdate raw source).2 ∧
      ((∀ use, update.Asks use ↔ (uses.filter (·.field = use.field)).getLast? = some use) ↔
        FieldUpdate.Unambiguous raw) := by
  obtain ⟨drawings, uses, routes, mints, sorts⟩ := key.exists_sorts raw source
  rw [canonicalUpdate_eq] at accepted ⊢
  have result : (key.sortedUpdate raw source).1 = update := by
    cases empty : raw.isEmpty with
    | true => simp [empty] at accepted
    | false => simpa [empty] using accepted
  rw [result] at sorts
  refine ⟨drawings, uses, routes, mints, ?_⟩
  have pairs : (∀ first ∈ uses, ∀ second ∈ uses, first.field = second.field →
        first.operator = second.operator) ↔
      ∀ first ∈ uses.map fun use => (use.field, use.operator),
        ∀ second ∈ uses.map fun use => (use.field, use.operator),
          first.1 = second.1 → first.2 = second.2 := by
    simp only [List.forall_mem_map]
  rw [sorts.asks_last_iff, pairs, routes.map_uses]
  simp only [List.forall_mem_map, FieldUpdate.Unambiguous]

theorem asks_last_uses_of_sample :
    (countingKey.canonicalUpdate sampleUpdate 0).1 = .ok sortedSample ∧ ∃ drawings uses,
      countingKey.Routes sampleUpdate.entries drawings uses ∧
      countingKey.codec.Mints 0 (drawings.map Drawing.id)
        (countingKey.canonicalUpdate sampleUpdate 0).2 ∧
      ∀ use, sortedSample.Asks use ↔ (uses.filter (·.field = use.field)).getLast? = some use := by
  have accepted : (countingKey.canonicalUpdate sampleUpdate 0).1 = .ok sortedSample := by rfl
  have unambiguous : FieldUpdate.Unambiguous sampleUpdate := by
    unfold FieldUpdate.Unambiguous
    decide +kernel
  obtain ⟨drawings, uses, routes, mints, lasts⟩ := countingKey.asks_last_uses_iff accepted
  exact ⟨accepted, drawings, uses, routes, mints, lasts.mpr unambiguous⟩

/-- A name stands under two operators if it is written with different blanks for each of them. -/
theorem exists_field_under_two_operators :
    ∃ update,
      (countingKey.canonicalUpdate
        ⟨[("a", .int32 1), (" a", .array [.string "$inc", .int32 1])]⟩ 0).1 = .ok update ∧
      update.Asks ⟨"$set", "a", .int32 1⟩ ∧ update.Asks ⟨"$inc", "a", .int32 1⟩ := by
  refine ⟨⟨⟨[("$set", .singleton "a" (.int32 1)), ("$inc", .singleton "a" (.int32 1))]⟩⟩, ?_⟩
  exact ⟨rfl, rfl, rfl⟩

end PrimaryKey

end DocQuery
