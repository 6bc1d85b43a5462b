import DocQuery.Proofs.Key.Identifiers
import DocQuery.Proofs.Key.Updates

/-!
# The brief form of an update

An update that is sorted by operators can be written in brief: its fields, operator by operator, each
with the pair of its operator and its operand. Written in this way it is sorted into itself again,
with the operators and the fields in their old order.

Nothing is assumed of the operands but that no text stands under the primary key, where it would be
made an identifier. A pair is taken apart once: an operand that is a pair of an operator and
something else is left as it is, as is everything inside of an operand.

What cannot be written in brief is what sorting cannot bring about: a field under two operators, an
operator without fields, a name with blanks around it. An update without operators has a brief form,
but it is refused, as any update that asks for nothing.
-/

namespace DocQuery

variable {τ : Type}

namespace Use

/-- The uses of one operator. -/
def ofFields (operator : String) (fields : Document) : List Use :=
  fields.entries.map fun entry => ⟨operator, entry.1, entry.2⟩

/-- A field with the pair that stands for a use. -/
def brief (use : Use) : String × Value :=
  (use.field, .array [.string use.operator, use.operand])

end Use

namespace UpdateDocument

/-- The uses that an update consists of, operator by operator. -/
def uses (update : UpdateDocument) : List Use :=
  update.operators.entries.flatMap fun sorted => Use.ofFields sorted.1 sorted.2

/-- The names of the fields of an update, operator by operator. -/
def fieldNames (update : UpdateDocument) : List String :=
  update.operators.entries.flatMap fun sorted => sorted.2.names

/-- An update in its brief form. -/
def brief (update : UpdateDocument) : Document :=
  .ofList (update.uses.map Use.brief)

/-- An update that can be written in brief without a loss, where texts under the given primary key
are made identifiers. -/
structure Expressible (update : UpdateDocument) (key : String) : Prop where
  operators : update.operatorNames.Nodup
  marked : ∀ operator ∈ update.operatorNames, operator.toList.head? = some '$'
  nonempty : ∀ sorted ∈ update.operators.entries, sorted.2.isEmpty = false
  trimmed : ∀ field ∈ update.fieldNames, Text.trim field = field
  /-- No field stands under two operators, and none stands under one operator twice. -/
  fields : update.fieldNames.Nodup
  clear : update.Clear key

theorem map_field_uses (update : UpdateDocument) :
    update.uses.map Use.field = update.fieldNames := by
  rw [uses, fieldNames, List.map_flatMap]
  simp only [Use.ofFields, List.map_map]
  rfl

/-- Each use is an entry under its operator. -/
theorem mem_uses {update : UpdateDocument} {use : Use} (member : use ∈ update.uses) :
    ∃ sorted ∈ update.operators.entries,
      sorted.1 = use.operator ∧ (use.field, use.operand) ∈ sorted.2.entries := by
  obtain ⟨sorted, inside, under⟩ := List.mem_flatMap.mp member
  obtain ⟨entry, within, rfl⟩ := List.mem_map.mp under
  exact ⟨sorted, inside, rfl, within⟩

/-! ## Sorting uses that stand together -/

/-- Uses of one operator that are added one after another are one insertion of their fields. -/
theorem foldl_addUse_ofFields (update : UpdateDocument) (operator : String) {fields : Document}
    (nonempty : fields.isEmpty = false) :
    (Use.ofFields operator fields).foldl addUse update =
      ⟨update.operators.insert operator
        ((update.fieldsOf operator).insertAll fields.entries)⟩ := by
  obtain ⟨entries⟩ := fields
  rw [Use.ofFields]
  induction entries generalizing update with
  | nil => contradiction
  | cons entry rest ih =>
      cases rest with
      | nil => rfl
      | cons next rest =>
          have inserted : (update.addUse ⟨operator, entry.1, entry.2⟩).operators =
              update.operators.insert operator
                ((update.fieldsOf operator).insert entry.1 entry.2) := rfl
          rw [List.map_cons, List.foldl_cons, ih _ rfl, inserted, Fields.insert_insert,
            fieldsOf_addUse_self, ← Fields.insertAll_cons]

/-- Uses that stand together by their operators are sorted into what they are the uses of. -/
theorem foldl_addUse_flatMap (update : UpdateDocument) {sorted : List (String × Document)}
    (operators : (update.operatorNames ++ sorted.map Prod.fst).Nodup)
    (nonempty : ∀ entry ∈ sorted, entry.2.isEmpty = false)
    (fields : ∀ entry ∈ sorted, entry.2.names.Nodup) :
    (sorted.flatMap fun entry => Use.ofFields entry.1 entry.2).foldl addUse update =
      ⟨update.operators.insertAll sorted⟩ := by
  induction sorted generalizing update with
  | nil => rfl
  | cons entry sorted ih =>
      obtain ⟨operator, document⟩ := entry
      simp only [List.forall_mem_cons] at nonempty fields
      have new : operator ∉ update.operatorNames := by
        rw [List.map_cons, List.nodup_append] at operators
        exact fun old => operators.2.2 _ old _ List.mem_cons_self rfl
      have unused : update.fieldsOf operator = ∅ := by
        cases found : update.operators.get? operator with
        | none => rw [fieldsOf, found, Option.getD_none]
        | some fields => exact absurd (Fields.mem_names_of_get? found) new
      have whole : (∅ : Document).insertAll document.entries = document :=
        Fields.ofList_of_nodup fields.1
      have later : ((⟨update.operators.insert operator document⟩ : UpdateDocument).operatorNames ++
          sorted.map Prod.fst).Nodup := by
        have names : (update.operators.insert operator document).names =
            update.operatorNames ++ [operator] := by
          rw [Fields.names_insert]
          exact if_neg new
        rw [operatorNames, names, List.append_assoc]
        exact operators
      rw [List.flatMap_cons, List.foldl_append, foldl_addUse_ofFields update operator nonempty.1,
        unused, whole, ih _ later nonempty.2 fields.2]
      rfl

namespace Expressible

variable {update : UpdateDocument} {key : String}

/-- What can be written in brief is made of its uses. -/
theorem foldl_uses (expressible : update.Expressible key) :
    update.uses.foldl addUse .empty = update := by
  have fields : ∀ entry ∈ update.operators.entries, entry.2.names.Nodup :=
    (List.nodup_flatMap.mp expressible.fields).1
  have sorted := foldl_addUse_flatMap .empty expressible.operators expressible.nonempty fields
  have whole : Fields.ofList update.operators.entries = update.operators :=
    Fields.ofList_of_nodup expressible.operators
  exact sorted.trans (congrArg UpdateDocument.mk whole)

/-- The brief form has one field for each use. -/
theorem entries_brief (expressible : update.Expressible key) :
    update.brief.entries = update.uses.map Use.brief := by
  have names : (update.uses.map Use.brief).map Prod.fst = update.fieldNames := by
    rw [List.map_map, ← map_field_uses]
    rfl
  rw [brief, Fields.ofList_of_nodup (names ▸ expressible.fields)]

end Expressible

end UpdateDocument

namespace PrimaryKey

variable {key : PrimaryKey τ}

/-- A use in its brief form is added as it is. -/
theorem addEntry_brief {use : Use} (marked : use.operator.toList.head? = some '$')
    (trimmed : Text.trim use.field = use.field)
    (other : use.field = key.field → ∀ raw, use.operand ≠ .string raw) (update : UpdateDocument)
    (source : τ) : key.addEntry update use.brief source = (update.addUse use, source) := by
  rw [← trimmed] at other
  have added := key.addEntry_of_other (.pair marked) other update source
  rw [trimmed] at added
  exact added

/-- Uses in their brief form are added one after another, and nothing is drawn for them. -/
theorem foldlM_addEntry_brief {uses : List Use}
    (marked : ∀ use ∈ uses, use.operator.toList.head? = some '$')
    (trimmed : ∀ use ∈ uses, Text.trim use.field = use.field)
    (other : ∀ use ∈ uses, use.field = key.field → ∀ raw, use.operand ≠ .string raw)
    (update : UpdateDocument) (source : τ) :
    (uses.map Use.brief).foldlM key.addEntry update source =
      (uses.foldl UpdateDocument.addUse update, source) := by
  induction uses generalizing update with
  | nil => rfl
  | cons use uses ih =>
      simp only [List.forall_mem_cons] at marked trimmed other
      rw [List.map_cons, Traversal.foldlM_cons,
        addEntry_brief marked.1 trimmed.1 other.1 update source]
      exact ih marked.2 trimmed.2 other.2 _

theorem sortedUpdate_brief {update : UpdateDocument} (expressible : update.Expressible key.field)
    (source : τ) : key.sortedUpdate update.brief source = (update, source) := by
  rw [sortedUpdate, expressible.entries_brief, foldlM_addEntry_brief, expressible.foldl_uses]
  · intro use member
    obtain ⟨sorted, inside, same, -⟩ := UpdateDocument.mem_uses member
    exact same ▸ expressible.marked sorted.1 (List.mem_map_of_mem inside)
  · intro use member
    apply expressible.trimmed
    rw [← UpdateDocument.map_field_uses]
    exact List.mem_map_of_mem member
  · rintro use member named raw text
    obtain ⟨sorted, inside, -, entry⟩ := UpdateDocument.mem_uses member
    rw [named, text] at entry
    exact expressible.clear sorted inside raw entry

/-- An update that can be written in brief is read back from its brief form, and nothing is drawn
for it. Only if it has no operators at all it is refused. -/
theorem canonicalUpdate_brief {update : UpdateDocument} (expressible : update.Expressible key.field)
    (source : τ) :
    key.canonicalUpdate update.brief source =
      (if update.isEmpty then .error .emptyUpdate else .ok update, source) := by
  have sorted := sortedUpdate_brief expressible source
  have empty := key.isEmpty_sortedUpdate update.brief source
  rw [sorted] at empty
  rw [canonicalUpdate_eq, sorted, ← empty]

/-- An update with an operand that is a pair itself, with nothing under the primary key, and with a
document for an operand. -/
def samplePairs : UpdateDocument :=
  ⟨⟨[("$set", ⟨[("a", .array [.string "$inc", .int32 1]), ("_id", .null)]⟩),
    ("$push", .singleton "list" (.document (.singleton "$each" (.array []))))]⟩⟩

/-- The pair under `a` is written as an operand of the pair that stands for its use, and only that
one is taken apart. -/
theorem canonicalUpdate_brief_of_pairs :
    samplePairs.Expressible "_id" ∧
      samplePairs.brief =
        ⟨[("a", .array [.string "$set", .array [.string "$inc", .int32 1]]),
          ("_id", .array [.string "$set", .null]),
          ("list", .array [.string "$push", .document (.singleton "$each" (.array []))])]⟩ ∧
      countingKey.canonicalUpdate samplePairs.brief 0 = (.ok samplePairs, 0) := by
  have expressible : samplePairs.Expressible "_id" := by
    constructor
    · decide
    · decide
    · intro sorted member
      simp only [samplePairs, List.mem_cons, List.not_mem_nil, or_false] at member
      rcases member with rfl | rfl <;> rfl
    · decide +kernel
    · decide
    · intro sorted member s text
      simp only [samplePairs, List.mem_cons, List.not_mem_nil, or_false] at member
      rcases member with rfl | rfl <;> simp [Fields.singleton] at text
  exact ⟨expressible, rfl, canonicalUpdate_brief expressible 0⟩

/-- An update without operators meets all conditions, and its brief form is refused. -/
theorem canonicalUpdate_brief_empty :
    UpdateDocument.empty.Expressible "_id" ∧
      (countingKey.canonicalUpdate UpdateDocument.empty.brief 0).1 = .error .emptyUpdate := by
  have none : ∀ {α : Type} {p : α → Prop}, ∀ a ∈ ([] : List α), p a :=
    fun _ member => absurd member List.not_mem_nil
  exact ⟨⟨List.nodup_nil, none, none, none, List.nodup_nil, none⟩, rfl⟩

end PrimaryKey

end DocQuery
