import DocQuery.Proofs.Document.Collecting
import DocQuery.Statement.Update

/-!
# Updates that are sorted by operators

A field of an update is written with what it asks for: with an operator and its operand, or with a
plain value. Written out, that is a use of an operator, and an update is made of a list of uses.
Sorted by operators, the uses stand under the operators in the order in which those come up first,
and under each operator its fields are collected like those of any document. So what a field has
under an operator is the operand of the last use of the two.
-/

namespace DocQuery

/-- What a value of an update stands for: an array of exactly two items, the first of them a text
that begins with a dollar sign, for an operator and its operand; everything else for a new value. -/
inductive Value.StandsFor : Value → String → Value → Prop where
  | pair {operator : String} {operand : Value} (marked : operator.toList.head? = some '$') :
      StandsFor (.array [.string operator, operand]) operator operand
  | plain {value : Value}
      (unmarked : ∀ operator operand, operator.toList.head? = some '$' →
        value ≠ .array [.string operator, operand]) :
      StandsFor value "$set" value

namespace FieldUpdate

theorem ofValue_pair {operator : String} {operand : Value}
    (marked : operator.toList.head? = some '$') :
    ofValue (.array [.string operator, operand]) = .operator operator operand :=
  if_pos (decide_eq_true marked)

theorem ofValue_plain {value : Value}
    (unmarked : ∀ operator operand, operator.toList.head? = some '$' →
      value ≠ .array [.string operator, operand]) :
    ofValue value = .set value := by
  unfold ofValue
  split
  · next operator operand =>
      rw [if_neg]
      intro marked
      exact unmarked operator operand (of_decide_eq_true marked) rfl
  · rfl

/-- A value stands for one operator with one operand. -/
theorem standsFor_iff {value operand : Value} {operator : String} :
    value.StandsFor operator operand ↔ (ofValue value).parts = (operator, operand) := by
  constructor
  · intro stands
    cases stands with
    | pair marked =>
        rw [ofValue_pair marked]
        rfl
    | plain unmarked =>
        rw [ofValue_plain unmarked]
        rfl
  · intro same
    by_cases pair : ∃ operator operand, operator.toList.head? = some '$' ∧
        value = .array [.string operator, operand]
    · obtain ⟨name, item, marked, rfl⟩ := pair
      rw [ofValue_pair marked] at same
      cases same
      exact .pair marked
    · have unmarked : ∀ operator operand, operator.toList.head? = some '$' →
          value ≠ .array [.string operator, operand] :=
        fun operator operand marked eq => pair ⟨operator, operand, marked, eq⟩
      rw [ofValue_plain unmarked] at same
      cases same
      exact .plain unmarked

end FieldUpdate

/-- A field with an operator and its operand. -/
@[ext]
structure Use where
  operator : String
  field : String
  operand : Value

/-- The fields that an operator is used with, and their operands. -/
def Use.under (operator : String) (uses : List Use) : List (String × Value) :=
  (uses.filter (·.operator = operator)).map fun use => (use.field, use.operand)

namespace UpdateDocument

def fieldsOf (update : UpdateDocument) (operator : String) : Document :=
  (update.operators.get? operator).getD ∅

/-- Whether an update has an operand for a field under an operator. -/
def Asks (update : UpdateDocument) (use : Use) : Prop :=
  (update.fieldsOf use.operator).get? use.field = some use.operand

def addUse (update : UpdateDocument) (use : Use) : UpdateDocument :=
  update.add use.operator use.field use.operand

variable (update : UpdateDocument) (use : Use)

theorem operatorNames_addUse :
    (update.addUse use).operatorNames =
      if use.operator ∈ update.operatorNames then update.operatorNames
      else update.operatorNames ++ [use.operator] :=
  Fields.names_insert _ _ _

theorem fieldsOf_addUse_self :
    (update.addUse use).fieldsOf use.operator =
      (update.fieldsOf use.operator).insert use.field use.operand := by
  simp [fieldsOf, addUse, add]

theorem fieldsOf_addUse_of_ne {operator : String} (other : operator ≠ use.operator) :
    (update.addUse use).fieldsOf operator = update.fieldsOf operator := by
  rw [fieldsOf, addUse, add, Fields.get?_insert_of_ne _ _ other]
  rfl

/-- An update that consists of some uses, sorted by operators. The operators stand in the order in
which they are used first, none of them without fields, and under each operator stand the fields
that it is used with, each with its last operand. -/
structure Sorts (update : UpdateDocument) (uses : List Use) : Prop where
  operators : update.operatorNames = (uses.map Use.operator).eraseDups
  nonempty : ∀ operator ∈ update.operatorNames, (update.fieldsOf operator).isEmpty = false
  fields : ∀ operator, (update.fieldsOf operator).Collects (Use.under operator uses)

namespace Sorts

variable {update : UpdateDocument} {uses : List Use}

theorem empty : Sorts .empty [] where
  operators := rfl
  nonempty _ member := absurd member List.not_mem_nil
  fields _ := .empty

/-- One more use goes to the fields of its operator and leaves those of the others alone. -/
theorem addUse (sorts : update.Sorts uses) (use : Use) :
    (update.addUse use).Sorts (uses ++ [use]) := by
  have fields : ∀ operator,
      ((update.addUse use).fieldsOf operator).Collects (Use.under operator (uses ++ [use])) := by
    intro operator
    rw [Use.under, List.filter_append, List.map_append]
    by_cases same : use.operator = operator
    · subst same
      rw [fieldsOf_addUse_self, List.filter_cons_of_pos (by simp)]
      exact (sorts.fields use.operator).insert use.field use.operand
    · rw [fieldsOf_addUse_of_ne update use fun eq => same eq.symm,
        List.filter_cons_of_neg (by simpa using same), List.filter_nil, List.map_nil,
        List.append_nil]
      exact sorts.fields operator
  have operators :
      (update.addUse use).operatorNames = ((uses ++ [use]).map Use.operator).eraseDups := by
    rw [operatorNames_addUse, sorts.operators, List.map_append, List.map_singleton,
      eraseDups_concat]
    simp only [List.mem_eraseDups]
  refine ⟨operators, ?_, fields⟩
  intro operator member
  rw [operators, List.mem_eraseDups] at member
  obtain ⟨used, inside, rfl⟩ := List.mem_map.mp member
  have under : (used.field, used.operand) ∈ Use.under used.operator (uses ++ [use]) :=
    List.mem_map_of_mem (List.mem_filter.mpr ⟨inside, by simp⟩)
  exact (fields used.operator).isEmpty_of_mem under

/-- Uses that are added one after another are sorted. -/
theorem foldl_addUse (sorts : update.Sorts uses) (later : List Use) :
    (later.foldl UpdateDocument.addUse update).Sorts (uses ++ later) := by
  induction later generalizing update uses with
  | nil => rwa [List.append_nil]
  | cons use later ih =>
      rw [List.foldl_cons, List.append_cons]
      exact ih (sorts.addUse use)

/-- Of the uses of an operator with a field an update is left with the last one. -/
theorem asks_iff (sorts : update.Sorts uses) (use : Use) :
    update.Asks use ↔
      (uses.filter fun other => other.field = use.field ∧ other.operator = use.operator).getLast? =
        some use := by
  have both : uses.filter (fun other => other.field = use.field ∧ other.operator = use.operator) =
      (uses.filter (·.operator = use.operator)).filter (·.field = use.field) := by
    simp only [List.filter_filter, Bool.decide_and]
  rw [Asks, (sorts.fields use.operator).values, Use.under, List.filter_map, List.getLast?_map,
    Option.map_map, Option.map_eq_some_iff, both]
  constructor
  · rintro ⟨other, last, operand⟩
    obtain ⟨inside, field⟩ := List.mem_filter.mp (List.mem_of_getLast? last)
    have operator := (List.mem_filter.mp inside).2
    obtain rfl := Use.ext (of_decide_eq_true operator) (of_decide_eq_true field) operand
    exact last
  · intro last
    exact ⟨use, last, rfl⟩

/-- An operator keeps a field that it is used with. -/
theorem exists_asks (sorts : update.Sorts uses) {use : Use} (member : use ∈ uses) :
    ∃ operand, update.Asks ⟨use.operator, use.field, operand⟩ := by
  have among : use ∈
      uses.filter fun other => other.field = use.field ∧ other.operator = use.operator :=
    List.mem_filter.mpr ⟨member, by simp⟩
  cases found : (uses.filter fun other =>
      other.field = use.field ∧ other.operator = use.operator).getLast? with
  | none => exact absurd (List.getLast?_eq_none_iff.mp found) (List.ne_nil_of_mem among)
  | some last =>
      have like := (List.mem_filter.mp (List.mem_of_getLast? found)).2
      obtain ⟨field, operator⟩ := of_decide_eq_true like
      refine ⟨last.operand, (sorts.asks_iff _).mpr ?_⟩
      rw [found, ← field, ← operator]

/-- An update asks for the last use of each field and for no other one exactly if each field is used
with one operator only. -/
theorem asks_last_iff (sorts : update.Sorts uses) :
    (∀ use, update.Asks use ↔ (uses.filter (·.field = use.field)).getLast? = some use) ↔
      ∀ first ∈ uses, ∀ second ∈ uses, first.field = second.field →
        first.operator = second.operator := by
  constructor
  · intro lasts first member second inside same
    -- Both operators have an operand for the field, and only one use of the field is the last.
    obtain ⟨operand, asked⟩ := sorts.exists_asks member
    obtain ⟨other, wanted⟩ := sorts.exists_asks inside
    have last := (lasts _).mp asked
    have final := (lasts _).mp wanted
    simp only [same] at last
    rw [final] at last
    exact (congrArg Use.operator (Option.some.inj last)).symm
  · intro alike use
    have all : use ∈ uses →
        uses.filter (fun other => other.field = use.field ∧ other.operator = use.operator) =
          uses.filter (·.field = use.field) := by
      intro member
      refine List.filter_congr fun other inside => ?_
      rw [decide_eq_decide, and_iff_left_iff_imp]
      exact alike other inside use member
    rw [sorts.asks_iff]
    constructor
    · intro last
      rwa [all (List.mem_filter.mp (List.mem_of_getLast? last)).1] at last
    · intro last
      rwa [all (List.mem_filter.mp (List.mem_of_getLast? last)).1]

end Sorts

end UpdateDocument

end DocQuery
