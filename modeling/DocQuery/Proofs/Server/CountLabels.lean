import DocQuery.Proofs.Document.Fields
import DocQuery.Proofs.Server.Basic

/-!
# Counting under any label

Servers without a stage for counting put all rows into one group and add up ones under the label. The
row that comes out tells the same number under the label as that of the stage for counting, for every
label but one: `_id` is where a group keeps its key, so a label of this name takes the place of the
key, and what stands there need not be the number of rows.
-/

namespace DocQuery

/-- Versions come one after another by their major number, and by the minor one where that is the
same. -/
def ServerVersion.Before (a b : ServerVersion) : Prop :=
  a.major < b.major ∨ a.major = b.major ∧ a.minor < b.minor

instance (a b : ServerVersion) : Decidable (a.Before b) :=
  inferInstanceAs (Decidable (_ ∨ _))

theorem ServerVersion.hasCountStage_eq_false_iff {version : ServerVersion} :
    version.hasCountStage = false ↔ version.Before ⟨3, 4⟩ := by
  have inOrder : compare version firstCounting =
      (compare version.major 3).then (compare version.minor 4) := rfl
  rw [hasCountStage, Ordering.isGE_eq_false, inOrder, Ordering.then_eq_lt, Std.compare_eq_lt,
    Std.compare_eq_lt, Std.compare_eq_iff_eq, Before]

/-- The accumulator that adds one for each row. -/
def Value.ones : Value := .document ⟨[("$sum", .int32 1)]⟩

/-- A row tells a number under a name, in the way in which a server writes numbers. -/
def TellsUnder (writes : Nat → Value → Prop) (name : String) (m : Nat) (row : Document) : Prop :=
  ∃ value, row.get? name = some value ∧ writes m value

/-- What servers make of rows that are counted, if there are any. Nothing is said of groups by any
other key than null. -/
structure Server.CountsRows (server : Server) (writes : Nat → Value → Prop) : Prop where
  /-- The stage for counting gives one row with the number of rows under its label. -/
  native : ∀ (label : String) (rows : List Document), rows ≠ [] →
    ∃ row, server.count label rows = some [row] ∧ TellsUnder writes label rows.length row
  /-- With null as the key all rows come into one group, and accumulators tell what they add up. -/
  grouped : ∀ (group : Document) (rows : List Document), group.names.Nodup →
    group.get? "_id" = some .null →
    (∀ name ∈ group.names, name ≠ "_id" → group.get? name = some .ones) → rows ≠ [] →
      ∃ row, server.group group rows = some [row] ∧
        ∀ name ∈ group.names, name ≠ "_id" → TellsUnder writes name rows.length row

namespace Stage

/-- What a server without a stage for counting is asked for. -/
theorem toDocument_counting_of_before {version : ServerVersion} (before : version.Before ⟨3, 4⟩)
    (label : String) :
    (counting label version).toDocument =
      ⟨[("$group", .document ((Fields.singleton "_id" .null).insert label .ones))]⟩ := by
  rw [counting, ServerVersion.hasCountStage_eq_false_iff.mpr before]
  rfl

theorem toDocument_counting_of_not_before {version : ServerVersion}
    (supported : ¬ version.Before ⟨3, 4⟩) (label : String) :
    (counting label version).toDocument = ⟨[("$count", .string label)]⟩ := by
  have counts : version.hasCountStage = true := by
    rw [← Bool.not_eq_false, ServerVersion.hasCountStage_eq_false_iff]
    exact supported
  rw [counting, counts]
  rfl

/-- The group keeps null as its key exactly if the label is another name. -/
theorem get?_key_iff (label : String) :
    ((Fields.singleton "_id" Value.null).insert label .ones).get? "_id" = some .null ↔
      label ≠ "_id" := by
  constructor
  · rintro key rfl
    rw [Fields.get?_insert_self] at key
    exact nomatch Option.some.inj key
  · intro free
    rw [Fields.get?_insert_of_ne _ _ free.symm]
    rfl

/-- Besides its key the group has nothing but the label. -/
theorem get?_of_mem_group {label name : String}
    (member : name ∈ ((Fields.singleton "_id" Value.null).insert label .ones).names)
    (other : name ≠ "_id") :
    ((Fields.singleton "_id" Value.null).insert label .ones).get? name = some .ones := by
  rw [Fields.mem_names_insert, Fields.names_singleton, List.mem_singleton] at member
  obtain rfl := member.resolve_left other
  exact Fields.get?_insert_self _ _ _

/-- The stage that counts tells the number of rows under its label on either side of the versions, as
long as the label is not the name of the key. -/
theorem tellsUnder_counting {server : Server} {writes : Nat → Value → Prop}
    (counts : server.CountsRows writes) {label : String} (free : label ≠ "_id")
    {rows : List Document} (filled : rows ≠ []) (version : ServerVersion) :
    ∃ row, server.stage rows (counting label version).toDocument = some [row] ∧
      TellsUnder writes label rows.length row := by
  by_cases before : version.Before ⟨3, 4⟩
  · rw [toDocument_counting_of_before before]
    have distinct : ((Fields.singleton "_id" Value.null).insert label .ones).names.Nodup :=
      Fields.nodup_names_insertAll [(label, Value.ones)] (List.pairwise_singleton _ "_id")
    obtain ⟨row, grouped, tells⟩ := counts.grouped _ rows distinct ((get?_key_iff label).mpr free)
      (fun _ => get?_of_mem_group) filled
    exact ⟨row, grouped, tells label (Fields.mem_names_insert.mpr (.inr rfl)) free⟩
  · rw [toDocument_counting_of_not_before before]
    exact counts.native label rows filled

/-- Below the versions that count by a stage of their own, the group that counts has null as its key
exactly if the label is not the name of the key. Then every server tells the number of rows under
the label, whatever its version. -/
theorem counting_keyed_by_null_iff (label : String) :
    (∀ version : ServerVersion, version.Before ⟨3, 4⟩ →
      ∃ group, (counting label version).toDocument = ⟨[("$group", .document group)]⟩ ∧
        group.get? label = some .ones ∧
        (group.get? "_id" = some .null ↔ label ≠ "_id")) ∧
    (label ≠ "_id" → ∀ (server : Server) (writes : Nat → Value → Prop),
      server.CountsRows writes → ∀ rows : List Document, rows ≠ [] → ∀ version,
        ∃ row, server.stage rows (counting label version).toDocument = some [row] ∧
          TellsUnder writes label rows.length row) := by
  refine ⟨?_, ?_⟩
  · intro version before
    exact ⟨_, toDocument_counting_of_before before label, Fields.get?_insert_self _ _ _,
      get?_key_iff label⟩
  · intro free server writes counts rows filled version
    exact tellsUnder_counting counts free filled version

end Stage

/-! ## A server that groups by constants -/

/-- What the small server adds up for an accumulator over a number of rows. -/
def sampleTotal (m : Nat) : Value → Value
  | .document ⟨[("$sum", .int32 n)]⟩ => sampleNumber (n.toInt.toNat * m)
  | _ => .null

/-- The key of a group by a constant. The sum of a single constant is that constant. -/
def sampleKey : Option Value → Value
  | some (.document ⟨[("$sum", constant)]⟩) => constant
  | some constant => constant
  | none => .null

/-- The small server, with groups by any constant. All rows come into one group. -/
def groupingServer : Server :=
  { sampleServer with
    group := fun group rows =>
      if rows.isEmpty then some []
      else some [(group.map (sampleTotal rows.length)).insert "_id" (sampleKey (group.get? "_id"))] }

theorem countsRows_groupingServer :
    groupingServer.CountsRows fun m value => value = sampleNumber m where
  native label rows filled := by
    have counted : groupingServer.count label rows =
        some [.singleton label (sampleNumber rows.length)] := if_neg (by simpa using filled)
    exact ⟨_, counted, _, by simp [Fields.get?, Fields.singleton], rfl⟩
  grouped group rows _ _ added filled := by
    have grouped : groupingServer.group group rows = some [_] := if_neg (by simpa using filled)
    refine ⟨_, grouped, fun name member other => ⟨sampleNumber rows.length, ?_, rfl⟩⟩
    have total : sampleTotal rows.length .ones = sampleNumber (1 * rows.length) := rfl
    rw [Fields.get?_insert_of_ne _ _ other, Fields.get?_map, added name member other,
      Option.map_some, total, Nat.one_mul]

namespace Stage

/-- Four users are counted in one group. -/
theorem counting_keyed_by_null_of_four :
    let version : ServerVersion := ⟨3, 2⟩
    let rows := groupingServer.rows ⟨"app", "users"⟩
    version.Before ⟨3, 4⟩ ∧ "n" ≠ "_id" ∧
      (groupingServer.CountsRows fun m value => value = sampleNumber m) ∧ rows ≠ [] ∧
      (∃ group, (counting "n" version).toDocument = ⟨[("$group", .document group)]⟩ ∧
        group.get? "n" = some .ones ∧ (group.get? "_id" = some .null ↔ "n" ≠ "_id")) ∧
      ∃ row, groupingServer.stage rows (counting "n" version).toDocument = some [row] ∧
        TellsUnder (fun m value => value = sampleNumber m) "n" 4 row := by
  intro version rows
  have before : version.Before ⟨3, 4⟩ := by decide
  have free : "n" ≠ "_id" := by decide
  have filled : rows ≠ [] := List.cons_ne_nil _ _
  obtain ⟨grouped, tells⟩ := counting_keyed_by_null_iff "n"
  exact ⟨before, free, countsRows_groupingServer, filled, grouped version before,
    tells free groupingServer _ countsRows_groupingServer rows filled version⟩

/-- Under the label `_id` an old server is asked for a group by a sum of ones instead of null. Of four
users it says one, where a server with a stage for counting says four. -/
theorem exists_key_replaced :
    let rows := groupingServer.rows ⟨"app", "users"⟩
    let group : Document := ⟨[("_id", .ones)]⟩
    (⟨3, 2⟩ : ServerVersion).Before ⟨3, 4⟩ ∧
      (counting "_id" ⟨3, 2⟩).toDocument = ⟨[("$group", .document group)]⟩ ∧
      group.get? "_id" ≠ some .null ∧
      (groupingServer.CountsRows fun m value => value = sampleNumber m) ∧ rows.length = 4 ∧
      groupingServer.stage rows (counting "_id" ⟨3, 2⟩).toDocument =
        some [⟨[("_id", .int32 1)]⟩] ∧
      groupingServer.stage rows (counting "_id" ⟨3, 4⟩).toDocument =
        some [⟨[("_id", .int32 4)]⟩] := by
  refine ⟨by decide, rfl, ?_, countsRows_groupingServer, rfl, rfl, rfl⟩
  intro same
  exact nomatch Option.some.inj same

end Stage

end DocQuery
