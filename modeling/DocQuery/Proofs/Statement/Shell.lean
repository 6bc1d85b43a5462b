import DocQuery.Proofs.Document.Trees
import DocQuery.Proofs.Json.Accepted
import DocQuery.Proofs.Json.Quotes
import DocQuery.Statement.Shell

/-!
# What the text of a statement says

The text of a statement is a call whose arguments, between brackets, are one JSON text. Nothing of
them is lost: the text spells the trees of the documents in their order, and no other trees. An
insert of one document does not look like an insert of an array with this document alone.

Names of collections are shown as they are, and a collection may have any name. Even so the name,
the verb and the arguments are told apart, for a parenthesis with arguments behind it is found in
one place only.

Statements with doubles are left out, since a numeral with a fraction is read as it is written.
-/

namespace DocQuery.Statement

open Json.Quotes

def documents : Statement → List Document
  | insert documents => documents
  | remove filter _ => [filter]
  | update filter change _ _ => [filter, change]
  | command document => [document]

/-- No document of a statement holds a double, at any depth. -/
def Undoubled (statement : Statement) : Prop :=
  ∀ document ∈ statement.documents, (Value.document document).hasDouble = false

/-- The tree of a document has its names in their order. -/
def tree (document : Document) : Json :=
  .object (document.entries.map fun entry => (some entry.1, entry.2.toJson))

/-- The verb of a statement and the trees of its arguments. -/
inductive IsCall : Statement → String → List Json → Prop where
  | insertOne (document : Document) : IsCall (.insert [document]) "insert" [tree document]
  | insertMany {documents : List Document} (many : documents.length ≠ 1) :
      IsCall (.insert documents) "insert" [.array (documents.map tree)]
  | remove (filter : Document) (justOne : Bool) :
      IsCall (.remove filter justOne) "remove"
        [tree filter, .object [(some "justOne", .bool justOne)]]
  | update (filter change : Document) (multi upsert : Bool) :
      IsCall (.update filter change multi upsert) "update"
        [tree filter, tree change,
          .object [(some "multi", .bool multi), (some "upsert", .bool upsert)]]
  | command (document : Document) : IsCall (.command document) "runCommand" [tree document]

theorem argument_eq_tree : argument = tree := by
  funext document
  rw [argument, tree, Value.toJson, Value.toJsonIn, Value.entriesToJson_eq_map]
  rfl

/-- Several documents, or none, are inserted as an array. -/
theorem arguments_insert {documents : List Document} (many : documents.length ≠ 1) :
    (insert documents).arguments = [.array (documents.map argument)] := by
  rw [arguments]
  rintro document rfl
  exact many rfl

/-- Every statement is a call. -/
theorem isCall_arguments (statement : Statement) :
    statement.IsCall statement.verb statement.arguments := by
  cases statement with
  | insert documents =>
      by_cases many : documents.length = 1
      · obtain ⟨document, rfl⟩ := List.length_eq_one_iff.mp many
        rw [arguments, argument_eq_tree]
        exact .insertOne document
      · rw [arguments_insert many, argument_eq_tree]
        exact .insertMany many
  | remove filter justOne =>
      rw [arguments, argument_eq_tree]
      exact .remove filter justOne
  | update filter change multi upsert =>
      rw [arguments, argument_eq_tree]
      exact .update filter change multi upsert
  | command document =>
      rw [arguments, argument_eq_tree]
      exact .command document

/-- A statement is one call only. -/
theorem IsCall.eq {statement : Statement} {verb : String} {trees : List Json}
    (call : statement.IsCall verb trees) : verb = statement.verb ∧ trees = statement.arguments := by
  cases call with
  | insertMany many =>
      rw [arguments_insert many, argument_eq_tree]
      exact ⟨rfl, rfl⟩
  | _ =>
      rw [arguments, argument_eq_tree]
      exact ⟨rfl, rfl⟩

/-! ## The text of a call -/

theorem legible_argument {document : Document}
    (undoubled : (Value.document document).hasDouble = false) : (argument document).Legible :=
  Value.legible_toJsonIn Value.legible_relaxed undoubled

theorem legible_arguments {statement : Statement} (undoubled : statement.Undoubled) :
    ∀ json ∈ statement.arguments, json.Legible := by
  cases statement with
  | insert documents =>
      have all : ∀ json ∈ documents.map argument, json.Legible :=
        List.forall_mem_map.mpr fun document member => legible_argument (undoubled document member)
      by_cases many : documents.length = 1
      · obtain ⟨document, rfl⟩ := List.length_eq_one_iff.mp many
        exact all
      · rw [arguments_insert many, List.forall_mem_singleton]
        exact .array all
  | remove filter justOne =>
      simp only [Undoubled, documents, List.forall_mem_singleton] at undoubled
      simp only [arguments, List.forall_mem_cons]
      exact ⟨legible_argument undoubled, Value.legible_object (by simp [Json.Legible.bool]), nofun⟩
  | update filter change multi upsert =>
      simp only [Undoubled, documents, List.forall_mem_cons] at undoubled
      simp only [arguments, List.forall_mem_cons]
      exact ⟨legible_argument undoubled.1, legible_argument undoubled.2.1,
        Value.legible_object (by simp [Json.Legible.bool]), nofun⟩
  | command document =>
      simp only [Undoubled, documents, List.forall_mem_singleton] at undoubled
      simpa [arguments] using legible_argument undoubled

/-- The texts of trees with commas between them are, in brackets, the text of one array. -/
theorem spells_array {trees : List Json} (legible : ∀ json ∈ trees, json.Legible) :
    Json.Spells ("[" ++ ",".intercalate (trees.map Json.compact) ++ "]").toList
      (.array trees) := by
  have same : ("[" ++ ",".intercalate (trees.map Json.compact) ++ "]").toList =
      (Json.array trees).chars := by
    rw [Json.chars_array, String.toList_append, String.toList_append, String.toList_intercalate,
      List.map_map]
    simp [Json.compact, Function.comp_def]
  rw [same]
  exact Json.spells_chars (.array legible)

theorem closed_intercalate_compact {trees : List Json} (legible : ∀ json ∈ trees, json.Legible) :
    Closed (",".intercalate (trees.map Json.compact)).toList := by
  rw [String.toList_intercalate, List.map_map]
  apply closed_intercalate
  simp only [List.forall_mem_map, Function.comp_def, Json.compact, String.toList_ofList]
  exact fun json member => closed_of_spells (Json.spells_chars (legible json member))

theorem dot_not_mem_verb (statement : Statement) : '.' ∉ statement.verb.toList := by
  cases statement <;> simp [verb]

/-- The characters of a statement, taken apart in front of the arguments. -/
theorem toList_text (statement : Statement) (target : Namespace) :
    (statement.text target).toList =
      "db.".toList ++ (target.collection.toList ++ '.' :: statement.verb.toList) ++
        '(' :: ((",".intercalate (statement.arguments.map Json.compact)).toList ++
          ");".toList) := by
  simp [text]

/-- From the text of a statement the collection, the verb and the arguments are known. -/
theorem text_inj {a b : Statement} (undoubled : a.Undoubled) (undoubled' : b.Undoubled)
    {target place : Namespace} (same : a.text target = b.text place) :
    target.collection = place.collection ∧ a.verb = b.verb ∧ a.arguments = b.arguments := by
  have characters := congrArg String.toList same
  rw [toList_text, toList_text] at characters
  have ending : Closed ");".toList := rfl
  obtain ⟨before, behind⟩ := append_paren_inj
    ((closed_intercalate_compact (legible_arguments undoubled)).append ending)
    ((closed_intercalate_compact (legible_arguments undoubled')).append ending) characters
  obtain ⟨collection, verb⟩ := Text.append_cons_inj_of_right (dot_not_mem_verb a)
    (dot_not_mem_verb b) (List.append_cancel_left before)
  refine ⟨String.toList_inj.mp collection, String.toList_inj.mp verb, ?_⟩
  have listed := spells_array (legible_arguments undoubled)
  rw [String.toList_inj.mp (List.append_cancel_right behind)] at listed
  have read := Json.parse_of_spells listed
  rw [Json.parse_of_spells (spells_array (legible_arguments undoubled'))] at read
  injection read with read
  injection read with read
  exact read.symm

/-- A statement without doubles is shown as a call of its verb on its collection. What stands
between the parentheses is, in brackets, a JSON text of the trees of its arguments; and a statement
that looks like this one, on any collection, is the same call on the same one. -/
theorem text_is_call {statement : Statement} (undoubled : statement.Undoubled)
    (target : Namespace) :
    ∃ verb args trees, statement.IsCall verb trees ∧
      statement.text target =
        "db." ++ target.collection ++ "." ++ verb ++ "(" ++ args ++ ");" ∧
      Json.Spells ("[" ++ args ++ "]").toList (.array trees) ∧
      Json.parse ("[" ++ args ++ "]") = some (.array trees) ∧
      ∀ (other : Statement) verb' trees' (place : Namespace), other.IsCall verb' trees' →
        other.Undoubled → other.text place = statement.text target →
          place.collection = target.collection ∧ verb' = verb ∧ trees' = trees := by
  have listed := spells_array (legible_arguments undoubled)
  refine ⟨_, _, _, isCall_arguments statement, rfl, listed, Json.parse_of_spells listed, ?_⟩
  intro other verb' trees' place call undoubled' same
  obtain ⟨rfl, rfl⟩ := call.eq
  exact text_inj undoubled' undoubled same

/-- A document of marks and brackets is inserted into a collection whose name looks like a call. The
document is read back, and an insert of an array with this document looks different. -/
theorem text_is_call_of_odd_names :
    let document : Document :=
      ⟨[("a\"(", .string "\\);"), ("[", .array [.int32 7, .scopedCode "f(" ⟨[("b", .null)]⟩])]⟩
    (insert [document]).Undoubled ∧
      (∃ args, (insert [document]).text ⟨"library", "db.x.insert("⟩ =
          "db." ++ "db.x.insert(" ++ "." ++ "insert" ++ "(" ++ args ++ ");" ∧
        Json.parse ("[" ++ args ++ "]") = some (.array [.object
          [(some "a\"(", .text "\\);"),
            (some "[", .array [.int 7, .object
              [(some "$code", .text "f("), (some "$scope", .object [(some "b", .null)])]])]])) ∧
      ∀ place, (insert [document, document]).text place ≠
        (insert [document]).text ⟨"library", "db.x.insert("⟩ := by
  intro document
  have undoubled : (insert [document]).Undoubled := by
    simp only [Undoubled, documents, List.forall_mem_singleton]
    rfl
  have twice : (insert [document, document]).Undoubled := by
    simp only [Undoubled, documents, List.forall_mem_cons]
    exact ⟨rfl, rfl, nofun⟩
  obtain ⟨verb, args, trees, call, shown, -, read, unique⟩ :=
    text_is_call undoubled ⟨"library", "db.x.insert("⟩
  cases call with
  | insertMany many => contradiction
  | insertOne =>
      refine ⟨undoubled, ⟨args, shown, read⟩, fun place same => ?_⟩
      have trees := (unique _ _ _ place (.insertMany (by decide)) twice same).2.2
      simp [tree] at trees

end DocQuery.Statement
