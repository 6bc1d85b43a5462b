import DocQuery.Proofs.Session.Outcome
import Mathlib.Data.List.TakeWhile

/-!
# Namespaces from their texts

A namespace can be written down and read again, as long as its database has a name without a dot:
the first dot of the text is then the one that separates. Every namespace that a name stands for is
of this kind if the database that is assumed has such a name, and a configuration without flaws has
no other one. The text says everything, so neither a database nor a prefix makes a difference when
it is read.
-/

namespace DocQuery

namespace Namespace

theorem toList_text (target : Namespace) :
    target.text.toList = target.database.toList ++ '.' :: target.collection.toList := by
  rw [text, String.toList_append, String.toList_append, List.append_assoc]
  rfl

/-- The text of a namespace stands for it, whatever else is given. -/
theorem ofName_text {target : Namespace} (undotted : '.' ∉ target.database.toList)
    (database collectionPrefix : String) :
    ofName target.text database collectionPrefix = target := by
  have written := target.toList_text
  have dotted : '.' ∈ target.text.toList := by
    rw [written]
    exact List.mem_append_right _ List.mem_cons_self
  have front : ∀ c ∈ target.database.toList, decide (c ≠ '.') = true := by
    intro c member
    exact decide_eq_true fun dot => undotted (dot ▸ member)
  have first : target.text.toList.takeWhile (· ≠ '.') = target.database.toList := by
    rw [written, List.takeWhile_append_of_pos front, List.takeWhile_cons_of_neg (by simp),
      List.append_nil]
  have rest : target.text.toList.dropWhile (· ≠ '.') = '.' :: target.collection.toList := by
    rw [written, List.dropWhile_append_of_pos front, List.dropWhile_cons_of_neg (by simp)]
  rw [ofName, if_pos dotted, first, rest, List.drop_one, List.tail_cons, String.ofList_toList,
    String.ofList_toList]

/-- A name with a dot is the text of a namespace. -/
theorem exists_text_eq {name : String} (dotted : '.' ∈ name.toList) :
    ∃ target : Namespace, '.' ∉ target.database.toList ∧ target.text = name := by
  obtain ⟨before, after, parts, undotted⟩ := List.eq_append_cons_of_mem dotted
  refine ⟨⟨String.ofList before, String.ofList after⟩, ?_, ?_⟩
  · rwa [String.toList_ofList]
  · apply String.toList_inj.mp
    rw [toList_text, String.toList_ofList, String.toList_ofList, parts]

theorem ofName_of_not_mem {name : String} (plain : '.' ∉ name.toList)
    (database collectionPrefix : String) :
    ofName name database collectionPrefix = ⟨database, collectionPrefix ++ name⟩ :=
  if_neg plain

/-- What a name stands for has an undotted database, if the one that is assumed is undotted. -/
theorem not_mem_database_ofName (name collectionPrefix : String) {database : String}
    (undotted : '.' ∉ database.toList) :
    '.' ∉ (ofName name database collectionPrefix).database.toList := by
  by_cases dotted : '.' ∈ name.toList
  · obtain ⟨target, separable, rfl⟩ := exists_text_eq dotted
    rwa [ofName_text separable]
  · rwa [ofName_of_not_mem dotted]

/-- A namespace is known by its text. -/
theorem eq_of_text_eq {a b : Namespace} (undotted : '.' ∉ a.database.toList)
    (undotted' : '.' ∉ b.database.toList) (same : a.text = b.text) : a = b := by
  rw [← ofName_text undotted "" "", same, ofName_text undotted']

/-- The text of what a name stands for can be read again, with any database and prefix, and nothing
else that a name stands for has this text. A name with a dot is such a text itself. -/
theorem ofName_reads_back (name collectionPrefix : String) {database : String}
    (undotted : '.' ∉ database.toList) :
    let target := ofName name database collectionPrefix
    '.' ∉ target.database.toList ∧
      (∀ database' prefix', ofName target.text database' prefix' = target) ∧
      (∀ name' database' prefix', '.' ∉ database'.toList →
        (ofName name' database' prefix').text = target.text →
          ofName name' database' prefix' = target) ∧
      ('.' ∈ name.toList →
        target.text = name ∧ ∀ database' prefix', ofName name database' prefix' = target) := by
  intro target
  have separable : '.' ∉ target.database.toList :=
    not_mem_database_ofName name collectionPrefix undotted
  refine ⟨separable, ofName_text separable, ?_, ?_⟩
  · intro name' database' prefix' undotted' same
    exact eq_of_text_eq (not_mem_database_ofName name' prefix' undotted') separable same
  · intro dotted
    obtain ⟨meant, separable', rfl⟩ := exists_text_eq dotted
    have stands : target = meant := ofName_text separable' database collectionPrefix
    rw [stands]
    exact ⟨rfl, ofName_text separable'⟩

/-- A dot that comes with the prefix belongs to the name of the collection, and so do all dots but
the first of a name that has several. Where the prefix ends cannot be told from a namespace. -/
theorem ofName_reads_back_of_dots :
    '.' ∉ "app".toList ∧ '.' ∈ ".a..b".toList ∧
      ofName "users" "app" "t." = ⟨"app", "t.users"⟩ ∧
      ofName "app.t.users" "main" "x" = ofName "users" "app" "t." ∧
      ofName "s" "app" "t.user" = ofName "users" "app" "t." ∧
      (ofName ".a..b" "app" "t.").text = ".a..b" := by
  have undotted : '.' ∉ "app".toList := by decide
  have dotted : '.' ∈ ".a..b".toList := by decide
  obtain ⟨-, again, alone, -⟩ := ofName_reads_back "users" "t." undotted
  obtain ⟨-, -, -, whole⟩ := ofName_reads_back ".a..b" "t." undotted
  exact ⟨undotted, dotted, rfl, again "main" "x", alone "s" "app" "t.user" undotted rfl,
    (whole dotted).1⟩

end Namespace

theorem Config.not_mem_database {config : Config} (flawless : config.flaw? = none) :
    '.' ∉ config.database.toList := by
  intro dotted
  rw [flaw?, if_pos dotted] at flawless
  split at flawless
  · contradiction
  · split at flawless <;> contradiction

/-- Every session works on a collection that any connection can open by the text of its
namespace. -/
theorem Connection.Reaches.target_collection_text {σ τ σ' τ' : Type} {connection : Connection σ τ}
    {session : Session} (reached : connection.Reaches session) (other : Connection σ' τ') :
    (other.collection session.target.text).target = session.target := by
  induction reached with
  | collection name =>
      have undotted := Config.not_mem_database connection.flawless
      exact Namespace.ofName_text (Namespace.not_mem_database_ofName name _ undotted) _ _
  | set reached setting shared ih => exact ih
  | perform reached operation shared ih => rwa [target_perform]

end DocQuery
