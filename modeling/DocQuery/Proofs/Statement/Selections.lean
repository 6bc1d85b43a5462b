import DocQuery.Proofs.Document.Collecting
import DocQuery.Proofs.Text.Blank
import DocQuery.Statement.Selection

/-!
# What selections mean

Names of fields may be given one by one, between the commas of one text, or in any mixture of the
two: what counts are the pieces between commas, and a list means the same as its texts with commas
between them. The pieces lose the blanks around them, and a blank one selects nothing.

The projection of a selection is told by the order of its names and by what stands under them. The
primary key comes first, whether it is selected or not, and a projection that is taken for a
selection is its own projection.
-/

namespace DocQuery

/-- No piece between separators holds one. -/
theorem not_mem_of_mem_splitOn {α : Type} [BEq α] [LawfulBEq α] {separator : α}
    {items piece : List α} (member : piece ∈ items.splitOn separator) : separator ∉ piece := by
  induction items generalizing piece with
  | nil =>
      rw [List.splitOn_nil, List.mem_singleton] at member
      exact member ▸ List.not_mem_nil
  | cons item items ih =>
      rw [List.splitOn_cons_eq_if_modifyHead] at member
      split at member
      · rcases List.mem_cons.mp member with rfl | later
        · exact List.not_mem_nil
        · exact ih later
      · rename_i other
        obtain ⟨first, rest, pieces⟩ :=
          List.exists_cons_of_ne_nil (List.splitOn_ne_nil separator items)
        rw [pieces, List.modifyHead_cons] at member
        rcases List.mem_cons.mp member with rfl | later
        · have inside : separator ∉ first := ih (pieces ▸ List.mem_cons_self)
          have apart : separator ≠ item := fun same => other (beq_iff_eq.mpr same.symm)
          exact List.not_mem_cons_of_ne_of_not_mem apart inside
        · exact ih (pieces ▸ List.mem_cons_of_mem first later)

namespace Selection

/-! ## Lists of names -/

/-- What can stand as a name in a list: a text without blanks at its ends, with something to see in
it and no comma. -/
structure IsName (name : String) : Prop where
  trimmed : Text.trim name = name
  visible : name ≠ ""
  single : ',' ∉ name.toList

theorem isName_of_mem_namesIn {list name : String} (member : name ∈ namesIn list) :
    IsName name := by
  obtain ⟨chars, kept, rfl⟩ := List.mem_map.mp member
  obtain ⟨inside, visible⟩ := List.mem_filter.mp kept
  obtain ⟨piece, between, rfl⟩ := List.mem_map.mp inside
  have comma : Text.isBlank ',' = false := by decide
  constructor
  · rw [Text.trim, String.toList_ofList, Text.trimChars_trimChars]
  · intro empty
    have nothing := congrArg String.toList empty
    rw [String.toList_ofList] at nothing
    exact of_decide_eq_true visible nothing
  · rw [String.toList_ofList, Text.mem_trimChars comma]
    exact not_mem_of_mem_splitOn between

/-- A text without commas is one name, or none if there is nothing to see in it. -/
theorem namesIn_of_not_mem {list : String} (single : ',' ∉ list.toList) :
    namesIn list = [Text.trim list].filter (· ≠ "") := by
  rw [namesIn, List.splitOn_eq_singleton single, List.map_singleton, Text.trim]
  by_cases blank : Text.trimChars list.toList = []
  · rw [blank]
    rfl
  · have visible : String.ofList (Text.trimChars list.toList) ≠ "" := by
      rwa [Ne, ← String.toList_eq_nil_iff, String.toList_ofList]
    rw [List.filter_cons_of_pos (by simpa using blank),
      List.filter_cons_of_pos (by simpa using visible)]
    rfl

/-- Without a comma there is one name in a list, if there is anything to see. -/
theorem namesIn_of_single {list : String} (visible : Text.trim list ≠ "")
    (single : ',' ∉ list.toList) : namesIn list = [Text.trim list] := by
  rw [namesIn_of_not_mem single, List.filter_cons_of_pos (by simpa using visible), List.filter_nil]

theorem isName_trim {text : String} (visible : Text.trim text ≠ "") (single : ',' ∉ text.toList) :
    IsName (Text.trim text) where
  trimmed := Text.trim_trim text
  visible := visible
  single := by
    have comma : Text.isBlank ',' = false := by decide
    rwa [Text.toList_trim, Text.mem_trimChars comma]

theorem namesIn_of_isName {name : String} (named : IsName name) : namesIn name = [name] := by
  have visible : Text.trim name ≠ "" := by
    rw [named.trimmed]
    exact named.visible
  rw [namesIn_of_single visible named.single, named.trimmed]

theorem flatMap_namesIn {pieces : List String} (single : ∀ piece ∈ pieces, ',' ∉ piece.toList) :
    pieces.flatMap namesIn = (pieces.map Text.trim).filter (· ≠ "") := by
  induction pieces with
  | nil => rfl
  | cons piece pieces ih =>
      rw [List.forall_mem_cons] at single
      rw [List.flatMap_cons, namesIn_of_not_mem single.1, ih single.2, List.map_cons,
        ← List.filter_append, List.singleton_append]

/-- A comma parts the names in front of it from those behind it. -/
theorem namesIn_append_comma (first second : String) :
    namesIn (first ++ "," ++ second) = namesIn first ++ namesIn second := by
  have pieces : (first ++ "," ++ second).toList.splitOn ',' =
      first.toList.splitOn ',' ++ second.toList.splitOn ',' := by
    rw [String.toList_append, String.toList_append, List.append_assoc]
    exact List.splitOn_append_cons_self _ _
  rw [namesIn, pieces, List.map_append, List.filter_append, List.map_append]
  rfl

/-- The names in several texts are those in one text with commas between them. -/
theorem namesIn_intercalate (lists : List String) :
    namesIn (",".intercalate lists) = lists.flatMap namesIn := by
  induction lists with
  | nil => rfl
  | cons first rest ih =>
      cases rest with
      | nil => rw [String.intercalate_singleton, List.flatMap_singleton]
      | cons second rest =>
          rw [String.intercalate_cons_cons, namesIn_append_comma, ih]
          rfl

/-! ## Projections -/

variable {selection : Selection} {primaryKey : String}

/-- How a selection shows a field that it names: a list marks what it lists, and in a document the
last value counts. -/
def shownAs? : Selection → String → Option Value
  | names listed, name => if name ∈ listed then some (.int32 1) else none
  | document fields, name => ((fields.entries.filter (·.1 = name)).getLast?).map Prod.snd

theorem map_fst_entries (selection : Selection) :
    selection.entries.map Prod.fst = selection.toNames := by
  cases selection with
  | names listed =>
      rw [entries, List.map_map]
      exact List.map_id listed
  | document fields => rfl

/-- The last entry under a name says how it is shown. -/
theorem getLast?_entries (selection : Selection) (name : String) :
    ((selection.entries.filter (·.1 = name)).getLast?).map Prod.snd = selection.shownAs? name := by
  cases selection with
  | document fields => rfl
  | names listed =>
      rw [shownAs?, entries, List.filter_map, List.getLast?_map, Option.map_map]
      cases last : (listed.filter ((fun entry => decide (entry.1 = name)) ∘ (·, shown))).getLast? with
      | none =>
          have missing : name ∉ listed := by
            intro member
            have found := List.filter_eq_nil_iff.mp (List.getLast?_eq_none_iff.mp last) name member
            exact found (decide_eq_true rfl)
          rw [if_neg missing]
          rfl
      | some found =>
          obtain ⟨member, same⟩ := List.mem_filter.mp (List.mem_of_getLast? last)
          have named : found = name := of_decide_eq_true same
          rw [if_pos (named ▸ member)]
          rfl

/-- A selection shows what it names, and nothing else. -/
theorem shownAs?_eq_none_iff {name : String} :
    selection.shownAs? name = none ↔ name ∉ selection.toNames := by
  rw [← getLast?_entries, Option.map_eq_none_iff, List.getLast?_eq_none_iff,
    List.filter_eq_nil_iff, ← map_fst_entries, List.mem_map]
  constructor
  · rintro nowhere ⟨entry, inside, named⟩
    exact nowhere entry inside (decide_eq_true named)
  · intro missing entry inside named
    exact missing ⟨entry, inside, of_decide_eq_true named⟩

theorem projection_of_empty (empty : selection.isEmpty = true) (primaryKey : String) :
    selection.projection primaryKey = ∅ := by
  rw [projection, empty]
  rfl

/-- The entries of a selection are collected behind the hidden primary key. -/
theorem collects_projection (filled : selection.isEmpty = false) (primaryKey : String) :
    (selection.projection primaryKey).Collects ((primaryKey, hidden) :: selection.entries) := by
  rw [projection, filled]
  exact (Fields.Collects.empty.insert primaryKey hidden).insertAll selection.entries

/-- A projection shows a field as the selection does, and hides the primary key otherwise. -/
theorem get?_projection (filled : selection.isEmpty = false) (primaryKey name : String) :
    (selection.projection primaryKey).get? name =
      (selection.shownAs? name).or (if primaryKey = name then some hidden else none) := by
  rw [(collects_projection filled primaryKey).values, ← List.singleton_append, List.filter_append,
    List.getLast?_append, Option.map_or, getLast?_entries]
  by_cases same : primaryKey = name
  · rw [if_pos same, List.filter_cons_of_pos (by simpa using same)]
    rfl
  · rw [if_neg same, List.filter_cons_of_neg (by simpa using same)]
    rfl

/-- What a projection of a selection is: which names it has in which order, and what stands under
them. -/
structure Projects (selection : Selection) (primaryKey : String) (projection : Document) : Prop where
  /-- The primary key comes first, then the other names in the order in which they come up. -/
  names : projection.names =
    primaryKey :: (selection.toNames.filter (· ≠ primaryKey)).eraseDups
  /-- The primary key is hidden unless it is selected. -/
  unselected : primaryKey ∉ selection.toNames → projection.get? primaryKey = some (.int32 0)
  selected : ∀ name ∈ selection.toNames, projection.get? name = selection.shownAs? name

theorem projects_projection (filled : selection.isEmpty = false) (primaryKey : String) :
    selection.Projects primaryKey (selection.projection primaryKey) := by
  constructor
  · rw [(collects_projection filled primaryKey).names, List.map_cons, map_fst_entries,
      List.eraseDups_cons]
    have others : (fun name => !name == primaryKey) = fun name => decide (name ≠ primaryKey) := by
      funext name
      rw [beq_eq_decide, decide_not]
    rw [others]
  · intro unselected
    rw [get?_projection filled, shownAs?_eq_none_iff.mpr unselected, if_pos rfl]
    rfl
  · intro name member
    obtain ⟨value, named⟩ := Option.ne_none_iff_exists'.mp fun missing =>
      shownAs?_eq_none_iff.mp missing member
    rw [get?_projection filled, named]
    rfl

theorem isEmpty_projection (selection : Selection) (primaryKey : String) :
    (selection.projection primaryKey).isEmpty = selection.isEmpty := by
  cases filled : selection.isEmpty with
  | true =>
      rw [projection_of_empty filled]
      rfl
  | false =>
      have first : primaryKey ∈ (selection.projection primaryKey).names := by
        rw [(projects_projection filled primaryKey).names]
        exact List.mem_cons_self
      exact Fields.isEmpty_of_mem_names first

/-- A document that begins with the primary key and has each name once is its own projection. -/
theorem projection_of_first {value : Value} {rest : List (String × Value)}
    (distinct : (((primaryKey, value) :: rest).map Prod.fst).Nodup) :
    (document ⟨(primaryKey, value) :: rest⟩).projection primaryKey =
      ⟨(primaryKey, value) :: rest⟩ := by
  have replaced : (Fields.singleton primaryKey hidden).insert primaryKey value =
      Fields.singleton primaryKey value := by
    rw [Fields.insert, Fields.singleton, Fields.insertEntry, if_pos rfl, Fields.singleton]
  have inserted : (document ⟨(primaryKey, value) :: rest⟩).projection primaryKey =
      ((Fields.singleton primaryKey hidden).insert primaryKey value).insertAll rest := rfl
  rw [inserted, replaced]
  exact Fields.insertAll_of_nodup (Fields.singleton primaryKey value) rest distinct

theorem projection_projection (selection : Selection) (primaryKey : String) :
    (document (selection.projection primaryKey)).projection primaryKey =
      selection.projection primaryKey := by
  cases filled : selection.isEmpty with
  | true =>
      rw [projection_of_empty filled]
      rfl
  | false =>
      have first := (projects_projection filled primaryKey).names
      have distinct : (selection.projection primaryKey).names.Nodup := by
        rw [(collects_projection filled primaryKey).eq_ofList]
        exact Fields.nodup_names_ofList _
      generalize selection.projection primaryKey = projection at first distinct ⊢
      obtain ⟨entries⟩ := projection
      obtain ⟨⟨name, value⟩, rest, rfl, rfl, -⟩ := List.map_eq_cons_iff.mp first
      exact projection_of_first distinct

/-- Selections mean the same in every form. Lists of names are one list with commas, and their names
are the pieces between the commas, as far as there is something to see. A projection is that of the
selection, is empty with it, and is its own projection. -/
theorem selections_agree :
    (∀ lists : List String,
      ofLists lists = ofList (",".intercalate lists) ∧
        ∀ name ∈ (ofLists lists).toNames, IsName name) ∧
    (∀ pieces : List String, (∀ piece ∈ pieces, ',' ∉ piece.toList) →
      (ofLists pieces).toNames = (pieces.map Text.trim).filter (· ≠ "")) ∧
    ∀ (selection : Selection) (primaryKey : String),
      let projection := selection.projection primaryKey
      projection.isEmpty = selection.isEmpty ∧
        (selection.isEmpty = false → selection.Projects primaryKey projection) ∧
        (document projection).projection primaryKey = projection := by
  refine ⟨?_, ?_, ?_⟩
  · intro lists
    refine ⟨?_, ?_⟩
    · rw [ofList, ofLists_singleton, namesIn_intercalate, ofLists]
    · intro name member
      obtain ⟨list, -, inside⟩ := List.mem_flatMap.mp member
      exact isName_of_mem_namesIn inside
  · intro pieces single
    exact flatMap_namesIn single
  · intro selection primaryKey
    exact ⟨isEmpty_projection selection primaryKey,
      fun filled => projects_projection filled primaryKey,
      projection_projection selection primaryKey⟩

/-- Blanks and empty pieces are passed over. A name that comes up again keeps its first place, and
the primary key comes before all others. -/
theorem selections_agree_of_pieces :
    let pieces := ["name", " age", "", "id ", "name"]
    (∀ piece ∈ pieces, ',' ∉ piece.toList) ∧
      (ofLists pieces).toNames = ["name", "age", "id", "name"] ∧
      (ofLists pieces).isEmpty = false ∧
      (ofLists pieces).Projects "id"
        ⟨[("id", .int32 1), ("name", .int32 1), ("age", .int32 1)]⟩ := by
  intro pieces
  have single : ∀ piece ∈ pieces, ',' ∉ piece.toList := by decide
  have filled : (ofLists pieces).isEmpty = false := by decide
  obtain ⟨-, listed, projected⟩ := selections_agree
  exact ⟨single, listed pieces single, filled, (projected (ofLists pieces) "id").2.1 filled⟩

end Selection

end DocQuery
