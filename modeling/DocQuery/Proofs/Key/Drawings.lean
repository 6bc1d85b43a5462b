import DocQuery.Proofs.Key.Canonical
import Mathlib.Algebra.Group.Nat.Defs
import Mathlib.Data.List.Nodup

/-!
# Why identifiers are drawn

New identifiers come out of one source, one after another. They are drawn for two reasons: a text
under the primary key spells no identifier, or a document that is to be stored has none. A drawing
is an identifier together with its reason, and drawings are listed in the order in which they
happen.

The reasons can be told from what the caller wrote, field by field, without the source. That the
identifiers are the next ones of the source is said apart from them, for sources of every kind: so
there are as many drawings as identifiers that have left the source, and no others.
-/

namespace DocQuery

variable {τ : Type}

namespace Codec

/-- Identifiers that are drawn from a source one after another, and the source after them. -/
inductive Mints (codec : Codec τ) : τ → List Value → τ → Prop where
  | nil (source : τ) : Mints codec source [] source
  | cons {source after : τ} {ids : List Value}
      (rest : Mints codec (codec.mint source).2 ids after) :
      Mints codec source ((codec.mint source).1 :: ids) after

/-- The identifier that a source gives out behind a number of others. -/
def nth (codec : Codec τ) (source : τ) : Nat → Value
  | 0 => (codec.mint source).1
  | n + 1 => codec.nth (codec.mint source).2 n

/-- A source does not repeat itself within a number of identifiers. -/
def Distinct (codec : Codec τ) (source : τ) (number : Nat) : Prop :=
  ∀ i < number, ∀ j < number, codec.nth source i = codec.nth source j → i = j

namespace Mints

variable {codec : Codec τ} {source between after : τ} {ids later : List Value}

theorem append (first : codec.Mints source ids between) (rest : codec.Mints between later after) :
    codec.Mints source (ids ++ later) after := by
  induction first with
  | nil source => exact rest
  | cons _ ih => exact .cons (ih rest)

theorem eq_map_nth (mints : codec.Mints source ids after) :
    ids = (List.range ids.length).map (codec.nth source) := by
  induction mints with
  | nil source => rfl
  | cons rest ih =>
      rw [List.length_cons, List.range_succ_eq_map, List.map_cons, List.map_map]
      exact congrArg _ ih

/-- Identifiers of a source that does not repeat itself are different. -/
theorem nodup (mints : codec.Mints source ids after)
    (distinct : codec.Distinct source ids.length) : ids.Nodup := by
  rw [mints.eq_map_nth]
  refine List.Nodup.map_on ?_ List.nodup_range
  intro i inside j within same
  exact distinct i (List.mem_range.mp inside) j (List.mem_range.mp within) same

end Mints

end Codec

/-! ## A source that counts -/

/-- A number is known by its low bytes if it has no others. -/
theorem ObjectId.bigEndian_injective {width m n : Nat} (small : m < 256 ^ width)
    (bounded : n < 256 ^ width) (same : bigEndian width m = bigEndian width n) : m = n := by
  induction width generalizing m n with
  | zero => omega
  | succ width ih =>
      rw [Nat.pow_succ] at small bounded
      obtain ⟨high, low⟩ := List.append_inj same (by simp)
      have quotients := ih (by omega) (by omega) high
      have remainders : m % 256 = n % 256 := by
        simpa using congrArg UInt8.toNat (List.singleton_inj.mp low)
      omega

namespace Codec

theorem nth_counting (given n : Nat) :
    counting.nth given n = .objectId (.ofNat (given + n + 1)) := by
  induction n generalizing given with
  | zero => rfl
  | succ n ih =>
      have next : counting.nth given (n + 1) = counting.nth (given + 1) n := rfl
      rw [next, ih, Nat.add_right_comm given 1 n, Nat.add_assoc given n 1]

/-- Identifiers that are counted do not repeat themselves while they fit into their bytes. -/
theorem distinct_counting {given number : Nat} (fits : given + number < 256 ^ 12) :
    counting.Distinct given number := by
  intro i inside j within same
  rw [nth_counting, nth_counting] at same
  have bytes := congrArg ObjectId.bytes (Value.objectId.inj same)
  have counted := ObjectId.bigEndian_injective (by omega) (by omega) bytes
  omega

theorem Mints.eq_add_length {given after : Nat} {ids : List Value}
    (mints : counting.Mints given ids after) : after = given + ids.length := by
  induction mints with
  | nil given => rfl
  | @cons given after ids rest ih =>
      have next : (counting.mint given).2 = given + 1 := rfl
      rw [ih, next, List.length_cons, Nat.add_assoc, Nat.add_comm 1]

end Codec

/-! ## Drawings -/

inductive Reason where
  /-- A text under the primary key spells none. -/
  | misspelt (raw : String)
  /-- A document that is to be stored has none. -/
  | missing (document : Document)

structure Drawing where
  reason : Reason
  id : Value

/-- The document that is stored behind the identifier, if it is drawn for one. -/
def Drawing.stored? (drawing : Drawing) : Option Document :=
  match drawing.reason with
  | .misspelt _ => none
  | .missing document => some ⟨("_id", drawing.id) :: document.entries⟩

/-- The operators of an update in its brief form, field by field. -/
def FieldUpdate.operators (raw : Document) : List String :=
  raw.entries.map fun entry => (ofValue entry.2).parts.1

/-- The operands of an update in its brief form, each under the name of its field. -/
def FieldUpdate.operands (raw : Document) : List (String × Value) :=
  raw.entries.map fun entry => (entry.1, (ofValue entry.2).parts.2)

/-- Operands under the operators that belong to them. -/
def UpdateDocument.sort (update : UpdateDocument) (operators : List String)
    (operands : List (String × Value)) : UpdateDocument :=
  (operators.zip operands).foldl (fun update entry => update.add entry.1 entry.2.1 entry.2.2) update

namespace PrimaryKey

/-- The canonical form of fields, and what is drawn for it: one identifier for each text under the
primary key that spells none. It stands in the place of the text. -/
inductive Canonizes (key : PrimaryKey τ) :
    List (String × Value) → List Drawing → List (String × Value) → Prop where
  | nil : Canonizes key [] [] []
  | replace {name raw : String} {fault : Fault} {entries canonical : List (String × Value)}
      {drawings : List Drawing} (named : Text.trim name = key.field)
      (misspelt : key.codec.ofText raw = .error fault) (id : Value)
      (rest : Canonizes key entries drawings canonical) :
      Canonizes key ((name, .string raw) :: entries) (⟨.misspelt raw, id⟩ :: drawings)
        ((key.field, id) :: canonical)
  | read {name raw : String} {id : Value} {entries canonical : List (String × Value)}
      {drawings : List Drawing} (named : Text.trim name = key.field)
      (spelt : key.codec.ofText raw = .ok id) (rest : Canonizes key entries drawings canonical) :
      Canonizes key ((name, .string raw) :: entries) drawings ((key.field, id) :: canonical)
  | keep {name : String} {value : Value} {entries canonical : List (String × Value)}
      {drawings : List Drawing}
      (other : Text.trim name = key.field → ∀ raw, value ≠ .string raw)
      (rest : Canonizes key entries drawings canonical) :
      Canonizes key ((name, value) :: entries) drawings ((Text.trim name, value) :: canonical)

variable {key : PrimaryKey τ}

/-- Names lose the blanks around them. -/
theorem Canonizes.map_fst {entries canonical : List (String × Value)} {drawings : List Drawing}
    (canonizes : key.Canonizes entries drawings canonical) :
    canonical.map Prod.fst = entries.map fun entry => Text.trim entry.1 := by
  induction canonizes with
  | nil => rfl
  | replace named _ _ _ ih => rw [List.map_cons, List.map_cons, ih, named]
  | read named _ _ ih => rw [List.map_cons, List.map_cons, ih, named]
  | keep _ _ ih => rw [List.map_cons, List.map_cons, ih]

/-- For the fields of a document no document is stored. -/
theorem Canonizes.filterMap_stored? {entries canonical : List (String × Value)}
    {drawings : List Drawing} (canonizes : key.Canonizes entries drawings canonical) :
    drawings.filterMap Drawing.stored? = [] := by
  induction canonizes with
  | nil => rfl
  | replace _ _ _ _ ih => exact ih
  | read _ _ _ ih => exact ih
  | keep _ _ ih => exact ih

variable (key)

theorem canonicalEntry_string {name raw : String} (named : Text.trim name = key.field)
    (source : τ) :
    key.canonicalEntry (name, .string raw) source =
      ((key.field, (key.codec.readOrMint raw source).1), (key.codec.readOrMint raw source).2) := by
  simp only [canonicalEntry, canonicalValue, named, if_true]
  rfl

/-- Fields are brought into canonical form with the next identifiers of the source, one for each
drawing. -/
theorem exists_canonizes (entries : List (String × Value)) (source : τ) :
    ∃ drawings, key.Canonizes entries drawings (entries.mapM key.canonicalEntry source).1 ∧
      key.codec.Mints source (drawings.map Drawing.id)
        (entries.mapM key.canonicalEntry source).2 := by
  induction entries generalizing source with
  | nil => exact ⟨[], .nil, .nil source⟩
  | cons entry entries ih =>
      obtain ⟨name, value⟩ := entry
      rw [Traversal.mapM_cons]
      -- Only a text under the primary key is looked at, and only one that spells nothing draws.
      by_cases text : Text.trim name = key.field ∧ ∃ raw, value = .string raw
      · obtain ⟨named, raw, rfl⟩ := text
        rw [key.canonicalEntry_string named, Codec.readOrMint]
        cases spelt : key.codec.ofText raw with
        | ok id =>
            obtain ⟨drawings, canonizes, mints⟩ := ih source
            exact ⟨drawings, .read named spelt canonizes, mints⟩
        | error fault =>
            obtain ⟨drawings, canonizes, mints⟩ := ih (key.codec.mint source).2
            exact ⟨⟨.misspelt raw, _⟩ :: drawings, .replace named spelt _ canonizes, .cons mints⟩
      · have other : Text.trim name = key.field → ∀ raw, value ≠ .string raw :=
          fun named raw same => text ⟨named, raw, same⟩
        rw [key.canonicalEntry_of_other other]
        obtain ⟨drawings, canonizes, mints⟩ := ih source
        exact ⟨drawings, .keep other canonizes, mints⟩

/-- An update draws what its operands draw, and only then they are sorted under their operators. -/
theorem foldlM_addEntry_eq (entries : List (String × Value)) (update : UpdateDocument)
    (source : τ) :
    entries.foldlM key.addEntry update source =
      let canonical := (FieldUpdate.operands ⟨entries⟩).mapM key.canonicalEntry source
      (update.sort (FieldUpdate.operators ⟨entries⟩) canonical.1, canonical.2) := by
  induction entries generalizing update source with
  | nil => rfl
  | cons entry entries ih =>
      rw [Traversal.foldlM_cons, ih]
      have operands : FieldUpdate.operands ⟨entry :: entries⟩ =
          (entry.1, (FieldUpdate.ofValue entry.2).parts.2) :: FieldUpdate.operands ⟨entries⟩ := rfl
      rw [operands, Traversal.mapM_cons]
      rfl

theorem sortedUpdate_eq (raw : Document) (source : τ) :
    key.sortedUpdate raw source =
      let canonical := (FieldUpdate.operands raw).mapM key.canonicalEntry source
      (UpdateDocument.empty.sort (FieldUpdate.operators raw) canonical.1, canonical.2) :=
  key.foldlM_addEntry_eq raw.entries .empty source

end PrimaryKey

end DocQuery
