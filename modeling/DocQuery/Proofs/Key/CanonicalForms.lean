import DocQuery.Proofs.Document.Collecting
import DocQuery.Proofs.Key.Drawings

/-!
# What canonical documents are

The canonical form of a raw document is told field by field, and then by the order of the names. Each
field has its own canonical value, and the values under one name are collected: the name stands where
it came up first, and has the value that came up last. Identifiers are drawn field by field too, so
one is drawn for a misspelt text even if a later field takes its place.

This says what the canonical form is without saying how it is computed, and nothing else meets it.
-/

namespace DocQuery

variable {τ : Type}

namespace PrimaryKey

/-- The canonical form of a raw document, and the source of identifiers behind it. -/
structure Normalizes (key : PrimaryKey τ) (raw : Document) (source : τ) (document : Document)
    (after : τ) : Prop where
  /-- The names lose the blanks around them. Each stands once, where it comes up first. -/
  names : document.names = (raw.entries.map fun entry => Text.trim entry.1).eraseDups
  /-- Field by field there is a canonical value, for which an identifier may be drawn; the last one
  of each name stays. -/
  values : ∃ drawings canonical,
    key.Canonizes raw.entries drawings canonical ∧
    key.codec.Mints source (drawings.map Drawing.id) after ∧
    ∀ name, document.get? name = ((canonical.filter (·.1 = name)).getLast?).map Prod.snd

variable {key : PrimaryKey τ}

/-- A field has one canonical value, and its drawing is the next identifier of the source. -/
theorem Canonizes.unique {entries canonical others : List (String × Value)}
    {drawings drawn : List Drawing} (canonizes : key.Canonizes entries drawings canonical)
    (also : key.Canonizes entries drawn others) {source after last : τ}
    (mints : key.codec.Mints source (drawings.map Drawing.id) after)
    (minted : key.codec.Mints source (drawn.map Drawing.id) last) :
    canonical = others ∧ after = last := by
  induction canonizes generalizing drawn others source with
  | nil =>
      cases also
      cases mints
      cases minted
      exact ⟨rfl, rfl⟩
  | replace named misspelt id rest ih =>
      cases also with
      | replace _ _ _ later =>
          cases mints with
          | cons next =>
              cases minted with
              | cons following =>
                  obtain ⟨rfl, rfl⟩ := ih later next following
                  exact ⟨rfl, rfl⟩
      | read _ spelt _ =>
          rw [misspelt] at spelt
          contradiction
      | keep other _ => exact absurd rfl (other named _)
  | read named spelt rest ih =>
      cases also with
      | replace _ misspelt _ _ =>
          rw [spelt] at misspelt
          contradiction
      | read _ same later =>
          obtain rfl := Except.ok.inj (spelt.symm.trans same)
          obtain ⟨rfl, rfl⟩ := ih later mints minted
          exact ⟨rfl, rfl⟩
      | keep other _ => exact absurd rfl (other named _)
  | keep other rest ih =>
      cases also with
      | replace named _ _ _ => exact absurd rfl (other named _)
      | read named _ _ => exact absurd rfl (other named _)
      | keep _ later =>
          obtain ⟨rfl, rfl⟩ := ih later mints minted
          exact ⟨rfl, rfl⟩

theorem Normalizes.exists_collects {raw document : Document} {source after : τ}
    (normalizes : key.Normalizes raw source document after) :
    ∃ drawings canonical,
      key.Canonizes raw.entries drawings canonical ∧
      key.codec.Mints source (drawings.map Drawing.id) after ∧
      document.Collects canonical := by
  obtain ⟨drawings, canonical, canonizes, mints, values⟩ := normalizes.values
  have names : document.names = (canonical.map Prod.fst).eraseDups := by
    rw [normalizes.names, canonizes.map_fst]
  exact ⟨drawings, canonical, canonizes, mints, ⟨names, values⟩⟩

variable (key)

theorem normalizes_canonicalFilter (raw : Document) (source : τ) :
    key.Normalizes raw source (key.canonicalFilter raw source).1
      (key.canonicalFilter raw source).2 := by
  obtain ⟨drawings, canonizes, mints⟩ := key.exists_canonizes raw.entries source
  have collects := Fields.collects_ofList (raw.entries.mapM key.canonicalEntry source).1
  constructor
  · rw [canonicalFilter_eq, collects.names, canonizes.map_fst]
  · exact ⟨drawings, _, canonizes, mints, collects.values⟩

/-- A raw document is brought into what it normalizes to, and it normalizes to nothing else. -/
theorem canonicalFilter_eq_iff {raw document : Document} {source after : τ} :
    key.canonicalFilter raw source = (document, after) ↔
      key.Normalizes raw source document after := by
  have normalizes := key.normalizes_canonicalFilter raw source
  constructor
  · intro same
    rw [same] at normalizes
    exact normalizes
  · intro also
    obtain ⟨_, _, canonizes, mints, collects⟩ := normalizes.exists_collects
    obtain ⟨_, _, canonized, minted, collected⟩ := also.exists_collects
    obtain ⟨rfl, rfl⟩ := canonizes.unique canonized mints minted
    apply Prod.ext
    · exact collects.eq_ofList.trans collected.eq_ofList.symm
    · rfl

/-- A raw document has one canonical form as a filter, with fields exactly if it has fields. As a
document to be inserted it has the same form; only without fields it is refused. -/
theorem canonical_forms (raw : Document) (source : τ) :
    let filter : Document × τ := key.canonicalFilter raw source
    (∀ document after, filter = (document, after) ↔ key.Normalizes raw source document after) ∧
      filter.1.isEmpty = raw.isEmpty ∧
      key.canonicalInsert raw source =
        (if raw.isEmpty then .error .emptyDocument else .ok filter.1, filter.2) := by
  refine ⟨fun document after => ?_, ?_, ?_⟩
  · exact key.canonicalFilter_eq_iff
  · exact key.isEmpty_canonicalFilter raw source
  · exact key.canonicalInsert_eq raw source

end PrimaryKey

end DocQuery
