import DocQuery.Document.Display
import DocQuery.Fault

/-!
# Identifiers

What identifies a document is opaque to a session. All it needs is a codec, which reads an
identifier from a text, gives out a new one, and writes one as a text. New identifiers come from a
source whose state the caller keeps.
-/

namespace DocQuery

/-- How identifiers are read, given out and written. -/
structure Codec (τ : Type) where
  ofText : String → Except Fault Value
  /-- The next new identifier, and the source after it. -/
  mint : τ → Value × τ
  toText : Value → String

namespace Codec

/-- The text of an identifier: the digits of an object identifier, a string itself, and the display
text of anything else. -/
def objectIdText : Value → String
  | .objectId id => id.toHex
  | .string s => s
  | other => other.text

def objectIdOfText (s : String) : Except Fault Value :=
  match ObjectId.parse s with
  | .ok id => .ok (.objectId id)
  | .error cause => .error (.invalidIdentifier (cause.message s))

/-- Object identifiers, with new ones taken from a source. -/
def objectId {τ : Type} (next : τ → ObjectId × τ) : Codec τ where
  ofText := objectIdOfText
  mint source := ((Value.objectId (next source).1), (next source).2)
  toText := objectIdText

/-- Object identifiers whose new ones are the numbers from one on. The source is the number of
identifiers given out so far. -/
def counting : Codec Nat :=
  objectId fun given => (.ofNat (given + 1), given + 1)

/-- Makes an identifier of a text. A text that names none is replaced by a new identifier, so that a
misspelt one matches nothing. -/
def readOrMint {τ : Type} (codec : Codec τ) (raw : String) : StateM τ Value := fun source =>
  match codec.ofText raw with
  | .ok id => (id, source)
  | .error _ => codec.mint source

end Codec

end DocQuery
