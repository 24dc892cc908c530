import SafeMigration.Digest.Sha256

/-!
Digests of contents: the lowercase hexadecimal SHA-256 of some bytes.

A digest read from a ledger is any text; only `Digest.of` promises the hexadecimal form.
-/

namespace SafeMigration

/-- The digest of a content, as text. -/
structure Digest where
  hex : String
  deriving DecidableEq, Repr, Inhabited

namespace Digest

/-- The digest of bytes. -/
def of (bytes : ByteArray) : Digest := ⟨String.ofList (Sha256.hash bytes.toList)⟩

/-- The digest of a text's UTF-8 bytes. -/
def ofText (text : String) : Digest := of text.toUTF8

/-- The first so many characters. -/
def short (digest : Digest) (count : Nat) : String :=
  String.ofList (digest.hex.toList.take count)

end Digest

end SafeMigration
