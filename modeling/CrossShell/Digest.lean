import CrossShell.Digest.Sha256
import CrossShell.Text.Hex

/-!
Content digests: the short name that a text gets from its content.
-/

set_option autoImplicit false

namespace CrossShell

/-- The first twenty hexadecimal digits of the SHA-256 hash of a text. -/
structure Digest where
  /-- The digits, in lower case. -/
  text : String
  deriving DecidableEq, Repr

namespace Digest

/-- How many digits a digest has. -/
def digitCount : Nat := 20

/-- The digest of a text. -/
def ofText (text : String) : Digest :=
  let digits := (Sha256.hash text.toUTF8.toList).flatMap fun b => Text.hexPair b.toNat
  ⟨String.ofList (digits.take digitCount)⟩

/-- The first digits, as a short label. -/
def label (d : Digest) : String :=
  String.ofList (d.text.toList.take 12)

end Digest

end CrossShell
