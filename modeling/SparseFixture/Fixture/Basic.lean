import SparseFixture.Mode
import SparseFixture.Utf8

/-!
# The fixture and its path

The fixture is a file of 4 MiB that holds zeros only, under a fixed name.
-/

namespace SparseFixture

namespace Fixture

/-- The name of the fixture. -/
def name : String := "test.pma"

/-- The name of the fixture, as bytes. -/
def nameBytes : Bytes := Bytes.ofText name

/-- The length of the fixture. -/
def size : Nat := 4 * 1024 * 1024

/-- The permission bits with which the fixture is created. -/
def mode : Mode := 0o600

/-- The offset of the last byte, the only one that is written. -/
def lastOffset : Nat := size - 1

/-- The path of the fixture in a directory. Nothing of the directory's path is changed; a slash is
put between only if the path needs one. -/
def path (dir : Bytes) : Bytes :=
  if dir = [] ∨ Bytes.endsWithSlash dir then dir ++ nameBytes
  else dir ++ Bytes.slash :: nameBytes

end Fixture

end SparseFixture
