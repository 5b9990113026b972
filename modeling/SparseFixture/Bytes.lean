/-!
# Byte strings

Paths, names, program arguments and file contents are byte strings: any byte may occur in them,
and nothing obliges them to be UTF-8. This module fixes the type, the few bytes that have a
meaning in a path, and the byte string of a text.
-/

namespace SparseFixture

/-- A string of bytes. -/
abbrev Bytes := List UInt8

namespace Bytes

/-- The byte that no path may hold. -/
def nul : UInt8 := 0x00

/-- The byte that separates the names of a path. -/
def slash : UInt8 := 0x2F

/-- The name by which a directory stands for itself. -/
def dot : Bytes := [0x2E]

/-- The name by which a directory stands for its parent. -/
def dotDot : Bytes := [0x2E, 0x2E]

/-- The UTF-8 bytes of a text. -/
def ofText (s : String) : Bytes := s.toList.flatMap String.utf8EncodeChar

/-- Whether the last byte is a slash; an empty string has none. -/
def endsWithSlash (bs : Bytes) : Bool := bs.getLast? == some slash

end Bytes

end SparseFixture
