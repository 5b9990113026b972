import SparseFixture.FileSystem.Basic

/-!
# A file system to start from

The root directory with `dev` and its three devices, and an empty directory to work in.
-/

namespace SparseFixture

namespace FileSystem

/-- The directory to work in. -/
def workplace : Ino := 6

/-- A root directory that only the superuser may change, the devices, and an empty directory of the
owner in another directory of the owner. -/
def initial : FileSystem where
  inodes :=
    [⟨0o555, 1, .directory [(Bytes.ofText "dev", 1), (Bytes.ofText "home", 5)] root⟩,
      ⟨0o555, 1, .directory [(Bytes.ofText "null", 2), (Bytes.ofText "zero", 3),
        (Bytes.ofText "full", 4)] root⟩,
      ⟨0o666, 1, .device .null⟩,
      ⟨0o666, 1, .device .zero⟩,
      ⟨0o666, 1, .device .full⟩,
      ⟨0o755, 1, .directory [(Bytes.ofText "work", workplace)] root⟩,
      ⟨0o755, 1, .directory [] 5⟩]

end FileSystem

/-- A caller of a user in the directory to work in, with the usual mask and without limits. Its system
allocates one block of 4096 bytes to a file of which one byte has been written. -/
def Caller.initial (user : User) : Caller where
  user := user
  cwd := FileSystem.workplace
  umask := 0o022
  sizeLimit := none
  canOpen := true
  allocated length := if length = 0 then 0 else 4096

end SparseFixture
