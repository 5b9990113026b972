import SparseFixture.FileSystem.Basic

/-!
# Paths and where they lead

A path is a text of names with slashes between them. `walk` follows names through directories, each
of which the user has to be able to search; a symbolic link on the way is replaced by the names of
its target. `locate` follows a path to the place of its final name, which may exist or not. At most
`maxLinks` links are followed on one way.
-/

namespace SparseFixture

namespace Path

/-- The names of a path, from first to last. -/
def components (path : Bytes) : List Bytes := (path.splitOn Bytes.slash).filter (· ≠ [])

/-- Whether a path starts at the root. -/
def isAbsolute (path : Bytes) : Bool := path.head? == some Bytes.slash

/-- The longest name that a directory can hold. -/
def maxName : Nat := 255

/-- Paths of this length or more are refused. -/
def tooLong : Nat := 4096

end Path

/-- Where a path leads: to something that exists and is no symbolic link, or to a name that is still
free in a directory. -/
inductive Place where
  | present (i : Ino)
  | absent (dir : Ino) (name : Bytes)
deriving DecidableEq, Repr

namespace FileSystem

/-- How many symbolic links one way may follow. -/
def maxLinks : Nat := 40

/-- The directory from which a path that is read in `dir` starts. -/
def startOf (dir : Ino) (path : Bytes) : Ino := if Path.isAbsolute path then root else dir

/-- To look up anything in a directory, the user has to be able to search it. -/
def search (fs : FileSystem) (u : User) (dir : Ino) : Except Int Unit :=
  if u.may Mode.ownerSearch (fs.mode dir) then .ok () else .error Errno.accessDenied

/-- What a proper name stands for in a directory. In a directory that has lost its own name nothing
can be found. -/
def look (fs : FileSystem) (dir : Ino) (name : Bytes) : Except Int (Option Ino) :=
  match fs.inode? dir with
  | some ⟨_, links, .directory es _⟩ =>
    if links = 0 then .error Errno.noEntry
    else if Path.maxName < name.length then .error Errno.nameTooLong
    else .ok (es.lookup name)
  | _ => .error Errno.notDirectory

theorem look_eq_ok {fs : FileSystem} {dir : Ino} {name : Bytes} {r : Option Ino}
    (h : fs.look dir name = .ok r) : fs.child? dir name = r := by
  unfold look at h
  split at h
  · rename_i hd
    split at h
    · cases h
    · split at h
      · cases h
      · cases h
        simp only [child?, entries, node?, hd, Option.map_some]
  · cases h

/-! ### Through directories -/

/-- How a way goes on after a name: in a directory, or along the target of a symbolic link. -/
inductive Turn where
  | into (dir : Ino)
  | along (target : Bytes)
deriving DecidableEq, Repr

/-- Takes one name that is not the final one. -/
def turn (fs : FileSystem) (u : User) (dir : Ino) (name : Bytes) : Except Int Turn := do
  fs.search u dir
  if name = Bytes.dot then .ok (.into dir)
  else if name = Bytes.dotDot then .ok (.into (fs.parent dir))
  else
    match ← fs.look dir name with
    | none => .error Errno.noEntry
    | some i =>
      match fs.node? i with
      | some (.directory _ _) => .ok (.into i)
      | some (.symlink target) => .ok (.along target)
      | some _ => .error Errno.notDirectory
      | none => .error Errno.noEntry

/-- Takes names one after the other, up to the first symbolic link, which is left to `follow`. The
answer is the directory reached and how many links may still be followed. -/
def walkNames (fs : FileSystem) (u : User) (left : Nat)
    (follow : Ino → List Bytes → Except Int (Ino × Nat)) :
    Ino → List Bytes → Except Int (Ino × Nat)
  | dir, [] => .ok (dir, left)
  | dir, name :: rest =>
    match fs.turn u dir name with
    | .error e => .error e
    | .ok (.into d) => fs.walkNames u left follow d rest
    | .ok (.along target) => follow (startOf dir target) (Path.components target ++ rest)

/-- Takes all names, following at most as many links as are left. -/
def walk (fs : FileSystem) (u : User) : Nat → Ino → List Bytes → Except Int (Ino × Nat)
  | 0 => fs.walkNames u 0 fun _ _ => .error Errno.linkLoop
  | left + 1 => fs.walkNames u (left + 1) (fs.walk u left)

/-- The directory that a path leads to. -/
def directory (fs : FileSystem) (u : User) (dir : Ino) (path : Bytes) : Except Int Ino :=
  (fs.walk u maxLinks (startOf dir path) (Path.components path)).map Prod.fst

/-! ### To the final name -/

/-- What the final name of a path text turns out to be. -/
inductive Arrival where
  | at (place : Place)
  | link (dir : Ino) (target : Bytes) (left : Nat)
deriving DecidableEq, Repr

/-- Follows one path text to its final name. A final name that is a dot or two dots, or that is
followed by a slash, can only be that of a directory, and so can a path without any name. -/
def arrive (fs : FileSystem) (u : User) (left : Nat) (dir : Ino) (path : Bytes) :
    Except Int Arrival :=
  match (Path.components path).getLast? with
  | none => .error Errno.isDirectory
  | some name => do
    let (d, left) ← fs.walk u left (startOf dir path) (Path.components path).dropLast
    fs.search u d
    if Bytes.endsWithSlash path ∨ name = Bytes.dot ∨ name = Bytes.dotDot then
      .error Errno.isDirectory
    else
      match ← fs.look d name with
      | none => .ok (.at (.absent d name))
      | some i =>
        match fs.node? i with
        | some (.symlink target) => .ok (.link d target left)
        | some _ => .ok (.at (.present i))
        | none => .error Errno.noEntry

/-- Follows a path and the symbolic links at its end. Each of these links spends one of those left,
so `hops` of them are enough if `hops` is at least `left`. -/
def locateFrom (fs : FileSystem) (u : User) : Nat → Nat → Ino → Bytes → Except Int Place
  | hops, left, dir, path =>
    match fs.arrive u left dir path with
    | .error e => .error e
    | .ok (.at place) => .ok place
    | .ok (.link d target rest) =>
      match hops, rest with
      | hops + 1, rest + 1 => fs.locateFrom u hops rest d target
      | _, _ => .error Errno.linkLoop

/-- Where a path leads that is read in the directory `dir`. -/
def locate (fs : FileSystem) (u : User) (dir : Ino) (path : Bytes) : Except Int Place :=
  fs.locateFrom u maxLinks maxLinks dir path

end FileSystem

end SparseFixture
