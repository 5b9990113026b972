import SparseFixture.FileSystem.Calls

/-!
# Preparing a file system

The calls by which a caller brings a file system into a wanted state: it makes files, directories,
links, pipes and sockets, changes modes, renames and removes. They are bound by permissions like any
other call, but not by the limits on opening and writing. A call that fails changes nothing.
-/

namespace SparseFixture

/-- Moves a directory under another parent; anything else has none. -/
def Inode.withParent (parent : Ino) (inode : Inode) : Inode :=
  match inode.node with
  | .directory es _ => { inode with node := .directory es parent }
  | _ => inode

/-- A caller without limits on opening and writing. -/
def Caller.unlimited (p : Caller) : Caller := { p with sizeLimit := none, canOpen := true }

namespace FileSystem

/-- Whether an inode is a directory. -/
def isDirectory (fs : FileSystem) (i : Ino) : Bool :=
  match fs.node? i with
  | some (.directory _ _) => true
  | _ => false

/-! ### Finding what to change -/

/-- The directory and the name of the entry that a path denotes. A symbolic link is not followed
if it is the entry itself. -/
def entryAt (fs : FileSystem) (p : Caller) (path : Bytes) : Except Int (Ino × Bytes) :=
  match (Path.components path).getLast? with
  | none => .error Errno.isDirectory
  | some name => do
    let (d, _) ← fs.walk p.user maxLinks (startOf p.cwd path) (Path.components path).dropLast
    fs.search p.user d
    if name = Bytes.dot ∨ name = Bytes.dotDot then .error Errno.invalid else .ok (d, name)

/-- What an entry stands for. -/
def entryInode (fs : FileSystem) (dir : Ino) (name : Bytes) : Except Int Ino := do
  match ← fs.look dir name with
  | none => .error Errno.noEntry
  | some i => .ok i

/-- The inode that a path leads to. A path that can only be that of a directory is followed as
one. -/
def existing (fs : FileSystem) (p : Caller) (path : Bytes) : Except Int Ino :=
  match fs.locate p.user p.cwd path with
  | .ok (.present i) => .ok i
  | .ok (.absent _ _) => .error Errno.noEntry
  | .error e =>
    if e = Errno.isDirectory then fs.directory p.user p.cwd path else .error e

/-- To change the entries of a directory, the user has to be able to write it. -/
def change (fs : FileSystem) (u : User) (dir : Ino) : Except Int Unit :=
  if u.may Mode.ownerWrite (fs.mode dir) then .ok () else .error Errno.accessDenied

/-- The directory and name of an entry that does not exist yet and may be made. -/
def freeEntry (fs : FileSystem) (p : Caller) (path : Bytes) : Except Int (Ino × Bytes) := do
  let (d, name) ← fs.entryAt p path
  match ← fs.look d name with
  | some _ => .error Errno.alreadyThere
  | none =>
    fs.change p.user d
    .ok (d, name)

/-! ### Making -/

/-- Makes a new inode under a path; it may depend on the directory that it is made in. -/
def make (fs : FileSystem) (p : Caller) (path : Bytes) (inode : Ino → Inode) :
    Except Int FileSystem := do
  let (d, name) ← fs.freeEntry p path
  .ok (fs.addChild d name (inode d))

/-- Makes a directory. -/
def makeDirectory (fs : FileSystem) (p : Caller) (path : Bytes) (mode : Mode) :
    Except Int FileSystem :=
  fs.make p path fun d => ⟨mode, 1, .directory [] d⟩

/-- Makes a symbolic link. -/
def makeSymlink (fs : FileSystem) (p : Caller) (path target : Bytes) : Except Int FileSystem :=
  fs.make p path fun _ => ⟨0o777, 1, .symlink target⟩

/-- Makes a pipe with a name. -/
def makeFifo (fs : FileSystem) (p : Caller) (path : Bytes) (mode : Mode) : Except Int FileSystem :=
  fs.make p path fun _ => ⟨mode, 1, .fifo⟩

/-- Makes a socket with a name. A name that is taken counts as an address in use. -/
def makeSocket (fs : FileSystem) (p : Caller) (path : Bytes) (mode : Mode) :
    Except Int FileSystem :=
  (fs.make p path fun _ => ⟨mode, 1, .socket⟩).mapError fun e =>
    if e = Errno.alreadyThere then Errno.addressInUse else e

/-- Gives the inode of one entry a further name. A directory has one name only. -/
def makeHardLink (fs : FileSystem) (p : Caller) (path target : Bytes) :
    Except Int FileSystem := do
  let (sd, sname) ← fs.entryAt p target
  let i ← fs.entryInode sd sname
  let (d, name) ← fs.freeEntry p path
  if fs.isDirectory i then .error Errno.notPermitted
  else .ok ((fs.enter d name i).modify i fun inode => { inode with links := inode.links + 1 })

/-! ### Files and modes -/

/-- Makes a regular file, or overwrites one, and sets its mode. -/
def putFile (fs : FileSystem) (p : Caller) (path : Bytes) (mode : Mode) (content : Content) :
    Except Cause FileSystem :=
  match fs.openTruncated p.unlimited mode path with
  | (.error c, _) => .error c
  | (.ok h, fs') =>
    .ok (fs'.modify h.ino fun inode =>
      { inode.withObject (.regular content) with mode := mode })

/-- Writes bytes at an offset into what a path leads to. Without a byte to write a file stays as it
is, however far behind its end the offset lies. -/
def patch (fs : FileSystem) (p : Caller) (path : Bytes) (offset : Nat) (bs : Bytes) :
    Except Int FileSystem := do
  let i ← fs.existing p path
  if fs.isDirectory i then .error Errno.isDirectory
  else if !p.user.may Mode.ownerWrite (fs.mode i) then .error Errno.accessDenied
  else
    match fs.node? i with
    | some (.regular c) =>
      if bs.isEmpty then .ok fs
      else
        .ok (fs.modify i fun inode =>
          { inode.emptied p.user with node := .regular (c.writeAt offset bs) })
    | some (.device _) => .ok fs
    | some .fifo => .error Errno.illegalSeek
    | _ => .error Errno.noDevice

/-- Sets the mode of what a path leads to. -/
def chmod (fs : FileSystem) (p : Caller) (path : Bytes) (mode : Mode) : Except Int FileSystem := do
  let i ← fs.existing p path
  .ok (fs.modify i fun inode => { inode with mode := mode })

/-! ### Renaming and removing -/

/-- Takes an entry out of a directory. -/
def leave (fs : FileSystem) (dir : Ino) (name : Bytes) : FileSystem :=
  fs.modify dir (Inode.mapEntries (·.filter (·.1 ≠ name)))

/-- Takes an entry out of a directory; the inode that it named counts one name less. -/
def unlink (fs : FileSystem) (dir : Ino) (name : Bytes) (i : Ino) : FileSystem :=
  (fs.leave dir name).modify i fun inode => { inode with links := inode.links - 1 }

/-- Whether one inode may take the name of another: a directory only that of an empty directory, and
anything else only that of something that is no directory. -/
def replaceable (fs : FileSystem) (i victim : Ino) : Except Int Unit :=
  if fs.isDirectory i && !fs.isDirectory victim then .error Errno.notDirectory
  else if !fs.isDirectory i && fs.isDirectory victim then .error Errno.isDirectory
  else if fs.entries victim ≠ [] then .error Errno.notEmpty
  else .ok ()

/-- Gives an entry another name, in the same directory or another. What had that name before loses
it. A directory that comes under another parent is itself written. -/
def rename (fs : FileSystem) (p : Caller) (path newPath : Bytes) :
    Except Int FileSystem := do
  let (sd, sname) ← fs.entryAt p path
  let (d, name) ← fs.entryAt p newPath
  let i ← fs.entryInode sd sname
  let victim ← fs.look d name
  if victim = some i then .ok fs
  else
    fs.change p.user sd
    fs.change p.user d
    if fs.isDirectory i && sd ≠ d then fs.change p.user i
    let cleared ← match victim with
      | none => .ok fs
      | some v => (fs.replaceable i v).map fun _ => fs.unlink d name v
    .ok (((cleared.leave sd sname).enter d name i).modify i (Inode.withParent d))

/-- Removes an entry. A directory has to be empty; it stays what it is for a caller that works in
it. -/
def remove (fs : FileSystem) (p : Caller) (path : Bytes) : Except Int FileSystem := do
  let (d, name) ← fs.entryAt p path
  let i ← fs.entryInode d name
  fs.change p.user d
  if fs.entries i = [] then .ok (fs.unlink d name i) else .error Errno.notEmpty

/-- The caller after it has gone to another directory, which it has to be able to search. -/
def moveTo (fs : FileSystem) (p : Caller) (dir : Ino) : Except Int Caller := do
  fs.search p.user dir
  .ok { p with cwd := dir }

/-- The caller after it has gone where a path leads. -/
def changeDirectory (fs : FileSystem) (p : Caller) (path : Bytes) : Except Int Caller := do
  let d ← fs.directory p.user p.cwd path
  fs.moveTo p d

end FileSystem

end SparseFixture
