import SparseFixture.FileSystem.Layout
import SparseFixture.Proofs.Fixture.Histories

/-!
# Modes

The mode of a file is chosen when it is made. From then on no call changes who may read, write or
execute it, whatever masks the callers have and whatever becomes of their calls.
-/

namespace SparseFixture

open FileSystem

namespace Mode

/- The right to execute, and every right of the group and of the others. -/
def reserved : Mode := 0o177

theorem and_reserved_of_access {m m' : Mode} (h : m' &&& access = m &&& access) :
    m' &&& reserved = m &&& reserved := by
  have hbits : access &&& reserved = reserved := by decide
  rw [← hbits, ← BitVec.and_assoc, h, BitVec.and_assoc]

end Mode

/-! ### Access bits -/

def FileSystem.access? (fs : FileSystem) (i : Ino) : Option Mode :=
  (fs.inode? i).map fun inode => inode.mode &&& Mode.access

theorem access?_of_outline {fs fs' : FileSystem} (h : fs'.outline = fs.outline) (i : Ino) :
    fs'.access? i = fs.access? i := by
  have houtline : ∀ fs : FileSystem, (fs.outline.inode? i).map Inode.mode = fs.access? i := by
    intro fs
    rw [inode?_outline, Option.map_map]
    rfl
  rw [← houtline fs', h, houtline fs]

theorem access?_of_bare {fs fs' : FileSystem} {i : Ino}
    (h : fs'.bare.inode? i = fs.bare.inode? i) : fs'.access? i = fs.access? i := by
  have hbare : ∀ fs : FileSystem,
      (fs.bare.inode? i).map (fun inode => inode.mode &&& Mode.access) = fs.access? i := by
    intro fs
    rw [inode?_bare, Option.map_map]
    exact congrArg (Option.map · _) (funext fun inode => by simp only [Function.comp, Inode.mode_bare])
  rw [← hbare fs', h, hbare fs]

theorem mode_of_access? {fs : FileSystem} {i : Ino} {m : Mode} (h : fs.access? i = some m) :
    fs.mode i &&& Mode.access = m := by
  obtain ⟨inode, hi, rfl⟩ := Option.map_eq_some_iff.mp h
  rw [mode, hi]
  rfl

theorem access?_eq_none_iff {fs : FileSystem} {i : Ino} :
    fs.access? i = none ↔ fs.inode? i = none :=
  Option.map_eq_none_iff

/-! ### One call -/

theorem Fixture.mode_without_access (umask : Mode) :
    Fixture.mode.without umask &&& Mode.access = Fixture.mode.without umask := by
  rw [Mode.without_and]
  rfl

theorem Fixture.mode_without_reserved (umask : Mode) :
    Fixture.mode.without umask &&& Mode.reserved = 0 := by
  have hbits : Fixture.mode &&& Mode.reserved = 0 := by decide
  rw [Mode.without_and, hbits]
  exact BitVec.zero_and

namespace Change

variable {fs fs' : FileSystem} {p : Caller} {place : Option Place} {i : Ino}

theorem access (C : Change fs p place fs') {m : Mode} (h : fs.access? i = some m) :
    fs'.access? i = some m := by
  rw [← h]
  cases C with
  | none => rfl
  | rewritten hn _ => exact access?_of_outline (outline_rewritten p.user _ hn) i
  | added hfree _ =>
    have hi : i ≠ fs.fresh := by
      intro hi
      rw [hi, access?, inode?_fresh] at h
      cases h
    exact access?_of_bare ((addition p _ hfree).bare_of_ne hi)

theorem reserved (C : Change fs p place fs') (i : Ino) :
    fs'.mode i &&& Mode.reserved = fs.mode i &&& Mode.reserved := by
  cases h : fs.access? i with
  | some m =>
    apply Mode.and_reserved_of_access
    rw [mode_of_access? (C.access h), mode_of_access? h]
  | none =>
    -- what was not there has no rights at all, and what is new has none of these
    have hold := access?_eq_none_iff.mp h
    cases hnew : fs'.inode? i with
    | none => rw [mode, mode, hold, hnew]
    | some inode =>
      obtain ⟨c, _, rfl⟩ := C.new hold hnew
      have hmode : fs'.mode i = Fixture.mode.without p.umask := by
        rw [mode, hnew]
        rfl
      have hzero : fs.mode i = 0 := by
        rw [mode, hold]
        rfl
      rw [hmode, hzero, Fixture.mode_without_reserved]
      rfl

end Change

/-! ### Whole histories -/

namespace Session

variable {i : Ino}

theorem play_append (s : Session) (before after : List (Caller × Call)) :
    s.play (before ++ after) = (s.play before).play after :=
  List.foldl_append

theorem access_play (s : Session) (history : List (Caller × Call)) {m : Mode}
    (h : s.files.access? i = some m) : (s.play history).files.access? i = some m := by
  induction history generalizing s with
  | nil => exact h
  | cons next history ih =>
    have hstep := (Change.of_call next.2 { s with caller := next.1 }).access h
    exact ih _ hstep

theorem reserved_play (s : Session) (history : List (Caller × Call)) (i : Ino) :
    (s.play history).files.mode i &&& Mode.reserved = s.files.mode i &&& Mode.reserved := by
  induction history generalizing s with
  | nil => rfl
  | cons next history ih =>
    have hstep := (Change.of_call next.2 { s with caller := next.1 }).reserved i
    exact (ih _).trans hstep

end Session

/-- A run keeps the access bits of every inode, and what it adds is a regular file whose mode is that
of the fixture without the mask of the caller. So in every history the bits of a file are those with
which it was made, and no call gives anything a right to execute or a right of the group or of the
others. -/
theorem access_fixed_at_creation :
    (∀ fs p path i m, fs.access? i = some m →
      (Fixture.generateAt fs p path).files.access? i = some m) ∧
    (∀ fs p path i inode, fs.inode? i = none →
      (Fixture.generateAt fs p path).files.inode? i = some inode →
      inode.mode = (0o600 : Mode).without p.umask ∧ ∃ c, inode.node = .regular c) ∧
    (∀ (s : Session) (before after : List (Caller × Call)) p call i inode,
      (s.play before).files.inode? i = none →
      (s.play (before ++ [(p, call)])).files.inode? i = some inode →
      inode.mode = (0o600 : Mode).without p.umask ∧
        (s.play (before ++ (p, call) :: after)).files.access? i = some inode.mode) ∧
    (∀ (s : Session) (history : List (Caller × Call)) i m, s.files.access? i = some m →
      (s.play history).files.access? i = some m) ∧
    ∀ (s : Session) (history : List (Caller × Call)) i,
      (s.play history).files.mode i &&& 0o177 = s.files.mode i &&& 0o177 := by
  refine ⟨fun fs p path i m h => ?_, fun fs p path i inode h h' => ?_,
    fun s before after p call i inode h h' => ?_, fun s history i m h => s.access_play history h,
    fun s history i => s.reserved_play history i⟩
  · exact (Change.of_generateAt fs p path).access h
  · obtain ⟨c, _, rfl⟩ := (Change.of_generateAt fs p path).new h h'
    exact ⟨rfl, c, rfl⟩
  · rw [Session.play_append] at h'
    have C := Change.of_call call { s.play before with caller := p }
    obtain ⟨c, _, rfl⟩ := C.new h h'
    refine ⟨rfl, ?_⟩
    have hsplit : before ++ (p, call) :: after = (before ++ [(p, call)]) ++ after := by simp
    rw [hsplit, Session.play_append, Session.play_append]
    apply Session.access_play
    rw [access?, h', Option.map_some]
    exact congrArg some (Fixture.mode_without_access p.umask)

/- The mask takes the right to write from its new files, and the limit is one byte short. -/
def cramped : Caller :=
  { Caller.initial .owner with umask := 0o277, sizeLimit := some (Fixture.size - 1) }

theorem mode_of_file_left_behind :
    (Fixture.generateAt Fixture.dangling cramped (Bytes.ofText "link")).result =
      .error (.write Fixture.lastOffset (.os Errno.tooLarge)) ∧
    Fixture.dangling.inode? Fixture.dangling.fresh = none ∧
    (Fixture.generateAt Fixture.dangling cramped (Bytes.ofText "link")).files.inode?
      Fixture.dangling.fresh = some ⟨0o400, 1, .regular .empty⟩ ∧
    (0o400 : Mode) = (0o600 : Mode).without cramped.umask ∧
    Fixture.dangling.access? workplace = some 0o755 ∧
    (Fixture.generateAt Fixture.dangling cramped (Bytes.ofText "link")).files.access? workplace =
      some 0o755 := by
  have hnew : Fixture.dangling.inode? Fixture.dangling.fresh = none := inode?_fresh _
  have hfile : (Fixture.generateAt Fixture.dangling cramped (Bytes.ofText "link")).files.inode?
      Fixture.dangling.fresh = some ⟨0o400, 1, .regular .empty⟩ := by rfl
  have haccess : Fixture.dangling.access? workplace = some 0o755 := by rfl
  refine ⟨by rfl, hnew, hfile, ?_, haccess, ?_⟩
  · exact (access_fixed_at_creation.2.1 _ _ _ _ _ hnew hfile).1
  · exact access_fixed_at_creation.1 _ _ _ _ _ haccess

end SparseFixture
