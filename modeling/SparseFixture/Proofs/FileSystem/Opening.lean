import SparseFixture.Proofs.FileSystem.Changes

/-!
# What opening a path does

An opening that succeeds has made a new file, emptied a regular file, or touched nothing because the
path leads to a pipe or a device. An opening that fails has touched nothing at all.
-/

namespace SparseFixture

namespace FileSystem

variable {fs fs' : FileSystem} {p : Caller} {mode : Mode} {path : Bytes}

/-- The ways in which opening a path succeeds, each with the inode opened and the file system that
it leaves. -/
inductive Opening (fs : FileSystem) (p : Caller) (mode : Mode) (path : Bytes) :
    Ino → FileSystem → Prop
  | created {dir : Ino} {name : Bytes} :
      fs.locate p.user p.cwd path = .ok (.absent dir name) →
      p.user.may Mode.ownerWrite (fs.mode dir) = true →
      Opening fs p mode path fs.fresh (fs.addChild dir name (newFile mode p.umask))
  | emptied {i : Ino} {c : Content} :
      fs.locate p.user p.cwd path = .ok (.present i) → fs.node? i = some (.regular c) →
      p.user.may Mode.ownerWrite (fs.mode i) = true →
      Opening fs p mode path i (fs.modify i (Inode.emptied p.user))
  | untouched {i : Ino} {n : Node} :
      fs.locate p.user p.cwd path = .ok (.present i) → fs.node? i = some n →
      (n = .fifo ∨ ∃ d, n = .device d) → p.user.may Mode.ownerWrite (fs.mode i) = true →
      Opening fs p mode path i fs

theorem openPlace_of_error {place : Place} {e : Int}
    (h : fs.openPlace p mode place = (.error e, fs')) : fs' = fs := by
  cases place with
  | absent dir name =>
    rw [openPlace] at h
    split at h
    · cases h
    · cases h
      rfl
  | present i =>
    rw [openPlace] at h
    split at h
    · cases h
      rfl
    · cases h
      rfl
    · cases h
      rfl
    · split at h
      · cases h
        rfl
      · split at h <;> cases h
        rfl

theorem openTruncated_of_error {c : Cause} (h : fs.openTruncated p mode path = (.error c, fs')) :
    fs' = fs := by
  unfold openTruncated at h
  split at h
  · cases h
    rfl
  · split at h
    · cases h
      rfl
    · split at h
      · next ho =>
        cases h
        exact openPlace_of_error ho
      · cases h

theorem cause_of_openTruncated {c : Cause} (h : fs.openTruncated p mode path = (.error c, fs')) :
    c = .nulInPath ∨ ∃ e, c = .os e := by
  unfold openTruncated at h
  split at h
  · next hcheck =>
    cases h
    unfold checkPath at hcheck
    split at hcheck
    · cases hcheck
      exact .inl rfl
    · right
      split at hcheck
      · exact ⟨_, (Except.error.inj hcheck).symm⟩
      · split at hcheck
        · exact ⟨_, (Except.error.inj hcheck).symm⟩
        · split at hcheck
          · exact ⟨_, (Except.error.inj hcheck).symm⟩
          · cases hcheck
  · right
    split at h
    · cases h
      exact ⟨_, rfl⟩
    · split at h
      · cases h
        exact ⟨_, rfl⟩
      · cases h

theorem nul_mem_of_openTruncated (h : fs.openTruncated p mode path = (.error .nulInPath, fs')) :
    Bytes.nul ∈ path := by
  unfold openTruncated at h
  split at h
  · next hcheck =>
    cases h
    unfold checkPath at hcheck
    split at hcheck
    · next hnul => exact hnul
    · repeat' split at hcheck
      all_goals cases hcheck
  · split at h
    · cases h
    · split at h <;> cases h

theorem opening_of_openPlace {place : Place} {i : Ino}
    (hl : fs.locate p.user p.cwd path = .ok place)
    (h : fs.openPlace p mode place = (.ok i, fs')) : Opening fs p mode path i fs' := by
  cases place with
  | absent dir name =>
    rw [openPlace] at h
    split at h
    · next hw =>
      cases h
      exact .created hl hw
    · cases h
  | present j =>
    rw [openPlace] at h
    split at h
    · cases h
    · cases h
    · cases h
    · next n hdir hlink hn =>
      split at h
      · cases h
      · next hw =>
        have hw : p.user.may Mode.ownerWrite (fs.mode j) = true := by simpa using hw
        cases n with
        | directory es q => exact absurd rfl (hdir es q)
        | symlink t => exact absurd rfl (hlink t)
        | socket => cases h
        | regular c =>
          cases h
          exact .emptied hl hn hw
        | fifo =>
          cases h
          exact .untouched hl hn (.inl rfl) hw
        | device d =>
          cases h
          exact .untouched hl hn (.inr ⟨d, rfl⟩) hw

theorem opening_of_openTruncated {h : Handle}
    (ho : fs.openTruncated p mode path = (.ok h, fs')) :
    h.cursor = 0 ∧ Opening fs p mode path h.ino fs' := by
  unfold openTruncated at ho
  split at ho
  · cases ho
  · split at ho
    · cases ho
    · next hl =>
      split at ho
      · cases ho
      · next hp =>
        cases ho
        exact ⟨rfl, opening_of_openPlace hl hp⟩

theorem node?_emptied {i : Ino} {c : Content} (u : User) (hn : fs.node? i = some (.regular c)) :
    (fs.modify i (Inode.emptied u)).node? i = some (.regular .empty) := by
  obtain ⟨inode, hi, _⟩ := Option.map_eq_some_iff.mp hn
  rw [node?, inode?_modify, if_pos rfl, hi]
  rfl

theorem outline_withObject (fs : FileSystem) (i : Ino) (o : Object) :
    (fs.modify i (Inode.withObject o)).outline = fs.outline := by
  apply outline_modify
  rintro ⟨m, k, n⟩ _
  cases n <;> cases o <;> rfl

namespace Opening

variable {i : Ino}

theorem addition {dir : Ino} {name : Bytes} {u : User} {cwd : Ino} (umask : Mode)
    (hm : mode.has Mode.ownerSearch = false)
    (hl : fs.locate u cwd path = .ok (.absent dir name)) :
    Addition fs dir name (newFile mode umask) where
  free := look_of_locate hl
  regular := ⟨.empty, rfl⟩
  closed := Mode.not_has_without hm umask

theorem access_emptied (u : User) (inode : Inode) :
    (inode.emptied u).mode &&& Mode.access = inode.mode &&& Mode.access := by
  show (if u = .superuser then inode.mode else inode.mode.withoutSetId) &&& Mode.access = _
  split
  · rfl
  · exact Mode.withoutSetId_and_access inode.mode

theorem outline_emptied {u : User} {c : Content} (hn : fs.node? i = some (.regular c)) :
    (fs.modify i (Inode.emptied u)).outline = fs.outline := by
  apply outline_modify
  rintro ⟨m, k, n⟩ hi
  have hnode : n = .regular c := by
    rw [node?, hi] at hn
    exact Option.some.inj hn
  subst hnode
  have hmode := access_emptied u ⟨m, k, .regular c⟩
  rw [Inode.outline, Inode.outline, hmode]
  rfl

/-- What has been opened is what the path leads to afterwards. -/
theorem locate (O : Opening fs p mode path i fs') (hm : mode.has Mode.ownerSearch = false) :
    fs'.locate p.user p.cwd path = .ok (.present i) := by
  cases O with
  | created hl _ => exact (addition p.umask hm hl).locate_fresh hl
  | emptied hl hn _ => exact locate_of_outline (outline_emptied hn) hl
  | untouched hl _ _ _ => exact hl

theorem node (O : Opening fs p mode path i fs') (hm : mode.has Mode.ownerSearch = false) :
    fs'.node? i = some (.regular .empty) ∨ fs'.node? i = some .fifo ∨
      ∃ d, fs'.node? i = some (.device d) := by
  cases O with
  | created hl _ =>
    left
    rw [node?, (addition p.umask hm hl).inode?_fresh]
    rfl
  | emptied hl hn _ =>
    exact .inl (node?_emptied p.user hn)
  | untouched hl hn hkind _ =>
    right
    rcases hkind with rfl | ⟨d, rfl⟩
    · exact .inl hn
    · exact .inr ⟨d, hn⟩

/-- If a path can only lead to a regular file, then opening it can only empty this file. -/
theorem eq_emptied (O : Opening fs p mode path i fs') {t : Ino} {c : Content}
    (hn : fs.node? t = some (.regular c))
    (hlead : ∀ place, fs.locate p.user p.cwd path = .ok place → place = .present t) :
    i = t ∧ fs' = fs.modify t (Inode.emptied p.user) := by
  cases O with
  | created hl _ => cases hlead _ hl
  | emptied hl _ _ =>
    cases hlead _ hl
    exact ⟨rfl, rfl⟩
  | untouched hl hn' hkind _ =>
    cases hlead _ hl
    rw [hn] at hn'
    rcases hkind with rfl | ⟨d, rfl⟩ <;> cases hn'

end Opening

end FileSystem

end SparseFixture
