import SparseFixture.Proofs.Fixture.Frame

/-!
# Places and what runs make of them

The files that a run leaves depend on nothing but the place that its path leads to: `settle` gives
them as a function of it.
-/

namespace SparseFixture

open FileSystem

/-! ### The place decides -/

namespace Fixture

def contentLeft (p : Caller) : Content := if Limited p then .empty else content

def made (p : Caller) : Inode := { newFile mode p.umask with node := .regular (contentLeft p) }

end Fixture

/-- An inode after a run has come to it: only a regular file changes, and only if the caller may
write it. -/
def Inode.settled (p : Caller) (inode : Inode) : Inode :=
  match inode.node with
  | .regular _ =>
    if p.user.may Mode.ownerWrite inode.mode then
      inode.rewritten p.user (Fixture.contentLeft p)
    else inode
  | _ => inode

namespace FileSystem

/-- A file system after a run has come to a place. -/
def settle (fs : FileSystem) (p : Caller) : Place → FileSystem
  | .present i => fs.modify i (Inode.settled p)
  | .absent dir name =>
    if p.user.may Mode.ownerWrite (fs.mode dir) then fs.addChild dir name (Fixture.made p) else fs

/-- Where a path leads that can be handed to the system. -/
def lead? (fs : FileSystem) (p : Caller) (path : Bytes) : Option Place :=
  match checkPath p path, fs.locate p.user p.cwd path with
  | .ok (), .ok place => some place
  | _, _ => none

variable {fs fs' : FileSystem} {p : Caller} {path : Bytes} {place : Place} {i : Ino}

theorem lead?_eq_some_iff : fs.lead? p path = some place ↔
    checkPath p path = .ok () ∧ fs.locate p.user p.cwd path = .ok place := by
  unfold lead?
  rcases checkPath p path with c | ⟨⟩
  · simp
  · rcases fs.locate p.user p.cwd path with e | place'
    · simp
    · simp

end FileSystem

/-! ### What becomes of an inode -/

theorem User.may_of_access {m m' : Mode} (u : User) (h : m' &&& Mode.access = m &&& Mode.access) :
    u.may Mode.ownerWrite m' = u.may Mode.ownerWrite m := by
  have hbits : Mode.access &&& Mode.ownerWrite = Mode.ownerWrite := by decide
  rw [User.may, User.may, ← Mode.has_and_access hbits m', h, Mode.has_and_access hbits m]

namespace Inode

variable {p : Caller} {inode : Inode}

theorem settled_of_not_regular (h : ∀ c, inode.node ≠ .regular c) : inode.settled p = inode := by
  unfold settled
  split
  · next c hc => exact absurd hc (h c)
  · rfl

theorem settled_of_denied (h : p.user.may Mode.ownerWrite inode.mode = false) :
    inode.settled p = inode := by
  unfold settled
  split
  · rw [if_neg (by rw [h]; decide)]
  · rfl

theorem settled_of_may {c : Content} (hn : inode.node = .regular c)
    (h : p.user.may Mode.ownerWrite inode.mode = true) :
    inode.settled p = inode.rewritten p.user (Fixture.contentLeft p) := by
  unfold settled
  rw [hn]
  exact if_pos h

theorem access_rewritten (u : User) (c : Content) (inode : Inode) :
    (inode.rewritten u c).mode &&& Mode.access = inode.mode &&& Mode.access :=
  Opening.access_emptied u inode

theorem rewritten_rewritten (u : User) (c : Content) (inode : Inode) :
    (inode.rewritten u c).rewritten u c = inode.rewritten u c := by
  cases u with
  | superuser => rfl
  | owner =>
    have hmode := Mode.withoutSetId_idem inode.mode
    show Inode.mk inode.mode.withoutSetId.withoutSetId inode.links (.regular c) = _
    rw [hmode]
    rfl

theorem settled_settled (p : Caller) (inode : Inode) :
    (inode.settled p).settled p = inode.settled p := by
  by_cases hregular : ∃ c, inode.node = .regular c
  · obtain ⟨c, hn⟩ := hregular
    cases hw : p.user.may Mode.ownerWrite inode.mode with
    | false => rw [settled_of_denied hw, settled_of_denied hw]
    | true =>
      have hw' : p.user.may Mode.ownerWrite
          (inode.rewritten p.user (Fixture.contentLeft p)).mode = true := by
        rw [p.user.may_of_access (access_rewritten p.user _ inode), hw]
      rw [settled_of_may hn hw, settled_of_may rfl hw', rewritten_rewritten]
  · have hn : ∀ c, inode.node ≠ .regular c := fun c hc => hregular ⟨c, hc⟩
    rw [settled_of_not_regular hn, settled_of_not_regular hn]

theorem settled_mapEntries (f : List (Bytes × Ino) → List (Bytes × Ino)) :
    (inode.mapEntries f).settled p = (inode.settled p).mapEntries f := by
  rcases inode with ⟨m, k, n⟩
  cases n with
  | regular c =>
    show Inode.settled p ⟨m, k, .regular c⟩ = _
    cases hw : p.user.may Mode.ownerWrite m with
    | false =>
      rw [settled_of_denied hw]
      rfl
    | true =>
      rw [settled_of_may rfl hw]
      rfl
  | _ => rfl

theorem outline_settled (p : Caller) (inode : Inode) :
    (inode.settled p).outline = inode.outline := by
  by_cases hregular : ∃ c, inode.node = .regular c
  · obtain ⟨c, hn⟩ := hregular
    cases hw : p.user.may Mode.ownerWrite inode.mode with
    | false => rw [settled_of_denied hw]
    | true =>
      have haccess := access_rewritten p.user (Fixture.contentLeft p) inode
      rw [settled_of_may hn hw, outline, outline, haccess, hn]
      rfl
  · rw [settled_of_not_regular fun c hc => hregular ⟨c, hc⟩]

/-- A new file has no set-id bit to lose. -/
theorem settled_made (p : Caller) : (Fixture.made p).settled p = Fixture.made p := by
  cases hw : p.user.may Mode.ownerWrite (Fixture.made p).mode with
  | false => rw [settled_of_denied hw]
  | true =>
    rw [settled_of_may rfl hw]
    cases hu : p.user with
    | superuser => rfl
    | owner =>
      have hmode : (Fixture.mode.without p.umask).withoutSetId = Fixture.mode.without p.umask := by
        rw [Mode.withoutSetId_of_disjoint]
        rw [Mode.without_and]
        exact BitVec.zero_and
      show Inode.mk (Fixture.mode.without p.umask).withoutSetId 1 _ = _
      rw [hmode]
      rfl

end Inode

/-! ### What becomes of the files -/

namespace Fixture

variable {fs fs₁ : FileSystem} {p : Caller} {path : Bytes} {place : Place} {i : Ino}

/-- Once a path is open, a regular file gets its content, and nothing else is touched. -/
theorem files_of_create (hc : create fs p path = (.ok ⟨i, 0⟩, fs₁)) :
    (generateAt fs p path).files =
      fs₁.modify i (Inode.withObject (.regular (contentLeft p))) := by
  -- what is no regular file takes no content, so that one equation holds of all that can be opened
  have hsame : ∀ n, fs₁.node? i = some n → (∀ c, n ≠ .regular c) →
      fs₁.modify i (Inode.withObject (.regular (contentLeft p))) = fs₁ := by
    intro n hn hregular
    apply modify_eq_self
    rintro ⟨m, k, n'⟩ hi
    have hn' : n' = n := by
      rw [node?, hi] at hn
      exact Option.some.inj hn
    subst hn'
    cases n' with
    | regular c => exact absurd rfl (hregular c)
    | _ => rfl
  have E := ending fs p path
  generalize generateAt fs p path = o at E ⊢
  cases E with
  | uncreated hc' =>
    rw [hc] at hc'
    cases hc'
  | pipe hc' hn | full hc' hn | swallowed hc' hn _ =>
    rw [hc] at hc'
    cases hc'
    exact (hsame _ hn fun c hregular => by cases hregular).symm
  | limited hc' hn hl =>
    rw [hc] at hc'
    cases hc'
    rw [contentLeft, if_pos hl]
    refine (modify_eq_self ?_).symm
    rintro ⟨m, k, n⟩ hi
    rw [node?, hi] at hn
    cases hn
    rfl
  | filled hc' hn hl =>
    rw [hc] at hc'
    cases hc'
    rw [contentLeft, if_neg hl]

theorem files_of_create_error {c : Cause} (hc : (create fs p path).1 = .error c) :
    (generateAt fs p path).files = fs := by
  have E := ending fs p path
  generalize generateAt fs p path = o at E ⊢
  cases E with
  | uncreated => rfl
  | pipe hc' _ | full hc' _ | swallowed hc' _ _ | limited hc' _ _ | filled hc' _ _ =>
    rw [hc'] at hc
    cases hc

theorem files_of_lead_none (h : fs.lead? p path = none) : (generateAt fs p path).files = fs := by
  have hc : ∃ c, (create fs p path).1 = .error c := by
    unfold lead? at h
    unfold create openTruncated
    cases hcheck : checkPath p path with
    | error c => exact ⟨c, rfl⟩
    | ok u =>
      cases hl : fs.locate p.user p.cwd path with
      | error e => exact ⟨.os e, rfl⟩
      | ok place =>
        rw [hcheck, hl] at h
        cases h
  obtain ⟨c, hc⟩ := hc
  exact files_of_create_error hc

theorem create_of_lead (h : fs.lead? p path = some place)
    (ho : fs.openPlace p mode place = (.ok i, fs₁)) : create fs p path = (.ok ⟨i, 0⟩, fs₁) := by
  obtain ⟨hcheck, hl⟩ := lead?_eq_some_iff.mp h
  simp only [create, openTruncated, hcheck, hl, ho]

theorem create_error_of_lead {e : Int} (h : fs.lead? p path = some place)
    (ho : fs.openPlace p mode place = (.error e, fs₁)) :
    create fs p path = (.error (.os e), fs₁) := by
  obtain ⟨hcheck, hl⟩ := lead?_eq_some_iff.mp h
  simp only [create, openTruncated, hcheck, hl, ho]

/-- What cannot be opened is not changed by a run. -/
theorem settle_of_openPlace_error {e : Int} {fs' : FileSystem}
    (h : fs.openPlace p mode place = (.error e, fs')) : fs.settle p place = fs := by
  cases place with
  | absent dir name =>
    rw [openPlace] at h
    split at h
    · cases h
    · next hw => exact if_neg hw
  | present j =>
    apply modify_eq_self
    intro inode hj
    have hnode : fs.node? j = some inode.node := by rw [node?, hj, Option.map_some]
    have hmode : fs.mode j = inode.mode := by
      rw [FileSystem.mode, hj]
      rfl
    rw [openPlace, hnode, hmode] at h
    by_cases hw : p.user.may Mode.ownerWrite inode.mode = true
    · apply Inode.settled_of_not_regular
      intro c hc
      simp only [hc, hw, Bool.not_true, Bool.false_eq_true, if_false] at h
      cases h
    · exact Inode.settled_of_denied (by simpa using hw)

/-- The files that a run leaves are those of the place that its path leads to. -/
theorem files_of_lead (h : fs.lead? p path = some place) :
    (generateAt fs p path).files = fs.settle p place := by
  obtain ⟨_, hl⟩ := lead?_eq_some_iff.mp h
  rcases ho : fs.openPlace p mode place with ⟨e | i, fs₁⟩
  · rw [settle_of_openPlace_error ho]
    exact files_of_create_error (congrArg Prod.fst (create_error_of_lead h ho))
  · rw [files_of_create (create_of_lead h ho)]
    have O := opening_of_openPlace hl ho
    cases O with
    | created hl' hw =>
      rw [hl] at hl'
      cases hl'
      rw [(Opening.addition p.umask mode_closed hl).fill]
      exact (if_pos hw).symm
    | @emptied j c hl' hn hw =>
      rw [hl] at hl'
      cases hl'
      rw [modify_modify]
      apply modify_congr
      intro inode hi
      have hn' : inode.node = .regular c := by
        rw [node?, hi] at hn
        exact Option.some.inj hn
      have hw' : p.user.may Mode.ownerWrite inode.mode = true := by
        rw [FileSystem.mode, hi] at hw
        exact hw
      exact (Inode.settled_of_may hn' hw').symm
    | @untouched j n hl' hn hkind hw =>
      rw [hl] at hl'
      cases hl'
      apply modify_congr
      rintro ⟨m, k, n'⟩ hi
      rw [node?, hi] at hn
      cases hn
      rcases hkind with rfl | ⟨d, rfl⟩
      · rfl
      · rfl

end Fixture

end SparseFixture
