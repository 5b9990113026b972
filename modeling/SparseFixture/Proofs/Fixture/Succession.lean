import SparseFixture.FileSystem.Layout
import SparseFixture.Proofs.FileSystem.Trees
import SparseFixture.Proofs.Fixture.Places

/-!
# One run after another

A second run on the same path finds nothing to change, and two runs on any two paths leave the same
tree in either order. Both rest on where a path leads after another run: to the place where it led
before, or to the file that the other run has made.
-/

namespace SparseFixture

open FileSystem

namespace FileSystem

variable {fs fs' : FileSystem} {p : Caller} {path : Bytes} {place : Place} {i j : Ino}

/-! ### Where paths lead afterwards -/

theorem lead?_of_outline (h : fs'.outline = fs.outline) (p : Caller) (path : Bytes) :
    fs'.lead? p path = fs.lead? p path := by
  apply Option.ext
  intro place
  rw [lead?_eq_some_iff, lead?_eq_some_iff]
  constructor
  · rintro ⟨hcheck, hl⟩
    exact ⟨hcheck, locate_of_outline h.symm hl⟩
  · rintro ⟨hcheck, hl⟩
    exact ⟨hcheck, locate_of_outline h hl⟩

namespace Addition

variable {dir : Ino} {name : Bytes} {new : Inode}

theorem lead?_fresh (A : Addition fs dir name new)
    (h : fs.lead? p path = some (.absent dir name)) :
    (fs.addChild dir name new).lead? p path = some (.present fs.fresh) := by
  obtain ⟨hcheck, hl⟩ := lead?_eq_some_iff.mp h
  exact lead?_eq_some_iff.mpr ⟨hcheck, A.locate_fresh hl⟩

theorem lead?_of_ne (A : Addition fs dir name new) (h : fs.lead? p path = some place)
    (hne : place ≠ .absent dir name) : (fs.addChild dir name new).lead? p path = some place := by
  obtain ⟨hcheck, hl⟩ := lead?_eq_some_iff.mp h
  refine lead?_eq_some_iff.mpr ⟨hcheck, ?_⟩
  cases place with
  | present i => exact (A.namesKept.locate_present hl).resolve_left id
  | absent d x =>
    apply A.namesKept.locate_absent hl
    rw [A.look_eq, if_neg]
    · exact look_of_locate hl
    · rintro ⟨rfl, rfl⟩
      exact hne rfl

theorem lead?_of_none (A : Addition fs dir name new) (h : fs.lead? p path = none) :
    (fs.addChild dir name new).lead? p path = none ∨
      (fs.addChild dir name new).lead? p path = some (.present fs.fresh) := by
  cases h' : (fs.addChild dir name new).lead? p path with
  | none => exact .inl rfl
  | some place =>
    right
    obtain ⟨hcheck, hl⟩ := lead?_eq_some_iff.mp h'
    rcases A.locate_before hl with hfresh | hl
    -- an entry that named no inode at all may name the new one
    · rw [hfresh]
    · rw [lead?_eq_some_iff.mpr ⟨hcheck, hl⟩] at h
      cases h

end Addition

/-! ### The same place twice -/

theorem outline_settle_present (fs : FileSystem) (p : Caller) (i : Ino) :
    (fs.settle p (.present i)).outline = fs.outline :=
  outline_modify fun inode _ => Inode.outline_settled p inode

theorem settle_absent {dir : Ino} {name : Bytes}
    (hw : p.user.may Mode.ownerWrite (fs.mode dir) = true) :
    fs.settle p (.absent dir name) = fs.addChild dir name (Fixture.made p) :=
  if_pos hw

theorem settle_absent_denied {dir : Ino} {name : Bytes}
    (hw : ¬ p.user.may Mode.ownerWrite (fs.mode dir) = true) :
    fs.settle p (.absent dir name) = fs :=
  if_neg hw

theorem addition_of_lead {dir : Ino} {name : Bytes}
    (h : fs.lead? p path = some (.absent dir name)) : Addition fs dir name (Fixture.made p) :=
  Change.addition p _ (look_of_locate (lead?_eq_some_iff.mp h).2)

theorem known_of_lead (h : fs.lead? p path = some (.present i)) : fs.inode? i ≠ none := by
  obtain ⟨n, hn, _⟩ := node_of_locate (lead?_eq_some_iff.mp h).2
  intro hi
  rw [node?, hi] at hn
  cases hn

theorem settle_settle_present (fs : FileSystem) (p : Caller) (i : Ino) :
    (fs.settle p (.present i)).settle p (.present i) = fs.settle p (.present i) := by
  show (fs.modify i _).modify i _ = _
  rw [modify_modify]
  apply modify_congr
  intro inode _
  exact Inode.settled_settled p inode

theorem settle_made {dir : Ino} {name : Bytes} (A : Addition fs dir name (Fixture.made p)) :
    (fs.addChild dir name (Fixture.made p)).settle p (.present fs.fresh) =
      fs.addChild dir name (Fixture.made p) := by
  apply modify_eq_self
  intro inode hi
  rw [A.inode?_fresh] at hi
  cases hi
  exact Inode.settled_made p

end FileSystem

namespace Fixture

variable {fs : FileSystem} {p : Caller} {path q : Bytes} {place : Place}

/-- A run whose path leads where the run before it led, or nowhere, leaves all as it is. -/
theorem files_again (h : fs.lead? p q = fs.lead? p path ∨ fs.lead? p q = none) :
    (generateAt (generateAt fs p path).files p q).files = (generateAt fs p path).files := by
  cases hlead : fs.lead? p path with
  | none =>
    rw [hlead, or_self] at h
    rw [files_of_lead_none hlead, files_of_lead_none h]
  | some place =>
    rw [hlead] at h
    rw [files_of_lead hlead]
    cases place with
    | present i =>
      have hq := lead?_of_outline (outline_settle_present fs p i) p q
      rcases h with h | h
      · rw [files_of_lead (hq.trans h), settle_settle_present]
      · rw [files_of_lead_none (hq.trans h)]
    | absent dir name =>
      by_cases hw : p.user.may Mode.ownerWrite (fs.mode dir) = true
      · have A := addition_of_lead hlead
        rw [settle_absent hw]
        have hq : (fs.addChild dir name (made p)).lead? p q = none ∨
            (fs.addChild dir name (made p)).lead? p q = some (.present fs.fresh) := by
          rcases h with h | h
          · exact .inr (A.lead?_fresh h)
          · exact A.lead?_of_none h
        rcases hq with hq | hq
        · rw [files_of_lead_none hq]
        · rw [files_of_lead hq, settle_made A]
      · rw [settle_absent_denied hw]
        rcases h with h | h
        · rw [files_of_lead h, settle_absent_denied hw]
        · rw [files_of_lead_none h]

end Fixture

/-! ### Two places -/

namespace FileSystem

variable {fs : FileSystem} {p : Caller} {i j : Ino}

/-- To make a file and to settle another inode are independent, even if that inode is the directory in
which the file is made: a directory stays as it is. -/
theorem addChild_settle (hi : fs.inode? i ≠ none) (dir : Ino) (name : Bytes) (new : Inode) :
    (fs.settle p (.present i)).addChild dir name new =
      (fs.addChild dir name new).settle p (.present i) := by
  show ((fs.modify i _).add new).modify dir _ = ((fs.add new).modify dir _).modify i _
  rw [add_modify (ne_of_known hi (inode?_fresh fs)), settle, fresh_modify]
  exact modify_comm fun _ inode => Inode.settled_mapEntries _

/- Who may write a directory is the same after a run has come to another place. -/
theorem may_settle_present (fs : FileSystem) (p : Caller) (i d : Ino) :
    p.user.may Mode.ownerWrite ((fs.settle p (.present i)).mode d) =
      p.user.may Mode.ownerWrite (fs.mode d) := by
  have hbits : Mode.access &&& Mode.ownerWrite = Mode.ownerWrite := by decide
  rw [← may_outline hbits, outline_settle_present, may_outline hbits]

theorem settle_present_comm (hij : i ≠ j) :
    (fs.settle p (.present i)).settle p (.present j) =
      (fs.settle p (.present j)).settle p (.present i) :=
  modify_comm fun h => absurd h hij

theorem settle_absent_comm (hi : fs.inode? i ≠ none) (dir : Ino) (name : Bytes) :
    (fs.settle p (.present i)).settle p (.absent dir name) =
      (fs.settle p (.absent dir name)).settle p (.present i) := by
  have hmay := may_settle_present fs p i dir
  by_cases hw : p.user.may Mode.ownerWrite (fs.mode dir) = true
  · rw [settle_absent (hmay.trans hw), settle_absent hw, addChild_settle hi]
  · have hw' : ¬ p.user.may Mode.ownerWrite ((fs.settle p (.present i)).mode dir) = true := by
      rw [hmay]
      exact hw
    rw [settle_absent_denied hw', settle_absent_denied hw]

theorem sameTree_absent {dir dir' : Ino} {name name' : Bytes}
    (A : Addition fs dir name (Fixture.made p)) (A' : Addition fs dir' name' (Fixture.made p))
    (hne : ¬ (dir' = dir ∧ name' = name)) :
    SameTree fs ((fs.settle p (.absent dir name)).settle p (.absent dir' name'))
      ((fs.settle p (.absent dir' name')).settle p (.absent dir name)) := by
  have hmode : (fs.addChild dir name (Fixture.made p)).mode dir' = fs.mode dir' :=
    mode_of_bare (A.bare_of_ne A'.ne_fresh)
  have hmode' : (fs.addChild dir' name' (Fixture.made p)).mode dir = fs.mode dir :=
    mode_of_bare (A'.bare_of_ne A.ne_fresh)
  by_cases hw : p.user.may Mode.ownerWrite (fs.mode dir) = true
  · rw [settle_absent hw]
    by_cases hw' : p.user.may Mode.ownerWrite (fs.mode dir') = true
    · rw [settle_absent hw', settle_absent (hmode.symm ▸ hw'), settle_absent (hmode'.symm ▸ hw)]
      exact A.sameTree_either A' hne
    · rw [settle_absent_denied hw', settle_absent hw, settle_absent_denied (hmode.symm ▸ hw')]
      exact .refl _ _
  · rw [settle_absent_denied hw]
    by_cases hw' : p.user.may Mode.ownerWrite (fs.mode dir') = true
    · rw [settle_absent hw', settle_absent_denied (hmode'.symm ▸ hw)]
      exact .refl _ _
    · rw [settle_absent_denied hw', settle_absent_denied hw]
      exact .refl _ _

end FileSystem

namespace Fixture

variable {fs : FileSystem} {p : Caller} {q r : Bytes} {place place' : Place}

/-- A path that leads to another place than a run before still leads there. -/
theorem lead?_after (h : fs.lead? p q = some place) (h' : fs.lead? p r = some place')
    (hne : place' ≠ place) : (fs.settle p place).lead? p r = some place' := by
  cases place with
  | present i => rw [lead?_of_outline (outline_settle_present fs p i), h']
  | absent dir name =>
    by_cases hw : p.user.may Mode.ownerWrite (fs.mode dir) = true
    · rw [settle_absent hw]
      exact (addition_of_lead h).lead?_of_ne h' hne
    · rw [settle_absent_denied hw, h']

theorem sameTree_of_places (h : fs.lead? p q = some place) (h' : fs.lead? p r = some place')
    (hne : place' ≠ place) :
    SameTree fs ((fs.settle p place).settle p place') ((fs.settle p place').settle p place) := by
  cases place with
  | present i =>
    cases place' with
    | present j =>
      have hij : i ≠ j := fun h => hne (by rw [h])
      rw [settle_present_comm hij]
      exact .refl _ _
    | absent dir' name' =>
      rw [settle_absent_comm (known_of_lead h)]
      exact .refl _ _
  | absent dir name =>
    cases place' with
    | present j =>
      rw [settle_absent_comm (known_of_lead h')]
      exact .refl _ _
    | absent dir' name' =>
      have hnames : ¬ (dir' = dir ∧ name' = name) := by
        rintro ⟨rfl, rfl⟩
        exact hne rfl
      exact sameTree_absent (addition_of_lead h) (addition_of_lead h')
        hnames

/-- In either order two runs leave the same tree, wherever their paths lead and whether the runs
succeed or fail. -/
theorem order_of_runs_keeps_tree (fs : FileSystem) (p : Caller) (q r : Bytes) :
    SameTree fs (generateAt (generateAt fs p q).files p r).files
      (generateAt (generateAt fs p r).files p q).files := by
  cases hq : fs.lead? p q with
  | none =>
    rw [files_again (.inr hq), files_of_lead_none hq]
    exact .refl _ _
  | some place =>
    cases hr : fs.lead? p r with
    | none =>
      rw [files_again (.inr hr), files_of_lead_none hr]
      exact .refl _ _
    | some place' =>
      by_cases hsame : place' = place
      · -- both paths lead to one place: the second run finds nothing to change
        subst hsame
        rw [files_again (.inl (hr.trans hq.symm)), files_again (.inl (hq.trans hr.symm)),
          files_of_lead hq, files_of_lead hr]
        exact .refl _ _
      · have hr' := lead?_after hq hr hsame
        have hq' := lead?_after hr hq (Ne.symm hsame)
        rw [files_of_lead hq, files_of_lead hr, files_of_lead hr', files_of_lead hq']
        exact sameTree_of_places hq hr hsame

end Fixture

/-! ### Running twice -/

theorem Mode.has_ownerWrite (m : Mode) : m.has ownerWrite = m.getLsbD 7 := by
  have hbit : ownerWrite = BitVec.twoPow 12 7 := by decide
  rw [has, hbit, BitVec.and_twoPow]
  cases m.getLsbD 7 with
  | false => rfl
  | true => rfl

/-- The owner may write a new file exactly if the mask lets it. -/
theorem Fixture.has_mode_without (umask : Mode) :
    (Fixture.mode.without umask).has Mode.ownerWrite = !umask.has Mode.ownerWrite := by
  have hbit : Fixture.mode.getLsbD 7 = true := by decide
  rw [Mode.has_ownerWrite, Mode.has_ownerWrite, Mode.without, BitVec.getLsbD_and, hbit,
    BitVec.getLsbD_not]
  rfl

namespace FileSystem

variable {fs fs₁ fs' : FileSystem} {p : Caller} {path : Bytes} {i : Ino}

/- Something is there that was not there before. -/
def Adds (fs fs' : FileSystem) : Prop := ∃ i, fs.inode? i = none ∧ fs'.inode? i ≠ none

theorem adds_iff : Adds fs fs' ↔ fs.fresh < fs'.fresh := by
  have hnone : ∀ (fs : FileSystem) i, fs.inode? i = none ↔ fs.fresh ≤ i :=
    fun _ _ => List.getElem?_eq_none_iff
  unfold Adds
  simp only [ne_eq, hnone, Nat.not_le]
  constructor
  · rintro ⟨i, h, h'⟩
    exact Nat.lt_of_le_of_lt h h'
  · intro h
    exact ⟨fs.fresh, Nat.le_refl _, h⟩

instance (fs fs' : FileSystem) : Decidable (Adds fs fs') := decidable_of_iff _ adds_iff.symm

theorem adds_of_outline (h : fs'.outline = fs₁.outline) : Adds fs fs' ↔ Adds fs fs₁ := by
  rw [adds_iff, adds_iff, ← fresh_outline fs', h, fresh_outline]

theorem not_adds_self (fs : FileSystem) : ¬ Adds fs fs := fun ⟨_, h, h'⟩ => h' h

/-- What has been opened is new, or else it was there and the caller may write it. -/
theorem Opening.adds (O : Opening fs p Fixture.mode path i fs₁) :
    (Adds fs fs₁ ∧ fs₁.mode i = Fixture.mode.without p.umask) ∨
    (¬ Adds fs fs₁ ∧ p.user.may Mode.ownerWrite (fs₁.mode i) = true) := by
  have hbits : Mode.access &&& Mode.ownerWrite = Mode.ownerWrite := by decide
  cases O with
  | created hl _ =>
    have hi := (Opening.addition p.umask Fixture.mode_closed hl).inode?_fresh
    refine .inl ⟨⟨fs.fresh, inode?_fresh fs, ?_⟩, ?_⟩
    · rw [hi]
      nofun
    · rw [mode, hi]
      rfl
  | emptied hl hn hw =>
    have hout := Opening.outline_emptied (u := p.user) hn
    refine .inr ⟨fun h => not_adds_self fs ((adds_of_outline hout).mp h), ?_⟩
    rw [← may_outline hbits, hout, may_outline hbits, hw]
  | untouched _ _ _ hw => exact .inr ⟨not_adds_self fs, hw⟩

theorem Opening.eq_of_device (O : Opening fs p Fixture.mode path i fs₁) {d : Device}
    (hn : fs₁.node? i = some (.device d)) : fs₁ = fs := by
  cases O with
  | created hl _ =>
    rw [node?, (Opening.addition p.umask Fixture.mode_closed hl).inode?_fresh] at hn
    cases hn
  | emptied _ hn' _ =>
    rw [node?_emptied p.user hn'] at hn
    cases hn
  | untouched => rfl

end FileSystem

namespace Fixture

variable {fs fs₁ : FileSystem} {p : Caller} {path : Bytes} {i : Ino} {c : Content}

theorem checkPath_of_create {h : Handle} (hc : create fs p path = (.ok h, fs₁)) :
    checkPath p path = .ok () := by
  unfold create openTruncated at hc
  split at hc
  · cases hc
  · next hcheck => exact hcheck

/-- A run on a regular file succeeds, or the caller may not write the file. -/
theorem outcome_of_regular (h : fs.lead? p path = some (.present i))
    (hn : fs.node? i = some (.regular c)) (hl : ¬ Limited p) :
    if p.user.may Mode.ownerWrite (fs.mode i) then
      (generateAt fs p path).result = .ok () ∧ (generateAt fs p path).log =
        [.creating path, .cursor lastOffset, .wrote path size (p.allocated size)]
    else (generateAt fs p path).result = .error (.create path (.os Errno.accessDenied)) := by
  split
  · next hw =>
    have hopen : fs.openPlace p mode (.present i) =
        (.ok i, fs.modify i (Inode.emptied p.user)) := by
      simp only [openPlace, hn, hw, Bool.not_true, Bool.false_eq_true, if_false]
    have hempty := node?_emptied p.user hn
    have hc := create_of_lead h hopen
    simp only [generateAt, hc, seekSet_regular hempty, write_regular hempty, if_neg hl,
      summary_regular (node?_withObject _ hempty)]
    have hsize : (Content.empty.writeAt lastOffset [0]).size = size := size_content
    rw [hsize]
    exact ⟨trivial, rfl⟩
  · next hw =>
    have hopen : fs.openPlace p mode (.present i) = (.error Errno.accessDenied, fs) := by
      simp only [openPlace, hn, hw, Bool.not_false, if_true]
    simp only [generateAt, create_error_of_lead h hopen]

/-- The caller may open for writing once more what it has opened, unless it has made the file itself
under a mask without the owner's right to write. -/
theorem may_write_again {fs' : FileSystem} (O : Opening fs p mode path i fs₁)
    (hout : fs'.outline = fs₁.outline) :
    p.user.may Mode.ownerWrite (fs'.mode i) = true ↔
      ¬ (p.user = .owner ∧ Adds fs fs' ∧ p.umask.has Mode.ownerWrite = true) := by
  have hbits : Mode.access &&& Mode.ownerWrite = Mode.ownerWrite := by decide
  rw [← may_outline hbits, hout, may_outline hbits, adds_of_outline hout]
  rcases O.adds with ⟨hadds, hmode⟩ | ⟨hold, hw⟩
  · rw [hmode, User.may, has_mode_without]
    cases p.user with
    | superuser => simp
    | owner => simp [hadds]
  · simp [hold, hw]

theorem second_result (h : (generateAt fs p path).result = .ok ()) :
    if p.user = .owner ∧ Adds fs (generateAt fs p path).files ∧
        p.umask.has Mode.ownerWrite = true then
      (generateAt (generateAt fs p path).files p path).result =
        .error (.create path (.os Errno.accessDenied))
    else
      (generateAt (generateAt fs p path).files p path).result = .ok () ∧
      (generateAt (generateAt fs p path).files p path).log = (generateAt fs p path).log := by
  have E := ending fs p path
  generalize ho : generateAt fs p path = o at E h ⊢
  cases E with
  | uncreated | pipe | full | limited => cases h
  | swallowed hc hn _ =>
    -- nothing has changed, so that the second run is the first one over again
    have hfs := (opening_of_create hc).2.eq_of_device hn
    subst hfs
    rw [if_neg fun hb => not_adds_self _ hb.2.1, ho]
    exact ⟨rfl, rfl⟩
  | @filled i fs₁ hc hn hl =>
    have O := (opening_of_create hc).2
    have hout := outline_withObject fs₁ i (.regular content)
    have hlead : fs₁.lead? p path = some (.present i) :=
      lead?_eq_some_iff.mpr ⟨checkPath_of_create hc, O.locate mode_closed⟩
    have hsecond := outcome_of_regular ((lead?_of_outline hout p path).trans hlead)
      (node?_withObject content hn) hl
    have hmay := may_write_again O hout
    split
    · next hb =>
      rw [if_neg fun hw => hmay.mp hw hb] at hsecond
      exact hsecond
    · next hb =>
      rw [if_pos (hmay.mpr hb)] at hsecond
      exact hsecond

/-- A record with another number of bytes allocated. -/
def Record.reallocated (allocated : Nat → Nat) : Record → Record
  | creating path => creating path
  | cursor position => cursor position
  | wrote path length _ => wrote path length (allocated length)

/-- The number of bytes allocated is noted in the log and decides nothing. -/
theorem generateAt_allocated (fs : FileSystem) (p : Caller) (path : Bytes) (allocated : Nat → Nat) :
    generateAt fs { p with allocated := allocated } path =
      { generateAt fs p path with
        log := (generateAt fs p path).log.map (Record.reallocated allocated) } := by
  have hcreate : create fs { p with allocated := allocated } path = create fs p path := rfl
  have hwrite : ∀ (fs : FileSystem) h bs,
      fs.write { p with allocated := allocated } h bs = fs.write p h bs := fun _ _ _ => rfl
  unfold generateAt
  rw [hcreate]
  rcases create fs p path with ⟨c | h, fs₁⟩
  · rfl
  · dsimp only
    rcases fs₁.seekSet h lastOffset with ⟨c | position, h₁⟩
    · rfl
    · simp only [hwrite]
      rcases fs₁.write p h₁ [0] with ⟨c | u, h₂, fs₂⟩
      · rfl
      · simp only [List.map_append, summary]
        cases fs₂.length h₂ <;> rfl

/-- After a success, a second run on the same path changes nothing, whatever number of bytes the system
then says that it has allocated. It repeats the first one, log and all but that number, unless the first
has made the file and has left its owner no right to write it. -/
theorem second_run_repeats_or_is_denied (fs : FileSystem) (p : Caller) (path : Bytes)
    (allocated : Nat → Nat) (h : (generateAt fs p path).result = .ok ()) :
    let first := generateAt fs p path
    let second := generateAt first.files { p with allocated := allocated } path
    second.files = first.files ∧
    (second.result = .ok () ∧ second.log = first.log.map (Record.reallocated allocated) ∧
        (allocated = p.allocated → second.log = first.log) ∨
      second.result = .error (.create path (.os Errno.accessDenied))) ∧
    (second.result = .error (.create path (.os Errno.accessDenied)) ↔
      p.user = .owner ∧ Adds fs first.files ∧ p.umask.has 0o200 = true) := by
  intro first second
  have hagain : second = { generateAt first.files p path with
      log := (generateAt first.files p path).log.map (Record.reallocated allocated) } :=
    generateAt_allocated first.files p path allocated
  have hresult : second.result = (generateAt first.files p path).result := by rw [hagain]
  have hfiles : second.files = (generateAt first.files p path).files := by rw [hagain]
  have hlog : second.log = (generateAt first.files p path).log.map (Record.reallocated allocated) := by
    rw [hagain]
  have hsecond := second_result h
  rw [hresult, hfiles, hlog]
  refine ⟨files_again (.inl rfl), ?_⟩
  split at hsecond
  · next hb => exact ⟨.inr hsecond, fun _ => hb, fun _ => hsecond⟩
  · next hb =>
    obtain ⟨hok, hsame⟩ := hsecond
    refine ⟨.inl ⟨hok, by rw [hsame], fun htold => ?_⟩, fun herror => ?_, fun hb' => absurd hb' hb⟩
    · subst htold
      rw [hsame]
      exact (congrArg Outcome.log (generateAt_allocated fs p path p.allocated)).symm
    · rw [hok] at herror
      cases herror

/- A mask that takes the owner's right to write. -/
def forgetful : Caller := { Caller.initial .owner with umask := 0o277 }

theorem second_run_through_dangling_link :
    (generateAt dangling forgetful (Bytes.ofText "link")).result = .ok () ∧
    (generateAt (generateAt dangling forgetful (Bytes.ofText "link")).files forgetful
      (Bytes.ofText "link")).result =
        .error (.create (Bytes.ofText "link") (.os Errno.accessDenied)) ∧
    (generateAt (generateAt dangling forgetful (Bytes.ofText "link")).files forgetful
      (Bytes.ofText "link")).files =
        (generateAt dangling forgetful (Bytes.ofText "link")).files := by
  have h : (generateAt dangling forgetful (Bytes.ofText "link")).result = .ok () := by rfl
  have hadds : Adds dangling (generateAt dangling forgetful (Bytes.ofText "link")).files :=
    ⟨dangling.fresh, inode?_fresh _, by decide +kernel⟩
  have hsecond :=
    second_run_repeats_or_is_denied dangling forgetful (Bytes.ofText "link") forgetful.allocated h
  exact ⟨h, hsecond.2.2.mpr ⟨rfl, hadds, by decide⟩, hsecond.1⟩

end Fixture

end SparseFixture
