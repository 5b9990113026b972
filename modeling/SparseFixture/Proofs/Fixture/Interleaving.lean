import SparseFixture.Fixture.Run
import SparseFixture.Proofs.Fixture.Frame

/-!
# Runs that take turns

Any number of runs on one file system, each of which makes one system call at a time. As long as
their paths lead to one file, or to one name that is free, the file holds nothing or the fixture from
the first opening on, and it holds the fixture once every run that has opened it has succeeded.
-/

namespace SparseFixture

namespace Fixture

open FileSystem

/-! ### Taking turns -/

structure Party where
  runs : List Run
  files : FileSystem

namespace Party

def start (jobs : List (Caller × Bytes)) (fs : FileSystem) : Party :=
  ⟨jobs.map fun job => Run.start job.1 job.2, fs⟩

def turn (s : Party) (k : Nat) : Party :=
  match s.runs[k]? with
  | none => s
  | some r => ⟨s.runs.set k (r.step s.files).1, (r.step s.files).2⟩

/-- The runs make their calls in the order of a schedule. A run that the schedule does not name any
more has stopped where it is. -/
def play (s : Party) (schedule : List Nat) : Party := schedule.foldl turn s

end Party

namespace Run

def HasOpened (r : Run) : Prop :=
  match r.phase with
  | .waiting => False
  | .finished (.error (.create _ _)) => False
  | _ => True

def Owes (r : Run) : Prop := r.HasOpened ∧ r.phase ≠ .finished (.ok ())

/- The handle of a run, if it has one, is on the inode, with the cursor where the run has moved it. -/
def HandleOn (t : Ino) (r : Run) : Prop :=
  match r.phase with
  | .opened h => h = ⟨t, 0⟩
  | .positioned h => h = ⟨t, lastOffset⟩
  | _ => True

/-! ### One call -/

variable {fs : FileSystem} {r : Run}

theorem step_job (r : Run) (fs : FileSystem) :
    (r.step fs).1.caller = r.caller ∧ (r.step fs).1.path = r.path := by
  unfold step
  split
  · split <;> exact ⟨rfl, rfl⟩
  · split <;> exact ⟨rfl, rfl⟩
  · split <;> exact ⟨rfl, rfl⟩
  · exact ⟨rfl, rfl⟩

theorem step_waiting (hr : r.phase = .waiting) :
    (¬ (r.step fs).1.HasOpened ∧ (r.step fs).2 = fs) ∨
      ∃ i, (r.step fs).1.phase = .opened ⟨i, 0⟩ ∧
        Opening fs r.caller mode r.path i (r.step fs).2 := by
  rcases hc : create fs r.caller r.path with ⟨c | h, fs₁⟩
  · left
    simp only [step, hr, hc]
    exact ⟨id, openTruncated_of_error hc⟩
  · right
    obtain ⟨hh, O⟩ := opening_of_create hc
    simp only [step, hr, hc]
    exact ⟨h.ino, congrArg Phase.opened hh, O⟩

theorem step_of_not_hasOpened (hr : ¬ r.HasOpened) :
    (¬ (r.step fs).1.HasOpened ∧ (r.step fs).2 = fs) ∨
      ∃ i, (r.step fs).1.phase = .opened ⟨i, 0⟩ ∧
        Opening fs r.caller mode r.path i (r.step fs).2 := by
  cases hp : r.phase with
  | waiting => exact step_waiting hp
  | finished result =>
    left
    simp only [step, hp]
    exact ⟨hr, trivial⟩
  | opened h | positioned h =>
    refine absurd ?_ hr
    simp only [HasOpened, hp]

theorem hasOpened_step (hr : r.HasOpened) : (r.step fs).1.HasOpened := by
  unfold step
  split
  · next hp => simp only [HasOpened, hp] at hr
  · split <;> trivial
  · split <;> trivial
  · exact hr

theorem handleOn_of_not_hasOpened (t : Ino) (hr : ¬ r.HasOpened) : r.HandleOn t := by
  unfold HandleOn
  cases hp : r.phase with
  | opened h | positioned h =>
    refine absurd ?_ hr
    simp only [HasOpened, hp]
  | _ => trivial

/-- A call on the shared file leaves nothing or the fixture in it. If it leaves nothing, the run that
made the call still owes the last byte, unless the call has changed nothing. -/
theorem step_on_file {t : Ino} {c : Content} (hh : r.HandleOn t)
    (hn : fs.node? t = some (.regular c)) (hc : Blank c)
    (hlead : ∀ place, fs.locate r.caller.user r.caller.cwd r.path = .ok place →
      place = .present t) :
    (r.step fs).1.HandleOn t ∧ (r.step fs).2.outline = fs.outline ∧
      ∃ c', (r.step fs).2.node? t = some (.regular c') ∧ Blank c' ∧
        (c'.toBytes = [] → (r.step fs).1.Owes ∨ (¬ r.Owes ∧ c' = c)) := by
  unfold HandleOn at hh
  cases hp : r.phase with
  | waiting =>
    have howes : ¬ r.Owes := by
      rintro ⟨ho, _⟩
      simp only [HasOpened, hp] at ho
    rcases step_waiting hp with ⟨ho, hfs⟩ | ⟨i, hphase, O⟩
    · rw [hfs]
      exact ⟨handleOn_of_not_hasOpened t ho, rfl, c, hn, hc, fun _ => .inr ⟨howes, rfl⟩⟩
    · obtain ⟨rfl, hfs⟩ := O.eq_emptied hn hlead
      have hn' : (r.step fs).2.node? i = some (.regular .empty) := by
        rw [hfs]
        exact node?_emptied r.caller.user hn
      refine ⟨?_, ?_, .empty, hn', .empty, fun _ => .inl ⟨?_, ?_⟩⟩
      · simp only [HandleOn, hphase]
      · rw [hfs, Opening.outline_emptied hn]
      · simp only [HasOpened, hphase]
      · rw [hphase]
        intro h
        cases h
  | opened h =>
    have hstep : r.step fs = (r.advance (.positioned ⟨t, lastOffset⟩) [.cursor lastOffset], fs) := by
      simp only [hp] at hh
      simp only [step, hp, hh, seekSet_regular hn]
    rw [hstep]
    refine ⟨rfl, rfl, c, hn, hc, fun _ => .inl ⟨trivial, ?_⟩⟩
    intro h
    cases h
  | positioned h =>
    simp only [hp] at hh
    by_cases hl : Limited r.caller
    · have hstep : r.step fs =
          (r.finish (.error (.write lastOffset (.os Errno.tooLarge))), fs) := by
        simp only [step, hp, hh, write_regular hn, if_pos hl]
      rw [hstep]
      refine ⟨trivial, rfl, c, hn, hc, fun _ => .inl ⟨trivial, ?_⟩⟩
      intro h
      cases h
    · have hw := toBytes_writeAt_last hc
      simp only [step, hp, hh, write_regular hn, if_neg hl]
      refine ⟨trivial, outline_withObject _ _ _, _, node?_withObject _ hn, .inr hw, fun he => ?_⟩
      rw [hw] at he
      exact absurd he bytes_ne_nil
  | finished result =>
    have hstep : r.step fs = (r, fs) := by simp only [step, hp]
    rw [hstep]
    refine ⟨?_, rfl, c, hn, hc, fun _ => (Classical.em r.Owes).imp id fun h => ⟨h, rfl⟩⟩
    simp only [HandleOn, hp]

end Run

/-! ### The runs after a call -/

section Turn

variable {runs : List Run} {k : Nat} {r r' x : Run}

theorem moved_run_after (hr : runs[k]? = some r) : r' ∈ runs.set k r' :=
  List.mem_set (List.getElem?_eq_some_iff.mp hr).1 r'

theorem eq_or_run_after (hr : runs[k]? = some r) (hx : x ∈ runs) : x = r ∨ x ∈ runs.set k r' := by
  obtain ⟨j, hj⟩ := List.mem_iff_getElem?.mp hx
  by_cases hkj : k = j
  · subst hkj
    rw [hr] at hj
    exact .inl (Option.some.inj hj).symm
  · refine .inr (List.mem_iff_getElem?.mpr ⟨j, ?_⟩)
    rw [List.getElem?_set_ne hkj, hj]

theorem every_run_after {P : Run → Prop} (h : ∀ x ∈ runs, P x) (hr' : P r') (x : Run)
    (hx : x ∈ runs.set k r') : P x := by
  cases List.mem_or_eq_of_mem_set hx with
  | inl hold => exact h x hold
  | inr hnew => rwa [hnew]

end Turn

namespace Party

def Opened (s : Party) : Prop := ∃ r ∈ s.runs, r.HasOpened

theorem Opened.turn {s : Party} (h : s.Opened) (k : Nat) : (s.turn k).Opened := by
  obtain ⟨x, hx, ho⟩ := h
  unfold Party.turn
  split
  · exact ⟨x, hx, ho⟩
  · next r hr =>
    rcases eq_or_run_after hr hx with rfl | hx
    · exact ⟨_, moved_run_after hr, Run.hasOpened_step ho⟩
    · exact ⟨x, hx, ho⟩

theorem Opened.play {s : Party} (h : s.Opened) (schedule : List Nat) :
    (s.play schedule).Opened := by
  induction schedule generalizing s with
  | nil => exact h
  | cons k schedule ih => exact ih (h.turn k)

end Party

/-! ### One target -/

/-- The inode that stands at a place once something does. -/
def target (fs : FileSystem) : Place → Ino
  | .present i => i
  | .absent _ _ => fs.fresh

/-- Every path that leads anywhere leads to the same place, which is a regular file or a name that is
free. -/
structure SameTarget (fs : FileSystem) (jobs : List (Caller × Bytes)) (place : Place) : Prop where
  file : ∀ i, place = .present i → ∃ c, fs.node? i = some (.regular c)
  lead : ∀ p path, (p, path) ∈ jobs → ∀ place', fs.locate p.user p.cwd path = .ok place' →
    place' = place

/-- A file system with something at the place: the file that is there, or a new one. -/
inductive Occupied (fs : FileSystem) : Place → FileSystem → Prop
  | already {i : Ino} : Occupied fs (.present i) fs
  | anew {dir : Ino} {name : Bytes} {new : Inode} : Addition fs dir name new → new.links = 1 →
      Occupied fs (.absent dir name) (fs.addChild dir name new)

namespace Occupied

variable {fs base : FileSystem} {place : Place}

theorem locate (B : Occupied fs place base) {u : User} {dir : Ino} {path : Bytes}
    (h : fs.locate u dir path = .ok place) :
    base.locate u dir path = .ok (.present (target fs place)) := by
  cases B with
  | already => exact h
  | anew A _ => exact A.locate_fresh h

theorem lead (B : Occupied fs place base) {u : User} {dir : Ino} {path : Bytes}
    (hlead : ∀ place', fs.locate u dir path = .ok place' → place' = place) {place' : Place}
    (h : base.locate u dir path = .ok place') : place' = .present (target fs place) := by
  cases B with
  | already => exact hlead _ h
  | anew A _ =>
    rcases A.locate_before h with hfresh | hl
    · exact hfresh
    · -- the path led to the free name before, so it leads to the new file now
      cases hlead _ hl
      rw [A.locate_fresh hl] at h
      cases h

theorem oneEntryAtMost (B : Occupied fs place base) {fs' : FileSystem}
    (h : fs'.outline = base.outline) : OneEntryAtMost (some place) fs fs' := by
  refine OneEntryAtMost.of_outline ?_ h
  cases B with
  | already => exact .inl ⟨rfl, fun _ => rfl⟩
  | anew A hlinks => exact (OnlyAt.added A hlinks).additions

theorem of_opening {jobs : List (Caller × Bytes)} {p : Caller} {path : Bytes} {i : Ino}
    (hS : SameTarget fs jobs place) (hjob : (p, path) ∈ jobs)
    (O : Opening fs p mode path i base) :
    i = target fs place ∧ base.node? i = some (.regular .empty) ∧
      ∃ b, Occupied fs place b ∧ base.outline = b.outline := by
  cases O with
  | created hl _ =>
    cases hS.lead p path hjob _ hl
    have A := Opening.addition p.umask mode_closed hl
    refine ⟨rfl, ?_, _, .anew A rfl, rfl⟩
    rw [node?, A.inode?_fresh]
    rfl
  | emptied hl hn _ =>
    cases hS.lead p path hjob _ hl
    exact ⟨rfl, node?_emptied p.user hn, fs, .already, Opening.outline_emptied hn⟩
  | untouched hl hn hkind _ =>
    cases hS.lead p path hjob _ hl
    obtain ⟨c, hc⟩ := hS.file _ rfl
    rw [hn] at hc
    rcases hkind with rfl | ⟨d, rfl⟩ <;> cases hc

end Occupied

/-! ### The invariant -/

structure Untouched (fs : FileSystem) (s : Party) : Prop where
  files : s.files = fs
  runs : ∀ r ∈ s.runs, ¬ r.HasOpened

/-- The target has been opened: every handle is on it, it holds nothing or the fixture, and if it
holds nothing then some run still owes the last byte. -/
structure Shared (fs : FileSystem) (place : Place) (s : Party) : Prop where
  base : ∃ base, Occupied fs place base ∧ s.files.outline = base.outline
  handles : ∀ r ∈ s.runs, r.HandleOn (target fs place)
  content : ∃ c, s.files.node? (target fs place) = some (.regular c) ∧ Blank c ∧
    (c.toBytes = [] → ∃ r ∈ s.runs, r.Owes)

structure Sharing (fs : FileSystem) (jobs : List (Caller × Bytes)) (place : Place) (s : Party) :
    Prop where
  jobs : ∀ r ∈ s.runs, (r.caller, r.path) ∈ jobs
  stage : Untouched fs s ∨ Shared fs place s

section Turns

variable {fs : FileSystem} {jobs : List (Caller × Bytes)} {place : Place} {s : Party}

theorem sharing_start (fs : FileSystem) (jobs : List (Caller × Bytes)) (place : Place) :
    Sharing fs jobs place (Party.start jobs fs) := by
  refine ⟨?_, .inl ⟨rfl, ?_⟩⟩
  · intro r hr
    obtain ⟨job, hjob, rfl⟩ := List.mem_map.mp hr
    exact hjob
  · intro r hr
    obtain ⟨job, _, rfl⟩ := List.mem_map.mp hr
    exact id

theorem Untouched.turn (hS : SameTarget fs jobs place) (U : Untouched fs s) {k : Nat} {r : Run}
    (hr : s.runs[k]? = some r) (hjob : (r.caller, r.path) ∈ jobs) :
    Untouched fs ⟨s.runs.set k (r.step s.files).1, (r.step s.files).2⟩ ∨
      Shared fs place ⟨s.runs.set k (r.step s.files).1, (r.step s.files).2⟩ := by
  have hfs := U.files
  subst hfs
  rcases Run.step_of_not_hasOpened (U.runs r (List.mem_of_getElem? hr)) with
    ⟨ho, hfs⟩ | ⟨i, hphase, O⟩
  · exact .inl ⟨hfs, every_run_after U.runs ho⟩
  · obtain ⟨rfl, hn, hbase⟩ := Occupied.of_opening hS hjob O
    refine .inr ⟨hbase, every_run_after ?_ ?_, .empty, hn, .empty, fun _ => ?_⟩
    · exact fun x hx => Run.handleOn_of_not_hasOpened _ (U.runs x hx)
    · simp only [Run.HandleOn, hphase]
    · refine ⟨_, moved_run_after hr, ?_, ?_⟩
      · simp only [Run.HasOpened, hphase]
      · rw [hphase]
        intro h
        cases h

theorem Shared.turn (hS : SameTarget fs jobs place) (H : Shared fs place s) {k : Nat} {r : Run}
    (hr : s.runs[k]? = some r) (hjob : (r.caller, r.path) ∈ jobs) :
    Shared fs place ⟨s.runs.set k (r.step s.files).1, (r.step s.files).2⟩ := by
  obtain ⟨base, B, hout⟩ := H.base
  obtain ⟨c, hn, hc, howes⟩ := H.content
  have hlead : ∀ place', s.files.locate r.caller.user r.caller.cwd r.path = .ok place' →
      place' = .present (target fs place) :=
    fun place' h => B.lead (hS.lead _ _ hjob) (locate_of_outline hout.symm h)
  obtain ⟨hh, hout', c', hn', hc', howes'⟩ :=
    Run.step_on_file (H.handles r (List.mem_of_getElem? hr)) hn hc hlead
  refine ⟨⟨base, B, hout'.trans hout⟩, every_run_after H.handles hh, c', hn', hc', fun he => ?_⟩
  rcases howes' he with ho | ⟨hno, rfl⟩
  · exact ⟨_, moved_run_after hr, ho⟩
  · -- another run owes the last byte, and it has not moved
    obtain ⟨x, hx, hxo⟩ := howes he
    rcases eq_or_run_after hr hx with rfl | hx
    · exact absurd hxo hno
    · exact ⟨x, hx, hxo⟩

theorem Sharing.turn (hS : SameTarget fs jobs place) (I : Sharing fs jobs place s) (k : Nat) :
    Sharing fs jobs place (s.turn k) := by
  unfold Party.turn
  split
  · exact I
  · next r hr =>
    have hjob := I.jobs r (List.mem_of_getElem? hr)
    refine ⟨every_run_after I.jobs ?_, ?_⟩
    · obtain ⟨hcaller, hpath⟩ := r.step_job s.files
      rw [hcaller, hpath]
      exact hjob
    · rcases I.stage with U | H
      · exact U.turn hS hr hjob
      · exact .inr (H.turn hS hr hjob)

theorem Sharing.play (hS : SameTarget fs jobs place) (schedule : List Nat)
    (I : Sharing fs jobs place s) : Sharing fs jobs place (s.play schedule) := by
  induction schedule generalizing s with
  | nil => exact I
  | cons k schedule ih => exact ih (I.turn hS k)

end Turns

/-- Runs on one target, in any order of their calls and wherever they fail or stop: from the first
opening on the target holds nothing or the fixture, at most one entry is made, and once all runs that
have opened the target have succeeded it holds the fixture. -/
theorem interleaved_runs_keep_fixture (fs : FileSystem) (jobs : List (Caller × Bytes))
    (place : Place) (hS : SameTarget fs jobs place) (before after : List Nat) :
    let s₀ := (Party.start jobs fs).play before
    let s := s₀.play after
    (s₀.Opened →
      (s.files.contentOf (target fs place) = some [] ∨
        s.files.contentOf (target fs place) = some bytes) ∧
      ∀ p path, (p, path) ∈ jobs → fs.locate p.user p.cwd path = .ok place →
        s.files.locate p.user p.cwd path = .ok (.present (target fs place))) ∧
    OneEntryAtMost (some place) fs s.files ∧
    (s.Opened → (∀ r ∈ s.runs, r.HasOpened → r.phase = .finished (.ok ())) →
      s.files.contentOf (target fs place) = some bytes) := by
  intro s₀ s
  have I : Sharing fs jobs place s := ((sharing_start fs jobs place).play hS before).play hS after
  rcases I.stage with U | H
  · have hnot : ¬ s.Opened := fun ⟨r, hr, ho⟩ => U.runs r hr ho
    refine ⟨fun ho => absurd (ho.play after) hnot, ?_, fun ho => absurd ho hnot⟩
    rw [U.files]
    exact .inl ⟨rfl, fun _ => rfl⟩
  · obtain ⟨base, B, hout⟩ := H.base
    obtain ⟨c, hn, hc, howes⟩ := H.content
    rw [contentOf_regular hn]
    refine ⟨fun _ => ⟨?_, fun p path _ hl => ?_⟩, B.oneEntryAtMost hout, fun _ hall => ?_⟩
    · exact hc.imp (congrArg some) (congrArg some)
    · exact locate_of_outline hout (B.locate hl)
    · rcases hc with he | hb
      · obtain ⟨r, hr, ho, hnot⟩ := howes he
        exact absurd (hall r hr ho) hnot
      · rw [hb]

/- The owner and the superuser, who make the fixture in the same directory under two paths. -/
def rivals : List (Caller × Bytes) :=
  [(.initial .owner, nameBytes), (.initial .superuser, Bytes.ofText "./test.pma")]

theorem rivals_make_fixture :
    SameTarget FileSystem.initial rivals (.absent workplace nameBytes) ∧
    ((Party.start rivals FileSystem.initial).play [0, 1, 0, 1, 1, 0]).files.contentOf
      FileSystem.initial.fresh = some bytes := by
  have hS : SameTarget FileSystem.initial rivals (.absent workplace nameBytes) := by
    refine ⟨nofun, fun p path hjob place' h => ?_⟩
    simp only [rivals, List.mem_cons, List.not_mem_nil, or_false, Prod.mk.injEq] at hjob
    rcases hjob with ⟨rfl, rfl⟩ | ⟨rfl, rfl⟩
    · exact (Except.ok.inj h).symm
    · exact (Except.ok.inj h).symm
  have hphases : ((Party.start rivals FileSystem.initial).play [0, 1, 0, 1, 1, 0]).runs.map
      Run.phase = [.finished (.ok ()), .finished (.ok ())] := rfl
  have hrun : ∀ r ∈ ((Party.start rivals FileSystem.initial).play [0, 1, 0, 1, 1, 0]).runs,
      r.phase = .finished (.ok ()) := by
    intro r hr
    have hmem := List.mem_map_of_mem (f := Run.phase) hr
    rw [hphases] at hmem
    simpa using hmem
  have hsome : ((Party.start rivals FileSystem.initial).play [0, 1, 0, 1, 1, 0]).runs ≠ [] := by
    intro h
    rw [h] at hphases
    cases hphases
  obtain ⟨r, hr⟩ := List.exists_mem_of_ne_nil _ hsome
  refine ⟨hS, (interleaved_runs_keep_fixture _ _ _ hS [0, 1, 0, 1, 1, 0] []).2.2
    ⟨r, hr, ?_⟩ fun r hr _ => hrun r hr⟩
  simp only [Run.HasOpened, hrun r hr]

end Fixture

end SparseFixture
