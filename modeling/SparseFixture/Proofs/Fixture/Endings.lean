import SparseFixture.FileSystem.Layout
import SparseFixture.Fixture.Generate
import SparseFixture.Proofs.FileSystem.Opening

/-!
# How a run ends

A run of the generator ends in one of six ways, which depend on what was opened and on the limit of
the caller. `Ending` lists them with everything that the run leaves. From it follow what a success
promises and what a failure leaves behind.
-/

namespace SparseFixture

namespace FileSystem

def contentOf (fs : FileSystem) (i : Ino) : Option Bytes :=
  match fs.node? i with
  | some (.regular c) => some c.toBytes
  | _ => none

theorem contentOf_regular {fs : FileSystem} {i : Ino} {c : Content}
    (h : fs.node? i = some (.regular c)) : fs.contentOf i = some c.toBytes := by
  rw [contentOf, h]

theorem node?_withObject {fs : FileSystem} {i : Ino} {c : Content} (c' : Content)
    (h : fs.node? i = some (.regular c)) :
    (fs.modify i (Inode.withObject (.regular c'))).node? i = some (.regular c') := by
  obtain ⟨⟨m, k, n⟩, hi, hn⟩ := Option.map_eq_some_iff.mp h
  rw [node?, inode?_modify, if_pos rfl, hi]
  subst hn
  rfl

end FileSystem

namespace Fixture

open FileSystem

/-! ### The content of the fixture -/

def bytes : Bytes := List.replicate size 0

theorem size_eq : size = lastOffset + 1 := rfl

theorem bytes_ne_nil : bytes ≠ [] := by
  rw [bytes, size_eq, List.replicate_succ]
  exact List.cons_ne_nil _ _

/-- To write the last byte makes the fixture of an empty file, and keeps the fixture. -/
theorem toBytes_writeAt_last {c : Content} (h : c.toBytes = [] ∨ c.toBytes = bytes) :
    (c.writeAt lastOffset [0]).toBytes = bytes := by
  rw [Content.toBytes_writeAt]
  rcases h with h | h
  · rw [h, bytes, size_eq, List.replicate_succ']
    simp only [List.take_nil, List.drop_nil, List.nil_append, List.append_nil, List.length_nil,
      Nat.sub_zero]
  · have hgap : lastOffset - (lastOffset + 1) = 0 := by omega
    have hrest : lastOffset + 1 - (lastOffset + 1) = 0 := by omega
    rw [h, bytes, size_eq, List.take_replicate, List.drop_replicate, List.length_replicate,
      List.length_singleton, hgap, hrest, Nat.min_eq_left (Nat.le_succ _), List.replicate_zero,
      List.append_nil, List.append_nil, ← List.replicate_succ']

def content : Content := Content.empty.writeAt lastOffset [0]

theorem toBytes_content : content.toBytes = bytes :=
  toBytes_writeAt_last (.inl Content.toBytes_empty)

theorem size_content : content.size = size := by
  rw [← Content.length_toBytes, toBytes_content, bytes, List.length_replicate]

/-! ### The calls on an open file -/

/-- Whether a caller may not write as far as the fixture goes. -/
def Limited (p : Caller) : Prop := p.sizeLimit.any (· < size) = true

instance (p : Caller) : Decidable (Limited p) := inferInstanceAs (Decidable (_ = true))

variable {fs fs' : FileSystem} {p : Caller} {path : Bytes} {i : Ino} {k : Nat} {c : Content}

theorem lastOffset_reachable : ¬ OpenFile.maxOffset < lastOffset := by decide

theorem seekSet_regular (hn : fs.node? i = some (.regular c)) :
    fs.seekSet ⟨i, k⟩ lastOffset = (.ok lastOffset, ⟨i, lastOffset⟩) := by
  simp only [seekSet, opened, object, hn, OpenFile.seekSet, if_neg lastOffset_reachable]

theorem seekSet_device {d : Device} (hn : fs.node? i = some (.device d)) :
    fs.seekSet ⟨i, k⟩ lastOffset = (.ok 0, ⟨i, k⟩) := by
  simp only [seekSet, opened, object, hn, OpenFile.seekSet, if_neg lastOffset_reachable]

theorem seekSet_fifo (hn : fs.node? i = some .fifo) :
    fs.seekSet ⟨i, k⟩ lastOffset = (.error (.os Errno.illegalSeek), ⟨i, k⟩) := by
  simp only [seekSet, opened, object, hn, OpenFile.seekSet, if_neg lastOffset_reachable]

theorem write_regular (hn : fs.node? i = some (.regular c)) :
    fs.write p ⟨i, lastOffset⟩ [0] =
      if Limited p then (.error (.os Errno.tooLarge), ⟨i, lastOffset⟩, fs)
      else (.ok (), ⟨i, size⟩,
        fs.modify i (Inode.withObject (.regular (c.writeAt lastOffset [0])))) := by
  have hmax : ¬ OpenFile.maxOffset < size := by decide
  have hend : lastOffset + [(0 : UInt8)].length = size := rfl
  have hobj : fs.object i = .regular c := by rw [object, hn]
  have hsame := fs.modify_withObject_object i
  rw [hobj] at hsame
  by_cases hl : Limited p
  · have hl' : p.sizeLimit.any (· < size) = true := hl
    simp only [write, opened, hobj, OpenFile.write, hend, if_neg hmax, if_pos hl', if_pos hl, hsame,
      List.isEmpty_cons, Bool.not_true, Bool.false_eq_true, if_false]
  · have hl' : ¬ p.sizeLimit.any (· < size) = true := hl
    simp only [write, opened, hobj, OpenFile.write, hend, if_neg hmax, if_neg hl', if_neg hl,
      List.isEmpty_cons, Bool.not_true, Bool.false_eq_true, if_false]

theorem write_device {d : Device} (hn : fs.node? i = some (.device d)) :
    fs.write p ⟨i, k⟩ [0] =
      (if d = .full then .error (.os Errno.noSpace) else .ok (), ⟨i, k⟩, fs) := by
  have hobj : fs.object i = .device d := by rw [object, hn]
  have hsame := fs.modify_withObject_object i
  rw [hobj] at hsame
  cases d <;> simp only [write, opened, hobj, OpenFile.write, hsame, List.isEmpty_cons,
    Bool.not_true, Bool.false_eq_true, if_false, reduceCtorEq, if_true]

theorem summary_regular (hn : fs.node? i = some (.regular c)) :
    summary fs p path ⟨i, k⟩ = [.wrote path c.size (p.allocated c.size)] := by
  simp only [summary, length, opened, object, hn, OpenFile.length]

theorem summary_device {d : Device} (hn : fs.node? i = some (.device d)) :
    summary fs p path ⟨i, k⟩ = [.wrote path 0 (p.allocated 0)] := by
  simp only [summary, length, opened, object, hn, OpenFile.length]

/-! ### The six endings -/

/-- How a run ends: its path cannot be opened; it leads to a pipe, to a device that takes the last
byte or to one that does not; or it leads to a regular file that gets the last byte or must not. -/
inductive Ending (fs : FileSystem) (p : Caller) (path : Bytes) : Outcome → Prop
  | uncreated {c : Cause} : create fs p path = (.error c, fs) →
      Ending fs p path ⟨.error (.create path c), [.creating path], fs⟩
  | pipe {i : Ino} {fs₁ : FileSystem} : create fs p path = (.ok ⟨i, 0⟩, fs₁) →
      fs₁.node? i = some .fifo →
      Ending fs p path ⟨.error (.seek lastOffset (.os Errno.illegalSeek)), [.creating path], fs₁⟩
  | full {i : Ino} {fs₁ : FileSystem} : create fs p path = (.ok ⟨i, 0⟩, fs₁) →
      fs₁.node? i = some (.device .full) →
      Ending fs p path ⟨.error (.write lastOffset (.os Errno.noSpace)),
        [.creating path, .cursor 0], fs₁⟩
  | swallowed {i : Ino} {d : Device} {fs₁ : FileSystem} : create fs p path = (.ok ⟨i, 0⟩, fs₁) →
      fs₁.node? i = some (.device d) → d ≠ .full →
      Ending fs p path ⟨.ok (), [.creating path, .cursor 0, .wrote path 0 (p.allocated 0)], fs₁⟩
  | limited {i : Ino} {fs₁ : FileSystem} : create fs p path = (.ok ⟨i, 0⟩, fs₁) →
      fs₁.node? i = some (.regular .empty) → Limited p →
      Ending fs p path ⟨.error (.write lastOffset (.os Errno.tooLarge)),
        [.creating path, .cursor lastOffset], fs₁⟩
  | filled {i : Ino} {fs₁ : FileSystem} : create fs p path = (.ok ⟨i, 0⟩, fs₁) →
      fs₁.node? i = some (.regular .empty) → ¬ Limited p →
      Ending fs p path ⟨.ok (), [.creating path, .cursor lastOffset,
        .wrote path size (p.allocated size)], fs₁.modify i (Inode.withObject (.regular content))⟩

theorem opening_of_create {h : Handle} (hc : create fs p path = (.ok h, fs')) :
    h = ⟨h.ino, 0⟩ ∧ Opening fs p mode path h.ino fs' := by
  obtain ⟨hcursor, O⟩ := opening_of_openTruncated hc
  refine ⟨?_, O⟩
  rw [← hcursor]

theorem mode_closed : mode.has Mode.ownerSearch = false := by decide

theorem ending (fs : FileSystem) (p : Caller) (path : Bytes) :
    Ending fs p path (generateAt fs p path) := by
  rcases hc : create fs p path with ⟨c | h, fs₁⟩
  · have hfs : fs₁ = fs := openTruncated_of_error hc
    subst hfs
    simp only [generateAt, hc]
    exact .uncreated hc
  · obtain ⟨hh, O⟩ := opening_of_create hc
    rw [hh] at hc
    simp only [generateAt, hc]
    rcases O.node mode_closed with hn | hn | ⟨d, hn⟩
    · simp only [seekSet_regular hn, write_regular hn]
      by_cases hl : Limited p
      · simp only [if_pos hl]
        exact .limited hc hn hl
      · have hcontent : Content.empty.writeAt lastOffset [0] = content := rfl
        simp only [if_neg hl, hcontent, summary_regular (node?_withObject _ hn), size_content]
        exact .filled hc hn hl
    · simp only [seekSet_fifo hn]
      exact .pipe hc hn
    · by_cases hd : d = .full
      · subst hd
        simp only [seekSet_device hn, write_device hn, if_true]
        exact .full hc hn
      · simp only [seekSet_device hn, write_device hn, if_neg hd, summary_device hn]
        exact .swallowed hc hn hd

theorem cause_of_error {f : Failure} (h : (generateAt fs p path).result = .error f) :
    f.cause = .nulInPath ∨ ∃ e, f.cause = .os e := by
  have E := ending fs p path
  generalize generateAt fs p path = o at h E
  cases E with
  | uncreated hc =>
    cases h
    exact cause_of_openTruncated hc
  | pipe | full | limited =>
    cases h
    exact .inr ⟨_, rfl⟩
  | swallowed | filled => cases h

theorem nul_mem_of_error {f : Failure} (h : (generateAt fs p path).result = .error f)
    (hcause : f.cause = .nulInPath) : Bytes.nul ∈ path := by
  have E := ending fs p path
  generalize generateAt fs p path = o at h E
  cases E with
  | uncreated hc =>
    cases h
    subst hcause
    exact nul_mem_of_openTruncated hc
  | pipe | full | limited =>
    cases h
    cases hcause
  | swallowed | filled => cases h

theorem result_eq_create_iff {q : Bytes} {c : Cause} :
    (generateAt fs p path).result = .error (.create q c) ↔
      q = path ∧ (create fs p path).1 = .error c := by
  have E := ending fs p path
  generalize generateAt fs p path = o at E ⊢
  cases E with
  | uncreated hc =>
    rw [hc]
    constructor
    · intro h
      cases h
      exact ⟨rfl, rfl⟩
    · rintro ⟨rfl, h⟩
      cases h
      rfl
  | pipe hc _ | full hc _ | swallowed hc _ _ | limited hc _ _ | filled hc _ _ =>
    rw [hc]
    constructor
    · intro h
      cases h
    · rintro ⟨_, h⟩
      cases h

theorem path_of_create_error {q : Bytes} {c : Cause}
    (h : (generateAt fs p path).result = .error (.create q c)) : q = path :=
  (result_eq_create_iff.mp h).1

/-! ### What a success promises -/

/-- A path leads to the fixture, or to a device that takes every byte. -/
def LeadsToFixture (fs : FileSystem) (p : Caller) (path : Bytes) : Prop :=
  ∃ i, fs.locate p.user p.cwd path = .ok (.present i) ∧
    (fs.contentOf i = some bytes ∨ fs.node? i = some (.device .null) ∨
      fs.node? i = some (.device .zero))

theorem leadsToFixture_of_ok (h : (generateAt fs p path).result = .ok ()) :
    LeadsToFixture (generateAt fs p path).files p path := by
  have E := ending fs p path
  generalize generateAt fs p path = o at h E ⊢
  cases E with
  | uncreated | pipe | full | limited => cases h
  | @swallowed i d fs₁ hc hn hd =>
    obtain ⟨_, O⟩ := opening_of_create hc
    refine ⟨i, O.locate mode_closed, .inr ?_⟩
    cases d with
    | null => exact .inl hn
    | zero => exact .inr hn
    | full => exact absurd rfl hd
  | @filled i fs₁ hc hn hl =>
    obtain ⟨_, O⟩ := opening_of_create hc
    refine ⟨i, locate_of_outline (outline_withObject fs₁ i _) (O.locate mode_closed), .inl ?_⟩
    rw [contentOf_regular (node?_withObject content hn), toBytes_content]

/-- A success means that the fixture is there, whichever way the run was called. -/
theorem success_leads_to_fixture (fs : FileSystem) (p : Caller) :
    (∀ q, (generateAt fs p q).result = .ok () → LeadsToFixture (generateAt fs p q).files p q) ∧
    ((generate fs p).result = .ok () → LeadsToFixture (generate fs p).files p nameBytes) ∧
    (∀ dir, (generateIn fs p dir).result = .ok () →
      LeadsToFixture (generateIn fs p dir).files p (Fixture.path dir)) :=
  ⟨fun _ => leadsToFixture_of_ok, leadsToFixture_of_ok, fun _ => leadsToFixture_of_ok⟩

/- A link in the working directory whose target, in the directory above, is missing. -/
def dangling : FileSystem :=
  FileSystem.initial.addChild workplace (Bytes.ofText "link")
    ⟨0o777, 1, .symlink (Bytes.ofText "../fixture")⟩

theorem success_through_dangling_link :
    (generateAt dangling (.initial .owner) (Bytes.ofText "link")).result = .ok () ∧
    LeadsToFixture (generateAt dangling (.initial .owner) (Bytes.ofText "link")).files
      (.initial .owner) (Bytes.ofText "link") := by
  have h : (generateAt dangling (.initial .owner) (Bytes.ofText "link")).result = .ok () := by rfl
  exact ⟨h, (success_leads_to_fixture dangling (.initial .owner)).1 _ h⟩

/-! ### What a failure leaves -/

/-- The fixture has come into a regular file; anything else has been left alone. -/
def FilledAt (fs fs' : FileSystem) (i : Ino) : Prop :=
  match fs.node? i with
  | some (.regular _) =>
    ∃ c, c.toBytes = bytes ∧ fs' = fs.modify i (Inode.withObject (.regular c))
  | _ => fs' = fs

/-- The files that a run leaves, compared with those that opening its path alone leaves. -/
theorem files_left_by_result (fs : FileSystem) (p : Caller) (path : Bytes) :
    match (generateAt fs p path).result with
    | .error (.create _ _) => (generateAt fs p path).files = fs
    | .error (.seek _ _) | .error (.write _ _) =>
      (∃ i, Opening fs p mode path i (create fs p path).2) ∧
        (generateAt fs p path).files = (create fs p path).2
    | .ok () =>
      ∃ i, Opening fs p mode path i (create fs p path).2 ∧
        FilledAt (create fs p path).2 (generateAt fs p path).files i := by
  have E := ending fs p path
  generalize generateAt fs p path = o at E ⊢
  cases E with
  | uncreated hc => rfl
  | pipe hc _ | full hc _ | limited hc _ _ =>
    simp only [hc, and_true]
    exact ⟨_, (opening_of_create hc).2⟩
  | swallowed hc hn _ =>
    simp only [hc]
    refine ⟨_, (opening_of_create hc).2, ?_⟩
    simp only [FilledAt, hn]
  | filled hc hn _ =>
    simp only [hc]
    refine ⟨_, (opening_of_create hc).2, ?_⟩
    simp only [FilledAt, hn]
    exact ⟨content, toBytes_content, rfl⟩

/-! ### Which step fails -/

/-- Whether a caller may write as far as the fixture goes. -/
def MayFill (p : Caller) : Prop :=
  p.sizeLimit = none ∨ ∃ limit, p.sizeLimit = some limit ∧ size ≤ limit

theorem mayFill_iff : MayFill p ↔ ¬ Limited p := by
  unfold MayFill Limited
  cases p.sizeLimit with
  | none => simp
  | some limit => simp

theorem cause_ne_offsetTooLarge {f : Failure} (h : (generateAt fs p path).result = .error f) :
    f.cause ≠ .offsetTooLarge := by
  rcases cause_of_error h with hc | ⟨e, hc⟩
  · rw [hc]
    decide
  · rw [hc]
    intro he
    cases he

def Outcome.FailedFor (o : Outcome) (c : Cause) : Prop := ∃ f, o.result = .error f ∧ f.cause = c

/-- What a run comes to is decided by its opening: by the cause for which it failed, or by what it
has opened and how far the caller may write. -/
theorem result_decided_by_opening (fs : FileSystem) (p : Caller) :
    (∀ path q c, (generateAt fs p path).result = .error (.create q c) ↔
      q = path ∧ (create fs p path).1 = .error c) ∧
    (∀ path,
      match create fs p path with
      | (.error c, _) => (generateAt fs p path).result = .error (.create path c)
      | (.ok h, fs₁) =>
        match fs₁.node? h.ino with
        | some (.regular _) =>
          ((generateAt fs p path).result = .ok () ↔ MayFill p) ∧
          ((generateAt fs p path).result = .error (.write (size - 1) (.os Errno.tooLarge)) ↔
            ¬ MayFill p)
        | some .fifo =>
          (generateAt fs p path).result = .error (.seek (size - 1) (.os Errno.illegalSeek))
        | some (.device .null) | some (.device .zero) => (generateAt fs p path).result = .ok ()
        | some (.device .full) =>
          (generateAt fs p path).result = .error (.write (size - 1) (.os Errno.noSpace))
        | _ => False) ∧
    (∀ path, ¬ (generateAt fs p path).FailedFor .offsetTooLarge) ∧
    ¬ (generate fs p).FailedFor .offsetTooLarge ∧
    ∀ dir, ¬ (generateIn fs p dir).FailedFor .offsetTooLarge := by
  have hoffset : ∀ path, ¬ (generateAt fs p path).FailedFor .offsetTooLarge :=
    fun path ⟨f, hf, hc⟩ => cause_ne_offsetTooLarge hf hc
  refine ⟨fun path q c => result_eq_create_iff, fun path => ?_, hoffset, hoffset _,
    fun dir => hoffset _⟩
  have E := ending fs p path
  generalize generateAt fs p path = o at E ⊢
  cases E with
  | uncreated hc => simp only [hc]
  | pipe hc hn | full hc hn =>
    simp only [hc, hn]
    rfl
  | @swallowed i d fs₁ hc hn hd =>
    simp only [hc, hn]
    cases d with
    | null | zero => trivial
    | full => exact absurd rfl hd
  | limited hc hn hl =>
    have hfill : ¬ MayFill p := fun h => mayFill_iff.mp h hl
    simp only [hc, hn]
    exact ⟨⟨nofun, fun h => absurd h hfill⟩, ⟨fun _ => hfill, fun _ => rfl⟩⟩
  | filled hc hn hl =>
    have hfill : MayFill p := mayFill_iff.mpr hl
    simp only [hc, hn]
    exact ⟨⟨fun _ => hfill, fun _ => trivial⟩, ⟨nofun, fun h => absurd hfill h⟩⟩

end Fixture

end SparseFixture
