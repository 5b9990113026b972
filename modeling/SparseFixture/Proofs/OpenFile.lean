import SparseFixture.OpenFile

/-!
# What calls on an open file come to

In a regular file the cursor goes exactly where it is sent, and what is written there is read back
from there. Whatever a descriptor leads to, a call that fails is as good as one that was never made. A
call that waits on a pipe is another matter: it may have written a part of its bytes, but it never fails,
since it never comes back.
-/

namespace SparseFixture

namespace Content

/-! ### The three parts of a content after a write -/

/-- The bytes before an offset, with zeros where the content has ended. -/
def padded (c : Content) (offset : Nat) : Bytes :=
  c.toBytes.take offset ++ List.replicate (offset - c.toBytes.length) 0

theorem length_padded (c : Content) (offset : Nat) : (c.padded offset).length = offset := by
  simp only [padded, List.length_append, List.length_take, List.length_replicate]
  omega

theorem parts_of_writeAt (c : Content) (offset : Nat) (bs : Bytes) :
    (c.writeAt offset bs).toBytes =
      c.padded offset ++ (bs ++ c.toBytes.drop (offset + bs.length)) := by
  rw [toBytes_writeAt, padded]
  simp only [List.append_assoc]

theorem take_writeAt (c : Content) (offset : Nat) (bs : Bytes) :
    (c.writeAt offset bs).toBytes.take offset = c.padded offset := by
  rw [parts_of_writeAt]
  exact List.take_left' (length_padded c offset)

theorem drop_writeAt (c : Content) (offset : Nat) (bs : Bytes) :
    (c.writeAt offset bs).toBytes.drop (offset + bs.length) =
      c.toBytes.drop (offset + bs.length) := by
  have hlength : (c.padded offset ++ bs).length = offset + bs.length := by
    rw [List.length_append, length_padded]
  rw [parts_of_writeAt, ← List.append_assoc]
  exact List.drop_left' hlength

theorem length_writeAt (c : Content) (offset : Nat) (bs : Bytes) :
    (c.writeAt offset bs).toBytes.length = max c.toBytes.length (offset + bs.length) := by
  rw [parts_of_writeAt]
  simp only [List.length_append, length_padded, List.length_drop]
  omega

theorem read_writeAt (c : Content) (offset : Nat) (bs : Bytes) :
    (c.writeAt offset bs).read offset bs.length = bs := by
  rw [read_eq, parts_of_writeAt, List.drop_left' (length_padded c offset)]
  exact List.take_left' rfl

theorem read_eq_extract (c : Content) (offset n : Nat) :
    c.read offset n = c.toBytes.extract offset (min (offset + n) c.toBytes.length) := by
  have hrest : (c.toBytes.drop offset).length = c.toBytes.length - offset := List.length_drop
  rw [read_eq, List.extract_eq_take_drop, List.take_eq_take_iff, hrest]
  omega

end Content

namespace OpenFile

/-! ### A regular file -/

/-- A regular file, open for reading and writing. -/
def file (c : Content) (cursor : Nat) : OpenFile := ⟨.regular c, true, true, cursor⟩

variable {c : Content} {k o n : Nat} {w : Bytes}

theorem seekSet_file (h : o ≤ maxOffset) : (file c k).seekSet o = (.ok o, file c o) := by
  have hfits : ¬ maxOffset < o := Nat.not_lt.mpr h
  simp only [seekSet, file, if_neg hfits]

theorem read_file (h : k + n ≤ maxOffset) :
    (file c k).read n = (.ok (c.read k n), file c (k + (c.read k n).length)) := by
  have hfits : ¬ maxOffset < k + n := Nat.not_lt.mpr h
  by_cases hn : n = 0
  -- no byte is asked for, so the cursor is not looked at
  · have hnone : c.read k n = [] := by rw [Content.read_eq, hn, List.take_zero]
    simp only [read, file, hnone, if_pos hn, Bool.not_true, Bool.false_eq_true, if_false,
      List.length_nil, Nat.add_zero]
  · simp only [read, file, if_neg hn, Bool.not_true, Bool.false_eq_true, if_false]
    exact if_neg hfits

theorem write_file (hw : w ≠ []) (h : k + w.length ≤ maxOffset) :
    (file c k).write none w = (.ok (), file (c.writeAt k w) (k + w.length)) := by
  have hfits : ¬ maxOffset < k + w.length := Nat.not_lt.mpr h
  have hsome : ¬ w.isEmpty = true := fun he => hw (List.isEmpty_iff.mp he)
  simp only [write, file, if_neg hsome, if_neg hfits, Bool.not_true, Bool.false_eq_true, if_false,
    Option.any_none]

theorem waits_file (c : Content) (k : Nat) (r : Request) : (file c k).waits r = false := by
  cases r <;> rfl

/-- The cursor goes exactly where it is sent: what follows reads from there, or writes there and
reads it back, and the rest of the file is as it was. -/
theorem seekSet_positions_exactly (c : Content) (cursor o : Nat) (w : Bytes) (hw : w ≠ [])
    (hend : o + w.length ≤ maxOffset) :
    (file c cursor).session [.seekSet o, .length] =
      ([.position o, .length c.toBytes.length], file c o) ∧
    (∀ n, o + n ≤ maxOffset →
      let bs := c.toBytes.extract o (min (o + n) c.toBytes.length)
      (c.toBytes.length ≤ o → bs = []) ∧
      (file c cursor).session [.seekSet o, .read n] =
        ([.position o, .bytes bs], file c (o + bs.length))) ∧
    ∃ c', (file c cursor).session [.seekSet o, .write w, .seekSet o, .read w.length] =
        ([.position o, .written, .position o, .bytes w], file c' (o + w.length)) ∧
      c'.toBytes.length = max c.toBytes.length (o + w.length) ∧
      c'.toBytes.take o = c.toBytes.take o ++ List.replicate (o - c.toBytes.length) 0 ∧
      c'.toBytes.drop (o + w.length) = c.toBytes.drop (o + w.length) := by
  have ho : o ≤ maxOffset := by omega
  refine ⟨?_, fun n hn => ?_, c.writeAt o w, ?_, c.length_writeAt o w, c.take_writeAt o w,
    c.drop_writeAt o w⟩
  · have hlength : (file c o).length = .ok c.size := rfl
    simp only [session, waits_file, perform, seekSet_file ho, hlength, Reply.ofResult,
      Content.length_toBytes, Bool.false_eq_true, if_false]
  · rw [← Content.read_eq_extract]
    refine ⟨fun hpast => ?_, ?_⟩
    · rw [Content.read_eq, List.drop_eq_nil_of_le hpast, List.take_nil]
    · simp only [session, waits_file, perform, seekSet_file ho, read_file hn, Reply.ofResult,
        Bool.false_eq_true, if_false]
  · simp only [session, waits_file, perform, seekSet_file ho, write_file hw hend, read_file hend,
      Content.read_writeAt, Reply.ofResult, Bool.false_eq_true, if_false]

/- Two bytes that are written beyond the end of a file of three. -/
theorem two_bytes_beyond_the_end :
    [7, 8] ≠ ([] : Bytes) ∧ 5 + [7, 8].length ≤ maxOffset ∧
    ∃ c', (file (.ofBytes [1, 2, 3]) 3).session [.seekSet 5, .write [7, 8], .seekSet 5, .read 2] =
        ([.position 5, .written, .position 5, .bytes [7, 8]], file c' 7) ∧
      c'.toBytes.length = 7 ∧ c'.toBytes.take 5 = [1, 2, 3, 0, 0] ∧ c'.toBytes.drop 7 = [] := by
  have hw : [7, 8] ≠ ([] : Bytes) := by decide
  have hend : 5 + [7, 8].length ≤ maxOffset := by decide
  exact ⟨hw, hend, (seekSet_positions_exactly (.ofBytes [1, 2, 3]) 3 5 [7, 8] hw hend).2.2⟩

/-! ### Calls that wait -/

variable {f : OpenFile} {r : Request} {rs : List Request}

theorem pipe_of_waits (h : f.waits r = true) : ∃ p, f.object = .pipe p := by
  unfold waits at h
  split at h
  · next hpipe => exact ⟨_, hpipe⟩
  · next hpipe => exact ⟨_, hpipe⟩
  · cases h

theorem pipe_of_seekSet {p : Pipe} {offset : Nat} (h : (f.seekSet offset).2.object = .pipe p) :
    ∃ q, f.object = .pipe q := by
  unfold seekSet at h
  split at h
  · exact ⟨p, h⟩
  · split at h <;> exact ⟨p, h⟩

theorem pipe_of_read {p : Pipe} {n : Nat} (h : (f.read n).2.object = .pipe p) :
    ∃ q, f.object = .pipe q := by
  unfold read at h
  split at h
  · exact ⟨p, h⟩
  · split at h
    · exact ⟨p, h⟩
    · next hpipe => exact ⟨_, hpipe⟩
    · exact ⟨p, h⟩
    · exact ⟨p, h⟩
    · split at h
      · exact ⟨p, h⟩
      · split at h <;> exact ⟨p, h⟩

theorem pipe_of_write {p : Pipe} {limit : Option Nat} {bs : Bytes}
    (h : (f.write limit bs).2.object = .pipe p) : ∃ q, f.object = .pipe q := by
  unfold write at h
  split at h
  · exact ⟨p, h⟩
  · split at h
    · exact ⟨p, h⟩
    · split at h
      · exact ⟨p, h⟩
      · next hpipe => exact ⟨_, hpipe⟩
      · exact ⟨p, h⟩
      · exact ⟨p, h⟩
      · split at h
        · exact ⟨p, h⟩
        · split at h
          · exact ⟨p, h⟩
          · cases h

/-- No call makes a pipe of anything else. -/
theorem pipe_of_perform {p : Pipe} (h : (f.perform r).2.object = .pipe p) :
    ∃ q, f.object = .pipe q := by
  cases r with
  | seekSet offset => exact pipe_of_seekSet h
  | read n => exact pipe_of_read h
  | write bs => exact pipe_of_write h
  | length => exact ⟨p, h⟩

theorem session_cons (f : OpenFile) (r : Request) (rs : List Request) :
    f.session (r :: rs) =
      if f.waits r then ([], (f.perform r).2)
      else ((f.perform r).1 :: ((f.perform r).2.session rs).1, ((f.perform r).2.session rs).2) := rfl

/-- A long write for which there is no room fills the pipe and never comes back. -/
theorem session_of_long_write {p : Pipe} {bs : Bytes} (hlong : Pipe.atomic < bs.length)
    (hroom : p.room < bs.length) (cursor : Nat) (rs : List Request) :
    ∃ q : Pipe, q.held = p.held ++ bs.take p.room ∧ q.held.length = p.capacity ∧
      session ⟨.pipe p, false, true, cursor⟩ (.write bs :: rs) =
        ([], ⟨.pipe q, false, true, cursor⟩) := by
  have hsome : ¬ bs.isEmpty = true := by
    intro hnone
    rw [List.isEmpty_iff.mp hnone, List.length_nil] at hroom
    omega
  have hpart : ¬ (p.room < bs.length ∧ bs.length ≤ Pipe.atomic) := by omega
  have hheld : (p.push bs).held = p.held ++ bs.take p.room := by
    rw [Pipe.push, if_neg hpart]
  have hfull : (p.held ++ bs.take p.room).length = p.capacity := by
    have hfits := p.fits
    unfold Pipe.room at hroom ⊢
    rw [List.length_append, List.length_take]
    omega
  refine ⟨p.push bs, hheld, hheld ▸ hfull, ?_⟩
  simp [session_cons, waits, hroom, perform, write, hsome]

/-- The calls of a session, each with its reply. A call that waits has none, and neither has any call
behind it. -/
def transcript (f : OpenFile) : List Request → List (Request × Option Reply)
  | [] => []
  | r :: rs =>
    if f.waits r then (r :: rs).map (·, none)
    else (r, some (f.perform r).1) :: (f.perform r).2.transcript rs

theorem transcript_of_waits (h : f.waits r = true) :
    f.transcript (r :: rs) = (r :: rs).map (·, none) := by
  rw [transcript, if_pos h]

theorem transcript_of_not_waits (h : ¬ f.waits r = true) :
    f.transcript (r :: rs) = (r, some (f.perform r).1) :: (f.perform r).2.transcript rs := by
  rw [transcript, if_neg h]

theorem calls_transcript (f : OpenFile) (rs : List Request) :
    (f.transcript rs).map Prod.fst = rs := by
  induction rs generalizing f with
  | nil => rfl
  | cons r rs ih =>
    by_cases hwaits : f.waits r = true
    · rw [transcript_of_waits hwaits, List.map_map]
      exact List.map_id _
    · rw [transcript_of_not_waits hwaits, List.map_cons, ih]

theorem replies_transcript (f : OpenFile) (rs : List Request) :
    (f.transcript rs).filterMap Prod.snd = (f.session rs).1 := by
  induction rs generalizing f with
  | nil => rfl
  | cons r rs ih =>
    by_cases hwaits : f.waits r = true
    · rw [transcript_of_waits hwaits, session_cons, if_pos hwaits]
      simp
    · rw [transcript_of_not_waits hwaits, session_cons, if_neg hwaits, List.filterMap_cons, ih]

/-- Every reply of a session is given by the open file as it was at that moment. -/
theorem reply_of_mem_transcript {reply : Reply} (h : (r, some reply) ∈ f.transcript rs) :
    ∃ g : OpenFile, reply = (g.perform r).1 := by
  induction rs generalizing f with
  | nil => cases h
  | cons r' rs ih =>
    by_cases hwaits : f.waits r' = true
    · rw [transcript_of_waits hwaits] at h
      obtain ⟨_, _, hcall⟩ := List.mem_map.mp h
      cases hcall
    · rw [transcript_of_not_waits hwaits] at h
      rcases List.mem_cons.mp h with heq | hmem
      · cases heq
        exact ⟨f, rfl⟩
      · exact ih hmem

/-- Only on a pipe can a call go without a reply. -/
theorem pipe_of_mem_transcript (h : (r, none) ∈ f.transcript rs) : ∃ p, f.object = .pipe p := by
  induction rs generalizing f with
  | nil => cases h
  | cons r' rs ih =>
    by_cases hwaits : f.waits r' = true
    · exact pipe_of_waits hwaits
    · rw [transcript_of_not_waits hwaits] at h
      rcases List.mem_cons.mp h with heq | hmem
      · cases heq
      · obtain ⟨p, hp⟩ := ih hmem
        exact pipe_of_perform hp

/-- The first call without a reply waits, on the open file that the calls before it have left. -/
theorem waits_of_first_unanswered {before after : List (Request × Option Reply)}
    (h : f.transcript rs = before ++ (r, none) :: after) (hbefore : ∀ call ∈ before, call.2 ≠ none) :
    (f.session (before.map Prod.fst)).2.waits r = true := by
  induction before generalizing f rs with
  | nil =>
    cases rs with
    | nil => cases h
    | cons r' rs =>
      by_cases hwaits : f.waits r' = true
      · rw [transcript_of_waits hwaits] at h
        cases h
        exact hwaits
      · rw [transcript_of_not_waits hwaits] at h
        cases h
  | cons call before ih =>
    have hcall : call.2 ≠ none := hbefore call (.head _)
    cases rs with
    | nil => cases h
    | cons r' rs =>
      by_cases hwaits : f.waits r' = true
      · rw [transcript_of_waits hwaits] at h
        rw [← (List.cons.inj h).1] at hcall
        exact absurd rfl hcall
      · rw [transcript_of_not_waits hwaits, List.cons_append] at h
        obtain ⟨hfirst, hrest⟩ := List.cons.inj h
        subst hfirst
        rw [List.map_cons, session_cons, if_neg hwaits]
        exact ih hrest fun c hc => hbefore c (.tail _ hc)

/-! ### Calls that fail -/

theorem error_of_ofResult {α : Type} {reply : α → Reply} {answer : Except Cause α} {cause : Cause}
    (h : Reply.ofResult reply answer = .failed cause) (hreply : ∀ a, reply a ≠ .failed cause) :
    answer = .error cause := by
  cases answer with
  | ok a => exact absurd h (hreply a)
  | error c =>
    cases h
    rfl

theorem perform_of_failed {cause : Cause} (h : (f.perform r).1 = .failed cause) :
    (f.perform r).2 = f := by
  cases r with
  | seekSet offset =>
    have herror : (f.seekSet offset).1 = .error cause := error_of_ofResult h nofun
    exact seekSet_of_error (Prod.ext herror rfl)
  | read n =>
    have herror : (f.read n).1 = .error cause := error_of_ofResult h nofun
    exact read_of_error (Prod.ext herror rfl)
  | write bs =>
    have herror : (f.write none bs).1 = .error cause := error_of_ofResult h nofun
    exact write_of_error (Prod.ext herror rfl)
  | length => rfl

theorem perform_beyond {offset : Nat} (f : OpenFile) (h : maxOffset < offset) :
    (f.perform (.seekSet offset)).1 = .failed .offsetTooLarge := by
  simp only [perform, seekSet, if_pos h, Reply.ofResult]

theorem position_le {offset position : Nat}
    (h : (f.perform (.seekSet offset)).1 = .position position) : position ≤ maxOffset := by
  by_cases hbeyond : maxOffset < offset
  · rw [perform_beyond f hbeyond] at h
    cases h
  · simp only [perform, seekSet, if_neg hbeyond] at h
    split at h
    · cases h
    · cases h
    · cases h
      exact Nat.zero_le _
    · cases h
      exact Nat.not_lt.mp hbeyond

/-- Some of the calls that failed are left out; all the others are kept, in order. -/
inductive Thinned : List (Request × Option Reply) → List (Request × Option Reply) → Prop
  | nil : Thinned [] []
  | keep (call : Request × Option Reply) {calls kept : List (Request × Option Reply)} :
      Thinned calls kept → Thinned (call :: calls) (call :: kept)
  | leave (r : Request) (cause : Cause) {calls kept : List (Request × Option Reply)} :
      Thinned calls kept → Thinned ((r, some (.failed cause)) :: calls) kept

/-- Where no call has a reply, none has failed. -/
theorem eq_of_thinned {kept : List (Request × Option Reply)} (h : Thinned (rs.map (·, none)) kept) :
    kept = rs.map (·, none) := by
  induction rs generalizing kept with
  | nil =>
    cases h
    rfl
  | cons r rs ih =>
    cases h with
    | keep _ hkept => rw [ih hkept, List.map_cons]

theorem transcript_of_thinned {kept : List (Request × Option Reply)}
    (h : Thinned (f.transcript rs) kept) :
    f.transcript (kept.map Prod.fst) = kept ∧
      (f.session (kept.map Prod.fst)).2 = (f.session rs).2 := by
  induction rs generalizing f kept with
  | nil =>
    cases h
    exact ⟨rfl, rfl⟩
  | cons r rs ih =>
    by_cases hwaits : f.waits r = true
    · -- from here on nothing is answered, so that nothing has been left out
      rw [transcript_of_waits hwaits] at h
      rw [eq_of_thinned h, ← transcript_of_waits hwaits, calls_transcript]
      exact ⟨rfl, rfl⟩
    · rw [transcript_of_not_waits hwaits] at h
      generalize hreply : (f.perform r).1 = reply at h
      cases h with
      | keep _ hkept =>
        obtain ⟨hcalls, hend⟩ := ih hkept
        rw [List.map_cons, transcript_of_not_waits hwaits, session_cons, session_cons,
          if_neg hwaits, if_neg hwaits, hcalls, hreply]
        exact ⟨rfl, hend⟩
      | leave _ cause hkept =>
        -- the call has failed, so the rest of the session starts where it started
        have hsame : (f.perform r).2 = f := perform_of_failed hreply
        rw [hsame] at hkept
        rw [session_cons, if_neg hwaits, hsame]
        exact ih hkept

/-- Whatever a descriptor leads to, an offset that is too large is refused, and no position that is
answered is too large. Calls are answered up to one that waits on a pipe, if there is one. A session
without some of the calls that failed gives the other replies and ends as it did with them. -/
theorem failed_calls_have_no_effect (f : OpenFile) (rs : List Request) :
    ((f.transcript rs).map Prod.fst = rs ∧ (f.transcript rs).filterMap Prod.snd = (f.session rs).1) ∧
    (∀ before r after, f.transcript rs = before ++ (r, none) :: after →
      (∃ p, f.object = .pipe p) ∧
      ((∀ call ∈ before, call.2 ≠ none) → (f.session (before.map Prod.fst)).2.waits r = true)) ∧
    (∀ offset reply, (.seekSet offset, some reply) ∈ f.transcript rs →
      (maxOffset < offset →
        ∃ cause, reply = .failed cause ∧ cause.kind = .invalidInput ∧ cause.code? = none) ∧
      ∀ position, reply = .position position → position ≤ maxOffset) ∧
    ∀ kept, Thinned (f.transcript rs) kept →
      f.transcript (kept.map Prod.fst) = kept ∧
        (f.session (kept.map Prod.fst)).2 = (f.session rs).2 := by
  refine ⟨⟨calls_transcript f rs, replies_transcript f rs⟩, fun before r after h => ?_,
    fun offset reply hmem => ?_, fun kept => transcript_of_thinned⟩
  · have hmem : (r, none) ∈ f.transcript rs := by
      rw [h]
      exact List.mem_append_right before (.head after)
    exact ⟨pipe_of_mem_transcript hmem, waits_of_first_unanswered h⟩
  · obtain ⟨g, rfl⟩ := reply_of_mem_transcript hmem
    exact ⟨fun hbeyond => ⟨_, perform_beyond g hbeyond, rfl, rfl⟩, fun position => position_le⟩

/- One end of a new pipe, and more bytes than fit into it. -/
def inlet : OpenFile := ⟨.pipe .empty, false, true, 0⟩

def flood : Bytes := List.replicate 70000 0

theorem length_flood : flood.length = 70000 := List.length_replicate

theorem room_lt_flood : Pipe.room .empty < flood.length := by
  rw [length_flood]
  decide

theorem waits_flood : inlet.waits (.write flood) = true := by
  simp only [waits, inlet, decide_eq_true room_lt_flood, Bool.and_self]

/- A file that refuses an offset, a read and a write, and the same session without the first of
these calls and the last; and a pipe that cannot be sought and takes in 65536 bytes of a flood that
then waits, and the same session without the call that failed. -/
theorem sessions_without_failed_calls :
    let f := file (.ofBytes [1, 2]) 2
    let beyond := Request.seekSet (maxOffset + 1)
    let rest : List Request := [.seekSet maxOffset, .read 1]
    ((beyond, some (Reply.failed .offsetTooLarge)) ∈
        f.transcript (beyond :: rest ++ [.write [3], .length]) ∧
      f.transcript (rest ++ [.length]) =
        [(.seekSet maxOffset, some (.position maxOffset)),
          (.read 1, some (.failed (.os Errno.invalid))), (.length, some (.length 2))] ∧
      (f.session (rest ++ [.length])).2 =
        (f.session (beyond :: rest ++ [.write [3], .length])).2) ∧
    inlet.transcript [.write flood, .write [0]] = [(.write flood, none), (.write [0], none)] ∧
    ∃ q : Pipe, q.held.length = 65536 ∧
      (inlet.session [.seekSet 0, .write flood, .write [0]]).2 = ⟨.pipe q, false, true, 0⟩ := by
  intro f beyond rest
  have hfile : Thinned (f.transcript (beyond :: rest ++ [.write [3], .length]))
      [(.seekSet maxOffset, some (.position maxOffset)),
        (.read 1, some (.failed (.os Errno.invalid))), (.length, some (.length 2))] :=
    .leave _ _ (.keep _ (.keep _ (.leave _ _ (.keep _ .nil))))
  have hpipe : Thinned (inlet.transcript [.seekSet 0, .write flood, .write [0]])
      [(.write flood, none), (.write [0], none)] := by
    have hseek : ¬ inlet.waits (.seekSet 0) = true := nofun
    have hsame : (inlet.perform (.seekSet 0)).2 = inlet := rfl
    rw [transcript_of_not_waits hseek, hsame, transcript_of_waits waits_flood]
    exact .leave _ _ (.keep _ (.keep _ .nil))
  obtain ⟨hcalls, hend⟩ := (failed_calls_have_no_effect inlet _).2.2.2 _ hpipe
  have hlong : Pipe.atomic < flood.length := by
    rw [length_flood]
    decide
  obtain ⟨q, _, hfull, hsession⟩ := session_of_long_write hlong room_lt_flood 0 [.write [0]]
  refine ⟨⟨.head _, (failed_calls_have_no_effect f _).2.2.2 _ hfile⟩, hcalls, q, hfull, ?_⟩
  exact hend.symm.trans (congrArg Prod.snd hsession)

end OpenFile

end SparseFixture
