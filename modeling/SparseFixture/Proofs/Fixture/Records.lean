import SparseFixture.Proofs.Fixture.Endings

/-!
# The log tells what happened

A run notes at most three records, always the same ones in the same order, and stops noting where it
fails. So the number of records tells the result, and the numbers in them are those of the file that
the path leads to in the end.
-/

namespace SparseFixture

namespace Fixture

open FileSystem

/-! ### The text of the log -/

/-- A record as it is read: how much it matters, and its text. -/
def Record.line (figure : Nat → String) (r : Record) : Log.Level × String :=
  (r.level, r.message figure)

/-- All that a run can come to say. -/
def account (figure : Nat → String) (path : Bytes) (position length allocated : Nat) :
    List (Log.Level × String) :=
  [(.debug, "creating " ++ Utf8.lossy path ++ " (mode 600)"),
    (.trace, "cursor at " ++ toString position),
    (.debug, "wrote " ++ Utf8.lossy path ++ ": " ++ toString length ++ " bytes, "
      ++ figure allocated ++ " bytes allocated")]

theorem message_creating (figure : Nat → String) (path : Bytes) :
    (Record.creating path).message figure = "creating " ++ Utf8.lossy path ++ " (mode 600)" := by
  have hmode : " (mode " ++ mode.octal ++ ")" = " (mode 600)" := by decide +kernel
  simp only [Record.message, String.append_assoc] at hmode ⊢
  rw [hmode]

theorem account_eq (figure : Nat → String) (path : Bytes) (position length allocated : Nat) :
    account figure path position length allocated =
      [Record.creating path, .cursor position, .wrote path length allocated].map
        (Record.line figure) := by
  simp only [List.map_cons, List.map_nil, Record.line, message_creating]
  rfl

/-! ### The length of the log -/

/-- How many records a run has noted that has come to a result. -/
def recordCount : Except Failure Unit → Nat
  | .error (.create _ _) => 1
  | .error (.seek _ _) => 1
  | .error (.write _ _) => 2
  | .ok () => 3

theorem recordCount_eq_one_iff {r : Except Failure Unit} :
    recordCount r = 1 ↔
      (∃ q c, r = .error (.create q c)) ∨ ∃ offset c, r = .error (.seek offset c) := by
  rcases r with (⟨q, c⟩ | ⟨offset, c⟩ | ⟨offset, c⟩) | ⟨⟩ <;> simp [recordCount]

theorem recordCount_eq_two_iff {r : Except Failure Unit} :
    recordCount r = 2 ↔ ∃ offset c, r = .error (.write offset c) := by
  rcases r with (⟨q, c⟩ | ⟨offset, c⟩ | ⟨offset, c⟩) | ⟨⟩ <;> simp [recordCount]

theorem recordCount_eq_three_iff {r : Except Failure Unit} :
    recordCount r = 3 ↔ r = .ok () := by
  rcases r with (⟨q, c⟩ | ⟨offset, c⟩ | ⟨offset, c⟩) | ⟨⟩ <;> simp [recordCount]

variable {fs : FileSystem} {p : Caller} {path : Bytes}

theorem length_log (fs : FileSystem) (p : Caller) (path : Bytes) :
    (generateAt fs p path).log.length = recordCount (generateAt fs p path).result := by
  have E := ending fs p path
  generalize generateAt fs p path = o at E ⊢
  cases E <;> rfl

/-! ### The numbers in the log -/

/-- What a run says of the file that it has opened: the position to which the cursor came, and the
length of the file in the end. -/
def Told (o : Outcome) (i : Ino) (position length : Nat) : Prop :=
  match o.files.node? i with
  | some (.regular c) =>
    position = size - 1 ∧ length = c.toBytes.length ∧ (o.result = .ok () → length = size)
  | some (.device _) => position = 0 ∧ length = 0
  | _ => False

/-- The log of a run is the beginning of its account, as far as it has come, and from the second
record on its path leads to a file of which the numbers in the account are true. -/
theorem account_of_log (fs : FileSystem) (p : Caller) (path : Bytes) :
    ∃ position length allocated,
      (generateAt fs p path).log <+:
        [.creating path, .cursor position, .wrote path length allocated] ∧
      (2 ≤ (generateAt fs p path).log.length →
        ∃ i, (generateAt fs p path).files.locate p.user p.cwd path = .ok (.present i) ∧
          Told (generateAt fs p path) i position length) := by
  have E := ending fs p path
  generalize generateAt fs p path = o at E ⊢
  cases E with
  | uncreated hc | pipe hc _ =>
    exact ⟨0, 0, 0, ⟨_, rfl⟩, fun h => absurd h (Nat.not_succ_le_self 1)⟩
  | @full i fs₁ hc hn =>
    refine ⟨0, 0, 0, ⟨_, rfl⟩, fun _ => ⟨i, (opening_of_create hc).2.locate mode_closed, ?_⟩⟩
    simp only [Told, hn, and_self]
  | @swallowed i d fs₁ hc hn hd =>
    refine ⟨0, 0, p.allocated 0, ⟨_, rfl⟩,
      fun _ => ⟨i, (opening_of_create hc).2.locate mode_closed, ?_⟩⟩
    simp only [Told, hn, and_self]
  | @limited i fs₁ hc hn hl =>
    refine ⟨lastOffset, 0, 0, ⟨_, rfl⟩,
      fun _ => ⟨i, (opening_of_create hc).2.locate mode_closed, ?_⟩⟩
    simp only [Told, hn, Content.toBytes_empty]
    exact ⟨rfl, rfl, nofun⟩
  | @filled i fs₁ hc hn hl =>
    have hlocate := locate_of_outline (outline_withObject fs₁ i (.regular content))
      ((opening_of_create hc).2.locate mode_closed)
    refine ⟨lastOffset, size, p.allocated size, ⟨_, rfl⟩, fun _ => ⟨i, hlocate, ?_⟩⟩
    simp only [Told, node?_withObject content hn, Content.length_toBytes, size_content,
      implies_true, and_true]
    rfl

/-- The log tells what happened: how far the run has come by its length, and what has become of the
file by the numbers in it. -/
theorem log_tells_what_happened (fs : FileSystem) (p : Caller) (path : Bytes) :
    let o := generateAt fs p path
    ∃ position length allocated,
      (∀ figure, o.log.map (Record.line figure) <+:
        account figure path position length allocated) ∧
      (o.log.length = 1 ↔ (∃ q c, o.result = .error (.create q c)) ∨
        ∃ offset c, o.result = .error (.seek offset c)) ∧
      (o.log.length = 2 ↔ ∃ offset c, o.result = .error (.write offset c)) ∧
      (o.log.length = 3 ↔ o.result = .ok ()) ∧
      (2 ≤ o.log.length → ∃ i, o.files.locate p.user p.cwd path = .ok (.present i) ∧
        Told o i position length) := by
  intro o
  obtain ⟨position, length, allocated, hlog, htold⟩ := account_of_log fs p path
  have hcount : o.log.length = recordCount o.result := length_log fs p path
  refine ⟨position, length, allocated, fun figure => ?_, ?_, ?_, ?_, htold⟩
  · rw [account_eq]
    exact hlog.map _
  · rw [hcount]
    exact recordCount_eq_one_iff
  · rw [hcount]
    exact recordCount_eq_two_iff
  · rw [hcount]
    exact recordCount_eq_three_iff

end Fixture

end SparseFixture
