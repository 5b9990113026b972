import Mathlib
import SparseFixture.Proofs.CommandLine
import SparseFixture.Proofs.Fixture.EntryPoints

/-!
# Failures are told apart

The line that tells of a failure is read from its end. Behind the last blank stands the error number;
the number fixes the description in front of it, and what then is left is the heading, which names
the step and shows the path. So the path may hold anything, also what looks like another failure.
-/

namespace SparseFixture

/-! ### The last blank -/

theorem eq_nil_of_separator {α : Type} {a : α} {between us vs : List α} (hu : a ∉ us)
    (h : a :: us = between ++ a :: vs) : between = [] := by
  cases between with
  | nil => rfl
  | cons b bs =>
    rw [(List.cons.inj h).2] at hu
    exact absurd (List.mem_append_right bs (.head vs)) hu

theorem eq_of_last_separator {α : Type} {a : α} {xs ys us vs : List α} (hu : a ∉ us) (hv : a ∉ vs)
    (h : xs ++ a :: us = ys ++ a :: vs) : xs = ys ∧ us = vs := by
  have hxs : xs = ys := by
    rcases List.append_eq_append_iff.mp h with ⟨between, hys, hrest⟩ | ⟨between, hxs, hrest⟩
    · rw [hys, eq_nil_of_separator hu hrest, List.append_nil]
    · rw [hxs, eq_nil_of_separator hv hrest, List.append_nil]
  subst hxs
  exact ⟨rfl, (List.cons.inj (List.append_cancel_left h)).2⟩

namespace Cause

theorem blank_not_mem_number (n : Int) : ' ' ∉ (toString n ++ ")").toList := by
  intro h
  rw [String.toList_append] at h
  rcases List.mem_append.mp h with hnumber | hparen
  · rcases minus_or_digit_of_mem hnumber with hminus | hdigit
    · exact absurd hminus (by decide)
    · exact absurd hdigit (by decide)
  · exact absurd hparen (by decide)

/-- The text of an error number, cut at its last blank. -/
theorem toList_text_os (n : Int) :
    (text (.os n)).toList =
      (Errno.description n ++ " (os error").toList ++ ' ' :: (toString n ++ ")").toList := by
  have hblank : " (os error ".toList = " (os error".toList ++ [' '] := by simp
  simp only [text, String.toList_append, hblank, List.append_assoc, List.cons_append,
    List.nil_append]

/-- Whatever stands in front of it, an error number can be read from the end of a text. -/
theorem append_text_os_inj {s t : String} {m n : Int} :
    s ++ text (.os m) = t ++ text (.os n) ↔ s = t ∧ m = n := by
  constructor
  · intro h
    have hlist := congrArg String.toList h
    rw [String.toList_append, String.toList_append, toList_text_os, toList_text_os,
      ← List.append_assoc, ← List.append_assoc] at hlist
    have hnumber : toString m ++ ")" = toString n ++ ")" :=
      String.toList_injective
        (eq_of_last_separator (blank_not_mem_number m) (blank_not_mem_number n) hlist).2
    have hmn : m = n := by
      rw [String.append_left_inj, Int.toString_eq_repr, Int.toString_eq_repr] at hnumber
      exact Int.repr_injective hnumber
    subst hmn
    exact ⟨(String.append_left_inj _).mp h, rfl⟩
  · rintro ⟨rfl, rfl⟩
    rfl

end Cause

/-! ### The heading -/

namespace Failure

/-- The steps that can fail. -/
inductive Step where
  | create
  | seek
  | write
deriving DecidableEq, Repr

def step : Failure → Step
  | create _ _ => .create
  | seek _ _ => .seek
  | write _ _ => .write

def path? : Failure → Option Bytes
  | create path _ => some path
  | seek _ _ => none
  | write _ _ => none

/-- The path of a failure, if it has one, is the bytes of a text. -/
def PathIsText (f : Failure) : Prop := ∀ path, f.path? = some path → ∃ s, path = Bytes.ofText s

/-- The part of the line that stands in front of the cause. -/
def heading : Failure → String
  | create path _ => "could not create " ++ Utf8.lossy path ++ ": "
  | seek _ _ => "lseek failed: "
  | write _ _ => "write failed: "

theorem display_eq (f : Failure) : f.display = f.heading ++ f.cause.text := by
  cases f <;> rfl

variable {f g : Failure}

theorem heading_create (path : Bytes) (c : Cause) :
    (create path c).heading = "could not create " ++ Utf8.lossy path ++ ": " := rfl

theorem heading_seek (offset : Nat) (c : Cause) : (seek offset c).heading = "lseek failed: " := rfl

theorem heading_write (offset : Nat) (c : Cause) : (write offset c).heading = "write failed: " := rfl

theorem head_heading (f : Failure) : f.heading.toList.head? =
    match f.step with
    | .create => some 'c'
    | .seek => some 'l'
    | .write => some 'w' := by
  cases f with
  | create path c => simp [heading_create, step]
  | seek offset c => simp [heading_seek, step]
  | write offset c => simp [heading_write, step]

theorem step_eq_of_heading (h : f.heading = g.heading) : f.step = g.step := by
  have hhead := congrArg (·.toList.head?) h
  simp only [head_heading] at hhead
  revert hhead
  cases f.step <;> cases g.step <;> decide

theorem path_eq_of_heading {p q : Bytes} {c d : Cause} (hp : (create p c).PathIsText)
    (hq : (create q d).PathIsText) (h : (create p c).heading = (create q d).heading) : p = q := by
  obtain ⟨s, hs⟩ := hp p rfl
  obtain ⟨t, ht⟩ := hq q rfl
  rw [heading_create, heading_create, String.append_left_inj, String.append_right_inj, hs, ht,
    Utf8.lossy_ofText, Utf8.lossy_ofText] at h
  rw [hs, ht, h]

theorem cases_of_step_eq (h : f.step = g.step) :
    (∃ p c q d, f = create p c ∧ g = create q d) ∨
      (f.path? = none ∧ g.path? = none ∧ f.heading = g.heading) := by
  cases f with
  | create p c =>
    cases g with
    | create q d => exact .inl ⟨p, c, q, d, rfl, rfl⟩
    | seek offset d | write offset d => cases h
  | seek offset c =>
    cases g with
    | seek offset' d => exact .inr ⟨rfl, rfl, rfl⟩
    | create q d | write offset' d => cases h
  | write offset c =>
    cases g with
    | write offset' d => exact .inr ⟨rfl, rfl, rfl⟩
    | create q d | seek offset' d => cases h

theorem heading_eq_iff (hf : f.PathIsText) (hg : g.PathIsText) :
    f.heading = g.heading ↔ f.step = g.step ∧ f.path? = g.path? := by
  constructor
  · intro h
    have hstep := step_eq_of_heading h
    refine ⟨hstep, ?_⟩
    rcases cases_of_step_eq hstep with ⟨p, c, q, d, rfl, rfl⟩ | ⟨hnone, hnone', _⟩
    · exact congrArg some (path_eq_of_heading hf hg h)
    · rw [hnone, hnone']
  · rintro ⟨hstep, hpath⟩
    rcases cases_of_step_eq hstep with ⟨p, c, q, d, rfl, rfl⟩ | ⟨_, _, hheading⟩
    · rw [heading_create, heading_create, Option.some.inj hpath]
    · exact hheading

theorem display_eq_iff {m n : Int} (hm : f.cause = .os m) (hn : g.cause = .os n)
    (hf : f.PathIsText) (hg : g.PathIsText) :
    f.display = g.display ↔ f.step = g.step ∧ m = n ∧ f.path? = g.path? := by
  rw [display_eq, display_eq, hm, hn, Cause.append_text_os_inj, heading_eq_iff hf hg]
  tauto

end Failure

/-! ### The lines of the program -/

namespace CommandLine

variable {lang : Log.PatternLanguage} {fs fs' : FileSystem} {p p' : Caller} {program : Bytes}
  {args args' : List Bytes} {f g : Failure}

theorem error_of_status (h : (run lang fs p program args none).1.status ≠ 0) :
    ∃ f, (Fixture.generate fs p).result = .error f ∧
      closingText fs p program args = failureText program f := by
  have hstatus : (run lang fs p program args none).1.status = exitStatus fs p args :=
    congrArg (·.1.status) run_eq
  rw [hstatus, exitStatus] at h
  rw [closingText]
  by_cases hhelp : args.any asksHelp = true
  · rw [if_pos hhelp] at h
    exact absurd rfl h
  · rw [if_neg hhelp] at h
    rw [if_neg hhelp]
    cases hresult : (Fixture.generate fs p).result with
    | ok u =>
      rw [hresult] at h
      exact absurd rfl h
    | error f => exact ⟨f, rfl, rfl⟩

/-- In the working directory a run fails only for an error number: its path holds no NUL byte. -/
theorem os_of_generate_error (h : (Fixture.generate fs p).result = .error f) :
    ∃ e, f.cause = .os e := by
  rcases Fixture.cause_of_error h with hnul | hos
  · have hmem : Bytes.nul ∈ Fixture.nameBytes := Fixture.nul_mem_of_error h hnul
    exact absurd hmem (by decide)
  · exact hos

theorem pathIsText_of_generate_error (h : (Fixture.generate fs p).result = .error f) :
    f.PathIsText := by
  intro path hpath
  cases f with
  | create q c =>
    cases hpath
    exact ⟨Fixture.name, Fixture.path_of_create_error h⟩
  | seek offset c => cases hpath
  | write offset c => cases hpath

theorem path_eq_of_step (hf : (Fixture.generate fs p).result = .error f)
    (hg : (Fixture.generate fs' p').result = .error g) (hstep : f.step = g.step) :
    f.path? = g.path? := by
  rcases Failure.cases_of_step_eq hstep with ⟨path, c, q, d, rfl, rfl⟩ | ⟨hnone, hnone', _⟩
  · have hpath : path = Fixture.nameBytes := Fixture.path_of_create_error hf
    have hq : q = Fixture.nameBytes := Fixture.path_of_create_error hg
    rw [hpath, hq]
    rfl
  · rw [hnone, hnone']

theorem failureText_eq_iff (hf : (Fixture.generate fs p).result = .error f)
    (hg : (Fixture.generate fs' p').result = .error g) :
    failureText program f = failureText program g ↔
      f.step = g.step ∧ ∃ e, f.cause = .os e ∧ g.cause = .os e := by
  obtain ⟨m, hm⟩ := os_of_generate_error hf
  obtain ⟨n, hn⟩ := os_of_generate_error hg
  rw [failureText, failureText, String.append_left_inj, String.append_right_inj,
    Failure.display_eq_iff hm hn (pathIsText_of_generate_error hf) (pathIsText_of_generate_error hg)]
  constructor
  · rintro ⟨hstep, rfl, _⟩
    exact ⟨hstep, m, hm, hn⟩
  · rintro ⟨hstep, e, he, he'⟩
    have hmn : m = n := Cause.os.inj (hm.symm.trans (he.trans (he'.symm.trans hn)))
    exact ⟨hstep, hmn, path_eq_of_step hf hg hstep⟩

end CommandLine

open CommandLine in
/-- Failures for an error number are told apart by their lines, up to the offset, which is not shown;
and so are the failed runs of the program by what they print. -/
theorem failures_told_apart :
    (∀ (f g : Failure) (m n : Int), f.cause = .os m → g.cause = .os n →
      f.PathIsText → g.PathIsText →
      (f.display = g.display ↔ f.step = g.step ∧ m = n ∧ f.path? = g.path?)) ∧
    ∀ (lang : Log.PatternLanguage) (program : Bytes) (fs fs' : FileSystem) (p p' : Caller)
      (args args' : List Bytes) (format format' : Format),
      (run lang fs p program args none).1.status ≠ 0 →
      (run lang fs' p' program args' none).1.status ≠ 0 →
      ∃ f g, (Fixture.generate fs p).result = .error f ∧
        (Fixture.generate fs' p').result = .error g ∧
        ((run lang fs p program args none).1.errors format =
            (run lang fs' p' program args' none).1.errors format' ↔
          f.step = g.step ∧ ∃ e, f.cause = .os e ∧ g.cause = .os e) := by
  refine ⟨fun f g m n => Failure.display_eq_iff, ?_⟩
  intro lang program fs fs' p p' args args' format format' hstatus hstatus'
  obtain ⟨f, hf, htext⟩ := error_of_status hstatus
  obtain ⟨g, hg, htext'⟩ := error_of_status hstatus'
  refine ⟨f, g, hf, hg, ?_⟩
  have hset : ∀ spec, none ≠ some (Bytes.ofText spec) := fun _ => (Option.some_ne_none _).symm
  rw [errors_without_setting hset, errors_without_setting hset, htext, htext']
  exact failureText_eq_iff hf hg

open CommandLine in
/- A path that ends like the line of another failure, and two runs that fail at the same step. -/
theorem look_alikes_told_apart :
    let plain := Failure.create (Bytes.ofText "a") (.os Errno.noEntry)
    let alike := Failure.create (Bytes.ofText "a: No such file or directory (os error 2)")
      (.os Errno.noEntry)
    let starved : Caller := { ownerInRoot with canOpen := false }
    plain.PathIsText ∧ alike.PathIsText ∧ plain.display ≠ alike.display ∧
    (run .literal .initial ownerInRoot [] [] none).1.status ≠ 0 ∧
    (run .literal .initial starved [] [] none).1.status ≠ 0 ∧
    ∀ format, (run .literal .initial ownerInRoot [] [] none).1.errors format ≠
      (run .literal .initial starved [] [] none).1.errors format := by
  intro plain alike starved
  have hplain : plain.PathIsText := fun _ h => ⟨_, (Option.some.inj h).symm⟩
  have halike : alike.PathIsText := fun _ h => ⟨_, (Option.some.inj h).symm⟩
  have hdenied : (run .literal .initial ownerInRoot [] [] none).1.status ≠ 0 := by decide +kernel
  have hstarved : (run .literal .initial starved [] [] none).1.status ≠ 0 := by decide +kernel
  refine ⟨hplain, halike, fun h => ?_, hdenied, hstarved, fun format h => ?_⟩
  · have hpath := ((failures_told_apart.1 plain alike _ _ rfl rfl hplain halike).mp h).2.2
    exact absurd hpath (by decide +kernel)
  · obtain ⟨f, g, hf, hg, hiff⟩ :=
      failures_told_apart.2 .literal [] .initial .initial ownerInRoot starved [] [] format format
        hdenied hstarved
    obtain ⟨_, e, hfe, hge⟩ := hiff.mp h
    have hf' : (Fixture.generate .initial ownerInRoot).result =
        .error (.create Fixture.nameBytes (.os Errno.accessDenied)) := by rfl
    have hg' : (Fixture.generate .initial starved).result =
        .error (.create Fixture.nameBytes (.os Errno.tooManyOpen)) := by rfl
    rw [hf'] at hf
    rw [hg'] at hg
    cases hf
    cases hg
    exact absurd (hfe.trans hge.symm) (by decide)

end SparseFixture
