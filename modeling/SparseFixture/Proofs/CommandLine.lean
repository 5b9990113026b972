import SparseFixture.CommandLine
import SparseFixture.Proofs.Failure
import SparseFixture.Proofs.Fixture.Endings
import SparseFixture.Proofs.Log.Directives

/-!
# What a run of the program does and shows

The error stream of a run has three parts: the warnings about the setting, the log records that the
filter lets through, and a closing text. Only the first two depend on the setting; what is done, the
exit status and the closing text do not. A setting without a slash comes to one threshold, the same
for every run.
-/

namespace SparseFixture.CommandLine

/-! ### Asking for help -/

def HelpAsked (args : List Bytes) : Prop :=
  ∃ arg ∈ args, arg = Bytes.ofText "-h" ∨ arg = Bytes.ofText "--help"

theorem any_asksHelp_iff {args : List Bytes} : args.any asksHelp = true ↔ HelpAsked args := by
  simp only [List.any_eq_true, asksHelp, Bool.or_eq_true, decide_eq_true_eq, HelpAsked]

variable {lang : Log.PatternLanguage} {fs : FileSystem} {p : Caller} {program : Bytes}
  {args : List Bytes} {setting : Option Bytes}

/-- All that arguments decide is whether help is asked for. -/
theorem run_congr_args {args' : List Bytes} (h : HelpAsked args' ↔ HelpAsked args) :
    run lang fs p program args' setting = run lang fs p program args setting := by
  have hany : args'.any asksHelp = args.any asksHelp := by
    rw [← any_asksHelp_iff, ← any_asksHelp_iff] at h
    exact Bool.eq_iff_iff.mpr h
  unfold run
  rw [hany]

/-! ### What a run does -/

def exitStatus (fs : FileSystem) (p : Caller) (args : List Bytes) : Nat :=
  if args.any asksHelp then 0
  else match (Fixture.generate fs p).result with
    | .ok () => 0
    | .error _ => 1

def filesAfter (fs : FileSystem) (p : Caller) (args : List Bytes) : FileSystem :=
  if args.any asksHelp then fs else (Fixture.generate fs p).files

/-- The records of a run, shown or not. A run that is asked for help has none. -/
def emitted (fs : FileSystem) (p : Caller) (args : List Bytes) : List Fixture.Record :=
  if args.any asksHelp then [] else (Fixture.generate fs p).log

/-- The records of a run that the filter of a setting shows. -/
def shownRecords (lang : Log.PatternLanguage) (fs : FileSystem) (p : Caller) (args : List Bytes)
    (setting : Option Bytes) : List Fixture.Record :=
  (emitted fs p args).filter (isShown lang (Log.Filter.ofSetting lang setting).2)

def closing (fs : FileSystem) (p : Caller) (program : Bytes) (args : List Bytes) : List Line :=
  if args.any asksHelp then [.usage program]
  else match (Fixture.generate fs p).result with
    | .ok () => []
    | .error f => [.failed program f]

/-- A run, with what depends on the setting apart from what does not. -/
theorem run_eq : run lang fs p program args setting =
    (⟨exitStatus fs p args, "", (Log.Filter.ofSetting lang setting).1.map .warning ++
      (shownRecords lang fs p args setting).map .record ++ closing fs p program args⟩,
      filesAfter fs p args) := by
  unfold run exitStatus shownRecords emitted closing filesAfter
  by_cases hhelp : args.any asksHelp = true
  · simp only [if_pos hhelp, helpReport, List.filter_nil, List.map_nil, List.append_nil]
  · simp only [if_neg hhelp, generateReport]
    cases (Fixture.generate fs p).result with
    | ok u => simp only [List.append_nil]
    | error f => rfl

/-! ### The three parts of the error stream -/

def warningText (lang : Log.PatternLanguage) (setting : Option Bytes) : String :=
  String.join ((Log.Filter.ofSetting lang setting).1.map fun w => w.text ++ "\n")

def logText (format : Format) (records : List Fixture.Record) : String :=
  String.join (records.map fun r => (Line.record r).render format)

def usageText (program : Bytes) : String :=
  "Create a 4 MiB sparse file named test.pma in the current directory\n\nUsage: "
    ++ Utf8.lossy program ++ "\n\n"

def failureText (program : Bytes) (f : Failure) : String :=
  Utf8.lossy program ++ ": " ++ f.display ++ "\n"

def closingText (fs : FileSystem) (p : Caller) (program : Bytes) (args : List Bytes) : String :=
  if args.any asksHelp then usageText program
  else match (Fixture.generate fs p).result with
    | .ok () => ""
    | .error f => failureText program f

theorem render_usage (format : Format) (program : Bytes) :
    (Line.usage program).render format = usageText program := by
  have hname : "Create a 4 MiB sparse file named " ++ Fixture.name ++
      " in the current directory\n\nUsage: " =
      "Create a 4 MiB sparse file named test.pma in the current directory\n\nUsage: " := by
    simp only [Fixture.name, String.reduceAppend]
  exact congrArg (· ++ Utf8.lossy program ++ "\n\n") hname

theorem join_warnings (format : Format) (warnings : List Log.Warning) :
    String.join ((warnings.map Line.warning).map (Line.render format)) =
      String.join (warnings.map fun w => w.text ++ "\n") := by
  rw [List.map_map]
  rfl

theorem join_records (format : Format) (records : List Fixture.Record) :
    String.join ((records.map Line.record).map (Line.render format)) = logText format records := by
  rw [List.map_map]
  rfl

theorem join_closing (format : Format) :
    String.join ((closing fs p program args).map (Line.render format)) =
      closingText fs p program args := by
  unfold closing closingText
  by_cases hhelp : args.any asksHelp = true
  · simp only [if_pos hhelp, List.map_cons, List.map_nil, String.join_cons, String.join_nil,
      String.append_empty, render_usage]
  · simp only [if_neg hhelp]
    cases (Fixture.generate fs p).result with
    | ok u => exact String.join_nil
    | error f =>
      simp only [List.map_cons, List.map_nil, String.join_cons, String.join_nil,
        String.append_empty]
      rfl

theorem errors_of_run (format : Format) :
    (run lang fs p program args setting).1.errors format =
      warningText lang setting ++
        logText format (shownRecords lang fs p args setting) ++ closingText fs p program args := by
  rw [run_eq]
  simp only [Report.errors, List.map_append, String.join_append, join_warnings, join_records,
    join_closing, warningText]

/-- The setting of the log filter changes neither what a run does nor its exit status nor its
closing text, and the records that it shows are some of those that the run emits. -/
theorem setting_decides_log_only (lang : Log.PatternLanguage) (fs : FileSystem) (p : Caller)
    (program : Bytes) (args : List Bytes) :
    (∀ setting setting',
      (run lang fs p program args setting).1.status = (run lang fs p program args setting').1.status ∧
      (run lang fs p program args setting).1.stdout = "" ∧
      (run lang fs p program args setting').1.stdout = "" ∧
      (run lang fs p program args setting).2 = (run lang fs p program args setting').2) ∧
    ∀ setting format, ∃ shown, shown.Sublist (emitted fs p args) ∧
      (run lang fs p program args setting).1.errors format =
        warningText lang setting ++ logText format shown ++ closingText fs p program args := by
  constructor
  · intro setting setting'
    simp only [run_eq, and_self]
  · intro setting format
    exact ⟨shownRecords lang fs p args setting, List.filter_sublist, errors_of_run format⟩

/- A language that refuses an open parenthesis: the warning comes first, and the pattern is left out. -/
example :
    let lang : Log.PatternLanguage :=
      { Log.PatternLanguage.literal with
        refusal? := fun pattern => if pattern = ['('] then some "unclosed group" else none }
    (run lang .initial (.initial .owner) [] [] (some (Bytes.ofText "debug/("))).1.stderr =
      [.warning (.refused "unclosed group"), .record (.creating Fixture.nameBytes),
        .record (.wrote Fixture.nameBytes Fixture.size 4096)] := by
  decide +kernel

/-! ### Without a setting -/

/-- Without a slash there is no pattern, and the language of patterns does not matter. -/
theorem parse_of_no_slash (lang : Log.PatternLanguage) {spec : List Char} (h : '/' ∉ spec) :
    Log.Filter.parse lang spec =
      ((Log.pieces spec).filterMap Log.rejected?, ⟨Log.Filter.directivesOf spec, none⟩) := by
  simp only [Log.Filter.parse, List.splitOn_eq_singleton h]

theorem ofSetting_of_no_text (lang : Log.PatternLanguage)
    (h : ∀ spec, setting ≠ some (Bytes.ofText spec)) :
    Log.Filter.ofSetting lang setting = ([], ⟨[⟨none, some .warn⟩], none⟩) := by
  have hnone : setting.bind Utf8.text? = none := by
    cases htext : setting.bind Utf8.text? with
    | none => rfl
    | some spec =>
      obtain ⟨raw, hraw, hspec⟩ := Option.bind_eq_some_iff.mp htext
      rw [← Utf8.ofText_of_text? hspec] at hraw
      exact absurd hraw (h spec)
  have hdefault : ((Log.pieces Log.Filter.defaultSpec).filterMap Log.rejected?,
      Log.Filter.directivesOf Log.Filter.defaultSpec) = ([], [⟨none, some .warn⟩]) := by
    decide +kernel
  obtain ⟨hwarnings, hdirectives⟩ := Prod.mk.inj hdefault
  unfold Log.Filter.ofSetting
  rw [hnone]
  show Log.Filter.parse lang Log.Filter.defaultSpec = _
  rw [parse_of_no_slash lang (by decide), hwarnings, hdirectives]

theorem isShown_by_default (r : Fixture.Record) :
    isShown lang ⟨[⟨none, some .warn⟩], none⟩ r = false := by
  cases r <;> rfl

theorem errors_without_setting (h : ∀ spec, setting ≠ some (Bytes.ofText spec)) (format : Format) :
    (run lang fs p program args setting).1.errors format = closingText fs p program args := by
  have hfilter := ofSetting_of_no_text lang h
  have hwarnings : warningText lang setting = "" := by
    rw [warningText, hfilter]
    rfl
  have hshown : shownRecords lang fs p args setting = [] := by
    rw [shownRecords, hfilter, List.filter_eq_nil_iff]
    intro r _
    rw [isShown_by_default]
    exact Bool.false_ne_true
  rw [errors_of_run, hwarnings, hshown, String.empty_append]
  exact String.empty_append

theorem oneLine_of_failure {f : Failure} (hf : (Fixture.generate fs p).result = .error f)
    (hprogram : 0x0A ∉ program) : ∃ line, OneLine line ∧ failureText program f = line ++ "\n" := by
  have hcause : OneLine f.cause.text := by
    rcases Fixture.cause_of_error hf with hnul | ⟨e, hos⟩
    · rw [hnul]
      exact Cause.oneLine_nulInPath
    · rw [hos]
      exact Cause.oneLine_os e
  have hpath : ∀ path c, f = .create path c → 0x0A ∉ path := by
    intro path c hcreate
    rw [hcreate] at hf
    have hname : path = Fixture.nameBytes := Fixture.path_of_create_error hf
    rw [hname]
    decide +kernel
  have hcolon : OneLine ": " := .of_bytes (by decide)
  have hdisplay : OneLine f.display := Failure.oneLine_display hcause hpath
  exact ⟨_, ((OneLine.lossy hprogram).append hcolon).append hdisplay, rfl⟩

/-- The contract of the command line, for a setting that is missing or is not the bytes of a text. -/
theorem run_without_setting (lang : Log.PatternLanguage) (fs : FileSystem) (p : Caller)
    (program : Bytes) (args : List Bytes) (setting : Option Bytes)
    (hset : ∀ spec, setting ≠ some (Bytes.ofText spec)) (format : Format) :
    let outcome := Fixture.generate fs p
    let report := (run lang fs p program args setting).1
    let files := (run lang fs p program args setting).2
    report.stdout = "" ∧
    (HelpAsked args →
      report.status = 0 ∧ files = fs ∧ report.errors format = usageText program) ∧
    (¬ HelpAsked args → files = outcome.files ∧
      ((outcome.result = .ok () ∧ report.status = 0 ∧ report.errors format = "") ∨
        ∃ f, outcome.result = .error f ∧ report.status = 1 ∧
          report.errors format = failureText program f ∧
          (0x0A ∉ program → ∃ line, OneLine line ∧ report.errors format = line ++ "\n"))) ∧
    ∀ args', (HelpAsked args' ↔ HelpAsked args) →
      run lang fs p program args' setting = run lang fs p program args setting := by
  intro outcome report files
  have herrors : report.errors format = closingText fs p program args :=
    errors_without_setting hset format
  have hstatus : report.status = exitStatus fs p args := congrArg (·.1.status) run_eq
  have hstdout : report.stdout = "" := congrArg (·.1.stdout) run_eq
  have hfiles : files = filesAfter fs p args := congrArg (·.2) run_eq
  refine ⟨hstdout, fun hhelp => ?_, fun hhelp => ?_, fun args' h => run_congr_args h⟩
  · have hany := any_asksHelp_iff.mpr hhelp
    rw [hstatus, hfiles, herrors, exitStatus, filesAfter, closingText]
    simp only [if_pos hany, and_self]
  · have hany : ¬ args.any asksHelp = true := fun h => hhelp (any_asksHelp_iff.mp h)
    rw [hstatus, hfiles, herrors, exitStatus, filesAfter, closingText]
    simp only [if_neg hany]
    refine ⟨rfl, ?_⟩
    cases hresult : (Fixture.generate fs p).result with
    | ok u => exact .inl ⟨rfl, rfl, rfl⟩
    | error f => exact .inr ⟨f, rfl, rfl, rfl, oneLine_of_failure hresult⟩

/- The owner in the root directory, which only the superuser may change. -/
def ownerInRoot : Caller := { Caller.initial .owner with cwd := FileSystem.root }

theorem help_and_failure_in_root :
    (∀ spec, some [0xFF] ≠ some (Bytes.ofText spec)) ∧
    HelpAsked [Bytes.ofText "--", Bytes.ofText "-h"] ∧ ¬ HelpAsked [Bytes.ofText "-hh"] ∧
    (run .literal .initial ownerInRoot (Bytes.ofText "maker") [Bytes.ofText "--", Bytes.ofText "-h"]
      (some [0xFF])).1.errors ⟨fun _ => "", toString⟩ = usageText (Bytes.ofText "maker") ∧
    (run .literal .initial ownerInRoot (Bytes.ofText "maker") [Bytes.ofText "-hh"]
      (some [0xFF])).1.errors ⟨fun _ => "", toString⟩ =
        "maker: could not create test.pma: Permission denied (os error 13)\n" := by
  have hset : ∀ spec, some [0xFF] ≠ some (Bytes.ofText spec) := by
    intro spec h
    apply Utf8.last_byte_not_mem_ofText spec
    rw [← Option.some.inj h]
    exact List.mem_singleton_self _
  have hhelp : HelpAsked [Bytes.ofText "--", Bytes.ofText "-h"] :=
    any_asksHelp_iff.mp (by decide +kernel)
  have hno : ¬ HelpAsked [Bytes.ofText "-hh"] :=
    fun h => absurd (any_asksHelp_iff.mpr h) (by decide +kernel)
  have hresult : (Fixture.generate .initial ownerInRoot).result =
      .error (.create Fixture.nameBytes (.os Errno.accessDenied)) := by rfl
  refine ⟨hset, hhelp, hno, ?_, ?_⟩
  · exact ((run_without_setting .literal .initial ownerInRoot (Bytes.ofText "maker") _ (some [0xFF]) hset
      ⟨fun _ => "", toString⟩).2.1 hhelp).2.2
  · rcases ((run_without_setting .literal .initial ownerInRoot (Bytes.ofText "maker") _
      (some [0xFF]) hset ⟨fun _ => "", toString⟩).2.2.1 hno).2 with
        ⟨hok, _⟩ | ⟨f, hf, _, herrors, _⟩
    · rw [hresult] at hok
      cases hok
    · rw [hresult] at hf
      cases hf
      rw [herrors]
      decide +kernel

/-! ### With a setting -/

/-- The records that a threshold lets through. -/
def shownUpTo (t : Log.Threshold) (records : List Fixture.Record) : List Fixture.Record :=
  records.filter fun r => t.passes r.level

theorem ofSetting_ofText {spec : String} (h : '/' ∉ spec.toList) :
    (Log.Filter.ofSetting lang (some (Bytes.ofText spec))).2 =
      ⟨Log.Filter.directivesOf spec.toList, none⟩ := by
  simp only [Log.Filter.ofSetting, Option.bind_some, Utf8.text?_ofText, parse_of_no_slash lang h]

theorem filter_isShown (directives : List Log.Directive) (records : List Fixture.Record) :
    records.filter (isShown lang ⟨directives, none⟩) =
      shownUpTo (Log.Filter.threshold ⟨directives, none⟩ target.toList) records := by
  apply List.filter_congr
  intro r _
  simp only [isShown, Log.Filter.shows, Log.Filter.admits, Bool.and_true]

theorem stderr_of_run {spec : String} (h : '/' ∉ spec.toList) :
    (run lang fs p program args (some (Bytes.ofText spec))).1.stderr =
      (Log.Filter.ofSetting lang (some (Bytes.ofText spec))).1.map .warning ++
        (shownUpTo (Log.Filter.threshold ⟨Log.Filter.directivesOf spec.toList, none⟩ target.toList)
          (emitted fs p args)).map .record ++ closing fs p program args := by
  rw [run_eq, shownRecords, ofSetting_ofText h, filter_isShown]

theorem passes_of_rank_le {t : Log.Threshold} {l m : Log.Level} (hm : t.passes m = true)
    (h : l.rank ≤ m.rank) : t.passes l = true := by
  cases t with
  | none => cases hm
  | some u =>
    simp only [Log.Threshold.passes, decide_eq_true_eq] at hm ⊢
    omega

theorem mem_shownUpTo_of_trace {t : Log.Threshold} {records : List Fixture.Record}
    {r r' : Fixture.Record} (hr : r ∈ shownUpTo t records) (htrace : r.level = .trace)
    (hr' : r' ∈ records) (hdebug : r'.level = .debug) : r' ∈ shownUpTo t records := by
  have hpasses := (List.mem_filter.mp hr).2
  refine List.mem_filter.mpr ⟨hr', passes_of_rank_le hpasses ?_⟩
  rw [htrace, hdebug]
  decide

theorem shownUpTo_error {t : Log.Threshold} (h : t = none ∨ t = some .error)
    (records : List Fixture.Record) : shownUpTo t records = [] := by
  rw [shownUpTo, List.filter_eq_nil_iff]
  intro r _
  rcases h with ht | ht
  · simp [ht, Log.Threshold.passes]
  · cases r <;> simp [ht, Log.Threshold.passes, Fixture.Record.level, Log.Level.rank]

/-- One threshold decides what every run shows of its log. It is that of the last directive with the
longest name that the target begins with, and without such a name that of the last directive for all. -/
theorem one_threshold_for_all_runs (spec : String) (hslash : '/' ∉ spec.toList) :
    ∃ t : Log.Threshold,
      (∀ lang fs p program args,
        (run lang fs p program args (some (Bytes.ofText spec))).1.stderr =
          (Log.Filter.ofSetting lang (some (Bytes.ofText spec))).1.map .warning ++
            (shownUpTo t (emitted fs p args)).map .record ++ closing fs p program args) ∧
      (∀ fs p args, ∀ r ∈ shownUpTo t (emitted fs p args), r.level = .trace →
        ∀ r' ∈ emitted fs p args, r'.level = .debug → r' ∈ shownUpTo t (emitted fs p args)) ∧
      ((∃ d ∈ Log.accepted spec.toList, ∃ name, d.Names name target.toList) →
        ∃ d longest, Log.Latest (Log.accepted spec.toList) d ∧ d.Names longest target.toList ∧
          (∀ e ∈ Log.accepted spec.toList, ∀ name, e.Names name target.toList →
            name.length ≤ longest.length) ∧
          t = d.threshold) ∧
      ((∀ d ∈ Log.accepted spec.toList, ∀ name, ¬ d.Names name target.toList) →
        (∀ d ∈ Log.accepted spec.toList, d.name ≠ some []) →
        ((∃ d ∈ Log.accepted spec.toList, d.name = none) →
          ∃ d, Log.Latest (Log.accepted spec.toList) d ∧ d.name = none ∧ t = d.threshold) ∧
        ((∀ d ∈ Log.accepted spec.toList, d.name ≠ none) →
          ∀ fs p args, shownUpTo t (emitted fs p args) = [])) := by
  refine ⟨_, fun lang fs p program args => stderr_of_run hslash,
    fun fs p args r hr htrace r' => ?_, ?_, ?_⟩
  · exact mem_shownUpTo_of_trace hr htrace
  · intro hnamed
    obtain ⟨d, hd, name, hname⟩ := hnamed
    exact Log.threshold_of_name rfl hd hname
  · intro hunnamed hempty
    have hnames : ∀ x ∈ Log.accepted spec.toList, ∀ other, x.name = some other →
        ¬ other <+: target.toList := by
      intro x hx other hother hbegins
      by_cases hnil : other = []
      · exact hempty x hx (hnil ▸ hother)
      · exact hunnamed x hx other ⟨hother, hnil, hbegins⟩
    constructor
    · intro hglobal
      obtain ⟨d, hd, hnone⟩ := hglobal
      exact Log.threshold_of_global rfl hnames hd hnone
    · intro hglobal fs p args
      exact shownUpTo_error (Log.threshold_of_none rfl hnames hglobal) _

/- A new fixture under three settings. In the first the last of two directives for the whole target
decides against a shorter name, a directive for all and a piece that cannot be read; in the others no
name fits, and there is a directive for all or there is none. -/
theorem settings_tried_on_new_fixture :
    let named := "makepmafile=trace,off,makepmafile=debug,makepma,x=y"
    let unnamed := "trace,make_,debug"
    let foreign := "x"
    let stderr := fun spec : String =>
      (run .literal .initial (Caller.initial .owner) [] [] (some (Bytes.ofText spec))).1.stderr
    let debugLines : List Line := [.record (.creating Fixture.nameBytes),
      .record (.wrote Fixture.nameBytes Fixture.size 4096)]
    ('/' ∉ named.toList ∧ stderr named = .warning (.malformed ['y']) :: debugLines) ∧
    ('/' ∉ unnamed.toList ∧ stderr unnamed = debugLines) ∧
    '/' ∉ foreign.toList ∧ stderr foreign = [] := by
  intro named unnamed foreign stderr debugLines
  refine ⟨⟨by decide +kernel, ?_⟩, ⟨by decide +kernel, ?_⟩, by decide +kernel, ?_⟩
  · obtain ⟨t, hrun, _, hnamed, _⟩ := one_threshold_for_all_runs named (by decide +kernel)
    let whole : Log.Directive := ⟨some target.toList, some .debug⟩
    have haccepted : Log.accepted named.toList =
        [⟨some target.toList, some .trace⟩, ⟨none, none⟩] ++
          whole :: [⟨some "makepma".toList, some .trace⟩] := by
      decide +kernel
    have hwhole : Log.Latest (Log.accepted named.toList) whole :=
      ⟨_, _, haccepted, by decide +kernel⟩
    have hnames : whole.Names target.toList target.toList :=
      ⟨rfl, by decide +kernel, List.prefix_refl _⟩
    obtain ⟨d, longest, hd, hlongest, hlength, ht⟩ :=
      hnamed ⟨whole, Log.mem_of_latest hwhole, _, hnames⟩
    have hlongest_eq : longest = target.toList :=
      hlongest.begins.eq_of_length_le (hlength whole (Log.mem_of_latest hwhole) _ hnames)
    have hdwhole : d = whole := by
      apply Log.latest_unique hd hwhole
      rw [hlongest.named, hlongest_eq]
    show (run _ _ _ _ _ _).1.stderr = _
    rw [hrun, ht, hdwhole]
    decide +kernel
  · obtain ⟨t, hrun, _, _, hunnamed⟩ := one_threshold_for_all_runs unnamed (by decide +kernel)
    let last : Log.Directive := ⟨none, some .debug⟩
    have haccepted : Log.accepted unnamed.toList =
        [⟨none, some .trace⟩, ⟨some "make_".toList, some .trace⟩] ++ last :: [] := by
      decide +kernel
    have hlast : Log.Latest (Log.accepted unnamed.toList) last := ⟨_, _, haccepted, nofun⟩
    have hnames : ∀ d ∈ Log.accepted unnamed.toList,
        d.name ≠ none → d.appliesTo target.toList = false := by
      decide +kernel
    obtain ⟨d, hd, hglobal, ht⟩ := (hunnamed (fun d hd => Log.not_names_of_not_appliesTo (hnames d hd))
      (by decide +kernel)).1 ⟨last, Log.mem_of_latest hlast, rfl⟩
    have hdlast : d = last := Log.latest_unique hd hlast hglobal
    show (run _ _ _ _ _ _).1.stderr = _
    rw [hrun, ht, hdlast]
    decide +kernel
  · obtain ⟨t, hrun, _, _, hunnamed⟩ := one_threshold_for_all_runs foreign (by decide +kernel)
    have hnames : ∀ d ∈ Log.accepted foreign.toList,
        d.name ≠ none → d.appliesTo target.toList = false := by
      decide +kernel
    have hshown := (hunnamed (fun d hd => Log.not_names_of_not_appliesTo (hnames d hd))
      (by decide +kernel)).2 (by decide +kernel)
    show (run _ _ _ _ _ _).1.stderr = _
    rw [hrun, hshown]
    decide +kernel

end SparseFixture.CommandLine
