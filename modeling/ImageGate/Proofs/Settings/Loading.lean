import ImageGate.Command.Configuration
import ImageGate.Command.Line
import ImageGate.Proofs.History.Sweeping

/-!
# Settings that have been loaded

Settings come from a file, the environment and the command line, and they are held against the bounds
last of all, whatever has overridden what (`Options.settle`). Times stop at the longest one that fits
into a word, and cutoffs at the start of 1970; within the bounds neither happens.

`WithinBounds` states the bounds as what they are, and the products of days, hours and intervals are
exact within them. The longest window of all is a hundred years. That can be taken from every instant
since 1970 began, for the calendar reaches further back (`Options.settings_exact`).
-/

namespace ImageGate

namespace Settings

variable {s : Settings}

/-! ## Bounds -/

/-- No interval and no answer takes no time; nodes and rows are kept for a hundred years at most, and
no interval is longer than a week. -/
structure WithinBounds (s : Settings) : Prop where
  reportInterval_pos : 0 < s.reportInterval
  cleanerInterval_pos : 0 < s.cleanerInterval
  inspectTimeout_pos : 0 < s.inspectTimeout
  retentionDays_le : s.retentionDays ≤ 36500
  nodeRetentionHours_le : s.nodeRetentionHours ≤ 876000
  reportInterval_le : s.reportInterval ≤ 604800
  cleanerInterval_le : s.cleanerInterval ≤ 604800

theorem ite_some_eq_none_iff {α : Type} {p : Prop} [Decidable p] {a : α} {x : Option α} :
    (if p then some a else x) = none ↔ ¬ p ∧ x = none := by
  by_cases hp : p
  · simp [hp]
  · simp [hp]

theorem fault?_eq_none_iff : s.fault? = none ↔ s.WithinBounds := by
  simp only [fault?, ite_some_eq_none_iff]
  simp only [and_true, not_or, Nat.not_lt, ← Nat.pos_iff_ne_zero, retentionDaysMax, intervalMax]
  constructor
  · rintro ⟨hreport, hcleaner, hinspect, hdays, hhours, hreportMax, hcleanerMax⟩
    exact ⟨hreport, hcleaner, hinspect, hdays, hhours, hreportMax, hcleanerMax⟩
  · intro h
    exact ⟨h.reportInterval_pos, h.cleanerInterval_pos, h.inspectTimeout_pos, h.retentionDays_le,
      h.nodeRetentionHours_le, h.reportInterval_le, h.cleanerInterval_le⟩

/-! ## Derived times -/

theorem WithinBounds.retention_eq (h : s.WithinBounds) :
    s.retention = .ofSeconds (86400 * s.retentionDays) := by
  have hdays := h.retentionDays_le
  refine congrArg Span.ofSeconds ?_
  unfold wordMax
  omega

theorem WithinBounds.nodeRetention_eq (h : s.WithinBounds) :
    s.nodeRetention = .ofSeconds (3600 * s.nodeRetentionHours) := by
  have hhours := h.nodeRetentionHours_le
  refine congrArg Span.ofSeconds ?_
  unfold wordMax
  omega

theorem WithinBounds.freshness_eq (h : s.WithinBounds) :
    s.freshness = .ofSeconds (3 * s.reportInterval) := by
  have hinterval := h.reportInterval_le
  refine congrArg Span.mk ?_
  rw [Span.nanos_ofSeconds]
  show min _ (wordMax * 1000000000 + 999999999) = _
  unfold wordMax
  omega

/-- No window is longer than the longest time for which rows can be kept. -/
theorem WithinBounds.window_le (h : s.WithinBounds) {window : Span}
    (hwindow : window ∈ [s.retention, s.nodeRetention, s.freshness]) :
    window ≤ .ofSeconds (retentionDaysMax * 86400) := by
  have hdays := h.retentionDays_le
  have hhours := h.nodeRetentionHours_le
  have hinterval := h.reportInterval_le
  rw [h.retention_eq, h.nodeRetention_eq, h.freshness_eq] at hwindow
  simp only [List.mem_cons, List.not_mem_nil, or_false] at hwindow
  rw [Span.le_def, Span.nanos_ofSeconds]
  unfold retentionDaysMax
  rcases hwindow with rfl | rfl | rfl
  all_goals
    rw [Span.nanos_ofSeconds]
    omega

end Settings

/-! ## Loading -/

namespace Options

/-- The settings of an invocation, from what has come of the settings file. -/
def settle (o : Options) (home : String) (loaded : Except Trouble Settings) :
    Except Trouble Settings :=
  loaded.bind fun s => (o.complete home s).mapError .ofFailure

/-- The settings file is all that loading settings looks at. -/
theorem settings_eq_settle {m : Type → Type} [Monad m] [LawfulMonad m] (w : World m) (o : Options) :
    o.settings w = o.settle w.home <$> o.loadFile w := by
  rw [settings, map_eq_pure_bind]
  apply bind_congr
  intro loaded
  cases loaded with
  | error t => rfl
  | ok s => rfl

/-- Settings from a file are refused for a fault that is left when they have been overridden, and for
nothing else. -/
theorem settle_ok_eq_ok_iff {o : Options} {home : String} {file s : Settings} :
    o.settle home (.ok file) = .ok s ↔ (o.override file).fault? = none ∧
      { o.override file with
        storeFile := Path.expandHome home (o.override file).storeFile
        rulesFile := Path.expandHome home (o.override file).rulesFile } = s := by
  show (o.complete home file).mapError Trouble.ofFailure = .ok s ↔ _
  -- Paths have no say in whether there is a fault.
  have hpaths : Settings.fault?
      { o.override file with
        storeFile := Path.expandHome home (o.override file).storeFile
        rulesFile := Path.expandHome home (o.override file).rulesFile } =
      (o.override file).fault? := rfl
  unfold complete
  simp only [hpaths]
  cases (o.override file).fault? with
  | none => simp [Except.mapError]
  | some fault => simp [Except.mapError]

theorem fault?_of_settle {o : Options} {home : String} {loaded : Except Trouble Settings}
    {s : Settings} (h : o.settle home loaded = .ok s) : s.fault? = none := by
  cases loaded with
  | error t => cases h
  | ok file =>
    obtain ⟨hfault, rfl⟩ := settle_ok_eq_ok_iff.1 h
    exact hfault

/-! ## Main statement -/

/-- **Settings that have been loaded are never cut off.** Whatever the settings file holds, and
whatever options the environment and the command line give, the settings that come of it are within
the bounds; those of a file are refused only if they are not. The times for which nodes and rows are
kept and for which a node counts as live are the exact products and fit into a word; and since 1970
began each of them can be taken from the clock, so that the cutoffs of a history lie exactly as far
back. -/
theorem settings_exact {m : Type → Type} [Monad m] [LawfulMonad m] (w : World m) (o : Options) :
    o.settings w = o.settle w.home <$> o.loadFile w ∧
      (∀ file, (∃ s, o.settle w.home (.ok file) = .ok s) ↔ (o.override file).fault? = none) ∧
      ∀ loaded s, o.settle w.home loaded = .ok s →
        s.fault? = none ∧ s.retention = .ofSeconds (86400 * s.retentionDays) ∧
        s.nodeRetention = .ofSeconds (3600 * s.nodeRetentionHours) ∧
        s.freshness = .ofSeconds (3 * s.reportInterval) ∧
        ∀ window ∈ [s.retention, s.nodeRetention, s.freshness], window ≤ .ofSeconds wordMax ∧
          ∀ now : Instant, now.IsSinceEpoch → now.Reaches window ∧
            (now.before window).nanos = now.nanos - window.nanos := by
  refine ⟨settings_eq_settle w o, fun file => ?_, fun loaded s hs => ?_⟩
  · simp only [settle_ok_eq_ok_iff, exists_and_left, exists_eq', and_true]
  · have hfault := fault?_of_settle hs
    have hbounds := Settings.fault?_eq_none_iff.1 hfault
    refine ⟨hfault, hbounds.retention_eq, hbounds.nodeRetention_eq, hbounds.freshness_eq, ?_⟩
    intro window hwindow
    have hle := hbounds.window_le hwindow
    refine ⟨Nat.le_trans hle (by decide), fun now hnow => ?_⟩
    have hreach := History.reaches_of_le hnow hle
    exact ⟨hreach, by rw [Instant.nanos_before, if_pos hreach]⟩

/-- The longest retention comes from a file that the environment names, and the longest interval from
the command line. A century before the start of 1970 is an exact cutoff. -/
theorem settings_exact_of_longest :
    let text := "retentionDays: 36500\nnodeRetentionHours: 876000\nreportIntervalSecs: 1\n"
    let w : World Id :=
      { home := "/home/user", readText := fun _ => .ok text, openHistory := fun _ => .ok {}
        saveHistory := fun _ _ => (), now := .epoch, inspector := none
        untilStopped := fun _ _ _ => true }
    let o : Options := { config := some "gate.yaml", reportInterval := some 604800 }
    ∃ s, CommandLine.parse { config := some "gate.yaml" }
        ["rules", "--agent-report-interval", "604800"] = .ok ⟨o, .rules⟩ ∧
      (o.settings w).run = .ok s ∧ s.freshness = .ofSeconds 1814400 ∧
      s.retention = .ofSeconds 3153600000 ∧
      (Instant.epoch.before s.retention).nanos = -3153600000000000000 := by
  intro text w o
  let s : Settings :=
    { retentionDays := 36500, nodeRetentionHours := 876000, reportInterval := 604800 }
  have hparse : CommandLine.parse { config := some "gate.yaml" }
      ["rules", "--agent-report-interval", "604800"] = .ok ⟨o, .rules⟩ := by decide +kernel
  have hloaded : (o.settings w).run = .ok s := by decide +kernel
  obtain ⟨hsettle, -, hexact⟩ := settings_exact w o
  have hs : o.settle w.home (o.loadFile w).run = .ok s := by
    rw [hsettle, Id.run_map] at hloaded
    exact hloaded
  obtain ⟨-, hretention, -, hfreshness, hwindows⟩ := hexact _ s hs
  obtain ⟨-, hcutoff⟩ := hwindows s.retention List.mem_cons_self
  have hepoch : Instant.epoch.IsSinceEpoch := ⟨by decide, by decide⟩
  refine ⟨s, hparse, hloaded, hfreshness.trans (by decide), hretention.trans (by decide), ?_⟩
  rw [(hcutoff .epoch hepoch).2, hretention]
  decide

end Options

end ImageGate
