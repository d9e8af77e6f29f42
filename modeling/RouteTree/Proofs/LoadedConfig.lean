import Mathlib
import RouteTree.Program
import RouteTree.Proofs.ConfigProblems
import RouteTree.Proofs.Utf8RoundTrip

/-!
# Configurations that are loaded

A text gives a configuration exactly if it denotes one all of whose settings can be
used. If it denotes one of which some cannot be used, the error tells of these settings
and of no others, unless the log level is cut inside a character. What is loaded can be
relied upon later: the exporter of metrics reads its address again and does not fail.
-/

namespace RouteTree

namespace Config

section Texts

variable {text : String} {c : Config}

theorem parse_of_no_violation (h : Denotes text c) (hfine : ∀ s : Setting, ¬ s.Violated c) :
    parse text = .ok c := by
  have hnone : c.violated = [] := violated_eq_nil_iff.mpr hfine
  have hreadable := readable_of_not_violated (hfine .logLevel)
  simp only [parse, denotes_iff.mp h, problems_eq hreadable, hnone, List.map_nil]

theorem parse_of_violation (h : Denotes text c) (hviolation : ∃ s : Setting, s.Violated c)
    (hreadable : c.Readable) :
    parse text = .error (.validation (c.violated.map (Setting.problem c))) := by
  have hsome : c.violated ≠ [] := by
    intro hnone
    obtain ⟨s, hs⟩ := hviolation
    exact violated_eq_nil_iff.mp hnone s hs
  obtain ⟨s, rest, hviolated⟩ := List.exists_cons_of_ne_nil hsome
  simp only [parse, denotes_iff.mp h, problems_eq hreadable, hviolated, List.map_cons]

theorem parse_of_not_readable (h : Denotes text c) (hcut : ¬ c.Readable) :
    parse text = .error (.unreadable .logLevel) := by
  simp only [parse, denotes_iff.mp h, problems_of_not_readable hcut]

theorem parse_of_not_denotes (h : ∀ c, ¬ Denotes text c) : parse text = .error .parse := by
  have hnone : (Toml.parse? text).bind ofToml? = none := by
    rw [Option.eq_none_iff_forall_ne_some]
    intro c hc
    exact h c (denotes_iff.mpr hc)
  rw [parse, hnone]

theorem parse_eq_ok_iff : parse text = .ok c ↔ Denotes text c ∧ ∀ s : Setting, ¬ s.Violated c := by
  constructor
  · intro h
    by_cases hdenotes : ∃ c', Denotes text c'
    · obtain ⟨c', hc'⟩ := hdenotes
      by_cases hviolation : ∃ s : Setting, s.Violated c'
      · by_cases hreadable : c'.Readable
        · cases h.symm.trans (parse_of_violation hc' hviolation hreadable)
        · cases h.symm.trans (parse_of_not_readable hc' hreadable)
      · have hfine := not_exists.mp hviolation
        cases h.symm.trans (parse_of_no_violation hc' hfine)
        exact ⟨hc', hfine⟩
    · cases h.symm.trans (parse_of_not_denotes (not_exists.mp hdenotes))
  · rintro ⟨hdenotes, hfine⟩
    exact parse_of_no_violation hdenotes hfine

end Texts

/-- An error tells of the settings that cannot be used and of no others, each once and
in their order. -/
structure ReportsViolated (c : Config) (e : ConfigError) : Prop where
  problems : e = .validation (c.violated.map fun s => ⟨s.path, s.complaint c⟩)
  message : e.message = "Validation failed: " ++
    ", ".intercalate (c.violated.map fun s => s.path ++ ": " ++ s.complaint c)

theorem reportsViolated (c : Config) :
    c.ReportsViolated (.validation (c.violated.map (Setting.problem c))) where
  problems := rfl
  message := by
    have hdescribe : Problem.describe ∘ Setting.problem c =
        fun s => s.path ++ ": " ++ s.complaint c := rfl
    calc (ConfigError.validation (c.violated.map (Setting.problem c))).message
        = "Validation failed: " ++
          ", ".intercalate ((c.violated.map (Setting.problem c)).map Problem.describe) := rfl
      _ = "Validation failed: " ++
          ", ".intercalate (c.violated.map fun s => s.path ++ ": " ++ s.complaint c) := by
        rw [List.map_map, hdescribe]

end Config

namespace Program

/-- The exporter of metrics fails if and only if the address configured for it cannot be
used. -/
theorem exporterRecords?_eq_none_iff {c : Config} :
    exporterRecords? c = none ↔ Config.Setting.metricsAddress.Violated c := by
  unfold exporterRecords? Config.Setting.Violated
  split
  · next henabled => rw [Option.map_eq_none_iff, and_iff_right henabled]
  · next hdisabled => exact iff_of_false (Option.some_ne_none _) fun h => hdisabled h.1

/-- The arguments can put another address in the place of the one in a file, and nothing
else. -/
theorem exists_parse_of_configure {s : Surroundings} {arguments : CommandLine.Arguments}
    {path text : String} {c : Config} (hpath : arguments.config = some path)
    (hfile : s.file? path = some (Utf8.ofString text)) (h : configure s arguments = .ok c) :
    ∃ loaded, Config.parse text = .ok loaded ∧ c.observability = loaded.observability := by
  have hload : Config.load (s.file? path) = Config.parse text := by
    rw [hfile, Config.load, Utf8.toString?_ofString]
  unfold configure at h
  rw [hpath] at h
  simp only [hload] at h
  cases hparse : Config.parse text with
  | error e =>
      rw [hparse] at h
      cases h
  | ok loaded =>
      rw [hparse] at h
      refine ⟨loaded, rfl, ?_⟩
      cases hbind : arguments.bind with
      | none =>
          rw [hbind] at h
          cases h
          rfl
      | some address =>
          rw [hbind] at h
          cases h
          rfl

end Program

namespace Config

/-- A text gives a configuration if and only if it denotes one all of whose settings can
be used. If it denotes one of which some cannot be used, the error reports exactly
these, unless the log level is cut inside a character. What a document does not state it
leaves at its default, whatever else it states. And the address of a metrics exporter,
once it has been loaded, is read again without failing. -/
theorem parse_reports_violated (text : String) :
    (∀ c, parse text = .ok c ↔ Denotes text c ∧ ∀ s : Setting, ¬ s.Violated c) ∧
      (∀ c, Denotes text c → (∃ s : Setting, s.Violated c) →
        ((∃ e, parse text = .error e ∧ c.ReportsViolated e) ↔ c.Readable) ∧
          (¬ c.Readable → parse text = .error (.unreadable .logLevel))) ∧
      ((∀ c, ¬ Denotes text c) → parse text = .error .parse) ∧
      (∀ root, Toml.parse? text = some root →
        ((∃ c, Denotes text c) ↔
          (∀ (s : Setting) v, root.get? s.sectionName = some v → IsSection v) ∧
            ∀ (s : Setting) v, s.stated? root = some v → s.Fits v) ∧
        ∀ c, Denotes text c → ∀ s : Setting,
          s.value c = (s.stated? root).getD (s.value Config.default)) ∧
      ∀ (s : Program.Surroundings) (arguments : CommandLine.Arguments) (path : String) (c : Config),
        arguments.config = some path → s.file? path = some (Utf8.ofString text) →
          Program.configure s arguments = .ok c → Program.exporterRecords? c ≠ none := by
  refine ⟨fun _ => parse_eq_ok_iff, ?_, parse_of_not_denotes, ?_, ?_⟩
  · intro c hc hviolation
    refine ⟨⟨?_, ?_⟩, parse_of_not_readable hc⟩
    · rintro ⟨e, he, hreports⟩ hcut
      rw [hreports.problems] at he
      cases he.symm.trans (parse_of_not_readable hc (not_not.mpr hcut))
    · intro hreadable
      exact ⟨_, parse_of_violation hc hviolation hreadable, c.reportsViolated⟩
  · intro root hroot
    have hdenotes (c : Config) : Denotes text c ↔ c.ReadFrom root := by
      rw [denotes_iff, hroot, Option.bind_some, ofToml?_eq_some_iff]
    simp only [hdenotes]
    exact ⟨exists_readFrom_iff, fun c hc => hc.values⟩
  · intro s arguments path c hpath hfile hconfigure hnone
    obtain ⟨loaded, hloaded, hsame⟩ := Program.exists_parse_of_configure hpath hfile hconfigure
    obtain ⟨-, hfine⟩ := parse_eq_ok_iff.mp hloaded
    apply hfine .metricsAddress
    have hviolated := Program.exporterRecords?_eq_none_iff.mp hnone
    rw [Setting.Violated, hsame] at hviolated
    exact hviolated

/-- Three settings that cannot be used, and no address to listen at. -/
def stalled : String := "timeouts = [0]\nobservability = ['[', true, 'x']"

def stalledConfig : Config where
  timeouts.requestSecs := 0
  observability := { logLevel := "[", metricsEnabled := true, metricsAddress := "x" }

theorem denotes_stalled : Denotes stalled stalledConfig := by
  apply denotes_iff.mpr
  cbv

/-- An address for the exporter of metrics. -/
def exporting : String := "observability = ['', true, '[::]:1']"

def exportingConfig : Config where
  observability := { logLevel := "", metricsEnabled := true, metricsAddress := "[::]:1" }

theorem denotes_exporting : Denotes exporting exportingConfig := by
  apply denotes_iff.mpr
  cbv

theorem configure_exporting :
    Program.configure ⟨fun _ => some (Utf8.ofString exporting), none, fun _ => false⟩
      ⟨some "rutt.toml", some "[::]:2"⟩ =
        .ok { exportingConfig with listener.bindAddress := "[::]:2" } := by
  have hparse : parse exporting = .ok exportingConfig := by
    apply parse_of_no_violation denotes_exporting
    intro s
    cases s <;> decide
  have hload : load (some (Utf8.ofString exporting)) = .ok exportingConfig := by
    rw [load, Utf8.toString?_ofString]
    exact hparse
  rw [Program.configure]
  simp only [hload]
  rfl

theorem stalled_reports_violated :
    Denotes stalled stalledConfig ∧ Setting.requestSecs.Violated stalledConfig ∧
      stalledConfig.Readable ∧ stalledConfig.violated = [.requestSecs, .logLevel, .metricsAddress] ∧
      (∃ e, parse stalled = .error e ∧ stalledConfig.ReportsViolated e) ∧
      Program.exporterRecords? { exportingConfig with listener.bindAddress := "[::]:2" } ≠
        none := by
  obtain ⟨-, hreports, -, -, -⟩ := parse_reports_violated stalled
  obtain ⟨-, -, -, -, hexports⟩ := parse_reports_violated exporting
  have hsecs : Setting.requestSecs.Violated stalledConfig := rfl
  have hlevel : Log.Filter.parse "[" = .error .malformed := rfl
  have hreadable : stalledConfig.Readable := by
    intro hcut
    cases hlevel.symm.trans hcut
  obtain ⟨hreported, -⟩ := hreports _ denotes_stalled ⟨_, hsecs⟩
  exact ⟨denotes_stalled, hsecs, hreadable, by decide, hreported.mpr hreadable,
    hexports _ _ _ _ rfl rfl configure_exporting⟩

/-- A timeout that cannot be used, and a log level that is cut inside a character. -/
def severed : String := "timeouts = [0]\nobservability = [' aé=loud']"

/-- Of two settings that cannot be used none is reported. -/
theorem severed_reports_nothing :
    ¬ ∀ c, Denotes severed c → (∃ s : Setting, s.Violated c) →
      ∃ e, parse severed = .error e ∧ c.ReportsViolated e := by
  intro h
  let c : Config := { timeouts.requestSecs := 0, observability.logLevel := " aé=loud" }
  have hdenotes : Denotes severed c := by
    apply denotes_iff.mpr
    cbv
  have hcut : Log.Filter.parse " aé=loud" = .error .cutInsideCharacter := rfl
  obtain ⟨e, he, hreports⟩ := h c hdenotes ⟨.requestSecs, rfl⟩
  rw [hreports.problems] at he
  cases he.symm.trans (parse_of_not_readable hdenotes (not_not.mpr hcut))

end Config

end RouteTree
