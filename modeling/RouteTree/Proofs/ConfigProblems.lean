import Mathlib.Tactic.Common
import RouteTree.Proofs.ConfigReading

/-!
# The settings that cannot be used

Validation reports the settings whose values cannot be used, each of them once, in a
fixed order, and whatever is wrong with the others. The one exception is a log level
that is cut inside a character: it leaves nothing to report at all.
-/

namespace RouteTree.Config

namespace Setting

/-- All settings in their order. -/
def all : List Setting :=
  [.bindAddress, .requestSecs, .maxBodyBytes, .logLevel, .metricsEnabled, .metricsAddress]

/-- The name that problems with a setting are reported under. -/
def path (s : Setting) : String := s.sectionName ++ "." ++ s.key

/-- The value of a setting cannot be used. The address of metrics matters only if they
are exported. -/
def Violated (c : Config) : Setting → Prop
  | .bindAddress => SocketAddress.parse? c.listener.bindAddress = none
  | .requestSecs => c.timeouts.requestSecs = 0
  | .maxBodyBytes => c.limits.maxBodyBytes = 0
  | .logLevel => ∀ filter, Log.Filter.parse c.observability.logLevel ≠ .ok filter
  | .metricsEnabled => False
  | .metricsAddress => c.observability.metricsEnabled = true ∧
      SocketAddress.parse? c.observability.metricsAddress = none

instance (c : Config) : DecidablePred (Violated c) := fun
  | .bindAddress => inferInstanceAs (Decidable (SocketAddress.parse? _ = none))
  | .requestSecs => inferInstanceAs (Decidable (_ = 0))
  | .maxBodyBytes => inferInstanceAs (Decidable (_ = 0))
  | .logLevel =>
    match h : Log.Filter.parse c.observability.logLevel with
    | .ok filter => isFalse fun hviolated => hviolated filter h
    | .error _ => isTrue fun _ hfilter => nomatch h.symm.trans hfilter
  | .metricsEnabled => isFalse id
  | .metricsAddress => inferInstanceAs (Decidable (_ = true ∧ SocketAddress.parse? _ = none))

/-- What is wrong with a setting that cannot be used. -/
def complaint (c : Config) : Setting → String
  | .bindAddress => "invalid socket address `" ++ c.listener.bindAddress ++ "`"
  | .requestSecs => "must be greater than zero"
  | .maxBodyBytes => "must be greater than zero"
  | .logLevel => "invalid log level `" ++ c.observability.logLevel ++ "`"
  | .metricsEnabled => ""
  | .metricsAddress => "invalid socket address `" ++ c.observability.metricsAddress ++ "`"

/-- The problem with a setting that cannot be used. -/
def problem (c : Config) (s : Setting) : Problem := ⟨s.path, s.complaint c⟩

theorem mem_all (s : Setting) : s ∈ all := by cases s <;> decide

theorem path_injective {s t : Setting} (h : s.path = t.path) : s = t := by
  cases s <;> cases t <;> first | rfl | exact absurd h (by decide)

end Setting

/-- The settings of a configuration that cannot be used, each once and in their
order. -/
def violated (c : Config) : List Setting := Setting.all.filter fun s => s.Violated c

/-- The log level is not cut inside a character when it is read as a filter. -/
def Readable (c : Config) : Prop :=
  Log.Filter.parse c.observability.logLevel ≠ .error .cutInsideCharacter

section Problems

variable {c : Config} {levelFine : Bool}

theorem mem_violated_iff {s : Setting} : s ∈ c.violated ↔ s.Violated c := by
  rw [violated, List.mem_filter, decide_eq_true_eq, and_iff_right s.mem_all]

theorem violated_eq_nil_iff : c.violated = [] ↔ ∀ s : Setting, ¬ s.Violated c := by
  simp only [List.eq_nil_iff_forall_not_mem, mem_violated_iff]

theorem not_violated_logLevel_iff : ¬ Setting.logLevel.Violated c ↔
    ∃ filter, Log.Filter.parse c.observability.logLevel = .ok filter := by
  simp only [Setting.Violated, ne_eq, not_forall, not_not]

/-- One requirement reports its setting if and only if it cannot be used. -/
theorem require_eq {s : Setting} {holds : Bool} (h : holds = true ↔ ¬ s.Violated c) :
    require holds s.path (s.complaint c) =
      ([s].filter fun s => s.Violated c).map (Setting.problem c) := by
  by_cases hs : s.Violated c
  · have hholds : holds = false := Bool.eq_false_iff.mpr fun ht => h.mp ht hs
    simp [require, hholds, hs, Setting.problem]
  · simp [require, h.mpr hs, hs]

theorem problemsWith_eq (h : levelFine = true ↔ ¬ Setting.logLevel.Violated c) :
    c.problemsWith levelFine = c.violated.map (Setting.problem c) := by
  have hbind : SocketAddress.isValid c.listener.bindAddress = true ↔
      ¬ Setting.bindAddress.Violated c := Option.isSome_iff_ne_none
  have hsecs : (c.timeouts.requestSecs != 0) = true ↔ ¬ Setting.requestSecs.Violated c :=
    bne_iff_ne
  have hbytes : (c.limits.maxBodyBytes != 0) = true ↔ ¬ Setting.maxBodyBytes.Violated c :=
    bne_iff_ne
  have hmetrics : (!c.observability.metricsEnabled ||
      SocketAddress.isValid c.observability.metricsAddress) = true ↔
        ¬ Setting.metricsAddress.Violated c := by
    rw [Setting.Violated, not_and, Bool.or_eq_true, Bool.not_eq_true', ← Bool.not_eq_true,
      SocketAddress.isValid, Option.isSome_iff_ne_none]
    exact imp_iff_not_or.symm
  have henabled : ([Setting.metricsEnabled].filter fun s => s.Violated c) = [] := rfl
  have hall : Setting.all = [Setting.bindAddress] ++ [Setting.requestSecs] ++
      [Setting.maxBodyBytes] ++ [Setting.logLevel] ++ [Setting.metricsEnabled] ++
      [Setting.metricsAddress] := rfl
  rw [violated, hall]
  simp only [List.filter_append, henabled, List.append_nil, List.map_append]
  rw [← require_eq hbind, ← require_eq hsecs, ← require_eq hbytes, ← require_eq h,
    ← require_eq hmetrics]
  rfl

/-- Validation reports exactly the settings that cannot be used. -/
theorem problems_eq (h : c.Readable) : c.problems = .ok (c.violated.map (Setting.problem c)) := by
  unfold problems
  split
  · next filter hfilter =>
    have hfine : true = true ↔ ¬ Setting.logLevel.Violated c :=
      iff_of_true rfl (not_violated_logLevel_iff.mpr ⟨filter, hfilter⟩)
    rw [problemsWith_eq hfine]
  · next hcut => exact absurd hcut h
  · next e _ herror =>
    have hfine : false = true ↔ ¬ Setting.logLevel.Violated c := by
      refine iff_of_false Bool.false_ne_true ?_
      rw [not_violated_logLevel_iff]
      rintro ⟨filter, hfilter⟩
      cases herror.symm.trans hfilter
    rw [problemsWith_eq hfine]

theorem problems_of_not_readable (h : ¬ c.Readable) : c.problems = .error .logLevel := by
  rw [Readable, not_not] at h
  rw [problems, h]

theorem readable_of_not_violated (h : ¬ Setting.logLevel.Violated c) : c.Readable := by
  obtain ⟨filter, hfilter⟩ := not_violated_logLevel_iff.mp h
  intro hcut
  cases hcut.symm.trans hfilter

end Problems

end RouteTree.Config
