import Mathlib.Data.List.Basic
import Mathlib.Tactic.Choose
import RouteTree.Config.Load

/-!
# What a document says of a configuration

Each setting has a place of its own in a document, and a document that leaves the place
empty leaves the setting at its default. So a document is read as a configuration unless
something that stands in it has the wrong form, and what it says of one setting has no
part in the others.
-/

namespace RouteTree.Config

/-- The settings of a configuration in the order in which they are validated. -/
inductive Setting where
  | bindAddress
  | requestSecs
  | maxBodyBytes
  | logLevel
  | metricsEnabled
  | metricsAddress
  deriving DecidableEq

namespace Setting

/-- The section of a document that a setting stands in. -/
def sectionName : Setting → String
  | .bindAddress => "listener"
  | .requestSecs => "timeouts"
  | .maxBodyBytes => "limits"
  | .logLevel => "observability"
  | .metricsEnabled => "observability"
  | .metricsAddress => "observability"

/-- The name of a setting in its section. -/
def key : Setting → String
  | .bindAddress => "bind_address"
  | .requestSecs => "request_secs"
  | .maxBodyBytes => "max_body_bytes"
  | .logLevel => "log_level"
  | .metricsEnabled => "metrics_enabled"
  | .metricsAddress => "metrics_address"

/-- The place of a setting in a section that is written as an array. -/
def place : Setting → Nat
  | .bindAddress => 0
  | .requestSecs => 0
  | .maxBodyBytes => 0
  | .logLevel => 0
  | .metricsEnabled => 1
  | .metricsAddress => 2

/-- The value of a setting in a configuration. -/
def value (c : Config) : Setting → Toml.Value
  | .bindAddress => .string c.listener.bindAddress
  | .requestSecs => .integer c.timeouts.requestSecs
  | .maxBodyBytes => .integer c.limits.maxBodyBytes
  | .logLevel => .string c.observability.logLevel
  | .metricsEnabled => .boolean c.observability.metricsEnabled
  | .metricsAddress => .string c.observability.metricsAddress

/-- What a document states for a setting, if it does. -/
def stated? (root : Toml.Entries) (s : Setting) : Option Toml.Value :=
  match root.get? s.sectionName with
  | some (.table _ entries) => Toml.Entries.get? entries s.key
  | some (.array items) => items[s.place]?
  | some (.tables items) => (items[s.place]?).map (.table .header)
  | _ => none

/-- Some configuration has the value. -/
def Fits (s : Setting) (v : Toml.Value) : Prop := ∃ c : Config, s.value c = v

end Setting

/-- A section is a table, an array or an array of tables. A moment of time counts as an
empty table. -/
inductive IsSection : Toml.Value → Prop
  | table (origin : Toml.Origin) (entries : List (String × Toml.Value)) :
      IsSection (.table origin entries)
  | array (items : List Toml.Value) : IsSection (.array items)
  | tables (items : List (List (String × Toml.Value))) : IsSection (.tables items)
  | moment : IsSection .moment

/-- The configuration of a document. Each setting has the value that the document states
for it, or else its default. -/
structure ReadFrom (root : Toml.Entries) (c : Config) : Prop where
  sections : ∀ (s : Setting) (v : Toml.Value), root.get? s.sectionName = some v → IsSection v
  values : ∀ s : Setting, s.value c = (s.stated? root).getD (s.value Config.default)

section Sections

variable {root : Toml.Entries} {s : Setting} {sec : Section} {key : String} {place : Nat}

theorem exists_section?_iff {name : String} :
    (∃ sec, section? root name = some sec) ↔ ∀ v, root.get? name = some v → IsSection v := by
  unfold section?
  constructor
  · rintro ⟨sec, hsec⟩ v hv
    rw [hv] at hsec
    cases v with
    | table origin entries => exact .table origin entries
    | array items => exact .array items
    | tables items => exact .tables items
    | moment => exact .moment
    | _ => cases hsec
  · intro h
    cases hget : root.get? name with
    | none => exact ⟨_, rfl⟩
    | some v => cases h v hget <;> exact ⟨_, rfl⟩

/-- A section holds what the document states. -/
theorem value?_eq_stated? (h : section? root s.sectionName = some sec) :
    sec.value? s.key s.place = s.stated? root := by
  unfold section? at h
  unfold Setting.stated?
  cases hget : root.get? s.sectionName with
  | none =>
      rw [hget] at h
      cases h
      rfl
  | some v =>
      rw [hget] at h
      cases v with
      | tables items =>
          cases h
          exact List.getElem?_map
      | table origin entries =>
          cases h
          rfl
      | array items =>
          cases h
          rfl
      | moment =>
          cases h
          rfl
      | _ => cases h

theorem text?_eq_some_iff {value default : String} :
    sec.text? key place default = some value ↔
      Toml.Value.string value = (sec.value? key place).getD (.string default) := by
  unfold Section.text?
  cases sec.value? key place with
  | none => simp [eq_comm]
  | some v => cases v <;> simp [eq_comm]

theorem nat?_eq_some_iff {value default : Nat} :
    sec.nat? key place default = some value ↔
      Toml.Value.integer value = (sec.value? key place).getD (.integer default) := by
  unfold Section.nat?
  cases sec.value? key place with
  | none =>
      simp only [Option.getD_none, Option.some.injEq, Toml.Value.integer.injEq]
      omega
  | some v =>
      cases v with
      | integer n =>
          simp only [Option.getD_some, Toml.Value.integer.injEq]
          split
          · rw [Option.some.injEq]
            omega
          · exact iff_of_false (Option.some_ne_none value).symm (by omega)
      | _ => simp

theorem bool?_eq_some_iff {value default : Bool} :
    sec.bool? key place default = some value ↔
      Toml.Value.boolean value = (sec.value? key place).getD (.boolean default) := by
  unfold Section.bool?
  cases sec.value? key place with
  | none => simp [eq_comm]
  | some v => cases v <;> simp [eq_comm]

end Sections

section Documents

variable {root : Toml.Entries} {c : Config}

/-- The configuration that a document is read as. -/
theorem ofToml?_eq_some_iff : ofToml? root = some c ↔ c.ReadFrom root := by
  unfold ofToml?
  simp only [Option.bind_eq_bind, Option.bind_eq_some_iff, Option.some.injEq, text?_eq_some_iff,
    nat?_eq_some_iff, bool?_eq_some_iff]
  constructor
  · rintro ⟨listener, hlistener, timeouts, htimeouts, limits, hlimits, observability,
      hobservability, bind, hbind, secs, hsecs, bytes, hbytes, level, hlevel, enabled, henabled,
      metrics, hmetrics, rfl⟩
    constructor
    · intro s
      apply exists_section?_iff.mp
      cases s with
      | bindAddress => exact ⟨listener, hlistener⟩
      | requestSecs => exact ⟨timeouts, htimeouts⟩
      | maxBodyBytes => exact ⟨limits, hlimits⟩
      | logLevel => exact ⟨observability, hobservability⟩
      | metricsEnabled => exact ⟨observability, hobservability⟩
      | metricsAddress => exact ⟨observability, hobservability⟩
    · intro s
      cases s with
      | bindAddress => exact value?_eq_stated? (s := .bindAddress) hlistener ▸ hbind
      | requestSecs => exact value?_eq_stated? (s := .requestSecs) htimeouts ▸ hsecs
      | maxBodyBytes => exact value?_eq_stated? (s := .maxBodyBytes) hlimits ▸ hbytes
      | logLevel => exact value?_eq_stated? (s := .logLevel) hobservability ▸ hlevel
      | metricsEnabled => exact value?_eq_stated? (s := .metricsEnabled) hobservability ▸ henabled
      | metricsAddress => exact value?_eq_stated? (s := .metricsAddress) hobservability ▸ hmetrics
  · intro h
    have hsection (s : Setting) := exists_section?_iff.mpr (h.sections s)
    have hvalue (s : Setting) {sec : Section} (hsec : section? root s.sectionName = some sec) :
        s.value c = (sec.value? s.key s.place).getD (s.value Config.default) :=
      (h.values s).trans (by rw [value?_eq_stated? hsec])
    obtain ⟨listener, hlistener⟩ := hsection .bindAddress
    obtain ⟨timeouts, htimeouts⟩ := hsection .requestSecs
    obtain ⟨limits, hlimits⟩ := hsection .maxBodyBytes
    obtain ⟨observability, hobservability⟩ := hsection .logLevel
    exact ⟨listener, hlistener, timeouts, htimeouts, limits, hlimits, observability,
      hobservability, _, hvalue .bindAddress hlistener, _, hvalue .requestSecs htimeouts,
      _, hvalue .maxBodyBytes hlimits, _, hvalue .logLevel hobservability,
      _, hvalue .metricsEnabled hobservability, _, hvalue .metricsAddress hobservability, rfl⟩

/-- A document is read as a configuration unless something that it states has the wrong
form: what is missing never prevents that. -/
theorem exists_readFrom_iff : (∃ c : Config, c.ReadFrom root) ↔
    (∀ (s : Setting) v, root.get? s.sectionName = some v → IsSection v) ∧
      ∀ (s : Setting) v, s.stated? root = some v → s.Fits v := by
  constructor
  · rintro ⟨c, hc⟩
    refine ⟨hc.sections, ?_⟩
    intro s v hv
    have hvalue := hc.values s
    rw [hv, Option.getD_some] at hvalue
    exact ⟨c, hvalue⟩
  · rintro ⟨hsections, hfits⟩
    have hgiven (s : Setting) : s.Fits ((s.stated? root).getD (s.value Config.default)) := by
      cases hstated : s.stated? root with
      | none => exact ⟨Config.default, rfl⟩
      | some v => exact hfits s v hstated
    choose giving hgiving using hgiven
    -- Each setting is taken from a configuration of its own, so none depends on another.
    let c : Config := {
      listener.bindAddress := (giving .bindAddress).listener.bindAddress
      timeouts.requestSecs := (giving .requestSecs).timeouts.requestSecs
      limits.maxBodyBytes := (giving .maxBodyBytes).limits.maxBodyBytes
      observability.logLevel := (giving .logLevel).observability.logLevel
      observability.metricsEnabled := (giving .metricsEnabled).observability.metricsEnabled
      observability.metricsAddress := (giving .metricsAddress).observability.metricsAddress }
    refine ⟨c, hsections, ?_⟩
    intro s
    have hsame : s.value c = s.value (giving s) := by cases s <;> rfl
    rw [hsame, hgiving s]

end Documents

/-- A text is a document that is read as a configuration. -/
def Denotes (text : String) (c : Config) : Prop :=
  ∃ root, Toml.parse? text = some root ∧ c.ReadFrom root

theorem denotes_iff {text : String} {c : Config} :
    Denotes text c ↔ (Toml.parse? text).bind ofToml? = some c := by
  simp only [Denotes, Option.bind_eq_some_iff, ofToml?_eq_some_iff]

end RouteTree.Config
