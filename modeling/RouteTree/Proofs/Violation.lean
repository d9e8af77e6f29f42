import RouteTree.Schema.Validation

/-!
# Violated rules

Validation compares captured values with the rules for their names. It fails exactly if
one of them does not keep to its rule, and then with the error of the least name whose
value does not.
-/

namespace RouteTree.Schema

/-- The captured value of a name does not keep to the rule for the name. -/
def Breaks (schema : Schema) (params : SortedMap String String) (name : String) (rule : Rule) :
    Prop :=
  schema.get? name = some rule ∧ ∃ value, params.get? name = some value ∧ rule.accepts value = false

/-- A broken rule before whose name, in ascending order, none is broken. -/
def BreaksFirst (schema : Schema) (params : SortedMap String String) (name : String)
    (rule : Rule) : Prop :=
  schema.Breaks params name rule ∧ ∀ other rule', schema.Breaks params other rule' → ¬ other < name

theorem entryViolation?_eq_some_iff {schema : Schema} {params : SortedMap String String}
    {name : String} {rule : Rule} (h : (name, rule) ∈ schema.entries) {found : String × String} :
    entryViolation? params (name, rule) = some found ↔
      schema.Breaks params name rule ∧ found = (name, rule.requirement) := by
  have hget : schema.get? name = some rule := SortedMap.get?_eq_some_iff.mpr h
  unfold entryViolation? Breaks
  cases hp : params.get? name with
  | none => simp
  | some value =>
      cases ha : rule.accepts value with
      | true => simp [Rule.violation?, ha]
      | false =>
          have hviolation : rule.violation? value = some rule.requirement := by
            simp [Rule.violation?, ha]
          constructor
          · intro hfound
            refine ⟨⟨hget, value, rfl, ha⟩, ?_⟩
            simpa [hviolation] using hfound.symm
          · rintro ⟨-, rfl⟩
            simp [hviolation]

theorem entryViolation?_eq_none_iff {schema : Schema} {params : SortedMap String String}
    {name : String} {rule : Rule} (h : (name, rule) ∈ schema.entries) :
    entryViolation? params (name, rule) = none ↔ ¬ schema.Breaks params name rule := by
  constructor
  · intro hnone hbreaks
    have hsome := (entryViolation?_eq_some_iff h).mpr ⟨hbreaks, rfl⟩
    rw [hnone] at hsome
    cases hsome
  · intro hkeeps
    cases hfound : entryViolation? params (name, rule) with
    | none => rfl
    | some found => exact absurd ((entryViolation?_eq_some_iff h).mp hfound).1 hkeeps

theorem violation?_eq_none_iff {schema : Schema} {params : SortedMap String String} :
    violation? schema params = none ↔ ∀ name rule, ¬ schema.Breaks params name rule := by
  unfold violation?
  rw [List.findSome?_eq_none_iff]
  constructor
  · intro h name rule hbreaks
    have hmem : (name, rule) ∈ schema.entries := SortedMap.get?_eq_some_iff.mp hbreaks.1
    exact (entryViolation?_eq_none_iff hmem).mp (h _ hmem) hbreaks
  · rintro h ⟨name, rule⟩ hmem
    exact (entryViolation?_eq_none_iff hmem).mpr (h name rule)

/-- What is found first is the violation of the least name. -/
theorem breaksFirst_of_violation? {schema : Schema} {params : SortedMap String String}
    {name reason : String} (h : violation? schema params = some (name, reason)) :
    ∃ rule, schema.BreaksFirst params name rule ∧ reason = rule.requirement := by
  obtain ⟨before, ⟨key, rule⟩, behind, hsplit, hfound, hbefore⟩ := List.findSome?_eq_some_iff.mp h
  have hmem : (key, rule) ∈ schema.entries := by simp [hsplit]
  obtain ⟨hbreaks, heq⟩ := (entryViolation?_eq_some_iff hmem).mp hfound
  obtain ⟨rfl, rfl⟩ := Prod.mk.inj heq
  refine ⟨rule, ⟨hbreaks, ?_⟩, rfl⟩
  intro other rule' hother hlt
  have hmem' : (other, rule') ∈ schema.entries := SortedMap.get?_eq_some_iff.mp hother.1
  have hascending := schema.ascending
  rw [Ascending, hsplit, List.pairwise_append, List.pairwise_cons] at hascending
  obtain ⟨-, ⟨hbehind, -⟩, -⟩ := hascending
  rw [hsplit, List.mem_append, List.mem_cons] at hmem'
  rcases hmem' with hin | heq' | hin
  · have hkeeps := hbefore _ hin
    rw [entryViolation?_eq_none_iff (SortedMap.get?_eq_some_iff.mp hother.1)] at hkeeps
    exact hkeeps hother
  · obtain ⟨rfl, -⟩ := Prod.mk.inj heq'
    exact Std.lt_irrefl hlt
  · exact Std.lt_irrefl (Std.lt_trans hlt (hbehind _ hin))

theorem validate_eq_ok_iff {schema : Schema} {params : SortedMap String String} :
    schema.validate params = .ok () ↔ ∀ name rule, ¬ schema.Breaks params name rule := by
  rw [← violation?_eq_none_iff]
  unfold validate
  cases violation? schema params <;> simp

/-- If a rule is broken, validation fails with the error of the first that is. -/
theorem exists_breaksFirst {schema : Schema} {params : SortedMap String String}
    (h : ∃ name rule, schema.Breaks params name rule) :
    ∃ name rule, schema.BreaksFirst params name rule ∧
      schema.validate params = .error (violationError name rule.requirement) := by
  cases hv : violation? schema params with
  | none =>
      obtain ⟨name, rule, hbreaks⟩ := h
      exact absurd hbreaks (violation?_eq_none_iff.mp hv name rule)
  | some found =>
      obtain ⟨name, reason⟩ := found
      obtain ⟨rule, hfirst, rfl⟩ := breaksFirst_of_violation? hv
      exact ⟨name, rule, hfirst, by rw [validate, hv]⟩

end RouteTree.Schema
