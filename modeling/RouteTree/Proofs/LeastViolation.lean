import RouteTree.Proofs.Utf8Order
import RouteTree.Proofs.Violation

/-!
# The violation that is reported

Of all captured values that break a rule, validation reports the one whose name has the
least octets. Rules without a captured value and captured values without a rule have no
part in that, so the outcome depends on the names only that have both.
-/

namespace RouteTree.Schema

section Agreement

variable {schema schema' : Schema} {params params' : SortedMap String String}
  {name name' : String} {rule rule' : Rule}

theorem Breaks.rule_unique (h : schema.Breaks params name rule)
    (h' : schema.Breaks params name rule') : rule = rule' :=
  Option.some.inj (h.1.symm.trans h'.1)

/-- Only one broken rule is the first. -/
theorem BreaksFirst.unique (h : schema.BreaksFirst params name rule)
    (h' : schema.BreaksFirst params name' rule') : name = name' ∧ rule = rule' := by
  obtain rfl : name = name' := by
    rcases Std.lt_trichotomy name name' with hlt | heq | hgt
    · exact absurd hlt (h'.2 name rule h.1)
    · exact heq
    · exact absurd hgt (h.2 name' rule' h'.1)
  exact ⟨rfl, h.1.rule_unique h'.1⟩

/-- Validation looks at nothing but the rules that are broken. -/
theorem validate_congr
    (h : ∀ name rule, schema.Breaks params name rule ↔ schema'.Breaks params' name rule) :
    schema.validate params = schema'.validate params' := by
  by_cases hbroken : ∃ name rule, schema.Breaks params name rule
  · have hbroken' : ∃ name rule, schema'.Breaks params' name rule := by
      obtain ⟨name, rule, hbreaks⟩ := hbroken
      exact ⟨name, rule, (h name rule).mp hbreaks⟩
    obtain ⟨name, rule, hfirst, herror⟩ := exists_breaksFirst hbroken
    obtain ⟨name', rule', hfirst', herror'⟩ := exists_breaksFirst hbroken'
    have hsame : schema.BreaksFirst params name' rule' := by
      refine ⟨(h name' rule').mpr hfirst'.1, ?_⟩
      intro other otherRule hother
      exact hfirst'.2 other otherRule ((h other otherRule).mp hother)
    obtain ⟨rfl, rfl⟩ := hfirst.unique hsame
    rw [herror, herror']
  · have hkeeps : ∀ name rule, ¬ schema.Breaks params name rule := by
      intro name rule hbreaks
      exact hbroken ⟨name, rule, hbreaks⟩
    have hkeeps' : ∀ name rule, ¬ schema'.Breaks params' name rule := by
      intro name rule hbreaks
      exact hkeeps name rule ((h name rule).mpr hbreaks)
    rw [validate_eq_ok_iff.mpr hkeeps, validate_eq_ok_iff.mpr hkeeps']

/-- Two maps of values agree on the names that have a rule. -/
theorem breaks_iff_of_params
    (h : ∀ name, schema.get? name ≠ none → params'.get? name = params.get? name) :
    schema.Breaks params name rule ↔ schema.Breaks params' name rule := by
  unfold Breaks
  refine and_congr_right fun hrule => ?_
  have hruled : schema.get? name ≠ none := by
    rw [hrule]
    exact Option.some_ne_none rule
  rw [h name hruled]

/-- Two schemas agree on the names that have a value. -/
theorem breaks_iff_of_rules
    (h : ∀ name, params.get? name ≠ none → schema'.get? name = schema.get? name) :
    schema.Breaks params name rule ↔ schema'.Breaks params name rule := by
  unfold Breaks
  refine and_congr_left fun ⟨value, hvalue, _⟩ => ?_
  have hcaptured : params.get? name ≠ none := by
    rw [hvalue]
    exact Option.some_ne_none value
  rw [h name hcaptured]

end Agreement

/-- An error tells of a parameter that does not keep to its rule. -/
structure Reports (error : HttpError) (name : String) (rule : Rule) : Prop where
  status : error.status = .badRequest
  message : error.message = "\"" ++ name ++ "\" " ++ rule.requirement
  data : error.data = some (Json.ofMembers [("source", .string "params"), ("key", .string name)])

theorem reports_violationError (name : String) (rule : Rule) :
    Reports (violationError name rule.requirement) name rule := ⟨rfl, rfl, rfl⟩

/-- A broken rule whose name has lesser octets than the names of all others that are
broken. -/
def BreaksLeast (schema : Schema) (params : SortedMap String String) (name : String)
    (rule : Rule) : Prop :=
  schema.Breaks params name rule ∧ ∀ other rule', schema.Breaks params other rule' →
    other ≠ name → Utf8.ofString name < Utf8.ofString other

theorem BreaksFirst.breaksLeast {schema : Schema} {params : SortedMap String String}
    {name : String} {rule : Rule} (h : schema.BreaksFirst params name rule) :
    schema.BreaksLeast params name rule := by
  refine ⟨h.1, ?_⟩
  intro other rule' hother hne
  rw [Utf8.ofString_lt_iff]
  rcases Std.lt_trichotomy name other with hlt | heq | hgt
  · exact hlt
  · exact absurd heq.symm hne
  · exact absurd hgt (h.2 other rule' hother)

theorem exists_breaks_of_error {schema : Schema} {params : SortedMap String String}
    {error : HttpError} (h : schema.validate params = .error error) :
    ∃ name rule, schema.Breaks params name rule := by
  unfold validate at h
  split at h
  · next name reason hfound =>
    obtain ⟨rule, hfirst, -⟩ := breaksFirst_of_violation? hfound
    exact ⟨name, rule, hfirst.1⟩
  · cases h

/-- Validation fails if and only if a captured value breaks the rule for its name, and
the error then tells of the least name of such a value. Values without a rule and rules
without a value make no difference. -/
theorem validate_reports_least (schema : Schema) (params : SortedMap String String) :
    ((∃ error, schema.validate params = .error error) ↔
        ∃ name rule, schema.Breaks params name rule) ∧
      (∀ error, schema.validate params = .error error →
        ∃ name rule, schema.BreaksLeast params name rule ∧ Reports error name rule) ∧
      (∀ params', (∀ name, schema.get? name ≠ none → params'.get? name = params.get? name) →
        schema.validate params' = schema.validate params) ∧
      ∀ schema' : Schema,
        (∀ name, params.get? name ≠ none → schema'.get? name = schema.get? name) →
        schema'.validate params = schema.validate params := by
  refine ⟨⟨fun ⟨error, herror⟩ => exists_breaks_of_error herror, ?_⟩, ?_, ?_, ?_⟩
  · intro hbroken
    obtain ⟨name, rule, -, herror⟩ := exists_breaksFirst hbroken
    exact ⟨_, herror⟩
  · intro error herror
    obtain ⟨name, rule, hfirst, hfound⟩ := exists_breaksFirst (exists_breaks_of_error herror)
    obtain rfl := Except.error.inj (herror.symm.trans hfound)
    exact ⟨name, rule, hfirst.breaksLeast, reports_violationError name rule⟩
  · intro params' hagree
    exact (validate_congr fun _ _ => breaks_iff_of_params hagree).symm
  · intro schema' hagree
    exact (validate_congr fun _ _ => breaks_iff_of_rules hagree).symm

/-- Rules for three parameters. -/
def shelfRules : Schema :=
  SortedMap.ofList [("shelf", .integer), ("owner", .uuid), ("code", .length 2 3)]

/-- Two values that break their rules, and one without a rule. -/
def shelfValues : SortedMap String String :=
  SortedMap.ofList [("shelf", "first"), ("slug", "free"), ("code", "x")]

theorem shelfValues_report_code :
    (∃ error name rule, shelfRules.validate shelfValues = .error error ∧
        error.message = "\"code\" length must be between 2 and 3" ∧
        shelfRules.BreaksLeast shelfValues name rule ∧ Reports error name rule) ∧
      shelfRules.validate (shelfValues.insert "slug" "bound") = shelfRules.validate shelfValues ∧
      Schema.validate (shelfRules.insert "owner" .any) shelfValues =
        shelfRules.validate shelfValues := by
  obtain ⟨-, herrors, hvalues, hrules⟩ := validate_reports_least shelfRules shelfValues
  have herror : shelfRules.validate shelfValues =
      .error (violationError "code" (Rule.length 2 3).requirement) := rfl
  obtain ⟨name, rule, hleast, hreports⟩ := herrors _ herror
  refine ⟨⟨_, name, rule, herror, by decide, hleast, hreports⟩, ?_, ?_⟩
  · have hslug : shelfRules.get? "slug" = none := rfl
    apply hvalues
    intro name hname
    apply SortedMap.get?_insert_of_ne
    rintro rfl
    exact hname hslug
  · have howner : shelfValues.get? "owner" = none := rfl
    apply hrules
    intro name hname
    apply SortedMap.get?_insert_of_ne
    rintro rfl
    exact hname howner

end RouteTree.Schema
