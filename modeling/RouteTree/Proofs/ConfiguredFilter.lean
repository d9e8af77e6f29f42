import RouteTree.Program
import RouteTree.Proofs.ConfigProblems
import RouteTree.Proofs.DirectiveReading

/-!
# The filter of a configured level

Validation takes a log level that is a filter. The program writes the level behind the
names of two targets, and there the part of it before the first comma is read as a level
alone. So the program uses all of an accepted level if and only if that part is empty or
a level; otherwise it uses only what stands behind the first comma.
-/

namespace RouteTree

/-- Validation finds nothing wrong with the log level of a configuration, whatever else
it finds. -/
def Config.AcceptsLevel (c : Config) : Prop :=
  ∃ ps, c.problems = .ok ps ∧ ∀ p ∈ ps, p.field ≠ "observability.log_level"

/-- Validation accepts the log levels that are filters. -/
theorem Config.acceptsLevel_iff {c : Config} :
    c.AcceptsLevel ↔ ∃ filter, Log.Filter.parse c.observability.logLevel = .ok filter := by
  rw [← not_violated_logLevel_iff]
  constructor
  · rintro ⟨ps, hps, hfine⟩ hviolated
    have hreadable : c.Readable := by
      intro hcut
      rw [problems_of_not_readable (not_not.mpr hcut)] at hps
      cases hps
    cases (problems_eq hreadable).symm.trans hps
    exact hfine _ (List.mem_map_of_mem (mem_violated_iff.mpr hviolated)) rfl
  · intro hfine
    refine ⟨_, problems_eq (readable_of_not_violated hfine), ?_⟩
    rintro p hp hfield
    obtain ⟨s, hs, rfl⟩ := List.mem_map.mp hp
    have hsetting : s = .logLevel := Setting.path_injective hfield
    rw [hsetting, mem_violated_iff] at hs
    exact hfine hs

namespace Program

open Log

section Targets

variable {name level : String} {others : Log.Filter}

theorem pieces_targeted (hcomma : ',' ∉ name.toList) :
    pieces (name ++ "=" ++ level) =
      (name.toList ++ '=' :: (leading level).toList) :: pieces (following level) := by
  have hnamed : ',' ∉ (name ++ "=").toList := by
    rw [String.toList_append, List.mem_append, not_or]
    exact ⟨hcomma, by decide⟩
  have hne : name ++ "=" ≠ "" := by simp
  rw [pieces_append hnamed hne]
  simp

theorem parse_targeted_leading (h : IsTarget name.toList) (level : String) :
    Directive.parse (name.toList ++ '=' :: (leading level).toList) =
      match levelOf? (leading level) with
      | some threshold => .ok ⟨some name, none, [], threshold⟩
      | none => .error .badLevel := by
  have hparse := Directive.parse_targeted h (leading level).toList
  rw [String.ofList_toList, String.ofList_toList] at hparse
  exact hparse

/-- Behind a target only the part of a level before the first comma is read in another
way. -/
theorem collects_targeted (h : IsTarget name.toList) (hcomma : ',' ∉ name.toList)
    (hothers : Log.Filter.parse (following level) = .ok others) {threshold : Threshold}
    (hlevel : levelOf? (leading level) = some threshold) :
    Collects (pieces (name ++ "=" ++ level)) (⟨some name, none, [], threshold⟩ :: others) [] := by
  have hparse := parse_targeted_leading h level
  rw [hlevel] at hparse
  rw [pieces_targeted hcomma]
  exact .read hparse (Filter.parse_eq_ok_iff.mp hothers)

theorem collects_untargeted (h : IsTarget name.toList) (hcomma : ',' ∉ name.toList)
    (hothers : Log.Filter.parse (following level) = .ok others)
    (hlevel : levelOf? (leading level) = none) :
    Collects (pieces (name ++ "=" ++ level)) others
      [name.toList ++ '=' :: (leading level).toList] := by
  have hparse := parse_targeted_leading h level
  rw [hlevel] at hparse
  rw [pieces_targeted hcomma]
  exact .leave hparse (by decide) (Filter.parse_eq_ok_iff.mp hothers)

/-- A target in front of something else than a level is no directive. -/
theorem exists_levelOf?_of_collects (h : IsTarget name.toList) (hcomma : ',' ∉ name.toList)
    {filter : Log.Filter} (hcollects : Collects (pieces (name ++ "=" ++ level)) filter []) :
    ∃ threshold, levelOf? (leading level) = some threshold := by
  rw [pieces_targeted hcomma, collects_cons_iff] at hcollects
  obtain ⟨d, -, hpiece, -⟩ := hcollects
  rw [parse_targeted_leading h] at hpiece
  cases hlevel : levelOf? (leading level) with
  | some threshold => exact ⟨threshold, rfl⟩
  | none =>
      rw [hlevel] at hpiece
      cases hpiece

theorem isTarget_rutt : IsTarget "rutt".toList where
  starts := ⟨'r', "utt".toList, rfl, rfl, rfl⟩
  plain := by simp

theorem isTarget_towerHttp : IsTarget "tower_http".toList where
  starts := ⟨'t', "ower_http".toList, rfl, rfl, rfl⟩
  plain := by simp

theorem comma_notMem_rutt : ',' ∉ "rutt".toList := by decide

theorem comma_notMem_towerHttp : ',' ∉ "tower_http".toList := by decide

theorem pieces_levelText (level : String) : pieces (levelText level) =
    pieces ("rutt" ++ "=" ++ level) ++ pieces ("tower_http" ++ "=" ++ level) := by
  rw [← pieces_join]
  apply congrArg pieces
  apply String.toList_inj.mp
  simp [levelText]

theorem collects_levelText (hothers : Log.Filter.parse (following level) = .ok others)
    {threshold : Threshold} (hlevel : levelOf? (leading level) = some threshold) :
    Collects (pieces (levelText level)) (⟨some "rutt", none, [], threshold⟩ :: others ++
      ⟨some "tower_http", none, [], threshold⟩ :: others) [] := by
  rw [pieces_levelText]
  exact (collects_targeted isTarget_rutt comma_notMem_rutt hothers hlevel).append
    (collects_targeted isTarget_towerHttp comma_notMem_towerHttp hothers hlevel)

theorem collects_levelText_of_none (hothers : Log.Filter.parse (following level) = .ok others)
    (hlevel : levelOf? (leading level) = none) :
    ∃ left, Collects (pieces (levelText level)) (others ++ others) left := by
  rw [pieces_levelText]
  exact ⟨_, (collects_untargeted isTarget_rutt comma_notMem_rutt hothers hlevel).append
    (collects_untargeted isTarget_towerHttp comma_notMem_towerHttp hothers hlevel)⟩

/-- What is written for a level is a filter if and only if the level starts with an
empty part or a level. -/
theorem exists_parse_levelText_iff (hothers : Log.Filter.parse (following level) = .ok others) :
    (∃ filter, Log.Filter.parse (levelText level) = .ok filter) ↔
      ∃ threshold, levelOf? (leading level) = some threshold := by
  constructor
  · rintro ⟨filter, hfilter⟩
    rw [Filter.parse_eq_ok_iff, pieces_levelText, collects_append_iff] at hfilter
    obtain ⟨front, -, hfront, -⟩ := hfilter
    exact exists_levelOf?_of_collects isTarget_rutt comma_notMem_rutt hfront
  · rintro ⟨threshold, hlevel⟩
    have hcollects := collects_levelText hothers hlevel
    exact ⟨_, Filter.parse_eq_ok_iff.mpr hcollects⟩

/-- What is neither empty nor a level is one directive. -/
theorem exists_eq_singleton_of_none {first : Log.Filter}
    (hfirst : Collects (pieces (leading level)) first [])
    (hlevel : levelOf? (leading level) = none) :
    ∃ d, first = [d] := by
  have hne : leading level ≠ "" := by
    intro hempty
    rw [hempty] at hlevel
    cases hlevel
  have hpiece : pieces (leading level) = [(leading level).toList] := by
    rw [pieces_of_notMem (comma_notMem_leading level)]
    simp [hne]
  rw [hpiece, collects_cons_iff] at hfirst
  obtain ⟨d, rest, -, hrest, rfl⟩ := hfirst
  cases hrest
  exact ⟨d, rfl⟩

/-- Without a filter around it the program takes what can be read for the level. -/
theorem chooseFilter_of_collects {s : Surroundings} (hunset : s.filterText = none) {f : Log.Filter}
    {left : List (List Char)} (hcollects : Collects (pieces (levelText level)) f left) :
    chooseFilter s level = .ok f := by
  rw [chooseFilter, hunset, hcollects.parseLossy_eq]

end Targets

/-- The filter for an accepted level. Its first directive is read again behind the two
targets, and all others as they are. So the filter that the program writes down is one
if and only if the first directive is empty or a level, which the targets then have.
Otherwise the program goes without the first directive. -/
theorem chooseFilter_of_accepted (s : Surroundings) (c : Config) (hunset : s.filterText = none)
    (haccepted : c.AcceptsLevel) :
    let level := c.observability.logLevel
    ∃ first others : Log.Filter,
      Log.Filter.parse (leading level) = .ok first ∧
      Log.Filter.parse (following level) = .ok others ∧
      Log.Filter.parse level = .ok (first ++ others) ∧
      ((∃ filter, Log.Filter.parse (levelText level) = .ok filter) ↔
        ∃ threshold, levelOf? (leading level) = some threshold) ∧
      (∀ threshold, levelOf? (leading level) = some threshold →
        chooseFilter s level = .ok (⟨some "rutt", none, [], threshold⟩ :: others ++
          ⟨some "tower_http", none, [], threshold⟩ :: others)) ∧
      (levelOf? (leading level) = none →
        (∃ d, first = [d]) ∧ chooseFilter s level = .ok (others ++ others)) := by
  intro level
  obtain ⟨filter, hwhole⟩ := Config.acceptsLevel_iff.mp haccepted
  have hpieces := Filter.parse_eq_ok_iff.mp hwhole
  rw [pieces_eq, collects_append_iff] at hpieces
  obtain ⟨first, others, hfirst, hrest, rfl⟩ := hpieces
  have hothers := Filter.parse_eq_ok_iff.mpr hrest
  refine ⟨first, others, Filter.parse_eq_ok_iff.mpr hfirst, hothers, hwhole,
    exists_parse_levelText_iff hothers, ?_, ?_⟩
  · intro threshold hlevel
    exact chooseFilter_of_collects hunset (collects_levelText hothers hlevel)
  · intro hlevel
    obtain ⟨left, hleft⟩ := collects_levelText_of_none hothers hlevel
    exact ⟨exists_eq_singleton_of_none hfirst hlevel, chooseFilter_of_collects hunset hleft⟩

section Lists

theorem isTarget_info : IsTarget "info".toList where
  starts := ⟨'i', "nfo".toList, rfl, rfl, rfl⟩
  plain := by simp

theorem isTarget_hyper : IsTarget "hyper".toList where
  starts := ⟨'h', "yper".toList, rfl, rfl, rfl⟩
  plain := by simp

theorem parse_hyper :
    Log.Filter.parse "hyper=warn" = .ok [⟨some "hyper", none, [], some .warn⟩] := by
  have hpiece := Directive.parse_targeted isTarget_hyper "warn".toList
  exact Filter.parse_eq_ok_iff.mpr (.read hpiece .nil)

/-- A level, and another one for a single target. -/
def listed : Config where
  observability.logLevel := "info,hyper=warn"

theorem acceptsLevel_listed : listed.AcceptsLevel := by
  have hpiece := Directive.parse_plain isTarget_info rfl
  have hothers := Filter.parse_eq_ok_iff.mp parse_hyper
  exact Config.acceptsLevel_iff.mpr ⟨_, Filter.parse_eq_ok_iff.mpr (.read hpiece hothers)⟩

theorem chooseFilter_listed :
    listed.AcceptsLevel ∧ (∃ filter, Log.Filter.parse (levelText "info,hyper=warn") = .ok filter) ∧
      chooseFilter ⟨fun _ => none, none, fun _ => false⟩ "info,hyper=warn" =
        .ok [⟨some "rutt", none, [], some .info⟩, ⟨some "hyper", none, [], some .warn⟩,
          ⟨some "tower_http", none, [], some .info⟩, ⟨some "hyper", none, [], some .warn⟩] := by
  obtain ⟨_, others, -, hothers, -, hfilter, hchosen, -⟩ :=
    chooseFilter_of_accepted ⟨fun _ => none, none, fun _ => false⟩ listed rfl acceptsLevel_listed
  cases hothers.symm.trans parse_hyper
  exact ⟨acceptsLevel_listed, hfilter.mpr ⟨_, rfl⟩, hchosen _ rfl⟩

/-- A level for a single target. -/
def targeted : Config where
  observability.logLevel := "rutt=info"

theorem acceptsLevel_targeted : targeted.AcceptsLevel := by
  have hpiece := Directive.parse_targeted isTarget_rutt "info".toList
  exact Config.acceptsLevel_iff.mpr ⟨_, Filter.parse_eq_ok_iff.mpr (.read hpiece .nil)⟩

/-- A level for a single target is accepted, and what the program writes down for it is
no filter. -/
theorem targeted_writes_no_filter :
    ¬ ∀ c : Config, c.AcceptsLevel →
      ∃ filter, Log.Filter.parse (levelText c.observability.logLevel) = .ok filter := by
  intro h
  have hnothing : Log.Filter.parse (following "rutt=info") = .ok [] := rfl
  obtain ⟨threshold, hlevel⟩ :=
    (exists_parse_levelText_iff hnothing).mp (h targeted acceptsLevel_targeted)
  have hnone : levelOf? (leading "rutt=info") = none := by decide
  cases hnone.symm.trans hlevel

end Lists

end Program

end RouteTree
