import Mathlib.Data.List.Nodup
import RouteTree.Proofs.ServableTable

/-!
# The check of a table

The check keeps one name for each shape. On the way through a path these are the names
that the places before and the segments so far give, so it passes exactly the segments
that are undisputed and ends at the first parameter that is misnamed. Whether the name
that is kept agrees says enough: in a table that can be served up to here, all earlier
names behind alike segments are the same.
-/

namespace RouteTree

/-- A list with one more at its end is split there or before. -/
theorem split_concat {α : Type} {front before after : List α} {last c : α}
    (h : front ++ [last] = before ++ c :: after) :
    front = before ∧ last = c ∧ after = [] ∨
      ∃ rest, front = before ++ c :: rest ∧ after = rest ++ [last] := by
  rcases List.eq_nil_or_concat after with rfl | ⟨rest, d, rfl⟩
  · obtain ⟨hfront, htail⟩ := List.append_inj' h rfl
    exact Or.inl ⟨hfront, List.singleton_inj.mp htail, rfl⟩
  · have h' : front ++ [last] = (before ++ c :: rest) ++ [d] := by simpa using h
    obtain ⟨hfront, htail⟩ := List.append_inj' h' rfl
    obtain rfl := List.singleton_inj.mp htail
    exact Or.inr ⟨rest, hfront, List.concat_eq_append⟩

namespace Table

section Steps

variable {names : Named} {before : List (List String × String)} {done : List String}
  {s name path : String}

/-- Two shapes up to a parameter are the same if the segments before are alike. -/
theorem shape_anyParameter_eq_iff {front : List String} (hfront : ∀ s ∈ front, '/' ∉ s.toList)
    (hdone : ∀ s ∈ done, '/' ∉ s.toList) :
    shape front ++ "/" ++ anyParameter = shape done ++ "/" ++ anyParameter ↔
      front.map erased = done.map erased := by
  rw [← shape_eq_shape_iff hfront hdone]
  constructor
  · intro h
    have htext := congrArg String.toList h
    simp only [String.toList_append] at htext
    exact String.toList_inj.mp (List.append_cancel_right (List.append_cancel_right htext))
  · intro h
    rw [h]

theorem Remembers.literal (h : Remembers names (before ++ [(done, path)]))
    (hs : parameterName? s = none) : Remembers names (before ++ [(done ++ [s], path)]) := by
  intro front hfront
  rw [h front hfront, firstNamed?_concat, hs]
  simp

theorem Remembers.keep (h : Remembers names (before ++ [(done, path)]))
    (hdone : ∀ s ∈ done, '/' ∉ s.toList) {found : String × String}
    (hget : names.get? (shape done ++ "/" ++ anyParameter) = some found) :
    Remembers names (before ++ [(done ++ [s], path)]) := by
  intro front hfront
  rw [firstNamed?_concat]
  by_cases heq : front.map erased = done.map erased
  · have hkey := (shape_anyParameter_eq_iff hfront hdone).mpr heq
    rw [← h front hfront, hkey, hget, Option.some_or]
  · rw [if_neg heq, Option.or_none]
    exact h front hfront

theorem Remembers.insert (h : Remembers names (before ++ [(done, path)]))
    (hdone : ∀ s ∈ done, '/' ∉ s.toList) (hs : parameterName? s = some name)
    (hget : names.get? (shape done ++ "/" ++ anyParameter) = none) :
    Remembers (names.insert (shape done ++ "/" ++ anyParameter) (name, path))
      (before ++ [(done ++ [s], path)]) := by
  intro front hfront
  rw [firstNamed?_concat]
  by_cases heq : front.map erased = done.map erased
  · have hkey := (shape_anyParameter_eq_iff hfront hdone).mpr heq
    rw [hkey, SortedMap.get?_insert_self, ← h front hfront, hkey, hget, if_pos heq, hs]
    rfl
  · have hkey : shape front ++ "/" ++ anyParameter ≠ shape done ++ "/" ++ anyParameter := by
      intro h
      exact heq ((shape_anyParameter_eq_iff hfront hdone).mp h)
    rw [SortedMap.get?_insert_of_ne names _ hkey, if_neg heq, Option.or_none]
    exact h front hfront

end Steps

section Segments

variable {seen : List Place} {names : Named} {path : String}

theorem undisputed_nil : Undisputed seen [] := by
  intro front s behind name h
  cases front <;> cases h

theorem undisputed_append_left {front behind : List String}
    (h : Undisputed seen (front ++ behind)) : Undisputed seen front := by
  intro first s rest name hsplit
  exact h first s (rest ++ behind) name (by rw [hsplit]; simp)

theorem undisputed_concat_iff {front : List String} {s : String} :
    Undisputed seen (front ++ [s]) ↔ Undisputed seen front ∧
      ∀ name, parameterName? s = some name →
        name ≠ "" ∧ ∀ q ∈ seen, ∀ other, NamesBehind front q.path other → other = name := by
  constructor
  · intro h
    constructor
    · exact undisputed_append_left h
    · intro name
      exact h front s [] name rfl
  · rintro ⟨hfront, hs⟩ first t rest name hsplit
    rcases split_concat hsplit with ⟨rfl, rfl, -⟩ | ⟨rest, hrest, -⟩
    · exact hs name
    · exact hfront first t rest name hrest

/-- The name that is known for the shape of the segments so far is that of a place
before. -/
theorem Remembers.get?_done {done : List String}
    (h : Remembers names (known seen ++ [(done, path)])) (hdone : ∀ s ∈ done, '/' ∉ s.toList) :
    names.get? (shape done ++ "/" ++ anyParameter) = firstNamed? (known seen) done := by
  rw [h done hdone]
  have hself : nameBehind? done done = none := by
    simpa [nameBehind?] using nameBehind?_append done []
  simp [firstNamed?, List.findSome?_append, hself]

/-- Undisputed segments are passed. -/
theorem checkSegments_of_undisputed {done front : List String}
    (hslash : ∀ s ∈ done ++ front, '/' ∉ s.toList)
    (hnames : Remembers names (known seen ++ [(done, path)]))
    (h : Undisputed seen (done ++ front)) :
    ∃ names', Remembers names' (known seen ++ [(done ++ front, path)]) ∧
      ∀ rest, checkSegments path (shape done) names (front ++ rest) =
        checkSegments path (shape (done ++ front)) names' rest := by
  -- What is carried from segment to segment is that the map remembers all that is passed.
  induction front generalizing done names with
  | nil => exact ⟨names, by simpa using hnames, by simp⟩
  | cons s front ih =>
      have hdone : ∀ s ∈ done, '/' ∉ s.toList := by
        intro t ht
        exact hslash t (List.mem_append_left _ ht)
      have hcons : done ++ s :: front = (done ++ [s]) ++ front := by simp
      rw [hcons] at hslash
      -- It is enough to step over `s` to a map that remembers `s` too.
      have hpass {next : Named} (hnext : Remembers next (known seen ++ [(done ++ [s], path)]))
          (hstep : ∀ rest, checkSegments path (shape done) names (s :: rest) =
            checkSegments path (shape (done ++ [s])) next rest) :
          ∃ names', Remembers names' (known seen ++ [(done ++ s :: front, path)]) ∧
            ∀ rest, checkSegments path (shape done) names (s :: front ++ rest) =
              checkSegments path (shape (done ++ s :: front)) names' rest := by
        rw [hcons] at h ⊢
        obtain ⟨names', hnames', hrest⟩ := ih hslash hnext h
        refine ⟨names', hnames', ?_⟩
        intro rest
        calc
          checkSegments path (shape done) names (s :: (front ++ rest))
              = checkSegments path (shape (done ++ [s])) next (front ++ rest) :=
                hstep (front ++ rest)
          _ = checkSegments path (shape ((done ++ [s]) ++ front)) names' rest := hrest rest
      cases hs : parameterName? s with
      | none =>
          apply hpass (hnames.literal hs)
          intro rest
          rw [checkSegments, hs, shape_concat, erased_of_none hs]
      | some name =>
          obtain ⟨hname, hagree⟩ := h done s front name rfl hs
          have hempty : name.isEmpty = false := by simpa using hname
          cases hget : names.get? (shape done ++ "/" ++ anyParameter) with
          | none =>
              apply hpass (hnames.insert hdone hs hget)
              intro rest
              simp [checkSegments, hs, hempty, hget, erased_of_some hs]
          | some found =>
              apply hpass (hnames.keep hdone hget)
              intro rest
              have hfound := (hnames.get?_done hdone).symm.trans hget
              obtain ⟨earlier, q, later, other, rfl, -, hq, rfl⟩ :=
                firstNamed?_known_eq_some_iff.mp hfound
              have hother := hagree q (by simp) other hq
              simp [checkSegments, hs, hempty, hget, hother, erased_of_some hs]

/-- Names that the places before give are those from which the walk through a path
starts. -/
theorem remembers_start : Remembers names (known seen ++ [([], path)]) ↔
    Remembers names (known seen) := by
  have hfirst (front : List String) :
      firstNamed? (known seen ++ [([], path)]) front = firstNamed? (known seen) front := by
    cases front <;> simp [firstNamed?, List.findSome?_append, nameBehind?]
  simp only [Remembers, hfirst]

/-- The walk through a path reaches what stands behind its undisputed segments. -/
theorem exists_checkSegments {front rest : List String} (hnames : Remembers names (known seen))
    (hsegments : segments path = front ++ rest) (h : Undisputed seen front) :
    ∃ names', Remembers names' (known seen ++ [(front, path)]) ∧
      checkSegments path "" names (segments path) =
        checkSegments path (shape front) names' rest := by
  have hslash : ∀ s ∈ [] ++ front, '/' ∉ s.toList := slash_notMem_of_segments_eq_append hsegments
  obtain ⟨names', hnames', hwalk⟩ :=
    checkSegments_of_undisputed hslash (remembers_start.mpr hnames) h
  refine ⟨names', hnames', ?_⟩
  rw [hsegments]
  exact hwalk rest

theorem checkSegments_of_misnamed {e : ConfigurationError} (hnames : Remembers names (known seen))
    (h : Misnamed seen path e) : checkSegments path "" names (segments path) = .error e := by
  cases h with
  | nameless hsegments hfront =>
      obtain ⟨names', -, hwalk⟩ := exists_checkSegments hnames hsegments hfront
      rw [hwalk]
      simp [checkSegments]
  | @renamed front behind s name other earlier later q hsegments hfront hs hname hbefore hearlier
      hq hother =>
      obtain ⟨names', hnames', hwalk⟩ := exists_checkSegments hnames hsegments hfront
      have hslash := slash_notMem_of_segments_eq_append hsegments
      have hget : names'.get? (shape front ++ "/" ++ anyParameter) = some (other, q.path) := by
        rw [hnames'.get?_done hslash, firstNamed?_known_eq_some_iff]
        exact ⟨earlier, q, later, other, hbefore, hearlier, hq, rfl⟩
      have hempty : name.isEmpty = false := by simpa using hname
      rw [hwalk]
      simp [checkSegments, hs, hempty, hget, hother]

end Segments

section Places

variable {seen : List Place} {p : Place} {names : Named} {e : ConfigurationError}

theorem servable_nil : Servable [] where
  routable := by simp
  distinct := List.nodup_nil
  named := by simp
  agreeing := by simp

/-- A parameter stands in its own path behind the segments before it. -/
theorem eq_of_namesBehind {front behind : List String} {path s name other : String}
    (hsegments : segments path = front ++ s :: behind) (hs : parameterName? s = some name)
    (h : NamesBehind front path other) : other = name := by
  rw [namesBehind_iff, hsegments, nameBehind?_append] at h
  exact Option.some.inj (h.symm.trans hs)

theorem NamesBehind.of_alike {before front : List String} {path name : String}
    (h : NamesBehind front path name) (halike : List.Forall₂ Alike front before) :
    NamesBehind before path name := by
  obtain ⟨first, s, behind, hsegments, hfirst, hs⟩ := h
  rw [forall₂_alike_iff] at halike hfirst
  exact ⟨first, s, behind, hsegments, forall₂_alike_iff.mpr (halike.symm.trans hfirst), hs⟩

/-- In a table that can be served there is one name behind alike segments. -/
theorem Servable.unique (h : Servable seen) {q r : Place} (hq : q ∈ seen) (hr : r ∈ seen)
    {front : List String} {name other : String} (hname : NamesBehind front q.path name)
    (hother : NamesBehind front r.path other) : other = name := by
  obtain ⟨before, s, behind, hsegments, halike, hs⟩ := hname
  exact h.agreeing q hq r hr before s behind name other hsegments hs (hother.of_alike halike)

/-- What can be served can be served without some of its places and in any order. -/
theorem Servable.of_subset {places other : List Place} (h : Servable places)
    (hsubset : other ⊆ places) (hdistinct : other.Nodup) : Servable other := by
  constructor
  · intro p hp
    exact h.routable p (hsubset hp)
  · exact hdistinct
  · intro p hp
    exact h.named p (hsubset hp)
  · intro p hp q hq
    exact h.agreeing p (hsubset hp) q (hsubset hq)

theorem Servable.perm {places other : List Place} (h : Servable places)
    (hperm : places.Perm other) : Servable other := by
  apply h.of_subset
  · exact hperm.symm.subset
  · exact hperm.nodup_iff.mp h.distinct

/-- The last place of a table that can be served is undisputed by those before it. -/
theorem Servable.of_concat (h : Servable (seen ++ [p])) :
    Servable seen ∧ p.method.isRoutable = true ∧ p ∉ seen ∧ Undisputed seen (segments p.path) := by
  have hp : p ∈ seen ++ [p] := by simp
  have hseen : seen ⊆ seen ++ [p] := List.subset_append_left seen [p]
  have hnew := List.nodup_middle.mp h.distinct
  rw [List.append_nil, List.nodup_cons] at hnew
  refine ⟨h.of_subset hseen hnew.2, h.routable p hp, hnew.1, ?_⟩
  intro front s behind name hsegments hs
  constructor
  · rintro rfl
    apply h.named p hp
    rw [hsegments, eq_anyParameter_of_parameterName? hs]
    simp
  · intro q hq other hother
    exact h.agreeing p hp q (hseen hq) front s behind name other hsegments hs hother

/-- A place that is undisputed by a table that can be served can be added to it. -/
theorem Servable.concat (h : Servable seen) (hmethod : p.method.isRoutable = true)
    (hnew : p ∉ seen) (hpath : Undisputed seen (segments p.path)) : Servable (seen ++ [p]) := by
  have hcases {q : Place} (hq : q ∈ seen ++ [p]) : q ∈ seen ∨ q = p := by simpa using hq
  constructor
  · intro q hq
    rcases hcases hq with hseen | rfl
    · exact h.routable q hseen
    · exact hmethod
  · rw [List.nodup_middle, List.append_nil]
    exact List.nodup_cons.mpr ⟨hnew, h.distinct⟩
  · intro q hq hmem
    rcases hcases hq with hseen | rfl
    · exact h.named q hseen hmem
    · obtain ⟨front, behind, hsegments⟩ := List.append_of_mem hmem
      exact (hpath front anyParameter behind "" hsegments rfl).1 rfl
  · intro q hq r hr front s behind name other hsegments hs hother
    rcases hcases hq with hqseen | rfl
    · rcases hcases hr with hrseen | rfl
      · exact h.agreeing q hqseen r hrseen front s behind name other hsegments hs hother
      · -- The condition is symmetric, and the new place is known to agree with the others.
        obtain ⟨before, t, rest, hsplit, halike, ht⟩ := hother
        have hself : NamesBehind front q.path name := by
          rw [namesBehind_iff, hsegments, nameBehind?_append]
          exact hs
        have hagree := (hpath before t rest other hsplit ht).2 q hqseen name
        exact (hagree (hself.of_alike halike)).symm
    · rcases hcases hr with hrseen | rfl
      · exact (hpath front s behind name hsegments hs).2 r hrseen other hother
      · exact eq_of_namesBehind hsegments hs hother

theorem servable_singleton (hmethod : p.method.isRoutable = true)
    (hnamed : anyParameter ∉ segments p.path) : Servable [p] := by
  apply servable_nil.concat hmethod List.not_mem_nil
  intro front s behind name hsegments hs
  refine ⟨?_, by simp⟩
  rintro rfl
  apply hnamed
  rw [hsegments, eq_anyParameter_of_parameterName? hs]
  simp

theorem Undisputed.parameter {front : List String} {s name : String} (h : Undisputed seen front)
    (hs : parameterName? s = some name) (hname : name ≠ "")
    (hagree : ∀ q ∈ seen, ∀ other, NamesBehind front q.path other → other = name) :
    Undisputed seen (front ++ [s]) := by
  refine undisputed_concat_iff.mpr ⟨h, ?_⟩
  intro name' hname'
  obtain rfl := Option.some.inj (hs.symm.trans hname')
  exact ⟨hname, hagree⟩

/-- The segments of a path are undisputed, or there is a first one that is not. The
first place with a parameter behind alike segments speaks for all others. -/
theorem undisputed_or_misnamed (h : Servable seen) {path : String} {front behind : List String}
    (hsegments : segments path = front ++ behind) :
    Undisputed seen front ∨ ∃ e, Misnamed seen path e := by
  induction front using List.reverseRecOn generalizing behind with
  | nil => exact Or.inl undisputed_nil
  | append_singleton front s ih =>
      rw [List.append_assoc] at hsegments
      rcases ih hsegments with hfront | hmisnamed
      · cases hs : parameterName? s with
        | none => exact Or.inl (undisputed_concat_iff.mpr ⟨hfront, by simp [hs]⟩)
        | some name =>
            by_cases hname : name = ""
            · subst hname
              obtain rfl := eq_anyParameter_of_parameterName? hs
              exact Or.inr ⟨_, .nameless hsegments hfront⟩
            cases hfirst : firstNamed? (known seen) front with
            | none =>
                have hnone := firstNamed?_known_eq_none_iff.mp hfirst
                left
                apply hfront.parameter hs hname
                intro q hq other hother
                exact absurd hother (hnone q hq other)
            | some found =>
                obtain ⟨earlier, q, later, other, rfl, hearlier, hq, rfl⟩ :=
                  firstNamed?_known_eq_some_iff.mp hfirst
                by_cases hother : other = name
                · left
                  apply hfront.parameter hs hname
                  intro r hr third hthird
                  exact (h.unique (by simp) hr hq hthird).trans hother
                · exact Or.inr ⟨_, .renamed hsegments hfront hs hname rfl hearlier hq hother⟩
      · exact Or.inr hmisnamed

/-- A table that can be served can still be served with one place more, or that place is
refused. -/
theorem servable_concat_or_refused (h : Servable seen) (p : Place) :
    Servable (seen ++ [p]) ∨ ∃ e, Refused seen p e := by
  cases hmethod : p.method.isRoutable with
  | false => exact Or.inr ⟨_, .unsupported hmethod⟩
  | true =>
      by_cases hmem : p ∈ seen
      · exact Or.inr ⟨_, .duplicate hmethod hmem⟩
      · have hall : segments p.path = segments p.path ++ [] := (List.append_nil _).symm
        rcases undisputed_or_misnamed h hall with hpath | ⟨e, he⟩
        · exact Or.inl (h.concat hmethod hmem hpath)
        · exact Or.inr ⟨e, .misnamed hmethod hmem he⟩

/-- A table can be served, or there is a first place that is refused. -/
theorem servable_or_refused (places : List Place) :
    Servable places ∨ ∃ before p after e, places = before ++ p :: after ∧ Servable before ∧
      Refused before p e := by
  induction places using List.reverseRecOn with
  | nil => exact Or.inl servable_nil
  | append_singleton places p ih =>
      rcases ih with h | ⟨before, q, after, e, rfl, hbefore, hq⟩
      · rcases servable_concat_or_refused h p with hservable | ⟨e, he⟩
        · exact Or.inl hservable
        · exact Or.inr ⟨places, p, [], e, rfl, h, he⟩
      · exact Or.inr ⟨before, q, after ++ [p], e, by simp, hbefore, hq⟩

/-- The check passes places that can be served, and then knows their names. -/
theorem exists_check_eq_checkFrom (h : Servable seen) :
    ∃ names, Remembers names (known seen) ∧
      ∀ rest, check (seen ++ rest) = checkFrom seen names rest := by
  induction seen using List.reverseRecOn with
  | nil =>
      refine ⟨SortedMap.empty, ?_, ?_⟩
      · intro front _
        rfl
      · intro rest
        rfl
  | append_singleton seen p ih =>
      obtain ⟨hseen, hmethod, hnew, hpath⟩ := h.of_concat
      obtain ⟨names, hnames, hcheck⟩ := ih hseen
      obtain ⟨names', hnames', hwalk⟩ :=
        exists_checkSegments hnames (List.append_nil (segments p.path)).symm hpath
      refine ⟨names', by simpa [known] using hnames', ?_⟩
      intro rest
      rw [checkSegments] at hwalk
      calc
        check (seen ++ [p] ++ rest) = check (seen ++ p :: rest) := by
          rw [List.append_assoc, List.singleton_append]
        _ = checkFrom seen names (p :: rest) := hcheck (p :: rest)
        _ = checkFrom (seen ++ [p]) names' rest := by
          simp [checkFrom, hmethod, hnew, hwalk]

theorem check_of_servable (h : Servable seen) : check seen = .ok () := by
  obtain ⟨names, -, hcheck⟩ := exists_check_eq_checkFrom h
  simpa [checkFrom] using hcheck []

theorem check_of_refused (h : Servable seen) (hp : Refused seen p e) (after : List Place) :
    check (seen ++ p :: after) = .error e := by
  obtain ⟨names, hnames, hcheck⟩ := exists_check_eq_checkFrom h
  rw [hcheck]
  cases hp with
  | unsupported hmethod => simp [checkFrom, hmethod]
  | duplicate hmethod hmem => simp [checkFrom, hmethod, hmem]
  | misnamed hmethod hnew he =>
      simp [checkFrom, hmethod, hnew, checkSegments_of_misnamed hnames he]

theorem check_eq_ok_iff {places : List Place} : check places = .ok () ↔ Servable places := by
  constructor
  · intro h
    rcases servable_or_refused places with hservable | ⟨before, p, after, e, rfl, hbefore, hp⟩
    · exact hservable
    · cases h.symm.trans (check_of_refused hbefore hp after)
  · exact check_of_servable

theorem check_eq_error_iff {places : List Place} : check places = .error e ↔
    ∃ before p after, places = before ++ p :: after ∧ Servable before ∧ Refused before p e := by
  constructor
  · intro h
    rcases servable_or_refused places with hservable | ⟨before, p, after, e', rfl, hbefore, hp⟩
    · cases h.symm.trans (check_of_servable hservable)
    · obtain rfl := Except.error.inj (h.symm.trans (check_of_refused hbefore hp after))
      exact ⟨before, p, after, rfl, hbefore, hp⟩
  · rintro ⟨before, p, after, rfl, hbefore, hp⟩
    exact check_of_refused hbefore hp after

/-- A table passes the check exactly if it can be served, in whatever order its places
stand. If it does not pass, the error is what is wrong with the first place that is
refused behind the places before it. -/
theorem check_finds_first_refused (places : List Place) :
    (check places = .ok () ↔ Servable places) ∧
    (∀ other, places.Perm other → (check places = .ok () ↔ check other = .ok ())) ∧
    ∀ e, check places = .error e ↔
      ∃ before p after, places = before ++ p :: after ∧ Servable before ∧ Refused before p e := by
  refine ⟨check_eq_ok_iff, ?_, fun e => check_eq_error_iff⟩
  intro other hperm
  rw [check_eq_ok_iff, check_eq_ok_iff]
  constructor
  · intro h
    exact h.perm hperm
  · intro h
    exact h.perm hperm.symm

/-- A user, and the posts of a user whose parameter has another name. -/
def users : List Place :=
  [⟨Method.get, "/users/\x7bid\x7d"⟩, ⟨Method.post, "/users/\x7bname\x7d/posts"⟩]

theorem users_conflict :
    (∃ before p after, users = before ++ p :: after ∧ Servable before ∧
      Refused before p (.conflictingParamName "/users/\x7bname\x7d/posts" "name"
        "/users/\x7bid\x7d" "id")) ∧
      ¬ Servable users ∧ check users.reverse ≠ .ok () ∧ Servable (users.take 1) := by
  have hcheck : check users = .error (.conflictingParamName "/users/\x7bname\x7d/posts" "name"
      "/users/\x7bid\x7d" "id") := by decide
  have hrejected : check users ≠ .ok () := by
    rw [hcheck]
    exact nofun
  obtain ⟨hservable, hperm, herror⟩ := check_finds_first_refused users
  refine ⟨(herror _).mp hcheck, ?_, ?_, ?_⟩
  · intro h
    exact hrejected (hservable.mpr h)
  · intro h
    exact hrejected ((hperm users.reverse (List.reverse_perm users).symm).mpr h)
  · exact (check_finds_first_refused (users.take 1)).1.mp (by decide)

end Places

end Table

end RouteTree
