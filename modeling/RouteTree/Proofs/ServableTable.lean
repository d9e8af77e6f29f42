import Mathlib.Data.List.Forall2
import Mathlib.Data.List.Induction
import RouteTree.Proofs.PathText
import RouteTree.Table

/-!
# Tables that can be served

Whether a table can be served is a condition on its places two by two, so their order
does not matter. The check walks the places in order and keeps the name that it met
first for each shape of a path up to a parameter. A shape stands for exactly those
segments that differ in the names of parameters alone, so the walk ends at the first
place that breaks the condition by itself or together with the places before it.
-/

namespace RouteTree

namespace Table

/-- Segments are alike if they are the same, or are parameters of whatever names. -/
def Alike (s t : String) : Prop :=
  s = t ∨ ((parameterName? s).isSome = true ∧ (parameterName? t).isSome = true)

/-- A path has a parameter of a name behind as many segments as `front` has, alike one
by one. -/
def NamesBehind (front : List String) (path name : String) : Prop :=
  ∃ before s behind, segments path = before ++ s :: behind ∧ List.Forall₂ Alike front before ∧
    parameterName? s = some name

/-- A table that can be served: its methods can be routed, no method and path occur
twice, no segment is a parameter without a name, and behind segments that are alike all
parameters have one name. -/
structure Servable (places : List Place) : Prop where
  routable : ∀ p ∈ places, p.method.isRoutable = true
  distinct : places.Nodup
  named : ∀ p ∈ places, anyParameter ∉ segments p.path
  agreeing : ∀ p ∈ places, ∀ q ∈ places, ∀ front s behind name other,
    segments p.path = front ++ s :: behind → parameterName? s = some name →
    NamesBehind front q.path other → other = name

/-- Every parameter among the segments has a name, and no other name than the places
before have behind segments that are alike. -/
def Undisputed (before : List Place) (segs : List String) : Prop :=
  ∀ front s behind name, segs = front ++ s :: behind → parameterName? s = some name →
    name ≠ "" ∧ ∀ q ∈ before, ∀ other, NamesBehind front q.path other → other = name

/-- What is wrong with the first parameter of a path that is not undisputed: it has no
name, or another name than the first of the places before that have a parameter behind
segments that are alike. -/
inductive Misnamed (before : List Place) (path : String) : ConfigurationError → Prop
  | nameless {front behind : List String}
      (hsegments : segments path = front ++ anyParameter :: behind)
      (hfront : Undisputed before front) : Misnamed before path (.emptyParamName path)
  | renamed {front behind : List String} {s name other : String} {earlier later : List Place}
      {q : Place} (hsegments : segments path = front ++ s :: behind)
      (hfront : Undisputed before front) (hs : parameterName? s = some name) (hname : name ≠ "")
      (hbefore : before = earlier ++ q :: later)
      (hearlier : ∀ p ∈ earlier, ∀ other, ¬ NamesBehind front p.path other)
      (hq : NamesBehind front q.path other) (hother : other ≠ name) :
      Misnamed before path (.conflictingParamName path name q.path other)

/-- What is wrong with a place behind others, in the order in which it is looked for. -/
inductive Refused (before : List Place) (p : Place) : ConfigurationError → Prop
  | unsupported (hmethod : p.method.isRoutable = false) :
      Refused before p (.unsupportedMethod p.method p.path)
  | duplicate (hmethod : p.method.isRoutable = true) (hmem : p ∈ before) :
      Refused before p (.duplicateRoute p.method p.path)
  | misnamed {e : ConfigurationError} (hmethod : p.method.isRoutable = true) (hnew : p ∉ before)
      (he : Misnamed before p.path e) : Refused before p e

section Segments

theorem parameterName?_eq_some_iff {s name : String} :
    parameterName? s = some name ↔ s.toList = '\x7b' :: (name.toList ++ ['\x7d']) := by
  unfold parameterName?
  constructor
  · intro h
    split at h
    · next rest hs =>
      split at h
      · next hlast =>
        obtain rfl := Option.some.inj h
        have hne : rest ≠ [] := by
          rintro rfl
          cases hlast
        have hend : rest.getLast hne = '\x7d' := by
          simpa [List.getLast?_eq_some_getLast hne] using hlast
        rw [hs, String.toList_ofList, ← hend, List.dropLast_append_getLast]
      · cases h
    · cases h
  · intro h
    simp [h]

@[simp]
theorem parameterName?_anyParameter : parameterName? anyParameter = some "" := rfl

theorem eq_anyParameter_of_parameterName? {s : String} (h : parameterName? s = some "") :
    s = anyParameter := by
  rw [parameterName?_eq_some_iff] at h
  exact String.toList_inj.mp h

/-- A segment in a shape, where a parameter stands without its name. -/
def erased (s : String) : String := if (parameterName? s).isSome then anyParameter else s

theorem erased_of_none {s : String} (h : parameterName? s = none) : erased s = s := by
  simp [erased, h]

theorem erased_of_some {s name : String} (h : parameterName? s = some name) :
    erased s = anyParameter := by
  simp [erased, h]

/-- No literal segment is mistaken for a parameter without its name. -/
theorem erased_eq_erased_iff {s t : String} : erased s = erased t ↔ Alike s t := by
  unfold Alike
  cases hs : parameterName? s with
  | none =>
      cases ht : parameterName? t with
      | none => simp [erased_of_none hs, erased_of_none ht]
      | some name =>
          have hne : s ≠ anyParameter := by
            rintro rfl
            cases hs
          have hst : s ≠ t := by
            rintro rfl
            cases hs.symm.trans ht
          simp [erased_of_none hs, erased_of_some ht, hne, hst]
  | some name =>
      cases ht : parameterName? t with
      | none =>
          have hne : anyParameter ≠ t := by
            rintro rfl
            cases ht
          have hst : s ≠ t := by
            rintro rfl
            cases hs.symm.trans ht
          simp [erased_of_some hs, erased_of_none ht, hne, hst]
      | some other => simp [erased_of_some hs, erased_of_some ht]

theorem forall₂_alike_iff {front before : List String} :
    List.Forall₂ Alike front before ↔ front.map erased = before.map erased := by
  rw [← List.forall₂_eq_eq_eq, List.forall₂_map_left_iff, List.forall₂_map_right_iff]
  simp only [erased_eq_erased_iff]

theorem slash_notMem_erased {s : String} (h : '/' ∉ s.toList) : '/' ∉ (erased s).toList := by
  unfold erased
  split
  · decide
  · exact h

/-- The shape of segments: a slash before each, and parameters without their names. -/
def shape (front : List String) : String := String.join ((front.map erased).map ("/" ++ ·))

@[simp]
theorem shape_concat (front : List String) (s : String) :
    shape (front ++ [s]) = shape front ++ "/" ++ erased s := by
  simp [shape, String.append_assoc]

/-- Shapes stand for segments up to the names of parameters. -/
theorem shape_eq_shape_iff {front before : List String} (hfront : ∀ s ∈ front, '/' ∉ s.toList)
    (hbefore : ∀ s ∈ before, '/' ∉ s.toList) :
    shape front = shape before ↔ front.map erased = before.map erased := by
  have hsplit (l : List String) (hl : ∀ s ∈ l, '/' ∉ s.toList) :
      (shape l).toList.splitOn '/' = [] :: (l.map erased).map String.toList := by
    have htext : (shape l).toList = ((l.map erased).map String.toList).flatMap ('/' :: ·) := by
      simp [shape, String.toList_join, List.flatMap_map]
    rw [htext]
    apply splitOn_flatMap_slash
    intro part hpart
    simp only [List.map_map, List.mem_map] at hpart
    obtain ⟨s, hs, rfl⟩ := hpart
    exact slash_notMem_erased (hl s hs)
  constructor
  · intro h
    have hparts := calc
      [] :: (front.map erased).map String.toList = (shape front).toList.splitOn '/' :=
        (hsplit front hfront).symm
      _ = (shape before).toList.splitOn '/' := by rw [h]
      _ = [] :: (before.map erased).map String.toList := hsplit before hbefore
    have htexts : Function.Injective (List.map String.toList) := by
      apply List.map_injective_iff.mpr
      intro a b hab
      exact String.toList_inj.mp hab
    exact htexts (List.cons.inj hparts).2
  · intro h
    rw [shape, shape, h]

end Segments

section Names

/-- The name of the parameter that stands behind segments alike to `front`, if there is
one. -/
def nameBehind? : List String → List String → Option String
  | _, [] => none
  | [], s :: _ => parameterName? s
  | f :: front, s :: rest => if erased f = erased s then nameBehind? front rest else none

theorem nameBehind?_eq_some_iff {front segs : List String} {name : String} :
    nameBehind? front segs = some name ↔
      ∃ before s behind, segs = before ++ s :: behind ∧ List.Forall₂ Alike front before ∧
        parameterName? s = some name := by
  simp only [forall₂_alike_iff]
  induction front generalizing segs with
  | nil =>
      cases segs with
      | nil => simp [nameBehind?]
      | cons s rest =>
          constructor
          · intro h
            exact ⟨[], s, rest, rfl, rfl, h⟩
          · rintro ⟨before, t, behind, hsplit, hbefore, ht⟩
            obtain rfl : before = [] := List.map_eq_nil_iff.mp hbefore.symm
            obtain ⟨rfl, -⟩ := List.cons.inj hsplit
            exact ht
  | cons f front ih =>
      cases segs with
      | nil => simp [nameBehind?]
      | cons s rest =>
          rw [nameBehind?]
          constructor
          · intro h
            split at h
            · next heq =>
              obtain ⟨before, t, behind, rfl, hbefore, ht⟩ := ih.mp h
              exact ⟨s :: before, t, behind, rfl, by simp [heq, hbefore], ht⟩
            · cases h
          · rintro ⟨before, t, behind, hsplit, hbefore, ht⟩
            cases before with
            | nil => cases hbefore
            | cons b before =>
                obtain ⟨rfl, rfl⟩ := List.cons.inj hsplit
                obtain ⟨heq, hrest⟩ := List.cons.inj hbefore
                rw [if_pos heq]
                exact ih.mpr ⟨before, t, behind, rfl, hrest, ht⟩

theorem namesBehind_iff {front : List String} {path name : String} :
    NamesBehind front path name ↔ nameBehind? front (segments path) = some name :=
  nameBehind?_eq_some_iff.symm

theorem nameBehind?_eq_none_iff {front : List String} {path : String} :
    nameBehind? front (segments path) = none ↔ ∀ name, ¬ NamesBehind front path name := by
  simp only [namesBehind_iff, Option.eq_none_iff_forall_ne_some, ne_eq]

theorem nameBehind?_concat (front done : List String) (s : String) :
    nameBehind? front (done ++ [s]) = (nameBehind? front done).or
      (if front.map erased = done.map erased then parameterName? s else none) := by
  induction done generalizing front with
  | nil => cases front <;> simp [nameBehind?]
  | cons d done ih =>
      cases front with
      | nil => simp [nameBehind?]
      | cons f front =>
          rw [List.cons_append, nameBehind?, nameBehind?, ih]
          by_cases heq : erased f = erased d <;> simp [heq]

theorem nameBehind?_append (front segs : List String) :
    nameBehind? front (front ++ segs) = nameBehind? [] segs := by
  induction front with
  | nil => rfl
  | cons f front ih => rw [List.cons_append, nameBehind?, if_pos rfl, ih]

/-- The parameter of the first path that has one behind segments alike to `front`: its
name and the path. Each path is given with those of its segments that count. -/
def firstNamed? (paths : List (List String × String)) (front : List String) :
    Option (String × String) :=
  paths.findSome? fun p => (nameBehind? front p.1).map fun name => (name, p.2)

/-- Places as paths all of whose segments count. -/
def known (places : List Place) : List (List String × String) :=
  places.map fun p => (segments p.path, p.path)

theorem firstNamed?_known_eq_none_iff {places : List Place} {front : List String} :
    firstNamed? (known places) front = none ↔
      ∀ q ∈ places, ∀ other, ¬ NamesBehind front q.path other := by
  simp only [firstNamed?, known, List.findSome?_eq_none_iff, List.forall_mem_map,
    Option.map_eq_none_iff, nameBehind?_eq_none_iff]

theorem firstNamed?_known_eq_some_iff {places : List Place} {front : List String}
    {found : String × String} :
    firstNamed? (known places) front = some found ↔
      ∃ earlier q later other, places = earlier ++ q :: later ∧
        (∀ p ∈ earlier, ∀ other, ¬ NamesBehind front p.path other) ∧
        NamesBehind front q.path other ∧ found = (other, q.path) := by
  rw [firstNamed?, known, List.findSome?_map, List.findSome?_eq_some_iff]
  simp only [Function.comp_apply, Option.map_eq_some_iff, Option.map_eq_none_iff,
    nameBehind?_eq_none_iff, ← namesBehind_iff]
  constructor
  · rintro ⟨earlier, q, later, hsplit, ⟨other, hq, rfl⟩, hearlier⟩
    exact ⟨earlier, q, later, other, hsplit, hearlier, hq, rfl⟩
  · rintro ⟨earlier, q, later, other, hsplit, hearlier, hq, rfl⟩
    exact ⟨earlier, q, later, hsplit, ⟨other, hq, rfl⟩, hearlier⟩

theorem firstNamed?_concat (before : List (List String × String)) (front done : List String)
    (s path : String) :
    firstNamed? (before ++ [(done ++ [s], path)]) front =
      (firstNamed? (before ++ [(done, path)]) front).or
        (if front.map erased = done.map erased then
          (parameterName? s).map fun name => (name, path)
        else none) := by
  simp only [firstNamed?, List.findSome?_append, List.findSome?_singleton, nameBehind?_concat,
    Option.or_assoc]
  congr 1
  cases nameBehind? front done with
  | some name => rfl
  | none =>
      by_cases hfront : front.map erased = done.map erased
      · simp [hfront]
      · simp [hfront]

/-- The names that are known by shape are those of the first paths with a parameter
there. -/
def Remembers (names : Named) (before : List (List String × String)) : Prop :=
  ∀ front, (∀ s ∈ front, '/' ∉ s.toList) →
    names.get? (shape front ++ "/" ++ anyParameter) = firstNamed? before front

end Names

end Table

end RouteTree
