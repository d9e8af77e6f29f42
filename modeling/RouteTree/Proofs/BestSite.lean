import Mathlib.Data.List.Induction
import Mathlib.Data.List.Pairwise
import RouteTree.Router.Basic

/-!
# The best site for a path

Of two patterns that take one path, one goes before the other unless they collide. Sites
that do not collide are therefore totally ordered as far as they take one path, and the
walk over the sites of a router ends at the one that goes before all others, in whatever
order they stand.
-/

namespace RouteTree

namespace Piece

/-- A character goes before a parameter, and a parameter before what takes all the
rest. -/
def rank : Piece → Nat
  | .char _ => 0
  | .param _ => 1
  | .rest _ => 2

end Piece

namespace Pattern

variable {p q r : Pattern}

theorem goesBefore_cons_iff {x y : Piece} {ps qs : Pattern} :
    goesBefore (x :: ps) (y :: qs) = true ↔
      x.rank < y.rank ∨ x.rank = y.rank ∧ x.rank ≠ 2 ∧ ps.goesBefore qs = true := by
  cases x <;> cases y <;> simp [goesBefore, Piece.rank]

theorem goesBefore_nil_iff {x : Piece} {ps : Pattern} :
    goesBefore (x :: ps) [] = true ↔ x.rank = 0 := by
  cases x <;> simp [goesBefore, Piece.rank]

theorem goesBefore_asymm (h : p.goesBefore q = true) : q.goesBefore p = false := by
  induction p generalizing q with
  | nil => cases h
  | cons x ps ih =>
      cases q with
      | nil => rfl
      | cons y qs =>
          rw [goesBefore_cons_iff] at h
          rw [Bool.eq_false_iff, ne_eq, goesBefore_cons_iff]
          rintro (hlt | ⟨heq, -, hback⟩)
          · omega
          · rcases h with hlt | ⟨-, -, hrest⟩
            · omega
            · cases (ih hrest).symm.trans hback

theorem goesBefore_trans (hpq : p.goesBefore q = true) (hqr : q.goesBefore r = true) :
    p.goesBefore r = true := by
  induction p generalizing q r with
  | nil => cases hpq
  | cons x ps ih =>
      cases q with
      | nil => cases hqr
      | cons y qs =>
          rw [goesBefore_cons_iff] at hpq
          cases r with
          | nil =>
              rw [goesBefore_nil_iff] at hqr ⊢
              omega
          | cons z rs =>
              rw [goesBefore_cons_iff] at hqr ⊢
              rcases hpq with hlt | ⟨heq, hkind, hrest⟩
              · exact Or.inl (by omega)
              · rcases hqr with hlt' | ⟨heq', -, hrest'⟩
                · exact Or.inl (by omega)
                · exact Or.inr ⟨heq.trans heq', hkind, ih hrest hrest'⟩

theorem collides_self (p : Pattern) : p.collides p = true := by
  induction p with
  | nil => rfl
  | cons x ps ih => cases x <;> simp [collides, ih]

section Taking

variable {path : List Char} {found other : List (String × String)}

theorem captures?_char_eq_some_iff {c : Char} {ps : Pattern} :
    captures? (.char c :: ps) path = some found ↔
      ∃ behind, path = c :: behind ∧ ps.captures? behind = some found := by
  cases path with
  | nil => simp [captures?]
  | cons d path =>
      rw [captures?]
      split
      · next hcd => simp [hcd]
      · next hcd => simp [Ne.symm hcd]

theorem captures?_param_eq_some_iff {name : String} {ps : Pattern} :
    captures? (.param name :: ps) path = some found ↔
      path ≠ [] ∧ ∃ behind, ps.captures? (path.dropWhile (· ≠ '/')) = some behind ∧
        found = (name, String.ofList (path.takeWhile (· ≠ '/'))) :: behind := by
  cases path with
  | nil => simp [captures?]
  | cons d path =>
      rw [captures?, Option.map_eq_some_iff]
      simp only [ne_eq, reduceCtorEq, not_false_eq_true, true_and, eq_comm]

/-- Patterns that take one path are told apart where they first differ, unless they
collide. -/
theorem goesBefore_or_collides (hp : p.captures? path = some found)
    (hq : q.captures? path = some other) :
    p.goesBefore q = true ∨ q.goesBefore p = true ∨ p.collides q = true := by
  induction p generalizing q path found other with
  | nil =>
      cases path with
      | nil =>
          cases q with
          | nil => exact Or.inr (Or.inr rfl)
          | cons y qs => cases hq
      | cons d path => cases hp
  | cons x ps ih =>
      cases q with
      | nil =>
          cases path with
          | nil => cases hp
          | cons d path => cases hq
      | cons y qs =>
          cases x with
          | char c =>
              cases y with
              | char d =>
                  obtain ⟨behind, rfl, hps⟩ := captures?_char_eq_some_iff.mp hp
                  obtain ⟨behind', heq, hqs⟩ := captures?_char_eq_some_iff.mp hq
                  obtain ⟨rfl, rfl⟩ := List.cons.inj heq
                  simpa [goesBefore, collides] using ih hps hqs
              | param name | rest name => exact Or.inl rfl
          | param name =>
              cases y with
              | char d => exact Or.inr (Or.inl rfl)
              | param name' =>
                  obtain ⟨-, behind, hps, -⟩ := captures?_param_eq_some_iff.mp hp
                  obtain ⟨-, behind', hqs, -⟩ := captures?_param_eq_some_iff.mp hq
                  exact ih hps hqs
              | rest name' => exact Or.inl rfl
          | rest name =>
              cases y with
              | char d => exact Or.inr (Or.inl rfl)
              | param name' | rest name' => exact Or.inr (Or.inr rfl)

end Taking

end Pattern

section Sites

variable {α : Type} {sites : List (Site α)} {path : List Char}

/-- Sites whose patterns do not collide. -/
def Apart (sites : List (Site α)) : Prop :=
  sites.Pairwise fun s t => s.pattern.collides t.pattern = false

/-- Among sites that do not collide each pattern has one site. -/
theorem Apart.eq_of_pattern_eq (h : Apart sites) {s t : Site α} (hs : s ∈ sites) (ht : t ∈ sites)
    (heq : s.pattern = t.pattern) : s = t := by
  by_contra hne
  have : Std.Symm fun s t : Site α => s.pattern.collides t.pattern = false := by
    constructor
    intro s t hst
    rwa [Pattern.collides_comm]
  have hcollides := List.Pairwise.forall h hs ht hne
  rw [heq, Pattern.collides_self] at hcollides
  cases hcollides

/-- A site takes a path and goes before all others that take it. -/
structure Best (sites : List (Site α)) (path : List Char) (s : Site α)
    (captured : List (String × String)) : Prop where
  mem : s ∈ sites
  takes : s.pattern.captures? path = some captured
  first : ∀ t ∈ sites, (t.pattern.captures? path).isSome = true →
    t = s ∨ s.pattern.goesBefore t.pattern = true

theorem Best.unique {s t : Site α} {captured captured' : List (String × String)}
    (h : Best sites path s captured) (h' : Best sites path t captured') :
    s = t ∧ captured = captured' := by
  have hst : s = t := by
    rcases h.first t h'.mem (by simp [h'.takes]) with heq | hbefore
    · exact heq.symm
    · rcases h'.first s h.mem (by simp [h.takes]) with heq | hbefore'
      · exact heq
      · cases (Pattern.goesBefore_asymm hbefore).symm.trans hbefore'
  subst hst
  exact ⟨rfl, Option.some.inj (h.takes.symm.trans h'.takes)⟩

/-- One more site is the best if it takes the path and goes before the one that was the
best. -/
theorem Best.concat {s t : Site α} {captured : List (String × String)}
    (h : Best sites path s captured) (hapart : s.pattern.collides t.pattern = false) :
    ∃ u captured', Router.prefer path (some (s, captured)) t = some (u, captured') ∧
      Best (sites ++ [t]) path u captured' := by
  have hcases {u : Site α} (hu : u ∈ sites ++ [t]) : u ∈ sites ∨ u = t := by simpa using hu
  unfold Router.prefer
  cases ht : t.pattern.captures? path with
  | none =>
      refine ⟨s, captured, rfl, List.mem_append_left _ h.mem, h.takes, ?_⟩
      intro u hu htakes
      rcases hcases hu with hold | rfl
      · exact h.first u hold htakes
      · simp [ht] at htakes
  | some other =>
      cases hbefore : t.pattern.goesBefore s.pattern with
      | true =>
          refine ⟨t, other, by simp [hbefore], by simp, ht, ?_⟩
          intro u hu htakes
          rcases hcases hu with hold | rfl
          · rcases h.first u hold htakes with rfl | hrest
            · exact Or.inr hbefore
            · exact Or.inr (Pattern.goesBefore_trans hbefore hrest)
          · exact Or.inl rfl
      | false =>
          refine ⟨s, captured, by simp [hbefore], List.mem_append_left _ h.mem, h.takes, ?_⟩
          intro u hu htakes
          rcases hcases hu with hold | rfl
          · exact h.first u hold htakes
          · rcases Pattern.goesBefore_or_collides h.takes ht with hst | hts | hcollides
            · exact Or.inr hst
            · cases hbefore.symm.trans hts
            · cases hapart.symm.trans hcollides

/-- The walk over sites that do not collide finds the best one, if any takes the
path. -/
theorem foldl_prefer_cases (h : Apart sites) :
    (sites.foldl (Router.prefer path) none = none ∧
        ∀ s ∈ sites, s.pattern.captures? path = none) ∨
      ∃ s captured, sites.foldl (Router.prefer path) none = some (s, captured) ∧
        Best sites path s captured := by
  induction sites using List.reverseRecOn with
  | nil => exact Or.inl ⟨rfl, by simp⟩
  | append_singleton sites t ih =>
      obtain ⟨hsites, -, hnew⟩ := List.pairwise_append.mp h
      rw [List.foldl_append, List.foldl_cons, List.foldl_nil]
      rcases ih hsites with ⟨hnone, htakes⟩ | ⟨s, captured, hsome, hbest⟩
      · rw [hnone]
        unfold Router.prefer
        cases ht : t.pattern.captures? path with
        | none =>
            refine Or.inl ⟨rfl, List.forall_mem_append.mpr ⟨htakes, ?_⟩⟩
            exact List.forall_mem_singleton.mpr ht
        | some other =>
            refine Or.inr ⟨t, other, rfl, by simp, ht, ?_⟩
            intro u hu hu'
            rcases List.mem_append.mp hu with hold | hlast
            · simp [htakes u hold] at hu'
            · exact Or.inl (List.mem_singleton.mp hlast)
      · rw [hsome]
        exact Or.inr (hbest.concat (hnew s hbest.mem t (List.mem_singleton_self t)))

end Sites

namespace Router

variable {α : Type} {r : Router α} {path : String}

theorem site?_eq_some_iff (h : Apart r.sites) {s : Site α} {captured : List (String × String)} :
    r.site? path = some (s, captured) ↔ Best r.sites path.toList s captured := by
  have hcases : (r.sites.foldl (prefer path.toList) none = none ∧
      ∀ t ∈ r.sites, t.pattern.captures? path.toList = none) ∨
      ∃ t found, r.sites.foldl (prefer path.toList) none = some (t, found) ∧
        Best r.sites path.toList t found := foldl_prefer_cases h
  unfold site?
  rcases hcases with ⟨hnone, htakes⟩ | ⟨t, found, hsome, hbest⟩
  · rw [hnone]
    refine ⟨nofun, ?_⟩
    intro hbest
    cases (htakes s hbest.mem).symm.trans hbest.takes
  · rw [hsome]
    constructor
    · intro heq
      obtain ⟨rfl, rfl⟩ := Prod.mk.inj (Option.some.inj heq)
      exact hbest
    · intro hbest'
      obtain ⟨rfl, rfl⟩ := hbest.unique hbest'
      rfl

end Router

end RouteTree
