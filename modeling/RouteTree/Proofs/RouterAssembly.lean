import RouteTree.Proofs.AcceptedTable
import RouteTree.Proofs.PathCollision

/-!
# The router of an accepted table

A router takes a path if it writes a pattern that collides with none of those of other
paths. The check of a table knows parameters only as whole segments, so it accepts paths
that a router refuses. An accepted table becomes a router that holds its entries and
nothing else exactly if its paths can be told apart; otherwise it stops at a path that
cannot be told from another. Plain paths of an accepted table can always be told apart.
-/

namespace RouteTree

/-- Paths that a router can tell apart: each writes a pattern, and no two of them
patterns that collide. -/
structure Distinguishable (paths : List String) : Prop where
  written : ∀ path ∈ paths, ∃ p, Pattern.parse? path = some p
  apart : ∀ path ∈ paths, ∀ other ∈ paths, path ≠ other → ∀ p q,
    Pattern.parse? path = some p → Pattern.parse? other = some q → p.collides q = false

/-- Why paths cannot be told apart. -/
inductive Undistinguishable (paths : List String) : Refusal → Prop
  | malformed {path : String} (hpath : path ∈ paths) (hp : Pattern.parse? path = none) :
      Undistinguishable paths (.malformed path)
  | colliding {path other : String} {p q : Pattern} (hpath : path ∈ paths) (hother : other ∈ paths)
      (hne : other ≠ path) (hp : Pattern.parse? path = some p)
      (hq : Pattern.parse? other = some q) (hcollides : q.collides p = true) :
      Undistinguishable paths (.colliding path)

section Paths

variable {paths more : List String} {path : String} {refusal : Refusal}

theorem distinguishable_nil : Distinguishable [] := ⟨by simp, by simp⟩

theorem Distinguishable.of_subset (h : Distinguishable paths) (hsubset : more ⊆ paths) :
    Distinguishable more := by
  constructor
  · intro path hpath
    exact h.written path (hsubset hpath)
  · intro path hpath other hother
    exact h.apart path (hsubset hpath) other (hsubset hother)

theorem Undistinguishable.of_subset (h : Undistinguishable more refusal) (hsubset : more ⊆ paths) :
    Undistinguishable paths refusal := by
  cases h with
  | malformed hpath hp => exact .malformed (hsubset hpath) hp
  | colliding hpath hother hne hp hq hcollides =>
      exact .colliding (hsubset hpath) (hsubset hother) hne hp hq hcollides

theorem Undistinguishable.not_distinguishable (h : Undistinguishable paths refusal) :
    ¬ Distinguishable paths := by
  rintro ⟨hwritten, hapart⟩
  cases h with
  | malformed hpath hp =>
      obtain ⟨p, hsome⟩ := hwritten _ hpath
      cases hp.symm.trans hsome
  | colliding hpath hother hne hp hq hcollides =>
      exact absurd hcollides (by simp [hapart _ hother _ hpath hne _ _ hq hp])

/-- A path can be told from others with whose patterns its own does not collide. -/
theorem Distinguishable.concat (h : Distinguishable paths) {p : Pattern}
    (hp : Pattern.parse? path = some p)
    (hapart : ∀ other ∈ paths, ∀ q, Pattern.parse? other = some q → q.collides p = false) :
    Distinguishable (paths ++ [path]) := by
  have hcases {other : String} (hother : other ∈ paths ++ [path]) :
      other ∈ paths ∨ other = path := by simpa using hother
  constructor
  · intro other hother
    rcases hcases hother with hold | rfl
    · exact h.written other hold
    · exact ⟨p, hp⟩
  · intro first hfirst second hsecond hne q r hq hr
    rcases hcases hfirst with hold | rfl
    · rcases hcases hsecond with hold' | rfl
      · exact h.apart first hold second hold' hne q r hq hr
      · obtain rfl := Option.some.inj (hp.symm.trans hr)
        exact hapart first hold q hq
    · rcases hcases hsecond with hold' | rfl
      · obtain rfl := Option.some.inj (hp.symm.trans hq)
        rw [Pattern.collides_comm]
        exact hapart second hold' r hr
      · exact absurd rfl hne

end Paths

section Adding

variable {α : Type}

namespace Site

/-- The targets of a site with their places. -/
def held (s : Site α) : List (Place × α) := s.targets.map fun t => (⟨t.1, s.path⟩, t.2)

/-- A site with one target more. -/
def grown (s : Site α) (method : Method) (target : α) : Site α :=
  { s with targets := s.targets ++ [(method, target)] }

/-- A site that serves something, with the pattern that its path writes. -/
structure Sound (s : Site α) : Prop where
  served : s.targets ≠ []
  written : Pattern.parse? s.path = some s.pattern

@[simp]
theorem held_grown (s : Site α) (method : Method) (target : α) :
    (s.grown method target).held = s.held ++ [(⟨method, s.path⟩, target)] := by
  simp [held, grown]

theorem Sound.grown {s : Site α} (h : s.Sound) (method : Method) (target : α) :
    (s.grown method target).Sound := ⟨by simp [Site.grown], h.written⟩

/-- A target is added if the site has none at its place. -/
theorem add_of_notMem {s : Site α} {method : Method}
    (h : (⟨method, s.path⟩ : Place) ∉ s.held.map Prod.fst) (target : α) :
    s.add method target = .ok (s.grown method target) := by
  have hnone : s.own? method = none := by
    unfold own?
    rw [Option.map_eq_none_iff, List.find?_eq_none]
    rintro t ht heq
    obtain rfl := eq_of_beq heq
    apply h
    exact List.mem_map.mpr ⟨_, List.mem_map_of_mem ht, rfl⟩
  unfold add
  rw [hnone]
  rfl

end Site

namespace Router

/-- The targets of a router with their places. -/
def held (r : Router α) : List (Place × α) := r.sites.flatMap Site.held

/-- The paths of targets. -/
def paths (targets : List (Place × α)) : List String := targets.map fun t => t.1.path

/-- A router holds exactly some targets at their places. -/
structure Holds (r : Router α) (targets : List (Place × α)) : Prop where
  perm : r.held.Perm targets
  sound : ∀ s ∈ r.sites, s.Sound

variable {r : Router α} {done : List (Place × α)} {p : Place}

theorem holds_empty : (empty : Router α).Holds [] := ⟨.refl [], by simp [empty]⟩

/-- A path is among the sites, and its target is added there, or it is not. -/
theorem addAt_cases (path : String) (method : Method) (target : α) (sites : List (Site α)) :
    ((∀ s ∈ sites, s.path ≠ path) ∧ addAt path method target sites = none) ∨
      ∃ before s after, sites = before ++ s :: after ∧ s.path = path ∧
        addAt path method target sites =
          some ((s.add method target).map fun s => before ++ s :: after) := by
  induction sites with
  | nil => exact Or.inl ⟨by simp, rfl⟩
  | cons s rest ih =>
      unfold addAt
      by_cases hpath : s.path = path
      · rw [if_pos hpath]
        exact Or.inr ⟨[], s, rest, rfl, hpath, rfl⟩
      · rw [if_neg hpath]
        rcases ih with ⟨hrest, hnone⟩ | ⟨before, t, after, rfl, ht, hsome⟩
        · rw [hnone]
          exact Or.inl ⟨List.forall_mem_cons.mpr ⟨hpath, hrest⟩, rfl⟩
        · rw [hsome]
          refine Or.inr ⟨s :: before, t, after, rfl, ht, ?_⟩
          cases t.add method target <;> rfl

/-- The paths of the sites are those of the targets that are held. -/
theorem Holds.mem_paths_iff (h : r.Holds done) (path : String) :
    path ∈ paths done ↔ ∃ s ∈ r.sites, s.path = path := by
  constructor
  · intro hpath
    obtain ⟨d, hd, rfl⟩ := List.mem_map.mp hpath
    obtain ⟨s, hs, hds⟩ := List.mem_flatMap.mp (h.perm.mem_iff.mpr hd)
    obtain ⟨t, -, rfl⟩ := List.mem_map.mp hds
    exact ⟨s, hs, rfl⟩
  · rintro ⟨s, hs, rfl⟩
    obtain ⟨t, ht⟩ := List.exists_mem_of_ne_nil s.targets (h.sound s hs).served
    have hd : (⟨t.1, s.path⟩, t.2) ∈ r.held :=
      List.mem_flatMap.mpr ⟨s, hs, List.mem_map_of_mem ht⟩
    exact List.mem_map.mpr ⟨_, h.perm.mem_iff.mp hd, rfl⟩

/-- A target goes to the site of its path if there is one. -/
theorem Holds.add_known (h : r.Holds done) (hnew : p ∉ done.map Prod.fst)
    (hpath : p.path ∈ paths done) (target : α) :
    ∃ r', r.add p.path p.method target = .ok r' ∧ r'.Holds (done ++ [(p, target)]) := by
  obtain ⟨method, path⟩ := p
  obtain ⟨t, ht, htp⟩ := (h.mem_paths_iff path).mp hpath
  rcases addAt_cases path method target r.sites with
    ⟨hnone, -⟩ | ⟨before, s, after, hsites, rfl, hsome⟩
  · exact absurd htp (hnone t ht)
  have hheld : r.held = before.flatMap Site.held ++ s.held ++ after.flatMap Site.held := by
    simp [Router.held, hsites]
  have hfree : (⟨method, s.path⟩ : Place) ∉ s.held.map Prod.fst := by
    intro hmem
    obtain ⟨d, hd, hplace⟩ := List.mem_map.mp hmem
    apply hnew
    rw [← hplace]
    exact List.mem_map_of_mem (h.perm.mem_iff.mp (by simp [hheld, hd]))
  refine ⟨⟨before ++ s.grown method target :: after⟩, ?_, ?_, ?_⟩
  · unfold add
    rw [hsome, Site.add_of_notMem hfree]
    rfl
  · have hmiddle : (before.flatMap Site.held ++ s.held ++
        (⟨method, s.path⟩, target) :: after.flatMap Site.held).Perm
          (r.held ++ [(⟨method, s.path⟩, target)]) := by
      rw [hheld]
      exact List.perm_middle.trans (List.perm_append_singleton _ _).symm
    have hgrown := hmiddle.trans (h.perm.append_right _)
    simpa [Router.held] using hgrown
  · have hsound := h.sound
    rw [hsites, List.forall_mem_append, List.forall_mem_cons] at hsound
    obtain ⟨hbefore, hs, hafter⟩ := hsound
    exact List.forall_mem_append.mpr
      ⟨hbefore, List.forall_mem_cons.mpr ⟨hs.grown method target, hafter⟩⟩

theorem Holds.concat (h : r.Holds done) {s : Site α} (hs : s.Sound) :
    Holds ⟨r.sites ++ [s]⟩ (done ++ s.held) := by
  constructor
  · simpa [Router.held] using h.perm.append_right s.held
  · exact List.forall_mem_append.mpr ⟨h.sound, List.forall_mem_singleton.mpr hs⟩

/-- A target on a new path gets a site of its own, unless the path writes no pattern or
its pattern collides with that of another path. -/
theorem Holds.add_new (h : r.Holds done) (hpaths : Distinguishable (paths done))
    (hpath : p.path ∉ paths done) (target : α) :
    (∃ r', r.add p.path p.method target = .ok r' ∧ r'.Holds (done ++ [(p, target)]) ∧
        Distinguishable (paths done ++ [p.path])) ∨
      ∃ refusal, r.add p.path p.method target = .error refusal ∧
        Undistinguishable (paths done ++ [p.path]) refusal := by
  have hsites : ∀ s ∈ r.sites, s.path ≠ p.path := by
    intro s hs heq
    exact hpath ((h.mem_paths_iff p.path).mpr ⟨s, hs, heq⟩)
  have hnone : addAt p.path p.method target r.sites = none := by
    rcases addAt_cases p.path p.method target r.sites with
      ⟨-, hnone⟩ | ⟨before, s, after, hsplit, hs, -⟩
    · exact hnone
    · exact absurd hs (hsites s (by simp [hsplit]))
  have hself : p.path ∈ paths done ++ [p.path] := by simp
  unfold add
  rw [hnone]
  cases hp : Pattern.parse? p.path with
  | none => exact Or.inr ⟨_, rfl, .malformed hself hp⟩
  | some pattern =>
      simp only
      cases hany : r.sites.any fun s => s.pattern.collides pattern with
      | true =>
          obtain ⟨s, hs, hcollides⟩ := List.any_eq_true.mp hany
          have hold : s.path ∈ paths done := (h.mem_paths_iff s.path).mpr ⟨s, hs, rfl⟩
          exact Or.inr ⟨_, rfl, .colliding hself (List.mem_append_left _ hold) (hsites s hs) hp
            (h.sound s hs).written hcollides⟩
      | false =>
          have hsound : Site.Sound ⟨p.path, pattern, [(p.method, target)]⟩ :=
            ⟨List.cons_ne_nil _ _, hp⟩
          refine Or.inl ⟨_, rfl, h.concat hsound, hpaths.concat hp ?_⟩
          intro other hother q hq
          obtain ⟨s, hs, rfl⟩ := (h.mem_paths_iff other).mp hother
          obtain rfl := Option.some.inj ((h.sound s hs).written.symm.trans hq)
          exact Bool.eq_false_iff.mpr (List.any_eq_false.mp hany s hs)

/-- A target at a new place is added, or its path cannot be told from those that are
held. -/
theorem Holds.add (h : r.Holds done) (hpaths : Distinguishable (paths done))
    (hnew : p ∉ done.map Prod.fst) (target : α) :
    (∃ r', r.add p.path p.method target = .ok r' ∧ r'.Holds (done ++ [(p, target)]) ∧
        Distinguishable (paths done ++ [p.path])) ∨
      ∃ refusal, r.add p.path p.method target = .error refusal ∧
        Undistinguishable (paths done ++ [p.path]) refusal := by
  by_cases hpath : p.path ∈ paths done
  · obtain ⟨r', hadd, hr'⟩ := h.add_known hnew hpath target
    refine Or.inl ⟨r', hadd, hr', hpaths.of_subset ?_⟩
    exact List.append_subset.mpr ⟨List.Subset.refl _, by simpa using hpath⟩
  · exact h.add_new hpaths hpath target

end Router

end Adding

/-- An entry as a target at its place. -/
def Entry.slot {σ : Type} (e : Entry σ) : Place × Target σ := (e.place, .entry e)

namespace Router

variable {σ : Type} {r : Router (Target σ)} {done entries : List (Entry σ)}

theorem paths_map_slot (entries : List (Entry σ)) :
    paths (entries.map Entry.slot) = entries.map Entry.path := List.map_map

theorem map_fst_map_slot (entries : List (Entry σ)) :
    (entries.map Entry.slot).map Prod.fst = entries.map Entry.place := List.map_map

/-- An entry at a new place is added to those before it, or its path cannot be told from
theirs. -/
theorem Holds.add_entry (h : r.Holds (done.map Entry.slot))
    (hpaths : Distinguishable (done.map Entry.path)) {e : Entry σ}
    (hnew : e.place ∉ done.map Entry.place) :
    (∃ r', r.add e.path e.method (.entry e) = .ok r' ∧ r'.Holds ((done ++ [e]).map Entry.slot) ∧
        Distinguishable ((done ++ [e]).map Entry.path)) ∨
      ∃ refusal, r.add e.path e.method (.entry e) = .error refusal ∧
        Undistinguishable ((done ++ [e]).map Entry.path) refusal := by
  rw [← paths_map_slot] at hpaths
  rw [← map_fst_map_slot] at hnew
  rw [List.map_append, List.map_append, ← paths_map_slot done]
  exact h.add hpaths hnew (.entry e)

/-- Routable entries at different places are added one after another as long as their
paths can be told apart. -/
theorem Holds.addEntries_cases (h : r.Holds (done.map Entry.slot))
    (hpaths : Distinguishable (done.map Entry.path))
    (hroutable : ∀ e ∈ entries, e.method.isRoutable = true)
    (hdistinct : ((done ++ entries).map Entry.place).Nodup) :
    (∃ r', (r.addEntries entries).1 = .ok r' ∧ r'.Holds ((done ++ entries).map Entry.slot) ∧
        Distinguishable ((done ++ entries).map Entry.path)) ∨
      ∃ refusal, (r.addEntries entries).1 = .error (.refused refusal) ∧
        Undistinguishable ((done ++ entries).map Entry.path) refusal := by
  -- What is carried from entry to entry is that the router holds those before.
  induction entries generalizing r done with
  | nil => exact Or.inl ⟨r, rfl, by simpa using h, by simpa using hpaths⟩
  | cons e rest ih =>
      obtain ⟨he, hrest⟩ := List.forall_mem_cons.mp hroutable
      have hcons : done ++ e :: rest = (done ++ [e]) ++ rest := by simp
      have hnew : e.place ∉ done.map Entry.place := by
        rw [List.map_append, List.map_cons, List.nodup_middle, List.nodup_cons] at hdistinct
        exact fun hmem => hdistinct.1 (List.mem_append_left _ hmem)
      rw [hcons] at hdistinct ⊢
      unfold addEntries
      rw [if_neg (by simp [he])]
      rcases h.add_entry hpaths hnew with ⟨r', hadd, hr', hpaths'⟩ | ⟨refusal, hadd, hrefusal⟩
      · rw [hadd]
        exact ih hr' hpaths' hrest hdistinct
      · rw [hadd]
        exact Or.inr ⟨refusal, rfl,
          hrefusal.of_subset (List.map_subset _ (List.subset_append_left _ _))⟩

end Router

namespace Server

open Route Pattern

variable {σ : Type}

theorem isSegment_of_mem_branch {b : Branch σ} {s : String} (hs : s ∈ b.segments) :
    IsSegment s := by
  obtain ⟨spot, -, hspot⟩ := List.mem_flatMap.mp hs
  obtain ⟨t, ht, rfl⟩ := List.mem_map.mp hspot
  cases hpath : spot.node.path with
  | none => simp [hpath] at ht
  | some declared =>
      rw [hpath] at ht
      exact (isSegment_of_mem_segments ht).braced

/-- In the path of a leaf a slash stands before each segment and nowhere else. -/
theorem joinSegments_segments_of_mem_places {forest : List (Route σ)} {p : Place}
    (hp : p ∈ places Context.root forest) :
    joinSegments (RouteTree.segments p.path) = p.path := by
  obtain ⟨b, -, rfl⟩ := List.mem_map.mp hp
  have hsegments : RouteTree.segments (joinSegments b.segments) = b.segments :=
    segments_joinSegments fun s => isSegment_of_mem_branch
  exact congrArg joinSegments hsegments

/-- Behind the same segments the paths of a table that can be served have parameters of
one name. -/
theorem agree_of_servable {places : List Place} (h : Table.Servable places) {p q : Place}
    (hp : p ∈ places) (hq : q ∈ places) :
    Agree (RouteTree.segments p.path) (RouteTree.segments q.path) := by
  intro front name other hname hother
  rw [← Table.namesBehind_iff] at hname hother
  exact h.unique hq hp hother hname

/-- Plain paths of a table that can be served can be told apart. -/
theorem distinguishable_of_servable {places : List Place} (h : Table.Servable places)
    (hnormal : ∀ p ∈ places, joinSegments (RouteTree.segments p.path) = p.path)
    (hplain : ∀ p ∈ places, PlainPath p.path) : Distinguishable (places.map Place.path) := by
  have hparse : ∀ p ∈ places, parse? p.path = some (ofSegments (RouteTree.segments p.path)) := by
    intro p hp
    exact (hplain p hp).parse?_eq (hnormal p hp)
  constructor
  · intro path hpath
    obtain ⟨p, hp, rfl⟩ := List.mem_map.mp hpath
    exact ⟨_, hparse p hp⟩
  · intro path hpath other hother hne pattern pattern' hpattern hpattern'
    obtain ⟨p, hp, rfl⟩ := List.mem_map.mp hpath
    obtain ⟨q, hq, rfl⟩ := List.mem_map.mp hother
    obtain rfl := Option.some.inj ((hparse p hp).symm.trans hpattern)
    obtain rfl := Option.some.inj ((hparse q hq).symm.trans hpattern')
    rw [Bool.eq_false_iff]
    intro hcollides
    have hsegs := (hplain p hp).segments_eq (hplain q hq) (agree_of_servable h hp hq) hcollides
    apply hne
    rw [← hnormal p hp, ← hnormal q hq, hsegs]

theorem Takes.distinguishable_of_plain {s : Server σ} {forest : List (Route σ)}
    {entries : List (Entry σ)} (h : s.Takes forest entries)
    (hplain : ∀ path ∈ entries.map Entry.path, PlainPath path) :
    Distinguishable (entries.map Entry.path) := by
  have hpaths : entries.map Entry.path = (entries.map Entry.place).map Place.path := by
    rw [List.map_map]
    rfl
  rw [hpaths] at hplain ⊢
  apply distinguishable_of_servable (Table.check_eq_ok_iff.mp h.2)
  · rw [map_place_of_ok h.1]
    exact fun p => joinSegments_segments_of_mem_places
  · exact fun p hp => hplain p.path (List.mem_map_of_mem hp)

theorem exists_takes_of_accepted {s : Server σ} {forest : List (Route σ)}
    (h : (s.declare forest).error = none) :
    ∃ entries, s.Takes forest entries ∧ (s.declare forest).server =
      { s.counting (s.declare forest).constructed with entries } := by
  rcases s.declare_cases forest with ⟨-, entries, htakes, -, hserver⟩ | ⟨-, e, -, herror, -⟩
  · exact ⟨entries, htakes, hserver⟩
  · cases h.symm.trans herror

/-- Without plugins a router is made of entries alone. -/
theorem router_of_no_plugins {s : Server σ} (h : s.plugins = []) :
    s.router = Router.empty.addEntries s.entries := by
  unfold router
  rw [h]
  cases Router.empty.addEntries s.entries with
  | mk result events =>
      cases result with
      | error e => rfl
      | ok r => simp [Router.addPlugins]

/-- A table that can be served is put into a router, or one of its paths cannot be told
from the others. -/
theorem router_cases {s : Server σ} (hplugins : s.plugins = [])
    (hservable : Table.Servable (s.entries.map Entry.place)) :
    (∃ r, s.router = (.ok r, s.entries.map Entry.announcement) ∧
        r.Holds (s.entries.map Entry.slot) ∧ Distinguishable (s.entries.map Entry.path)) ∨
      ∃ refusal, s.router.1 = .error (.refused refusal) ∧
        Undistinguishable (s.entries.map Entry.path) refusal := by
  have hroutable : ∀ e ∈ s.entries, e.method.isRoutable = true := by
    intro e he
    exact hservable.routable e.place (List.mem_map_of_mem he)
  obtain ⟨-, -, hannounced⟩ := Router.empty.addEntries_announces hroutable
  have hempty : (Router.empty : Router (Target σ)).Holds (([] : List (Entry σ)).map Entry.slot) :=
    Router.holds_empty
  rw [router_of_no_plugins hplugins]
  rcases hempty.addEntries_cases distinguishable_nil hroutable hservable.distinct with
    ⟨r, hr, hholds, hpaths⟩ | hrefused
  · exact Or.inl ⟨r, Prod.ext hr (hannounced r hr), hholds, hpaths⟩
  · exact Or.inr hrefused

/-- A server without plugins that has accepted a forest becomes a router exactly if the
paths of its table can be told apart, as plain paths can. The router then holds the
entries of the table and nothing else, and all of them have been announced. Otherwise a
path is refused that cannot be told from the others. -/
theorem router_of_accepted {s : Server σ} (hplugins : s.plugins = []) {forest : List (Route σ)}
    (haccepted : (s.declare forest).error = none) :
    let accepting := (s.declare forest).server
    let paths := accepting.entries.map Entry.path
    ((∃ r, accepting.router.1 = .ok r) ↔ Distinguishable paths) ∧
      (∀ r, accepting.router.1 = .ok r → r.Holds (accepting.entries.map Entry.slot) ∧
        accepting.router.2 = accepting.entries.map Entry.announcement) ∧
      (∀ error, accepting.router.1 = .error error →
        ∃ refusal, error = .refused refusal ∧ Undistinguishable paths refusal) ∧
      ((∀ path ∈ paths, PlainPath path) → Distinguishable paths) := by
  intro accepting paths
  obtain ⟨entries, htakes, hserver⟩ := exists_takes_of_accepted haccepted
  have hentries : accepting.entries = entries := congrArg Server.entries hserver
  have hnone : accepting.plugins = [] := (congrArg Server.plugins hserver).trans hplugins
  rw [← hentries] at htakes
  have hplain := htakes.distinguishable_of_plain
  rcases router_cases hnone (Table.check_eq_ok_iff.mp htakes.2) with
    ⟨r, hr, hholds, hpaths⟩ | ⟨refusal, hr, hrefusal⟩
  · rw [hr]
    refine ⟨⟨fun _ => hpaths, fun _ => ⟨r, rfl⟩⟩, ?_, nofun, hplain⟩
    rintro r' hr'
    obtain rfl := Except.ok.inj hr'
    exact ⟨hholds, rfl⟩
  · rw [hr]
    refine ⟨⟨nofun, fun h => absurd h hrefusal.not_distinguishable⟩, nofun, ?_, hplain⟩
    rintro error herror
    obtain rfl := Except.error.inj herror
    exact ⟨refusal, rfl, hrefusal⟩

/-- A leaf at a declared path. -/
def listed (path : String) : Route Unit :=
  .node (((Node.empty.withPath path).withController archive).withHandler "list") []

/-- A leaf at the root, one at a parameter, and one that takes all the rest of a
path. -/
def readable : List (Route Unit) :=
  [listed "", listed "shelves/:id", listed "shelves/:id/books/\x7b*rest\x7d"]

theorem map_path_readable : ((new Config.default).declare readable).server.entries.map Entry.path =
    ["/", "/shelves/\x7bid\x7d", "/shelves/\x7bid\x7d/books/\x7b*rest\x7d"] := by
  decide +kernel

theorem plainPath_of_readable : ∀ path ∈
    ((new Config.default).declare readable).server.entries.map Entry.path, PlainPath path := by
  have hid : PlainName "id" := ⟨by decide, ⟨by decide, by decide⟩, by decide⟩
  have hrest : PlainName "rest" := ⟨by decide, ⟨by decide, by decide⟩, by decide⟩
  have hshelves {behind : List String} (h : Plain behind) :
      Plain ("shelves" :: "\x7bid\x7d" :: behind) :=
    .literal ⟨by decide, by decide⟩ (by decide) (.param rfl hid h)
  have hbooks : Plain ["books", "\x7b*rest\x7d"] :=
    .literal ⟨by decide, by decide⟩ (by decide) (.rest rfl hrest)
  have hshelf : RouteTree.segments "/shelves/\x7bid\x7d" = ["shelves", "\x7bid\x7d"] := by decide
  have hbook : RouteTree.segments "/shelves/\x7bid\x7d/books/\x7b*rest\x7d" =
      ["shelves", "\x7bid\x7d", "books", "\x7b*rest\x7d"] := by decide
  rw [map_path_readable, List.forall_mem_cons, List.forall_mem_cons, List.forall_mem_singleton]
  refine ⟨⟨.nil, by decide⟩, ⟨?_, by decide⟩, ⟨?_, by decide⟩⟩
  · rw [hshelf]
    exact hshelves .nil
  · rw [hbook]
    exact hshelves hbooks

theorem readable_becomes_router :
    ∃ r, ((new Config.default).declare readable).server.router.1 = .ok r ∧
      r.Holds (((new Config.default).declare readable).server.entries.map Entry.slot) := by
  have hplugins : (new Config.default : Server Unit).plugins = [] := rfl
  have haccepted : ((new Config.default).declare readable).error = none := by decide +kernel
  obtain ⟨hok, hholds, -, hplain⟩ := router_of_accepted hplugins haccepted
  obtain ⟨r, hr⟩ := hok.mpr (hplain plainPath_of_readable)
  exact ⟨r, hr, (hholds r hr).1⟩

/-- A path whose brace is not closed, and two paths that differ in the name of a
parameter that does not fill its segment, are accepted and then refused. -/
theorem accepted_is_refused :
    ((new Config.default).declare [listed "\x7ba"]).error = none ∧
      ((new Config.default).declare [listed "\x7ba"]).server.router =
        (.error (.refused (.malformed "/\x7ba")), [.registered .get "/\x7ba"]) ∧
      ((new Config.default).declare [listed "v\x7ba\x7d", listed "v\x7bb\x7d"]).error = none ∧
      ((new Config.default).declare [listed "v\x7ba\x7d", listed "v\x7bb\x7d"]).server.router =
        (.error (.refused (.colliding "/v\x7bb\x7d")),
          [.registered .get "/v\x7ba\x7d", .registered .get "/v\x7bb\x7d"]) :=
  ⟨rfl, rfl, rfl, rfl⟩

end Server

end RouteTree
