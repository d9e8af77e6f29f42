import RouteTree.Proofs.BestSite
import RouteTree.Proofs.RouterAssembly

/-!
# The table of an assembled server

A router takes no second target for a method of a path. What a server puts into its
router, entries and pages of plugins, therefore stands at distinct places, whether or
not its table was checked before, and whatever a request is sent to was put there.
-/

namespace RouteTree

section Keeping

variable {α : Type}

theorem apart_iff_map {sites : List (Site α)} :
    Apart sites ↔ (sites.map Site.pattern).Pairwise fun p q => p.collides q = false := by
  rw [List.pairwise_map]
  rfl

theorem Site.add_pattern {s s' : Site α} {method : Method} {target : α}
    (h : s.add method target = .ok s') : s'.pattern = s.pattern := by
  unfold Site.add at h
  split at h
  · cases h
  · cases h
    rfl

namespace Router

variable {r r' : Router α} {done : List (Place × α)} {p : Place} {path : String} {method : Method}
  {target : α}

/-- No site comes to a router whose pattern collides with those that are there. -/
theorem add_apart (h : Apart r.sites) (hadd : r.add path method target = .ok r') :
    Apart r'.sites := by
  unfold add at hadd
  rcases addAt_cases path method target r.sites with
    ⟨-, hnone⟩ | ⟨before, s, after, hsites, -, hsome⟩
  · rw [hnone] at hadd
    simp only at hadd
    split at hadd
    · cases hadd
    · next pattern _ =>
      split at hadd
      · cases hadd
      · next hany =>
        cases hadd
        rw [List.any_eq_true, not_exists] at hany
        refine List.pairwise_append.mpr ⟨h, List.pairwise_singleton _ _, ?_⟩
        intro s hs t ht
        obtain rfl := List.mem_singleton.mp ht
        exact Bool.eq_false_iff.mpr fun hcollides => hany s ⟨hs, hcollides⟩
  · rw [hsome] at hadd
    cases hs : s.add method target with
    | error refusal => simp [hs, Except.map] at hadd
    | ok s' =>
        simp only [hs, Except.map, Except.ok.injEq] at hadd
        subst hadd
        have hpattern := Site.add_pattern hs
        rw [apart_iff_map, hsites] at h
        rw [apart_iff_map]
        simpa [hpattern] using h

/-- What the site of a place has for its method is what the router holds at the
place. -/
theorem Holds.own?_eq_some_iff (h : r.Holds done) (hapart : Apart r.sites)
    (hdistinct : (done.map Prod.fst).Nodup) {s : Site α} (hs : s ∈ r.sites) :
    s.own? method = some target ↔ (⟨method, s.path⟩, target) ∈ done := by
  have hheld {target : α} (ht : (method, target) ∈ s.targets) :
      (⟨method, s.path⟩, target) ∈ done :=
    h.perm.mem_iff.mp (List.mem_flatMap.mpr ⟨s, hs, List.mem_map.mpr ⟨_, ht, rfl⟩⟩)
  have hfound {target : α} (hown : s.own? method = some target) :
      (method, target) ∈ s.targets := by
    obtain ⟨⟨method', target'⟩, hfind, rfl⟩ := Option.map_eq_some_iff.mp hown
    obtain rfl : method' = method := by simpa using List.find?_some hfind
    exact List.mem_of_find?_eq_some hfind
  refine ⟨fun hown => hheld (hfound hown), ?_⟩
  intro hmem
  obtain ⟨t, ht, hslot⟩ := List.mem_flatMap.mp (h.perm.mem_iff.mpr hmem)
  obtain ⟨⟨method', target'⟩, htarget, heq⟩ := List.mem_map.mp hslot
  obtain ⟨hplace, rfl⟩ := Prod.mk.inj heq
  obtain ⟨rfl, hpath⟩ := (Place.mk.injEq ..).mp hplace
  -- The site of the place is the only one with its path.
  have hpattern : t.pattern = s.pattern := by
    have hwritten := (h.sound t ht).written
    rw [hpath, (h.sound s hs).written] at hwritten
    exact (Option.some.inj hwritten).symm
  obtain rfl := hapart.eq_of_pattern_eq ht hs hpattern
  cases hown : t.own? method' with
  | none =>
      have hnone := List.find?_eq_none.mp (Option.map_eq_none_iff.mp hown) _ htarget
      simp at hnone
  | some other =>
      have hother := hheld (hfound hown)
      exact congrArg (fun d => some d.2) (List.inj_on_of_nodup_map hdistinct hother hmem rfl)

/-- A router holds targets at distinct places whose paths it can tell apart. -/
structure Keeps (r : Router α) (done : List (Place × α)) : Prop where
  holds : r.Holds done
  apart : Apart r.sites
  told : Distinguishable (paths done)
  distinct : (done.map Prod.fst).Nodup

theorem keeps_empty : (empty : Router α).Keeps [] :=
  ⟨holds_empty, List.Pairwise.nil, distinguishable_nil, List.nodup_nil⟩

/-- No target is added at a place that has one. -/
theorem Keeps.notMem_of_add (h : r.Keeps done) (hadd : r.add p.path p.method target = .ok r') :
    p ∉ done.map Prod.fst := by
  intro hmem
  obtain ⟨⟨place, old⟩, hold, rfl⟩ := List.mem_map.mp hmem
  have hpath : place.path ∈ paths done := List.mem_map_of_mem hold
  obtain ⟨t, ht, htp⟩ := (h.holds.mem_paths_iff place.path).mp hpath
  unfold add at hadd
  rcases addAt_cases place.path place.method target r.sites with
    ⟨hnone, -⟩ | ⟨before, s, after, hsites, hs, hsome⟩
  · exact hnone t ht htp
  · have hmem : s ∈ r.sites := by simp [hsites]
    have hown : s.own? place.method = some old := by
      rw [h.holds.own?_eq_some_iff h.apart h.distinct hmem, hs]
      exact hold
    simp [hsome, Site.add, hown, Except.map] at hadd

theorem Keeps.add (h : r.Keeps done) (hadd : r.add p.path p.method target = .ok r') :
    r'.Keeps (done ++ [(p, target)]) := by
  have hnew := h.notMem_of_add hadd
  have hpaths : paths (done ++ [(p, target)]) = paths done ++ [p.path] := by simp [paths]
  rcases h.holds.add h.told hnew target with ⟨r'', hadd', hholds, htold⟩ | ⟨refusal, hadd', -⟩
  · obtain rfl := Except.ok.inj (hadd.symm.trans hadd')
    refine ⟨hholds, add_apart h.apart hadd, ?_, ?_⟩
    · rwa [hpaths]
    · rw [List.map_append, List.nodup_append_comm]
      exact List.nodup_cons.mpr ⟨hnew, h.distinct⟩
  · cases hadd.symm.trans hadd'

/-- What a request is sent to is held at some place. -/
theorem Keeps.exists_place_of_route (h : r.Keeps done) {method : Method} {path : String}
    {captured : List (String × String)} (hroute : r.route method path = .target target captured) :
    ∃ p, (p, target) ∈ done := by
  unfold route at hroute
  cases hsite : r.site? path with
  | none => simp [hsite] at hroute
  | some best =>
      obtain ⟨s, found⟩ := best
      have hs := ((site?_eq_some_iff h.apart).mp hsite).mem
      have hheld {method : Method} (hown : s.own? method = some target) : ∃ p, (p, target) ∈ done :=
        ⟨_, (h.holds.own?_eq_some_iff h.apart h.distinct hs).mp hown⟩
      rw [hsite] at hroute
      cases htarget : s.target? method with
      | none => simp [htarget] at hroute
      | some found =>
          simp only [htarget, Destination.target.injEq] at hroute
          obtain ⟨rfl, -⟩ := hroute
          unfold Site.target? at htarget
          split at htarget
          · next hown => exact hheld (hown.trans htarget)
          · split at htarget
            · exact hheld htarget
            · cases htarget

end Router

end Keeping

namespace Router

section Assembling

variable {σ : Type} {r r' : Router (Target σ)} {done : List (Place × Target σ)}

/-- A page as a target at its place. -/
def pageSlot (page : String × Response) : Place × Target σ := (⟨.get, page.1⟩, .page page.2)

theorem Keeps.addPages (h : r.Keeps done) {pages : List (String × Response)}
    (hadd : r.addPages pages = .ok r') : r'.Keeps (done ++ pages.map pageSlot) := by
  induction pages generalizing r done with
  | nil =>
      obtain rfl := Except.ok.inj hadd
      simpa using h
  | cons page rest ih =>
      obtain ⟨path, response⟩ := page
      unfold Router.addPages at hadd
      cases hstep : r.add path .get (.page response) with
      | error refusal => simp [hstep] at hadd
      | ok next =>
          rw [hstep] at hadd
          have hnext : next.Keeps (done ++ [pageSlot (path, response)]) := h.add hstep
          simpa using ih hnext hadd

theorem Keeps.addPlugins (h : r.Keeps done) {plugins : List Plugin}
    (hadd : (r.addPlugins plugins).1 = .ok r') :
    r'.Keeps (done ++ plugins.flatMap fun p => p.pages.map pageSlot) := by
  induction plugins generalizing r done with
  | nil =>
      obtain rfl := Except.ok.inj hadd
      simpa using h
  | cons p rest ih =>
      unfold Router.addPlugins at hadd
      cases hstep : r.addPages p.pages with
      | error refusal => simp [hstep] at hadd
      | ok next =>
          rw [hstep] at hadd
          simpa using ih (h.addPages hstep) hadd

theorem Keeps.addEntries (h : r.Keeps done) {entries : List (Entry σ)}
    (hadd : (r.addEntries entries).1 = .ok r') :
    r'.Keeps (done ++ entries.map Entry.slot) ∧ ∀ e ∈ entries, e.method.isRoutable = true := by
  induction entries generalizing r done with
  | nil =>
      obtain rfl := Except.ok.inj hadd
      exact ⟨by simpa using h, by simp⟩
  | cons e rest ih =>
      unfold Router.addEntries at hadd
      split at hadd
      · cases hadd
      · next hroutable =>
        cases hstep : r.add e.path e.method (.entry e) with
        | error refusal => simp [hstep] at hadd
        | ok next =>
            rw [hstep] at hadd
            have hnext : next.Keeps (done ++ [e.slot]) := h.add hstep
            obtain ⟨hkeeps, hrest⟩ := ih hnext hadd
            refine ⟨by simpa using hkeeps, List.forall_mem_cons.mpr ⟨?_, hrest⟩⟩
            simpa using hroutable

end Assembling

end Router

namespace Server

variable {σ : Type} {s : Server σ}

/-- What a server puts into its router, each at its place. -/
def slots (s : Server σ) : List (Place × Target σ) :=
  s.entries.map Entry.slot ++ s.plugins.flatMap fun p => p.pages.map Router.pageSlot

/-- The router of a server, with or without plugins, holds its entries and pages at
distinct places. All entries have methods that can be routed. -/
theorem router_keeps {r : Router (Target σ)} (hr : s.router.1 = .ok r) :
    r.Keeps s.slots ∧ ∀ e ∈ s.entries, e.method.isRoutable = true := by
  unfold router at hr
  cases hentries : (Router.empty : Router (Target σ)).addEntries s.entries with
  | mk result events =>
      rw [hentries] at hr
      cases result with
      | error e => cases hr
      | ok between =>
          have hbetween : ((Router.empty : Router (Target σ)).addEntries s.entries).1 =
              .ok between := congrArg Prod.fst hentries
          obtain ⟨hkeeps, hroutable⟩ := Router.keeps_empty.addEntries hbetween
          exact ⟨hkeeps.addPlugins hr, hroutable⟩

/-- An assembled server has at most one entry for a method and a path. -/
theorem eq_of_place_eq {r : Router (Target σ)} (hr : s.router.1 = .ok r) {e e' : Entry σ}
    (he : e ∈ s.entries) (he' : e' ∈ s.entries) (hplace : e.place = e'.place) : e = e' := by
  have hdistinct := (router_keeps hr).1.distinct
  rw [slots, List.map_append, Router.map_fst_map_slot] at hdistinct
  exact List.inj_on_of_nodup_map (List.nodup_append.mp hdistinct).1 he he' hplace

/-- Whatever entry a request is sent to is one of the server's. -/
theorem mem_entries_of_route {r : Router (Target σ)} (hr : s.router.1 = .ok r) {method : Method}
    {path : String} {e : Entry σ} {captured : List (String × String)}
    (hroute : r.route method path = .target (.entry e) captured) : e ∈ s.entries := by
  obtain ⟨p, hp⟩ := (router_keeps hr).1.exists_place_of_route hroute
  rcases List.mem_append.mp hp with hentry | hpage
  · obtain ⟨e', he', heq⟩ := List.mem_map.mp hentry
    obtain ⟨-, htarget⟩ := Prod.mk.inj heq
    obtain rfl := Target.entry.inj htarget
    exact he'
  · obtain ⟨plugin, -, hslot⟩ := List.mem_flatMap.mp hpage
    obtain ⟨page, -, heq⟩ := List.mem_map.mp hslot
    cases (Prod.mk.inj heq).2

end Server

end RouteTree
