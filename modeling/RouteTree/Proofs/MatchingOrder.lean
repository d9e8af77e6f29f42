import RouteTree.Proofs.AssembledTable
import RouteTree.Server.Application

/-!
# The order of a table has no effect on matching

A router that holds some targets sends a request to the site that goes before all others
that take its path. Which site that is, and which target it has for a method, can be
told from the targets alone, so routers that hold the same targets send every request
the same way, in whatever order the targets were added.
-/

namespace RouteTree

section Targets

variable {α : Type}

namespace Router

variable {r r' : Router α} {done done' : List (Place × α)}

theorem Holds.target?_eq (h : r.Holds done) (h' : r'.Holds done') (hapart : Apart r.sites)
    (hapart' : Apart r'.sites) (hperm : done.Perm done') (hdistinct : (done.map Prod.fst).Nodup)
    {s s' : Site α} (hs : s ∈ r.sites) (hs' : s' ∈ r'.sites) (hpath : s'.path = s.path)
    (method : Method) : s'.target? method = s.target? method := by
  have hdistinct' : (done'.map Prod.fst).Nodup := (hperm.map Prod.fst).nodup_iff.mp hdistinct
  have hown (method : Method) : s'.own? method = s.own? method := by
    apply Option.ext
    intro target
    rw [h'.own?_eq_some_iff hapart' hdistinct' hs', h.own?_eq_some_iff hapart hdistinct hs, hpath]
    exact hperm.symm.mem_iff
  unfold Site.target?
  rw [hown, hown]

/-- A site of one router has its like in every other that holds the same targets. -/
theorem Holds.exists_like (h : r.Holds done) (h' : r'.Holds done') (hperm : done.Perm done')
    {s : Site α} (hs : s ∈ r.sites) :
    ∃ s' ∈ r'.sites, s'.path = s.path ∧ s'.pattern = s.pattern := by
  have hpath : s.path ∈ paths done' :=
    (hperm.map fun t => t.1.path).mem_iff.mp ((h.mem_paths_iff s.path).mpr ⟨s, hs, rfl⟩)
  obtain ⟨s', hs', heq⟩ := (h'.mem_paths_iff s.path).mp hpath
  refine ⟨s', hs', heq, ?_⟩
  have hwritten := (h'.sound s' hs').written
  rw [heq, (h.sound s hs).written] at hwritten
  exact (Option.some.inj hwritten).symm

/-- The best site of one router has its like in the best site of the other. -/
theorem Holds.exists_best (h : r.Holds done) (h' : r'.Holds done') (hapart' : Apart r'.sites)
    (hperm : done.Perm done') {path : List Char} {s : Site α} {captured : List (String × String)}
    (hbest : Best r.sites path s captured) :
    ∃ s', Best r'.sites path s' captured ∧ s'.path = s.path := by
  obtain ⟨s', hs', hpath, hpattern⟩ := h.exists_like h' hperm hbest.mem
  refine ⟨s', ⟨hs', by rw [hpattern, hbest.takes], ?_⟩, hpath⟩
  intro t' ht' htakes
  obtain ⟨t, ht, -, hlike⟩ := h'.exists_like h hperm.symm ht'
  rcases hbest.first t ht (by rwa [hlike]) with rfl | hbefore
  · exact Or.inl (hapart'.eq_of_pattern_eq ht' hs' (hlike.symm.trans hpattern.symm))
  · exact Or.inr (by rwa [hpattern, ← hlike])

end Router

/-- Destinations that come to the same: one target with the same captured values, a path
that does not serve the method, or no path. -/
inductive Destination.Agrees : Destination α → Destination α → Prop
  | target (t : α) (captured : List (String × String)) :
      Agrees (.target t captured) (.target t captured)
  | wrongMethod (served served' : String) : Agrees (.wrongMethod served) (.wrongMethod served')
  | nowhere : Agrees .nowhere .nowhere

/-- Routers that hold the same targets at distinct places send every request the same
way. -/
theorem Router.Holds.route_agrees {r r' : Router α} {done done' : List (Place × α)}
    (h : r.Holds done) (h' : r'.Holds done') (hapart : Apart r.sites) (hapart' : Apart r'.sites)
    (hperm : done.Perm done') (hdistinct : (done.map Prod.fst).Nodup) (method : Method)
    (path : String) : (r.route method path).Agrees (r'.route method path) := by
  unfold route
  cases hsite : r.site? path with
  | none =>
      cases hsite' : r'.site? path with
      | none => exact .nowhere
      | some best =>
          obtain ⟨s', captured⟩ := best
          obtain ⟨s, hbest, -⟩ :=
            h'.exists_best h hapart hperm.symm ((site?_eq_some_iff hapart').mp hsite')
          cases hsite.symm.trans ((site?_eq_some_iff hapart).mpr hbest)
  | some best =>
      obtain ⟨s, captured⟩ := best
      have hbest := (site?_eq_some_iff hapart).mp hsite
      obtain ⟨s', hbest', hpath⟩ := h.exists_best h' hapart' hperm hbest
      have htarget :=
        h.target?_eq h' hapart hapart' hperm hdistinct hbest.mem hbest'.mem hpath method
      simp only [(site?_eq_some_iff hapart').mpr hbest', htarget]
      cases s.target? method with
      | none => exact .wrongMethod _ _
      | some target => exact .target target captured

end Targets

/-- Answers that differ at most in the fields of their responses. -/
structure Served.Matches {σ : Type} (served served' : Served σ Response) : Prop where
  status : served.response.status = served'.response.status
  body : served.response.body = served'.response.body
  states : served.states = served'.states
  journal : served.journal = served'.journal
  sample : served.sample = served'.sample

namespace Application

variable {σ : Type} {app app' : Application σ} {call : Call}

/-- Where a call goes decides how it is answered. The methods that a 405 lists may stand
in another order. -/
theorem answer_of_agrees (hbody : app'.maxBody = app.maxBody)
    (htime : app'.milliseconds = app.milliseconds)
    (h : (app.router.route call.method call.uri.path).Agrees
      (app'.router.route call.method call.uri.path)) (generated : Bytes) (states : States σ) :
    (app.answer call generated states).Matches (app'.answer call generated states) ∧
      ((∀ served, app.router.route call.method call.uri.path ≠ .wrongMethod served) →
        app'.answer call generated states = app.answer call generated states) := by
  have hdeliver (call : Call) (destination : Destination (Target σ)) :
      app'.deliverInTime call states destination = app.deliverInTime call states destination := by
    simp only [deliverInTime, deliver, hbody, htime]
  have hwrong (call : Call) (served served' : String) :
      app.deliverInTime call states (.wrongMethod served') =
        app.deliverInTime call states (.wrongMethod served) := rfl
  unfold answer
  simp only [hdeliver]
  generalize app.router.route call.method call.uri.path = destination at h ⊢
  generalize app'.router.route call.method call.uri.path = destination' at h ⊢
  cases h with
  | target t captured => exact ⟨⟨rfl, rfl, rfl, rfl, rfl⟩, fun _ => rfl⟩
  | nowhere => exact ⟨⟨rfl, rfl, rfl, rfl, rfl⟩, fun _ => rfl⟩
  | wrongMethod served served' =>
      rw [hwrong _ served served']
      refine ⟨⟨by simp, by simp [Response.framedFor_body], rfl, rfl, rfl⟩, ?_⟩
      intro hnone
      exact absurd rfl (hnone served)

end Application

namespace Server

open Pattern

variable {σ : Type} {s : Server σ}

/-- A table that can be served becomes a router exactly if its paths can be told
apart. -/
theorem exists_router_iff (hplugins : s.plugins = [])
    (hservable : Table.Servable (s.entries.map Entry.place)) :
    (∃ r, s.router.1 = .ok r) ↔ Distinguishable (s.entries.map Entry.path) := by
  rcases router_cases hplugins hservable with ⟨r, hr, -, hpaths⟩ | ⟨refusal, hr, hrefusal⟩
  · rw [hr]
    exact ⟨fun _ => hpaths, fun _ => ⟨r, rfl⟩⟩
  · rw [hr]
    exact ⟨nofun, fun h => absurd h hrefusal.not_distinguishable⟩

/-- The router of a server without plugins holds its entries on sites that do not
collide. -/
theorem router_holds (hplugins : s.plugins = []) {r : Router (Target σ)}
    (hr : s.router.1 = .ok r) : r.Holds (s.entries.map Entry.slot) ∧ Apart r.sites := by
  have hslots : s.slots = s.entries.map Entry.slot := by simp [slots, hplugins]
  have hkeeps := (router_keeps hr).1
  rw [hslots] at hkeeps
  exact ⟨hkeeps.holds, hkeeps.apart⟩

theorem exists_router_of_assemble {app : Application σ} (h : s.assemble.1 = .ok app) :
    s.router.1 = .ok app.router ∧ app.maxBody = s.config.limits.maxBodyBytes ∧
      app.milliseconds = 1000 * s.config.timeouts.requestSecs := by
  have hmap : s.router.1.map (fun router => Application.mk router s.config.limits.maxBodyBytes
      (1000 * s.config.timeouts.requestSecs)) = .ok app := h
  cases hr : s.router.1 with
  | error e => simp [hr, Except.map] at hmap
  | ok r =>
      rw [hr] at hmap
      obtain rfl := Except.ok.inj hmap
      exact ⟨rfl, rfl, rfl⟩

/-- The order of an accepted table has no effect on what a server without plugins does.
Either order becomes a router if the other does, as both do if the paths are plain. The
routers send every request to the same entry with the same captured parameters, or to no
entry, and the answers are the same apart from the order in which a 405 lists the
methods. -/
theorem router_of_perm (hplugins : s.plugins = [])
    (haccepted : Table.check (s.entries.map Entry.place) = .ok ()) {entries : List (Entry σ)}
    (hperm : s.entries.Perm entries) :
    let reordered := { s with entries }
    ((∃ r, s.router.1 = .ok r) ↔ ∃ r, reordered.router.1 = .ok r) ∧
      ((∀ e ∈ s.entries, PlainPath e.path ∧
          joinSegments (RouteTree.segments e.path) = e.path) → ∃ r, s.router.1 = .ok r) ∧
      ∀ app app', s.assemble.1 = .ok app → reordered.assemble.1 = .ok app' → ∀ call,
        (app.router.route call.method call.uri.path).Agrees
            (app'.router.route call.method call.uri.path) ∧
          ∀ generated states,
            (app.answer call generated states).Matches (app'.answer call generated states) ∧
              ((∀ served, app.router.route call.method call.uri.path ≠ .wrongMethod served) →
                app'.answer call generated states = app.answer call generated states) := by
  intro reordered
  have hservable := Table.check_eq_ok_iff.mp haccepted
  have hplugins' : reordered.plugins = [] := hplugins
  have hservable' : Table.Servable (reordered.entries.map Entry.place) :=
    hservable.perm (hperm.map Entry.place)
  have hslots : (s.entries.map Entry.slot).Perm (reordered.entries.map Entry.slot) :=
    hperm.map Entry.slot
  have hdistinct : ((s.entries.map Entry.slot).map Prod.fst).Nodup := by
    rw [Router.map_fst_map_slot]
    exact hservable.distinct
  refine ⟨?_, ?_, ?_⟩
  · have hpaths : (s.entries.map Entry.path).Perm (reordered.entries.map Entry.path) :=
      hperm.map Entry.path
    rw [exists_router_iff hplugins hservable, exists_router_iff hplugins' hservable']
    exact ⟨fun h => h.of_subset hpaths.symm.subset, fun h => h.of_subset hpaths.subset⟩
  · intro hplain
    have hpaths : s.entries.map Entry.path = (s.entries.map Entry.place).map Place.path := by
      rw [List.map_map]
      rfl
    rw [exists_router_iff hplugins hservable, hpaths]
    apply distinguishable_of_servable hservable
    · exact List.forall_mem_map.mpr fun e he => (hplain e he).2
    · exact List.forall_mem_map.mpr fun e he => (hplain e he).1
  · intro app app' happ happ' call
    obtain ⟨hr, hbody, htime⟩ := exists_router_of_assemble happ
    obtain ⟨hr', hbody', htime'⟩ := exists_router_of_assemble happ'
    obtain ⟨hholds, hapart⟩ := router_holds hplugins hr
    obtain ⟨hholds', hapart'⟩ := router_holds hplugins' hr'
    have hagrees := hholds.route_agrees hholds' hapart hapart' hslots hdistinct
      call.method call.uri.path
    exact ⟨hagrees, Application.answer_of_agrees (hbody'.trans hbody.symm)
      (htime'.trans htime.symm) hagrees⟩

/-- Two leaves at a parameter, and two at a word in its place. -/
def overlapping : List (Route Unit) :=
  [.node (Node.empty.withController Route.archive)
    [.node ((Node.empty.withPath "shelves/:id").withHandler "list") [],
      .node ((Node.empty.withPath "shelves/top").withHandler "list") [],
      .node (((Node.empty.withPath "shelves/:id").withMethod .put).withHandler "list") [],
      .node (((Node.empty.withPath "shelves/top").withMethod .head).withHandler "list") []]]

theorem overlapping_reversed :
    let s := ((new Config.default).declare overlapping).server
    let reordered := { s with entries := s.entries.reverse }
    ∃ app app', s.assemble.1 = .ok app ∧ reordered.assemble.1 = .ok app' ∧
      app.router.sites.map Site.path = ["/shelves/\x7bid\x7d", "/shelves/top"] ∧
      app'.router.sites.map Site.path = ["/shelves/top", "/shelves/\x7bid\x7d"] ∧
      ∀ call : Call, (app.router.route call.method call.uri.path).Agrees
        (app'.router.route call.method call.uri.path) := by
  intro s reordered
  have hchecked : Table.check (s.entries.map Entry.place) = .ok () := by decide +kernel
  have happ : s.assemble.1 = .ok _ := rfl
  have happ' : reordered.assemble.1 = .ok _ := rfl
  obtain ⟨-, -, hsame⟩ := router_of_perm rfl hchecked (List.reverse_perm s.entries).symm
  exact ⟨_, _, happ, happ', rfl, rfl, fun call => (hsame _ _ happ happ' call).1⟩

end Server

end RouteTree
