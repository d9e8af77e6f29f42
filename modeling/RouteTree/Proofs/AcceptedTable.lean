import RouteTree.Proofs.EntryFields
import RouteTree.Proofs.FirstDefect
import RouteTree.Proofs.TableCheck
import RouteTree.Server.Basic

/-!
# The table of the last accepted tree

Whether a server takes a route tree can be told from the tree alone: no node may lack
anything, and the places of the leaves must be a table that can be served. A tree that
is not taken changes only the numbers of later constructions, so after any calls the
table is that of the last tree that was taken. Such a table has passed the check, so
assembling it never stops at a method, and announces the entries of this table and no
others.
-/

namespace RouteTree

namespace Route

open Branch

variable {σ : Type}

/-- Where the leaves of a forest are reached. -/
def places (ctx : Context σ) (forest : List (Route σ)) : List Place :=
  (leaves forest).map fun b => ⟨b.node.method, b.path ctx⟩

/-- A forest that servers take: no node lacks anything, and the leaves are reached at
places that can be served together. -/
structure Acceptable (forest : List (Route σ)) : Prop where
  complete : ∀ b ∈ forestBranches [] 0 forest, ∀ e, ¬ b.Lacks Context.root e
  servable : Table.Servable (places Context.root forest)

/-- The entries of a forest are reached where its leaves are, whatever instances serve
them. -/
theorem map_place_of_ok {ctx : Context σ} {next : Nat} {forest : List (Route σ)}
    {entries : List (Entry σ)} (h : (compileForest ctx next forest).result = .ok entries) :
    entries.map Entry.place = places ctx forest := by
  have hplaces : List.Forall₂ (· = ·) (places ctx forest) (entries.map Entry.place) := by
    rw [places, List.forall₂_map_left_iff, List.forall₂_map_right_iff]
    refine (compileForest_eq_ok h).1.imp ?_
    intro b e he
    rw [← he.shows.method, ← he.path_eq]
    rfl
  rw [List.forall₂_eq_eq_eq] at hplaces
  exact hplaces.symm

theorem exists_ok_iff {ctx : Context σ} {next : Nat} {forest : List (Route σ)} :
    (∃ entries, (compileForest ctx next forest).result = .ok entries) ↔
      ∀ b ∈ forestBranches [] 0 forest, ∀ e, ¬ b.Lacks ctx e := by
  constructor
  · rintro ⟨entries, h⟩ b hb
    exact not_lacks_of_ok h hb
  · intro h
    cases hr : (compileForest ctx next forest).result with
    | ok entries => exact ⟨entries, rfl⟩
    | error e =>
        obtain ⟨before, failing, after, hsplit, -, hl⟩ := exists_first_lacking_of_error hr
        exact absurd hl (h failing (by simp [hsplit]) e)

end Route

/-- A call on a server before it is assembled. -/
inductive Setup (σ : Type) where
  | declare (forest : List (Route σ))
  | register (plugins : List Plugin)

namespace Server

open Route

variable {σ : Type}

/-- A forest is taken: it compiles to entries that pass the check. -/
def Takes (s : Server σ) (forest : List (Route σ)) (entries : List (Entry σ)) : Prop :=
  (compileForest Context.root s.next forest).result = .ok entries ∧
    Table.check (entries.map Entry.place) = .ok ()

/-- A forest is rejected: it does not compile, or its entries do not pass the check. -/
def Rejects (s : Server σ) (forest : List (Route σ)) (e : ConfigurationError) : Prop :=
  (compileForest Context.root s.next forest).result = .error e ∨
    ∃ entries, (compileForest Context.root s.next forest).result = .ok entries ∧
      Table.check (entries.map Entry.place) = .error e

/-- The server after constructions that it only counts. -/
def counting (s : Server σ) (constructed : List (Instance σ)) : Server σ :=
  { s with next := s.next + constructed.length }

/-- Which forests are taken does not depend on what happened to the server. -/
theorem exists_takes_iff (s : Server σ) (forest : List (Route σ)) :
    (∃ entries, s.Takes forest entries) ↔ Acceptable forest := by
  constructor
  · rintro ⟨entries, hc, ht⟩
    constructor
    · exact exists_ok_iff.mp ⟨entries, hc⟩
    · rwa [map_place_of_ok hc, Table.check_eq_ok_iff] at ht
  · rintro ⟨hcomplete, hservable⟩
    obtain ⟨entries, hc⟩ := exists_ok_iff.mpr hcomplete
    refine ⟨entries, hc, ?_⟩
    rwa [map_place_of_ok hc, Table.check_eq_ok_iff]

theorem Rejects.not_acceptable {s : Server σ} {forest : List (Route σ)} {e : ConfigurationError}
    (h : s.Rejects forest e) : ¬ Acceptable forest := by
  rw [← s.exists_takes_iff forest]
  rintro ⟨entries, hc, ht⟩
  rcases h with hr | ⟨others, hr, hcheck⟩
  · cases hc.symm.trans hr
  · obtain rfl := Except.ok.inj (hc.symm.trans hr)
    cases ht.symm.trans hcheck

/-- A declaration takes an acceptable forest and replaces the table. It rejects any
other and only counts what it has constructed on the way. -/
theorem declare_cases (s : Server σ) (forest : List (Route σ)) :
    (Acceptable forest ∧ ∃ entries, s.Takes forest entries ∧ (s.declare forest).error = none ∧
        (s.declare forest).server =
          { s.counting (s.declare forest).constructed with entries }) ∨
      (¬ Acceptable forest ∧ ∃ e, s.Rejects forest e ∧ (s.declare forest).error = some e ∧
        (s.declare forest).server = s.counting (s.declare forest).constructed) := by
  have htaken {entries : List (Entry σ)} (h : s.Takes forest entries) : Acceptable forest :=
    (s.exists_takes_iff forest).mp ⟨entries, h⟩
  unfold declare
  cases hc : (compileForest Context.root s.next forest).result with
  | error e =>
      have hrejects : s.Rejects forest e := Or.inl hc
      exact Or.inr ⟨hrejects.not_acceptable, e, hrejects, by simp only [hc], by simp only [hc]; rfl⟩
  | ok entries =>
      cases ht : Table.check (entries.map Entry.place) with
      | error e =>
          have hrejects : s.Rejects forest e := Or.inr ⟨entries, hc, ht⟩
          refine Or.inr ⟨hrejects.not_acceptable, e, hrejects, ?_, ?_⟩
          · simp only [hc, ht]
          · simp only [hc, ht]
            rfl
      | ok _ =>
          have htakes : s.Takes forest entries := ⟨hc, ht⟩
          refine Or.inl ⟨htaken htakes, entries, htakes, ?_, ?_⟩
          · simp only [hc, ht]
          · simp only [hc, ht]
            rfl

/-- The server after a call. -/
def apply (s : Server σ) : Setup σ → Server σ
  | .declare forest => (s.declare forest).server
  | .register plugins => s.register plugins

/-- The server after calls one after another. -/
def applyAll (s : Server σ) (calls : List (Setup σ)) : Server σ := calls.foldl apply s

@[simp]
theorem applyAll_concat (s : Server σ) (calls : List (Setup σ)) (call : Setup σ) :
    s.applyAll (calls ++ [call]) = (s.applyAll calls).apply call := by
  simp [applyAll]

/-- A table is that of the last acceptable forest among calls on a new server, as it was
compiled when it was declared, or is empty if there is no such forest. -/
inductive Current (config : Config) : List (Setup σ) → List (Entry σ) → Prop
  | none {calls : List (Setup σ)} (h : ∀ forest, .declare forest ∈ calls → ¬ Acceptable forest) :
      Current config calls []
  | last {before after : List (Setup σ)} {forest : List (Route σ)} {entries : List (Entry σ)}
      (htaken : ((new config).applyAll before).Takes forest entries)
      (hafter : ∀ other, .declare other ∈ after → ¬ Acceptable other) :
      Current config (before ++ .declare forest :: after) entries

/-- A call that declares no acceptable forest leaves the current table as it is. -/
theorem Current.concat {config : Config} {calls : List (Setup σ)} {entries : List (Entry σ)}
    (h : Current config calls entries) {call : Setup σ}
    (hcall : ∀ forest, call = .declare forest → ¬ Acceptable forest) :
    Current config (calls ++ [call]) entries := by
  cases h with
  | none h =>
      apply Current.none
      intro forest hmem
      rcases List.mem_append.mp hmem with hmem | hmem
      · exact h forest hmem
      · exact hcall forest (List.mem_singleton.mp hmem).symm
  | @last before after forest entries htaken hafter =>
      rw [List.append_assoc, List.cons_append]
      apply Current.last htaken
      intro other hmem
      rcases List.mem_append.mp hmem with hmem | hmem
      · exact hafter other hmem
      · exact hcall other (List.mem_singleton.mp hmem).symm

theorem Current.check {config : Config} {calls : List (Setup σ)} {entries : List (Entry σ)}
    (h : Current config calls entries) : Table.check (entries.map Entry.place) = .ok () := by
  cases h with
  | none _ => rfl
  | last htaken _ => exact htaken.2

/-- After any calls a new server has the current table. -/
theorem current_applyAll (config : Config) (calls : List (Setup σ)) :
    Current config calls ((new config).applyAll calls).entries := by
  induction calls using List.reverseRecOn with
  | nil => exact Current.none (by simp)
  | append_singleton calls call ih =>
      rw [applyAll_concat]
      cases call with
      | register plugins => exact ih.concat (by simp)
      | declare forest =>
          rcases ((new config).applyAll calls).declare_cases forest with
            ⟨-, entries, htaken, -, heq⟩ | ⟨hrejected, e, -, -, heq⟩
          · rw [apply, heq]
            exact Current.last htaken (by simp)
          · rw [apply, heq]
            apply ih.concat
            rintro other hother
            cases hother
            exact hrejected

end Server

section Assembling

variable {σ : Type}

/-- The line that announces an entry. -/
def Entry.announcement (e : Entry σ) : Event := .registered e.method e.path

/-- The line that announces a plugin. -/
def Plugin.announcement (p : Plugin) : Event := .pluginRegistered p.name

/-- Routable entries are announced in order, all of them unless a path is refused. -/
theorem Router.addEntries_announces (r : Router (Target σ)) {entries : List (Entry σ)}
    (h : ∀ e ∈ entries, e.method.isRoutable = true) :
    (∀ error, (r.addEntries entries).1 ≠ .error (.table error)) ∧
      (r.addEntries entries).2 <+: entries.map Entry.announcement ∧
      ∀ r', (r.addEntries entries).1 = .ok r' →
        (r.addEntries entries).2 = entries.map Entry.announcement := by
  induction entries generalizing r with
  | nil => exact ⟨nofun, List.prefix_rfl, fun _ _ => rfl⟩
  | cons e rest ih =>
      obtain ⟨he, hrest⟩ := List.forall_mem_cons.mp h
      unfold addEntries
      rw [if_neg (by simp [he])]
      cases hadd : r.add e.path e.method (.entry e) with
      | error refusal =>
          refine ⟨nofun, ?_, nofun⟩
          exact List.prefix_append [e.announcement] (rest.map Entry.announcement)
      | ok r' =>
          obtain ⟨htable, hprefix, hall⟩ := ih r' hrest
          refine ⟨htable, ?_, ?_⟩
          · exact (List.prefix_cons_inj e.announcement).mpr hprefix
          · intro r'' hr''
            exact congrArg (e.announcement :: ·) (hall r'' hr'')

/-- Plugins are announced in order, all of them unless a path is refused. -/
theorem Router.addPlugins_announces (r : Router (Target σ)) (plugins : List Plugin) :
    (∀ error, (r.addPlugins plugins).1 ≠ .error (.table error)) ∧
      (r.addPlugins plugins).2 <+: plugins.map Plugin.announcement ∧
      ∀ r', (r.addPlugins plugins).1 = .ok r' →
        (r.addPlugins plugins).2 = plugins.map Plugin.announcement := by
  induction plugins generalizing r with
  | nil => exact ⟨nofun, List.prefix_rfl, fun _ _ => rfl⟩
  | cons p rest ih =>
      unfold addPlugins
      cases hadd : r.addPages p.pages with
      | error refusal =>
          refine ⟨nofun, ?_, nofun⟩
          exact List.prefix_append [p.announcement] (rest.map Plugin.announcement)
      | ok r' =>
          obtain ⟨htable, hprefix, hall⟩ := ih r'
          refine ⟨htable, ?_, ?_⟩
          · exact (List.prefix_cons_inj p.announcement).mpr hprefix
          · intro r'' hr''
            exact congrArg (p.announcement :: ·) (hall r'' hr'')

/-- What a server announces while it is assembled: its entries, and then its plugins. -/
def Server.announcements (s : Server σ) : List Event :=
  s.entries.map Entry.announcement ++ s.plugins.map Plugin.announcement

theorem Server.router_announces {s : Server σ} (h : ∀ e ∈ s.entries, e.method.isRoutable = true) :
    (∀ error, s.router.1 ≠ .error (.table error)) ∧
      s.router.2 <+: s.announcements ∧
      ∀ r, s.router.1 = .ok r → s.router.2 = s.announcements := by
  obtain ⟨htable, hprefix, hall⟩ := Router.empty.addEntries_announces h
  unfold router announcements
  cases hentries : Router.empty.addEntries s.entries with
  | mk result events =>
      rw [hentries] at htable hprefix hall
      cases result with
      | error e => exact ⟨htable, hprefix.trans (List.prefix_append _ _), nofun⟩
      | ok r =>
          obtain ⟨htable', hprefix', hall'⟩ := r.addPlugins_announces s.plugins
          have hevents : events = s.entries.map Entry.announcement := hall r rfl
          refine ⟨htable', ?_, ?_⟩
          · rw [hevents]
            exact (List.prefix_append_right_inj _).mpr hprefix'
          · intro r' hr'
            rw [hevents]
            exact congrArg (_ ++ ·) (hall' r' hr')

end Assembling

namespace Server

open Route

variable {σ : Type}

/-- After any calls on a new server its table is the current one and passes the check. A
forest is taken if it is acceptable; any other is rejected, while it is compiled or in
the check, and changes nothing but the count of constructions. Assembling never ends in
an error of the table, and if it succeeds it has announced the entries of the table one
by one, and then the plugins. -/
theorem applyAll_keeps_last_accepted (config : Config) (calls : List (Setup σ)) :
    let s := (new config).applyAll calls
    Current config calls s.entries ∧
      Table.check (s.entries.map Entry.place) = .ok () ∧
      (∀ forest,
        (Acceptable forest ∧ ∃ entries, s.Takes forest entries ∧ (s.declare forest).error = none ∧
            (s.declare forest).server =
              { s.counting (s.declare forest).constructed with entries }) ∨
          (¬ Acceptable forest ∧ ∃ e, s.Rejects forest e ∧ (s.declare forest).error = some e ∧
            (s.declare forest).server = s.counting (s.declare forest).constructed)) ∧
      (∀ error, s.router.1 ≠ .error (.table error)) ∧
      s.router.2 <+: s.announcements ∧
      ∀ r, s.router.1 = .ok r → s.router.2 = s.announcements := by
  intro s
  have hcurrent := current_applyAll config calls
  refine ⟨hcurrent, hcurrent.check, s.declare_cases, ?_⟩
  apply router_announces
  intro e he
  have hservable := Table.check_eq_ok_iff.mp hcurrent.check
  exact hservable.routable e.place (List.mem_map_of_mem he)

/-- A leaf of its own. -/
def shelved : List (Route Unit) :=
  [.node (((Node.empty.withPath "shelves").withController archive).withHandler "list") []]

/-- A tree that is taken, one that fails after two constructions, and one with two
leaves at one place. -/
def rejectedTwice : List (Setup Unit) :=
  [.declare shelved, .declare lacking, .declare (shelved ++ shelved)]

theorem rejectedTwice_keeps_shelves :
    ∃ entries, ((new Config.default).applyAll rejectedTwice).entries = entries ∧
      entries.map Entry.place = [⟨.get, "/shelves"⟩] ∧
      ((new Config.default).applyAll rejectedTwice).next = 6 ∧
      Current Config.default rejectedTwice entries ∧
      ((new Config.default).applyAll rejectedTwice).router.2 <+: [.registered .get "/shelves"] := by
  obtain ⟨hcurrent, -, -, -, hprefix, -⟩ :=
    applyAll_keeps_last_accepted Config.default rejectedTwice
  exact ⟨_, rfl, rfl, rfl, hcurrent, hprefix⟩

end Server

end RouteTree
