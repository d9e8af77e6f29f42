import RouteTree.Proofs.MatchingOrder
import RouteTree.Proofs.PlainOctets
import RouteTree.Proofs.SegmentMatch

/-!
# No route is dead

The paths of a tree whose declared segments are words and named parameters write the
patterns of their segments, unless they have too many parameters. In an accepted table
parameters behind the same segments have one name. So a request made from the path of an
entry, with words for the parameters that are no segments of the table, comes to no path
that goes before that of the entry.
-/

namespace RouteTree

open Table Pattern

/-- Characters of the name of a parameter. -/
def isNameChar (c : Char) : Bool := c.isAlphanum || c == '_'

/-- A declared segment that is a word, or a colon and the name of a parameter. -/
def isPlainSegment (s : String) : Bool :=
  match s.toList with
  | ':' :: name => name.all isNameChar
  | cs => !cs.isEmpty && cs.all isWordChar

/-- The parameters of a path. -/
def parameters (path : String) : List String := (segments path).filterMap parameterName?

/-- Segments with values in place of the parameters, as far as there are values. -/
def fill : List String → List String → List String
  | [], _ => []
  | s :: segs, values =>
    match parameterName? s, values with
    | some _, value :: values => value :: fill segs values
    | _, values => s :: fill segs values

/-- The path of a request for values of the parameters of a path. -/
def filled (path : String) (values : List String) : String :=
  joinSegments (fill (segments path) values)

/-- Values for the parameters of a path: words that are no segments of other paths. -/
structure Fresh (paths : List String) (path : String) (values : List String) : Prop where
  length : values.length = (parameters path).length
  words : ∀ value ∈ values, IsWord value
  new : ∀ value ∈ values, ∀ other ∈ paths, value ∉ segments other

/-- All that nodes declare are plain segments. -/
def Route.Plainly {σ : Type} (forest : List (Route σ)) : Prop :=
  ∀ b ∈ forestBranches [] 0 forest, ∀ s ∈ b.node.path.elim [] segments, isPlainSegment s = true

instance {σ : Type} (forest : List (Route σ)) : Decidable (Route.Plainly forest) :=
  inferInstanceAs (Decidable (∀ b ∈ _, ∀ s ∈ _, isPlainSegment s = true))

section Segments

variable {s name : String} {segs values : List String}

theorem isNameChar_ne {c d : Char} (h : isNameChar c = true) (hd : isNameChar d = false) :
    d ≠ c := by
  rintro rfl
  cases h.symm.trans hd

theorem bracedSegment_of_colon {name : List Char} (h : s.toList = ':' :: name) :
    bracedSegment s = String.ofList ('{' :: name ++ ['}']) := by
  simp only [bracedSegment, h]

theorem bracedSegment_of_not_colon (h : ∀ name, s.toList ≠ ':' :: name) :
    bracedSegment s = s := by
  unfold bracedSegment
  split
  · next name hs => exact absurd hs (h name)
  · rfl

/-- A plain segment is shown as a word or a parameter, unless the name is missing. -/
theorem simple_bracedSegment (h : isPlainSegment s = true) (hne : bracedSegment s ≠ anyParameter) :
    Simple (bracedSegment s) := by
  unfold isPlainSegment at h
  split at h
  · next name hs =>
    rw [bracedSegment_of_colon hs] at hne ⊢
    have hnot {d : Char} (hd : isNameChar d = false) : d ∉ name := by
      intro hmem
      exact isNameChar_ne (List.all_eq_true.mp h d hmem) hd rfl
    have hname : PlainName (String.ofList name) := by
      refine ⟨?_, ⟨?_, ?_⟩, ?_⟩
      · rintro hempty
        apply hne
        rw [String.ofList_eq_empty_iff.mp hempty]
        rfl
      · simpa using hnot (by decide)
      · simpa using hnot (by decide)
      · simpa using hnot (by decide)
    exact .param (parameterName?_eq_some_iff.mpr (by simp)) hname
  · next hcolon =>
    rw [Bool.and_eq_true] at h
    rw [bracedSegment_of_not_colon hcolon]
    refine .word ⟨?_, List.all_eq_true.mp h.2⟩
    rintro rfl
    cases h.1

theorem IsWord.decodeText?_eq (h : IsWord s) : Percent.decodeText? s = some s := by
  apply Percent.decodeText?_of_isAscii
  · intro c hc
    have hchar := h.chars c hc
    rw [isWordChar, Bool.or_eq_true] at hchar
    rcases hchar with hplain | hmark
    · exact Utf8.toNat_lt_of_isAlphanum hplain
    · have hmarks : (['-', '_', '.', '~'].all fun d => d.toNat < 128) = true := by decide
      exact of_decide_eq_true (List.all_eq_true.mp hmarks c (List.contains_iff_mem.mp hmark))
  · exact h.notMem (by decide)

theorem isSegment_of_mem_fill (hsegs : ∀ s ∈ segs, IsSegment s)
    (hvalues : ∀ v ∈ values, IsSegment v) :
    ∀ part ∈ fill segs values, IsSegment part := by
  induction segs generalizing values with
  | nil => simp [fill]
  | cons s segs ih =>
      obtain ⟨hs, hrest⟩ := List.forall_mem_cons.mp hsegs
      unfold fill
      split
      · obtain ⟨hvalue, hvalues⟩ := List.forall_mem_cons.mp hvalues
        exact List.forall_mem_cons.mpr ⟨hvalue, ih hrest hvalues⟩
      · exact List.forall_mem_cons.mpr ⟨hs, ih hrest hvalues⟩

/-- Segments with values fit, and stand for the values. -/
theorem fits_fill (h : values.length = (segs.filterMap parameterName?).length) :
    Fits segs (fill segs values) ((segs.filterMap parameterName?).zip values) := by
  induction segs generalizing values with
  | nil => exact .nil
  | cons s segs ih =>
      cases hs : parameterName? s with
      | none =>
          rw [List.filterMap_cons_none hs] at h ⊢
          simp only [fill, hs]
          exact .word hs (ih h)
      | some name =>
          rw [List.filterMap_cons_some hs] at h ⊢
          cases values with
          | nil => cases h
          | cons value values =>
              simp only [fill, hs, List.zip_cons_cons]
              exact .param hs (ih (Nat.succ.inj h))

theorem paramCount_pieces (h : Simple s) :
    (pieces s).paramCount = (parameterName? s).toList.length := by
  cases h with
  | word hs =>
      have hunbraced := unbraced_of_isWord hs
      rw [pieces_of_unbraced hunbraced, parameterName?_of_unbraced hunbraced]
      simp [paramCount, List.countP_map, Function.comp_def]
  | param hs hname =>
      rw [pieces_of_param hs hname, hs]
      rfl

theorem paramCount_ofSegments (h : ∀ s ∈ segs, Simple s) :
    (ofSegments segs).paramCount = (segs.filterMap parameterName?).length := by
  have hall : (allPieces segs).paramCount = (segs.filterMap parameterName?).length := by
    induction segs with
    | nil => rfl
    | cons s segs ih =>
        obtain ⟨hs, hrest⟩ := List.forall_mem_cons.mp h
        have hcons : (allPieces (s :: segs)).paramCount =
            (pieces s).paramCount + (allPieces segs).paramCount := by
          rw [allPieces_cons]
          simp [paramCount]
        rw [hcons, paramCount_pieces hs, ih hrest]
        cases hname : parameterName? s with
        | none => simp [List.filterMap_cons_none hname]
        | some name => simp [List.filterMap_cons_some hname, Nat.add_comm]
  cases segs with
  | nil => rfl
  | cons s behind => exact hall

end Segments

/-- A table that can be served and whose paths are made of words and parameters. -/
structure SimpleTable (places : List Place) : Prop where
  servable : Table.Servable places
  normal : ∀ p ∈ places, joinSegments (segments p.path) = p.path
  simple : ∀ p ∈ places, ∀ s ∈ segments p.path, Simple s

namespace SimpleTable

variable {places : List Place}

theorem parse?_eq_some_iff (h : SimpleTable places) {p : Place} (hp : p ∈ places)
    {pattern : Pattern} : parse? p.path = some pattern ↔
      pattern = ofSegments (segments p.path) ∧ (parameters p.path).length ≤ maxParams := by
  have hcount := paramCount_ofSegments (h.simple p hp)
  rw [parse?_of_plain (plain_of_simple (h.simple p hp)) (h.normal p hp),
    Option.filter_eq_some_iff, Option.some.injEq]
  constructor
  · rintro ⟨rfl, hfew⟩
    exact ⟨rfl, hcount ▸ of_decide_eq_true hfew⟩
  · rintro ⟨rfl, hfew⟩
    exact ⟨rfl, decide_eq_true (hcount.symm ▸ hfew)⟩

/-- Too many parameters are the only reason not to tell the paths apart. -/
theorem distinguishable_iff (h : SimpleTable places) :
    Distinguishable (places.map Place.path) ↔
      ∀ p ∈ places, (parameters p.path).length ≤ maxParams := by
  constructor
  · rintro ⟨hwritten, -⟩ p hp
    obtain ⟨pattern, hpattern⟩ := hwritten p.path (List.mem_map_of_mem hp)
    exact ((h.parse?_eq_some_iff hp).mp hpattern).2
  · intro hfew
    apply Server.distinguishable_of_servable h.servable h.normal
    intro p hp
    refine ⟨plain_of_simple (h.simple p hp), ?_⟩
    rw [paramCount_ofSegments (h.simple p hp)]
    exact hfew p hp

/-- A request for fresh values of a path fits the path, which goes before all others
that it fits. -/
theorem takes_filled (h : SimpleTable places) {p : Place} (hp : p ∈ places) {values : List String}
    (hvalues : Fresh (places.map Place.path) p.path values) :
    let path := (filled p.path values).toList
    captures? (ofSegments (segments p.path)) path = some ((parameters p.path).zip values) ∧
      ∀ q ∈ places, (captures? (ofSegments (segments q.path)) path).isSome = true →
        q.path = p.path ∨
          goesBefore (ofSegments (segments p.path)) (ofSegments (segments q.path)) = true := by
  intro path
  have hsegs (text : String) : ∀ s ∈ segments text, IsSegment s :=
    fun _ => isSegment_of_mem_segments
  have hparts : ∀ part ∈ fill (segments p.path) values, IsSegment part :=
    isSegment_of_mem_fill (hsegs p.path) fun v hv => (hvalues.words v hv).isSegment
  have hfits : Fits (segments p.path) (fill (segments p.path) values)
      ((parameters p.path).zip values) := fits_fill hvalues.length
  refine ⟨(captures?_ofSegments_eq_some_iff (h.simple p hp) (hsegs p.path) hparts).mpr hfits, ?_⟩
  intro q hq htakes
  obtain ⟨found, hfound⟩ := Option.isSome_iff_exists.mp htakes
  have hfits' := (captures?_ofSegments_eq_some_iff (h.simple q hq) (hsegs q.path) hparts).mp hfound
  have hnew : ∀ c ∈ (parameters p.path).zip values, c.2 ∉ segments q.path := by
    intro c hc
    exact hvalues.new c.2 (List.of_mem_zip hc).2 q.path (List.mem_map_of_mem hq)
  rcases goesBefore_ofSegments_of_fits (h.simple p hp) (h.simple q hq)
    (Server.agree_of_servable h.servable hp hq) hfits hfits' hnew with heq | hbefore
  · exact Or.inl (by rw [← h.normal q hq, ← heq, h.normal p hp])
  · exact Or.inr hbefore

end SimpleTable

/-- A router sends a request to the target of a path that takes it and goes before all
others that do. -/
theorem Router.Holds.route_eq_target {α : Type} {r : Router α} {done : List (Place × α)}
    (h : r.Holds done) (hapart : Apart r.sites) (hdistinct : (done.map Prod.fst).Nodup) {p : Place}
    {target : α} (hp : (p, target) ∈ done) {path : String} {captured : List (String × String)}
    (htakes : ∀ pattern, parse? p.path = some pattern →
      pattern.captures? path.toList = some captured)
    (hfirst : ∀ other ∈ paths done, ∀ pattern pattern', parse? p.path = some pattern →
      parse? other = some pattern' → (pattern'.captures? path.toList).isSome = true →
        other = p.path ∨ pattern.goesBefore pattern' = true) :
    r.route p.method path = .target target captured := by
  obtain ⟨s, hs, hpath⟩ := (h.mem_paths_iff p.path).mp (List.mem_map_of_mem hp)
  have hwritten : parse? p.path = some s.pattern := hpath ▸ (h.sound s hs).written
  have hbest : Best r.sites path.toList s captured := by
    refine ⟨hs, htakes _ hwritten, ?_⟩
    intro t ht htakes'
    have hother : t.path ∈ paths done := (h.mem_paths_iff t.path).mpr ⟨t, ht, rfl⟩
    have hwritten' := (h.sound t ht).written
    rcases hfirst t.path hother _ _ hwritten hwritten' htakes' with heq | hbefore
    · rw [heq, hwritten] at hwritten'
      exact Or.inl (hapart.eq_of_pattern_eq ht hs (Option.some.inj hwritten').symm)
    · exact Or.inr hbefore
  have hown : s.own? p.method = some target := by
    rw [h.own?_eq_some_iff hapart hdistinct hs, hpath]
    exact hp
  simp only [route, (site?_eq_some_iff hapart).mpr hbest, Site.target?, hown]

namespace Server

open Route

variable {σ : Type} {s : Server σ}

/-- The table of an accepted tree has the places of its leaves. -/
theorem places_of_accepted {forest : List (Route σ)} (haccepted : (s.declare forest).error = none) :
    (s.declare forest).server.entries.map Entry.place = places Context.root forest ∧
      Table.Servable (places Context.root forest) := by
  obtain ⟨entries, htakes, hserver⟩ := exists_takes_of_accepted haccepted
  have hentries : (s.declare forest).server.entries = entries := congrArg Server.entries hserver
  have hservable := Table.check_eq_ok_iff.mp htakes.2
  rw [hentries]
  rw [map_place_of_ok htakes.1] at hservable ⊢
  exact ⟨rfl, hservable⟩

/-- An accepted plain tree has a simple table. -/
theorem simpleTable_of_accepted {forest : List (Route σ)} (hplain : Plainly forest)
    (haccepted : (s.declare forest).error = none) :
    SimpleTable ((s.declare forest).server.entries.map Entry.place) := by
  obtain ⟨hplaces, hservable⟩ := places_of_accepted haccepted
  rw [hplaces]
  refine ⟨hservable, fun p => joinSegments_segments_of_mem_places, ?_⟩
  intro p hp t ht
  have hne := hservable.named p hp
  obtain ⟨b, hb, rfl⟩ := List.mem_map.mp hp
  have hsegments : RouteTree.segments (b.path Context.root) = b.segments :=
    segments_joinSegments fun s => isSegment_of_mem_branch
  simp only [hsegments] at ht hne
  obtain ⟨spot, hspot, hmem⟩ := List.mem_flatMap.mp ht
  obtain ⟨declared, hdeclared, rfl⟩ := List.mem_map.mp hmem
  rcases exists_branch_of_mem_chain (mem_forestBranches_of_mem_leaves hb) hspot with
    habove | ⟨tip, htip, rfl⟩
  · cases habove
  · apply simple_bracedSegment (hplain tip htip declared hdeclared)
    exact fun heq => hne (heq ▸ ht)

theorem plugins_of_accepted (hplugins : s.plugins = []) {forest : List (Route σ)}
    (haccepted : (s.declare forest).error = none) : (s.declare forest).server.plugins = [] := by
  obtain ⟨entries, -, hserver⟩ := exists_takes_of_accepted haccepted
  exact (congrArg Server.plugins hserver).trans hplugins

theorem exists_app_iff : (∃ app, s.assemble.1 = .ok app) ↔ ∃ r, s.router.1 = .ok r := by
  constructor
  · rintro ⟨app, happ⟩
    exact ⟨app.router, (exists_router_of_assemble happ).1⟩
  · rintro ⟨r, hr⟩
    exact ⟨_, congrArg (Except.map _) hr⟩

theorem map_path_entries (entries : List (Entry σ)) :
    entries.map Entry.path = (entries.map Entry.place).map Place.path := by
  rw [List.map_map]
  rfl

/-- The router of a simple table sends a request for fresh values of an entry to this
entry. -/
theorem route_filled (hplugins : s.plugins = []) (htable : SimpleTable (s.entries.map Entry.place))
    {r : Router (Target σ)} (hr : s.router.1 = .ok r) {e : Entry σ} (he : e ∈ s.entries)
    {values : List String} (hvalues : Fresh (s.entries.map Entry.path) e.path values) :
    r.route e.method (filled e.path values) =
      .target (.entry e) ((parameters e.path).zip values) := by
  obtain ⟨hholds, hapart⟩ := router_holds hplugins hr
  have hplace : e.place ∈ s.entries.map Entry.place := List.mem_map_of_mem he
  have hslot : (e.place, Target.entry e) ∈ s.entries.map Entry.slot :=
    List.mem_map.mpr ⟨e, he, rfl⟩
  have hdistinct : ((s.entries.map Entry.slot).map Prod.fst).Nodup := by
    rw [Router.map_fst_map_slot]
    exact htable.servable.distinct
  rw [map_path_entries] at hvalues
  obtain ⟨htakes, hfirst⟩ := htable.takes_filled hplace hvalues
  apply hholds.route_eq_target hapart hdistinct hslot
  · intro pattern hpattern
    obtain ⟨rfl, -⟩ := (htable.parse?_eq_some_iff hplace).mp hpattern
    exact htakes
  · intro other hother pattern pattern' hpattern hpattern' htaken
    rw [Router.paths_map_slot, map_path_entries] at hother
    obtain ⟨q, hq, rfl⟩ := List.mem_map.mp hother
    obtain ⟨rfl, -⟩ := (htable.parse?_eq_some_iff hplace).mp hpattern
    obtain ⟨rfl, -⟩ := (htable.parse?_eq_some_iff hq).mp hpattern'
    exact hfirst q hq htaken

/-- A server that has accepted a plain tree can be assembled exactly if no path has too
many parameters. -/
theorem exists_app_iff_of_accepted (hplugins : s.plugins = []) {forest : List (Route σ)}
    (hplain : Plainly forest) (haccepted : (s.declare forest).error = none) :
    (∃ app, (s.declare forest).server.assemble.1 = .ok app) ↔
      ∀ e ∈ (s.declare forest).server.entries, (parameters e.path).length ≤ maxParams := by
  have htable := simpleTable_of_accepted hplain haccepted
  rw [exists_app_iff, exists_router_iff (plugins_of_accepted hplugins haccepted) htable.servable,
    map_path_entries, htable.distinguishable_iff, List.forall_mem_map]
  rfl

/-- A server without plugins that has accepted a plain tree can be assembled exactly if
no path has too many parameters. No route is then dead: a request for an entry, with
words for the parameters of its path that are no segments of the table, goes to this
entry with these words as the values of its parameters. -/
theorem entries_live (hplugins : s.plugins = []) {forest : List (Route σ)}
    (hplain : Plainly forest) (haccepted : (s.declare forest).error = none) :
    let accepting := (s.declare forest).server
    ((∃ app, accepting.assemble.1 = .ok app) ↔
        ∀ e ∈ accepting.entries, (parameters e.path).length ≤ maxParams) ∧
      ∀ app, accepting.assemble.1 = .ok app → ∀ e ∈ accepting.entries, ∀ values,
        Fresh (accepting.entries.map Entry.path) e.path values →
          let captured := (parameters e.path).zip values
          app.router.route e.method (filled e.path values) = .target (.entry e) captured ∧
            ((parameters e.path).Nodup →
              ∃ params : SortedMap String String,
                (∀ name value, params.get? name = some value ↔ (name, value) ∈ captured) ∧
                  ∀ (call : Call) (states : States σ), call.method = e.method →
                    call.uri.path = filled e.path values →
                      app.deliver call states (app.router.route call.method call.uri.path) =
                        e.answer params call app.maxBody (some app.milliseconds) states) := by
  intro accepting
  refine ⟨exists_app_iff_of_accepted hplugins hplain haccepted, ?_⟩
  · intro app happ e he values hvalues captured
    obtain ⟨hr, -, -⟩ := exists_router_of_assemble happ
    have hroute : app.router.route e.method (filled e.path values) =
        .target (.entry e) captured :=
      route_filled (plugins_of_accepted hplugins haccepted)
        (simpleTable_of_accepted hplain haccepted) hr he hvalues
    refine ⟨hroute, ?_⟩
    intro hnodup
    have hkeys : (captured.map Prod.fst).Nodup := by
      rwa [List.map_fst_zip (Nat.le_of_eq hvalues.length.symm)]
    have hdecoded : Router.decodeCaptured captured = .ok (SortedMap.ofList captured) := by
      apply Router.decodeCaptured_of_forall
      intro c hc
      exact (hvalues.words c.2 (List.of_mem_zip hc).2).decodeText?_eq
    refine ⟨SortedMap.ofList captured, fun _ _ => SortedMap.get?_ofList_eq_some_iff hkeys, ?_⟩
    intro call states hmethod hpath
    rw [hmethod, hpath, hroute, Application.deliver, hdecoded]

/-- Two leaves that have a word where the other has a parameter, and one that has
parameters at both places. -/
def crossing : List (Route Unit) :=
  [listed "shelves/:shelf/books/:book", listed "shelves/top/books/:book",
    listed "shelves/:shelf/books/latest"]

theorem places_crossing : places Context.root crossing =
    [⟨.get, "/shelves/\x7bshelf\x7d/books/\x7bbook\x7d"⟩,
      ⟨.get, "/shelves/top/books/\x7bbook\x7d"⟩,
      ⟨.get, "/shelves/\x7bshelf\x7d/books/latest"⟩] := by
  decide +kernel

theorem crossing_live :
    let accepting := ((new Config.default).declare crossing).server
    ∃ app, accepting.assemble.1 = .ok app ∧ ∃ e ∈ accepting.entries,
      e.path = "/shelves/\x7bshelf\x7d/books/\x7bbook\x7d" ∧
        app.router.route .get "/shelves/7/books/dune" =
          .target (.entry e) [("shelf", "7"), ("book", "dune")] := by
  intro accepting
  have hplain : Plainly crossing := by decide +kernel
  have haccepted : ((new Config.default).declare crossing).error = none := by decide +kernel
  obtain ⟨hok, hlive⟩ := entries_live rfl hplain haccepted
  have hplaces := (places_of_accepted haccepted).1.trans places_crossing
  have hfew : ∀ e ∈ accepting.entries, (parameters e.path).length ≤ maxParams := by
    have hall : ∀ p ∈ accepting.entries.map Entry.place,
        (parameters p.path).length ≤ maxParams := by
      rw [hplaces]
      decide
    exact List.forall_mem_map.mp hall
  obtain ⟨app, happ⟩ := hok.mpr hfew
  have hplace : ⟨.get, "/shelves/\x7bshelf\x7d/books/\x7bbook\x7d"⟩ ∈
      accepting.entries.map Entry.place := by
    rw [hplaces]
    exact List.mem_cons_self
  obtain ⟨e, he, heq⟩ := List.mem_map.mp hplace
  obtain ⟨hmethod, hpath⟩ := (Place.mk.injEq ..).mp heq
  have hvalues : Fresh (accepting.entries.map Entry.path) e.path ["7", "dune"] := by
    rw [map_path_entries, hplaces, hpath]
    refine ⟨by decide, ?_, by decide⟩
    intro value hvalue
    have hcases : value = "7" ∨ value = "dune" := by simpa using hvalue
    rcases hcases with rfl | rfl
    · exact ⟨by decide, List.all_eq_true.mp (by decide)⟩
    · exact ⟨by decide, List.all_eq_true.mp (by decide)⟩
  obtain ⟨hroute, -⟩ := hlive app happ e he _ hvalues
  rw [hmethod, hpath] at hroute
  exact ⟨app, happ, e, he, hpath, hroute⟩

/-- A leaf with a parameter for each letter of the alphabet. -/
def crowded : List (Route Unit) :=
  [listed ":a/:b/:c/:d/:e/:f/:g/:h/:i/:j/:k/:l/:m/:n/:o/:p/:q/:r/:s/:t/:u/:v/:w/:x/:y/:z"]

theorem exists_places_crowded : ∃ p, places Context.root crowded = [p] ∧ p.method = .get ∧
    anyParameter ∉ RouteTree.segments p.path ∧ maxParams < (parameters p.path).length := by
  refine ⟨_, rfl, rfl, ?_⟩
  decide +kernel

/-- A plain tree with one parameter too many is accepted, but it cannot be assembled. -/
theorem crowded_not_assembled :
    Plainly crowded ∧ ((new Config.default).declare crowded).error = none ∧
      ((new Config.default).declare crowded).server.plugins = [] ∧
      ¬ ∃ app, ((new Config.default).declare crowded).server.assemble.1 = .ok app := by
  have hplain : Plainly crowded := by decide +kernel
  obtain ⟨p, hp, hmethod, hnamed, hmany⟩ := exists_places_crowded
  have hcompiled : ∃ entries, (compileForest Context.root 1 crowded).result = .ok entries :=
    ⟨_, rfl⟩
  have hacceptable : Acceptable crowded := by
    refine ⟨exists_ok_iff.mp hcompiled, ?_⟩
    rw [hp]
    exact Table.servable_singleton (hmethod ▸ rfl) hnamed
  have haccepted : ((new Config.default).declare crowded).error = none := by
    rcases (new Config.default).declare_cases crowded with ⟨-, _, -, hnone, -⟩ | ⟨hnot, -⟩
    · exact hnone
    · exact absurd hacceptable hnot
  refine ⟨hplain, haccepted, plugins_of_accepted rfl haccepted, ?_⟩
  rw [exists_app_iff_of_accepted rfl hplain haccepted]
  intro hfew
  have hplace : p ∈ ((new Config.default).declare crowded).server.entries.map Entry.place := by
    rw [(places_of_accepted haccepted).1, hp]
    exact List.mem_cons_self
  obtain ⟨e, he, rfl⟩ := List.mem_map.mp hplace
  exact absurd (hfew e he) (Nat.not_le_of_lt hmany)

end Server

end RouteTree
