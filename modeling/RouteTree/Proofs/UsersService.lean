import Mathlib.Data.List.TakeWhile
import RouteTree.Demo.Service
import RouteTree.Proofs.SegmentMatch

/-!
# The users service as it is assembled

The routes of the users service compile to four entries that share one register of
users. Together with the page about health they make a router of three sites, and a path
is that of at most one of them.
-/

namespace RouteTree.Demo

open Pattern

/-- The instance whose state is the register of users. -/
def register : Instance Users := ⟨1, controller⟩

/-- The rule for the ids in paths. -/
def idRule : Schema := SortedMap.empty.insert "id" .integer

/-- An entry of the service. -/
def entryAt (method : Method) (path : String) (schema : Schema) (name : String)
    (handler : Handler Users) (guards : List Guard) : Entry Users :=
  ⟨method, path, schema, SortedMap.empty, SortedMap.empty, register, name, guards.length,
    ⟨method, path, guards, handler⟩⟩

def listEntry : Entry Users := entryAt .get "/users" SortedMap.empty "list" list []

def createEntry : Entry Users :=
  entryAt .post "/users" SortedMap.empty "create" create [requireBearer]

def getEntry : Entry Users := entryAt .get "/users/\x7bid\x7d" idRule "get" get []

def removeEntry : Entry Users :=
  entryAt .delete "/users/\x7bid\x7d" idRule "remove" remove [requireBearer]

/-- The site of all users. -/
def usersSite : Site (Target Users) :=
  ⟨"/users", "/users".toList.map .char, [(.get, .entry listEntry), (.post, .entry createEntry)]⟩

/-- The site of a user. -/
def userSite : Site (Target Users) :=
  ⟨"/users/\x7bid\x7d", "/users/".toList.map .char ++ [.param "id"],
    [(.get, .entry getEntry), (.delete, .entry removeEntry)]⟩

/-- The page that tells that the service is up. -/
def healthPage : Response := (Reply.json (Json.ofMembers [("status", .string "ok")])).toResponse

def healthSite : Site (Target Users) :=
  ⟨"/health", "/health".toList.map .char, [(.get, .page healthPage)]⟩

/-- The service as it is started. -/
def service (config : Config) : Application Users :=
  ⟨⟨[usersSite, userSite, healthSite]⟩, config.limits.maxBodyBytes,
    1000 * config.timeouts.requestSecs⟩

/-- The routes compile to the four entries. -/
theorem compile_routes : (Route.compileForest Context.root 1 routes).result =
    .ok [listEntry, createEntry, getEntry, removeEntry] := rfl

/-- The entries are a table that can be served. -/
theorem check_entries : Table.check
    ([listEntry, createEntry, getEntry, removeEntry].map Entry.place) = .ok () := by
  decide +kernel

theorem server_eq (config : Config) :
    server config = ⟨config, [listEntry, createEntry, getEntry, removeEntry], [], 2⟩ := by
  have hnext : (Server.new config : Server Users).next = 1 := rfl
  rw [server, Server.declare]
  simp only [hnext, compile_routes, check_entries]
  rfl

/-- The routes and the page are assembled to the service. -/
theorem assemble_eq (config : Config) :
    ((server config).register [health]).assemble.1 = .ok (service config) := by
  rw [server_eq]
  rfl

section Sites

variable {path : String} {captured : List (String × String)} {config : Config}

theorem chars_captures?_iff {text : String} :
    captures? (text.toList.map .char) path.toList = some captured ↔
      path = text ∧ captured = [] := by
  have h : captures? (text.toList.map .char ++ []) path.toList = some captured ↔
      ∃ behind, path.toList = text.toList ++ behind ∧ captures? [] behind = some captured :=
    captures?_chars_eq_some_iff
  rw [List.append_nil] at h
  rw [h]
  constructor
  · rintro ⟨behind, hpath, hnil⟩
    cases behind with
    | nil =>
        rw [List.append_nil] at hpath
        exact ⟨String.toList_inj.mp hpath, (Option.some.inj hnil).symm⟩
    | cons c behind => cases hnil
  · rintro ⟨rfl, rfl⟩
    exact ⟨[], (List.append_nil _).symm, rfl⟩

theorem userSite_captures?_iff :
    userSite.pattern.captures? path.toList = some captured ↔
      ∃ text, IsSegment text ∧ path = "/users/" ++ text ∧ captured = [("id", text)] := by
  have hend : captures? [] [] = some [] := rfl
  rw [userSite, captures?_chars_eq_some_iff]
  constructor
  · rintro ⟨behind, hpath, htakes⟩
    obtain ⟨hne, rest, hrest, rfl⟩ := captures?_param_eq_some_iff.mp htakes
    have hall : behind.dropWhile (· ≠ '/') = [] := by
      cases hbehind : behind.dropWhile (· ≠ '/') with
      | nil => rfl
      | cons c cs => cases hbehind ▸ hrest
    rw [hall, hend] at hrest
    obtain rfl := Option.some.inj hrest
    rw [List.dropWhile_eq_nil_iff] at hall
    rw [List.takeWhile_eq_self_iff.mpr hall]
    refine ⟨String.ofList behind, ⟨by simpa using hne, ?_⟩, ?_, rfl⟩
    · rw [String.toList_ofList]
      intro hmem
      exact absurd (hall '/' hmem) (by decide)
    · apply String.toList_inj.mp
      simpa using hpath
  · rintro ⟨text, ⟨hne, hslash⟩, rfl, rfl⟩
    have hall : ∀ c ∈ text.toList, decide (c ≠ '/') = true := by
      intro c hc
      exact decide_eq_true (ne_of_mem_of_not_mem hc hslash)
    refine ⟨text.toList, by simp, captures?_param_eq_some_iff.mpr ⟨by simpa using hne, [], ?_, ?_⟩⟩
    · rw [List.dropWhile_eq_nil_iff.mpr hall]
      rfl
    · rw [List.takeWhile_eq_self_iff.mpr hall, String.ofList_toList]

/-- Where a path leads: to all users, to the user that its last segment names, or to the
page. -/
inductive Leads (path : String) : Site (Target Users) → List (String × String) → Prop
  | users (h : path = "/users") : Leads path usersSite []
  | user {text : String} (htext : IsSegment text) (h : path = "/users/" ++ text) :
      Leads path userSite [("id", text)]
  | health (h : path = "/health") : Leads path healthSite []

theorem leads_iff {s : Site (Target Users)} (hs : s ∈ (service config).router.sites) :
    s.pattern.captures? path.toList = some captured ↔ Leads path s captured := by
  have hcases : s = usersSite ∨ s = userSite ∨ s = healthSite := by simpa [service] using hs
  constructor
  · intro h
    rcases hcases with rfl | rfl | rfl
    · obtain ⟨hpath, rfl⟩ := chars_captures?_iff.mp h
      exact .users hpath
    · obtain ⟨text, htext, hpath, rfl⟩ := userSite_captures?_iff.mp h
      exact .user htext hpath
    · obtain ⟨hpath, rfl⟩ := chars_captures?_iff.mp h
      exact .health hpath
  · intro h
    cases h with
    | users hpath => exact chars_captures?_iff.mpr ⟨hpath, rfl⟩
    | user htext hpath => exact userSite_captures?_iff.mpr ⟨_, htext, hpath, rfl⟩
    | health hpath => exact chars_captures?_iff.mpr ⟨hpath, rfl⟩

/-- A path leads to one site only. -/
theorem Leads.unique {s t : Site (Target Users)} {captured captured' : List (String × String)}
    (h : Leads path s captured) (h' : Leads path t captured') : s = t := by
  have hlong (text : String) : path = "/users/" ++ text →
      path.toList.take 7 = "/users/".toList := by
    rintro rfl
    simp
  have husers : "/users".toList.take 7 ≠ "/users/".toList := by decide
  have hhealth : "/health".toList.take 7 ≠ "/users/".toList := by decide
  cases h with
  | users hpath =>
      subst hpath
      cases h' with
      | users _ => rfl
      | user _ hpath' => exact absurd (hlong _ hpath') husers
      | health hpath' => exact absurd hpath' (by decide)
  | user _ hpath =>
      cases h' with
      | users hpath' =>
          subst hpath'
          exact absurd (hlong _ hpath) husers
      | user _ _ => rfl
      | health hpath' =>
          subst hpath'
          exact absurd (hlong _ hpath) hhealth
  | health hpath =>
      subst hpath
      cases h' with
      | users hpath' => exact absurd hpath' (by decide)
      | user _ hpath' => exact absurd (hlong _ hpath') hhealth
      | health _ => rfl

theorem apart_sites (config : Config) : Apart (service config).router.sites := by
  have happart : Apart [usersSite, userSite, healthSite] := by
    unfold Apart
    decide +kernel
  exact happart

/-- The router of the service finds the site that a path leads to. -/
theorem site?_eq_some_iff_leads {s : Site (Target Users)} :
    (service config).router.site? path = some (s, captured) ↔ Leads path s captured := by
  rw [Router.site?_eq_some_iff (apart_sites config)]
  constructor
  · intro hbest
    exact (leads_iff hbest.mem).mp hbest.takes
  · intro h
    have hs : s ∈ (service config).router.sites := by
      cases h with
      | users _ => simp [service]
      | user _ _ => simp [service]
      | health _ => simp [service]
    refine ⟨hs, (leads_iff hs).mpr h, ?_⟩
    intro t ht htakes
    obtain ⟨captured', htakes'⟩ := Option.isSome_iff_exists.mp htakes
    exact Or.inl (((leads_iff ht).mp htakes').unique h)

theorem route_of_leads (config : Config) {s : Site (Target Users)} (h : Leads path s captured)
    (method : Method) :
    (service config).router.route method path =
      match s.target? method with
      | some target => .target target captured
      | none => .wrongMethod s.served := by
  simp only [Router.route, site?_eq_some_iff_leads.mpr h]
  cases s.target? method <;> rfl

/-- A site with targets for GET and one other method, which serves HEAD like GET. -/
theorem target?_of_targets {s : Site (Target Users)} {first second : Target Users}
    {other : Method} (htargets : s.targets = [(.get, first), (other, second)])
    (hother : other ≠ .head) (method : Method) :
    s.target? method = if method = .get ∨ method = .head then some first
      else if method = other then some second else none := by
  have hown (method : Method) : s.own? method = if method = .get then some first
      else if method = other then some second else none := by
    unfold Site.own?
    rw [htargets]
    by_cases hget : method = .get
    · simp [hget]
    · by_cases hsecond : method = other
      · subst hsecond
        simp [hget, Ne.symm hget]
      · simp [hget, hsecond, Ne.symm hget, Ne.symm hsecond]
  have hgethead : Method.head ≠ .get := by decide
  unfold Site.target?
  rw [hown, hown]
  by_cases hget : method = .get
  · simp [hget]
  · by_cases hhead : method = .head
    · simp [hhead, hgethead, Ne.symm hother]
    · by_cases hsecond : method = other
      · subst hsecond
        simp [hget, hhead]
      · simp [hget, hhead, hsecond]

end Sites

end RouteTree.Demo
