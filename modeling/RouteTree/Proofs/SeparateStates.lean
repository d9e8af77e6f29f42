import RouteTree.Proofs.InstanceIdentity
import RouteTree.Proofs.RecordedReply

/-!
# The states of instances

A visit to an entry reads and changes the state of one instance, that of the entry's
controller. What visits do to an instance can therefore be told from the visits to its
own entries alone. If the handlers under one declaring node count the requests of their
controller, the counts that they return are consecutive, whatever visits come in
between.
-/

namespace RouteTree

namespace Pipeline

variable {σ : Type}

/-- Guards have no access to the controller's state: the handler finds it as the request
found it. -/
theorem own_of_mem_invocationsFrom {handler : Handler σ} {request : Request} {guards : List Guard}
    {own : σ} {scene : Scene} {i : Invocation σ}
    (hi : i ∈ invocationsFrom handler request guards own scene) :
    (∃ guard, i.party = .guard guard ∧ i.left.own = own) ∨
      i.party = .handler handler ∧
        i.left.own = ((handler request).run own i.entered).own := by
  induction guards generalizing scene with
  | nil =>
      obtain rfl := List.mem_singleton.mp hi
      exact Or.inr ⟨rfl, rfl⟩
  | cons guard guards ih =>
      simp only [invocationsFrom] at hi
      split at hi
      · obtain rfl := List.mem_singleton.mp hi
        exact Or.inl ⟨guard, rfl, rfl⟩
      · rcases List.mem_cons.mp hi with rfl | hrest
        · exact Or.inl ⟨guard, rfl, rfl⟩
        · exact ih hrest

@[simp]
theorem conclude_own (p : Pipeline σ) (last : Invocation σ) :
    (p.conclude last).own = last.left.own := by
  unfold conclude
  cases last.left.result with
  | error stop => cases stop <;> rfl
  | ok value => cases value <;> rfl

end Pipeline

/-- A request that the entry of a leaf serves, and the scene in which it does. -/
structure Visit (σ : Type) where
  leaf : Branch σ
  entry : Entry σ
  request : Request
  scene : Scene

namespace Visit

variable {σ : Type}

/-- The instance that the entry has for its controller. -/
def host (v : Visit σ) : Instance σ := v.entry.controller

/-- What serving gives: whether time sufficed, the states, and the scene. -/
def serve (v : Visit σ) (states : States σ) : Bool × States σ × Scene :=
  v.entry.serve v.request states v.scene

/-- The states that a visit leaves. -/
def after (v : Visit σ) (states : States σ) : States σ := (v.serve states).2.1

/-- The last invocation of a visit. -/
def last (v : Visit σ) (states : States σ) : Invocation σ :=
  v.entry.pipeline.lastInvocation v.request (v.host.stateIn states) v.scene

/-- What the handler returns, if it is invoked. -/
def returned? (v : Visit σ) (states : States σ) : Option (Except Stop Datum) :=
  match (v.last states).party with
  | .guard _ => none
  | .handler answer =>
    some ((answer v.request).run (v.host.stateIn states) (v.last states).entered).result

/-- The states that visits leave, one after another. -/
def statesAfter (states : States σ) (visits : List (Visit σ)) : States σ :=
  visits.foldl (fun states v => v.after states) states

/-- The visits that change the count of their instance, in order, with what their
handlers return. -/
def increments (hits : σ → Nat) : States σ → List (Visit σ) →
    List (Visit σ × Option (Except Stop Datum))
  | _, [] => []
  | states, v :: rest =>
    let behind := increments hits (v.after states) rest
    if hits (v.host.stateIn (v.after states)) = hits (v.host.stateIn states) then behind
    else (v, v.returned? states) :: behind

/-- Whether the leaf of a visit has its nearest declaring node in common with a
branch. -/
def isUnder (b : Branch σ) (v : Visit σ) : Bool :=
  v.leaf.nearest.map Spot.position == b.nearest.map Spot.position

/-- A visit reads and changes the state of one instance only. -/
structure ActsOn (v : Visit σ) (c : Instance σ) : Prop where
  others : ∀ states (i : Instance σ), i.number ≠ c.number →
    i.stateIn (v.after states) = i.stateIn states
  reads : ∀ states states', c.stateIn states' = c.stateIn states →
    (v.serve states').1 = (v.serve states).1 ∧ (v.serve states').2.2 = (v.serve states).2.2 ∧
      c.stateIn (v.after states') = c.stateIn (v.after states)

@[simp]
theorem stateIn_after_host (v : Visit σ) (states : States σ) :
    v.host.stateIn (v.after states) = (v.last states).left.own := by
  have hafter : v.after states = states.insert v.host.number
      (v.entry.pipeline.serve v.request (v.host.stateIn states) v.scene).own := rfl
  rw [hafter, Instance.stateIn_insert_self, Pipeline.serve_eq_conclude, Pipeline.conclude_own]
  rfl

theorem actsOn_host (v : Visit σ) : v.ActsOn v.host := by
  constructor
  · intro states i hi
    exact Instance.stateIn_insert_of_ne hi states _
  · intro states states' h
    have hserve : v.entry.pipeline.serve v.request (v.host.stateIn states') v.scene =
        v.entry.pipeline.serve v.request (v.host.stateIn states) v.scene := by
      rw [h]
    refine ⟨congrArg Service.completed hserve, congrArg Service.scene hserve, ?_⟩
    rw [stateIn_after_host, stateIn_after_host, last, last, h]

end Visit

/-- A handler adds one to a count and returns the new count, or leaves the count as it
is. -/
def Tallies {σ : Type} (hits : σ → Nat) (handler : Handler σ) : Prop :=
  ∀ request own scene,
    hits ((handler request).run own scene).own = hits own ∨
      hits ((handler request).run own scene).own = hits own + 1 ∧
        ((handler request).run own scene).result = .ok (.integer (hits own + 1 : Nat))

/-- The answers of handlers that count on, where `first` is the first of the counts. -/
def answersFrom (first length : Nat) : List (Option (Except Stop Datum)) :=
  (List.range' first length).map fun k : Nat => some (.ok (.integer k))

theorem answersFrom_succ (first length : Nat) :
    answersFrom first (length + 1) =
      some (.ok (.integer first)) :: answersFrom (first + 1) length := by
  rw [answersFrom, List.range'_succ]
  rfl

namespace Visit

variable {σ : Type} {hits : σ → Nat}

/-- One visit to a counting handler. -/
theorem tally_after (v : Visit σ) (h : Tallies hits v.entry.handler) (states : States σ) :
    hits (v.host.stateIn (v.after states)) = hits (v.host.stateIn states) ∨
      hits (v.host.stateIn (v.after states)) = hits (v.host.stateIn states) + 1 ∧
        v.returned? states = some (.ok (.integer (hits (v.host.stateIn states) + 1 : Nat))) := by
  rw [stateIn_after_host]
  have hlast : v.last states ∈
      v.entry.pipeline.invocations v.request (v.host.stateIn states) v.scene := List.getLast_mem _
  rcases Pipeline.own_of_mem_invocationsFrom hlast with ⟨guard, -, hown⟩ | ⟨hparty, hown⟩
  · exact Or.inl (congrArg hits hown)
  · rw [hown]
    refine (h v.request (v.host.stateIn states) (v.last states).entered).imp id ?_
    rintro ⟨hcount, hresult⟩
    refine ⟨hcount, ?_⟩
    simp only [returned?, hparty]
    exact congrArg some hresult

section Run

variable {c : Instance σ} {own : Visit σ → Bool}

/-- What visits do to an instance does not depend on the visits to other instances. -/
theorem stateIn_statesAfter_filter {visits : List (Visit σ)}
    (hown : ∀ v ∈ visits, own v = true → v.host = c)
    (hother : ∀ v ∈ visits, own v = false → c.number ≠ v.host.number) {states states' : States σ}
    (h : c.stateIn states' = c.stateIn states) :
    c.stateIn (statesAfter states' (visits.filter own)) =
      c.stateIn (statesAfter states visits) := by
  induction visits generalizing states states' with
  | nil => exact h
  | cons v rest ih =>
      obtain ⟨hvown, hrestown⟩ := List.forall_mem_cons.mp hown
      obtain ⟨hvother, hrestother⟩ := List.forall_mem_cons.mp hother
      cases hv : own v with
      | true =>
          rw [List.filter_cons_of_pos hv]
          obtain rfl := hvown hv
          exact ih hrestown hrestother (v.actsOn_host.reads states states' h).2.2
      | false =>
          rw [List.filter_cons_of_neg (by simp [hv])]
          apply ih hrestown hrestother
          exact h.trans (v.actsOn_host.others states c (hvother hv)).symm

/-- The counts that are returned at one instance are consecutive, and the last of them
is left. -/
theorem returned_increments {visits : List (Visit σ)}
    (htallies : ∀ v ∈ visits, own v = true → Tallies hits v.entry.handler)
    (hown : ∀ v ∈ visits, own v = true → v.host = c)
    (hother : ∀ v ∈ visits, own v = false → c.number ≠ v.host.number) (states : States σ) :
    let performed := (increments hits states visits).filter fun i => own i.1
    performed.map Prod.snd = answersFrom (hits (c.stateIn states) + 1) performed.length ∧
      hits (c.stateIn (statesAfter states visits)) =
        hits (c.stateIn states) + performed.length := by
  induction visits generalizing states with
  | nil => exact ⟨rfl, rfl⟩
  | cons v rest ih =>
      obtain ⟨hvtallies, hresttallies⟩ := List.forall_mem_cons.mp htallies
      obtain ⟨hvown, hrestown⟩ := List.forall_mem_cons.mp hown
      obtain ⟨hvother, hrestother⟩ := List.forall_mem_cons.mp hother
      obtain ⟨hbehind, hleft⟩ := ih hresttallies hrestown hrestother (v.after states)
      have hafter : statesAfter states (v :: rest) = statesAfter (v.after states) rest := rfl
      rw [hafter]
      cases hv : own v with
      | false =>
          rw [v.actsOn_host.others states c (hvother hv)] at hbehind hleft
          have hskip : (increments hits states (v :: rest)).filter (fun i => own i.1) =
              (increments hits (v.after states) rest).filter fun i => own i.1 := by
            simp only [increments]
            split
            · rfl
            · rw [List.filter_cons_of_neg (by simp [hv])]
          rw [hskip]
          exact ⟨hbehind, hleft⟩
      | true =>
          obtain rfl := hvown hv
          rcases v.tally_after (hvtallies hv) states with hsame | ⟨hmore, hreturned⟩
          · have hskip : increments hits states (v :: rest) =
                increments hits (v.after states) rest := by
              simp only [increments, hsame, if_true]
            rw [hskip]
            rw [hsame] at hbehind hleft
            exact ⟨hbehind, hleft⟩
          · have hstep : increments hits states (v :: rest) =
                (v, v.returned? states) :: increments hits (v.after states) rest := by
              simp only [increments, hmore]
              rw [if_neg (by omega)]
            rw [hstep, List.filter_cons_of_pos (by exact hv)]
            rw [hmore] at hbehind hleft
            constructor
            · rw [List.map_cons, hbehind, hreturned, List.length_cons, answersFrom_succ]
            · rw [hleft, List.length_cons]
              omega

end Run

end Visit

namespace Route

open Branch

variable {σ : Type}

/-- Branches of a forest with one position are the same. -/
theorem eq_of_position_eq {forest : List (Route σ)} {b b' : Branch σ}
    (hb : b ∈ forestBranches [] 0 forest) (hb' : b' ∈ forestBranches [] 0 forest)
    (h : b.tip.position = b'.tip.position) : b = b' := by
  obtain ⟨i, hi⟩ := List.mem_iff_getElem?.mp hb
  obtain ⟨j, hj⟩ := List.mem_iff_getElem?.mp hb'
  have hij : i = j := by
    have hpi := position_of_getElem? hi
    have hpj := position_of_getElem? hj
    omega
  subst hij
  exact Option.some.inj (hi.symm.trans hj)

/-- Entries whose leaves have one nearest declaring node have one instance. -/
theorem controller_eq_of_nearest_eq {ctx : Context σ} {next : Nat} {forest : List (Route σ)}
    {b b' : Branch σ} (hb : b ∈ forestBranches [] 0 forest)
    (hb' : b' ∈ forestBranches [] 0 forest) {e e' : Entry σ}
    (he : b.HasEntry ctx (numbering next forest) e)
    (he' : b'.HasEntry ctx (numbering next forest) e')
    (h : b.nearest.map Spot.position = b'.nearest.map Spot.position) :
    e.controller = e'.controller := by
  rcases he.controller_cases with ⟨hn, hc⟩ | ⟨spot, kind, hn, hk, hc⟩ <;>
    rcases he'.controller_cases with ⟨hn', hc'⟩ | ⟨spot', kind', hn', hk', hc'⟩
  · exact Option.some.inj (hc.symm.trans hc')
  · simp [hn, hn'] at h
  · simp [hn, hn'] at h
  · obtain ⟨t, ht, rfl, -⟩ := exists_branch_of_nearest hb hn
    obtain ⟨t', ht', rfl, -⟩ := exists_branch_of_nearest hb' hn'
    obtain rfl := eq_of_position_eq ht ht' (by simpa [hn, hn'] using h)
    obtain rfl := Option.some.inj (hk.symm.trans hk')
    rw [hc, hc']

/-- A declared instance starts at the initial state of its kind if none has been kept
for it. -/
theorem stateIn_of_fresh {ctx : Context σ} {next : Nat} {forest : List (Route σ)}
    {b : Branch σ} {e : Entry σ} (he : b.HasEntry ctx (numbering next forest) e)
    {states : States σ} (hfresh : ∀ n, next ≤ n → states.get? n = none) {spot : Spot σ}
    (hspot : b.nearest = some spot) :
    ∃ kind, spot.node.controller = some kind ∧ e.controller.stateIn states = kind.initial := by
  rcases he.controller_cases with ⟨hn, -⟩ | ⟨spot', kind, hn, hk, hc⟩
  · cases hn.symm.trans hspot
  · obtain rfl := Option.some.inj (hn.symm.trans hspot)
    refine ⟨kind, hk, ?_⟩
    rw [hc, Instance.stateIn, hfresh _ (le_numbering next forest spot'.position)]
    rfl

/-- Every visit to an entry acts on one instance: the one that the nearest declaring
node of the leaf has constructed, or the controller of the context. What visits do to it
can be told from the visits to leaves below the same node. If the handlers under a node
count, then their answers are consecutive counts, in whatever order the leaves are
visited and whatever visits to other leaves do; they start with one if the instance is
new and its kind starts at zero. -/
theorem compileForest_separates_states {ctx : Context σ} {next : Nat} (hctx : ctx.Before next)
    {forest : List (Route σ)} {entries : List (Entry σ)}
    (h : (compileForest ctx next forest).result = .ok entries) (states : States σ)
    (visits : List (Visit σ))
    (hvisits : ∀ v ∈ visits, (v.leaf, v.entry) ∈ (leaves forest).zip entries) :
    (∀ v ∈ visits, v.ActsOn v.host ∧
        v.leaf.ServedBy ctx (numbering next forest) (compileForest ctx next forest).constructed
          v.entry) ∧
      ∀ b e, (b, e) ∈ (leaves forest).zip entries →
        e.controller.stateIn (Visit.statesAfter states (visits.filter (Visit.isUnder b))) =
            e.controller.stateIn (Visit.statesAfter states visits) ∧
          ∀ hits, (∀ p ∈ (leaves forest).zip entries,
              p.1.nearest.map Spot.position = b.nearest.map Spot.position →
                Tallies hits p.2.handler) →
            let performed := (Visit.increments hits states visits).filter fun i =>
              Visit.isUnder b i.1
            performed.map Prod.snd =
                answersFrom (hits (e.controller.stateIn states) + 1) performed.length ∧
              hits (e.controller.stateIn (Visit.statesAfter states visits)) =
                hits (e.controller.stateIn states) + performed.length ∧
              ∀ spot, b.nearest = some spot →
                (∀ kind, spot.node.controller = some kind → hits kind.initial = 0) →
                (∀ n, next ≤ n → states.get? n = none) →
                performed.map Prod.snd = answersFrom 1 performed.length := by
  have hentries := (compileForest_eq_ok h).1
  have hentry {b : Branch σ} {e : Entry σ} (hmem : (b, e) ∈ (leaves forest).zip entries) :
      b ∈ forestBranches [] 0 forest ∧ b.HasEntry ctx (numbering next forest) e :=
    ⟨mem_forestBranches_of_mem_leaves (List.of_mem_zip hmem).1, List.forall₂_zip hentries hmem⟩
  constructor
  · intro v hv
    have hmem := hvisits v hv
    exact ⟨v.actsOn_host, servedBy_of_ok h (List.of_mem_zip hmem).1 (hentry hmem).2⟩
  · intro b e hmem
    obtain ⟨hb, he⟩ := hentry hmem
    have hown : ∀ v ∈ visits, v.isUnder b = true → v.host = e.controller := by
      intro v hv hunder
      obtain ⟨hleaf, hve⟩ := hentry (hvisits v hv)
      exact controller_eq_of_nearest_eq hleaf hb hve he (eq_of_beq hunder)
    have hother : ∀ v ∈ visits, v.isUnder b = false → e.controller.number ≠ v.host.number := by
      intro v hv hunder heq
      obtain ⟨hleaf, hve⟩ := hentry (hvisits v hv)
      have hnearest := (controller_number_eq_iff hctx hleaf hb hve he).mp heq.symm
      rw [Visit.isUnder, hnearest, beq_self_eq_true] at hunder
      cases hunder
    refine ⟨Visit.stateIn_statesAfter_filter hown hother rfl, ?_⟩
    intro hits htallies performed
    have hvtallies : ∀ v ∈ visits, v.isUnder b = true → Tallies hits v.entry.handler := by
      intro v hv hunder
      exact htallies (v.leaf, v.entry) (hvisits v hv) (eq_of_beq hunder)
    obtain ⟨hreturned, hleft⟩ := Visit.returned_increments hvtallies hown hother states
    refine ⟨hreturned, hleft, ?_⟩
    intro spot hspot hzero hfresh
    obtain ⟨kind, hk, hstate⟩ := stateIn_of_fresh he hfresh hspot
    rw [hstate, hzero kind hk] at hreturned
    exact hreturned

/-- A handler that counts its requests. -/
def tally : Handler Nat := fun _ =>
  .read fun count => .write (count + 1) (.succeed (.integer (count + 1 : Nat)))

/-- A controller that counts. -/
def turnstile : Controller Nat :=
  { typeName := "Turnstile"
    label := "Turnstile"
    initial := 0
    handlers := [("pass", tally)] }

/-- A controller that does not count. -/
def barrier : Controller Nat :=
  { typeName := "Barrier"
    label := "Barrier"
    initial := 0
    handlers := [("pass", fun _ => .write 7 (.succeed .absent))] }

/-- Two leaves below one turnstile, and a leaf between them that has a barrier of its
own. -/
def turnstiles : List (Route Nat) :=
  [.node (Node.empty.withController turnstile)
    [.node ((Node.empty.withPath "east").withHandler "pass") [],
      .node (((Node.empty.withPath "north").withController barrier).withHandler "pass") [],
      .node ((Node.empty.withPath "west").withHandler "pass") []]]

/-- Two visits to each leaf, one round after the other. -/
def rounds (pairs : List (Branch Nat × Entry Nat)) : List (Visit Nat) :=
  (pairs ++ pairs).map fun p => ⟨p.1, p.2, default, ⟨Exchange.fresh, [], none⟩⟩

theorem mem_of_mem_rounds {pairs : List (Branch Nat × Entry Nat)} :
    ∀ v ∈ rounds pairs, (v.leaf, v.entry) ∈ pairs := by
  intro v hv
  obtain ⟨p, hp, rfl⟩ := List.mem_map.mp hv
  exact (List.mem_append.mp hp).elim id id

theorem turnstiles_count_apart :
    ∃ entries, (compileForest Context.root 1 turnstiles).result = .ok entries ∧
      ∃ b e, (b, e) ∈ (leaves turnstiles).zip entries ∧
        (((Visit.increments id SortedMap.empty (rounds ((leaves turnstiles).zip entries))).filter
          fun i => Visit.isUnder b i.1).map Prod.snd) = answersFrom 1 4 := by
  have h : (compileForest Context.root 1 turnstiles).result = .ok _ := rfl
  have htally : Tallies id tally := fun _ _ _ => Or.inr ⟨rfl, rfl⟩
  have hroot : (Context.root : Context Nat).Before 1 := nofun
  obtain ⟨-, hcounts⟩ := compileForest_separates_states hroot h SortedMap.empty
    (rounds ((leaves turnstiles).zip _)) mem_of_mem_rounds
  obtain ⟨-, hfirst⟩ := hcounts _ _ List.mem_cons_self
  obtain ⟨-, -, hnew⟩ := hfirst id
    (List.forall_mem_cons.mpr ⟨fun _ => htally, List.forall_mem_cons.mpr ⟨nofun,
      List.forall_mem_cons.mpr ⟨fun _ => htally, nofun⟩⟩⟩)
  have hzero : ∀ kind, some turnstile = some kind → id kind.initial = 0 := by
    rintro kind hkind
    obtain rfl := Option.some.inj hkind
    rfl
  exact ⟨_, h, _, _, List.mem_cons_self, hnew _ rfl hzero fun n _ => SortedMap.get?_empty n⟩

end Route

end RouteTree
