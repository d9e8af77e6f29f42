import Mathlib.Order.Bounds.Basic
import RouteTree.Proofs.Invocation

/-!
# The order of guards

The guards of a pipeline are invoked in order up to the first that fails or leaves a
reply; the handler is invoked if there is none. Where the guards end is told by
performing all of them: up to the first stop the performance agrees with what is served,
and nothing behind it has any effect.
-/

namespace RouteTree

namespace Party

variable {σ : Type}

theorem perform_take (request : Request) (parties : List (Party σ)) (own : σ) (scene : Scene)
    (n : Nat) :
    (perform request parties own scene).take n = perform request (parties.take n) own scene := by
  induction parties generalizing own scene n with
  | nil => simp [perform]
  | cons party rest ih =>
      cases n with
      | zero => rfl
      | succ n => simp only [perform, List.take_succ_cons, ih]

end Party

namespace Pipeline

open Party

variable {σ : Type}

/-- What the guards of a pipeline do if all of them are performed. -/
def guardInvocations (p : Pipeline σ) (request : Request) (own : σ) (scene : Scene) :
    List (Invocation σ) :=
  perform request (p.guards.map .guard) own (scene.enter .guardsRunning)

/-- The guard at place `k`, invoked after those before it, fails or leaves a reply. -/
def StopsAt (p : Pipeline σ) (request : Request) (own : σ) (scene : Scene) (k : Nat) : Prop :=
  ∃ i, (p.guardInvocations request own scene)[k]? = some i ∧
    ((∃ stop, i.left.result = .error stop) ∨ i.left.scene.exchange.reply.isSome = true)

theorem invocationsFrom_of_first_stop (handler : Handler σ) (request : Request)
    (guards : List Guard) (own : σ) (scene : Scene) (k : Nat) (i : Invocation σ)
    (hk : (perform request (guards.map .guard) own scene)[k]? = some i) (hi : i.stops = true)
    (hbefore : ∀ j < k, ∀ i, (perform request (guards.map .guard) own scene)[j]? = some i →
      i.stops = false) :
    invocationsFrom handler request guards own scene =
      perform request ((guards.take (k + 1)).map .guard) own scene := by
  induction guards generalizing own scene k with
  | nil => simp [perform] at hk
  | cons guard guards ih =>
      let first := (Party.guard guard).invoke request own scene
      cases k with
      | zero =>
          have hfirst : first.stops = true := by
            obtain rfl : first = i := by simpa [perform] using hk
            exact hi
          simp only [invocationsFrom, List.take_succ_cons, List.take_zero, List.map_cons,
            List.map_nil, perform]
          rw [if_pos hfirst]
      | succ k =>
          have hfirst : first.stops = false := hbefore 0 (by omega) first (by simp [perform, first])
          have hrest := ih first.left.own first.left.scene k
            (by simpa [perform] using hk)
            (fun j hj i hij => hbefore (j + 1) (by omega) i (by simpa [perform] using hij))
          simp only [invocationsFrom, List.take_succ_cons, List.map_cons, perform]
          rw [if_neg (by simpa [first] using hfirst), hrest]

theorem invocationsFrom_of_no_stop (handler : Handler σ) (request : Request)
    (guards : List Guard) (own : σ) (scene : Scene)
    (h : ∀ i ∈ perform request (guards.map .guard) own scene, i.stops = false) :
    invocationsFrom handler request guards own scene =
      perform request (guards.map .guard ++ [.handler handler]) own scene := by
  induction guards generalizing own scene with
  | nil => rfl
  | cons guard guards ih =>
      simp only [List.map_cons, perform, List.forall_mem_cons] at h
      simp only [invocationsFrom, List.map_cons, List.cons_append, perform]
      rw [if_neg (by simp [h.1]), ih _ _ h.2]

/-- Every party is given the request itself, in the dispatch state of its kind. -/
theorem entered_of_mem_invocationsFrom (handler : Handler σ) (request : Request)
    (guards : List Guard) (own : σ) (scene : Scene) (hs : scene.exchange.state = .guardsRunning) :
    ∀ i ∈ invocationsFrom handler request guards own scene,
      i.request = request ∧ i.entered.exchange.state = i.party.state := by
  refine forall_mem_invocationsFrom (fun scene => scene.exchange.state = .guardsRunning)
    (fun i => i.request = request ∧ i.entered.exchange.state = i.party.state)
    ?_ ?_ guards own scene hs
  · intro guard own scene hs
    refine ⟨⟨rfl, hs⟩, ?_⟩
    exact (Stage.run_state _ _ _).trans hs
  · intro own scene _
    exact ⟨rfl, rfl⟩

/-- Stops up to a place depend on the guards up to that place only. -/
theorem stopsAt_congr {p q : Pipeline σ} {k : Nat}
    (h : p.guards.take (k + 1) = q.guards.take (k + 1)) (request : Request) (own : σ)
    (scene : Scene) {j : Nat} (hj : j ≤ k) :
    p.StopsAt request own scene j ↔ q.StopsAt request own scene j := by
  have hget (r : Pipeline σ) : (r.guardInvocations request own scene)[j]? =
      (perform request ((r.guards.take (k + 1)).map .guard) own
        (scene.enter .guardsRunning))[j]? := by
    rw [List.map_take, ← perform_take, List.getElem?_take_of_lt (by omega)]
    rfl
  simp only [StopsAt, hget, h]

theorem stops_iff_stopsAt {p : Pipeline σ} {request : Request} {own : σ} {scene : Scene} {k : Nat}
    {i : Invocation σ} (hi : (p.guardInvocations request own scene)[k]? = some i) :
    i.stops = true ↔ p.StopsAt request own scene k := by
  rw [Invocation.stops_iff]
  constructor
  · intro h
    exact ⟨i, hi, h⟩
  · rintro ⟨i', hi', h⟩
    obtain rfl := Option.some.inj (hi.symm.trans hi')
    exact h

theorem invocations_of_isLeast {p : Pipeline σ} {request : Request} {own : σ} {scene : Scene}
    {k : Nat} (h : IsLeast {k | p.StopsAt request own scene k} k) :
    p.invocations request own scene =
      perform request ((p.guards.take (k + 1)).map .guard) own (scene.enter .guardsRunning) := by
  obtain ⟨i, hi, hstop⟩ := h.1
  refine invocationsFrom_of_first_stop p.handler request p.guards own _ k i hi
    ((stops_iff_stopsAt hi).mpr h.1) ?_
  intro j hj i' hi'
  by_contra hs
  have hle : k ≤ j := h.2 ((stops_iff_stopsAt hi').mp (by simpa using hs))
  omega

/-- What is served depends on the guards up to the first stop only. -/
theorem serve_congr_of_isLeast {p q : Pipeline σ} {request : Request} {own : σ} {scene : Scene}
    {k : Nat} (h : IsLeast {k | p.StopsAt request own scene k} k)
    (hg : p.guards.take (k + 1) = q.guards.take (k + 1)) (hm : p.method = q.method)
    (hp : p.path = q.path) : q.serve request own scene = p.serve request own scene := by
  have hq : IsLeast {k | q.StopsAt request own scene k} k := by
    constructor
    · exact (stopsAt_congr hg request own scene le_rfl).mp h.1
    · intro j hj
      by_contra hlt
      exact hlt (h.2 ((stopsAt_congr hg request own scene (by omega)).mpr hj))
  have hinv : q.invocations request own scene = p.invocations request own scene := by
    rw [invocations_of_isLeast hq, invocations_of_isLeast h, hg]
  have hlast : q.lastInvocation request own scene = p.lastInvocation request own scene := by
    simp only [lastInvocation, hinv]
  rw [serve_eq_conclude, serve_eq_conclude, hlast]
  simp only [conclude, settle, hm, hp]

/-- Guards are invoked in order, each once, up to the least place where one stops the
request, and the handler once behind them if there is no such place. All are given the
request as it came, guards while guards run and the handler while the handler runs. What
stands behind the stop can be anything. -/
theorem serve_invokes_in_order (p : Pipeline σ) (request : Request) (own : σ) (scene : Scene) :
    (∀ k, IsLeast {k | p.StopsAt request own scene k} k →
      p.invocations request own scene =
          perform request ((p.guards.take (k + 1)).map .guard) own (scene.enter .guardsRunning) ∧
        ∀ (later : List Guard) (other : Handler σ),
          serve { p with guards := p.guards.take (k + 1) ++ later, handler := other }
            request own scene = p.serve request own scene) ∧
    ((∀ k, ¬ p.StopsAt request own scene k) →
      p.invocations request own scene =
        perform request (p.guards.map .guard ++ [.handler p.handler]) own
          (scene.enter .guardsRunning)) ∧
    (∀ i ∈ p.invocations request own scene,
      i.request = request ∧ i.entered.exchange.state = i.party.state) ∧
    p.serve request own scene = p.conclude (p.lastInvocation request own scene) := by
  refine ⟨?_, ?_, ?_, p.serve_eq_conclude request own scene⟩
  · intro k hk
    refine ⟨invocations_of_isLeast hk, ?_⟩
    intro later other
    refine serve_congr_of_isLeast hk ?_ rfl rfl
    obtain ⟨i, hi, -⟩ := hk.1
    have hlt : k < p.guards.length := by
      have hk' := (List.getElem?_eq_some_iff.mp hi).1
      simpa [guardInvocations] using hk'
    simp [Nat.succ_le_of_lt hlt]
  · intro hnone
    apply invocationsFrom_of_no_stop
    intro i hi
    obtain ⟨j, hj⟩ := List.mem_iff_getElem?.mp hi
    by_contra hs
    exact hnone j ((stops_iff_stopsAt hj).mp (by simpa using hs))
  · exact entered_of_mem_invocationsFrom p.handler request p.guards own _ rfl

/-- A pipeline whose second guard of three replies and then fails. -/
def refusing : Pipeline Unit :=
  { method := .get
    path := "/"
    guards :=
      [fun _ => .succeed (),
        fun _ => .send Reply.noContent fun _ => .fail (Failure.ofText "refused"),
        fun _ => .succeed ()]
    handler := fun _ => .succeed .absent }

theorem refusing_stops_at_second :
    IsLeast {k | refusing.StopsAt default () ⟨Exchange.fresh, [], none⟩ k} 1 ∧
      refusing.invocations default () ⟨Exchange.fresh, [], none⟩ =
        perform default ((refusing.guards.take 2).map .guard) ()
          ⟨⟨.guardsRunning, none⟩, [.transition .pending .guardsRunning], none⟩ := by
  have h : IsLeast {k | refusing.StopsAt default () ⟨Exchange.fresh, [], none⟩ k} 1 := by
    constructor
    · exact ⟨_, rfl, Or.inl ⟨_, rfl⟩⟩
    · rintro k ⟨i, hi, hstop⟩
      cases k with
      | zero =>
          obtain rfl := Option.some.inj hi
          rcases hstop with ⟨stop, herror⟩ | hreplied
          · cases herror
          · cases hreplied
      | succ k => exact Nat.le_add_left 1 k
  exact ⟨h, ((refusing.serve_invokes_in_order default () _).1 1 h).1⟩

end Pipeline

end RouteTree
