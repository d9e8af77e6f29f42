import RouteTree.Proofs.UsersAnswers

/-!
# Who has a say in the users service

What the service answers depends on the register and on nothing else that a call leaves
behind, and only a call with a bearer token changes the register. So those who bring a
token cannot tell from statuses and bodies whether anybody else has called.
-/

namespace RouteTree.Demo

variable {config : Config} {call : Call} {states states' : States Users}

/-- What a caller sees of an answer. -/
def seen (served : Served Users Response) : Status × Bytes :=
  (served.response.status, served.response.body)

theorem Shows.seen_eq {served served' : Served Users Response} {method : Method} {r : Reaction}
    (h : Shows served method r) (h' : Shows served' method r) : seen served = seen served' := by
  rw [seen, seen, h.status, h.body, h'.status, h'.body]

/-- Where the registers agree, a call is answered alike and the registers agree
afterwards, whatever ids are generated for it. -/
theorem answer_agrees (config : Config) (h : register.stateIn states = register.stateIn states')
    (call : Call) (generated generated' : Bytes) :
    let served := (service config).answer call generated states
    let served' := (service config).answer call generated' states'
    seen served = seen served' ∧
      register.stateIn served.states = register.stateIn served'.states := by
  intro served served'
  obtain ⟨react, hreact⟩ := exists_reacts config call
  have hshows := hreact.shows generated states
  have hshows' := hreact.shows generated' states'
  rw [← h] at hshows'
  exact ⟨hshows.seen_eq hshows', hshows.users.trans hshows'.users.symm⟩

/-- A call without a token leaves the register as it is. -/
theorem stateIn_answer_of_not_bears (h : ¬ Bears call) (generated : Bytes)
    (states : States Users) :
    register.stateIn ((service config).answer call generated states).states =
      register.stateIn states := by
  obtain ⟨react, hreact⟩ := exists_reacts config call
  calc register.stateIn ((service config).answer call generated states).states
      = (react (register.stateIn states)).users := (hreact.shows generated states).users
    _ = register.stateIn states := (hreact.step _).users_of_not_bears h

/-- From registers that agree, the calls with a token are answered alike with and
without the others. -/
theorem map_seen_answerAll {calls others : List (Call × Bytes)}
    (hothers : others.map Prod.fst = (calls.map Prod.fst).filter fun call => Bears call)
    (h : register.stateIn states = register.stateIn states') :
    ((service config).answerAll others states').map seen =
      ((calls.zip ((service config).answerAll calls states)).filter fun p => Bears p.1.1).map
        fun p => seen p.2 := by
  -- A call with a token steps both runs, any other call only one of them; the registers stay equal.
  induction calls generalizing others states states' with
  | nil =>
      obtain rfl := List.map_eq_nil_iff.mp hothers
      rfl
  | cons head rest ih =>
      obtain ⟨call, generated⟩ := head
      rw [List.map_cons] at hothers
      rw [Application.answerAll, List.zip_cons_cons]
      by_cases hbears : Bears call
      · rw [List.filter_cons_of_pos (by simpa using hbears)] at hothers ⊢
        obtain ⟨⟨same, generated'⟩, behind, rfl, rfl, hbehind⟩ := List.map_eq_cons_iff.mp hothers
        obtain ⟨hseen, hregister⟩ := answer_agrees config h same generated generated'
        rw [Application.answerAll, List.map_cons, List.map_cons, hseen, ih hbehind hregister]
      · rw [List.filter_cons_of_neg (by simpa using hbears)] at hothers ⊢
        exact ih hothers ((stateIn_answer_of_not_bears hbears generated states).trans h)

/-- Calls without a bearer token have no influence: the others see the same statuses and
bodies when they are left out, whatever ids are generated. -/
theorem seen_by_bearers (config : Config) :
    ∃ app, ((server config).register [health]).assemble.1 = .ok app ∧
      ∀ (states : States Users) (calls others : List (Call × Bytes)),
        others.map Prod.fst = ((calls.map Prod.fst).filter fun call => Bears call) →
        (app.answerAll others states).map seen =
          ((calls.zip (app.answerAll calls states)).filter fun p => Bears p.1.1).map
            fun p => seen p.2 :=
  ⟨service config, assemble_eq config, fun _ _ _ hothers => map_seen_answerAll hothers rfl⟩

/-- Ada is created with a token; without one Eve is not, and Ada cannot be removed. -/
def intruded : List (Call × Bytes) :=
  [(simpleCall .post "/users" bearing "\x7b\"name\":\"Ada\"\x7d", [1]),
    (simpleCall .post "/users" Headers.empty "\x7b\"name\":\"Eve\"\x7d", [2]),
    (simpleCall .delete "/users/1" Headers.empty "", [3]),
    (simpleCall .get "/users" bearing "", [4])]

/-- The calls with a token, for which other ids were generated. -/
def undisturbed : List (Call × Bytes) :=
  [(simpleCall .post "/users" bearing "\x7b\"name\":\"Ada\"\x7d", [5]),
    (simpleCall .get "/users" bearing "", [6])]

theorem intruded_seen : ∃ app, ((server default).register [health]).assemble.1 = .ok app ∧
    (app.answerAll undisturbed SortedMap.empty).map seen =
      ((intruded.zip (app.answerAll intruded SortedMap.empty)).filter fun p => Bears p.1.1).map
        (fun p => seen p.2) ∧
    (app.answerAll undisturbed SortedMap.empty).map seen =
      [(.created, Utf8.ofString "\x7b\"id\":1,\"name\":\"Ada\"\x7d"),
        (.ok, Utf8.ofString "[\x7b\"id\":1,\"name\":\"Ada\"\x7d]")] := by
  obtain ⟨app, happ, hseen⟩ := seen_by_bearers default
  have hothers : undisturbed.map Prod.fst =
      (intruded.map Prod.fst).filter fun call => Bears call := rfl
  refine ⟨app, happ, hseen SortedMap.empty intruded undisturbed hothers, ?_⟩
  obtain rfl : app = service default := Except.ok.inj (happ.symm.trans (assemble_eq default))
  decide +kernel

end RouteTree.Demo
