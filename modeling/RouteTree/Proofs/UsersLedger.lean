import RouteTree.Proofs.TableCheck
import RouteTree.Proofs.UsersAnswers

/-!
# The ledger of the users service

What the service should hold can be told from the answers that it has given: each
creation in the ledger gives the next id to a user, who stays until a removal of that
id. The register represents the ledger at every point of a run.
-/

namespace RouteTree.Demo

section Ledger

variable {log : List Change} {u : User}

def Change.isCreation : Change → Bool
  | creation _ => true
  | removal _ => false

/-- How many users a ledger has created. -/
def creations (log : List Change) : Nat := log.countP Change.isCreation

theorem creations_append (log log' : List Change) :
    creations (log ++ log') = creations log + creations log' :=
  List.countP_append

/-- The n-th creation of a ledger is that of the user with id n. -/
def Created (log : List Change) (u : User) : Prop :=
  ∃ before after, log = before ++ .creation u.name :: after ∧ u.id = creations before + 1

/-- A user that was created and not removed since. -/
def Live (log : List Change) (u : User) : Prop :=
  ∃ before after, log = before ++ .creation u.name :: after ∧ u.id = creations before + 1 ∧
    .removal u.id ∉ after

theorem Live.created (h : Live log u) : Created log u := by
  obtain ⟨before, after, hlog, hid, _⟩ := h
  exact ⟨before, after, hlog, hid⟩

/-- No id is greater than the number of creations, so the next one is new. -/
theorem Created.id_le (h : Created log u) : u.id ≤ creations log := by
  obtain ⟨before, after, rfl, hid⟩ := h
  have hcreation : creations (.creation u.name :: after) = creations after + 1 :=
    List.countP_cons_of_pos rfl
  rw [creations_append, hcreation, hid]
  omega

theorem live_concat_creation {name : String} :
    Live (log ++ [.creation name]) u ↔ Live log u ∨ u = ⟨creations log + 1, name⟩ := by
  constructor
  · rintro ⟨before, after, hlog, hid, hkept⟩
    rcases split_concat hlog with ⟨rfl, hname, -⟩ | ⟨rest, hrest, rfl⟩
    · obtain ⟨id, name'⟩ := u
      cases hname
      cases hid
      exact Or.inr rfl
    · exact Or.inl ⟨before, rest, hrest, hid, fun hmem => hkept (List.mem_append_left _ hmem)⟩
  · rintro (⟨before, after, rfl, hid, hkept⟩ | rfl)
    · refine ⟨before, after ++ [.creation name], by simp, hid, ?_⟩
      simpa using hkept
    · exact ⟨log, [], rfl, rfl, List.not_mem_nil⟩

theorem live_concat_removal {id : Nat} :
    Live (log ++ [.removal id]) u ↔ Live log u ∧ u.id ≠ id := by
  constructor
  · rintro ⟨before, after, hlog, hid, hkept⟩
    rcases split_concat hlog with ⟨-, hchange, -⟩ | ⟨rest, hrest, rfl⟩
    · cases hchange
    · rw [List.mem_append, List.mem_singleton, Change.removal.injEq, not_or] at hkept
      exact ⟨⟨before, rest, hrest, hid, hkept.1⟩, hkept.2⟩
  · rintro ⟨⟨before, after, rfl, hid, hkept⟩, hne⟩
    refine ⟨before, after ++ [.removal id], by simp, hid, ?_⟩
    simp [hkept, hne]

end Ledger

section Register

variable {log : List Change} {users : Users}

/-- A register holds the users that are live and hands out the next id. -/
structure Represents (users : Users) (log : List Change) : Prop where
  created : users.created = creations log
  find?_iff : ∀ u, users.find? u.id = some u ↔ Live log u

theorem represents_empty : Represents Users.empty [] := by
  refine ⟨rfl, ?_⟩
  intro u
  have hnone : Users.empty.find? u.id = none := rfl
  have hdead : ¬ Live [] u := by
    rintro ⟨before, after, hlog, -, -⟩
    simp at hlog
  simp [hnone, hdead]

theorem Represents.create (h : Represents users log) (name : String) :
    Represents (users.create name).2 (log ++ [.creation name]) := by
  have hid : (users.create name).1.id = creations log + 1 := congrArg (· + 1) h.created
  constructor
  · exact hid.trans (creations_append log [.creation name]).symm
  · intro u
    rw [live_concat_creation, ← h.find?_iff u]
    by_cases heq : u.id = users.created + 1
    · have hnew : (users.create name).2.find? u.id = some ⟨users.created + 1, name⟩ := by
        rw [heq]
        exact users.find?_create_self name
      have hunused : users.find? u.id ≠ some u := by
        intro hfound
        have hle := ((h.find?_iff u).mp hfound).created.id_le
        rw [heq, h.created] at hle
        omega
      rw [hnew, Option.some.injEq, h.created, eq_comm, or_iff_right hunused]
    · rw [users.find?_create_of_ne name heq, or_iff_left]
      rintro rfl
      exact heq (congrArg (· + 1) h.created.symm)

theorem Represents.remove (h : Represents users log) (id : Nat) :
    Represents (users.remove id) (log ++ [.removal id]) := by
  constructor
  · exact h.created.trans (creations_append log [.removal id]).symm
  · intro u
    rw [live_concat_removal, ← h.find?_iff u, Users.find?_remove]
    by_cases heq : u.id = id
    · simp [heq]
    · simp [heq]

/-- All users are the live ones. -/
theorem Represents.mem_toList_iff (h : Represents users log) {u : User} :
    u ∈ users.toList ↔ Live log u :=
  Users.mem_toList_iff.trans (h.find?_iff u)

theorem Represents.find?_of_live (h : Represents users log) {u : User} (hlive : Live log u) :
    users.find? u.id = some u :=
  (h.find?_iff u).mpr hlive

theorem Represents.find?_eq_none (h : Represents users log) {id : Nat}
    (hgone : ∀ u, Live log u → u.id ≠ id) : users.find? id = none := by
  cases hfound : users.find? id with
  | none => rfl
  | some user =>
      have hid := Users.id_of_find? hfound
      exact absurd hid (hgone user ((h.find?_iff user).mp (hid ▸ hfound)))

end Register

section Runs

variable {config : Config} {call : Call} {log : List Change} {states : States Users}

/-- The change that the answer to a call adds to a ledger. -/
def record (log : List Change) (call : Call) (status : Status) : List Change :=
  log ++ (change? call status).toList

theorem change?_created (h : call.method = .post) :
    change? call .created = (postedName? call).map .creation := by
  rw [change?, if_pos ⟨h, rfl⟩]

theorem change?_noContent (h : call.method = .delete) :
    change? call .noContent = (namedId? call.uri.path).map .removal := by
  have hpost : ¬ (call.method = .post ∧ Status.noContent = .created) := by
    rintro ⟨-, hstatus⟩
    cases hstatus
  rw [change?, if_neg hpost, if_pos ⟨h, rfl⟩]

theorem change?_of_inert {status : Status} (h : Inert call status) :
    change? call status = none := by
  rw [change?, if_neg h.not_created, if_neg h.not_removed]

/-- A step of the register is a step of the ledger. -/
theorem Step.represents {users : Users} {r : Reaction} (hstep : Step call users r)
    (h : Represents users log) : Represents r.users (record log call r.response.status) := by
  cases hstep with
  | still hinert =>
      rw [record, change?_of_inert hinert, Option.toList_none, List.append_nil]
      exact h
  | @creates name _ hmethod _ hname =>
      have hchange : change? call .created = some (.creation name) := by
        rw [change?_created hmethod, hname]
        rfl
      have hrecord : record log call .created = log ++ [.creation name] := by
        rw [record, hchange]
        rfl
      exact hrecord ▸ h.create name
  | @removes id _ _ hmethod hid _ =>
      have hchange : change? call .noContent = some (.removal id) := by
        rw [change?_noContent hmethod, hid]
        rfl
      have hrecord : record log call .noContent = log ++ [.removal id] := by
        rw [record, hchange]
        rfl
      exact hrecord ▸ h.remove id

/-- An answer keeps the register and the ledger in step. -/
theorem represents_answer (h : Represents (register.stateIn states) log) (call : Call)
    (generated : Bytes) :
    let served := (service config).answer call generated states
    Represents (register.stateIn served.states) (record log call served.response.status) := by
  intro served
  obtain ⟨react, hreact⟩ := exists_reacts config call
  have hshows := hreact.shows generated states
  rw [hshows.users, hshows.status]
  exact (hreact.step _).represents h

/-- The states after calls were answered one after another. -/
def statesAfter (app : Application Users) (calls : List (Call × Bytes)) (states : States Users) :
    States Users :=
  calls.foldl (fun states c => (app.answer c.1 c.2 states).states) states

/-- The ledger of a run, as the calls and the statuses of their answers tell it. -/
def ledger (app : Application Users) (calls : List (Call × Bytes)) (states : States Users) :
    List Change :=
  (calls.zip (app.answerAll calls states)).filterMap fun p =>
    change? p.1.1 p.2.response.status

theorem ledger_cons (app : Application Users) (call : Call) (generated : Bytes)
    (rest : List (Call × Bytes)) (states : States Users) :
    let served := app.answer call generated states
    ledger app ((call, generated) :: rest) states =
      (change? call served.response.status).toList ++ ledger app rest served.states := by
  intro served
  rw [ledger, Application.answerAll, List.zip_cons_cons, List.filterMap_cons]
  cases change? call served.response.status <;> rfl

/-- After any run the register represents the ledger. -/
theorem represents_after (calls : List (Call × Bytes))
    (h : Represents (register.stateIn states) log) :
    Represents (register.stateIn (statesAfter (service config) calls states))
      (log ++ ledger (service config) calls states) := by
  induction calls generalizing states log with
  | nil =>
      rw [ledger, List.zip_nil_left, List.filterMap_nil, List.append_nil]
      exact h
  | cons head rest ih =>
      obtain ⟨call, generated⟩ := head
      rw [ledger_cons, ← List.append_assoc]
      exact ih (represents_answer h call generated)

end Runs

end RouteTree.Demo
