import RouteTree.Control

/-!
# What becomes of replies

Replies are sent and taken through the controls on an exchange, in any order. None of
those that the exchange accepts is lost, overwritten, handed out twice or out of turn:
the replies that have been handed out, followed by the one on record, are the ones that
were accepted.
-/

namespace RouteTree

namespace Exchange

/-- The reply that an operation offers. -/
def Operation.offered? : Operation → Option Reply
  | .send offer => some offer
  | .json body => some (Reply.json body)
  | _ => none

/-- How an operation turns an exchange into another, and what it is answered. A reply is
accepted if none is on record, and what is rejected or only asks changes nothing. -/
structure Turns (x : Exchange) (operation : Operation) (answer : Answer) (y : Exchange) :
    Prop where
  sent_iff : ∀ reply, operation.offered? = some reply → (answer = .sent true ↔ x.reply = none)
  accepted : ∀ reply, operation.offered? = some reply → x.reply = none → y.reply = some reply
  rejected : ∀ reply, operation.offered? = some reply → x.reply ≠ none →
    answer = .sent false ∧ y = x
  taken : operation = .take → answer = .reply x.reply ∧ y.reply = none
  reply : operation = .reply → answer = .reply x.reply ∧ y = x
  isReplied : operation = .isReplied → answer = .isReplied x.reply.isSome ∧ y = x
  state : operation = .state → answer = .state x.state ∧ y = x
  state_eq : y.state = x.state

/-- A reply that is offered, by whatever operation. -/
theorem turns_offer (x : Exchange) {operation : Operation} {offer : Reply}
    (h : operation.offered? = some offer) :
    x.Turns operation (.sent (x.send offer).1) (x.send offer).2 := by
  have hsend : (x.send offer).1 = true ↔ x.reply = none := by
    rw [send_fst_iff, Exchange.isReplied, Option.isSome_eq_false_iff, Option.isNone_iff_eq_none]
  refine ⟨?_, ?_, ?_, ?_, ?_, ?_, ?_, x.send_state offer⟩
  · intro reply _
    rw [Answer.sent.injEq, hsend]
  · intro reply hreply hnone
    rw [send_reply, hnone, Option.getD_none, ← h, hreply]
  · intro reply _ hsome
    obtain ⟨recorded, hrecorded⟩ := Option.ne_none_iff_exists'.mp hsome
    unfold send
    rw [hrecorded]
    exact ⟨rfl, rfl⟩
  all_goals
    rintro rfl
    cases h

theorem turns_perform (x : Exchange) (operation : Operation) :
    x.Turns operation (x.perform operation).1 (x.perform operation).2 := by
  cases operation with
  | send reply => exact x.turns_offer rfl
  | json body => exact x.turns_offer rfl
  | take => constructor <;> simp [perform, take, Operation.offered?]
  | reply => constructor <;> simp [perform, Operation.offered?]
  | isReplied => constructor <;> simp [perform, Operation.offered?, Exchange.isReplied]
  | state => constructor <;> simp [perform, Operation.offered?]

end Exchange

namespace Deed

/-- The reply that a deed has put on record. -/
def accepted? (d : Deed) : Option Reply :=
  match d.answer with
  | .sent true => d.operation.offered?
  | _ => none

/-- The reply that a deed has taken off the record. -/
def handedOut? (d : Deed) : Option Reply :=
  match d.operation, d.answer with
  | .take, .reply recorded => recorded
  | _, _ => none

end Deed

/-- The replies that were accepted, in order. -/
def accepted (deeds : List Deed) : List Reply := deeds.filterMap Deed.accepted?

/-- The replies that were handed out, in order. -/
def handedOut (deeds : List Deed) : List Reply := deeds.filterMap Deed.handedOut?

/-- The replies that were offered, whether accepted or not, in order. -/
def offered (deeds : List Deed) : List Reply := deeds.filterMap fun d => d.operation.offered?

namespace Exchange

/-- What deeds make of an exchange, as far as replies go. Unless one is taken, the first
to be recorded stays. -/
structure Accounts (x : Exchange) (deeds : List Deed) (y : Exchange) : Prop where
  balance : x.reply.toList ++ accepted deeds = handedOut deeds ++ y.reply.toList
  first : (∀ d ∈ deeds, d.operation ≠ .take) → y.reply = x.reply.or (offered deeds).head?
  state_eq : y.state = x.state

variable {x y z : Exchange} {d : Deed} {deeds : List Deed}

theorem accounts_nil (x : Exchange) : x.Accounts [] x :=
  ⟨by simp [accepted, handedOut], fun _ => by simp [offered], rfl⟩

/-- An offer goes on record if nothing is there, and otherwise changes nothing. -/
theorem Turns.balance_offer (h : x.Turns d.operation d.answer y) {offer : Reply}
    (hoffer : d.operation.offered? = some offer) :
    x.reply.toList ++ d.accepted?.toList = d.handedOut?.toList ++ y.reply.toList := by
  have hnone : d.handedOut? = none := by
    unfold Deed.handedOut?
    split
    · next hoperation _ =>
      rw [hoperation] at hoffer
      cases hoffer
    · rfl
  by_cases hempty : x.reply = none
  · have hanswer : d.answer = .sent true := (h.sent_iff offer hoffer).mpr hempty
    have hreply : y.reply = some offer := h.accepted offer hoffer hempty
    simp [Deed.accepted?, hnone, hanswer, hoffer, hempty, hreply]
  · obtain ⟨hanswer, rfl⟩ := h.rejected offer hoffer hempty
    simp [Deed.accepted?, hnone, hanswer]

/-- One deed shifts the balance by what it puts on record or takes off it. -/
theorem Turns.balance (h : x.Turns d.operation d.answer y) :
    x.reply.toList ++ d.accepted?.toList = d.handedOut?.toList ++ y.reply.toList := by
  cases hoperation : d.operation with
  | send offer =>
      have hoffer : d.operation.offered? = some offer := congrArg Operation.offered? hoperation
      exact h.balance_offer hoffer
  | json body =>
      have hoffer : d.operation.offered? = some (Reply.json body) :=
        congrArg Operation.offered? hoperation
      exact h.balance_offer hoffer
  | take =>
      obtain ⟨hanswer, hreply⟩ := h.taken hoperation
      simp [Deed.accepted?, Deed.handedOut?, hoperation, hanswer, hreply]
  | reply =>
      obtain ⟨hanswer, rfl⟩ := h.reply hoperation
      simp [Deed.accepted?, Deed.handedOut?, hoperation, hanswer]
  | isReplied =>
      obtain ⟨hanswer, rfl⟩ := h.isReplied hoperation
      simp [Deed.accepted?, Deed.handedOut?, hoperation, hanswer]
  | state =>
      obtain ⟨hanswer, rfl⟩ := h.state hoperation
      simp [Deed.accepted?, Deed.handedOut?, hoperation, hanswer]

/-- Unless it takes the reply, a deed leaves the one on record, or else the one it
offers. -/
theorem Turns.reply_eq (h : x.Turns d.operation d.answer y) (htake : d.operation ≠ .take) :
    y.reply = x.reply.or d.operation.offered? := by
  cases hoffer : d.operation.offered? with
  | some reply =>
      by_cases hnone : x.reply = none
      · rw [h.accepted reply hoffer hnone, hnone, Option.none_or]
      · obtain ⟨-, rfl⟩ := h.rejected reply hoffer hnone
        rw [Option.or_of_isSome (Option.isSome_iff_ne_none.mpr hnone)]
  | none =>
      rw [Option.or_none]
      cases hoperation : d.operation with
      | send reply => simp [hoperation, Operation.offered?] at hoffer
      | json body => simp [hoperation, Operation.offered?] at hoffer
      | take => exact absurd hoperation htake
      | reply => rw [(h.reply hoperation).2]
      | isReplied => rw [(h.isReplied hoperation).2]
      | state => rw [(h.state hoperation).2]

theorem Accounts.cons (hturns : x.Turns d.operation d.answer y) (h : y.Accounts deeds z) :
    x.Accounts (d :: deeds) z := by
  have hcons (f : Deed → Option Reply) :
      (d :: deeds).filterMap f = (f d).toList ++ deeds.filterMap f := by
    rw [List.filterMap_cons]
    cases f d <;> rfl
  constructor
  · calc x.reply.toList ++ accepted (d :: deeds)
        = (x.reply.toList ++ d.accepted?.toList) ++ accepted deeds := by
          rw [accepted, hcons, List.append_assoc]
          rfl
      _ = d.handedOut?.toList ++ (y.reply.toList ++ accepted deeds) := by
          rw [hturns.balance, List.append_assoc]
      _ = d.handedOut?.toList ++ (handedOut deeds ++ z.reply.toList) := by
          rw [h.balance]
      _ = handedOut (d :: deeds) ++ z.reply.toList := by
          rw [← List.append_assoc, handedOut, handedOut, hcons]
  · intro hkept
    obtain ⟨htake, hrest⟩ := List.forall_mem_cons.mp hkept
    rw [h.first hrest, hturns.reply_eq htake, Option.or_assoc, offered, offered, hcons]
    cases d.operation.offered? <;> rfl
  · exact h.state_eq.trans hturns.state_eq

end Exchange

namespace Controls

open Exchange

variable {c : Controls} {slot control : Nat} {x : Exchange}

/-- A clone is on the exchange of the control that it was made from. -/
theorem slots_clone (h : c.slots[control]? = some slot) :
    (c.clone control).slots = c.slots ++ [slot] := by
  simp [clone, h]

/-- What was done to an exchange. -/
def history (slot : Nat) (deeds : List Deed) : List Deed :=
  deeds.filter fun d => d.exchange = slot

/-- A control that is on an exchange performs its operations there. -/
theorem use_eq (hslot : c.slots[control]? = some slot) (hx : c.exchanges[slot]? = some x)
    (operation : Operation) :
    c.use control operation =
      (some ⟨slot, operation, (x.perform operation).1⟩, c.put slot (x.perform operation).2) := by
  have hexchange : c.exchange? control = some x := by
    rw [exchange?, hslot, Option.bind_some, hx]
  unfold use
  rw [hslot, hexchange]

/-- An action leaves an exchange as it is, or is an operation on it. -/
theorem act_cases (hx : c.exchanges[slot]? = some x) (action : Action) :
    ((c.act action).2.exchanges[slot]? = some x ∧ history slot (c.act action).1.toList = []) ∨
      ∃ operation answer y, (c.act action).2.exchanges[slot]? = some y ∧
        (c.act action).1 = some ⟨slot, operation, answer⟩ ∧ x.Turns operation answer y := by
  have hlt : slot < c.exchanges.length := (List.getElem?_eq_some_iff.mp hx).1
  cases action with
  | create => exact Or.inl ⟨by rw [act, create, List.getElem?_append_left hlt, hx], rfl⟩
  | clone control => exact Or.inl ⟨hx, rfl⟩
  | use control operation =>
      cases hother : c.slots[control]? with
      | none =>
          have hidle : c.use control operation = (none, c) := by
            unfold use
            rw [hother]
          rw [act, hidle]
          exact Or.inl ⟨hx, rfl⟩
      | some other =>
          by_cases hsame : other = slot
          · subst hsame
            rw [act, use_eq hother hx]
            refine Or.inr ⟨operation, _, _, ?_, rfl, x.turns_perform operation⟩
            exact List.getElem?_set_self hlt
          · obtain ⟨y, hy⟩ : ∃ y, c.exchanges[other]? = some y :=
              ⟨_, List.getElem?_eq_getElem (c.slots_lt other (List.mem_of_getElem? hother))⟩
            rw [act, use_eq hother hy]
            refine Or.inl ⟨?_, by simp [history, hsame]⟩
            rw [put, List.getElem?_set_ne hsame, hx]

/-- Whatever is done, an exchange is accounted for by what was done to it. -/
theorem exists_accounts (hx : c.exchanges[slot]? = some x) (actions : List Action) :
    ∃ y, (c.run actions).2.exchanges[slot]? = some y ∧
      x.Accounts (history slot (c.run actions).1) y := by
  induction actions generalizing c x with
  | nil => exact ⟨x, hx, x.accounts_nil⟩
  | cons action rest ih =>
      have hhistory : history slot (c.run (action :: rest)).1 =
          history slot (c.act action).1.toList ++
            history slot ((c.act action).2.run rest).1 := by
        rw [run, history, List.filter_append]
        rfl
      rw [hhistory]
      rcases act_cases hx action with ⟨hkept, hnone⟩ | ⟨operation, answer, y, hy, hdeed, hturns⟩
      · rw [hnone]
        exact ih hkept
      · obtain ⟨z, hz, haccounts⟩ := ih hy
        have hone : history slot (c.act action).1.toList = [⟨slot, operation, answer⟩] := by
          rw [hdeed]
          simp [history]
        rw [hone]
        exact ⟨z, hz, Accounts.cons hturns haccounts⟩

/-- After any actions on any controls, the replies handed out by an exchange and the one
it has on record are those that it has accepted, and its dispatch state is what it was.
Whatever is done next through a control on it, a clone or not, turns it as `Turns`
says. -/
theorem run_conserves_replies (hx : c.exchanges[slot]? = some x) (actions : List Action) :
    ∃ y, (c.run actions).2.exchanges[slot]? = some y ∧
      x.Accounts (history slot (c.run actions).1) y ∧
      ∀ control, (c.run actions).2.slots[control]? = some slot →
        ((c.run actions).2.clone control).slots = (c.run actions).2.slots ++ [slot] ∧
        ∀ operation, ∃ answer z, y.Turns operation answer z ∧
          (c.run actions).2.use control operation =
            (some ⟨slot, operation, answer⟩, (c.run actions).2.put slot z) := by
  obtain ⟨y, hy, haccounts⟩ := exists_accounts hx actions
  refine ⟨y, hy, haccounts, ?_⟩
  intro control hslot
  refine ⟨slots_clone hslot, ?_⟩
  intro operation
  exact ⟨_, _, y.turns_perform operation, use_eq hslot hy operation⟩

/-- A reply is sent through a control and another one through its clone, which then
takes the first one. -/
def passing : List Action :=
  [.clone 0, .use 0 (.json (.bool true)), .use 1 (.send Reply.noContent), .create, .use 1 .take,
    .use 2 (.json .null), .use 0 (.send Reply.noContent), .use 1 .isReplied]

theorem passing_conserves_replies :
    single.exchanges[0]? = some Exchange.fresh ∧
      ∃ y, (single.run passing).2.exchanges[0]? = some y ∧
        [Reply.json (.bool true), Reply.noContent] =
          handedOut (history 0 (single.run passing).1) ++ y.reply.toList ∧
        y.state = .pending := by
  obtain ⟨y, hy, haccounts, -⟩ := @run_conserves_replies single 0 Exchange.fresh rfl passing
  exact ⟨rfl, y, hy, haccounts.balance, haccounts.state_eq⟩

end Controls

end RouteTree
