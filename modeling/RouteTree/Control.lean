import RouteTree.Exchange

/-!
# Controls

A control is a handle on an exchange. Controls are numbered in the order in which they
were made. A clone is on the exchange of the control that it was made from, so what is
done through one of them is seen through all.
-/

namespace RouteTree

namespace Exchange

/-- What the holder of a control can do with its exchange. -/
inductive Operation where
  | send (reply : Reply)
  | json (body : Json)
  | take
  | reply
  | isReplied
  | state

/-- What an exchange answers. -/
inductive Answer where
  | sent (accepted : Bool)
  | reply (recorded : Option Reply)
  | isReplied (replied : Bool)
  | state (state : DispatchState)

/-- Record a reply with status 200 and a body unless one is recorded already; tells
whether it was. -/
def json (x : Exchange) (body : Json) : Bool × Exchange := x.send (Reply.json body)

/-- Answer an operation, and what it leaves. -/
def perform (x : Exchange) : Operation → Answer × Exchange
  | .send reply => (.sent (x.send reply).1, (x.send reply).2)
  | .json body => (.sent (x.json body).1, (x.json body).2)
  | .take => (.reply x.take.1, x.take.2)
  | .reply => (.reply x.reply, x)
  | .isReplied => (.isReplied x.isReplied, x)
  | .state => (.state x.state, x)

end Exchange

/-- Exchanges, and the number of the exchange that each control is on. -/
structure Controls where
  exchanges : List Exchange
  slots : List Nat
  slots_lt : ∀ slot ∈ slots, slot < exchanges.length

/-- An operation on an exchange, made through any of the controls on it, and the
answer. -/
structure Deed where
  exchange : Nat
  operation : Exchange.Operation
  answer : Exchange.Answer

namespace Controls

open Exchange

/-- One control on a fresh exchange. -/
def single : Controls := ⟨[Exchange.fresh], [0], by simp⟩

/-- The exchange that a control is on. -/
def exchange? (c : Controls) (control : Nat) : Option Exchange :=
  c.slots[control]?.bind fun slot => c.exchanges[slot]?

/-- Make a control on a fresh exchange. -/
def create (c : Controls) : Controls where
  exchanges := c.exchanges ++ [Exchange.fresh]
  slots := c.slots ++ [c.exchanges.length]
  slots_lt := by
    intro slot hslot
    rw [List.length_append, List.length_singleton]
    rcases List.mem_append.mp hslot with hslot | hslot
    · exact Nat.lt_succ_of_lt (c.slots_lt slot hslot)
    · rw [List.mem_singleton.mp hslot]
      exact Nat.lt_succ_self _

/-- Make one more control on the exchange of a control. -/
def clone (c : Controls) (control : Nat) : Controls where
  exchanges := c.exchanges
  slots := c.slots ++ c.slots[control]?.toList
  slots_lt := by
    intro slot hslot
    rcases List.mem_append.mp hslot with hslot | hslot
    · exact c.slots_lt slot hslot
    · exact c.slots_lt slot (List.mem_of_getElem? (Option.mem_toList.mp hslot))

/-- Replace an exchange. -/
def put (c : Controls) (slot : Nat) (x : Exchange) : Controls where
  exchanges := c.exchanges.set slot x
  slots := c.slots
  slots_lt := by
    rw [List.length_set]
    exact c.slots_lt

/-- Perform an operation through a control, if there is one of that number. -/
def use (c : Controls) (control : Nat) (operation : Operation) : Option Deed × Controls :=
  match c.slots[control]?, c.exchange? control with
  | some slot, some x =>
    (some ⟨slot, operation, (x.perform operation).1⟩, c.put slot (x.perform operation).2)
  | _, _ => (none, c)

/-- What is done with controls. -/
inductive Action where
  | create
  | clone (control : Nat)
  | use (control : Nat) (operation : Operation)

/-- Do one thing; tells what was done to an exchange. -/
def act (c : Controls) : Action → Option Deed × Controls
  | .create => (none, c.create)
  | .clone control => (none, c.clone control)
  | .use control operation => c.use control operation

/-- Do one thing after another; tells what was done to the exchanges, in order. -/
def run (c : Controls) : List Action → List Deed × Controls
  | [] => ([], c)
  | action :: rest =>
    let (deed, next) := c.act action
    let (deeds, left) := next.run rest
    (deed.toList ++ deeds, left)

end Controls

end RouteTree
