import RouteTree.Json.Datum
import RouteTree.Stage

/-!
# Controllers

A controller type has named handlers and a state that its instances start from. An
instance is one construction of a controller type; constructions are numbered from 1,
and each instance has a state of its own, which its handlers read and write.
-/

namespace RouteTree

/-- What serves a request: a stage that ends with the datum to answer. -/
abbrev Handler (σ : Type) := Request → Stage σ Datum

/-- A type of controllers. `label` is the name under which its constructions are
journaled. -/
structure Controller (σ : Type) where
  typeName : String
  label : String
  initial : σ
  handlers : List (String × Handler σ)

namespace Controller

variable {σ : Type}

/-- The characters behind the last pair of colons. -/
def afterLastColons (cs : List Char) : List Char :=
  go cs cs
where
  /-- `best` is what stands behind the last pair so far. -/
  go (best : List Char) : List Char → List Char
    | ':' :: ':' :: rest => go rest rest
    | _ :: rest => go best rest
    | [] => best

/-- The name of a type without its path and its type arguments. -/
def shortNameOf (typeName : String) : String :=
  String.ofList (afterLastColons (typeName.toList.takeWhile (· ≠ '<')))

/-- The type's own name. -/
def shortName (c : Controller σ) : String := shortNameOf c.typeName

/-- Names of the handlers in the order in which they were registered. -/
def names (c : Controller σ) : List String := c.handlers.map Prod.fst

/-- The handler of a name: the last one registered under it. -/
def handler? (c : Controller σ) (name : String) : Option (Handler σ) :=
  (c.handlers.reverse.find? fun entry => entry.1 == name).map Prod.snd

/-- Whether a handler of that name is registered. -/
def hasHandler (c : Controller σ) (name : String) : Bool := (c.handler? name).isSome

theorem handler?_eq_none_iff {c : Controller σ} {name : String} :
    c.handler? name = none ↔ name ∉ c.names := by
  simp only [handler?, Option.map_eq_none_iff, List.find?_eq_none, List.mem_reverse, names,
    List.mem_map]
  constructor
  · rintro h ⟨entry, hentry, rfl⟩
    exact h entry hentry (beq_self_eq_true _)
  · intro h entry hentry heq
    exact h ⟨entry, hentry, eq_of_beq heq⟩

/-- The handler of a name is registered under it, and none behind it is. -/
theorem handler?_eq_some_iff {c : Controller σ} {name : String} {handler : Handler σ} :
    c.handler? name = some handler ↔
      ∃ before behind, c.handlers = before ++ (name, handler) :: behind ∧
        name ∉ behind.map Prod.fst := by
  simp only [handler?, Option.map_eq_some_iff, List.find?_eq_some_iff_append]
  constructor
  · rintro ⟨⟨name', handler'⟩, ⟨hname, behind, before, hsplit, hbehind⟩, rfl⟩
    obtain rfl : name' = name := by simpa using hname
    refine ⟨before.reverse, behind.reverse, ?_, ?_⟩
    · simpa using congrArg List.reverse hsplit
    · intro hmem
      obtain ⟨entry, hentry, heq⟩ := List.mem_map.mp hmem
      have hne := hbehind entry (by simpa using hentry)
      simp [heq] at hne
  · rintro ⟨before, behind, hsplit, hbehind⟩
    refine ⟨(name, handler), ⟨by simp, behind.reverse, before.reverse, by simp [hsplit], ?_⟩, rfl⟩
    intro entry hentry
    have hne : entry.1 ≠ name := by
      rintro rfl
      exact hbehind (List.mem_map_of_mem (by simpa using hentry))
    simpa using hne

/-- The distinct names of the handlers in ascending order. -/
def sortedNames (c : Controller σ) : List String :=
  (c.names.foldl (fun acc name => insertEntry name () acc) []).map Prod.fst

end Controller

/-- One construction of a controller type. -/
structure Instance (σ : Type) where
  number : Nat
  kind : Controller σ

/-- The states of instances by their numbers; an instance that has none yet is in its
initial state. -/
abbrev States (σ : Type) := SortedMap Nat σ

namespace Instance

variable {σ : Type}

/-- The state that an instance is in. -/
def stateIn (i : Instance σ) (states : States σ) : σ :=
  (states.get? i.number).getD i.kind.initial

@[simp]
theorem stateIn_insert_self (i : Instance σ) (states : States σ) (own : σ) :
    i.stateIn (states.insert i.number own) = own := by
  simp [stateIn]

theorem stateIn_insert_of_ne {i : Instance σ} {number : Nat} (h : i.number ≠ number)
    (states : States σ) (own : σ) : i.stateIn (states.insert number own) = i.stateIn states := by
  rw [stateIn, SortedMap.get?_insert_of_ne states own h, stateIn]

/-- The event of an instance's construction. -/
def event (i : Instance σ) : Event := .constructed i.kind.label i.number

end Instance

/-- Turn a handler's datum into JSON; a datum without a JSON form is a failure. -/
def encodeResult (result : Except Stop Datum) : Except Stop Json :=
  match result with
  | .error stop => .error stop
  | .ok datum =>
    match datum.encode with
    | .ok value => .ok value
    | .error e => .error (.failed (Failure.ofText e.message))

/-- Run a handler on a request and encode what it answers. -/
def Handler.invoke {σ : Type} (handler : Handler σ) (request : Request) (own : σ) (scene : Scene) :
    Outcome σ Json :=
  let outcome := (handler request).run own scene
  ⟨encodeResult outcome.result, outcome.own, outcome.scene⟩

end RouteTree
