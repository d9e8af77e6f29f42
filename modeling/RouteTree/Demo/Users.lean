import RouteTree.Json.Basic

/-!
# Users

A register of users hands out ids from 1 on and never uses one again, so that the number
of users created so far is also the greatest id. It lists the users that are left in
ascending order of their ids.

Users are counted without a bound, where a word of 64 bits would begin again behind `2 ^
64` of them. No result depends on that. Those that compare the users with their
creations are for fewer than `2 ^ 63` creations, those about a single request are about
whatever users there are, and that requests without a token have no influence on others
holds however ids are handed out.
-/

namespace RouteTree.Demo

/-- A user. -/
structure User where
  id : Nat
  name : String
  deriving DecidableEq, Repr

/-- A user as JSON. -/
def User.toJson (u : User) : Json :=
  Json.ofMembers [("id", Json.ofNat u.id), ("name", .string u.name)]

/-- The users that are left, by id, and how many were created. -/
structure Users where
  created : Nat
  names : SortedMap Nat String

namespace Users

/-- No user was created. -/
def empty : Users := ⟨0, SortedMap.empty⟩

/-- Create a user with the next id. -/
def create (u : Users) (name : String) : User × Users :=
  (⟨u.created + 1, name⟩, ⟨u.created + 1, u.names.insert (u.created + 1) name⟩)

/-- The user of an id. -/
def find? (u : Users) (id : Nat) : Option User := (u.names.get? id).map fun name => ⟨id, name⟩

/-- Remove the user of an id. -/
def remove (u : Users) (id : Nat) : Users := { u with names := u.names.erase id }

/-- All users in ascending order of their ids. -/
def toList (u : Users) : List User := u.names.entries.map fun e => ⟨e.1, e.2⟩

@[simp]
theorem find?_create_self (u : Users) (name : String) :
    (u.create name).2.find? (u.create name).1.id = some (u.create name).1 := by
  simp [create, find?, SortedMap.get?_insert_self]

theorem find?_create_of_ne (u : Users) (name : String) {id : Nat} (h : id ≠ u.created + 1) :
    (u.create name).2.find? id = u.find? id := by
  simp [create, find?, SortedMap.get?_insert_of_ne _ _ h]

theorem find?_remove (u : Users) (removed id : Nat) :
    (u.remove removed).find? id = if id = removed then none else u.find? id := by
  rw [find?, remove, SortedMap.get?_erase]
  split <;> rfl

theorem id_of_find? {u : Users} {id : Nat} {user : User} (h : u.find? id = some user) :
    user.id = id := by
  obtain ⟨name, _, rfl⟩ := Option.map_eq_some_iff.mp h
  rfl

/-- The list of all users tells which users can be found. -/
theorem mem_toList_iff {u : Users} {user : User} :
    user ∈ u.toList ↔ u.find? user.id = some user := by
  obtain ⟨id, name⟩ := user
  have hentry : (⟨id, name⟩ : User) ∈ u.toList ↔ (id, name) ∈ u.names.entries := by
    simp [toList]
  rw [hentry, ← SortedMap.get?_eq_some_iff, find?]
  simp

theorem pairwise_toList (u : Users) : u.toList.Pairwise fun a b => a.id < b.id :=
  List.pairwise_map.mpr u.names.ascending

end Users

end RouteTree.Demo
