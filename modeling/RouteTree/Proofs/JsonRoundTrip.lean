import RouteTree.Json.Shape
import RouteTree.Proofs.JsonScalars

/-!
# Reading back values

A value is read back from its compact text. The reader takes up the first octet of each
token, of which no two are alike, and behind a value it finds a comma, a closing bracket
or brace, or the end of the input. Members are written by ascending name, so the object
that is read has them in the same order.
-/

namespace RouteTree.Json

open Utf8

/-- A value whose numbers are integers that fit 64 bits, whose objects hold each member
once, by ascending name, and whose brackets are nested at most `depth` deep. -/
inductive Plain : Nat → Json → Prop
  | null {depth} : Plain depth .null
  | bool {depth} (value) : Plain depth (.bool value)
  | integer {depth n} : fitsWord n = true → Plain depth (.number (.integer n))
  | string {depth} (value) : Plain depth (.string value)
  | array {depth items} : (∀ item ∈ items, Plain depth item) → Plain (depth + 1) (.array items)
  | object {depth members} : Ascending members → (∀ m ∈ members, Plain depth m.2) →
      Plain (depth + 1) (.object members)

namespace Reader

theorem skipBlanks_cons {b : UInt8} (h : isBlank b = false) (rest : Bytes) :
    skipBlanks (b :: rest) = b :: rest := by
  rw [skipBlanks, List.dropWhile_cons_of_neg (by rw [h]; exact Bool.false_ne_true)]

/-- An octet that a value may begin with. -/
structure Opens (b : UInt8) : Prop where
  unblank : isBlank b = false
  unclosed : b ≠ 0x5D

theorem opens_of_isDigit {b : UInt8} (h : isDigit b = true) : Opens b := by
  constructor
  · cases hblank : isBlank b with
    | false => rfl
    | true =>
        simp only [isBlank, Bool.or_eq_true, decide_eq_true_eq] at hblank
        rcases hblank with ((rfl | rfl) | rfl) | rfl <;> exact absurd h (by decide)
  · rintro rfl
    exact absurd h (by decide)

/-- The octets of an integer begin with a minus sign or a digit. -/
theorem exists_encode_integerText (n : Int) :
    ∃ b behind, encode (integerText n) = b :: behind ∧ (b = 0x2D ∨ isDigit b = true) := by
  unfold integerText
  split
  · exact ⟨0x2D, _, rfl, Or.inl rfl⟩
  · obtain ⟨b, behind, hoctets, hdigit, -⟩ := exists_encode_digitsOf n.natAbs
    exact ⟨b, behind, hoctets, Or.inr hdigit⟩

/-- What a text begins with. -/
def Begins (cs : List Char) : Prop := ∃ b behind, encode cs = b :: behind ∧ Opens b

theorem begins_array (vs : List Json) : Begins (text (.array vs)) := by
  cases vs <;> exact ⟨0x5B, _, rfl, rfl, by decide⟩

theorem begins_object (ms : List (String × Json)) : Begins (text (.object ms)) := by
  cases ms <;> exact ⟨0x7B, _, rfl, rfl, by decide⟩

theorem begins_text {depth : Nat} {v : Json} (h : Plain depth v) : Begins (text v) := by
  cases h with
  | null => exact ⟨0x6E, _, rfl, rfl, by decide⟩
  | bool value =>
      cases value with
      | false => exact ⟨0x66, _, rfl, rfl, by decide⟩
      | true => exact ⟨0x74, _, rfl, rfl, by decide⟩
  | @integer _ n _ =>
      obtain ⟨b, behind, hoctets, hfirst⟩ := exists_encode_integerText n
      refine ⟨b, behind, hoctets, ?_⟩
      rcases hfirst with rfl | hdigit
      · exact ⟨rfl, by decide⟩
      · exact opens_of_isDigit hdigit
  | string value => exact ⟨0x22, _, rfl, rfl, by decide⟩
  | @array _ items _ => exact begins_array items
  | @object _ members _ _ => exact begins_object members

/-! ## Tokens -/

variable {fuel depth : Nat} {rest : Bytes}

theorem value_null : value (fuel + 1) depth (0x6E :: (nullTail ++ rest)) = .ok (.null, rest) := by
  rw [value, skipBlanks_cons rfl]
  simp only [literal_append, bind, Except.bind]

theorem value_true :
    value (fuel + 1) depth (0x74 :: (trueTail ++ rest)) = .ok (.bool true, rest) := by
  rw [value, skipBlanks_cons rfl]
  simp only [literal_append, bind, Except.bind]

theorem value_false :
    value (fuel + 1) depth (0x66 :: (falseTail ++ rest)) = .ok (.bool false, rest) := by
  rw [value, skipBlanks_cons rfl]
  simp only [literal_append, bind, Except.bind]

theorem value_number {b : UInt8} {input : Bytes} {n : Number} (h : b = 0x2D ∨ isDigit b = true)
    (hread : number (b :: input) = .ok (n, rest)) :
    value (fuel + 1) depth (b :: input) = .ok (.number n, rest) := by
  have hfirst : (b = 0x2D || isDigit b) = true := by
    rw [Bool.or_eq_true, decide_eq_true_eq]
    exact h
  have hblank : isBlank b = false := by
    rcases h with rfl | hdigit
    · rfl
    · exact (opens_of_isDigit hdigit).unblank
  rw [value, skipBlanks_cons hblank]
  split
  · next hinput => cases hinput
  -- none of the octets that open other values is a minus sign or a digit
  all_goals
    next hinput =>
      cases hinput
      first
        | exact absurd hfirst (by decide)
        | simp only [hfirst, if_true, hread, bind, Except.bind]

theorem value_string (text : String) :
    value (fuel + 1) depth (0x22 :: (encode (text.toList.flatMap escape ++ ['"']) ++ rest)) =
      .ok (.string text, rest) := by
  rw [value, skipBlanks_cons rfl]
  simp only [string_escape, bind, Except.bind]

theorem value_array {input : Bytes} {vs : List Json}
    (h : items fuel depth true input = .ok (vs, rest)) :
    value (fuel + 1) (depth + 1) (0x5B :: input) = .ok (.array vs, rest) := by
  rw [value, skipBlanks_cons rfl]
  simp only [h, bind, Except.bind]

theorem value_object {input : Bytes} {ms : List (String × Json)}
    (h : members fuel depth true input = .ok (ms, rest)) :
    value (fuel + 1) (depth + 1) (0x7B :: input) = .ok (ofMembers ms, rest) := by
  rw [value, skipBlanks_cons rfl]
  simp only [h, bind, Except.bind]

theorem colon_cons (rest : Bytes) : colon (0x3A :: rest) = .ok rest := by
  rw [colon, skipBlanks_cons rfl]
  rfl

/-! ## Items and members -/

/-- A value that is read back where values end, with fuel for twice its octets: the
reader spends one on the value and one on the list or object that it stands in. -/
structure ReadBack (depth : Nat) (v : Json) : Prop where
  begins : Begins (text v)
  value_eq : ∀ fuel rest, 2 * (encode (text v)).length ≤ fuel → Ends rest →
    value fuel depth (encode (text v) ++ rest) = .ok (v, rest)

theorem items_close (first : Bool) :
    items (fuel + 1) depth first (0x5D :: rest) = .ok ([], rest) := by
  rw [items, nextItem, skipBlanks_cons rfl]
  simp only [bind, Except.bind, List.tail_cons]

/-- An item is read behind a comma, or without one if it is the first. -/
theorem nextItem_of_begins {cs : List Char} (h : Begins cs) (rest : Bytes) :
    nextItem true (encode cs ++ rest) = .ok (some (encode cs ++ rest), encode cs ++ rest) ∧
      nextItem false (0x2C :: (encode cs ++ rest)) =
        .ok (some (encode cs ++ rest), encode cs ++ rest) := by
  obtain ⟨b, behind, hoctets, hopens⟩ := h
  rw [hoctets, List.cons_append]
  constructor
  · rw [nextItem, skipBlanks_cons hopens.unblank]
    split
    · next h => cases h
    · next h =>
      cases h
      exact absurd rfl hopens.unclosed
    · next h =>
      cases h
      rfl
  · rw [nextItem, skipBlanks_cons rfl]
    split
    · next h => cases h
    · next h => cases h
    · next h =>
      cases h
      rw [if_neg Bool.false_ne_true, if_pos rfl, skipBlanks_cons hopens.unblank]
      split
      · next h => cases h
      · next h =>
        cases h
        exact absurd rfl hopens.unclosed
      · rfl

theorem ReadBack.items_cons {v : Json} {vs : List Json} {first : Bool} {input behind : Bytes}
    (h : ReadBack depth v)
    (hnext : nextItem first input =
      .ok (some (encode (text v) ++ rest), encode (text v) ++ rest))
    (hfuel : 2 * (encode (text v)).length ≤ fuel) (hends : Ends rest)
    (hrest : items fuel depth false rest = .ok (vs, behind)) :
    items (fuel + 1) depth first input = .ok (v :: vs, behind) := by
  rw [items, hnext]
  simp only [bind, Except.bind, h.value_eq fuel rest hfuel hends, hrest]

theorem encode_itemsText_cons (v : Json) (vs : List Json) :
    encode (itemsText (v :: vs)) = 0x2C :: (encode (text v) ++ encode (itemsText vs)) := by
  rw [itemsText, encode_append]
  rfl

theorem ends_itemsText (vs : List Json) (rest : Bytes) : Ends (encode (itemsText vs) ++ rest) := by
  intro b hb
  cases vs with
  | nil =>
      obtain rfl : 0x5D = b := Option.some.inj hb
      decide
  | cons v vs =>
      rw [encode_itemsText_cons] at hb
      obtain rfl : 0x2C = b := Option.some.inj hb
      decide

/-- The items behind the first are read back. -/
theorem items_itemsText {vs : List Json} (h : ∀ v ∈ vs, ReadBack depth v)
    (hfuel : 2 * (encode (itemsText vs)).length ≤ fuel) :
    items fuel depth false (encode (itemsText vs) ++ rest) = .ok (vs, rest) := by
  induction vs generalizing fuel with
  | nil =>
      have hlength : (encode (itemsText [])).length = 1 := rfl
      obtain ⟨fuel, rfl⟩ : ∃ f, fuel = f + 1 := Nat.exists_eq_add_of_le' (by omega)
      exact items_close false
  | cons v vs ih =>
      obtain ⟨hv, hvs⟩ := List.forall_mem_cons.mp h
      rw [encode_itemsText_cons] at hfuel ⊢
      rw [List.length_cons, List.length_append] at hfuel
      obtain ⟨fuel, rfl⟩ : ∃ f, fuel = f + 1 := Nat.exists_eq_add_of_le' (by omega)
      have hnext := (nextItem_of_begins hv.begins (encode (itemsText vs) ++ rest)).2
      rw [List.cons_append, List.append_assoc]
      exact hv.items_cons hnext (by omega) (ends_itemsText vs rest) (ih hvs (by omega))

/-- A list of values is read back. -/
theorem ReadBack.array {vs : List Json} (h : ∀ v ∈ vs, ReadBack depth v) :
    ReadBack (depth + 1) (.array vs) := by
  refine ⟨begins_array vs, ?_⟩
  intro fuel rest hfuel _
  cases vs with
  | nil =>
      have hlength : (encode (text (.array []))).length = 2 := rfl
      obtain ⟨fuel, rfl⟩ : ∃ f, fuel = f + 2 := Nat.exists_eq_add_of_le' (by omega)
      exact value_array (items_close true)
  | cons v vs =>
      obtain ⟨hv, hvs⟩ := List.forall_mem_cons.mp h
      have hoctets : encode (text (.array (v :: vs))) =
          0x5B :: (encode (text v) ++ encode (itemsText vs)) := by
        rw [text, encode_append]
        rfl
      rw [hoctets] at hfuel ⊢
      rw [List.length_cons, List.length_append] at hfuel
      obtain ⟨fuel, rfl⟩ : ∃ f, fuel = f + 2 := Nat.exists_eq_add_of_le' (by omega)
      have hnext := (nextItem_of_begins hv.begins (encode (itemsText vs) ++ rest)).1
      rw [List.cons_append, List.append_assoc]
      apply value_array
      exact hv.items_cons hnext (by omega) (ends_itemsText vs rest)
        (items_itemsText hvs (by omega))

/-! ## Members -/

/-- The octets of a member behind the quote that opens its name. -/
def memberOctets (name : String) (v : Json) : Bytes :=
  encode (name.toList.flatMap escape ++ ['"']) ++ 0x3A :: encode (text v)

theorem encode_membersText_cons (name : String) (v : Json) (ms : List (String × Json)) :
    encode (membersText ((name, v) :: ms)) =
      0x2C :: 0x22 :: (memberOctets name v ++ encode (membersText ms)) := by
  rw [membersText, encode_append, encode_append, memberOctets]
  rfl

theorem encode_object_cons (name : String) (v : Json) (ms : List (String × Json)) :
    encode (text (.object ((name, v) :: ms))) =
      0x7B :: 0x22 :: (memberOctets name v ++ encode (membersText ms)) := by
  rw [text, encode_append, encode_append, memberOctets]
  rfl

theorem ends_membersText (ms : List (String × Json)) (rest : Bytes) :
    Ends (encode (membersText ms) ++ rest) := by
  intro b hb
  cases ms with
  | nil =>
      obtain rfl : 0x7D = b := Option.some.inj hb
      decide
  | cons m ms =>
      rw [encode_membersText_cons] at hb
      obtain rfl : 0x2C = b := Option.some.inj hb
      decide

theorem members_close (first : Bool) :
    members (fuel + 1) depth first (0x7D :: rest) = .ok ([], rest) := by
  have hclose : nextMember first (0x7D :: rest) = .ok (none, 0x7D :: rest) := by
    rw [nextMember, skipBlanks_cons rfl]
    rfl
  rw [members, hclose]
  simp only [bind, Except.bind, List.tail_cons]

/-- A name is read behind a comma, or without one if it is the first. -/
theorem nextMember_quote (rest : Bytes) :
    nextMember true (0x22 :: rest) = .ok (some rest, rest) ∧
      nextMember false (0x2C :: 0x22 :: rest) = .ok (some rest, rest) := by
  constructor
  · rw [nextMember, skipBlanks_cons rfl]
    rfl
  · rw [nextMember, skipBlanks_cons rfl]
    split
    · next h => cases h
    · next h => cases h
    · next h =>
      cases h
      rw [if_neg Bool.false_ne_true, if_pos rfl, skipBlanks_cons rfl]
      rfl

theorem ReadBack.members_cons {name : String} {v : Json} {ms : List (String × Json)} {first : Bool}
    {input behind : Bytes} (h : ReadBack depth v)
    (hnext : nextMember first input =
      .ok (some (memberOctets name v ++ rest), memberOctets name v ++ rest))
    (hfuel : 2 * (encode (text v)).length ≤ fuel) (hends : Ends rest)
    (hrest : members fuel depth false rest = .ok (ms, behind)) :
    members (fuel + 1) depth first input = .ok ((name, v) :: ms, behind) := by
  have hname : string (memberOctets name v ++ rest) =
      .ok (name, 0x3A :: (encode (text v) ++ rest)) := by
    rw [memberOctets, List.append_assoc, string_escape]
    rfl
  rw [members, hnext]
  simp only [bind, Except.bind, hname, colon_cons, h.value_eq fuel rest hfuel hends, hrest]

theorem length_text_lt_memberOctets (name : String) (v : Json) :
    (encode (text v)).length < (memberOctets name v).length := by
  rw [memberOctets, List.length_append, List.length_cons]
  omega

/-- The members behind the first are read back. -/
theorem members_membersText {ms : List (String × Json)} (h : ∀ m ∈ ms, ReadBack depth m.2)
    (hfuel : 2 * (encode (membersText ms)).length ≤ fuel) :
    members fuel depth false (encode (membersText ms) ++ rest) = .ok (ms, rest) := by
  induction ms generalizing fuel with
  | nil =>
      have hlength : (encode (membersText [])).length = 1 := rfl
      obtain ⟨fuel, rfl⟩ : ∃ f, fuel = f + 1 := Nat.exists_eq_add_of_le' (by omega)
      exact members_close false
  | cons m ms ih =>
      obtain ⟨name, v⟩ := m
      obtain ⟨hv, hms⟩ : ReadBack depth v ∧ ∀ m ∈ ms, ReadBack depth m.2 :=
        List.forall_mem_cons.mp h
      have hshorter := length_text_lt_memberOctets name v
      rw [encode_membersText_cons] at hfuel ⊢
      rw [List.length_cons, List.length_cons, List.length_append] at hfuel
      obtain ⟨fuel, rfl⟩ : ∃ f, fuel = f + 1 := Nat.exists_eq_add_of_le' (by omega)
      have hnext := (nextMember_quote
        (memberOctets name v ++ (encode (membersText ms) ++ rest))).2
      rw [List.cons_append, List.cons_append, List.append_assoc]
      exact hv.members_cons hnext (by omega) (ends_membersText ms rest) (ih hms (by omega))

theorem ofMembers_of_ascending {ms : List (String × Json)} (h : Ascending ms) :
    ofMembers ms = .object ms := by
  have hentries : ms.foldl (fun acc m => insertEntry m.1 m.2 acc) [] = [] ++ ms :=
    foldl_insertEntry_of_ascending h
  rw [ofMembers, hentries, List.nil_append]

/-- An object is read back if its members ascend. -/
theorem ReadBack.object {ms : List (String × Json)} (hascending : Ascending ms)
    (h : ∀ m ∈ ms, ReadBack depth m.2) : ReadBack (depth + 1) (.object ms) := by
  refine ⟨begins_object ms, ?_⟩
  intro fuel rest hfuel _
  suffices hread : value fuel (depth + 1) (encode (text (.object ms)) ++ rest) =
      .ok (ofMembers ms, rest) by
    rwa [ofMembers_of_ascending hascending] at hread
  cases ms with
  | nil =>
      have hlength : (encode (text (.object []))).length = 2 := rfl
      obtain ⟨fuel, rfl⟩ : ∃ f, fuel = f + 2 := Nat.exists_eq_add_of_le' (by omega)
      exact value_object (members_close true)
  | cons m ms =>
      obtain ⟨name, v⟩ := m
      obtain ⟨hv, hms⟩ : ReadBack depth v ∧ ∀ m ∈ ms, ReadBack depth m.2 :=
        List.forall_mem_cons.mp h
      have hshorter := length_text_lt_memberOctets name v
      rw [encode_object_cons] at hfuel ⊢
      rw [List.length_cons, List.length_cons, List.length_append] at hfuel
      obtain ⟨fuel, rfl⟩ : ∃ f, fuel = f + 2 := Nat.exists_eq_add_of_le' (by omega)
      have hnext := (nextMember_quote
        (memberOctets name v ++ (encode (membersText ms) ++ rest))).1
      rw [List.cons_append, List.cons_append, List.append_assoc]
      apply value_object
      exact hv.members_cons hnext (by omega) (ends_membersText ms rest)
        (members_membersText hms (by omega))

/-! ## Values -/

/-- Where no further value is read within, any fuel at all suffices. -/
theorem readBack_of_forall_ends {v : Json} (hv : Plain depth v)
    (hvalue : ∀ fuel rest, Ends rest →
      value (fuel + 1) depth (encode (text v) ++ rest) = .ok (v, rest)) : ReadBack depth v := by
  refine ⟨begins_text hv, ?_⟩
  intro fuel rest hfuel hends
  obtain ⟨b, behind, hoctets, -⟩ := begins_text hv
  rw [hoctets, List.length_cons] at hfuel
  obtain ⟨fuel, rfl⟩ : ∃ f, fuel = f + 1 := Nat.exists_eq_add_of_le' (by omega)
  exact hvalue fuel rest hends

theorem readBack_of_plain {v : Json} (h : Plain depth v) : ReadBack depth v := by
  induction h with
  | null => exact readBack_of_forall_ends .null fun fuel rest _ => value_null
  | bool b =>
      cases b with
      | false => exact readBack_of_forall_ends (.bool false) fun fuel rest _ => value_false
      | true => exact readBack_of_forall_ends (.bool true) fun fuel rest _ => value_true
  | @integer _ n hfits =>
      refine readBack_of_forall_ends (.integer hfits) ?_
      intro fuel rest hends
      obtain ⟨b, behind, hoctets, hfirst⟩ := exists_encode_integerText n
      have hread := number_integerText hfits hends
      have htext : text (.number (.integer n)) = integerText n := by rw [text, numberText]
      rw [htext, hoctets, List.cons_append]
      rw [hoctets, List.cons_append] at hread
      exact value_number hfirst hread
  | string s =>
      refine readBack_of_forall_ends (.string s) ?_
      intro fuel rest _
      have hoctets : encode (text (.string s)) =
          0x22 :: encode (s.toList.flatMap escape ++ ['"']) := by rw [text]; rfl
      rw [hoctets]
      exact value_string s
  | array _ ih => exact ReadBack.array ih
  | object hascending _ ih => exact ReadBack.object hascending ih

end Reader

/-- A value whose brackets are nested no deeper than the reader goes is read from its
compact text. -/
theorem readAs_print {v : Json} (h : Plain Reader.depthLimit v) :
    readAs .any (Utf8.ofString v.print) = .ok v := by
  have hoctets : Utf8.ofString v.print = encode (text v) := by
    rw [Utf8.ofString, print, String.toList_ofList]
  have hfuel : 2 * (encode (text v)).length ≤ 2 * Reader.fuelFor (encode (text v)) := by
    rw [Reader.fuelFor]
    omega
  have hends : Reader.Ends [] := by
    intro b hb
    cases hb
  have hvalue := (Reader.readBack_of_plain h).value_eq _ [] hfuel hends
  have hshaped : Reader.shaped (2 * Reader.fuelFor (encode (text v))) Reader.depthLimit .any
      (encode (text v)) = .ok (v, []) := by
    have hsome : 2 * Reader.fuelFor (encode (text v)) =
        2 * (2 * (encode (text v)).length) + 3 + 1 := by
      rw [Reader.fuelFor]
      omega
    rw [List.append_nil] at hvalue
    rw [hsome] at hvalue ⊢
    rw [Reader.shaped, hvalue]
  rw [readAs, hoctets, hshaped]
  rfl

end RouteTree.Json
