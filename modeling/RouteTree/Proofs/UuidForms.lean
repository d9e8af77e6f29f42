import Mathlib.Algebra.Ring.Nat
import RouteTree.Schema.Rule

/-!
# The forms of a UUID

The rule for UUIDs lets four forms pass: the hyphenated one, its digits in one run, and
the hyphenated one in a uniform resource name or in braces. They have different lengths,
so the texts that pass without being hyphenated are those of the three other forms.
-/

namespace RouteTree.Uuid

/-- Hexadecimal digits of either case in groups of 8, 4, 4, 4 and 12, with single
hyphens between them and nothing else. -/
def Hyphenated (text : String) : Prop :=
  ∃ groups : List (List Char), groups.map List.length = [8, 4, 4, 4, 12] ∧
    (∀ group ∈ groups, ∀ c ∈ group, isHex c = true) ∧ text.toList = ['-'].intercalate groups

/-- A UUID in another form than the hyphenated one. -/
inductive OtherForm (text : String) : Prop
  | undivided (hlength : text.toList.length = 32) (hdigits : ∀ c ∈ text.toList, isHex c = true)
  | named {lead body : String} (htext : text = lead ++ body)
      (hlead : lead.toList.map Char.toLower = "urn:uuid:".toList) (hbody : Hyphenated body)
  | braced {body : String} (htext : text = "\x7b" ++ body ++ "\x7d") (hbody : Hyphenated body)

section Groups

variable {size next : Nat} {sizes : List Nat} {cs : List Char}

/-- Of two or more groups the first ends at a hyphen. -/
theorem isGrouped_cons_cons_iff :
    isGrouped (size :: next :: sizes) cs = true ↔ ∃ group rest, group.length = size ∧
      (∀ c ∈ group, isHex c = true) ∧ cs = group ++ '-' :: rest ∧
      isGrouped (next :: sizes) rest = true := by
  rw [isGrouped.eq_3 _ _ _ (List.cons_ne_nil next sizes)]
  simp only [Bool.and_eq_true, beq_iff_eq, List.all_eq_true]
  constructor
  · rintro ⟨⟨hlength, hdigits⟩, hbehind⟩
    split at hbehind
    · next rest hdrop =>
      refine ⟨cs.take size, rest, hlength, hdigits, ?_, hbehind⟩
      rw [← hdrop, List.take_append_drop]
    · cases hbehind
  · rintro ⟨group, rest, rfl, hdigits, rfl, hrest⟩
    rw [List.take_left' rfl, List.drop_left' rfl]
    exact ⟨⟨rfl, hdigits⟩, hrest⟩

/-- Groups that are taken off one by one are groups that hyphens join. -/
theorem isGrouped_iff : isGrouped sizes cs = true ↔
    ∃ groups : List (List Char), groups.map List.length = sizes ∧
      (∀ group ∈ groups, ∀ c ∈ group, isHex c = true) ∧ cs = ['-'].intercalate groups := by
  induction sizes generalizing cs with
  | nil => simp [isGrouped]
  | cons size sizes ih =>
      cases sizes with
      | nil =>
          have hone : isGrouped [size] cs = true ↔ cs.length = size ∧ ∀ c ∈ cs, isHex c = true := by
            rw [isGrouped, Bool.and_eq_true, beq_iff_eq, List.all_eq_true]
          rw [hone]
          constructor
          · rintro ⟨rfl, hdigits⟩
            exact ⟨[cs], rfl, List.forall_mem_singleton.mpr hdigits,
              List.intercalate_singleton.symm⟩
          · rintro ⟨groups, hlengths, hall, rfl⟩
            obtain ⟨group, rfl, hlength⟩ := List.map_eq_singleton_iff.mp hlengths
            rw [List.intercalate_singleton]
            exact ⟨hlength, List.forall_mem_singleton.mp hall⟩
      | cons next sizes =>
          rw [isGrouped_cons_cons_iff]
          constructor
          · rintro ⟨group, rest, rfl, hdigits, rfl, hrest⟩
            obtain ⟨groups, hlengths, hall, rfl⟩ := ih.mp hrest
            obtain ⟨second, behind, rfl, -, -⟩ := List.map_eq_cons_iff.mp hlengths
            refine ⟨group :: second :: behind, ?_, List.forall_mem_cons.mpr ⟨hdigits, hall⟩, ?_⟩
            · rw [List.map_cons, hlengths]
            · rw [List.intercalate_cons_cons, List.append_assoc, List.singleton_append]
          · rintro ⟨groups, hlengths, hall, rfl⟩
            obtain ⟨group, behind, rfl, hlength, hbehind⟩ := List.map_eq_cons_iff.mp hlengths
            obtain ⟨second, rest, rfl, -, -⟩ := List.map_eq_cons_iff.mp hbehind
            obtain ⟨hdigits, hrest⟩ := List.forall_mem_cons.mp hall
            refine ⟨group, ['-'].intercalate (second :: rest), hlength, hdigits, ?_, ?_⟩
            · rw [List.intercalate_cons_cons, List.append_assoc, List.singleton_append]
            · exact ih.mpr ⟨_, hbehind, hrest, rfl⟩

theorem isHyphenated_iff {text : String} : isHyphenated text.toList = true ↔ Hyphenated text :=
  isGrouped_iff

/-- Joined groups are as long as the groups and the hyphens between them. -/
theorem length_intercalate_cons (group : List Char) (groups : List (List Char)) :
    (['-'].intercalate (group :: groups)).length =
      group.length + (groups.map fun g => g.length + 1).sum := by
  induction groups generalizing group with
  | nil => simp
  | cons second rest ih =>
      rw [List.intercalate_cons_cons, List.append_assoc, List.length_append, List.length_append, ih,
        List.map_cons, List.sum_cons, List.length_singleton]
      omega

theorem Hyphenated.length {text : String} (h : Hyphenated text) : text.toList.length = 36 := by
  obtain ⟨groups, hlengths, -, htext⟩ := h
  obtain ⟨group, rest, rfl, hlength, hrest⟩ := List.map_eq_cons_iff.mp hlengths
  have hsum : (rest.map fun g => g.length + 1).sum = ((rest.map List.length).map (· + 1)).sum := by
    rw [List.map_map]
    rfl
  rw [htext, length_intercalate_cons, hlength, hsum, hrest]
  rfl

end Groups

section Forms

variable {text : String}

theorem isSimple_iff : isSimple text.toList = true ↔
    text.toList.length = 32 ∧ ∀ c ∈ text.toList, isHex c = true := by
  rw [isSimple, Bool.and_eq_true, beq_iff_eq, List.all_eq_true]

theorem named_iff : ((text.toList.take 9).map Char.toLower == urnLead &&
      isHyphenated (text.toList.drop 9)) = true ↔
    ∃ lead body : String, text = lead ++ body ∧
      lead.toList.map Char.toLower = "urn:uuid:".toList ∧ Hyphenated body := by
  rw [Bool.and_eq_true, beq_iff_eq]
  constructor
  · rintro ⟨hlead, hbody⟩
    refine ⟨String.ofList (text.toList.take 9), String.ofList (text.toList.drop 9), ?_, ?_, ?_⟩
    · apply String.toList_inj.mp
      rw [String.toList_append, String.toList_ofList, String.toList_ofList, List.take_append_drop]
    · rw [String.toList_ofList]
      exact hlead
    · apply isHyphenated_iff.mp
      rw [String.toList_ofList]
      exact hbody
  · rintro ⟨lead, body, rfl, hlead, hbody⟩
    have hlength : lead.toList.length = 9 := by
      rw [← List.length_map Char.toLower, hlead]
      rfl
    rw [String.toList_append, List.take_left' hlength, List.drop_left' hlength]
    exact ⟨hlead, isHyphenated_iff.mpr hbody⟩

theorem braced_iff : (match text.toList with
      | '\x7b' :: rest => rest.getLast? == some '\x7d' && isHyphenated rest.dropLast
      | _ => false) = true ↔
    ∃ body : String, text = "\x7b" ++ body ++ "\x7d" ∧ Hyphenated body := by
  constructor
  · intro h
    split at h
    · next rest htext =>
      rw [Bool.and_eq_true, beq_iff_eq] at h
      obtain ⟨hlast, hbody⟩ := h
      obtain ⟨body, rfl⟩ := List.getLast?_eq_some_iff.mp hlast
      rw [List.dropLast_concat] at hbody
      refine ⟨String.ofList body, ?_, ?_⟩
      · apply String.toList_inj.mp
        rw [htext]
        simp
      · apply isHyphenated_iff.mp
        rw [String.toList_ofList]
        exact hbody
    · cases h
  · rintro ⟨body, rfl, hbody⟩
    have htext : ("\x7b" ++ body ++ "\x7d").toList = '\x7b' :: (body.toList ++ ['\x7d']) := by simp
    rw [htext]
    simp [isHyphenated_iff.mpr hbody]

/-- A UUID is accepted in the hyphenated form and in the others. -/
theorem accepts_iff : accepts text = true ↔ Hyphenated text ∨ OtherForm text := by
  unfold accepts
  simp only [Bool.or_eq_true]
  constructor
  · rintro (((hsimple | hhyphenated) | hnamed) | hbraced)
    · obtain ⟨hlength, hdigits⟩ := isSimple_iff.mp hsimple
      exact Or.inr (.undivided hlength hdigits)
    · exact Or.inl (isHyphenated_iff.mp hhyphenated)
    · obtain ⟨lead, body, htext, hlead, hbody⟩ := named_iff.mp hnamed
      exact Or.inr (.named htext hlead hbody)
    · obtain ⟨body, htext, hbody⟩ := braced_iff.mp hbraced
      exact Or.inr (.braced htext hbody)
  · rintro (hhyphenated | ⟨hlength, hdigits⟩ | ⟨htext, hlead, hbody⟩ | ⟨htext, hbody⟩)
    · exact Or.inl (Or.inl (Or.inr (isHyphenated_iff.mpr hhyphenated)))
    · exact Or.inl (Or.inl (Or.inl (isSimple_iff.mpr ⟨hlength, hdigits⟩)))
    · exact Or.inl (Or.inr (named_iff.mpr ⟨_, _, htext, hlead, hbody⟩))
    · exact Or.inr (braced_iff.mpr ⟨_, htext, hbody⟩)

/-- A hyphenated text has 36 characters, and the other forms have 32, 45 and 38. -/
theorem Hyphenated.not_otherForm (h : Hyphenated text) : ¬ OtherForm text := by
  have hlength := h.length
  rintro (⟨hundivided, -⟩ | ⟨rfl, hlead, hbody⟩ | ⟨rfl, hbody⟩)
  · omega
  · have hnine := congrArg List.length hlead
    rw [List.length_map] at hnine
    rw [String.toList_append, List.length_append, hnine, hbody.length] at hlength
    exact absurd hlength (by decide)
  · rw [String.toList_append, String.toList_append, List.length_append, List.length_append,
      hbody.length] at hlength
    exact absurd hlength (by decide)

end Forms

/-- The rule for UUIDs lets a text pass if it is a hyphenated UUID or a UUID in one of
three other forms. So it lets exactly the hyphenated ones pass among all texts but those
in the other forms. -/
theorem uuid_passes_iff (text : String) :
    (Rule.uuid.violation? text = none ↔ Hyphenated text ∨ OtherForm text) ∧
      ((Rule.uuid.violation? text = none ↔ Hyphenated text) ↔ ¬ OtherForm text) := by
  have hpasses : Rule.uuid.violation? text = none ↔ Hyphenated text ∨ OtherForm text :=
    (Rule.violation?_eq_none_iff _ _).trans accepts_iff
  refine ⟨hpasses, ?_⟩
  rw [hpasses]
  constructor
  · intro hsame hother
    exact (hsame.mp (Or.inr hother)).not_otherForm hother
  · intro hnone
    exact or_iff_left hnone

/-- The digits of a UUID in one run are not hyphenated, but they pass. -/
theorem undivided_passes :
    ¬ (Rule.uuid.violation? "67e5504410b1426f9247bb680e5fe0c8" = none ↔
      Hyphenated "67e5504410b1426f9247bb680e5fe0c8") := by
  intro h
  have hlength := (h.mp (by decide)).length
  exact absurd hlength (by decide)

end RouteTree.Uuid
