import RouteTree.Proofs.PlainPath

/-!
# Collisions of plain paths

If parameters of two plain paths behind the same segments have the same name, then the
patterns of the paths collide only if they are the same: a text collides with no other
text and no parameter, and where both have a parameter its name is the same.
-/

namespace RouteTree

namespace Pattern

open Table

variable {s t : String} {ss ts : List String}

theorem collides_allPieces_cons : collides (allPieces (s :: ss)) (allPieces (t :: ts)) =
    collides (pieces s ++ allPieces ss) (pieces t ++ allPieces ts) := by
  simp [allPieces_cons, collides]

theorem collides_nil_cons : collides (allPieces []) (allPieces (s :: ss)) = false := by
  rw [allPieces_cons]
  rfl

theorem collides_cons_nil : collides (allPieces (s :: ss)) (allPieces []) = false := by
  rw [collides_comm, collides_nil_cons]

/-- A character before the end of a segment does not collide with that end. -/
theorem collides_allPieces_char {c : Char} (hc : c ≠ '/') (ps : Pattern) :
    collides (allPieces ss) (.char c :: ps) = false := by
  cases ss with
  | nil => rfl
  | cons s behind => simp [allPieces_cons, collides, Ne.symm hc]

/-- Texts of whole segments collide only if they are the same. -/
theorem eq_of_collides_chars {cs ds : List Char} (hcs : '/' ∉ cs) (hds : '/' ∉ ds)
    (h : collides (cs.map .char ++ allPieces ss) (ds.map .char ++ allPieces ts) = true) :
    cs = ds ∧ collides (allPieces ss) (allPieces ts) = true := by
  induction cs generalizing ds with
  | nil =>
      cases ds with
      | nil => exact ⟨rfl, h⟩
      | cons d ds =>
          rw [List.mem_cons, not_or] at hds
          rw [List.map_cons, List.cons_append, List.map_nil, List.nil_append,
            collides_allPieces_char (Ne.symm hds.1)] at h
          cases h
  | cons c cs ih =>
      rw [List.mem_cons, not_or] at hcs
      cases ds with
      | nil =>
          rw [collides_comm, List.map_cons, List.cons_append, List.map_nil, List.nil_append,
            collides_allPieces_char (Ne.symm hcs.1)] at h
          cases h
      | cons d ds =>
          rw [List.mem_cons, not_or] at hds
          rw [List.map_cons, List.map_cons, List.cons_append, List.cons_append, collides,
            Bool.and_eq_true, beq_iff_eq] at h
          obtain ⟨rfl, hrest⟩ := h
          obtain ⟨rfl, hbehind⟩ := ih hcs.2 hds.2 hrest
          exact ⟨rfl, hbehind⟩

/-- A text and a parameter do not collide. -/
theorem collides_literal_param {name : String} (hs : Unbraced s.toList) (hseg : IsSegment s)
    (ht : parameterName? t = some name) :
    collides (allPieces (s :: ss)) (allPieces (t :: ts)) = false := by
  obtain ⟨c, cs, hcs⟩ :=
    List.exists_cons_of_ne_nil (String.toList_eq_nil_iff.not.mpr hseg.nonempty)
  rw [collides_allPieces_cons, pieces_of_unbraced hs, hcs]
  unfold pieces
  rw [ht]
  simp only
  split <;> rfl

/-- Behind the same segments both have parameters of one name, if both have parameters
there. -/
def Agree (ss ts : List String) : Prop :=
  ∀ front name other, nameBehind? front ss = some name → nameBehind? front ts = some other →
    name = other

theorem Agree.tail (h : Agree (s :: ss) (s :: ts)) : Agree ss ts := by
  intro front name other hname hother
  apply h (s :: front)
  · simpa [nameBehind?] using hname
  · simpa [nameBehind?] using hother

theorem Agree.head {name other : String} (h : Agree (s :: ss) (t :: ts))
    (hs : parameterName? s = some name) (ht : parameterName? t = some other) : s = t := by
  obtain rfl := h [] name other hs ht
  rw [parameterName?_eq_some_iff] at hs ht
  exact String.toList_inj.mp (hs.trans ht.symm)

/-- A name that takes all the rest is that of no other parameter. -/
theorem parameterName?_ne_rest {name other : String} (hs : parameterName? s = some name)
    (hname : PlainName name) : parameterName? s ≠ some ("*" ++ other) := by
  intro hrest
  obtain rfl := Option.some.inj (hs.symm.trans hrest)
  apply hname.unstarred
  simp

/-- Plain segments that agree and whose patterns collide are the same. -/
theorem eq_of_collides_allPieces (hs : Plain ss) (ht : Plain ts) (hss : ∀ s ∈ ss, IsSegment s)
    (hts : ∀ t ∈ ts, IsSegment t) (hagree : Agree ss ts)
    (h : collides (allPieces ss) (allPieces ts) = true) : ss = ts := by
  induction hs generalizing ts with
  | nil =>
      cases ts with
      | nil => rfl
      | cons t behind => exact absurd h (by simp [collides_nil_cons])
  | @literal s front hs _ _ ih =>
      obtain ⟨hseg, hrest⟩ := List.forall_mem_cons.mp hss
      cases ht with
      | nil => exact absurd h (by simp [collides_cons_nil])
      | @literal t behind ht _ hbehind =>
          obtain ⟨hseg', hrest'⟩ := List.forall_mem_cons.mp hts
          rw [collides_allPieces_cons, pieces_of_unbraced hs, pieces_of_unbraced ht] at h
          obtain ⟨htext, htail⟩ := eq_of_collides_chars hseg.unslashed hseg'.unslashed h
          obtain rfl := String.toList_inj.mp htext
          rw [ih hbehind hrest hrest' hagree.tail htail]
      | param ht | rest ht => exact absurd h (by simp [collides_literal_param hs hseg ht])
  | @param s name front hs hname _ ih =>
      obtain ⟨hseg, hrest⟩ := List.forall_mem_cons.mp hss
      cases ht with
      | nil => exact absurd h (by simp [collides_cons_nil])
      | literal ht =>
          obtain ⟨hseg', -⟩ := List.forall_mem_cons.mp hts
          rw [collides_comm] at h
          exact absurd h (by simp [collides_literal_param ht hseg' hs])
      | @param t other behind ht _ hbehind =>
          obtain ⟨-, hrest'⟩ := List.forall_mem_cons.mp hts
          obtain rfl := hagree.head hs ht
          rw [collides_allPieces_cons, pieces_of_param hs hname] at h
          rw [ih hbehind hrest hrest' hagree.tail h]
      | rest ht =>
          obtain rfl := hagree.head hs ht
          exact absurd ht (parameterName?_ne_rest hs hname)
  | @rest s name hs _ =>
      cases ht with
      | nil => exact absurd h (by simp [collides_cons_nil])
      | literal ht =>
          obtain ⟨hseg', -⟩ := List.forall_mem_cons.mp hts
          rw [collides_comm] at h
          exact absurd h (by simp [collides_literal_param ht hseg' hs])
      | param ht hname =>
          obtain rfl := hagree.head hs ht
          exact absurd hs (parameterName?_ne_rest ht hname)
      | rest ht => rw [hagree.head hs ht]

/-- The pattern of no segments does not collide with that of others. -/
theorem collides_slash (hs : s ≠ "") : collides [.char '/'] (allPieces (s :: ss)) = false := by
  obtain ⟨piece, behind, hcons⟩ := List.exists_cons_of_ne_nil (pieces_ne_nil hs)
  rw [allPieces_cons, hcons]
  rfl

theorem collides_ofSegments (hss : ∀ s ∈ ss, IsSegment s) (hts : ∀ t ∈ ts, IsSegment t)
    (h : collides (ofSegments ss) (ofSegments ts) = true) :
    collides (allPieces ss) (allPieces ts) = true := by
  cases ss with
  | nil =>
      cases ts with
      | nil => rfl
      | cons t behind =>
          have ht := hts t List.mem_cons_self
          exact absurd h (by simp [ofSegments, collides_slash ht.nonempty])
  | cons s front =>
      cases ts with
      | nil =>
          have hs := hss s List.mem_cons_self
          rw [collides_comm] at h
          exact absurd h (by simp [ofSegments, collides_slash hs.nonempty])
      | cons t behind => exact h

/-- Plain paths that agree do not collide unless their segments are the same. -/
theorem PlainPath.segments_eq {path other : String} (h : PlainPath path)
    (hother : PlainPath other) (hagree : Agree (segments path) (segments other))
    (hcollides : collides (ofSegments (segments path)) (ofSegments (segments other)) = true) :
    segments path = segments other := by
  have hsegs (text : String) : ∀ s ∈ segments text, IsSegment s :=
    fun _ => isSegment_of_mem_segments
  have hpieces := collides_ofSegments (hsegs path) (hsegs other) hcollides
  exact eq_of_collides_allPieces h.plain hother.plain (hsegs path) (hsegs other) hagree hpieces

end Pattern

end RouteTree
