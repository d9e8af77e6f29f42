import RouteTree.Watch

/-!
# Waits for a value

A task that sleeps has overlooked nothing: as long as it is not woken, the latest value
is not as wanted and a sender is left. So it has ended, once it has been run, if and
only if there is nothing left to wait for.
-/

namespace RouteTree

variable {α : Type} {w : Watch α} {wanted : α → Bool} {wait : Wait} {t : Waiter}

namespace Watch

/-- There is nothing left to wait for: the value is as wanted, or no sender is left. -/
def Ends (w : Watch α) (wanted : α → Bool) : Prop := wanted w.value = true ∨ w.senders = 0

/-- A parked wait has seen the value of an earlier version, or that the latest is not as
wanted. -/
def Tracks (w : Watch α) (wanted : α → Bool) : Wait → Prop
  | .fresh => True
  | .parked seen => seen ≤ w.version ∧ (seen = w.version → wanted w.value = false)
  | .ended => True

theorem isClosed_iff : w.isClosed = true ↔ w.senders = 0 := beq_iff_eq

theorem look_cases (w : Watch α) (wanted : α → Bool) :
    w.Ends wanted ∧ w.look wanted = .ended ∨
      ¬ w.Ends wanted ∧ w.look wanted = .parked w.version := by
  have hends : (wanted w.value || w.isClosed) = true ↔ w.Ends wanted := by
    rw [Bool.or_eq_true, isClosed_iff, Ends]
  unfold look
  split
  · next h => exact Or.inl ⟨hends.mp h, rfl⟩
  · next h => exact Or.inr ⟨mt hends.mpr h, rfl⟩

/-- A wait that goes on ends if there is nothing left to wait for, and otherwise it is
parked with the latest version. -/
theorem poll_cases (h : w.Tracks wanted wait) (hwait : wait ≠ .ended) :
    w.Ends wanted ∧ w.poll wanted wait = .ended ∨
      ¬ w.Ends wanted ∧ w.poll wanted wait = .parked w.version := by
  cases wait with
  | fresh => exact w.look_cases wanted
  | ended => exact absurd rfl hwait
  | parked seen =>
      by_cases hseen : seen = w.version
      · subst hseen
        have hunwanted := h.2 rfl
        by_cases hclosed : w.isClosed = true
        · exact Or.inl ⟨Or.inr (isClosed_iff.mp hclosed), by simp [poll, hclosed]⟩
        · refine Or.inr ⟨?_, by simp [poll, hclosed]⟩
          rintro (hwanted | hsenders)
          · cases hunwanted.symm.trans hwanted
          · exact hclosed (isClosed_iff.mpr hsenders)
      · rw [poll, if_pos hseen]
        exact w.look_cases wanted

/-- A replacement is a version that no wait has seen. -/
theorem tracks_replace (h : w.Tracks wanted wait) (value : α) :
    (w.replace value).Tracks wanted wait := by
  cases wait with
  | fresh => trivial
  | ended => trivial
  | parked seen =>
      have hle : seen ≤ w.version := h.1
      have hversion : (w.replace value).version = w.version + 1 := rfl
      constructor <;> omega

theorem tracks_senders {senders : Nat} :
    Tracks { w with senders } wanted wait ↔ w.Tracks wanted wait := by
  cases wait <;> exact Iff.rfl

end Watch

namespace Waiter

open Watch

/-- A task has overlooked nothing, sleeps only while there is something to wait for, and
has not ended before there was nothing left to wait for. -/
structure Sound (t : Waiter) (w : Watch α) (wanted : α → Bool) : Prop where
  tracks : w.Tracks wanted t.wait
  alert : t.woken = false → w.Ends wanted → t.wait = .ended
  patient : t.wait = .ended → w.Ends wanted

theorem sound_start (w : Watch α) (wanted : α → Bool) : Waiter.start.Sound w wanted where
  tracks := trivial
  alert := by
    intro h
    cases h
  patient := by
    intro h
    cases h

/-- What is woken because there is nothing left to wait for will notice. -/
theorem sound_wake (htracks : w.Tracks wanted t.wait) (hends : w.Ends wanted) :
    t.wake.Sound w wanted where
  tracks := htracks
  alert := by
    intro h
    cases h
  patient := fun _ => hends

/-- As long as a sender is left, their number makes no difference. -/
theorem Sound.of_senders_ne_zero (h : t.Sound w wanted) {senders : Nat} (hbefore : w.senders ≠ 0)
    (hafter : senders ≠ 0) : t.Sound { w with senders } wanted := by
  have hends : Ends { w with senders } wanted ↔ w.Ends wanted := by
    rw [Ends, Ends, or_iff_left hbefore, or_iff_left hafter]
  exact ⟨tracks_senders.mpr h.tracks, fun hwoken hdone => h.alert hwoken (hends.mp hdone),
    fun hended => hends.mpr (h.patient hended)⟩

/-- A task that is run has ended if and only if there is nothing left to wait for. -/
theorem Sound.run_ended_iff (h : t.Sound w wanted) :
    (t.run w wanted).wait = .ended ↔ w.Ends wanted := by
  by_cases hended : t.wait = .ended
  · have hrun : (t.run w wanted).wait = .ended := by rw [Waiter.run, hended, poll]
    exact iff_of_true hrun (h.patient hended)
  · rcases poll_cases h.tracks hended with ⟨hends, hpoll⟩ | ⟨hends, hpoll⟩
    · exact iff_of_true hpoll hends
    · refine iff_of_false ?_ hends
      rw [Waiter.run, hpoll]
      exact Wait.noConfusion

theorem Sound.run (h : t.Sound w wanted) : (t.run w wanted).Sound w wanted where
  tracks := by
    by_cases hended : t.wait = .ended
    · rw [Waiter.run, hended, poll]
      trivial
    · rcases poll_cases h.tracks hended with ⟨-, hpoll⟩ | ⟨hends, hpoll⟩
      · rw [Waiter.run, hpoll]
        trivial
      · rw [Waiter.run, hpoll]
        refine ⟨Nat.le_refl _, fun _ => ?_⟩
        exact Bool.eq_false_iff.mpr fun hwanted => hends (Or.inl hwanted)
  alert := fun _ => h.run_ended_iff.mpr
  patient := h.run_ended_iff.mp

/-- So has one that is run only if it was woken: no task sleeps for ever. -/
theorem Sound.runIfWoken_ended_iff (h : t.Sound w wanted) :
    (t.runIfWoken w wanted).wait = .ended ↔ w.Ends wanted := by
  unfold runIfWoken
  split
  · exact h.run_ended_iff
  · next hwoken => exact ⟨h.patient, h.alert (Bool.eq_false_iff.mpr hwoken)⟩

end Waiter

end RouteTree
