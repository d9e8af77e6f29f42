import RouteTree.Proofs.WatchWaits
import RouteTree.Shutdown

/-!
# Who learns of a shutdown

Handles of a signal are cloned, triggered and dropped in any order, and tasks start to
wait and are run in between. The handles tell whether one of them has triggered the
signal, and every waiter ends once that has happened or no handle is left, and none ends
before.
-/

namespace RouteTree.Shutdown

open Watch

section Actions

variable {s : Shutdown} {T : Prop} {handle : Nat}

/-- What a signal has become. It is triggered if and only if `T` holds, its senders are
the handles that are held, and its waiters are sound. -/
structure Keeps (s : Shutdown) (T : Prop) : Prop where
  triggered_iff : s.signal.triggered = true ↔ T
  senders_eq : s.signal.channel.senders = s.held.count true
  sound : ∀ t ∈ s.waiters, t.Sound s.signal.channel id

theorem keeps_single : single.Keeps False where
  triggered_iff := by decide
  senders_eq := rfl
  sound := by simp [single]

theorem holds_iff : s.holds handle = true ↔ s.held[handle]? = some true := by
  rw [holds]
  cases s.held[handle]? with
  | none => simp
  | some isHeld => simp

theorem triggered?_eq_some_iff {told : Bool} :
    s.triggered? handle = some told ↔ s.holds handle = true ∧ s.signal.triggered = told := by
  unfold triggered?
  split
  · next hheld => rw [Option.some.injEq, and_iff_right hheld]
  · next hdropped => simp [hdropped]

theorem count_pos_of_holds (h : s.holds handle = true) : 0 < s.held.count true :=
  List.count_pos_iff.mpr (List.mem_of_getElem? (holds_iff.mp h))

/-- No handle is left if none of them is held. -/
theorem count_eq_zero_iff : s.held.count true = 0 ↔ ∀ handle, s.holds handle = false := by
  rw [List.count_eq_zero]
  constructor
  · intro hnone handle
    rw [Bool.eq_false_iff]
    intro hheld
    exact hnone (List.mem_of_getElem? (holds_iff.mp hheld))
  · intro hnone hmem
    obtain ⟨handle, hhandle⟩ := List.getElem?_of_mem hmem
    exact Bool.eq_false_iff.mp (hnone handle) (holds_iff.mpr hhandle)

theorem Keeps.ends_iff (h : s.Keeps T) :
    s.signal.channel.Ends id ↔ T ∨ ∀ handle, s.holds handle = false := by
  rw [Ends, h.senders_eq, count_eq_zero_iff, ← h.triggered_iff]
  rfl

/-! ## What an action keeps -/

theorem Keeps.senders_ne_zero (h : s.Keeps T) (hheld : s.holds handle = true) :
    s.signal.channel.senders ≠ 0 := by
  have hpos := count_pos_of_holds hheld
  rw [h.senders_eq]
  omega

theorem Keeps.clone (h : s.Keeps T) (hheld : s.holds handle = true) : s.clone.Keeps T where
  triggered_iff := h.triggered_iff
  senders_eq := by
    have hcount : s.clone.held.count true = s.held.count true + 1 := by simp [Shutdown.clone]
    rw [hcount, ← h.senders_eq]
    rfl
  sound := fun t ht =>
    (h.sound t ht).of_senders_ne_zero (h.senders_ne_zero hheld) (Nat.succ_ne_zero _)

theorem Keeps.trigger (h : s.Keeps T) : s.trigger.Keeps True where
  triggered_iff := by simp [Shutdown.trigger, wakeAll]
  senders_eq := h.senders_eq
  sound := by
    intro t ht
    obtain ⟨before, hbefore, rfl⟩ := List.mem_map.mp ht
    exact Waiter.sound_wake (tracks_replace (h.sound before hbefore).tracks true) (Or.inl rfl)

theorem Keeps.wait (h : s.Keeps T) : s.wait.Keeps T where
  triggered_iff := h.triggered_iff
  senders_eq := h.senders_eq
  sound := by
    intro t ht
    rcases List.mem_append.mp ht with ht | ht
    · exact h.sound t ht
    · rw [List.mem_singleton.mp ht]
      exact Waiter.sound_start _ _

/-- A handle that is dropped was one of the senders. -/
theorem Keeps.drop (h : s.Keeps T) (hheld : s.holds handle = true) : (s.drop handle).Keeps T := by
  have hcount : (s.held.set handle false).count true = s.signal.channel.senders - 1 := by
    obtain ⟨hlt, hget⟩ := List.getElem?_eq_some_iff.mp (holds_iff.mp hheld)
    rw [List.count_set hlt, hget, h.senders_eq]
    rfl
  unfold Shutdown.drop
  simp only
  split
  · next habandoned =>
    refine ⟨h.triggered_iff, hcount.symm, ?_⟩
    intro t ht
    obtain ⟨before, hbefore, rfl⟩ := List.mem_map.mp ht
    exact Waiter.sound_wake (tracks_senders.mpr (h.sound before hbefore).tracks)
      (Or.inr (isClosed_iff.mp habandoned))
  · next hleft =>
    refine ⟨h.triggered_iff, hcount.symm, ?_⟩
    intro t ht
    exact (h.sound t ht).of_senders_ne_zero (h.senders_ne_zero hheld)
      fun hzero => hleft (isClosed_iff.mpr hzero)

theorem Keeps.poll (h : s.Keeps T) (waiter : Nat) : (s.poll waiter).Keeps T where
  triggered_iff := h.triggered_iff
  senders_eq := h.senders_eq
  sound := by
    intro t ht
    obtain ⟨place, hplace⟩ := List.mem_iff_getElem?.mp ht
    rw [Shutdown.poll, List.getElem?_modify] at hplace
    obtain ⟨before, hbefore, rfl⟩ := Option.map_eq_some_iff.mp hplace
    have hsound := h.sound before (List.mem_of_getElem? hbefore)
    by_cases hpolled : waiter = place
    · rw [if_pos hpolled]
      exact hsound.run
    · rw [if_neg hpolled]
      exact hsound

/-- An action triggers the signal. -/
def Triggers (s : Shutdown) (action : Action) : Prop :=
  ∃ handle, action = .trigger handle ∧ s.holds handle = true

/-- One action keeps everything, and the signal was triggered afterwards if it was
before or the action has triggered it. -/
theorem Keeps.act (h : s.Keeps T) (action : Action) :
    (s.act action).Keeps (T ∨ s.Triggers action) := by
  have hstays (hother : ∀ handle, action ≠ .trigger handle) : T ∨ s.Triggers action ↔ T :=
    or_iff_left fun ⟨handle, haction, _⟩ => hother handle haction
  cases action with
  | clone handle =>
      rw [hstays (by simp), Shutdown.act]
      split
      · next hheld => exact h.clone hheld
      · exact h
  | trigger handle =>
      rw [Shutdown.act]
      split
      · next hheld =>
        have htriggers : s.Triggers (.trigger handle) := ⟨handle, rfl, hheld⟩
        rw [iff_true_intro htriggers, or_true]
        exact h.trigger
      · next hdropped =>
        have hidle : ¬ s.Triggers (.trigger handle) := by
          rintro ⟨other, hother, hheld⟩
          cases hother
          exact hdropped hheld
        rw [or_iff_left hidle]
        exact h
  | wait handle =>
      rw [hstays (by simp), Shutdown.act]
      split
      · exact h.wait
      · exact h
  | drop handle =>
      rw [hstays (by simp), Shutdown.act]
      split
      · next hheld => exact h.drop hheld
      · exact h
  | poll waiter =>
      rw [hstays (by simp)]
      exact h.poll waiter

end Actions

section Runs

variable {s : Shutdown} {T : Prop} {actions : List Action}

/-- At some point of a run the signal was triggered through a handle that was held
then. -/
def TriggeredIn (s : Shutdown) (actions : List Action) : Prop :=
  ∃ before action after, actions = before ++ action :: after ∧ (s.run before).Triggers action

theorem run_cons (s : Shutdown) (action : Action) (rest : List Action) :
    s.run (action :: rest) = (s.act action).run rest := rfl

theorem not_triggeredIn_nil : ¬ s.TriggeredIn [] := by
  rintro ⟨before, action, after, hsplit, -⟩
  simp at hsplit

theorem triggeredIn_cons {action : Action} :
    s.TriggeredIn (action :: actions) ↔ s.Triggers action ∨ (s.act action).TriggeredIn actions := by
  constructor
  · rintro ⟨before, found, after, hsplit, htriggers⟩
    cases before with
    | nil =>
        obtain ⟨rfl, -⟩ := List.cons.inj hsplit
        exact Or.inl htriggers
    | cons first before =>
        obtain ⟨rfl, hrest⟩ := List.cons.inj hsplit
        exact Or.inr ⟨before, found, after, hrest, htriggers⟩
  · rintro (htriggers | ⟨before, found, after, rfl, htriggers⟩)
    · exact ⟨[], action, actions, rfl, htriggers⟩
    · exact ⟨action :: before, found, after, rfl, htriggers⟩

theorem TriggeredIn.append (h : s.TriggeredIn actions) (later : List Action) :
    s.TriggeredIn (actions ++ later) := by
  obtain ⟨before, action, after, rfl, htriggers⟩ := h
  exact ⟨before, action, after ++ later, by simp, htriggers⟩

theorem Keeps.run (h : s.Keeps T) (actions : List Action) :
    (s.run actions).Keeps (T ∨ s.TriggeredIn actions) := by
  induction actions generalizing s T with
  | nil =>
      rw [or_iff_left not_triggeredIn_nil]
      exact h
  | cons action rest ih =>
      rw [run_cons, triggeredIn_cons, ← or_assoc]
      exact ih (h.act action)

theorem keeps_run_single (actions : List Action) :
    (single.run actions).Keeps (single.TriggeredIn actions) := by
  have hrun := keeps_single.run actions
  rw [false_or] at hrun
  exact hrun

/-- A waiter that is run when it is woken has ended if and only if the signal was
triggered or no handle is left. -/
theorem Keeps.isComplete_settle_iff (h : s.Keeps T) {waiter : Nat}
    (hwaiter : waiter < s.waiters.length) :
    s.settle.isComplete waiter = true ↔ T ∨ ∀ handle, s.holds handle = false := by
  have hsound := h.sound _ (List.getElem_mem hwaiter)
  have hsettled : s.settle.isComplete waiter =
      (s.waiters[waiter].runIfWoken s.signal.channel id).isComplete := by
    simp [Shutdown.isComplete, settle, hwaiter]
  rw [hsettled, Waiter.isComplete, beq_iff_eq, hsound.runIfWoken_ended_iff, h.ends_iff]

theorem Keeps.of_isComplete (h : s.Keeps T) {waiter : Nat} (hended : s.isComplete waiter = true) :
    T ∨ ∀ handle, s.holds handle = false := by
  unfold Shutdown.isComplete at hended
  cases ht : s.waiters[waiter]? with
  | none => simp [ht] at hended
  | some t =>
      have hend : t.wait = .ended := by simpa [ht, Waiter.isComplete] using hended
      exact h.ends_iff.mp ((h.sound t (List.mem_of_getElem? ht)).patient hend)

/-- After any actions on the handles of a signal, a handle that is left tells that the
signal was triggered if and only if a handle has triggered it, and no handle takes that
back. A waiter has ended, once it has been run if it was woken, if and only if the
signal was triggered, before it started to wait or after, or no handle is left; and it
has not ended before. -/
theorem run_tells_handles_and_waiters (past : List Action) :
    let s := single.run past
    (∀ handle, s.holds handle = true →
        (s.triggered? handle = some true ↔ single.TriggeredIn past)) ∧
      (∀ handle, s.triggered? handle = some true →
        ∀ later other, (single.run (past ++ later)).triggered? other ≠ some false) ∧
      (∀ waiter < s.waiters.length,
        (s.settle.isComplete waiter = true ↔
          single.TriggeredIn past ∨ ∀ handle, s.holds handle = false)) ∧
      ∀ waiter, s.isComplete waiter = true →
        single.TriggeredIn past ∨ ∀ handle, s.holds handle = false := by
  intro s
  have hkeeps : s.Keeps (single.TriggeredIn past) := keeps_run_single past
  refine ⟨?_, ?_, fun waiter => hkeeps.isComplete_settle_iff, fun waiter => hkeeps.of_isComplete⟩
  · intro handle hheld
    rw [triggered?_eq_some_iff, and_iff_right hheld]
    exact hkeeps.triggered_iff
  · intro handle htold later other hother
    obtain ⟨-, htriggered⟩ := triggered?_eq_some_iff.mp htold
    obtain ⟨-, hforgotten⟩ := triggered?_eq_some_iff.mp hother
    have hlater := (keeps_run_single (past ++ later)).triggered_iff.mpr
      ((hkeeps.triggered_iff.mp htriggered).append later)
    cases hlater.symm.trans hforgotten

/-- A handle is cloned, a task starts to wait and is run, the first handle is dropped,
the clone triggers the signal, and another task starts to wait. -/
def departing : List Action :=
  [.clone 0, .wait 0, .poll 0, .drop 0, .trigger 1, .wait 1]

theorem departing_tells :
    (single.run departing).holds 1 = true ∧
      ((single.run departing).triggered? 1 = some true ↔ single.TriggeredIn departing) ∧
      (single.run (departing ++ [.clone 1, .drop 1])).triggered? 2 ≠ some false ∧
      1 < (single.run departing).waiters.length ∧
      (single.run departing).isComplete 0 = false ∧
      (single.run departing).settle.isComplete 0 = true ∧
      (single.run departing).settle.isComplete 1 = true := by
  obtain ⟨hhandles, hforever, hwaiters, -⟩ := run_tells_handles_and_waiters departing
  have htriggered : single.TriggeredIn departing :=
    ⟨[.clone 0, .wait 0, .poll 0, .drop 0], .trigger 1, [.wait 1], rfl, 1, rfl, by decide⟩
  have htold : (single.run departing).triggered? 1 = some true :=
    (hhandles 1 (by decide)).mpr htriggered
  exact ⟨by decide, hhandles 1 (by decide), hforever 1 htold _ 2, by decide, by decide,
    (hwaiters 0 (by decide)).mpr (Or.inl htriggered),
    (hwaiters 1 (by decide)).mpr (Or.inl htriggered)⟩

end Runs

end RouteTree.Shutdown
