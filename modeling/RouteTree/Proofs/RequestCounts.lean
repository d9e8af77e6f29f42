import Mathlib.Algebra.BigOperators.Group.Finset.Piecewise
import Mathlib.Order.Interval.Finset.Nat
import RouteTree.Decimal.Numeral
import RouteTree.Metrics
import RouteTree.Proofs.Admission
import RouteTree.Proofs.MatchingOrder
import RouteTree.Proofs.ResponseOrigin

/-!
# Counts of requests

An entry samples each call that it answers or rejects under its method, its path and the
status of the response, and nothing else is sampled. The series of a sample tells all
three, so each counter is the number of calls of the run that belong to it. A call that
is routed to an entry but cut off by the limit of time, or whose captured values are no
text, is lost to the counters.
-/

namespace RouteTree

namespace Sample

variable {s t : Sample}

theorem takeWhile_append_cons {α : Type} [DecidableEq α] {a : α} {xs : List α} (h : a ∉ xs)
    (us : List α) : (xs ++ a :: us).takeWhile (· ≠ a) = xs := by
  have hall : ∀ x ∈ xs, decide (x ≠ a) = true := by
    intro x hx
    exact decide_eq_true fun heq => h (heq ▸ hx)
  rw [List.takeWhile_append_of_pos hall]
  simp

/-- Lists that are equal are equal up to the first place of a member and behind it. -/
theorem eq_of_append_cons_eq {α : Type} [DecidableEq α] {a : α} {xs ys us vs : List α} (hx : a ∉ xs)
    (hy : a ∉ ys) (h : xs ++ a :: us = ys ++ a :: vs) : xs = ys ∧ us = vs := by
  have hfront : xs = ys :=
    calc xs = (xs ++ a :: us).takeWhile (· ≠ a) := (takeWhile_append_cons hx us).symm
      _ = (ys ++ a :: vs).takeWhile (· ≠ a) := by rw [h]
      _ = ys := takeWhile_append_cons hy vs
  subst hfront
  exact ⟨rfl, (List.cons.inj (List.append_cancel_left h)).2⟩

/-- The method of a sample has no space, so where it ends in a series can be told. -/
def Legible (s : Sample) : Prop := ' ' ∉ s.method.toList

/-- The series of a metric tell samples apart: a method ends at the first space, and a
status starts behind the last equals sign. -/
theorem eq_of_series_eq {metric : String} (hs : s.Legible) (ht : t.Legible)
    (h : s.series metric = t.series metric) : s = t := by
  have hroute : " route=".toList = ' ' :: "route=".toList := by decide
  have hstatus : " status=".toList = " status".toList ++ ['='] := by decide
  have hlist := congrArg String.toList h
  simp only [series, String.toList_append, List.append_assoc, hroute, hstatus,
    List.append_cancel_left_eq, List.cons_append, List.nil_append] at hlist
  obtain ⟨hmethod, hbehind⟩ := eq_of_append_cons_eq hs ht hlist
  have hreversed := congrArg List.reverse (List.append_cancel_left hbehind)
  simp only [List.reverse_append, List.reverse_cons, List.append_assoc, List.singleton_append]
    at hreversed
  have hdigits {n : Nat} : '=' ∉ (toString n).toList.reverse :=
    fun hmem => notMem_toString rfl (List.mem_reverse.mp hmem)
  obtain ⟨hcode, hfront⟩ := eq_of_append_cons_eq hdigits hdigits hreversed
  have hpath := List.reverse_injective (List.append_cancel_left hfront)
  obtain ⟨method, route, status⟩ := s
  obtain ⟨method', route', status'⟩ := t
  obtain rfl := String.toList_inj.mp hmethod
  obtain rfl := String.toList_inj.mp hpath
  obtain rfl := eq_of_toString_eq (List.reverse_injective hcode)
  rfl

theorem series_requests_ne_durations (s t : Sample) : s.series requests ≠ t.series durations := by
  intro h
  have hlist := congrArg String.toList h
  simp [series, requests, durations, String.toList_append] at hlist

end Sample

namespace Counts

/-- The counter of the requests of a sample. -/
def requests (c : Counts) (s : Sample) : Nat := (c.get? (s.series Sample.requests)).getD 0

@[simp]
theorem requests_empty (s : Sample) : requests SortedMap.empty s = 0 := rfl

theorem requests_record (c : Counts) {s t : Sample} (hs : s.Legible) (ht : t.Legible) :
    (c.record s).requests t = c.requests t + if s = t then 1 else 0 := by
  have hduration : t.series Sample.requests ≠ s.series Sample.durations :=
    t.series_requests_ne_durations s
  unfold requests record increment
  rw [SortedMap.get?_insert_of_ne _ _ hduration]
  by_cases h : s = t
  · subst h
    simp
  · have hseries : t.series Sample.requests ≠ s.series Sample.requests :=
      fun heq => h (Sample.eq_of_series_eq ht hs heq).symm
    rw [SortedMap.get?_insert_of_ne _ _ hseries, if_neg h, Nat.add_zero]

theorem requests_foldl_record (c : Counts) {samples : List Sample} {t : Sample}
    (hsamples : ∀ s ∈ samples, s.Legible) (ht : t.Legible) :
    (samples.foldl record c).requests t = c.requests t + samples.count t := by
  induction samples generalizing c with
  | nil => rfl
  | cons s rest ih =>
      obtain ⟨hs, hrest⟩ := List.forall_mem_cons.mp hsamples
      rw [List.foldl_cons, ih _ hrest, requests_record c hs ht, List.count_cons, beq_eq_decide]
      simp only [decide_eq_true_eq]
      omega

/-- A counter tells how often its sample was taken. -/
theorem requests_ofSamples {samples : List Sample} {t : Sample}
    (hsamples : ∀ s ∈ samples, s.Legible) (ht : t.Legible) :
    (ofSamples samples).requests t = samples.count t := by
  rw [ofSamples, requests_foldl_record _ hsamples ht, requests_empty, Nat.zero_add]

end Counts

theorem Sample.legible_of_isRoutable {m : Method} (h : m.isRoutable = true) (route : String)
    (code : Nat) : Legible ⟨m.token, route, code⟩ := by
  have hall : ∀ m ∈ Method.routable, ' ' ∉ m.token.toList := by decide
  exact hall m (by simpa [Method.isRoutable] using h)

namespace Application

variable {σ : Type} {app : Application σ}

/-- The entry that a call is routed to. -/
def entryFor? (app : Application σ) (call : Call) : Option (Entry σ) :=
  match app.router.route call.method call.uri.path with
  | .target (.entry e) _ => some e
  | _ => none

theorem exists_route_of_entryFor?_eq_some {call : Call} {e : Entry σ}
    (h : app.entryFor? call = some e) :
    ∃ captured, app.router.route call.method call.uri.path = .target (.entry e) captured := by
  unfold entryFor? at h
  split at h
  · next e' captured hroute =>
    obtain rfl := Option.some.inj h
    exact ⟨captured, hroute⟩
  · cases h

theorem Passes.entryFor?_eq {call : Call} {e : Entry σ} {request : Request}
    (h : app.Passes call e request) : app.entryFor? call = some e := by
  obtain ⟨captured, params, hroute, -⟩ := h
  rw [entryFor?, hroute]

end Application

/-- A call of a run, the id generated for it and the states of the controllers that it
found. -/
structure Turn (σ : Type) where
  call : Call
  generated : Bytes
  states : States σ

namespace Turn

variable {σ : Type} {app : Application σ} {t : Turn σ}

/-- What the call of a turn is answered. -/
def served (t : Turn σ) (app : Application σ) : Served σ Response :=
  app.answer t.call t.generated t.states

/-- The origin of what the call of a turn is answered. -/
def From (t : Turn σ) (app : Application σ) (origin : Origin σ) : Prop :=
  app.Produces (t.call.identified t.generated) t.states origin

/-- A call is lost to the counters: it took too long, or a captured value is no text. -/
def Lost (t : Turn σ) (app : Application σ) : Prop :=
  t.From app .timeout ∨ ∃ e name, t.From app (.undecodable e name)

theorem Lost.sample_eq_none (h : t.Lost app) : (t.served app).sample = none := by
  rcases h with htimeout | ⟨e, name, hundecodable⟩
  · exact htimeout.sample_eq
  · exact hundecodable.sample_eq

/-- A call that is routed to an entry and not lost is sampled under the status of its
response, and no other call is. -/
theorem sample_cases (t : Turn σ) (app : Application σ) :
    (t.served app).sample = none ∧ (app.entryFor? t.call = none ∨ t.Lost app) ∨
      ∃ e, app.entryFor? t.call = some e ∧
        (t.served app).sample = some (e.sample (t.served app).response.status) := by
  obtain ⟨origin, h⟩ := app.exists_produces (t.call.identified t.generated) t.states
  have hsample : (t.served app).sample = origin.sample? := h.sample_eq
  have hstatus : (t.served app).response.status =
      (origin.response?.map Response.status).getD .requestTimeout := h.status_eq
  have hidentified : app.entryFor? t.call = app.entryFor? (t.call.identified t.generated) := rfl
  rw [hsample, hstatus, hidentified]
  cases h with
  | notStarted hlimit => exact .inl ⟨rfl, .inr (.inl (.notStarted hlimit))⟩
  | fallback hlimit hroute =>
      rw [Application.entryFor?, hroute]
      exact .inl ⟨rfl, .inl rfl⟩
  | wrongMethod hlimit hroute =>
      rw [Application.entryFor?, hroute]
      exact .inl ⟨rfl, .inl rfl⟩
  | page hlimit hroute =>
      rw [Application.entryFor?, hroute]
      exact .inl ⟨rfl, .inl rfl⟩
  | undecodable hlimit hroute hcaptured =>
      exact .inl ⟨rfl, .inr (.inr ⟨_, _, .undecodable hlimit hroute hcaptured⟩)⟩
  | rejection hlimit hroute hcaptured hprepare =>
      rw [Application.entryFor?, hroute]
      exact .inr ⟨_, rfl, rfl⟩
  | @reply hlimit e request recorded hpasses hcompleted hreply =>
      refine .inr ⟨e, hpasses.entryFor?_eq, ?_⟩
      rw [Origin.response?, Option.map_some, Option.getD_some, recorded.conveys_toResponse.status]
      rfl
  | late hlimit hpasses hlate => exact .inl ⟨rfl, .inr (.inl (.late hlimit hpasses hlate))⟩

/-- A sample names the entry that the call was routed to. -/
theorem sample_eq_some_iff {x : Sample} :
    (t.served app).sample = some x ↔ ∃ e, app.entryFor? t.call = some e ∧ ¬ t.Lost app ∧
      x = e.sample (t.served app).response.status := by
  constructor
  · intro h
    rcases t.sample_cases app with ⟨hnone, -⟩ | ⟨e, he, hsample⟩
    · cases hnone.symm.trans h
    · refine ⟨e, he, ?_, (Option.some.inj (hsample.symm.trans h)).symm⟩
      intro hlost
      cases hlost.sample_eq_none.symm.trans h
  · rintro ⟨e, he, hkept, rfl⟩
    rcases t.sample_cases app with ⟨-, hnone | hlost⟩ | ⟨e', he', hsample⟩
    · cases hnone.symm.trans he
    · exact absurd hlost hkept
    · obtain rfl := Option.some.inj (he.symm.trans he')
      exact hsample

end Turn

namespace Application

variable {σ : Type} {app : Application σ}

/-- The turns of calls that are answered one after another. -/
def turns (app : Application σ) : List (Call × Bytes) → States σ → List (Turn σ)
  | [], _ => []
  | (call, generated) :: rest, states =>
    ⟨call, generated, states⟩ :: app.turns rest (app.answer call generated states).states

theorem answerAll_eq_map_turns (app : Application σ) (calls : List (Call × Bytes))
    (states : States σ) :
    app.answerAll calls states = (app.turns calls states).map fun t => t.served app := by
  induction calls generalizing states with
  | nil => rfl
  | cons c rest ih =>
      obtain ⟨call, generated⟩ := c
      rw [answerAll, turns, List.map_cons, ← ih]
      rfl

/-- The samples of a run. -/
def samples (app : Application σ) (calls : List (Call × Bytes)) (states : States σ) :
    List Sample :=
  (app.answerAll calls states).filterMap Served.sample

theorem samples_eq_filterMap_turns (app : Application σ) (calls : List (Call × Bytes))
    (states : States σ) :
    app.samples calls states =
      (app.turns calls states).filterMap fun t => (t.served app).sample := by
  rw [samples, answerAll_eq_map_turns, List.filterMap_map]
  rfl

end Application

section Counting

variable {α : Type} (l : List α) (P Q : α → Prop) [DecidablePred P] [DecidablePred Q]

theorem countP_and_not_add_countP_and :
    (l.countP fun a => P a ∧ ¬ Q a) + (l.countP fun a => P a ∧ Q a) = l.countP fun a => P a := by
  induction l with
  | nil => rfl
  | cons a rest ih =>
      have hone : (if P a ∧ ¬ Q a then 1 else 0) + (if P a ∧ Q a then 1 else 0) =
          if P a then 1 else 0 := by
        by_cases hP : P a <;> by_cases hQ : Q a <;> simp [hP, hQ]
      simp only [List.countP_cons, decide_eq_true_eq]
      omega

/-- Members are counted by what a function makes of them. -/
theorem sum_countP_and_eq {f : α → Nat} {s : Finset Nat} (hf : ∀ a, f a ∈ s) :
    ∑ n ∈ s, (l.countP fun a => P a ∧ f a = n) = l.countP fun a => P a := by
  induction l with
  | nil => simp
  | cons a rest ih =>
      simp only [List.countP_cons, decide_eq_true_eq, Finset.sum_add_distrib, ih]
      by_cases hP : P a <;> simp [hP, hf a]

end Counting

namespace Server

open Classical

variable {σ : Type} {s : Server σ} {app : Application σ}

theorem mem_entries_of_entryFor? (happ : s.assemble.1 = .ok app) {call : Call} {e : Entry σ}
    (h : app.entryFor? call = some e) : e ∈ s.entries := by
  obtain ⟨captured, hroute⟩ := Application.exists_route_of_entryFor?_eq_some h
  exact mem_entries_of_route (exists_router_of_assemble happ).1 hroute

/-- A sample of an entry is one of a call that was routed to this entry. -/
theorem sample_eq_some_sample_iff (happ : s.assemble.1 = .ok app) {t : Turn σ} {e : Entry σ}
    (he : e ∈ s.entries) {code : Nat} :
    (t.served app).sample = some ⟨e.method.token, e.path, code⟩ ↔
      app.entryFor? t.call = some e ∧ ¬ t.Lost app ∧
        (t.served app).response.status.code = code := by
  rw [Turn.sample_eq_some_iff]
  constructor
  · rintro ⟨e', he', hkept, heq⟩
    obtain ⟨htoken, hpath, hcode⟩ := (Sample.mk.injEq ..).mp heq
    have hplace : e.place = e'.place := congrArg₂ Place.mk (congrArg Method.mk htoken) hpath
    obtain rfl := eq_of_place_eq (exists_router_of_assemble happ).1 he
      (mem_entries_of_entryFor? happ he') hplace
    exact ⟨he', hkept, hcode.symm⟩
  · rintro ⟨hentry, hkept, rfl⟩
    exact ⟨e, hentry, hkept, rfl⟩

/-- The counter of an entry and a code tells how many calls of a run were routed to the
entry and answered with the code, apart from those that are lost. -/
theorem requests_samples (happ : s.assemble.1 = .ok app) (calls : List (Call × Bytes))
    (states : States σ) {e : Entry σ} (he : e ∈ s.entries) (code : Nat) :
    (Counts.ofSamples (app.samples calls states)).requests ⟨e.method.token, e.path, code⟩ =
      (app.turns calls states).countP fun t => app.entryFor? t.call = some e ∧ ¬ t.Lost app ∧
        (t.served app).response.status.code = code := by
  have hlegible {e : Entry σ} (he : e ∈ s.entries) (code : Nat) :
      Sample.Legible ⟨e.method.token, e.path, code⟩ :=
    Sample.legible_of_isRoutable
      ((router_keeps (exists_router_of_assemble happ).1).2 e he) e.path code
  have hsamples : ∀ x ∈ app.samples calls states, x.Legible := by
    intro x hx
    rw [Application.samples_eq_filterMap_turns] at hx
    obtain ⟨t, -, hsample⟩ := List.mem_filterMap.mp hx
    obtain ⟨e', he', -, rfl⟩ := Turn.sample_eq_some_iff.mp hsample
    exact hlegible (mem_entries_of_entryFor? happ he') _
  rw [Counts.requests_ofSamples hsamples (hlegible he code), Application.samples_eq_filterMap_turns,
    List.count_filterMap]
  apply List.countP_congr
  intro t _
  rw [beq_iff_eq, decide_eq_true_eq]
  exact sample_eq_some_sample_iff happ he

/-- Over any run of calls, a call that is routed to an entry of the server is sampled
once, under the method and the path of the entry and the status of the response, unless
it is lost; no other call is sampled. So the counters of an entry tell for each code how
many of its calls were answered with the code, and together with those that are lost
they add up to all calls that were routed to the entry. -/
theorem calls_counted (happ : s.assemble.1 = .ok app) (calls : List (Call × Bytes))
    (states : States σ) :
    let turns := app.turns calls states
    let counts := Counts.ofSamples (app.samples calls states)
    (∀ t ∈ turns,
      (app.entryFor? t.call = none ∨ t.Lost app → (t.served app).sample = none) ∧
      ∀ e, app.entryFor? t.call = some e → e ∈ s.entries ∧
        (¬ t.Lost app →
          (t.served app).sample = some (e.sample (t.served app).response.status))) ∧
    ∀ e ∈ s.entries,
      (∀ code, counts.requests ⟨e.method.token, e.path, code⟩ =
        turns.countP fun t => app.entryFor? t.call = some e ∧ ¬ t.Lost app ∧
          (t.served app).response.status.code = code) ∧
      ∑ code ∈ Finset.Icc 100 999, counts.requests ⟨e.method.token, e.path, code⟩ +
          (turns.countP fun t => app.entryFor? t.call = some e ∧ t.Lost app) =
        turns.countP fun t => app.entryFor? t.call = some e := by
  intro turns counts
  refine ⟨?sampled, ?counted⟩
  case sampled =>
    intro t _
    refine ⟨?_, ?_⟩
    · rintro (hnone | hlost)
      · rw [Option.eq_none_iff_forall_ne_some]
        intro x hx
        obtain ⟨e, he, -⟩ := Turn.sample_eq_some_iff.mp hx
        cases hnone.symm.trans he
      · exact hlost.sample_eq_none
    · intro e he
      refine ⟨mem_entries_of_entryFor? happ he, ?_⟩
      intro hkept
      exact Turn.sample_eq_some_iff.mpr ⟨e, he, hkept, rfl⟩
  case counted =>
    intro e he
    have hcode (code : Nat) := requests_samples happ calls states he code
    refine ⟨hcode, ?_⟩
    have hrange (t : Turn σ) : (t.served app).response.status.code ∈ Finset.Icc 100 999 :=
      Finset.mem_Icc.mpr (t.served app).response.status.three_digits
    have hsum := sum_countP_and_eq turns
      (fun t => app.entryFor? t.call = some e ∧ ¬ t.Lost app) hrange
    simp only [and_assoc] at hsum
    rw [Finset.sum_congr rfl fun code _ => hcode code, hsum]
    exact countP_and_not_add_countP_and turns _ _

end Server

namespace Application

open Classical

/-- Calls for a leaf that takes too long, for a value that is no text and for one that
is. -/
def digs : List (Call × Bytes) :=
  [(asking "/stones", [0x67]), (asking "/stones/%ff", [0x68]), (asking "/stones/7", [0x69])]

theorem digs_counted :
    let counts := Counts.ofSamples (haste.samples digs SortedMap.empty)
    let turns := haste.turns digs SortedMap.empty
    hasty.assemble.1 = .ok haste ∧
      ∃ e ∈ hasty.entries, e.path = "/stones/\x7bid\x7d" ∧
        counts.requests ⟨e.method.token, e.path, 204⟩ = 1 ∧
        ∑ code ∈ Finset.Icc 100 999, counts.requests ⟨e.method.token, e.path, code⟩ +
            (turns.countP fun t => haste.entryFor? t.call = some e ∧ t.Lost haste) =
          turns.countP fun t => haste.entryFor? t.call = some e := by
  intro counts turns
  obtain ⟨-, hcounted⟩ := Server.calls_counted assemble_hasty digs SortedMap.empty
  have hany : (hasty.entries.any fun e =>
      e.method == .get && e.path == "/stones/\x7bid\x7d") = true := by decide +kernel
  obtain ⟨e, he, hplace⟩ := List.any_eq_true.mp hany
  obtain ⟨hmethod, hpath⟩ : e.method = .get ∧ e.path = "/stones/\x7bid\x7d" := by
    simpa using hplace
  have hone : counts.requests ⟨e.method.token, e.path, 204⟩ = 1 := by
    rw [hmethod, hpath]
    decide +kernel
  exact ⟨assemble_hasty, e, he, hpath, hone, (hcounted e he).2⟩

/-- Each call is routed to an entry and answered, and only one of them is sampled. -/
theorem digs_lost :
    hasty.assemble.1 = .ok haste ∧
      (digs.map fun c => (haste.entryFor? c.1).map Entry.title) =
        [some "[GET] /stones", some "[GET] /stones/\x7bid\x7d",
          some "[GET] /stones/\x7bid\x7d"] ∧
      ((haste.answerAll digs SortedMap.empty).map fun served => served.response.status.code) =
        [408, 400, 204] ∧
      haste.samples digs SortedMap.empty = [⟨"GET", "/stones/\x7bid\x7d", 204⟩] :=
  ⟨assemble_hasty, by decide +kernel, by decide +kernel, by decide +kernel⟩

end Application

end RouteTree
