/-
Event machines: a state, and a step function that says what each event does.

Two kinds occur. A *total* machine (`σ → ε → σ`) takes every event in every
state, and a run of it is `List.foldl`. A *guarded* machine (`σ → ε → Option σ`)
refuses the events that cannot happen in a state, and a run of it is `exec`.

The rules are the ones every proof about a run uses:

* `foldl_view` -- a run seen through a part of the state that only some of the
  events touch is the run of those events alone. With "the events of one stream"
  as the part, this is what makes an interleaving of many streams tractable; `exec_view`
  is the same for a guarded machine.
* `exec_map` -- one machine does to the image of a state what another does to the state.
* `exec_invariant` -- what one step keeps, a run keeps.
* `exec_invariant_of_stepsMeet` -- the same when the step needs a side condition
  and every step of the run meets it;
* `throughout_iff_stepsMeet` -- such a condition is exact, when a step that does not
  meet it leads to a state in which the property fails;
* `Spends.countP_le`, `Spends.exists_exec_atRest` -- what is only asked for so often can
  only be done so often, and comes to an end.
-/
import Mathlib.Data.List.Basic

set_option autoImplicit false

namespace Machine

variable {σ τ ε : Type*}

/-! ## Total machines -/

/-- **A run through a window.** If the events outside `p` do not change what
`view` shows, and the events inside act on it through `viewStep`, then what
`view` shows after a run is what the events inside `p` make of it. -/
theorem foldl_view (step : σ → ε → σ) (view : σ → τ) (viewStep : τ → ε → τ) (p : ε → Bool)
    (hinside : ∀ s e, p e = true → view (step s e) = viewStep (view s) e)
    (houtside : ∀ s e, p e = false → view (step s e) = view s) (s : σ) (events : List ε) :
    view (events.foldl step s) = (events.filter p).foldl viewStep (view s) := by
  induction events generalizing s with
  | nil => rfl
  | cons e events ih =>
      rw [List.foldl_cons, ih]
      rcases hp : p e with _ | _
      · rw [houtside s e hp, List.filter_cons_of_neg (by simp [hp])]
      · rw [hinside s e hp, List.filter_cons_of_pos hp, List.foldl_cons]

/-- What every step keeps, a run keeps. -/
theorem foldl_invariant (step : σ → ε → σ) (I : σ → Prop)
    (hstep : ∀ s e, I s → I (step s e)) {s : σ} (hs : I s) (events : List ε) :
    I (events.foldl step s) := by
  induction events generalizing s with
  | nil => exact hs
  | cons e events ih => exact ih (hstep s e hs)

/-! ## Guarded machines -/

/-- The state after a run of events, `none` when one of them could not happen. -/
def exec (step : σ → ε → Option σ) : σ → List ε → Option σ
  | s, [] => some s
  | s, e :: events => (step s e).bind fun s' => exec step s' events

@[simp] theorem exec_nil (step : σ → ε → Option σ) (s : σ) : exec step s [] = some s := rfl

theorem exec_cons (step : σ → ε → Option σ) (s : σ) (e : ε) (events : List ε) :
    exec step s (e :: events) = (step s e).bind fun s' => exec step s' events := rfl

/-- The first step of a run, and the rest. -/
theorem exec_cons_eq_some {step : σ → ε → Option σ} {s s'' : σ} {e : ε} {events : List ε} :
    exec step s (e :: events) = some s''
      ↔ ∃ s', step s e = some s' ∧ exec step s' events = some s'' := by
  rw [exec_cons, Option.bind_eq_some_iff]

/-- Runs compose. -/
theorem exec_append (step : σ → ε → Option σ) (s : σ) (events more : List ε) :
    exec step s (events ++ more) = (exec step s events).bind fun s' => exec step s' more := by
  induction events generalizing s with
  | nil => rfl
  | cons e events ih =>
      rw [List.cons_append, exec_cons, exec_cons, Option.bind_assoc]
      congr 1
      funext s'
      exact ih s'

/-- One more event. -/
theorem exec_snoc {step : σ → ε → Option σ} {s s' s'' : σ} {events : List ε} {e : ε}
    (hrun : exec step s events = some s') (hstep : step s' e = some s'') :
    exec step s (events ++ [e]) = some s'' := by
  rw [exec_append, hrun, Option.bind_some, exec_cons, hstep, Option.bind_some, exec_nil]

/-- **The invariant rule.** What every step keeps, a run keeps. -/
theorem exec_invariant {step : σ → ε → Option σ} (I : σ → Prop)
    (hstep : ∀ s e s', I s → step s e = some s' → I s') {s s' : σ} (hs : I s)
    {events : List ε} (hrun : exec step s events = some s') : I s' := by
  induction events generalizing s with
  | nil => exact Option.some.inj hrun ▸ hs
  | cons e events ih =>
      obtain ⟨s₁, hfirst, hrest⟩ := exec_cons_eq_some.mp hrun
      exact ih (hstep s e s₁ hs hfirst) hrest

/-- A run goes through when each of its events can happen in every state. -/
theorem exists_exec_eq_some {step : σ → ε → Option σ} {events : List ε}
    (h : ∀ e ∈ events, ∀ s, ∃ s', step s e = some s') (s : σ) :
    ∃ s', exec step s events = some s' := by
  induction events generalizing s with
  | nil => exact ⟨s, rfl⟩
  | cons e events ih =>
      obtain ⟨s₁, hfirst⟩ := h e (by simp) s
      obtain ⟨s', hrest⟩ := ih (fun e he => h e (List.mem_cons_of_mem _ he)) s₁
      exact ⟨s', exec_cons_eq_some.mpr ⟨s₁, hfirst, hrest⟩⟩

/-- **A guarded run through a window**, as `foldl_view`. -/
theorem exec_view {step : σ → ε → Option σ} (view : σ → τ) (viewStep : τ → ε → τ) (p : ε → Bool)
    (hinside : ∀ s e s', p e = true → step s e = some s' → view s' = viewStep (view s) e)
    (houtside : ∀ s e s', p e = false → step s e = some s' → view s' = view s) {s s' : σ}
    {events : List ε} (hrun : exec step s events = some s') :
    view s' = (events.filter p).foldl viewStep (view s) := by
  induction events generalizing s with
  | nil => exact congrArg view (Option.some.inj hrun).symm
  | cons e events ih =>
      obtain ⟨s₁, hfirst, hrest⟩ := exec_cons_eq_some.mp hrun
      rw [ih hrest]
      rcases hp : p e with _ | _
      · rw [houtside s e s₁ hp hfirst, List.filter_cons_of_neg (by simp [hp])]
      · rw [hinside s e s₁ hp hfirst, List.filter_cons_of_pos hp, List.foldl_cons]

/-- Every step the run takes from `s` meets the condition `C` in the state it is
taken from. -/
def StepsMeet (step : σ → ε → Option σ) (C : σ → ε → Prop) : σ → List ε → Prop
  | _, [] => True
  | s, e :: events => C s e ∧ ∀ s', step s e = some s' → StepsMeet step C s' events

/-- Whether a run meets a condition can be computed. -/
instance StepsMeet.decidable (step : σ → ε → Option σ) (C : σ → ε → Prop)
    [∀ s e, Decidable (C s e)] : ∀ s events, Decidable (StepsMeet step C s events)
  | _, [] => isTrue trivial
  | s, e :: events =>
      match h : step s e with
      | none => decidable_of_iff (C s e) (by simp [StepsMeet, h])
      | some s' =>
          have := StepsMeet.decidable step C s' events
          decidable_of_iff (C s e ∧ StepsMeet step C s' events) (by simp [StepsMeet, h])

/-- A first step that meets the condition, and a rest that does. -/
theorem StepsMeet.cons {step : σ → ε → Option σ} {C : σ → ε → Prop} {s s' : σ} {e : ε}
    {events : List ε} (hmeet : C s e) (hstep : step s e = some s')
    (hrest : StepsMeet step C s' events) : StepsMeet step C s (e :: events) :=
  ⟨hmeet, fun _ h => Option.some.inj (hstep.symm.trans h) ▸ hrest⟩

/-- A condition that every step meets. -/
theorem StepsMeet.of_forall {step : σ → ε → Option σ} {C : σ → ε → Prop}
    (h : ∀ s e, C s e) (s : σ) (events : List ε) : StepsMeet step C s events := by
  induction events generalizing s with
  | nil => trivial
  | cons e events ih => exact ⟨h s e, fun s' _ => ih s'⟩

/-- Two conditions that every step meets. -/
theorem StepsMeet.and {step : σ → ε → Option σ} {C D : σ → ε → Prop} {s : σ} {events : List ε}
    (hC : StepsMeet step C s events) (hD : StepsMeet step D s events) :
    StepsMeet step (fun s e => C s e ∧ D s e) s events := by
  induction events generalizing s with
  | nil => trivial
  | cons e events ih =>
      exact ⟨⟨hC.1, hD.1⟩, fun s' hstep => ih (hC.2 s' hstep) (hD.2 s' hstep)⟩

/-- In a run that goes through no step is refused. -/
theorem StepsMeet.of_exec {step : σ → ε → Option σ} {s s' : σ} {events : List ε}
    (hrun : exec step s events = some s') :
    StepsMeet step (fun s e => ∃ s', step s e = some s') s events := by
  induction events generalizing s with
  | nil => trivial
  | cons e events ih =>
      obtain ⟨s₁, hfirst, hrest⟩ := exec_cons_eq_some.mp hrun
      exact .cons ⟨s₁, hfirst⟩ hfirst (ih hrest)

/-- Events that meet the condition in every state, and a rest that meets it after
them. -/
theorem StepsMeet.append {step : σ → ε → Option σ} {C : σ → ε → Prop} {s s' : σ}
    {events more : List ε} (hmeet : ∀ e ∈ events, ∀ s, C s e)
    (hrun : exec step s events = some s') (hrest : StepsMeet step C s' more) :
    StepsMeet step C s (events ++ more) := by
  induction events generalizing s with
  | nil => exact Option.some.inj hrun ▸ hrest
  | cons e events ih =>
      obtain ⟨s₁, hfirst, hrun⟩ := exec_cons_eq_some.mp hrun
      exact .cons (hmeet e (by simp) s) hfirst
        (ih (fun e he => hmeet e (List.mem_cons_of_mem _ he)) hrun)

/-- Steps that meet the condition do so up to any state of the run, and from it on. -/
theorem StepsMeet.of_append {step : σ → ε → Option σ} {C : σ → ε → Prop} {s s' : σ}
    {events more : List ε} (h : StepsMeet step C s (events ++ more))
    (hrun : exec step s events = some s') :
    StepsMeet step C s events ∧ StepsMeet step C s' more := by
  induction events generalizing s with
  | nil => exact ⟨trivial, Option.some.inj hrun ▸ h⟩
  | cons e events ih =>
      obtain ⟨s₁, hfirst, hrest⟩ := exec_cons_eq_some.mp hrun
      obtain ⟨hmeet, hmore⟩ := ih (h.2 s₁ hfirst) hrest
      exact ⟨.cons h.1 hfirst hmeet, hmore⟩

/-- **The conditional invariant rule.** What every step that meets `C` keeps, a
run whose steps all meet `C` keeps. -/
theorem exec_invariant_of_stepsMeet {step : σ → ε → Option σ} {C : σ → ε → Prop} (I : σ → Prop)
    (hstep : ∀ s e s', I s → C s e → step s e = some s' → I s') {s s' : σ} (hs : I s)
    {events : List ε} (hmeet : StepsMeet step C s events)
    (hrun : exec step s events = some s') : I s' := by
  induction events generalizing s with
  | nil => exact Option.some.inj hrun ▸ hs
  | cons e events ih =>
      obtain ⟨s₁, hfirst, hrest⟩ := exec_cons_eq_some.mp hrun
      exact ih (hstep s e s₁ hs hmeet.1 hfirst) (hmeet.2 s₁ hfirst) hrest

/-! ## What a run puts out -/

/-- What the steps of a run put out, in order, where `out` says what one of them does. -/
def outputs {ω : Type*} (step : σ → ε → Option σ) (out : σ → ε → List ω) : σ → List ε → List ω
  | _, [] => []
  | s, e :: events => out s e ++ ((step s e).elim [] fun s' => outputs step out s' events)

/-- **The invariant rule with a log.** A relation between the state and the log of what has
been put out so far that every step keeps, a run keeps. -/
theorem exec_invariant_outputs {ω : Type*} {step : σ → ε → Option σ} {out : σ → ε → List ω}
    (I : σ → List ω → Prop)
    (hstep : ∀ s log e s', I s log → step s e = some s' → I s' (log ++ out s e))
    {s s' : σ} {log : List ω} (hs : I s log) {events : List ε}
    (hrun : exec step s events = some s') : I s' (log ++ outputs step out s events) := by
  induction events generalizing s log with
  | nil =>
      obtain rfl := Option.some.inj hrun
      rw [outputs, List.append_nil]
      exact hs
  | cons e events ih =>
      obtain ⟨s₁, hfirst, hrest⟩ := exec_cons_eq_some.mp hrun
      rw [outputs, hfirst, Option.elim_some, ← List.append_assoc]
      exact ih (hstep s log e s₁ hs hfirst) hrest

/-- An invariant of the state and the log, from an empty log. -/
theorem exec_invariant_log {ω : Type*} {step : σ → ε → Option σ} {out : σ → ε → List ω}
    (I : σ → List ω → Prop)
    (hstep : ∀ s log e s', I s log → step s e = some s' → I s' (log ++ out s e))
    {s s' : σ} (hs : I s []) {events : List ε} (hrun : exec step s events = some s') :
    I s' (outputs step out s events) := by
  rw [← List.nil_append (outputs step out s events)]
  exact exec_invariant_outputs I hstep hs hrun

/-- What a run puts out, part by part. -/
theorem outputs_append {ω : Type*} {step : σ → ε → Option σ} {out : σ → ε → List ω} {s s' : σ}
    {events : List ε} (hrun : exec step s events = some s') (more : List ε) :
    outputs step out s (events ++ more)
      = outputs step out s events ++ outputs step out s' more := by
  induction events generalizing s with
  | nil =>
      obtain rfl := Option.some.inj hrun
      rfl
  | cons e events ih =>
      obtain ⟨s₁, hfirst, hrest⟩ := exec_cons_eq_some.mp hrun
      rw [List.cons_append, outputs, outputs, hfirst, Option.elim_some, Option.elim_some, ih hrest,
        List.append_assoc]

/-- One more event, put out. -/
theorem outputs_concat {ω : Type*} {step : σ → ε → Option σ} {out : σ → ε → List ω} {s s' : σ}
    {events : List ε} (hrun : exec step s events = some s') (e : ε) :
    outputs step out s (events ++ [e]) = outputs step out s events ++ out s' e := by
  rw [outputs_append hrun, outputs]
  cases step s' e with
  | none => rw [Option.elim_none, List.append_nil]
  | some s'' => rw [Option.elim_some, outputs, List.append_nil]

/-- **The invariant rule with the events.** A relation between the state and the events so far
that every step keeps, a run keeps. -/
theorem exec_invariant_events {step : σ → ε → Option σ} {s₀ : σ} (I : σ → List ε → Prop)
    (hstep : ∀ s done e s', exec step s₀ done = some s → I s done → step s e = some s' →
      I s' (done ++ [e]))
    (hs : I s₀ []) {s' : σ} {events : List ε} (hrun : exec step s₀ events = some s') :
    I s' events := by
  have hmore : ∀ (events done : List ε) (s : σ), exec step s₀ done = some s → I s done →
      exec step s events = some s' → I s' (done ++ events) := by
    intro events
    induction events with
    | nil =>
        intro done s hdone hI hrun
        obtain rfl := Option.some.inj hrun
        rwa [List.append_nil]
    | cons e events ih =>
        intro done s hdone hI hrun
        obtain ⟨s₁, hfirst, hrest⟩ := exec_cons_eq_some.mp hrun
        have hI₁ := ih (done ++ [e]) s₁ (exec_snoc hdone hfirst)
          (hstep s done e s₁ hdone hI hfirst) hrest
        rwa [List.append_assoc] at hI₁
  exact hmore events [] s₀ rfl hs hrun

/-- **A machine inside another one.** Where the steps of one machine are steps of another, that
puts out the same, its runs are runs of the other. -/
theorem exec_of_inside {δ ω : Type*} {step : σ → ε → Option σ} {out : σ → ε → List ω}
    {outer : τ → δ → Option τ} {outerOut : τ → δ → List ω} (inside : τ → σ) (emb : ε → δ)
    (hout : ∀ t e, outerOut t (emb e) = out (inside t) e) {events : List ε}
    (hstep : ∀ t s', ∀ e ∈ events, step (inside t) e = some s' →
      ∃ t', outer t (emb e) = some t' ∧ inside t' = s') (t : τ) {s' : σ}
    (hrun : exec step (inside t) events = some s') :
    ∃ t', exec outer t (events.map emb) = some t' ∧ inside t' = s'
      ∧ outputs outer outerOut t (events.map emb) = outputs step out (inside t) events := by
  induction events generalizing t with
  | nil => exact ⟨t, rfl, Option.some.inj hrun, rfl⟩
  | cons e events ih =>
      obtain ⟨s₁, hfirst, hrest⟩ := exec_cons_eq_some.mp hrun
      obtain ⟨t₁, houter, rfl⟩ := hstep t s₁ e (List.mem_cons_self ..) hfirst
      obtain ⟨t', hexec, hinside, houtputs⟩ :=
        ih (fun t s' e he => hstep t s' e (List.mem_cons_of_mem _ he)) t₁ hrest
      refine ⟨t', exec_cons_eq_some.mpr ⟨t₁, houter, hexec⟩, hinside, ?_⟩
      rw [List.map_cons, outputs, outputs, houter, hfirst, Option.elim_some, Option.elim_some,
        houtputs, hout]

/-! ## Work that runs out

Some events only do what others have asked for. `taken` measures what has been asked for and
`toGo` what of it is left: a step that spends leaves less, and no other adds more than it asks
for. So no run spends more than was asked for, and what is left can be brought to an end. -/

/-- What the steps cost: each of those that spend at least one, and all of them no more than
they take on. -/
structure Spends (step : σ → ε → Option σ) (spends : ε → Bool) (toGo taken : σ → ℕ) : Prop where
  pays : ∀ {s e s'}, step s e = some s' →
    toGo s' + taken s + (if spends e = true then 1 else 0) ≤ toGo s + taken s'
  takes_nothing : ∀ {s e s'}, step s e = some s' → spends e = true → taken s' = taken s

/-- Nothing that spends can happen. -/
def AtRest (step : σ → ε → Option σ) (spends : ε → Bool) (s : σ) : Prop :=
  ∀ e, spends e = true → step s e = none

section Spends

variable {step : σ → ε → Option σ} {spends : ε → Bool} {toGo taken : σ → ℕ}

/-- **A run spends no more than it has taken on.** -/
theorem Spends.countP_le (h : Spends step spends toGo taken) {s s' : σ} {events : List ε}
    (hrun : exec step s events = some s') :
    toGo s' + taken s + events.countP spends ≤ toGo s + taken s' := by
  induction events generalizing s with
  | nil =>
      obtain rfl := Option.some.inj hrun
      exact Nat.le_refl _
  | cons e events ih =>
      obtain ⟨s₁, hfirst, hrest⟩ := exec_cons_eq_some.mp hrun
      have hpays := h.pays hfirst
      have hspent := ih hrest
      rw [List.countP_cons]
      omega

/-- **What is left can be done**, by steps that spend alone. -/
theorem Spends.exists_exec_atRest (h : Spends step spends toGo taken) (s : σ) :
    ∃ events s', (∀ e ∈ events, spends e = true) ∧ exec step s events = some s'
      ∧ AtRest step spends s' := by
  induction hleft : toGo s using Nat.strongRecOn generalizing s with
  | ind left ih =>
      by_cases hrest : AtRest step spends s
      · exact ⟨[], s, by simp, rfl, hrest⟩
      · -- one more can happen, and leaves less
        rw [AtRest] at hrest
        push Not at hrest
        obtain ⟨e, hspends, hstep⟩ := hrest
        obtain ⟨s₁, hfirst⟩ := Option.ne_none_iff_exists'.mp hstep
        have hpays := h.pays hfirst
        rw [h.takes_nothing hfirst hspends, if_pos hspends] at hpays
        obtain ⟨events, s', hevents, hexec, hatRest⟩ := ih (toGo s₁) (by omega) s₁ rfl
        exact ⟨e :: events, s', List.forall_mem_cons.mpr ⟨hspends, hevents⟩,
          exec_cons_eq_some.mpr ⟨s₁, hfirst, hexec⟩, hatRest⟩

end Spends

/-! ## Properties of every state of a run -/

/-- No step of the run is refused, and the property holds before it and after each of its
steps. -/
def Throughout (step : σ → ε → Option σ) (P : σ → Prop) (s : σ) (events : List ε) : Prop :=
  ∀ done, done <+: events → ∃ s', exec step s done = some s' ∧ P s'

/-- A property throughout a run holds before its first step. -/
theorem throughout_head {step : σ → ε → Option σ} {P : σ → Prop} {s : σ} {events : List ε}
    (h : Throughout step P s events) : P s := by
  obtain ⟨s', hrun, hP⟩ := h [] List.nil_prefix
  exact Option.some.inj hrun ▸ hP

theorem throughout_nil {step : σ → ε → Option σ} {P : σ → Prop} {s : σ} :
    Throughout step P s [] ↔ P s := by
  refine ⟨throughout_head, fun h done hdone => ?_⟩
  rw [List.prefix_nil.mp hdone]
  exact ⟨s, rfl, h⟩

theorem throughout_cons {step : σ → ε → Option σ} {P : σ → Prop} {s : σ} {e : ε}
    {events : List ε} :
    Throughout step P s (e :: events)
      ↔ P s ∧ ∃ s', step s e = some s' ∧ Throughout step P s' events := by
  constructor
  · intro h
    obtain ⟨s₁, hrun₁, -⟩ := h [e] ⟨events, rfl⟩
    obtain ⟨s', hstep, -⟩ := exec_cons_eq_some.mp hrun₁
    refine ⟨throughout_head h, s', hstep, fun done hdone => ?_⟩
    obtain ⟨s'', hrun, hP⟩ := h (e :: done) (List.cons_prefix_cons.mpr ⟨rfl, hdone⟩)
    rw [exec_cons, hstep] at hrun
    exact ⟨s'', hrun, hP⟩
  · rintro ⟨hP, s', hstep, hrest⟩ done hdone
    cases done with
    | nil => exact ⟨s, rfl, hP⟩
    | cons e' done =>
        obtain ⟨rfl, hprefix⟩ := List.cons_prefix_cons.mp hdone
        obtain ⟨s'', hrun, hP⟩ := hrest done hprefix
        exact ⟨s'', exec_cons_eq_some.mpr ⟨s', hstep, hrun⟩, hP⟩

/-- **The exactness rule.** Let an invariant hold at the start and give the property. If a
step that meets the condition keeps the invariant, and one after which the property holds
has met it, then the property holds throughout a run exactly when each of its steps meets
the condition. The steps may be assumed to meet another one, `A`. -/
theorem throughout_iff_stepsMeet {step : σ → ε → Option σ} {A C : σ → ε → Prop} {P I : σ → Prop}
    (hP : ∀ s, I s → P s)
    (hkeep : ∀ s e, I s → A s e → C s e → ∃ s', step s e = some s' ∧ I s')
    (hexact : ∀ s e s', I s → A s e → step s e = some s' → P s' → C s e)
    {s : σ} (hs : I s) {events : List ε} (hassume : StepsMeet step A s events) :
    Throughout step P s events ↔ StepsMeet step C s events := by
  induction events generalizing s with
  | nil => exact iff_of_true (throughout_nil.mpr (hP s hs)) trivial
  | cons e events ih =>
      obtain ⟨hA, hassume⟩ := hassume
      rw [throughout_cons]
      constructor
      · rintro ⟨-, s', hstep, hrest⟩
        have hC := hexact s e s' hs hA hstep (throughout_head hrest)
        obtain ⟨s'', hstep', hs'⟩ := hkeep s e hs hA hC
        obtain rfl := Option.some.inj (hstep.symm.trans hstep')
        exact .cons hC hstep ((ih hs' (hassume s' hstep)).mp hrest)
      · rintro ⟨hC, hmeet⟩
        obtain ⟨s', hstep, hs'⟩ := hkeep s e hs hA hC
        exact ⟨hP s hs, s', hstep, (ih hs' (hassume s' hstep)).mpr (hmeet s' hstep)⟩

end Machine
