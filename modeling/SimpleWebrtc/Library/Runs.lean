import Mathlib.Data.List.Basic

/-!
# Runs of an event system

A system starts in some initial states and takes one event at a time. A run
keeps the list of events it has taken. The invariant rule is stated once for
all systems, and again for runs whose steps meet a condition on the state
before the step and the event.
-/
namespace SimpleWebrtc.Library

structure EventSystem (σ ε : Type*) where
  initial : σ → Prop
  step : σ → ε → σ → Prop

namespace EventSystem
variable {σ ε : Type*} (S : EventSystem σ ε)

inductive Run : List ε → σ → Prop
  | start {s : σ} : S.initial s → Run [] s
  | step {events : List ε} {s s' : σ} {e : ε} :
      Run events s → S.step s e s' → Run (events ++ [e]) s'

/-- The same system with only those steps which meet a condition. -/
def restrict (condition : σ → ε → Prop) : EventSystem σ ε where
  initial := S.initial
  step s e s' := condition s e ∧ S.step s e s'

/-- A system whose step is a partial function; no value means the event cannot happen. -/
def ofStep (initial : σ → Prop) (step : σ → ε → Option σ) : EventSystem σ ε where
  initial
  step s e s' := step s e = some s'

variable {S}

/-- What holds at the start and is kept by a step holds in every run. -/
theorem Run.invariant {Inv : σ → Prop} (hinit : ∀ s, S.initial s → Inv s)
    (hstep : ∀ s e s', Inv s → S.step s e s' → Inv s') {events : List ε} {s : σ}
    (h : S.Run events s) : Inv s := by
  induction h with
  | start h => exact hinit _ h
  | step _ h ih => exact hstep _ _ _ ih h

/-- The invariant rule when the step needs what other rules already proved. -/
theorem Run.invariant_with {Known Inv : σ → Prop} (hknown : ∀ events s, S.Run events s → Known s)
    (hinit : ∀ s, S.initial s → Inv s)
    (hstep : ∀ s e s', Known s → Inv s → S.step s e s' → Inv s') {events : List ε} {s : σ}
    (h : S.Run events s) : Inv s := by
  induction h with
  | start h => exact hinit _ h
  | step hrun h ih => exact hstep _ _ _ (hknown _ _ hrun) ih h

theorem Run.of_restrict {condition : σ → ε → Prop} {events : List ε} {s : σ}
    (h : (S.restrict condition).Run events s) : S.Run events s := by
  induction h with
  | start h => exact .start h
  | step _ h ih => exact .step ih h.2

/-- A run whose events all meet a condition is one of the restricted system. -/
theorem Run.to_restrict {condition : σ → ε → Prop} {events : List ε} {s : σ}
    (hall : ∀ e ∈ events, ∀ s, condition s e) (h : S.Run events s) :
    (S.restrict condition).Run events s := by
  induction h with
  | start h => exact .start h
  | step _ h ih =>
      refine .step (ih fun e he => hall e (List.mem_append_left _ he)) ⟨?_, h⟩
      exact hall _ (List.mem_append_right _ (List.mem_singleton_self _)) _

/-- Executing a list of events continues a run. -/
theorem Run.exec {initial : σ → Prop} {step : σ → ε → Option σ} {before events : List ε}
    {s s' : σ} (hrun : (ofStep initial step).Run before s)
    (h : events.foldlM step s = some s') : (ofStep initial step).Run (before ++ events) s' := by
  induction events generalizing before s with
  | nil =>
      obtain rfl := Option.some.inj h
      simpa using hrun
  | cons e events ih =>
      rw [List.foldlM_cons] at h
      obtain ⟨middle, hstep, hrest⟩ := Option.bind_eq_some_iff.mp h
      simpa using ih (.step hrun hstep) hrest

/-- A system whose step is a total function runs through any list of events. -/
theorem Run.foldl {initial : σ → Prop} {step : σ → ε → σ} {before events : List ε} {s : σ}
    (hrun : (ofStep initial fun s e => some (step s e)).Run before s) :
    (ofStep initial fun s e => some (step s e)).Run (before ++ events)
      (events.foldl step s) := by
  induction events generalizing before s with
  | nil => simpa using hrun
  | cons e events ih => simpa using ih (hrun.step rfl)

/-- A decidable condition turns a restricted system into an executable one. -/
theorem restrict_ofStep (initial : σ → Prop) (step : σ → ε → Option σ)
    (condition : σ → ε → Prop) [∀ s e, Decidable (condition s e)] :
    (ofStep initial step).restrict condition =
      ofStep initial fun s e => if condition s e then step s e else none := by
  simp only [restrict, ofStep, EventSystem.mk.injEq, true_and]
  funext s e s'
  by_cases h : condition s e <;> simp [h]

theorem run_of_exec_restrict {initial : σ → Prop} {step : σ → ε → Option σ}
    {condition : σ → ε → Prop} [∀ s e, Decidable (condition s e)] {s s' : σ} {events : List ε}
    (hinit : initial s)
    (h : events.foldlM (fun s e => if condition s e then step s e else none) s = some s') :
    ((ofStep initial step).restrict condition).Run events s' := by
  rw [restrict_ofStep]
  have hstart : (ofStep initial fun s e => if condition s e then step s e else none).Run [] s :=
    .start hinit
  exact hstart.exec h

end EventSystem
end SimpleWebrtc.Library
