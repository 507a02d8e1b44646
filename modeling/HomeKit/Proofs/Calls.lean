import Mathlib.Data.List.Induction

/-!
# Machines that are called again and again

A machine is given by what a call answers and leaves behind. Two machines that answer every call
alike and stay related answer every sequence of calls alike (`Calls.outcomes_eq_of_simulates`).
-/

namespace HomeKit.Calls

variable {σ τ κ α : Type}

/-- The state after some calls. -/
def after (call : σ → κ → α × σ) (state : σ) (calls : List κ) : σ :=
  calls.foldl (fun state next => (call state next).2) state

/-- What each call answers. -/
def outcomes (call : σ → κ → α × σ) : σ → List κ → List α
  | _, [] => []
  | state, next :: rest => (call state next).1 :: outcomes call (call state next).2 rest

section

variable {call : σ → κ → α × σ}

theorem after_append (state : σ) (first second : List κ) :
    after call state (first ++ second) = after call (after call state first) second :=
  List.foldl_append

theorem after_concat (state : σ) (calls : List κ) (last : κ) :
    after call state (calls ++ [last]) = (call (after call state calls) last).2 :=
  after_append state calls [last]

end

/-- Machines that answer every call alike and stay related answer alike for ever. -/
theorem outcomes_eq_of_simulates {call : σ → κ → α × σ} {call' : τ → κ → α × τ}
    {related : σ → τ → Prop}
    (hstep : ∀ state state' next, related state state' →
      (call state next).1 = (call' state' next).1 ∧
        related (call state next).2 (call' state' next).2)
    (calls : List κ) {state : σ} {state' : τ} (h : related state state') :
    outcomes call state calls = outcomes call' state' calls := by
  induction calls generalizing state state' with
  | nil => rfl
  | cons next rest ih =>
    obtain ⟨hanswer, hrelated⟩ := hstep state state' next h
    rw [outcomes, outcomes, hanswer, ih hrelated]

theorem related_after_of_simulates {call : σ → κ → α × σ} {call' : τ → κ → α × τ}
    {related : σ → τ → Prop}
    (hstep : ∀ state state' next, related state state' →
      related (call state next).2 (call' state' next).2)
    (calls : List κ) {state : σ} {state' : τ} (h : related state state') :
    related (after call state calls) (after call' state' calls) := by
  induction calls generalizing state state' with
  | nil => exact h
  | cons next rest ih => exact ih (hstep state state' next h)

end HomeKit.Calls
