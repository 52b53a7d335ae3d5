import Mathlib.Data.List.Basic

/-! # Runs with a record of what happened

A step leads from one state to another and reports some entries. A run strings steps
together and collects their entries in order. -/

namespace WalletEngine

variable {σ ε : Type}

/-- From the first state the steps lead to the last and report the entries. -/
inductive Recorded (step : σ → List ε → σ → Prop) (first : σ) : List ε → σ → Prop
  | start : Recorded step first [] first
  | next {entries more : List ε} {before after : σ} :
      Recorded step first entries before → step before more after →
        Recorded step first (entries ++ more) after

namespace Recorded

variable {step : σ → List ε → σ → Prop} {first last : σ} {entries : List ε}

/-- What holds at first, and after every step that starts where it holds, holds in every run. -/
theorem invariant {holds : List ε → σ → Prop} (run : Recorded step first entries last)
    (start : holds [] first)
    (preserved : ∀ {entries before more after}, holds entries before → step before more after →
      holds (entries ++ more) after) : holds entries last := by
  induction run with
  | start => exact start
  | next run taken ih => exact preserved ih taken

end Recorded

end WalletEngine
