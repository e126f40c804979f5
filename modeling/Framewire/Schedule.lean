/-
**Taking steps until a condition holds.**

Something that moves by itself has steps that are possible now, and a time at which something will
become possible.  `runUntil` takes steps until a condition holds, and lets time pass only when there
is no step to take.

Main definitions:

* `runUntil` — the run.
-/

set_option autoImplicit false

namespace Framewire

variable {σ : Type}

/-- Takes the steps of `next` until a condition holds; where there is none, lets time pass by `wake`,
and ends where that is impossible, too.  At most `patience` steps are taken. -/
def runUntil (next wake : σ → Option σ) (condition : σ → Bool) : (patience : Nat) → σ → σ
  | 0, s => s
  | patience + 1, s =>
    if condition s then s
    else
      match next s with
      | some s => runUntil next wake condition patience s
      | none =>
        match wake s with
        | some s => runUntil next wake condition patience s
        | none => s

end Framewire
