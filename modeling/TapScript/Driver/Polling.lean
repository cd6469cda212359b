import TapScript.Config.Settings
import TapScript.Driver.Basic

/-! # Polling

Waiting for an element is a series of attempts: one at once, one after each interval, and a last
one when the time is up. Only the absence of the element is waited out.
-/

namespace TapScript

namespace Driver

variable {σ ε : Type}

/-- Attempts until the remaining time is up. -/
def poll (d : Driver σ ε) (s : Strategy) (locator : String) (p : Polling) (remaining : Nat) :
    Act σ ε :=
  tryCatch (d.find s locator) fun f =>
    if !f.isNotFound then throw f
    else if _ : remaining = 0 then
      throw (.ofProblem (.elementLate locator s.name p.timeout))
    else do
      let pause := min p.interval remaining
      d.sleep (Float.ofNat pause)
      poll d s locator p (remaining - pause)
termination_by remaining
decreasing_by
  have := p.interval_pos
  omega

/-- Waits for an element to appear. -/
def await (d : Driver σ ε) (s : Strategy) (locator : String) (p : Polling) : Act σ ε :=
  d.poll s locator p p.timeout.toNat

end Driver

end TapScript
