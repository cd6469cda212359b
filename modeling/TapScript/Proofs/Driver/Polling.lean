import Mathlib.Algebra.Order.Floor.Div
import Mathlib.Data.Real.Basic
import TapScript.Proofs.Run.Journal

/-! # The law of polling

Waiting for an element follows a schedule that is fixed by the interval and the timeout alone:
attempts at the multiples of the interval and a last one exactly at the timeout. Where pauses do no
more than let time pass, an element is found if and only if it is there before the time is up.
-/

namespace TapScript

namespace Polling

variable (p : Polling)

/-- The time from the start of a polling to an attempt, which is given by the number of attempts
before it. -/
def instant (k : Nat) : Nat :=
  min (k * p.interval) p.timeout.toNat

/-- The number of attempts before the last one. -/
def last : Nat :=
  p.timeout.toNat ⌈/⌉ p.interval

/-- The pause after an attempt. -/
def pause (k : Nat) : Nat :=
  p.instant (k + 1) - p.instant k

/-- The calls of a number of attempts, each with the pause after it. -/
def waits {ε : Type} (s : Strategy) (locator : String) : Nat → List (Call ε)
  | 0 => []
  | n + 1 => waits s locator n ++ [.find s locator, .sleep (Float.ofNat (p.pause n))]

/-- The calls of a polling that ends with an attempt, given by the number of those before it. -/
def calls {ε : Type} (s : Strategy) (locator : String) (n : Nat) : List (Call ε) :=
  p.waits s locator n ++ [.find s locator]

/-- How a polling ends that ends with an attempt. -/
def answer {ε : Type} (s : Strategy) (locator : String) : Except Fault ε → Except Fault ε
  | .ok e => .ok e
  | .error f => .error <|
    if f.isNotFound then .ofProblem (.elementLate locator s.name p.timeout) else f

variable {p} {k : Nat}

theorem lt_last_iff : k < p.last ↔ k * p.interval < p.timeout.toNat := by
  rw [last, ← not_le, ceilDiv_le_iff_le_mul p.interval_pos, not_le, Nat.mul_comm]

theorem instant_of_lt (h : k < p.last) : p.instant k = k * p.interval :=
  min_eq_left (lt_last_iff.mp h).le

variable (p) in
@[simp] theorem instant_zero : p.instant 0 = 0 := by
  rw [instant, Nat.zero_mul, Nat.zero_min]

variable (p) in
@[simp] theorem instant_last : p.instant p.last = p.timeout.toNat :=
  min_eq_right (not_lt.mp (mt lt_last_iff.mpr (lt_irrefl _)))

theorem instant_lt (h : k < p.last) : p.instant k < p.timeout.toNat :=
  (min_le_left _ _).trans_lt (lt_last_iff.mp h)

variable (p) in
theorem instant_mono : Monotone p.instant := fun _ _ h =>
  min_le_min_right _ (Nat.mul_le_mul_right _ h)

theorem pause_eq (h : k < p.last) :
    p.pause k = min p.interval (p.timeout.toNat - p.instant k) := by
  have := lt_last_iff.mp h
  rw [pause, instant_of_lt h, instant, Nat.succ_mul]
  omega

theorem instant_add_pause : p.instant k + p.pause k = p.instant (k + 1) :=
  Nat.add_sub_of_le (p.instant_mono (Nat.le_succ k))

variable (p) in
/-- What a schedule is: attempts from the start on at the multiples of the interval, the last one
exactly at the timeout, with pauses that are never empty and never longer than the interval, and
that add up to the times of the attempts. -/
structure Scheduled : Prop where
  regular : ∀ k < p.last, p.instant k = k * p.interval
  ends : p.instant p.last = p.timeout.toNat
  pauses : ∀ k < p.last, 0 < p.pause k ∧ p.pause k ≤ p.interval
  elapsed : ∀ n, ((List.range n).map p.pause).sum = p.instant n

variable (p) in
theorem scheduled : p.Scheduled where
  regular _ h := instant_of_lt h
  ends := p.instant_last
  pauses k h := by
    have := instant_lt h
    have := p.interval_pos
    rw [pause_eq h]
    omega
  elapsed n := by
    induction n with
    | zero => simp
    | succ n ih =>
      rw [List.range_succ, List.map_append, List.sum_append, ih, ← instant_add_pause]
      simp

end Polling

/-- Whether an attempt at finding an element says that it is not there. -/
def IsAbsent {ε : Type} (r : Except Fault ε) : Prop :=
  ∃ f, r = .error f ∧ f.isNotFound = true

namespace Driver

open Procedure

variable {σ ε : Type} (d : Driver σ ε) (s : Strategy) (locator : String) (p : Polling)

/-- The world in which a polling makes an attempt, after those before it and their pauses. -/
def before (w : World σ) : Nat → World σ
  | 0 => w
  | k + 1 => ((d.sleep (Float.ofNat (p.pause k))).run ((d.find s locator).run (before w k)).2).2

/-- An attempt of a polling: its outcome and the world that it leaves. -/
def attempt (w : World σ) (k : Nat) : Except Fault ε × World σ :=
  (d.find s locator).run (d.before s locator p w k)

/-- Whether the first attempts find nothing and the pauses after them return. -/
def Waits (w : World σ) (n : Nat) : Prop :=
  ∀ k < n, IsAbsent (d.attempt s locator p w k).1 ∧
    ∃ w', (d.sleep (Float.ofNat (p.pause k))).run (d.attempt s locator p w k).2 = (.ok (), w')

/-- The ways of a polling: it ends with the first attempt that does not miss the element, or with
the last one of the schedule, or with a pause that does not return. -/
inductive Polled (w : World σ) : List (Call ε) → Except Fault ε → World σ → Prop
  | attempted {n : Nat} (scheduled : n ≤ p.last) (waits : d.Waits s locator p w n)
      (final : IsAbsent (d.attempt s locator p w n).1 → n = p.last) :
      Polled w (p.calls s locator n) (p.answer s locator (d.attempt s locator p w n).1)
        (d.attempt s locator p w n).2
  | disturbed {n : Nat} {f : Fault} {w' : World σ} (scheduled : n < p.last)
      (waits : d.Waits s locator p w n) (absent : IsAbsent (d.attempt s locator p w n).1)
      (pause : (d.sleep (Float.ofNat (p.pause n))).run (d.attempt s locator p w n).2 =
        (.error f, w')) :
      Polled w (p.waits s locator (n + 1)) (.error f) w'

/-- What a polling does when an attempt ends with a fault. -/
def retry (remaining : Nat) (f : Fault) : Act σ ε :=
  if !f.isNotFound then throw f
  else if remaining = 0 then throw (.ofProblem (.elementLate locator s.name p.timeout))
  else do
    d.sleep (Float.ofNat (min p.interval remaining))
    d.poll s locator p (remaining - min p.interval remaining)

theorem poll_eq (remaining : Nat) : d.poll s locator p remaining =
    tryCatch (d.find s locator) (d.retry s locator p remaining) := by
  rw [poll]
  rfl

variable {d s locator p} {w : World σ} {k : Nat} {f : Fault}

theorem retry_present {remaining : Nat} (h : f.isNotFound = false) :
    d.retry s locator p remaining f = throw f := by
  rw [retry, h]
  rfl

theorem retry_late (h : f.isNotFound = true) : d.retry s locator p 0 f =
    throw (.ofProblem (.elementLate locator s.name p.timeout)) := by
  rw [retry, h]
  rfl

/-- Before the last attempt, an absence is waited out by the pause of the schedule. -/
theorem retry_early (h : f.isNotFound = true) (hk : k < p.last) :
    d.retry s locator p (p.timeout.toNat - p.instant k) f =
      d.sleep (Float.ofNat (p.pause k)) >>= fun _ =>
        d.poll s locator p (p.timeout.toNat - p.instant (k + 1)) := by
  have hlt := Polling.instant_lt hk
  have hstep : p.timeout.toNat - p.instant k - p.pause k = p.timeout.toNat - p.instant (k + 1) := by
    rw [← Polling.instant_add_pause, Nat.sub_add_eq]
  rw [retry, h, if_neg (by simp), if_neg (by omega), ← Polling.pause_eq hk, hstep]

theorem Waits.succ (h : d.Waits s locator p w k) (ha : IsAbsent (d.attempt s locator p w k).1)
    {w' : World σ} (hp : (d.sleep (Float.ofNat (p.pause k))).run (d.attempt s locator p w k).2 =
      (.ok (), w')) : d.Waits s locator p w (k + 1) := by
  intro j hj
  rcases Nat.lt_succ_iff_lt_or_eq.mp hj with hj | rfl
  · exact h j hj
  · exact ⟨ha, w', hp⟩

section Step

variable {v v' : World σ} {r : Except Fault ε} {remaining : Nat}

theorem poll_present (ha : (d.find s locator).run v = (r, v')) (h : ¬ IsAbsent r) :
    Act.Traced (d.poll s locator p remaining) (d.journaled.poll s locator p remaining) v
      [.find s locator] (p.answer s locator r) v' := by
  rw [poll_eq, poll_eq]
  cases r with
  | ok e => exact (Act.Traced.respond (d := d) ha).tryCatch
  | error f =>
    have hf : f.isNotFound = false := by simpa [IsAbsent] using h
    refine (Act.Traced.respond (d := d) ha).tryCatch_error ?_
    rw [retry_present hf, retry_present hf, Polling.answer, hf]
    exact .throw f

theorem poll_late (ha : (d.find s locator).run v = (.error f, v')) (hf : f.isNotFound = true) :
    Act.Traced (d.poll s locator p 0) (d.journaled.poll s locator p 0) v
      [.find s locator] (p.answer s locator (.error f)) v' := by
  rw [poll_eq, poll_eq]
  refine (Act.Traced.respond (d := d) ha).tryCatch_error ?_
  rw [retry_late hf, retry_late hf, Polling.answer, hf]
  exact .throw _

variable (hk : k < p.last) (ha : (d.find s locator).run v = (.error f, v'))
  (hf : f.isNotFound = true)

include hk ha hf

theorem poll_disturbed {g : Fault} {v'' : World σ}
    (hp : (d.sleep (Float.ofNat (p.pause k))).run v' = (.error g, v'')) :
    Act.Traced (d.poll s locator p (p.timeout.toNat - p.instant k))
      (d.journaled.poll s locator p (p.timeout.toNat - p.instant k)) v
      [.find s locator, .sleep (Float.ofNat (p.pause k))] (.error g) v'' := by
  rw [poll_eq, poll_eq]
  refine (Act.Traced.respond (d := d) ha).tryCatch_error ?_
  rw [retry_early hf hk, retry_early hf hk]
  exact (Act.Traced.respond (d := d) hp).bind_error

theorem poll_again {v'' : World σ} {calls : List (Call ε)}
    (hp : (d.sleep (Float.ofNat (p.pause k))).run v' = (.ok (), v''))
    (h : Act.Traced (d.poll s locator p (p.timeout.toNat - p.instant (k + 1)))
      (d.journaled.poll s locator p (p.timeout.toNat - p.instant (k + 1))) v'' calls r w) :
    Act.Traced (d.poll s locator p (p.timeout.toNat - p.instant k))
      (d.journaled.poll s locator p (p.timeout.toNat - p.instant k)) v
      (.find s locator :: .sleep (Float.ofNat (p.pause k)) :: calls) r w := by
  rw [poll_eq, poll_eq]
  refine (Act.Traced.respond (d := d) ha).tryCatch_error ?_
  rw [retry_early hf hk, retry_early hf hk]
  exact (Act.Traced.respond (d := d) hp).bind h

end Step

/-- The ways of a polling from one of its attempts on, by the number of attempts still to come. -/
theorem poll_polled {m : Nat} (hk : k + m = p.last) (hw : d.Waits s locator p w k) :
    ∃ more r w', d.Polled s locator p w (p.waits s locator k ++ more) r w' ∧
      Act.Traced (d.poll s locator p (p.timeout.toNat - p.instant k))
        (d.journaled.poll s locator p (p.timeout.toNat - p.instant k))
        (d.before s locator p w k) more r w' := by
  induction m generalizing k with
  | zero =>
    obtain rfl : k = p.last := hk
    refine ⟨_, _, _, .attempted le_rfl hw fun _ => rfl, ?_⟩
    by_cases ha : IsAbsent (d.attempt s locator p w p.last).1
    · obtain ⟨f, hr, hf⟩ := ha
      rw [hr, Polling.instant_last, Nat.sub_self]
      exact poll_late (Prod.ext hr rfl) hf
    · exact poll_present rfl ha
  | succ m ih =>
    have hlt : k < p.last := by omega
    by_cases ha : IsAbsent (d.attempt s locator p w k).1
    · obtain ⟨f, hr, hf⟩ := id ha
      have hfind : (d.find s locator).run (d.before s locator p w k) =
          (.error f, (d.attempt s locator p w k).2) := Prod.ext hr rfl
      rcases hp : (d.sleep (Float.ofNat (p.pause k))).run (d.attempt s locator p w k).2 with
        ⟨g | ⟨⟩, w'⟩
      · exact ⟨_, _, _, .disturbed hlt hw ha hp, poll_disturbed hlt hfind hf hp⟩
      · obtain ⟨more, r, w₁, hm, ht⟩ := ih (by omega) (hw.succ ha hp)
        have hbefore : d.before s locator p w (k + 1) = w' := congrArg Prod.snd hp
        rw [hbefore] at ht
        refine ⟨_, r, w₁, ?_, poll_again hlt hfind hf hp ht⟩
        rwa [Polling.waits, List.append_assoc] at hm
    · exact ⟨_, _, _, .attempted hlt.le hw fun h => absurd h ha, poll_present rfl ha⟩

variable (d s locator p w) in
theorem await_polled : ∃ calls r w', d.Polled s locator p w calls r w' ∧
    Act.Traced (d.await s locator p) (d.journaled.await s locator p) w calls r w' := by
  have hw : d.Waits s locator p w 0 := nofun
  have h := poll_polled (Nat.zero_add p.last) hw
  rw [Polling.instant_zero] at h
  exact h

variable (d s locator p) in
/-- A clock that only the pauses of a schedule move, on a session where an element is there from a
time on and not before. -/
structure Clocked (clock : World σ → ℝ) (t : ℝ) : Prop where
  still : ∀ w, clock ((d.find s locator).run w).2 = clock w
  passes : ∀ w, ∀ k < p.last,
    clock ((d.sleep (Float.ofNat (p.pause k))).run w).2 = clock w + p.pause k
  shows : ∀ w, t ≤ clock w → ∃ e, ((d.find s locator).run w).1 = .ok e
  hides : ∀ w, clock w < t → IsAbsent ((d.find s locator).run w).1

section Clock

variable {clock : World σ → ℝ} {t : ℝ} (hc : d.Clocked s locator p clock t)

include hc

theorem Clocked.before (w : World σ) (hk : k ≤ p.last) :
    clock (d.before s locator p w k) = clock w + p.instant k := by
  induction k with
  | zero => simp [Driver.before]
  | succ k ih =>
    rw [Driver.before, hc.passes _ k hk, hc.still, ih (Nat.le_of_succ_le hk), add_assoc,
      ← Polling.instant_add_pause, Nat.cast_add]

theorem Clocked.attempt (w : World σ) (hk : k ≤ p.last) :
    clock (d.attempt s locator p w k).2 = clock w + p.instant k := by
  rw [Driver.attempt, hc.still, hc.before w hk]

theorem Clocked.isAbsent_iff (w : World σ) (hk : k ≤ p.last) :
    IsAbsent (d.attempt s locator p w k).1 ↔ clock w + p.instant k < t := by
  rw [← hc.before w hk]
  refine ⟨fun ⟨f, hf, _⟩ => ?_, hc.hides _⟩
  by_contra h
  obtain ⟨e, he⟩ := hc.shows _ (not_lt.mp h)
  cases hf.symm.trans he

end Clock

variable (d s locator p) in
/-- How a polling goes that ends with the attempt after a number of others: that attempt does not
miss the element or is the last one of the schedule, and all before it miss the element. With a
clock, the element is found if and only if it is there before the time is up, and then at the
earliest attempt that is not before it is there. -/
structure Awaited (w : World σ) (n : Nat) : Prop where
  bounded : n ≤ p.last
  missed : ∀ k < n, IsAbsent (d.attempt s locator p w k).1
  final : IsAbsent (d.attempt s locator p w n).1 → n = p.last
  traced : Act.Traced (d.await s locator p) (d.journaled.await s locator p) w
    (p.calls s locator n) (p.answer s locator (d.attempt s locator p w n).1)
    (d.attempt s locator p w n).2
  clocked : ∀ clock t, d.Clocked s locator p clock t →
    ((∃ e, ((d.await s locator p).run w).1 = .ok e) ↔ t ≤ clock w + p.timeout.toNat) ∧
    ∀ e w', (d.await s locator p).run w = (.ok e, w') →
      clock w' = clock w + p.instant n ∧ t ≤ clock w + p.instant n ∧
        ∀ k < n, clock w + p.instant k < t

theorem isAbsent_answer {r : Except Fault ε} (h : IsAbsent r) :
    p.answer s locator r = .error (.ofProblem (.elementLate locator s.name p.timeout)) := by
  obtain ⟨f, rfl, hf⟩ := h
  rw [Polling.answer, hf]
  rfl

/-- What polling does is fixed by its schedule and by the outcomes of its attempts. -/
theorem await_scheduled (hs : ∀ ms w, ∃ w', (d.sleep ms).run w = (.ok (), w')) (s : Strategy)
    (locator : String) (p : Polling) (w : World σ) :
    p.Scheduled ∧ ∃ n, d.Awaited s locator p w n := by
  refine ⟨p.scheduled, ?_⟩
  obtain ⟨calls, r, w', hp, ht⟩ := d.await_polled s locator p w
  cases hp with
  | disturbed _ _ _ hp =>
    obtain ⟨w'', h⟩ := hs _ _
    cases h.symm.trans hp
  | @attempted n hn hw hfinal =>
    refine ⟨n, hn, fun k hk => (hw k hk).1, hfinal, ht, fun clock t hc => ?_⟩
    have hmissed : ∀ k < n, clock w + p.instant k < t := fun k hk =>
      (hc.isAbsent_iff w (hk.le.trans hn)).mp (hw k hk).1
    rw [ht.plain]
    by_cases ha : IsAbsent (d.attempt s locator p w n).1
    · have hlate := (hc.isAbsent_iff w hn).mp ha
      rw [hfinal ha, Polling.instant_last] at hlate
      rw [isAbsent_answer ha]
      exact ⟨⟨nofun, fun h => absurd hlate (not_lt.mpr h)⟩, nofun⟩
    · have htime := not_lt.mp (mt (hc.isAbsent_iff w hn).mpr ha)
      obtain ⟨e, he⟩ := hc.shows _ ((hc.before w hn).symm ▸ htime)
      rw [show d.attempt s locator p w n = (.ok e, (d.attempt s locator p w n).2) from
        Prod.ext he rfl]
      have hle : p.instant n ≤ p.timeout.toNat := min_le_right _ _
      refine ⟨⟨fun _ => htime.trans ?_, fun _ => ⟨e, rfl⟩⟩, ?_⟩
      · exact add_le_add_right (Nat.cast_le.mpr hle) _
      · rintro e' w' ⟨⟩
        exact ⟨hc.attempt w hn, htime, hmissed⟩

end Driver

namespace Simulation

/-- A session on which nothing happens but that time passes, in milliseconds, with an element that
is there from a time on. -/
def hourglass (appears : Nat) : Driver Nat Unit where
  respond
    | .find s locator => do
      if (← get).devices < appears then throw (.ofProblem (.elementAbsent locator s.name))
    | .sleep ms => modify fun w =>
        { w with devices := w.devices + ((Decimal.truncate? ms).getD 0).toNat }
    | .readAttribute .. => pure .none
    | .click _ | .tap .. | .swipe .. | .type .. | .keys .. | .setValue .. | .quit => pure ()

theorem hourglass_sleep (appears : Nat) (ms : Float) (w : World Nat) :
    ∃ w', ((hourglass appears).sleep ms).run w = (.ok (), w') :=
  ⟨_, rfl⟩

theorem hourglass_find (appears : Nat) (s : Strategy) (locator : String) (w : World Nat) :
    ((hourglass appears).find s locator).run w = (if w.devices < appears then
      .error (.ofProblem (.elementAbsent locator s.name)) else .ok (), w) := by
  by_cases h : w.devices < appears
  · simp [hourglass, Driver.find, Procedure.run_bind, h]
  · simp [hourglass, Driver.find, Procedure.run_bind, h]

theorem hourglass_clocked (appears : Nat) (s : Strategy) (locator : String) (p : Polling)
    (hp : ∀ k < p.last, Decimal.truncate? (Float.ofNat (p.pause k)) = some (p.pause k : Int)) :
    (hourglass appears).Clocked s locator p (fun w => (w.devices : ℝ)) appears where
  still w := by rw [hourglass_find]
  passes w k hk := by
    change ((w.devices + ((Decimal.truncate? (Float.ofNat (p.pause k))).getD 0).toNat : ℕ) : ℝ) = _
    rw [hp k hk, Option.getD_some, Int.toNat_natCast, Nat.cast_add]
  shows w h := by
    rw [hourglass_find, if_neg (not_lt.mpr (Nat.cast_le.mp h))]
    exact ⟨_, rfl⟩
  hides w h := by
    rw [hourglass_find, if_pos (Nat.cast_lt.mp h)]
    exact ⟨_, rfl, rfl⟩

/-- Looked for every 300 ms for a second, an element that appears after 650 ms is found by the
attempt after 900 ms. -/
theorem await_scheduled_appearing :
    let p : Polling := ⟨300, 1000, by decide⟩
    (∀ ms w, ∃ w', ((hourglass 650).sleep ms).run w = (.ok (), w')) ∧ p.Scheduled ∧
      ∃ n, (hourglass 650).Awaited .accessibilityId "ok" p ⟨⟨[], [], []⟩, 0⟩ n ∧
        n = 3 ∧ p.instant n = 900 := by
  intro p
  have hc := hourglass_clocked 650 .accessibilityId "ok" p (by decide)
  obtain ⟨hp, n, hn⟩ := Driver.await_scheduled (hourglass_sleep 650) .accessibilityId "ok" p
    ⟨⟨[], [], []⟩, 0⟩
  refine ⟨hourglass_sleep 650, hp, n, hn, ?_⟩
  obtain ⟨hfound, hearliest⟩ := hn.clocked _ _ hc
  have htime : 650 ≤ 0 + p.timeout.toNat := by decide
  obtain ⟨e, he⟩ := hfound.mpr (by exact_mod_cast htime)
  obtain ⟨-, hthere, hmissed⟩ := hearliest e _ (Prod.ext he rfl)
  have hthere : 650 ≤ p.instant n := by simpa using hthere
  have hmissed : ∀ k < n, p.instant k < 650 := by simpa using hmissed
  have hge : 3 ≤ n := by
    by_contra h
    have hle := p.instant_mono (show n ≤ 2 by omega)
    exact absurd (hthere.trans hle) (by decide)
  have hle : n ≤ 3 := by
    by_contra h
    exact absurd (hmissed 3 (by omega)) (by decide)
  obtain rfl : n = 3 := le_antisymm hle hge
  exact ⟨rfl, rfl⟩

end Simulation

end TapScript
