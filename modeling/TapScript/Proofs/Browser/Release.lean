import Mathlib.Data.List.Induction
import TapScript.Proofs.Browser.Log
import TapScript.Simulation.Page

/-! # What becomes of launchers and browsers

A launcher that is started has to be stopped, and a browser that is opened has to be closed. An
account of the log tells which are not. However a browser is dealt with, and whatever fails, no
browser but the one at hand stays open. A launcher stays started where closing the browser fails,
so that it is not reached, and where another is started in its place.
-/

namespace TapScript

/-- What has become of something that has to be released. -/
inductive Hold
  | kept
  | released
  | refused
  deriving DecidableEq

/-- What has become of the launchers that were started and of the browsers that were opened, the
latest first. -/
structure Account where
  launchers : List Hold := []
  browsers : List Hold := []

namespace Account

/-- How an attempt at a release leaves the latest of some holds. -/
def release (fault : Option Fault) : List Hold → List Hold
  | [] => []
  | _ :: hs => (if fault.isNone then .released else .refused) :: hs

/-- Whether the latest of some holds is still there. -/
def held : List Hold → Bool
  | [] => false
  | h :: _ => h != .released

/-- The account after one more call. A call is a release even if it fails. -/
def enter (a : Account) (x : LogEntry) : Account :=
  match x.call, x.fault with
  | .browser .start, none => { a with launchers := .kept :: a.launchers }
  | .browser .stop, f => { a with launchers := release f a.launchers }
  | .browser (.connect _), none | .browser (.launch _), none =>
    { a with browsers := .kept :: a.browsers }
  | .browser .close, f => { a with browsers := release f a.browsers }
  | _, _ => a

def unstopped (a : Account) : Nat :=
  a.launchers.count .kept

def unclosed (a : Account) : Nat :=
  a.browsers.count .kept

/-- Whether an account fits what is started and what is connected. -/
structure Fits (a : Account) (started connected : Bool) : Prop where
  launchers : started = held a.launchers
  browsers : connected = held a.browsers
  older : .kept ∉ a.browsers.tail

variable {a : Account} {x y x' y' : Bool} {b : BrowserSettings} {more : List LogEntry}
  {r : Except Fault Unit}

theorem held_cons_eq_false {k : Hold} {ks : List Hold} :
    held (k :: ks) = false ↔ k = .released := by
  simp [held]

theorem enter_opening (a : Account) (b : BrowserSettings) :
    a.enter ⟨.browser b.opening, none⟩ = { a with browsers := .kept :: a.browsers } := by
  unfold BrowserSettings.opening
  split <;> rfl

theorem enter_opening_fault (a : Account) (b : BrowserSettings) (f : Fault) :
    a.enter ⟨.browser b.opening, some f⟩ = a := by
  unfold BrowserSettings.opening
  split <;> rfl

/-- Without a browser at hand, none of those opened is open. -/
theorem Fits.closed (h : a.Fits x false) : .kept ∉ a.browsers := by
  obtain ⟨-, hb, ho⟩ := h
  cases hs : a.browsers with
  | nil => exact List.not_mem_nil
  | cons k ks =>
    rw [hs] at hb ho
    obtain rfl := held_cons_eq_false.mp hb.symm
    simpa using ho

theorem Fits.reaches (h : a.Fits x false) (hr : Reaches b more r x' y') :
    (more.foldl enter a).Fits (x || x') y' := by
  have hc := h.closed
  obtain ⟨hl, hb, ho⟩ := h
  cases hr with
  | unstarted f => exact ⟨(Bool.or_false x).trans hl, hb, ho⟩
  | unchosen f => exact ⟨Bool.or_true x, hb, ho⟩
  | unopened f =>
    simp only [List.foldl_cons, enter_opening_fault]
    exact ⟨Bool.or_true x, hb, ho⟩
  | opened =>
    simp only [List.foldl_cons, enter_opening]
    exact ⟨Bool.or_true x, rfl, hc⟩

theorem Fits.unclosed_le (h : a.Fits x y) : a.unclosed ≤ if y then 1 else 0 := by
  cases y with
  | false => exact Nat.le_of_eq (List.count_eq_zero.mpr h.closed)
  | true =>
    have ho := List.count_eq_zero.mpr h.older
    unfold unclosed
    cases hs : a.browsers with
    | nil => simp
    | cons k ks =>
      rw [hs, List.tail_cons] at ho
      cases k <;> simp [ho]

theorem Fits.unstopped_eq (h : a.Fits x y) (ho : .kept ∉ a.launchers.tail) :
    a.unstopped = if x = true ∧ a.launchers.head? ≠ some .refused then 1 else 0 := by
  have hl := h.launchers
  unfold unstopped
  cases hs : a.launchers with
  | nil => simp [hl, hs, held]
  | cons k ks =>
    rw [hs, List.tail_cons, ← List.count_eq_zero] at ho
    rw [hl, hs]
    cases k <;> simp [ho, held]

theorem unstopped_eq_zero (hk : a.launchers.head? ≠ some .kept)
    (ho : .kept ∉ a.launchers.tail) : a.unstopped = 0 := by
  refine List.count_eq_zero.mpr fun hm => ?_
  cases hs : a.launchers with
  | nil => rw [hs] at hm; exact List.not_mem_nil hm
  | cons k ks =>
    rw [hs] at hm hk ho
    obtain rfl | hm := List.mem_cons.mp hm
    · exact hk rfl
    · exact ho hm

/-- A launcher that is started while none is kept is the only one kept. -/
theorem older_of_reaches (h : a.unstopped = 0) (hr : Reaches b more r x' y') :
    .kept ∉ (more.foldl enter a).launchers.tail := by
  have hk : .kept ∉ a.launchers := List.count_eq_zero.mp h
  cases hr with
  | unstarted f => exact fun hm => hk (List.mem_of_mem_tail hm)
  | unchosen f => exact hk
  | unopened f =>
    simp only [List.foldl_cons, enter_opening_fault]
    exact hk
  | opened =>
    simp only [List.foldl_cons, enter_opening]
    exact hk

theorem foldl_paging (a : Account) (h : Attempted b.paging more r) :
    more.foldl enter a = a := by
  cases h with
  | failed f => rfl
  | cons rest =>
    cases rest with
    | failed f => rfl
    | cons rest => cases rest; rfl

theorem Fits.stops (h : a.Fits x y) (hs : Stops x more r x') :
    (more.foldl enter a).Fits x' y ∧
      (more.foldl enter a).launchers.tail = a.launchers.tail ∧
      (more.foldl enter a).launchers.head? ≠ some .kept ∧
      (more.foldl enter a).browsers = a.browsers := by
  have hl := h.launchers
  cases hk : a.launchers with
  | nil =>
    rw [hk] at hl
    subst hl
    cases hs
    exact ⟨h, by rw [List.foldl_nil, hk], by simp [hk], rfl⟩
  | cons k ks =>
    rw [hk] at hl
    cases hs with
    | idle =>
      obtain rfl := held_cons_eq_false.mp hl.symm
      exact ⟨h, by rw [List.foldl_nil, hk], by simp [hk], rfl⟩
    | stopped => exact ⟨⟨by simp [enter, hk, release, held], h.browsers, h.older⟩,
        by simp [enter, hk, release], by simp [enter, hk, release], rfl⟩
    | refused f => exact ⟨⟨by simp [enter, hk, release, held], h.browsers, h.older⟩,
        by simp [enter, hk, release], by simp [enter, hk, release], rfl⟩

theorem Fits.close (h : a.Fits x true) (fault : Option Fault) :
    (a.enter ⟨.browser .close, fault⟩).Fits x fault.isSome ∧
      .kept ∉ (a.enter ⟨.browser .close, fault⟩).browsers := by
  obtain ⟨hl, hb, ho⟩ := h
  cases hs : a.browsers with
  | nil => rw [hs] at hb; cases hb
  | cons k ks =>
    rw [hs] at ho
    cases fault with
    | none =>
      exact ⟨⟨hl, by simp [enter, hs, release, held], by simpa [enter, hs, release] using ho⟩,
        by simpa [enter, hs, release] using ho⟩
    | some f =>
      exact ⟨⟨hl, by simp [enter, hs, release, held], by simpa [enter, hs, release] using ho⟩,
        by simpa [enter, hs, release] using ho⟩

theorem Fits.leaves (h : a.Fits x y) (hl : Leaves x y more r x' y') :
    (more.foldl enter a).Fits x' y' ∧
      (more.foldl enter a).launchers.tail = a.launchers.tail ∧
      .kept ∉ (more.foldl enter a).browsers ∧
      ((more.foldl enter a).launchers.head? ≠ some .kept ∨
        ∃ f, more = [⟨.browser .close, some f⟩]) := by
  cases hl with
  | unconnected hs =>
    obtain ⟨hf, ht, hk, hb⟩ := h.stops hs
    exact ⟨hf, ht, hb ▸ h.closed, Or.inl hk⟩
  | closed hs =>
    obtain ⟨hc, hn⟩ := h.close none
    obtain ⟨hf, ht, hk, hb⟩ := hc.stops hs
    exact ⟨hf, ht, hb ▸ hn, Or.inl hk⟩
  | unclosed f =>
    obtain ⟨hc, hn⟩ := h.close (some f)
    exact ⟨hc, rfl, hn, Or.inr ⟨f, rfl⟩⟩

end Account

inductive BrowserOp
  | connect
  | newPage
  | disconnect
  | enter
  | exit
  deriving DecidableEq

namespace BrowserOp

/-- Whether the browser is reached first, if need be. -/
def reaches : BrowserOp → Bool
  | connect | newPage | enter => true
  | disconnect | exit => false

/-- Whether the browser is left, which entering it does where it fails. -/
def Leaves (r : Except Fault Unit) : BrowserOp → Prop
  | disconnect | exit => True
  | enter => ∃ f, r = .error f
  | connect | newPage => False

end BrowserOp

/-- What an operation enters, how it ends, and what is started and connected before and after. -/
inductive Deals (b : BrowserSettings) : BrowserOp → Bool → Bool → List LogEntry →
    Except Fault Unit → Bool → Bool → Prop
  | connected {x} : Deals b .connect x true [] (.ok ()) x true
  | connect {x more r x' y'} (reach : Reaches b more r x' y') :
      Deals b .connect x false more r (x || x') y'
  | inside {x} : Deals b .enter x true [] (.ok ()) x true
  | entered {x more} (reach : Reaches b more (.ok ()) true true) :
      Deals b .enter x false more (.ok ()) true true
  | refused {x more f x' more' r z} (reach : Reaches b more (.error f) x' false)
      (stop : Stops (x || x') more' r z) :
      Deals b .enter x false (more ++ more') (r.bind fun _ => .error f) z false
  | paged {x more r} (pages : Attempted b.paging more r) : Deals b .newPage x true more r x true
  | reached {x more more' r} (reach : Reaches b more (.ok ()) true true)
      (pages : Attempted b.paging more' r) : Deals b .newPage x false (more ++ more') r true true
  | unreached {x more f x'} (reach : Reaches b more (.error f) x' false) :
      Deals b .newPage x false more (.error f) (x || x') false
  | disconnected {x y more r x' y'} (leave : Leaves x y more r x' y') :
      Deals b .disconnect x y more r x' y'
  | exited {x y more r x' y'} (leave : Leaves x y more r x' y') : Deals b .exit x y more r x' y'

namespace Account

variable {op : BrowserOp} {a : Account} {x y x' y' : Bool} {b : BrowserSettings}
  {more : List LogEntry} {r : Except Fault Unit}

theorem Fits.deals (h : a.Fits x y) (hd : Deals b op x y more r x' y') :
    (more.foldl enter a).Fits x' y' := by
  cases hd with
  | connected => exact h
  | connect reach => exact h.reaches reach
  | inside => exact h
  | entered reach =>
    have hf := h.reaches reach
    rwa [Bool.or_true] at hf
  | refused reach stop =>
    rw [List.foldl_append]
    exact ((h.reaches reach).stops stop).1
  | paged pages => exact (foldl_paging a pages).symm ▸ h
  | reached reach pages =>
    have hf := h.reaches reach
    rw [Bool.or_true] at hf
    rwa [List.foldl_append, foldl_paging _ pages]
  | unreached reach => exact h.reaches reach
  | disconnected leave => exact (h.leaves leave).1
  | exited leave => exact (h.leaves leave).1

/-- The launchers before the latest are not kept, unless one is started while another is kept. -/
theorem older_of_deals (h : a.Fits x y) (hd : Deals b op x y more r x' y')
    (ho : .kept ∉ a.launchers.tail) (hc : op.reaches = true → y = true ∨ a.unstopped = 0) :
    .kept ∉ (more.foldl enter a).launchers.tail := by
  -- an operation that starts a launcher is one on a browser that is not at hand
  have free (hop : op.reaches = true) (hy : y = false) : a.unstopped = 0 :=
    (hc hop).resolve_left (by rw [hy]; exact Bool.false_ne_true)
  cases hd with
  | connected => exact ho
  | connect reach => exact older_of_reaches (free rfl rfl) reach
  | inside => exact ho
  | entered reach => exact older_of_reaches (free rfl rfl) reach
  | refused reach stop =>
    rw [List.foldl_append, ((h.reaches reach).stops stop).2.1]
    exact older_of_reaches (free rfl rfl) reach
  | paged pages => rwa [foldl_paging a pages]
  | reached reach pages =>
    rw [List.foldl_append, foldl_paging _ pages]
    exact older_of_reaches (free rfl rfl) reach
  | unreached reach => exact older_of_reaches (free rfl rfl) reach
  | disconnected leave => rwa [(h.leaves leave).2.1]
  | exited leave => rwa [(h.leaves leave).2.1]

/-- Leaving a browser closes it and stops the latest launcher, which is kept only if closing the
browser fails. -/
theorem Fits.released (h : a.Fits x y) (hd : Deals b op x y more r x' y') (hl : op.Leaves r) :
    .kept ∉ (more.foldl enter a).browsers ∧
      ((more.foldl enter a).launchers.head? ≠ some .kept ∨
        ∃ f, more = [⟨.browser .close, some f⟩]) := by
  cases hd with
  | connected => exact hl.elim
  | connect reach => exact hl.elim
  | inside => exact absurd hl nofun
  | entered reach => exact absurd hl nofun
  | refused reach stop =>
    rw [List.foldl_append]
    have hf := h.reaches reach
    obtain ⟨-, -, hk, hb⟩ := hf.stops stop
    exact ⟨hb ▸ hf.closed, Or.inl hk⟩
  | paged pages => exact hl.elim
  | reached reach pages => exact hl.elim
  | unreached reach => exact hl.elim
  | disconnected leave => exact (h.leaves leave).2.2
  | exited leave => exact (h.leaves leave).2.2

end Account

variable {σ : Type}

namespace Browser

def fresh (w : World σ) : Browser (Logged σ) :=
  Browser.logged { world := w } []

def log (s : Browser (Logged σ)) : List LogEntry :=
  s.world.devices.log

def account (s : Browser (Logged σ)) : Account :=
  s.log.foldl Account.enter {}

end Browser

namespace Launcher

open Procedure

variable (l : Launcher σ) (b : BrowserSettings)

def perform : BrowserOp → Browsing σ Unit
  | .connect => l.connect b
  | .newPage => l.newPage b
  | .disconnect | .exit => l.disconnect
  | .enter => l.enter b

/-- Does several things with a browser, each of them however the ones before ended. -/
def deal (ops : List BrowserOp) (s : Browser σ) : Browser σ :=
  ops.foldl (fun s op => ((l.perform b op).run s).2) s

theorem perform_run (op : BrowserOp) (w : World σ) (log : List LogEntry) (x y : Bool) :
    ∃ more r x' y', ∃ w' : World σ, Deals b op x y more r x' y' ∧
      (l.logged.perform b op).run ⟨w.logged log, x, y⟩ =
        (r, ⟨w'.logged (log ++ more), x', y'⟩) := by
  cases op with
  | connect =>
    cases y with
    | true => exact ⟨_, _, _, _, w, .connected, by simp [perform, connect_connected]⟩
    | false =>
      obtain ⟨more, r, x', y', w', hr, h⟩ := l.connect_run b w log x
      exact ⟨_, _, _, _, w', .connect hr, h⟩
  | enter =>
    cases y with
    | true => exact ⟨_, _, _, _, w, .inside, by simp [perform, enter_connected]⟩
    | false =>
      obtain ⟨more, w', hr, h⟩ | ⟨more, f, x', more', r, z, w', hr, hs, h⟩ := l.enter_run b w log x
      · exact ⟨_, _, _, _, w', .entered hr, h⟩
      · exact ⟨_, _, _, _, w', .refused hr hs, h⟩
  | newPage =>
    cases y with
    | true =>
      obtain ⟨more, r, w', hp, h⟩ := l.makes_newPage b w log x
      exact ⟨_, _, _, _, w', .paged hp, h⟩
    | false =>
      obtain ⟨more, r, x', y', w₁, hr, h⟩ := l.connect_run b w log x
      cases r with
      | error f =>
        obtain rfl : y' = false := by cases hr <;> rfl
        exact ⟨_, _, _, _, w₁, .unreached hr, by rw [perform, newPage_eq, run_bind_error h]⟩
      | ok u =>
        cases hr
        rw [Bool.or_true] at h
        obtain ⟨more', r, w', hp, h'⟩ := l.makes_paging b w₁ _ true
        refine ⟨_, _, _, _, w', .reached .opened hp, ?_⟩
        rw [perform, newPage_eq, run_bind_ok h, h', List.append_assoc]
  | disconnect =>
    obtain ⟨more, r, x', y', w', hl, h⟩ := l.disconnect_run w log x y
    exact ⟨_, _, _, _, w', .disconnected hl, h⟩
  | exit =>
    obtain ⟨more, r, x', y', w', hl, h⟩ := l.disconnect_run w log x y
    exact ⟨_, _, _, _, w', .exited hl, h⟩

theorem perform_deals (op : BrowserOp) (s : Browser (Logged σ)) :
    ∃ more r, Deals b op s.started s.connected more r ((l.logged.perform b op).run s).2.started
        ((l.logged.perform b op).run s).2.connected ∧
      ((l.logged.perform b op).run s).1 = r ∧
      ((l.logged.perform b op).run s).2.log = s.log ++ more := by
  obtain ⟨more, r, x', y', w', hd, h⟩ :=
    l.perform_run b op s.world.bare s.log s.started s.connected
  have hs : (l.logged.perform b op).run s = (r, ⟨w'.logged (s.log ++ more), x', y'⟩) := h
  rw [hs]
  exact ⟨more, r, hd, rfl, rfl⟩

/-- Whether a browser is reached only while it is at hand or no launcher is left over, at every
operation from a fresh start. -/
def Careful (w : World σ) (ops : List BrowserOp) : Prop :=
  ∀ before op after, ops = before ++ op :: after → op.reaches = true →
    (l.logged.deal b before (.fresh w)).connected = true ∨
      (l.logged.deal b before (.fresh w)).account.unstopped = 0

variable {w : World σ} {ops : List BrowserOp} {op : BrowserOp}

theorem deal_concat (l : Launcher σ) (ops : List BrowserOp) (op : BrowserOp) (s : Browser σ) :
    l.deal b (ops ++ [op]) s = ((l.perform b op).run (l.deal b ops s)).2 :=
  List.foldl_append

theorem mirrors_perform (op : BrowserOp) :
    Browsing.Mirrors (l.perform b op) (l.logged.perform b op) := by
  cases op with
  | connect => exact l.mirrors_connect b
  | newPage => exact l.mirrors_newPage b
  | disconnect => exact l.mirrors_disconnect
  | enter => exact l.mirrors_enter b
  | exit => exact l.mirrors_disconnect

theorem deal_logged (ops : List BrowserOp) (s : Browser σ) (log : List LogEntry) :
    ∃ more, l.logged.deal b ops (s.logged log) = (l.deal b ops s).logged (log ++ more) := by
  induction ops using List.reverseRecOn with
  | nil => exact ⟨[], by rw [List.append_nil]; rfl⟩
  | append_singleton ops op ih =>
    obtain ⟨more, h⟩ := ih
    obtain ⟨more', -, h'⟩ := l.mirrors_perform b op (l.deal b ops s) (log ++ more)
    refine ⟨more ++ more', ?_⟩
    rw [deal_concat, deal_concat, h, h', List.append_assoc]

theorem Careful.of_concat (h : l.Careful b w (ops ++ [op])) : l.Careful b w ops := by
  rintro before op' after rfl
  exact h before op' (after ++ [op]) (by simp)

theorem deal_fits (w : World σ) (ops : List BrowserOp) :
    (l.logged.deal b ops (.fresh w)).account.Fits (l.logged.deal b ops (.fresh w)).started
      (l.logged.deal b ops (.fresh w)).connected := by
  -- by the last operation, since the account goes on from what the log has so far
  induction ops using List.reverseRecOn with
  | nil => exact ⟨rfl, rfl, List.not_mem_nil⟩
  | append_singleton ops op ih =>
    rw [deal_concat]
    obtain ⟨more, r, hd, -, hlog⟩ := l.perform_deals b op (l.logged.deal b ops (.fresh w))
    unfold Browser.account at ih ⊢
    rw [hlog, List.foldl_append]
    exact ih.deals hd

theorem older_of_careful (hc : l.Careful b w ops) :
    .kept ∉ (l.logged.deal b ops (.fresh w)).account.launchers.tail := by
  induction ops using List.reverseRecOn with
  | nil => exact List.not_mem_nil
  | append_singleton ops op ih =>
    rw [deal_concat]
    obtain ⟨more, r, hd, -, hlog⟩ := l.perform_deals b op (l.logged.deal b ops (.fresh w))
    have hf := l.deal_fits b w ops
    have ho := ih (Careful.of_concat l b hc)
    unfold Browser.account at hf ho ⊢
    rw [hlog, List.foldl_append]
    exact Account.older_of_deals hf hd ho (hc ops op [] rfl)

variable (w ops) in
/-- What dealings with a browser leave: no browser that is not at hand is open, and after leaving
none at all. If they are careful, no launcher that is not at hand is started, and none at all is
after leaving, unless closing the browser failed, which is then the last call. -/
structure Accounted : Prop where
  plain : ∃ log, l.logged.deal b ops (.fresh w) = (l.deal b ops { world := w }).logged log
  browsers : (l.logged.deal b ops (.fresh w)).account.unclosed ≤
    if (l.logged.deal b ops (.fresh w)).connected then 1 else 0
  launchers : l.Careful b w ops → (l.logged.deal b ops (.fresh w)).account.unstopped =
    if (l.logged.deal b ops (.fresh w)).started = true ∧
      (l.logged.deal b ops (.fresh w)).account.launchers.head? ≠ some .refused then 1 else 0
  left : ∀ before op, ops = before ++ [op] →
    op.Leaves ((l.logged.perform b op).run (l.logged.deal b before (.fresh w))).1 →
    (l.logged.deal b ops (.fresh w)).account.unclosed = 0 ∧
      (l.Careful b w ops → (l.logged.deal b ops (.fresh w)).account.unstopped = 0 ∨
        ∃ earlier f, (l.logged.deal b ops (.fresh w)).log = earlier ++ [⟨.browser .close, some f⟩])

/-- All dealings with a browser are accounted for, whatever fails in them. -/
theorem deal_accounted (w : World σ) (ops : List BrowserOp) : l.Accounted b w ops where
  plain := l.deal_logged b ops { world := w } []
  browsers := (l.deal_fits b w ops).unclosed_le
  launchers hc := (l.deal_fits b w ops).unstopped_eq (l.older_of_careful b hc)
  left := by
    rintro before op rfl hl
    have hf := l.deal_fits b w before
    obtain ⟨more, r, hd, hr, hlog⟩ := l.perform_deals b op (l.logged.deal b before (.fresh w))
    rw [hr] at hl
    obtain ⟨hb, hk⟩ := hf.released hd hl
    have ha : (l.logged.deal b (before ++ [op]) (.fresh w)).account =
        more.foldl Account.enter (l.logged.deal b before (.fresh w)).account := by
      rw [deal_concat]
      unfold Browser.account
      rw [hlog, List.foldl_append]
    rw [← ha] at hb hk
    refine ⟨List.count_eq_zero.mpr hb, fun hc => ?_⟩
    obtain hk | ⟨f, rfl⟩ := hk
    · exact Or.inl (Account.unstopped_eq_zero hk (l.older_of_careful b hc))
    · exact Or.inr ⟨_, f, by rw [deal_concat]; exact hlog⟩

end Launcher

namespace Simulation

/-- A simulated world in which one call fails. -/
def failing (call : String) (nth : Option Nat) : World Simulation :=
  ⟨⟨[], [], []⟩, { plans := [⟨call, nth, .mishap (.page "x")⟩] }⟩

/-- A launcher stays started when closing the browser fails, and when reaching the browser is
tried again after it failed. -/
theorem deal_unstopped :
    (launcher.logged.deal {} [.connect, .disconnect]
      (.fresh (failing "browser.close" none))).account.unstopped = 1 ∧
    (launcher.logged.deal {} [.connect, .connect, .disconnect]
      (.fresh (failing "launch" (some 1)))).account.unstopped = 1 ∧
    (launcher.logged.deal {} [.connect, .connect, .disconnect]
      (.fresh (failing "launch" (some 1)))).started = false :=
  ⟨rfl, rfl, rfl⟩

end Simulation

end TapScript
