import TapScript.Proofs.Browser.PageLog
import TapScript.Proofs.Files.Contents

/-! # The course of a run in a browser

Reaching a browser, opening a page in it, running a script on the page and leaving the browser
follow each other, and each of the first two can fail. A machine with a log does what it does
without one, and what it enters is what these enter, one after the other.
-/

namespace TapScript

open Procedure

variable {σ : Type}

def RunReport.logged (r : RunReport σ) (log : List LogEntry) : RunReport (Logged σ) :=
  { outcome := r.outcome, world := r.world.logged log, notices := r.notices }

/-- Whether a tree has all directories that another has. -/
def FileTree.Keeps (t t' : FileTree) : Prop :=
  ∀ d, t.ensureDirs d = .ok t → t'.ensureDirs d = .ok t'

/-- Whether reaching a browser and going to an address take no directories away. -/
structure Machine.KeepsDirs (m : Machine σ) : Prop where
  launcher : ∀ c (w : World σ), w.files.Keeps ((m.launcher.respond c).run w).2.files
  visit : ∀ url (w : World σ), w.files.Keeps ((m.page.respond (.visit url)).run w).2.files

theorem Browser.logged_inj {s s' : Browser σ} {log log' : List LogEntry}
    (h : s.logged log = s'.logged log') : s = s' := by
  obtain ⟨⟨_, _⟩, _, _⟩ := s
  obtain ⟨⟨_, _⟩, _, _⟩ := s'
  cases h
  rfl

/-- What a dealing with a log leads to, it leads to without one. -/
theorem Browsing.Mirrors.plain {m : Browsing σ Unit} {m' : Browsing (Logged σ) Unit}
    (hm : Browsing.Mirrors m m') {s s' : Browser σ} {log log' : List LogEntry}
    {r : Except Fault Unit} (h : m'.run (s.logged log) = (r, s'.logged log')) :
    m.run s = (r, s') := by
  obtain ⟨more, -, hr⟩ := hm s log
  rw [h, Prod.mk.injEq] at hr
  exact Prod.ext hr.1.symm (Browser.logged_inj hr.2).symm

section Files

def Browser.Keeps (s s' : Browser σ) : Prop :=
  s.world.files.Keeps s'.world.files

theorem Browser.Keeps.of_eq {s s' : Browser σ} (h : s'.world.files = s.world.files) :
    s.Keeps s' := fun _ hd => h ▸ hd

instance : IsPreorder (Browser σ) Browser.Keeps where
  refl _ _ h := h
  trans _ _ _ h h' d hd := h' d (h d hd)

variable {m : Machine σ} (hm : m.KeepsDirs) (b : BrowserSettings)

include hm

theorem Machine.KeepsDirs.call (c : BrowserCall) :
    Within Browser.Keeps (m.launcher.call c) := fun s =>
  hm.launcher c s.world

theorem Machine.KeepsDirs.connect : Within Browser.Keeps (m.launcher.connect b) := by
  intro s
  cases hc : s.connected with
  | true => rw [Launcher.connect_connected _ b hc]; exact .of_eq rfl
  | false =>
    rw [Launcher.connect_unconnected _ b hc]
    refine ((hm.call _).bind fun _ => ?_) s
    refine Within.bind (fun _ => .of_eq rfl) fun _ => ?_
    refine (hm.call _).bind fun _ => ?_
    exact (hm.call _).bind fun _ _ => .of_eq rfl

theorem Machine.KeepsDirs.halt : Within Browser.Keeps m.launcher.halt := by
  unfold Launcher.halt
  refine Within.get.bind fun s => ?_
  split
  · exact (hm.call _).bind fun _ _ => .of_eq rfl
  · exact .pure ()

theorem Machine.KeepsDirs.disconnect : Within Browser.Keeps m.launcher.disconnect := by
  unfold Launcher.disconnect
  refine Within.get.bind fun s => ?_
  split
  · refine (hm.call _).bind fun _ => ?_
    exact Within.bind (fun _ => .of_eq rfl) fun _ => hm.halt
  · exact hm.halt

theorem Machine.KeepsDirs.enter : Within Browser.Keeps (m.launcher.enter b) :=
  (hm.connect b).tryCatch fun f => hm.disconnect.bind fun _ => .throw f

theorem Machine.KeepsDirs.openPage (s : Settings) :
    Within Browser.Keeps (m.openPage s) := by
  unfold Machine.openPage
  refine Within.bind ?_ fun _ => ?_
  · exact (hm.connect _).bind fun _ => (hm.call _).bind fun _ => hm.call _
  · split
    · exact .pure ()
    · exact .pure ()
    · next url _ _ => exact fun b => hm.visit url b.world

end Files

section Output

variable {t t' : FileTree} {file : Path} {dir : Option Path} {s : Settings}

theorem Session.ensureDirs_of_makeOutputDir {base : Path} {d : Path}
    (h : Session.makeOutputDir t base file = (.ok d, t')) :
    ∃ t₀ : FileTree, t₀.ensureDirs d = .ok t' := by
  unfold Session.makeOutputDir at h
  dsimp only at h
  split at h
  · cases h
  · next present _ =>
    generalize (if present = true then t.removeTree _ else (Except.ok (), t)) = removed at h
    obtain ⟨e | u, t₁⟩ := removed
    · cases h
    · dsimp only at h
      split at h
      · next t₂ he =>
        obtain ⟨hd, ht⟩ := Prod.mk.inj h
        exact ⟨t₁, by rw [← Except.ok.inj hd, he, ht]⟩
      · cases h

/-- The directory for the results is there once it is made, so that a session can be created. -/
theorem Settings.create_of_makeOutputDir (h : s.makeOutputDir t file = (.ok dir, t')) :
    ∃ session, Session.create t' file dir = .ok (session, t') := by
  unfold makeOutputDir at h
  split at h
  · cases h; exact ⟨_, rfl⟩
  · cases h; exact ⟨_, rfl⟩
  · next base _ _ =>
    rcases hd : Session.makeOutputDir t (.ofText base) file with ⟨e | d, t₁⟩
    · rw [hd] at h; cases h
    · rw [hd] at h
      cases h
      obtain ⟨t₀, he⟩ := Session.ensureDirs_of_makeOutputDir hd
      exact ⟨_, Outcome.bind_eq_ok.mpr ⟨t', FileTree.ensureDirs_self he, rfl⟩⟩

theorem Session.create_keeps {session : Session} (hk : t.Keeps t')
    (hs : Session.create t file dir = .ok (session, t)) :
    Session.create t' file dir = .ok (session, t') := by
  cases dir with
  | none => cases hs; rfl
  | some d =>
    obtain ⟨t₁, hd, hs⟩ := Outcome.bind_eq_ok.mp hs
    cases hs
    exact Outcome.bind_eq_ok.mpr ⟨t', hk d hd, rfl⟩

end Output

/-- The call that goes to the address of the settings. -/
def Settings.visiting (s : Settings) : List MachineCall :=
  match s.baseUrl with
  | none | some "" => []
  | some url => [.page (.visit url)]

/-- The course of a run in a browser that is not reached yet: what is entered, and the outcome. -/
inductive Machine.Course (m : Machine σ) (s : Settings) (p : Preparation) (file : Path)
    (dir : Option Path) (w : World σ) : List LogEntry → Except Fault Session → Prop
  | unreached {reach f x stop r z} (reached : Reaches s.browser reach (.error f) x false)
      (halted : Stops x stop r z) :
      Course m s p file dir w (reach ++ stop) (r.bind fun _ => .error f)
  | unopened {reach pages f leave r x y} (reached : Reaches s.browser reach (.ok ()) true true)
      (opened : Attempted (s.browser.paging ++ s.visiting) pages (.error f))
      (left : Leaves true true leave r x y) :
      Course m s p file dir w (reach ++ (pages ++ leave)) (r.bind fun _ => .error f)
  | ran {reach pages script ending leave r x y session u r' st'}
      (reached : Reaches s.browser reach (.ok ()) true true)
      (opened : Attempted (s.browser.paging ++ s.visiting) pages (.ok ()))
      (entered : (m.launcher.enter s.browser >>= fun _ => m.openPage s).run { world := w } =
        (.ok (), ⟨u, true, true⟩))
      (fresh : Session.create u.files file dir = .ok (session, u.files))
      (run : ((m.page.setup m.host p.resolver s.execution).run p.script).run
        { world := u, registry := p.registry, session } = (r', st'))
      (scripted : ∀ z ∈ script, z.isScripted = true)
      (ended : ending.call = .page .closeContext) (left : Leaves true true leave r x y) :
      Course m s p file dir w (reach ++ (pages ++ (script ++ ending :: leave)))
        (r.bind fun _ => r'.map fun _ => st'.session)

namespace Machine

variable {m : Machine σ} {s : Settings} {p : Preparation} {file : Path} {dir : Option Path}
  {w : World σ} {log : List LogEntry} {b b₁ b₂ : Browser σ} {f : Fault} {left : Except Fault Unit}

theorem runIn_unreached (h : (m.launcher.enter s.browser).run { world := w } = (.error f, b)) :
    m.runIn s p file dir w = { outcome := .error f, world := b.world } := by
  unfold runIn
  rw [h]

theorem runIn_unopened (h : (m.launcher.enter s.browser).run { world := w } = (.ok (), b))
    (ho : (m.openPage s).run b = (.error f, b₁)) (hd : m.launcher.disconnect.run b₁ = (left, b₂)) :
    m.runIn s p file dir w =
      { outcome := left.bind fun _ => .error f, world := b₂.world } := by
  unfold runIn
  rw [h]
  simp only [ho, hd]

theorem runIn_opened (h : (m.launcher.enter s.browser).run { world := w } = (.ok (), b))
    (ho : (m.openPage s).run b = (.ok (), b₁))
    (hd : m.launcher.disconnect.run { b₁ with world := (m.runOn s p file dir b₁.world).world } =
      (left, b₂)) : m.runIn s p file dir w = { m.runOn s p file dir b₁.world with
        outcome := left.bind fun _ => (m.runOn s p file dir b₁.world).outcome
        world := b₂.world } := by
  unfold runIn
  rw [h]
  simp only [ho, hd]

theorem mirrors_openPage (m : Machine σ) (s : Settings) :
    Browsing.Mirrors (m.openPage s) (m.logged.openPage s) := by
  unfold openPage
  refine (m.launcher.mirrors_newPage s.browser).bind fun _ => ?_
  split
  · exact .pure ()
  · exact .pure ()
  · next url _ _ => exact fun b _ =>
      ⟨[⟨.page (.visit url), fault? ((m.page.respond (.visit url)).run b.world).1⟩],
        fun _ _ => trivial, rfl⟩

theorem makes_openPage (m : Machine σ) (s : Settings) :
    Browsing.Makes (s.browser.paging ++ s.visiting) (m.logged.openPage s) := by
  refine (m.launcher.makes_newPage s.browser).bind ?_
  unfold Settings.visiting
  rcases s.baseUrl with _ | url
  · exact Browsing.makes_pure
  · by_cases hu : url = ""
    · subst hu
      exact Browsing.makes_pure
    · simp only
      exact Browsing.makes_act _ _

theorem runOn_created {session : Session} {files : FileTree} {r : Except Fault Unit}
    {st : RunState σ String} (hs : Session.create w.files file dir = .ok (session, files))
    (hr : ((m.page.setup m.host p.resolver s.execution).run p.script).run
      { world := { w with files }, registry := p.registry, session } = (r, st)) :
    m.runOn s p file dir w =
      { outcome := r.map fun _ => st.session, world := st.world, notices := st.notices } := by
  unfold Page.setup at hr
  unfold runOn
  rw [hs]
  dsimp only
  rw [hr]

theorem runOn_logged {session : Session} (log : List LogEntry)
    (hs : Session.create w.files file dir = .ok (session, w.files)) :
    ∃ script ending r' st',
      ((m.page.setup m.host p.resolver s.execution).run p.script).run
        { world := w, registry := p.registry, session } = (r', st') ∧
      (∀ z ∈ script, z.isScripted = true) ∧ ending.call = .page .closeContext ∧
      (m.runOn s p file dir w).outcome = r'.map (fun _ => st'.session) ∧
      m.logged.runOn s p file dir (w.logged log) =
        (m.runOn s p file dir w).logged (log ++ (script ++ [ending])) := by
  let st : RunState σ String := { world := w, registry := p.registry, session }
  obtain ⟨script, ending, hm, he, hl⟩ := m.page.run_logged m.host p.resolver s.execution p.script
    log (show Session.create w.files file dir = .ok (st.session, w.files) from hs)
  rcases hr : ((m.page.setup m.host p.resolver s.execution).run p.script).run st with ⟨r', st'⟩
  rw [hr] at hl
  have hplain : m.runOn s p file dir w = _ := runOn_created hs hr
  have hlogged : m.logged.runOn s p file dir (w.logged log) = _ :=
    runOn_created (w := w.logged log) hs hl
  refine ⟨script, ending, r', st', rfl, hm, he, by rw [hplain], ?_⟩
  rw [hplain, hlogged]
  rfl

theorem runIn_logged_unreached {reach stop : List LogEntry} {x z : Bool} {r : Except Fault Unit}
    {w' : World σ} (reached : Reaches s.browser reach (.error f) x false)
    (halted : Stops x stop r z)
    (h : (m.launcher.logged.enter s.browser).run (Browser.logged { world := w } []) =
      (r.bind fun _ => .error f, Browser.logged ⟨w', z, false⟩ (reach ++ stop))) :
    ∃ log, m.Course s p file dir w log (m.runIn s p file dir w).outcome ∧
      m.logged.runIn s p file dir (w.logged []) = (m.runIn s p file dir w).logged log := by
  have hp := (m.launcher.mirrors_enter s.browser).plain h
  obtain ⟨g, hg⟩ : ∃ g, (r.bind fun _ => .error f : Except Fault Unit) = .error g := by
    cases r <;> exact ⟨_, rfl⟩
  have hg' : (r.bind fun _ => .error f : Except Fault Session) = .error g := by
    cases r <;> cases hg <;> rfl
  rw [hg] at h hp
  have hlogged : m.logged.runIn s p file dir (w.logged []) = _ := runIn_unreached h
  refine ⟨reach ++ stop, ?_, ?_⟩
  · rw [runIn_unreached hp, ← hg']
    exact .unreached reached halted
  · rw [hlogged, runIn_unreached hp]
    rfl

theorem runIn_logged_unopened {reach pages : List LogEntry} {w₁ w₂ : World σ}
    (reached : Reaches s.browser reach (.ok ()) true true)
    (opened : Attempted (s.browser.paging ++ s.visiting) pages (.error f))
    (h : (m.launcher.logged.enter s.browser).run (Browser.logged { world := w } []) =
      (.ok (), Browser.logged ⟨w₁, true, true⟩ reach))
    (ho : (m.logged.openPage s).run (Browser.logged ⟨w₁, true, true⟩ reach) =
      (.error f, Browser.logged ⟨w₂, true, true⟩ (reach ++ pages))) :
    ∃ log, m.Course s p file dir w log (m.runIn s p file dir w).outcome ∧
      m.logged.runIn s p file dir (w.logged []) = (m.runIn s p file dir w).logged log := by
  obtain ⟨leave, r, x, y, w₃, left, hd⟩ :=
    m.launcher.disconnect_run w₂ (reach ++ pages) true true
  have hleft : m.launcher.disconnect.run ⟨w₂, true, true⟩ = (r, ⟨w₃, x, y⟩) :=
    m.launcher.mirrors_disconnect.plain hd
  have hplain : m.runIn s p file dir w = _ :=
    runIn_unopened ((m.launcher.mirrors_enter s.browser).plain h)
      ((m.mirrors_openPage s).plain ho) hleft
  have hlogged : m.logged.runIn s p file dir (w.logged []) = _ := runIn_unopened h ho hd
  refine ⟨reach ++ (pages ++ leave), ?_, ?_⟩
  · rw [hplain]
    exact .unopened reached opened left
  · rw [hlogged, hplain, List.append_assoc]
    rfl

theorem runIn_logged_opened {reach pages : List LogEntry} {w₁ w₂ : World σ} {session : Session}
    (hs : Session.create w₂.files file dir = .ok (session, w₂.files))
    (reached : Reaches s.browser reach (.ok ()) true true)
    (opened : Attempted (s.browser.paging ++ s.visiting) pages (.ok ()))
    (entered : (m.launcher.enter s.browser).run { world := w } = (.ok (), ⟨w₁, true, true⟩))
    (paged : (m.openPage s).run ⟨w₁, true, true⟩ = (.ok (), ⟨w₂, true, true⟩))
    (h : (m.launcher.logged.enter s.browser).run (Browser.logged { world := w } []) =
      (.ok (), Browser.logged ⟨w₁, true, true⟩ reach))
    (ho : (m.logged.openPage s).run (Browser.logged ⟨w₁, true, true⟩ reach) =
      (.ok (), Browser.logged ⟨w₂, true, true⟩ (reach ++ pages))) :
    ∃ log, m.Course s p file dir w log (m.runIn s p file dir w).outcome ∧
      m.logged.runIn s p file dir (w.logged []) = (m.runIn s p file dir w).logged log := by
  obtain ⟨script, ending, r', st', run, scripted, ended, hout, hrun⟩ :=
    runOn_logged (m := m) (s := s) (p := p) (reach ++ pages) hs
  obtain ⟨leave, r, x, y, w₃, left, hd⟩ :=
    m.launcher.disconnect_run (m.runOn s p file dir w₂).world
      (reach ++ pages ++ (script ++ [ending])) true true
  have hleft : m.launcher.disconnect.run ⟨(m.runOn s p file dir w₂).world, true, true⟩ =
    (r, ⟨w₃, x, y⟩) := m.launcher.mirrors_disconnect.plain hd
  have hplain : m.runIn s p file dir w = _ := runIn_opened entered paged hleft
  rw [show (m.runOn s p file dir w₂).world.logged _ = _ from congrArg RunReport.world hrun.symm]
    at hd
  have hlogged : m.logged.runIn s p file dir (w.logged []) = _ := runIn_opened h ho hd
  refine ⟨reach ++ (pages ++ (script ++ ending :: leave)), ?_, ?_⟩
  · rw [hplain, hout]
    exact .ran reached opened ((run_bind_ok entered).trans paged) hs run scripted ended left
  · have hrun' : m.logged.runOn s p file dir
        (Browser.logged ⟨w₂, true, true⟩ (reach ++ pages)).world = _ := hrun
    rw [hlogged, hrun', hplain]
    simp [RunReport.logged, List.append_assoc]

/-- A machine with a log runs a script in a browser as it does without one. -/
theorem runIn_logged (hm : m.KeepsDirs) {session : Session}
    (hs : Session.create w.files file dir = .ok (session, w.files)) :
    ∃ log, m.Course s p file dir w log (m.runIn s p file dir w).outcome ∧
      m.logged.runIn s p file dir (w.logged []) = (m.runIn s p file dir w).logged log := by
  obtain ⟨reach, w₁, reached, h⟩ | ⟨reach, f, x, stop, r, z, w₁, reached, halted, h⟩ :=
    m.launcher.enter_run s.browser w [] false
  · obtain ⟨pages, r, w₂, opened, ho⟩ := m.makes_openPage s w₁ reach true
    cases r with
    | error f => exact runIn_logged_unopened reached opened h ho
    | ok u =>
      have entered : (m.launcher.enter s.browser).run { world := w } = (.ok (), ⟨w₁, true, true⟩) :=
        (m.launcher.mirrors_enter s.browser).plain h
      have paged : (m.openPage s).run ⟨w₁, true, true⟩ = (.ok (), ⟨w₂, true, true⟩) :=
        (m.mirrors_openPage s).plain ho
      -- the directory for the results is still there when the session is created
      have h₁ := hm.enter s.browser { world := w }
      have h₂ := hm.openPage s ⟨w₁, true, true⟩
      rw [entered] at h₁
      rw [paged] at h₂
      have fresh := Session.create_keeps (fun d hd => h₂ d (h₁ d hd)) hs
      exact runIn_logged_opened fresh reached opened entered paged h ho
  · exact runIn_logged_unreached reached halted h

end Machine

end TapScript
