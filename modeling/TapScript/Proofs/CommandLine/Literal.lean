import TapScript.Proofs.Browser.Lifetimes
import TapScript.Proofs.CommandLine.Reporting
import TapScript.Proofs.Markup.Displaying

/-! # Scripts shown literally

Showing a script passes if the script is valid and all that is printed of it as markup can be
rendered. Arguments and errors never keep it from that, whatever they hold. A library or a verb
that is a closing tag does.
-/

namespace TapScript

open CommandLine Shell

namespace Script

open Report

variable {σ : Type} {d : Display} {s : Script} {r : Registry} {report : Report} {asJson : Bool}
  {T : Terminal σ} {f : Fault} {t : FileTree} {file : String}

/-- Shows a script as a document or as a table. -/
def showBody (d : Display) (s : Script) (asJson : Bool) : Shell σ Unit :=
  if asJson then print (s.toJson.written ++ "\n") else showCommands d s

/-- What is printed of a script as a document or as a table. -/
def bodyPage (d : Display) (s : Script) (asJson : Bool) : String :=
  if asJson then s.toJson.written ++ "\n"
  else s.page d (d.shown s!"[bold]{s.name}[/bold]")
    ((s.table fun c => d.escape c.argumentsCell).map d.shown)

theorem shows_body (hd : d.IsFaithful) (hn : '/' ∉ s.name.toList) (asJson : Bool) :
    Shows (s.showBody d asJson : Shell σ Unit)
      (asJson = false → ∀ text ∈ s.markup, d.Renders text) (s.bodyPage d asJson) := by
  cases asJson with
  | true => exact (Shows.print _).congr (by simp)
  | false => exact (shows_commands hd hn).congr (by simp)

theorem run_showScript_refused (h : s.validate T.world.files (some r) = .error f) :
    (showScript d r s true asJson).run T = (.error (.fault f), T) := by
  rw [showScript, if_pos rfl, run_bind_ok run_files]
  exact run_bind_error (run_trying_error h)

theorem run_showScript_checked (h : s.validate T.world.files (some r) = .ok report) :
    (showScript d r s true asJson).run T =
      (showReport d report >>= fun _ => s.showBody d asJson).run T := by
  rw [showScript, if_pos rfl, run_bind_ok run_files, run_bind_ok (run_trying_ok h)]
  rfl

/-- What is printed of what validation came to, if it was asked for. -/
def reportPage (d : Display) : Option (Except Fault Report) → String
  | some (.ok report) => report.page d
  | _ => ""

/-- What is printed of a script with all of it as it is, as a document or as a table. -/
def literalBody (d : Display) (s : Script) (asJson : Bool) : String :=
  if asJson then s.toJson.written ++ "\n" else s.page d s.name (s.table Command.argumentsCell)

/-- What is printed with all of it as it is of what validation came to, if it was asked for. -/
def literalReport (d : Display) : Option (Except Fault Report) → String
  | some (.ok report) => report.literalPage d
  | _ => ""

/-- How it ends that a script is shown, with what validation came to if it was asked for. It passes
if validation finds no errors and all that is printed as markup can be rendered, and then shows the
report and the script. The errors are printed in any case, and everything is printed as it is if
the display keeps it. -/
structure Displays (d : Display) (s : Script) (checked : Option (Except Fault Report))
    (asJson : Bool) (e : Ending σ) : Prop where
  code : e.code = 0 ∨ e.code = 1
  passes : e.code = 0 ↔
    (∀ x, checked = some x → ∃ report, x = .ok report ∧ report.errors = [] ∧
      ∀ w ∈ report.warnings, d.Renders w) ∧
    (asJson = false → ∀ text ∈ s.markup, d.Renders text)
  page : e.code = 0 → e.terminal.printed = reportPage d checked ++ s.bodyPage d asJson
  errors : ∀ report, checked = some (.ok report) →
    ∃ more, e.terminal.printed = report.errorPage d ++ more
  literal : s.IsLiteral d → (∀ report, checked = some (.ok report) → report.IsLiteral d) →
    (e.code = 0 ↔ ∀ x, checked = some x → ∃ report, x = .ok report ∧ report.errors = []) ∧
    e.terminal.printed =
      literalReport d checked ++ if e.code = 0 then s.literalBody d asJson else ""

theorem IsLiteral.body (h : s.IsLiteral d) (hd : d.IsFaithful) (asJson : Bool) :
    (asJson = false → ∀ text ∈ s.markup, d.Renders text) ∧
      s.bodyPage d asJson = s.literalBody d asJson := by
  refine ⟨fun _ => h.renders, ?_⟩
  rw [bodyPage, literalBody, h.page_eq hd]

/-- A script that is not validated is shown if all that is printed as markup can be rendered. -/
theorem displays_unchecked (hd : d.IsFaithful) (hl : load t (.ofText file) = .ok s)
    (hT : T.printed = "") :
    Displays d s none asJson (.ofRun ((showScript d r s false asJson).run T)) := by
  have hrun : (showScript d r s false asJson).run T = (s.showBody d asJson).run T := rfl
  have hbody := shows_body (σ := σ) hd (slash_not_mem_name hl) asJson
  by_cases hq : asJson = false → ∀ text ∈ s.markup, d.Renders text
  · rw [hrun, hbody.done hq]
    constructor
    · exact .inl rfl
    · exact ⟨fun _ => ⟨nofun, hq⟩, fun _ => rfl⟩
    · intro _
      simp [Ending.ofRun, hT, reportPage]
    · nofun
    · intro h _
      refine ⟨⟨nofun, fun _ => rfl⟩, ?_⟩
      rw [← (h.body hd asJson).2]
      simp [Ending.ofRun, Ending.code, hT, literalReport]
  · obtain ⟨e, before, he⟩ := hbody.broken hq T
    rw [hrun, he]
    constructor
    · exact .inr rfl
    · exact ⟨nofun, fun h => absurd h.2 hq⟩
    · nofun
    · nofun
    · exact fun h _ => absurd (h.body hd asJson).1 hq

/-- A script that cannot be validated is not shown. -/
theorem displays_refused (h : s.validate T.world.files (some r) = .error f) (hT : T.printed = "") :
    Displays d s (some (.error f)) asJson (.ofRun ((showScript d r s true asJson).run T)) := by
  rw [run_showScript_refused h]
  constructor
  · exact .inr rfl
  · refine ⟨nofun, fun h => ?_⟩
    obtain ⟨report, hr, -⟩ := h.1 _ rfl
    cases hr
  · nofun
  · nofun
  · intro _ _
    refine ⟨⟨nofun, fun h => ?_⟩, by simpa [Ending.ofRun, Ending.code, Stop.code, literalReport]⟩
    obtain ⟨report, hr, -⟩ := h _ rfl
    cases hr

/-- How a script that is validated is shown: in the end, or not since the report has errors, or
not since something that is printed as markup cannot be rendered. -/
inductive Reported (d : Display) (s : Script) (report : Report) (asJson : Bool) :
    Except Stop Unit → String → Prop
  | shown (valid : report.errors = []) (warnings : ∀ w ∈ report.warnings, d.Renders w)
      (body : asJson = false → ∀ text ∈ s.markup, d.Renders text) :
      Reported d s report asJson (.ok ()) (report.page d ++ s.bodyPage d asJson)
  | stopped (invalid : report.errors ≠ []) (warnings : ∀ w ∈ report.warnings, d.Renders w) :
      Reported d s report asJson (.error (.exit 1)) (report.page d)
  | broken (e : MarkupError) (more : String)
      (unseen : ¬ ((∀ w ∈ report.warnings, d.Renders w) ∧
        (asJson = false → ∀ text ∈ s.markup, d.Renders text))) :
      Reported d s report asJson (.error (.fault (.mishap (.markup e))))
        (report.errorPage d ++ more)

theorem exists_reported (hd : d.IsFaithful) (hl : load t (.ofText file) = .ok s)
    (h : s.validate T.world.files (some r) = .ok report) :
    ∃ stop text, (showScript d r s true asJson).run T = (stop, T.put text) ∧
      Reported d s report asJson stop text := by
  rw [run_showScript_checked h]
  by_cases hw : ∀ w ∈ report.warnings, d.Renders w
  · have hreport := run_showReport (T := T) hd hw
    by_cases he : report.errors = []
    · have hvalid : report.isValid = true := List.isEmpty_iff.mpr he
      rw [hvalid, if_pos rfl] at hreport
      have hbody := shows_body (σ := σ) hd (slash_not_mem_name hl) asJson
      rw [run_bind_ok hreport]
      by_cases hq : asJson = false → ∀ text ∈ s.markup, d.Renders text
      · exact ⟨_, _, by rw [hbody.done hq, Terminal.put_put], .shown he hw hq⟩
      · obtain ⟨e, before, hb⟩ := hbody.broken hq (T.put (report.page d))
        refine ⟨_, _, by rw [hb, Terminal.put_put, Report.page, String.append_assoc], ?_⟩
        exact .broken e _ fun hall => hq hall.2
    · have hvalid : ¬ report.isValid = true := fun hv => he (List.isEmpty_iff.mp hv)
      rw [if_neg hvalid] at hreport
      exact ⟨_, _, run_bind_error hreport, .stopped he hw⟩
  · obtain ⟨e, before, hb⟩ := run_showReport_broken hd hw
    exact ⟨_, _, run_bind_error hb, .broken e before fun hall => hw hall.1⟩

/-- A script that is validated is shown after its report, if it is valid. -/
theorem displays_checked (hd : d.IsFaithful) (hl : load t (.ofText file) = .ok s)
    (h : s.validate T.world.files (some r) = .ok report) (hT : T.printed = "") :
    Displays d s (some (.ok report)) asJson (.ofRun ((showScript d r s true asJson).run T)) := by
  obtain ⟨stop, text, hrun, hreported⟩ : ∃ stop text, (showScript d r s true asJson).run T =
      (stop, T.put text) ∧ Reported d s report asJson stop text := exists_reported hd hl h
  have hprinted : (Ending.ofRun (stop, T.put text)).terminal.printed = text := by
    rcases stop with stop | ⟨⟩ <;> simp [Ending.ofRun, hT]
  rw [hrun]
  constructor
  · cases hreported with
    | shown => exact .inl rfl
    | stopped => exact .inr rfl
    | broken => exact .inr rfl
  · constructor
    · intro hcode
      cases hreported with
      | shown he hw hq =>
        refine ⟨?_, hq⟩
        rintro _ ⟨⟩
        exact ⟨report, rfl, he, hw⟩
      | stopped => cases hcode
      | broken => cases hcode
    · rintro ⟨hx, hq⟩
      obtain ⟨_, ⟨⟩, he, hw⟩ := hx _ rfl
      cases hreported with
      | shown => rfl
      | stopped invalid => exact absurd he invalid
      | broken e more unseen => exact absurd ⟨hw, hq⟩ unseen
  · intro hcode
    cases hreported with
    | shown => exact hprinted
    | stopped => cases hcode
    | broken => cases hcode
  · rintro _ ⟨⟩
    rw [hprinted]
    cases hreported with
    | shown => exact ⟨_, String.append_assoc ..⟩
    | stopped => exact ⟨_, rfl⟩
    | broken e more => exact ⟨more, rfl⟩
  · intro hs hr
    have hr : report.IsLiteral d := hr report rfl
    obtain ⟨hq, hbody⟩ := hs.body hd asJson
    rw [hprinted]
    cases hreported with
    | shown he _ _ =>
      refine ⟨⟨fun _ => ?_, fun _ => rfl⟩, ?_⟩
      · rintro _ ⟨⟩
        exact ⟨report, rfl, he⟩
      · rw [hr.page_eq, hbody]
        rfl
    | stopped invalid _ =>
      refine ⟨⟨nofun, fun hx => ?_⟩, ?_⟩
      · obtain ⟨_, ⟨⟩, he⟩ := hx _ rfl
        exact absurd he invalid
      · rw [hr.page_eq]
        exact String.append_empty.symm
    | broken e more unseen => exact absurd ⟨hr.renders, hq⟩ unseen

/-- Showing a script passes if validation, when it is asked for, finds no errors and its warnings
can be rendered, and so can the libraries and the verbs when the table is asked for. It does not if
one of them is a closing tag. -/
theorem parse_displays {x : Context σ} {w : World σ} {settings : Settings}
    {operand : Option String} (hd : x.display.IsFaithful)
    (hs : Settings.load w.files x.environment x.settingsFile = .ok settings)
    (hc : (operand <|> nonEmpty settings.places.script) = some file)
    (hl : load w.files (.ofText file) = .ok s) (validate asJson : Bool) :
    let e : Ending σ := .ofRun ((parseScript x operand validate asJson).run { world := w })
    Displays x.display s
        (if validate then some (s.validate w.files (some (registryOf settings))) else none)
        asJson e ∧
      (asJson = false → ∀ name : String, (∀ c ∈ name.toList, c ≠ '[' ∧ c ≠ ']') →
        closingTag name ∈ s.markup → e.code = 1) := by
  intro e
  have hdisplays : Displays x.display s
      (if validate then some (s.validate w.files (some (registryOf settings))) else none)
        asJson e := by
    have hparse : (parseScript x operand validate asJson).run { world := w } =
        (showScript x.display (registryOf settings) s validate asJson).run
          (({ world := w } : Terminal σ).detail settings.debug) := run_parseScript hs hc hl
    have he : e = .ofRun ((showScript x.display (registryOf settings) s validate asJson).run
        (({ world := w } : Terminal σ).detail settings.debug)) := congrArg Ending.ofRun hparse
    rw [he]
    cases validate with
    | false => exact displays_unchecked hd hl rfl
    | true =>
      rw [if_pos rfl]
      cases hv : s.validate w.files (some (registryOf settings)) with
      | error f => exact displays_refused hv rfl
      | ok report => exact displays_checked hd hl hv rfl
  refine ⟨hdisplays, fun hq name hname hm => hdisplays.code.resolve_left fun hcode => ?_⟩
  exact hd.closing hname ((hdisplays.passes.mp hcode).2 hq _ hm)

end Script

namespace Simulation

open Script

/-- A script with a closing tag for an argument, and two with tags for a verb and a library. -/
def tagged : FileTree :=
  ⟨[(["w"], .dir), (["w", "argument.mts"], .file (.bytes (Text.encode "log [/x]"))),
    (["w", "verb.mts"], .file (.bytes (Text.encode "[/x]"))),
    (["w", "library.mts"], .file (.bytes (Text.encode "[b].buy")))], ["w"], []⟩

/-- What is read from the first of them. -/
def logTag : Script :=
  ⟨[⟨"log [/x]", "log", [], "log", [⟨"[/x]", false⟩], 1, some "argument.mts"⟩],
    some "argument.mts"⟩

theorem isBare_logTag : ∀ text ∈ logTag.markup, IsBare text := by
  decide

theorem isLiteral_logTag : logTag.IsLiteral display := by
  have hname : IsPlain logTag.name ∧ logTag.name.toList.getLast? ≠ some '\\' := by decide
  refine .of_isBare isFaithful_display hname isBare_logTag (List.forall_mem_singleton.mpr ?_)
  exact Outcome.eq_ok_of_toOption (by decide +kernel)

/-- How it ends that one of them is shown as a table, after validation if that is asked for. -/
def parsing (file : String) (validate : Bool) : Ending Simulation :=
  let x : Context Simulation := ⟨machine, display, [], none⟩
  .ofRun ((parseScript x (some file) validate false).run { world := ⟨tagged, {}⟩ })

/-- A closing tag that is an argument is shown as it is. -/
theorem parse_displays_argument :
    display.IsFaithful ∧ Settings.load tagged [] none = .ok {} ∧
      load tagged "argument.mts" = .ok logTag ∧ logTag.IsLiteral display ∧
      Displays display logTag (some (logTag.validate tagged (some (registryOf {})))) false
        (parsing "argument.mts" true) ∧
      (parsing "argument.mts" true).code = 0 ∧
      (parsing "argument.mts" true).terminal.printed =
        "Warnings:\n  ! line 1: unknown built-in 'log'\n✓ Script is valid\n" ++
        "\nargument.mts\nLine  Library  Command  Arguments\n" ++
        "   1  -        log      [/x]     \n\nTotal: 1 commands, 0 libraries\n" := by
  have hs : Settings.load tagged [] none = .ok {} := Outcome.eq_ok_of_toOption (by decide +kernel)
  have hl : load tagged "argument.mts" = .ok logTag := Outcome.eq_ok_of_toOption (by decide +kernel)
  let x : Context Simulation := ⟨machine, display, [], none⟩
  have hx : x.display.IsFaithful := isFaithful_display
  have hv : logTag.validate tagged (some (registryOf {})) =
      .ok ⟨[], ["line 1: unknown built-in 'log'"]⟩ := rfl
  obtain ⟨hdisplays, -⟩ := parse_displays (x := x) (w := ⟨tagged, {}⟩) hx hs
    (rfl : (some "argument.mts" <|> _) = some "argument.mts") hl true false
  rw [if_pos rfl] at hdisplays
  obtain ⟨hcode, hprinted⟩ := hdisplays.literal isLiteral_logTag fun report hr => by
    rw [hv] at hr
    cases hr
    exact ⟨nofun, fun w hw => hx.plain (isPlain_warnings isBare_logTag hv w hw)⟩
  have hzero := hcode.mpr fun x hx => ⟨_, (Option.some.inj hx).symm.trans hv, rfl⟩
  rw [hzero, hv] at hprinted
  refine ⟨hx, hs, hl, isLiteral_logTag, hdisplays, hzero, hprinted.trans ?_⟩
  decide +kernel

/-- How a command line that shows one of them ends. -/
def showing (words : List String) : Ending Simulation :=
  run machine display [] ("script" :: "parse" :: words) ⟨tagged, {}⟩

/-- A closing tag that is a verb keeps a script that parses and is valid from being shown, and a tag
that is a library is not seen. -/
theorem parse_takes_markup :
    (∃ s, load tagged "verb.mts" = .ok s ∧
      s.validate tagged (some (registryOf {})) = .ok ⟨[], ["line 1: unknown built-in '[/x]'"]⟩) ∧
    (showing ["verb.mts"]).code = 1 ∧ (showing ["verb.mts", "--validate"]).code = 1 ∧
    (showing ["library.mts"]).terminal.printed =
      "\nlibrary.mts\nLine  Library  Command  Arguments\n" ++
      "   1           buy               \n\nTotal: 1 commands, 1 libraries\n" := by
  have hl : load tagged "verb.mts" = .ok ⟨[⟨"[/x]", "[/x]", [], "[/x]", [], 1, some "verb.mts"⟩],
      some "verb.mts"⟩ := Outcome.eq_ok_of_toOption (by decide +kernel)
  exact ⟨⟨_, hl, rfl⟩, by decide +kernel, by decide +kernel, by decide +kernel⟩

end Simulation

end TapScript
