import TapScript.Proofs.CommandLine.Showing

/-! # What is shown of a report

What validation finds is printed as lines, first the errors and then the warnings. Errors are
escaped, so all of them are shown whatever they hold. Warnings are printed as markup, and the first
that cannot be rendered stops the command.
-/

namespace TapScript

open CommandLine Shell

namespace Report

variable (d : Display) (r : Report)

/-- Some lines below a heading; nothing if there are none. -/
def findings (heading : String) (lines : List String) : String :=
  if lines = [] then "" else String.join ((heading :: lines).map d.line)

/-- What is printed of the errors of a report. -/
def errorPage : String :=
  findings d "Validation Errors:" (r.errors.map fun e => s!"  ✗ {d.shown (d.escape e)}")

/-- What is printed of the warnings of a report. -/
def warningPage : String :=
  findings d "Warnings:" (r.warnings.map fun w => s!"  ! {d.shown w}")

/-- What is printed at the end of a report. -/
def verdict : String :=
  if r.isValid then d.line "✓ Script is valid" else ""

/-- What is printed of a report. -/
def page : String :=
  r.errorPage d ++ (r.warningPage d ++ r.verdict d)

/-- Prints some findings below their heading. -/
def showFindings {σ : Type} (heading : String) (line : String → String) (texts : List String) :
    Shell σ Unit :=
  if texts.isEmpty then pure () else do
    say d heading
    texts.forM fun text => say d (line text)

variable {d r} {σ : Type}

theorem showFindings_bind {heading : String} {line : String → String} {texts : List String}
    (next : Shell σ Unit) : (showFindings d heading line texts >>= fun _ => next) =
      if texts.isEmpty then next else
        say d heading >>= fun _ =>
          (texts.forM fun text => say d (line text)) >>= fun _ => next := by
  unfold showFindings
  split
  · rw [pure_bind]
  · rw [bind_assoc]

theorem showReport_eq (d : Display) (r : Report) : (showReport d r : Shell σ Unit) =
    showFindings d "[red]Validation Errors:[/red]" (fun e => s!"  [red]✗[/red] {d.escape e}")
      r.errors >>= fun _ =>
        showFindings d "[yellow]Warnings:[/yellow]" (fun w => s!"  [yellow]![/yellow] {w}")
          r.warnings >>= fun _ =>
            if r.isValid then say d "[green]✓ Script is valid[/green]" else throw (.exit 1) := by
  rw [showFindings_bind, showFindings_bind]
  rfl

/-- Findings are shown if what stands after the mark of each can be rendered. -/
theorem shows_findings (style mark title : String) (inner : String → String)
    (texts : List String) (hd : d.IsFaithful) (hs : IsStyle style)
    (hm : IsPlain mark ∧ mark.toList.getLast? ≠ some '\\')
    (ht : IsPlain title ∧ title.toList.getLast? ≠ some '\\') :
    Shows (showFindings d (inStyle style title)
        (fun text => "  " ++ inStyle style mark ++ " " ++ inner text) texts : Shell σ Unit)
      (∀ text ∈ texts, d.Renders (inner text))
      (findings d title (texts.map fun text => "  " ++ mark ++ " " ++ d.shown (inner text))) := by
  have hheading := hd.render_inStyle hs ht.1 ht.2
  have hline (text : String) := hd.seen?_marked hs hm.1 hm.2 (inner text)
  have hrenders (text : String) : d.Renders ("  " ++ inStyle style mark ++ " " ++ inner text) ↔
      d.Renders (inner text) := by
    rw [Display.renders_iff, Display.renders_iff, hline, Option.isSome_map]
  have hshown {text : String} (h : d.Renders (inner text)) :
      d.shown ("  " ++ inStyle style mark ++ " " ++ inner text) =
        "  " ++ mark ++ " " ++ d.shown (inner text) := by
    obtain ⟨seen, hseen⟩ := h
    rw [Display.shown_of_render hseen]
    exact Display.shown_of_seen? (by rw [hline, Display.seen?_of_render hseen]; rfl)
  cases texts with
  | nil => exact Shows.nothing.congr (by simp)
  | cons text texts =>
    have hshows : Shows (showFindings d (inStyle style title)
        (fun text => "  " ++ inStyle style mark ++ " " ++ inner text) (text :: texts) :
          Shell σ Unit) _ _ :=
      Shows.bind (.say d (inStyle style title)) (.forM fun text => .say d _)
    simp only [hrenders, Display.shown_of_render hheading] at hshows
    refine (hshows.congr ⟨fun h => h.2, fun h => ⟨⟨title, hheading⟩, h⟩⟩).congr_text fun h => ?_
    have hlines : ((text :: texts).map fun text =>
        d.line (d.shown ("  " ++ inStyle style mark ++ " " ++ inner text))) =
        ((text :: texts).map fun text =>
          "  " ++ mark ++ " " ++ d.shown (inner text)).map d.line := by
      rw [List.map_map]
      exact List.map_congr_left fun text ht => congrArg d.line (hshown (h text ht))
    rw [findings, if_neg (by simp), List.map_cons (f := d.line), String.join_cons, hlines]

/-- The errors are shown whatever they hold. -/
theorem shows_errors (hd : d.IsFaithful) : Shows (showFindings d "[red]Validation Errors:[/red]"
    (fun e => s!"  [red]✗[/red] {d.escape e}") r.errors : Shell σ Unit) True (r.errorPage d) := by
  have hheading : "[red]Validation Errors:[/red]" = inStyle "red" "Validation Errors:" := rfl
  have hline (e : String) :
      s!"  [red]✗[/red] {d.escape e}" = "  " ++ inStyle "red" "✗" ++ " " ++ d.escape e := rfl
  have hshows := shows_findings (σ := σ) "red" "✗" "Validation Errors:" d.escape r.errors hd
    ⟨by decide, by decide⟩ ⟨by decide, by decide⟩ ⟨by decide, by decide⟩
  simp only [hline]
  rw [hheading]
  exact hshows.congr ⟨fun _ => trivial, fun _ e _ => hd.escaped e⟩

/-- The warnings are shown if they can be rendered. -/
theorem shows_warnings (hd : d.IsFaithful) : Shows (showFindings d "[yellow]Warnings:[/yellow]"
    (fun w => s!"  [yellow]![/yellow] {w}") r.warnings : Shell σ Unit)
      (∀ w ∈ r.warnings, d.Renders w) (r.warningPage d) := by
  have hheading : "[yellow]Warnings:[/yellow]" = inStyle "yellow" "Warnings:" := rfl
  have hline (w : String) :
      s!"  [yellow]![/yellow] {w}" = "  " ++ inStyle "yellow" "!" ++ " " ++ w := rfl
  have hshows := shows_findings (σ := σ) "yellow" "!" "Warnings:" id r.warnings hd
    ⟨by decide, by decide⟩ ⟨by decide, by decide⟩ ⟨by decide, by decide⟩
  simp only [hline]
  rw [hheading]
  exact hshows

variable {T : Terminal σ}

/-- A report whose warnings can be rendered is printed, and stops the command if it has errors. -/
theorem run_showReport (hd : d.IsFaithful) (h : ∀ w ∈ r.warnings, d.Renders w) :
    (showReport d r : Shell σ Unit).run T =
      (if r.isValid then .ok () else .error (.exit 1), T.put (r.page d)) := by
  rw [showReport_eq, run_bind_ok ((shows_errors hd).done trivial T),
    run_bind_ok ((shows_warnings hd).done h _), Terminal.put_put, page, verdict]
  cases r.isValid with
  | true =>
    have hverdict : "[green]✓ Script is valid[/green]" = inStyle "green" "✓ Script is valid" := rfl
    have hrender : d.render "[green]✓ Script is valid[/green]" = .ok "✓ Script is valid" :=
      hverdict ▸ hd.render_inStyle ⟨by decide, by decide⟩ (by decide) (by decide)
    have hsay := (Shows.say (σ := σ) d "[green]✓ Script is valid[/green]").done ⟨_, hrender⟩
    rw [Display.shown_of_render hrender] at hsay
    simp only [if_true, hsay, Terminal.put_put, String.append_assoc]
  | false =>
    simp
    rfl

/-- A warning that cannot be rendered stops the command, after all errors are printed. -/
theorem run_showReport_broken (hd : d.IsFaithful) (h : ¬ ∀ w ∈ r.warnings, d.Renders w) :
    ∃ e before, (showReport d r : Shell σ Unit).run T =
      (.error (.fault (.mishap (.markup e))), T.put (r.errorPage d ++ before)) := by
  obtain ⟨e, before, he⟩ := (shows_warnings hd).broken h (T.put (r.errorPage d))
  refine ⟨e, before, ?_⟩
  rw [showReport_eq, run_bind_ok ((shows_errors hd).done trivial T), run_bind_error he,
    Terminal.put_put]

/-- What is printed of a report with all of it as it is. -/
def literalPage (d : Display) (r : Report) : String :=
  findings d "Validation Errors:" (r.errors.map fun e => s!"  ✗ {e}") ++
    (findings d "Warnings:" (r.warnings.map fun w => s!"  ! {w}") ++ r.verdict d)

/-- Whether all errors are shown as they are once they are escaped, and the warnings as well
without that. -/
structure IsLiteral (d : Display) (r : Report) : Prop where
  errors : ∀ e ∈ r.errors, d.Keeps e
  warnings : ∀ w ∈ r.warnings, d.render w = .ok w

theorem IsLiteral.renders (h : r.IsLiteral d) : ∀ w ∈ r.warnings, d.Renders w :=
  fun w hw => ⟨w, h.warnings w hw⟩

theorem IsLiteral.page_eq (h : r.IsLiteral d) : r.page d = r.literalPage d := by
  have herrors : r.errors.map (fun e => s!"  ✗ {d.shown (d.escape e)}") =
      r.errors.map fun e => s!"  ✗ {e}" :=
    List.map_congr_left fun e he => by rw [Display.shown_of_render (h.errors e he)]
  have hwarnings : r.warnings.map (fun w => s!"  ! {d.shown w}") =
      r.warnings.map fun w => s!"  ! {w}" :=
    List.map_congr_left fun w hw => by rw [Display.shown_of_render (h.warnings w hw)]
  rw [page, errorPage, warningPage, literalPage, herrors, hwarnings]

end Report

namespace Script

variable {t : FileTree} {cs : List Command} {r? : Option Registry} {report : Report} {s : Script}

/-- What is warned about is a bare verb. -/
theorem warnings_of_checkAll (h : checkAll t cs r? = .ok report) : ∀ w ∈ report.warnings,
    ∃ c ∈ cs, w = c.atLine s!"unknown built-in '{c.verb}'" := by
  induction cs generalizing r? report with
  | nil =>
    cases h
    nofun
  | cons c cs ih =>
    obtain ⟨found, r'?, rest, hc, hr, rfl⟩ := checkAll_cons h
    intro w hw
    rcases List.mem_append.mp hw with hw | hw
    · obtain ⟨-, -, rfl⟩ | hnone := Command.warnings_of_check hc
      · exact ⟨c, List.mem_cons_self, List.mem_singleton.mp hw⟩
      · rw [hnone] at hw
        cases hw
    · obtain ⟨d, hd, hw⟩ := ih hr w hw
      exact ⟨d, List.mem_cons_of_mem _ hd, hw⟩

/-- Warnings about bare verbs are plain. -/
theorem isPlain_warnings (hm : ∀ text ∈ s.markup, IsBare text)
    (hv : s.validate t r? = .ok report) : ∀ w ∈ report.warnings, IsPlain w := by
  intro w hw
  obtain ⟨c, hc, rfl⟩ := warnings_of_checkAll hv w hw
  have hverb : IsBare c.verb :=
    hm c.verb (List.mem_flatMap.mpr ⟨c, hc, by simp [Command.markup]⟩)
  have hnumber : IsBare ("line " ++ toString c.line) :=
    (by decide : IsBare "line ").append (.toString_int c.line)
  have hfixed : IsBare "unknown built-in '" ∧ IsBare "'" := by decide
  exact (hnumber.append_plain (by decide : IsPlain ": ")).append
    ((hfixed.1.append hverb).append hfixed.2)

end Script

end TapScript
