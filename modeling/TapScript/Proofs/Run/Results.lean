import TapScript.Proofs.Files.Contents
import TapScript.Proofs.Json.Reading
import TapScript.Proofs.Run.Records
import TapScript.Proofs.Text.Utf8

/-! # The results of a run

A run saves its record once that is final, just before it ends the automation session. What it
saves is the record that the session keeps from then on, and the record counts its commands.
-/

namespace TapScript

section Documents

/-- The document that a file holds. -/
def FileTree.document? (t : FileTree) (p : Path) : Option JsonValue :=
  match t.read p with
  | .ok (.bytes bs) => (String.fromUTF8? ⟨bs.toArray⟩).bind JsonValue.ofText?
  | _ => none

theorem FileTree.document?_of_write {t t' : FileTree} {p : Path} {v : JsonValue}
    (h : t.write p (.bytes (Text.encode v.written)) = .ok t') : t'.document? p = some v := by
  have hs : String.fromUTF8? ⟨(Text.encode v.written).toArray⟩ = some v.written := by
    rw [Text.toArray_encode]
    exact dif_pos v.written.isValidUTF8
  unfold document?
  rw [read_of_write h]
  simp only [hs, Option.bind_some, JsonValue.ofText?_written]

end Documents

/-- Once a session is recorded, its record can be saved where anything can be written. -/
theorem Session.save_ok {s : Session} {dir : Path} {t t' : FileTree} {c : Content}
    (hd : s.outputDir = some dir) (h : t.write (resultsFile dir) c = .ok t') :
    ∃ files, s.save t = .ok (some (resultsFile dir), files) ∧
      files.document? (resultsFile dir) = some s.record.toJson := by
  obtain ⟨files, hw⟩ := FileTree.write_of_write h (.bytes (Text.encode s.record.toJson.written))
  refine ⟨files, ?_, FileTree.document?_of_write hw⟩
  unfold save
  rw [hd]
  simp only [hw]
  rfl

namespace Setup

open Engine

variable {σ ε : Type} {e : Setup σ ε} {s : Script} {st s₂ : RunState σ ε}
  {F : Forest (Visit σ ε)} {r : Except Fault Unit} {t t' : FileTree} {script dir : Path}

/-- A run without failed commands has passed, or never came to a command. -/
theorem History.failed_eq_zero_iff (h : e.History s st F r s₂)
    (fresh : Session.create t script (some dir) = .ok (st.session, t')) :
    (e.finished r s₂).record.count .failed = 0 ↔ r = .ok () ∨ F.preorder = [] := by
  rw [RunRecord.count, h.records fresh, List.countP_eq_zero]
  constructor
  · intro hc
    cases hr : r with
    | ok u => exact Or.inl rfl
    | error f =>
      subst hr
      obtain ⟨rfl, -⟩ | ⟨done, failed, hd, -, hf, hne, -⟩ := h.failed
      · exact Or.inr rfl
      · obtain ⟨x, hx⟩ := List.exists_mem_of_ne_nil failed hne
        have hx' := hc x (hd ▸ List.mem_append_right done hx)
        exact absurd (by simp [hf x hx]) hx'
  · rintro (rfl | hF)
    · intro x hx
      simp [h.passed.1 x hx]
    · have hp : F.postorder = [] := by
        rw [List.eq_nil_iff_forall_not_mem] at hF ⊢
        exact fun v hv => hF v (Forest.mem_postorder_iff.mp hv)
      simp [hp]

/-- A run records an error unless it passes. -/
theorem History.error_eq_none_iff (h : e.History s st F r s₂)
    (fresh : Session.create t script (some dir) = .ok (st.session, t')) :
    (e.finished r s₂).record.error = none ↔ r = .ok () := by
  cases r with
  | ok u =>
    have hs : s₂.session.record.error = st.session.record.error := by rw [h.session]; rfl
    have hn : st.session.record.error = none := by rw [(Session.create_ok fresh).1]
    exact ⟨fun _ => rfl, fun _ => hs.trans hn⟩
  | error f => exact ⟨nofun, nofun⟩

/-- The starts that a run gives notice of are those of its visits. -/
theorem History.starts {st' : RunState σ ε} (h : e.History s st F r s₂)
    (hl : Settled (e.concluded st r s₂) st') :
    st'.notices.filterMap Notice.start? = st.notices.filterMap Notice.start? ++
      F.preorder.map fun v => (v.command, v.depth) := by
  obtain ⟨new, rest, hn, ha⟩ := h.notices
  obtain ⟨last, hw, hx⟩ := notices_of_settled hl
  have hrest : rest.filterMap Notice.start? = [] := List.filterMap_eq_nil_iff.mpr ha.stopped
  have hlast : last.filterMap Notice.start? = [] := by
    refine List.filterMap_eq_nil_iff.mpr fun x hm => ?_
    obtain ⟨message, rfl | rfl⟩ := hx x hm <;> rfl
  rw [hw, hn]
  simp only [List.filterMap_append, ha.starts, hrest, hlast, List.append_nil]

variable (e s st F r dir) in
/-- What the results of a run say, and where: they are in their file when the automation session
is ended, and stay there if that leaves the file. -/
structure Reported (st' : RunState σ ε) : Prop where
  run : (e.run s).run st = (r, st')
  started : st'.notices.filterMap Notice.start? = st.notices.filterMap Notice.start? ++
    F.preorder.map fun v => (v.command, v.depth)
  saved : ∃ w : World σ, (e.driver.quit.run w).2 = st'.world ∧
    w.files.document? (Session.resultsFile dir) = some st'.session.record.toJson ∧
    (st'.world.files.read (Session.resultsFile dir) = w.files.read (Session.resultsFile dir) →
      st'.world.files.document? (Session.resultsFile dir) = some st'.session.record.toJson)
  status : st'.session.record.toJson.field? "status" =
    some (.text (match r with | .ok _ => "passed" | .error _ => "failed"))
  error : st'.session.record.toJson.field? "error" = some .null ↔ r = .ok ()
  completed : ∃ now, st'.session.record.toJson.field? "completed_at" = some (.text now)
  commands : st'.session.record.toJson.field? "commands" =
    some (.list (F.postorder.map fun v => (v.record e).toJson))
  summary : ∃ ms : Int, st'.session.record.toJson.field? "summary" = some (.object [
    ("total_commands", .int F.postorder.length),
    ("passed", .int (st'.session.record.count .passed)),
    ("failed", .int (st'.session.record.count .failed)), ("duration_ms", .int ms)])
  total : F.postorder.length =
    st'.session.record.count .passed + st'.session.record.count .failed
  failures : st'.session.record.count .failed = 0 ↔ r = .ok () ∨ F.preorder = []

/-- Every run of a new session that can write its results saves what the session then keeps. -/
theorem run_reported (e : Setup σ ε) (s : Script)
    (fresh : Session.create t script (some dir) = .ok (st.session, t'))
    (writable : ∃ c files, ((e.body s).run (e.begun st)).2.world.files.write
      (Session.resultsFile dir) c = .ok files) :
    ∃ F r s₂ st', e.History s st F r s₂ ∧ e.Reported s st F r dir st' := by
  obtain ⟨F, r, s₂, h⟩ := e.exists_history s st
  obtain ⟨st', hr, hl, he, -⟩ := h.run fresh
  obtain ⟨hc, hd⟩ := h.finished fresh
  rw [(Session.create_ok fresh).1] at hd
  obtain ⟨c, files, hw⟩ := writable
  rw [h.body_run] at hw
  obtain ⟨saved, hs, hdoc⟩ := Session.save_ok hd hw
  have hrec : st'.session.record = (e.finished r s₂).record := by rw [he]
  have hcmds := h.records fresh
  have hlen : F.postorder.length = st'.session.record.commands.length := by
    rw [hrec, hcmds, List.length_map]
  refine ⟨F, r, s₂, st', h, ?_⟩
  exact {
    run := hr
    started := h.starts hl
    saved := by
      refine ⟨{ s₂.world with files := saved }, ?_, hrec ▸ hdoc, fun hk => ?_⟩
      · have hw := close_world (e := e) (s := e.concluded st r s₂) r hc hs
        rw [← run_eq_close h.body_run, hr] at hw
        exact hw.symm
      · unfold FileTree.document? at hdoc ⊢
        rw [hk, hrec]
        exact hdoc
    status := by rw [hrec]; cases r <;> rfl
    error := by
      rw [hrec, ← h.error_eq_none_iff fresh, ← JsonValue.ofOption_eq_null_iff]
      exact Option.some_inj
    completed := by rw [hrec]; cases r <;> exact ⟨_, rfl⟩
    commands := by
      have hm : F.postorder.map (fun v => (v.record e).toJson) =
          st'.session.record.commands.map CommandRecord.toJson := by
        rw [hrec, hcmds, List.map_map]
        rfl
      rw [hm]
      rfl
    summary := by rw [hlen]; exact ⟨_, rfl⟩
    total := by
      rw [hlen]
      refine RunRecord.length_eq_counts ?_
      rw [hrec, hcmds]
      intro x hx
      obtain ⟨v, -, rfl⟩ := List.mem_map.mp hx
      exact e.status_cases v
    failures := hrec ▸ h.failed_eq_zero_iff fresh }

end Setup

namespace Simulation

/-- The journal of a simulated session is not among the files. -/
theorem files_record (name : String) (args : List Value) (w : World Simulation) :
    ((record name args).run w).2.files = w.files := by
  unfold record
  simp only [Procedure.run_bind, Procedure.run_get, Procedure.run_set]
  cases w.devices.plans.find? _ <;> rfl

/-- The results of a run that fails in an included script are in their file. -/
theorem run_reported_nonsense :
    let st := ready (nonsense.put ["out"] .dir) ⟨none, .path, []⟩ (some "out") {}
    ∃ f st', (rehearsal.run including).run st = (.error f, st') ∧
      st'.world.files.document? (Session.resultsFile "out") = some st'.session.record.toJson ∧
      st'.session.record.toJson.field? "error" ≠ some .null := by
  intro st
  have fresh : Session.create nonsense "main" (some "out") =
    .ok (st.session, nonsense.put ["out"] .dir) := rfl
  obtain ⟨F, r, s₂, st', h, hl⟩ := rehearsal.run_reported including fresh ⟨.bytes [], _, rfl⟩
  obtain ⟨f, hf⟩ : ∃ f, ((rehearsal.body including).run (rehearsal.begun st)).1 = .error f :=
    ⟨_, rfl⟩
  rw [h.body_run] at hf
  cases hf
  obtain ⟨w, hw, -, hk⟩ := hl.saved
  have hq : st'.world.files = w.files := hw ▸ files_record "quit" [] w
  exact ⟨f, st', hl.run, hk (by rw [hq]), fun he => nomatch hl.error.mp he⟩

end Simulation

end TapScript
