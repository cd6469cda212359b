import TapScript.Proofs.Script.Tokens

/-! # Scripts line by line

Every line of a script is read on its own: it holds no command, or one command, or it is refused,
whatever stands before and after it. So the parts of a script can be read apart, and lines without
a command only move the numbers of the others.
-/

namespace TapScript

open Outcome

namespace Text

variable {cs ds : List Char} {c : Char}

theorem trim_concat (h : isBlank c = true) : trim (cs ++ [c]) = trim cs := by
  rw [trim, trim, trimStart, trimStart, List.dropWhile_append]
  split
  · next he => rw [List.isEmpty_iff.mp he, List.dropWhile_cons_of_pos h, List.dropWhile_nil]
  · rw [trimEnd, trimEnd, List.reverse_append, trimStart, List.reverse_singleton,
      List.singleton_append, List.dropWhile_cons_of_pos h]
    rfl

theorem isBlank_of_trim_eq_cons (h : trim cs = c :: ds) : isBlank c = false := by
  have hprefix : trim cs <+: trimStart cs := by
    rw [trim, trimEnd, ← List.reverse_suffix, List.reverse_reverse]
    exact List.dropWhile_suffix _
  rw [h] at hprefix
  obtain ⟨es, hes⟩ := hprefix
  have hhead := List.head?_dropWhile_not isBlank cs
  rw [← trimStart, ← hes] at hhead
  exact hhead

end Text

namespace Token

/-- Whether a trimmed line starts with an empty token: with two quotes of one kind, or with a
quote after which nothing follows. -/
def IsNameless (cs : List Char) : Prop :=
  ∃ q, isQuote q = true ∧ ([q, q] <+: cs ∨ cs = [q])

namespace Reading

variable {r : Reading}

theorem finish_of_taken (h : r.taken ≠ []) : ∃ t, r.finish = [t] ∧ t.text ≠ "" := by
  cases r with
  | between => exact absurd rfl h
  | bare taken => exact ⟨_, rfl, by simpa using h⟩
  | within q taken => exact ⟨_, rfl, by simpa using h⟩

/-- What was taken is in the next token. -/
theorem tokens_of_taken (h : r.taken ≠ []) (cs : List Char) :
    ∃ t ts, r.tokens cs = t :: ts ∧ t.text ≠ "" := by
  have hfinish : ∀ {r : Reading} (ts : List Token), r.taken ≠ [] →
      ∃ t ts', r.finish ++ ts = t :: ts' ∧ t.text ≠ "" := by
    intro r ts hr
    obtain ⟨t, ht, hn⟩ := finish_of_taken hr
    exact ⟨t, ts, by rw [ht, List.singleton_append], hn⟩
  fun_induction tokens r cs with
  | case1 r => simpa using hfinish [] h
  | case2 q taken cs => exact hfinish _ h
  | case3 q taken c cs hc ih => exact ih (by simp)
  | case4 r c cs hr hgap => exact hfinish _ h
  | case5 r c cs hr hgap hquote ih => exact ih h
  | case6 r c cs hr hgap hquote ih => exact ih (by simp)

/-- The first token of a trimmed line is empty if and only if the line is nameless. -/
theorem tokens_cons {c : Char} (hc : isGap c = false) (cs : List Char) :
    ∃ t ts, between.tokens (c :: cs) = t :: ts ∧ (t.text = "" ↔ IsNameless (c :: cs)) := by
  rw [tokens, hc]
  swap
  · simp
  by_cases hq : isQuote c = true
  · simp only [hq, Bool.false_eq_true, if_false, if_true, taken_between]
    cases cs with
    | nil => exact ⟨_, _, rfl, by simp [IsNameless, hq]⟩
    | cons d ds =>
      rw [tokens]
      by_cases hd : d = c
      · subst hd
        rw [if_pos rfl]
        exact ⟨_, _, rfl, by simp [IsNameless, hq]⟩
      · rw [if_neg hd]
        obtain ⟨t, ts, ht, hn⟩ := tokens_of_taken (r := within c [d]) (by simp) ds
        exact ⟨t, ts, ht, by simp [hn, IsNameless, hd]⟩
  · simp only [hq, Bool.false_eq_true, if_false, taken_between]
    obtain ⟨t, ts, ht, hn⟩ := tokens_of_taken (r := bare [c]) (by simp) cs
    refine ⟨t, ts, ht, ?_⟩
    simp only [hn, false_iff, IsNameless, not_exists, not_and]
    rintro q hquote (hp | hp)
    · obtain ⟨rfl, -⟩ := List.cons_prefix_cons.mp hp
      exact hq hquote
    · obtain ⟨rfl, -⟩ := List.cons.inj hp
      exact hq hquote

end Reading

/-- The first token of a trimmed line is empty if and only if the line is nameless. -/
theorem scan_trimmed {l : String} (h : Text.trimmed l ≠ "") : ∃ t ts,
    scan (Text.trimmed l) = t :: ts ∧ (t.text = "" ↔ IsNameless (Text.trimmed l).toList) := by
  obtain ⟨c, cs, hcs⟩ := List.exists_cons_of_ne_nil (String.toList_eq_nil_iff.not.mpr h)
  have htrim : Text.trim l.toList = c :: cs := by
    rw [← hcs, Text.trimmed, String.toList_ofList]
  rw [scan, hcs]
  exact Reading.tokens_cons (isGap_of_not_isBlank (Text.isBlank_of_trim_eq_cons htrim)) cs

end Token

namespace Line

/-- Whether a line is neither blank nor a comment. -/
def IsFilled (l : String) : Prop :=
  Text.trimmed l ≠ "" ∧ ¬ ['/', '/'] <+: (Text.trimmed l).toList

instance (l : String) : Decidable (IsFilled l) :=
  inferInstanceAs (Decidable (_ ∧ _))

/-- Whether a line should hold a command and does not name one. -/
structure IsRefused (l : String) : Prop where
  filled : IsFilled l
  nameless : Token.IsNameless (Text.trimmed l).toList

/-- The text of a line, without the carriage return that may end it. -/
def textOf (l : String) : String :=
  String.ofList (withoutReturn l.toList)

theorem trimmed_textOf (l : String) : Text.trimmed (textOf l) = Text.trimmed l := by
  rw [textOf, withoutReturn]
  split
  · next h =>
    obtain ⟨cs, hcs⟩ := List.getLast?_eq_some_iff.mp h
    rw [Text.trimmed, Text.trimmed, hcs, String.toList_ofList, List.dropLast_concat,
      Text.trim_concat (by decide)]
  · rw [String.ofList_toList]

theorem isExecutable_withoutReturn (l : String) :
    isExecutable (withoutReturn l.toList) = true ↔ IsFilled l := by
  have htrim : Text.trim (withoutReturn l.toList) = (Text.trimmed l).toList := by
    rw [← trimmed_textOf, Text.trimmed, textOf, String.toList_ofList, String.toList_ofList]
  rw [isExecutable, htrim, IsFilled, ne_eq, ← String.toList_eq_nil_iff]
  split
  · next h => simp [h]
  · next h => simp [h]
  · next hn hc =>
    have hcomment : ¬ ['/', '/'] <+: (Text.trimmed l).toList := by
      rintro ⟨ds, hds⟩
      exact hc ds hds.symm
    exact ⟨fun _ => ⟨hn, hcomment⟩, fun _ => rfl⟩

/-- The lines that hold commands are those that are filled, with their numbers. -/
theorem numbered_eq (n : Nat) (ls : List String) : numbered n (ls.map String.toList) =
    ((ls.zipIdx n).filter (IsFilled ·.1)).map fun l => ⟨l.2, textOf l.1⟩ := by
  induction ls generalizing n with
  | nil => rfl
  | cons l ls ih =>
    rw [List.map_cons, numbered, List.zipIdx_cons, ih]
    by_cases h : IsFilled l
    · simp [isExecutable_withoutReturn, h, textOf]
    · simp [isExecutable_withoutReturn, h]

end Line

namespace Command

variable {source : Option Path} {l : String} {n : Nat} {c : Command}

/-- The command of a line says what the tokens of the trimmed line do, and where they stand. -/
structure IsAt (source : Option Path) (l : String) (n : Nat) (c : Command) : Prop where
  reads : Reads source (Token.scan (Text.trimmed l), n) c
  text : c.text = Line.textOf l

theorem ofLine_textOf (source : Option Path) (l : String) (n : Nat) :
    ofLine source ⟨n, Line.textOf l⟩ =
      ofTokens (Token.scan (Text.trimmed l)) n (Line.textOf l) source := by
  rw [ofLine, Line.trimmed_textOf]

theorem isAt_of_ofLine (h : ofLine source ⟨n, Line.textOf l⟩ = .ok c) : IsAt source l n c := by
  rw [ofLine_textOf] at h
  obtain ⟨hreads, htext⟩ := ofTokens_reads h
  exact ⟨hreads, htext⟩

theorem ofLine_refused (h : Line.IsRefused l) (n : Nat) (source : Option Path) :
    ofLine source ⟨n, Line.textOf l⟩ = .error (.problem .noCommandName ⟨some n, source⟩) := by
  obtain ⟨t, ts, hscan, hempty⟩ := Token.scan_trimmed h.filled.1
  rw [ofLine_textOf, hscan, ofTokens, if_pos (hempty.mpr h.nameless)]

theorem ofLine_filled (h : Line.IsFilled l) (hr : ¬ Line.IsRefused l) (n : Nat)
    (source : Option Path) : ∃ c, ofLine source ⟨n, Line.textOf l⟩ = .ok c := by
  obtain ⟨t, ts, hscan, hempty⟩ := Token.scan_trimmed h.1
  have hname : t.text ≠ "" := fun ht => hr ⟨h, hempty.mp ht⟩
  rw [ofLine_textOf, hscan, ofTokens, if_neg hname]
  exact ⟨_, rfl⟩

end Command

namespace Script

/-- The commands of some lines, numbered on from a first number. -/
def commandsOf (source : Option Path) (n : Nat) (ls : List String) :
    Except Fault (List Command) :=
  (Line.numbered n (ls.map String.toList)).mapM (Command.ofLine source)

variable {source : Option Path} {n : Nat} {l : String} {ls ls' : List String} {f : Fault}
  {cs : List Command}

theorem parse_eq (contents : String) (source : Option Path) : parse contents source = do
    return ⟨← commandsOf source 1 (Text.pieces '\n' contents), source⟩ := by
  rw [parse, Line.scan_eq]
  rfl

theorem commandsOf_unfilled (h : ¬ Line.IsFilled l) :
    commandsOf source n (l :: ls) = commandsOf source (n + 1) ls := by
  rw [commandsOf, List.map_cons, Line.numbered,
    if_neg ((Line.isExecutable_withoutReturn l).not.mpr h)]
  rfl

theorem commandsOf_filled (h : Line.IsFilled l) : commandsOf source n (l :: ls) = do
    let c ← Command.ofLine source ⟨n, Line.textOf l⟩
    let cs ← commandsOf source (n + 1) ls
    return c :: cs := by
  rw [commandsOf, List.map_cons, Line.numbered,
    if_pos ((Line.isExecutable_withoutReturn l).mpr h), List.mapM_cons]
  rfl

theorem commandsOf_refused (h : Line.IsRefused l) : commandsOf source n (l :: ls) =
    .error (.problem .noCommandName ⟨some n, source⟩) := by
  rw [commandsOf_filled h.filled, Command.ofLine_refused h]
  rfl

/-- A line that is not refused leaves the fault to the lines after it. -/
theorem commandsOf_cons_error (h : ¬ Line.IsRefused l) :
    commandsOf source n (l :: ls) = .error f ↔ commandsOf source (n + 1) ls = .error f := by
  by_cases hf : Line.IsFilled l
  · obtain ⟨c, hc⟩ := Command.ofLine_filled hf h n source
    rw [commandsOf_filled hf, hc]
    change (commandsOf source (n + 1) ls >>= fun cs => pure (c :: cs)) = .error f ↔ _
    rw [bind_eq_error]
    exact or_iff_left (by rintro ⟨cs, -, ⟨⟩⟩)
  · rw [commandsOf_unfilled hf]

theorem commandsOf_fails : (∃ f, commandsOf source n ls = .error f) ↔
    ∃ l ∈ ls, Line.IsRefused l := by
  induction ls generalizing n with
  | nil => simp [commandsOf, Line.numbered, pure, Except.pure]
  | cons l ls ih =>
    by_cases h : Line.IsRefused l
    · simp [commandsOf_refused h, h]
    · simp only [commandsOf_cons_error h, ih, List.mem_cons, exists_eq_or_imp, h, false_or]

/-- The first line that is refused is the one to blame. -/
theorem commandsOf_error : commandsOf source n ls = .error f ↔ ∃ before l after,
    ls = before ++ l :: after ∧ (∀ l' ∈ before, ¬ Line.IsRefused l') ∧ Line.IsRefused l ∧
      f = .problem .noCommandName ⟨some (n + before.length : Nat), source⟩ := by
  induction ls generalizing n with
  | nil => simp [commandsOf, Line.numbered, pure, Except.pure]
  | cons l ls ih =>
    by_cases h : Line.IsRefused l
    · rw [commandsOf_refused h]
      constructor
      · rintro ⟨⟩
        exact ⟨[], l, ls, rfl, by simp, h, rfl⟩
      · rintro ⟨_ | ⟨l', before⟩, l'', after, heq, hbefore, -, rfl⟩
        · rfl
        · obtain ⟨rfl, -⟩ := List.cons.inj heq
          exact absurd h (hbefore l (by simp))
    · rw [commandsOf_cons_error h, ih]
      constructor
      · rintro ⟨before, l', after, rfl, hbefore, hl', rfl⟩
        refine ⟨l :: before, l', after, rfl, List.forall_mem_cons.mpr ⟨h, hbefore⟩, hl', ?_⟩
        rw [List.length_cons, Nat.add_right_comm, Nat.add_assoc]
      · rintro ⟨_ | ⟨l', before⟩, l'', after, heq, hbefore, hl'', rfl⟩
        · obtain ⟨rfl, -⟩ := List.cons.inj heq
          exact absurd hl'' h
        · obtain ⟨rfl, rfl⟩ := List.cons.inj heq
          refine ⟨before, l'', after, rfl, (List.forall_mem_cons.mp hbefore).2, hl'', ?_⟩
          rw [List.length_cons, Nat.add_right_comm, Nat.add_assoc]

/-- Each filled line gives one command. -/
theorem commandsOf_ok (h : commandsOf source n ls = .ok cs) :
    List.Forall₂ (fun l c => Command.IsAt source l.1 l.2 c)
      ((ls.zipIdx n).filter (Line.IsFilled ·.1)) cs := by
  have hlines := mapM_eq_ok.mp h
  rw [Line.numbered_eq, List.forall₂_map_left_iff] at hlines
  exact hlines.imp fun l c hc => Command.isAt_of_ofLine hc

theorem commandsOf_append (ls ls' : List String) : commandsOf source n (ls ++ ls') = do
    let cs ← commandsOf source n ls
    let cs' ← commandsOf source (n + ls.length) ls'
    return cs ++ cs' := by
  rw [commandsOf, List.map_append, Line.numbered_append, List.mapM_append, List.length_map]
  rfl

/-- Some lines with others put between them that hold no command. -/
inductive Padded : List String → List String → Prop
  | nil : Padded [] []
  | keep (l : String) {ls ls'} (rest : Padded ls ls') : Padded (l :: ls) (l :: ls')
  | insert {l : String} {ls ls'} (unfilled : ¬ Line.IsFilled l) (rest : Padded ls ls') :
    Padded ls (l :: ls')

end Script

section Renumbering

/-- A place with its line number changed. -/
def Place.renumbered (f : Int → Int) (p : Place) : Place :=
  { p with line := p.line.map f }

/-- A fault with the line number of its place changed. -/
def Fault.renumbered (f : Int → Int) : Fault → Fault
  | problem p at_ => problem p (at_.renumbered f)
  | mismatch m at_ => mismatch m (at_.renumbered f)
  | mishap m => mishap m

/-- A command with its line number changed. -/
def Command.renumbered (f : Int → Int) (c : Command) : Command :=
  { c with line := f c.line }

/-- Some commands, or the fault in their place, with their line numbers changed. -/
def Outcome.renumbered (f : Int → Int) (x : Except Fault (List Command)) :
    Except Fault (List Command) :=
  (x.map (List.map (·.renumbered f))).mapError (·.renumbered f)

variable {source : Option Path} {n m : Nat} {f g : Int → Int} {l : String} {ls ls' : List String}

/-- The number of a line only gives the command or the fault its place. -/
theorem Command.ofLine_cases (source : Option Path) (text : String) :
    (∃ c : Command, ∀ n : Nat, ofLine source ⟨n, text⟩ = .ok { c with line := n }) ∨
    ∀ n : Nat, ofLine source ⟨n, text⟩ = .error (.problem .noCommandName ⟨some n, source⟩) := by
  simp only [ofLine, ofTokens]
  split
  · exact .inr fun _ => rfl
  · split
    · exact .inr fun _ => rfl
    · next t args _ _ =>
      exact .inl ⟨⟨text, t.text, (Text.pieces '.' t.text).dropLast,
        (Text.pieces '.' t.text).getLastD "", args, 0, source⟩, fun _ => rfl⟩

theorem Outcome.renumbered_cons (f : Int → Int) (c : Command) (x : Except Fault (List Command)) :
    renumbered f (do let cs ← x; return c :: cs) =
      (renumbered f x).map (c.renumbered f :: ·) := by
  cases x <;> rfl

namespace Script

/-- What a line gives, with its number changed, goes with what the lines after it give. -/
theorem renumbered_commandsOf_cons (l : String) (hn : f n = g m)
    (h : renumbered f (commandsOf source (n + 1) ls) =
      renumbered g (commandsOf source (m + 1) ls')) :
    renumbered f (commandsOf source n (l :: ls)) =
      renumbered g (commandsOf source m (l :: ls')) := by
  by_cases hl : Line.IsFilled l
  · rw [commandsOf_filled hl, commandsOf_filled hl]
    obtain ⟨c, hc⟩ | hc := Command.ofLine_cases source (Line.textOf l)
    · have hcommand : Command.renumbered f { c with line := n } =
          Command.renumbered g { c with line := m } := by
        simp only [Command.renumbered, hn]
      rw [hc, hc]
      change renumbered f (do let cs ← commandsOf source (n + 1) ls; return _ :: cs) =
        renumbered g (do let cs ← commandsOf source (m + 1) ls'; return _ :: cs)
      rw [renumbered_cons, renumbered_cons, h, hcommand]
    · rw [hc, hc]
      simp [renumbered, bind, Except.bind, Except.map, Fault.renumbered, Place.renumbered, hn]
  · rwa [commandsOf_unfilled hl, commandsOf_unfilled hl]

theorem renumbered_commandsOf (h : ∀ i : Nat, f (n + i : Nat) = g (m + i : Nat)) :
    renumbered f (commandsOf source n ls) = renumbered g (commandsOf source m ls) := by
  induction ls generalizing n m with
  | nil => rfl
  | cons l ls ih =>
    refine renumbered_commandsOf_cons l (h 0) (ih fun i => ?_)
    rw [Nat.add_right_comm, Nat.add_assoc, h, Nat.add_right_comm m, Nat.add_assoc m]

/-- Lines without a command only change the numbers of the others. -/
theorem Padded.renumbered_commandsOf (h : Padded ls ls') (n m : Nat) :
    renumbered (fun _ => 0) (commandsOf source m ls') =
      renumbered (fun _ => 0) (commandsOf source n ls) := by
  induction h generalizing n m with
  | nil => rfl
  | keep l _ ih => exact renumbered_commandsOf_cons l rfl (ih _ _)
  | insert unfilled _ ih =>
    rw [commandsOf_unfilled unfilled]
    exact ih _ _

end Script

end Renumbering

namespace Script

variable {source : Option Path} {n : Nat} {ls : List String} {cs : List Command}

theorem parse_eq_error {contents : String} {f : Fault} : parse contents source = .error f ↔
    commandsOf source 1 (Text.pieces '\n' contents) = .error f := by
  rw [parse_eq, bind_eq_error]
  exact or_iff_left (by rintro ⟨cs, -, ⟨⟩⟩)

theorem commandsOf_of_parse {contents : String} {s : Script} (h : parse contents source = .ok s) :
    s.source = source ∧ commandsOf source 1 (Text.pieces '\n' contents) = .ok s.commands := by
  rw [parse_eq] at h
  obtain ⟨cs, hcs, ⟨⟩⟩ := bind_eq_ok.mp h
  exact ⟨rfl, hcs⟩

theorem map_commands_parse (contents : String) (source : Option Path) :
    (parse contents source).map (·.commands) = commandsOf source 1 (Text.pieces '\n' contents) := by
  rw [parse_eq]
  cases commandsOf source 1 (Text.pieces '\n' contents) <;> rfl

/-- Reading on from a later line raises the numbers. -/
theorem commandsOf_raised (n k : Nat) (ls : List String) :
    commandsOf source (n + k) ls = renumbered (· + k) (commandsOf source n ls) := by
  have hid : ∀ x : Except Fault (List Command), renumbered id x = x := by
    rintro (f | cs)
    · cases f <;> simp [renumbered, Except.map, Fault.renumbered, Place.renumbered]
    · simp [renumbered, Except.map, Command.renumbered]
  rw [← hid (commandsOf source (n + k) ls)]
  refine renumbered_commandsOf fun i => ?_
  push_cast [id]
  omega

theorem lines_lt_of_commandsOf (h : commandsOf source n ls = .ok cs) :
    cs.Pairwise (·.line < ·.line) := by
  have hnumbers : ((ls.zipIdx n).filter (Line.IsFilled ·.1)).map (fun l => (l.2 : Int)) =
      cs.map (·.line) := by
    rw [← List.forall₂_eq_eq_eq, List.forall₂_map_left_iff, List.forall₂_map_right_iff]
    exact (commandsOf_ok h).imp fun l c hc => hc.reads.line.symm
  have hzip : (ls.zipIdx n).Pairwise (fun l l' => (l.2 : Int) < l'.2) := by
    simp only [Int.ofNat_lt]
    rw [← List.pairwise_map (f := Prod.snd), List.zipIdx_map_snd]
    exact List.pairwise_lt_range'
  rw [← List.pairwise_map (f := Command.line), ← hnumbers, List.pairwise_map]
  exact hzip.filter _

/-- How a text is read line by line. The first line that is refused is the fault of the whole, and
otherwise each filled line gives one command. A text that goes on after a line end is read in its
two parts, and lines that hold no command only change the numbers of the others. -/
structure IsReadByLine (source : Option Path) (contents : String) : Prop where
  fails : (∃ f, parse contents source = .error f) ↔
    ∃ l ∈ Text.pieces '\n' contents, Line.IsRefused l
  blames : ∀ f, parse contents source = .error f ↔ ∃ before l after,
    Text.pieces '\n' contents = before ++ l :: after ∧
    (∀ l' ∈ before, ¬ Line.IsRefused l') ∧ Line.IsRefused l ∧
    f = .problem .noCommandName ⟨some (before.length + 1 : Nat), source⟩
  commands : ∀ s, parse contents source = .ok s → s.source = source ∧
    List.Forall₂ (fun l c => Command.IsAt source l.1 l.2 c)
      (((Text.pieces '\n' contents).zipIdx 1).filter (Line.IsFilled ·.1)) s.commands
  ordered : ∀ s, parse contents source = .ok s → s.commands.Pairwise (·.line < ·.line)
  appended : ∀ more, parse (contents ++ "\n" ++ more) source = do
    let s ← parse contents source
    let cs ← renumbered (· + (Text.pieces '\n' contents).length)
      ((parse more source).map (·.commands))
    return ⟨s.commands ++ cs, source⟩
  padded : ∀ padded, Padded (Text.pieces '\n' contents) (Text.pieces '\n' padded) →
    renumbered (fun _ => 0) ((parse padded source).map (·.commands)) =
      renumbered (fun _ => 0) ((parse contents source).map (·.commands))

theorem parse_by_line (source : Option Path) (contents : String) :
    IsReadByLine source contents := by
  constructor
  · rw [← commandsOf_fails]
    exact exists_congr fun f => parse_eq_error
  · intro f
    rw [parse_eq_error, commandsOf_error]
    simp only [Nat.add_comm 1]
  · intro s hs
    obtain ⟨hsource, hcs⟩ := commandsOf_of_parse hs
    exact ⟨hsource, commandsOf_ok hcs⟩
  · intro s hs
    exact lines_lt_of_commandsOf (commandsOf_of_parse hs).2
  · intro more
    have hlines : Text.pieces '\n' (contents ++ "\n" ++ more) =
        Text.pieces '\n' contents ++ Text.pieces '\n' more :=
      Text.pieces_append contents more
    rw [map_commands_parse, ← commandsOf_raised, parse_eq, hlines, commandsOf_append, parse_eq]
    simp only [bind_assoc, pure_bind]
  · intro padded h
    rw [map_commands_parse, map_commands_parse]
    exact h.renumbered_commandsOf 1 1

end Script

end TapScript
