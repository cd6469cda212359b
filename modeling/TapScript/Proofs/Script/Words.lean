import Mathlib.Data.List.Forall2
import TapScript.Proofs.Script.Reading

/-! # Lines of words

The reader of a line takes each token from the word that writes it, whatever quotes are chosen, and
words with a space between neighbours are read as the tokens that they write. Wherever such a line
stands in a script, it is read as the command that these tokens make.
-/

namespace TapScript

open Outcome

namespace Text

/-- A text between two quotes. -/
def between (quote : Char) (s : String) : String :=
  String.ofList (quote :: (s.toList ++ [quote]))

/-- Whether trimming leaves a text as it is, since it starts and ends with other characters than
blanks. -/
structure IsTight (cs : List Char) : Prop where
  head : ∃ c, cs.head? = some c ∧ isBlank c = false
  last : ∃ c, cs.getLast? = some c ∧ isBlank c = false

variable {cs : List Char}

@[simp] theorem toList_between (q : Char) (s : String) :
    (between q s).toList = q :: (s.toList ++ [q]) := by
  rw [between, String.toList_ofList]

namespace IsTight

theorem ne_nil (h : IsTight cs) : cs ≠ [] := by
  obtain ⟨c, hc, -⟩ := h.head
  rintro rfl
  cases hc

theorem trimStart_eq {c : Char} (hc : cs.head? = some c) (hb : isBlank c = false) :
    trimStart cs = cs := by
  obtain ⟨ds, rfl⟩ := List.head?_eq_some_iff.mp hc
  rw [trimStart, List.dropWhile_cons_of_neg (by simp [hb])]

theorem trim_eq (h : IsTight cs) : trim cs = cs := by
  obtain ⟨c, hc, hcb⟩ := h.head
  obtain ⟨d, hd, hdb⟩ := h.last
  have hr : cs.reverse.head? = some d := by
    rw [List.head?_reverse, hd]
  rw [trim, trimStart_eq hc hcb, trimEnd, trimStart_eq hr hdb, List.reverse_reverse]

theorem ofAll (hn : cs ≠ []) (h : ∀ c ∈ cs, isBlank c = false) : IsTight cs := by
  constructor
  · exact ⟨cs.head hn, List.head?_eq_some_head hn, h _ (List.head_mem hn)⟩
  · exact ⟨cs.getLast hn, List.getLast?_eq_some_getLast hn, h _ (List.getLast_mem hn)⟩

end IsTight

end Text

namespace Token

/-- The ways to write a token in a line: a bare one as its text, which holds no gap and no quote,
and a quoted one between two quotes of a kind that its text lacks. -/
inductive Spells : Token → String → Prop
  | bare (text : String) (filled : text ≠ "")
    (plain : ∀ c ∈ text.toList, isGap c = false ∧ isQuote c = false)
    (single : '\n' ∉ text.toList) : Spells ⟨text, false⟩ text
  | quoted (text : String) (q : Char) (quote : isQuote q = true) (lacks : q ∉ text.toList)
    (single : '\n' ∉ text.toList) : Spells ⟨text, true⟩ (Text.between q text)

theorem eq_of_isQuote {q : Char} (h : isQuote q = true) : q = '"' ∨ q = '\'' := by
  simpa [isQuote] using h

/-- Whether what is left of a line does not go on with the token before it. -/
def IsApart (rest : List Char) : Prop :=
  ∀ c ∈ rest.head?, isGap c = true

theorem isApart_nil : IsApart [] := by
  simp [IsApart]

theorem isApart_space (rest : List Char) : IsApart (' ' :: rest) := by
  rintro c ⟨⟩
  rfl

variable {t : Token} {w : String} {cs rest : List Char} {q : Char}

namespace Reading

@[simp] theorem taken_between : between.taken = [] := rfl

@[simp] theorem taken_bare (taken : List Char) : (bare taken).taken = taken := rfl

@[simp] theorem taken_within (q : Char) (taken : List Char) : (within q taken).taken = taken := rfl

theorem tokens_apart (h : IsApart rest) (r : Reading) (hr : ∀ q taken, r ≠ within q taken) :
    r.tokens rest = r.finish ++ between.tokens rest := by
  cases rest with
  | nil => simp [tokens, finish]
  | cons c rest =>
    have hc : isGap c = true := h c rfl
    cases r with
    | between => simp [tokens, finish]
    | bare taken => simp [tokens, finish, hc]
    | within q taken => exact absurd rfl (hr q taken)

theorem tokens_bare (h : ∀ c ∈ cs, isGap c = false ∧ isQuote c = false) (hr : IsApart rest)
    (taken : List Char) : (bare taken).tokens (cs ++ rest) =
      ⟨String.ofList (taken.reverse ++ cs), false⟩ :: between.tokens rest := by
  -- Each character of the word goes to the front of what is in hand, which is reversed in the end.
  induction cs generalizing taken with
  | nil =>
    rw [List.nil_append, tokens_apart hr _ (by simp), List.append_nil]
    rfl
  | cons c cs ih =>
    obtain ⟨⟨hg, hq⟩, h⟩ := List.forall_mem_cons.mp h
    rw [List.cons_append, tokens]
    · simp only [hg, hq, Bool.false_eq_true, if_false]
      rw [taken_bare, ih h]
      simp
    · simp

theorem tokens_within (h : q ∉ cs) (taken rest : List Char) :
    (within q taken).tokens (cs ++ q :: rest) =
      ⟨String.ofList (taken.reverse ++ cs), true⟩ :: between.tokens rest := by
  induction cs generalizing taken with
  | nil => simp [tokens, finish]
  | cons c cs ih =>
    obtain ⟨hc, hcs⟩ := not_or.mp fun hm => h (List.mem_cons.mpr hm)
    rw [List.cons_append, tokens, if_neg (Ne.symm hc), ih hcs]
    simp

/-- A bare token is taken from its text. -/
theorem tokens_plain {text : String} (filled : text ≠ "")
    (plain : ∀ c ∈ text.toList, isGap c = false ∧ isQuote c = false) (hr : IsApart rest) :
    between.tokens (text.toList ++ rest) = ⟨text, false⟩ :: between.tokens rest := by
  obtain ⟨c, cs, hcs⟩ := List.exists_cons_of_ne_nil (String.toList_eq_nil_iff.not.mpr filled)
  rw [hcs] at plain
  obtain ⟨⟨hg, hq⟩, plain⟩ := List.forall_mem_cons.mp plain
  rw [hcs, List.cons_append, tokens]
  · simp only [hg, hq, Bool.false_eq_true, if_false, taken_between]
    rw [tokens_bare plain hr, List.reverse_singleton, List.singleton_append, ← hcs,
      String.ofList_toList]
  · simp

/-- A quoted token is taken from its text between two quotes that it lacks. -/
theorem tokens_between {text : String} (quote : isQuote q = true) (lacks : q ∉ text.toList)
    (rest : List Char) : between.tokens ((Text.between q text).toList ++ rest) =
      ⟨text, true⟩ :: between.tokens rest := by
  have hg : isGap q = false := by
    rcases eq_of_isQuote quote with rfl | rfl <;> rfl
  rw [Text.toList_between, List.cons_append, tokens]
  · simp only [hg, quote, Bool.false_eq_true, if_false, if_true, taken_between]
    rw [List.append_assoc, List.singleton_append, tokens_within lacks, List.reverse_nil,
      List.nil_append, String.ofList_toList]
  · simp

/-- A token is taken from the way in which it is written. -/
theorem tokens_spelled (h : t.Spells w) (hr : IsApart rest) :
    between.tokens (w.toList ++ rest) = t :: between.tokens rest := by
  cases h with
  | bare text filled plain _ => exact tokens_plain filled plain hr
  | quoted text q quote lacks _ => exact tokens_between quote lacks rest

end Reading

/-- The line that some words make, with a space between neighbours. -/
def lineOf (words : List String) : String :=
  " ".intercalate words

theorem toList_lineOf (words : List String) :
    (lineOf words).toList = [' '].intercalate (words.map String.toList) :=
  String.toList_intercalate

theorem toList_lineOf_concat (words : List String) (w : String) :
    ∃ init, (lineOf (words ++ [w])).toList = init ++ w.toList := by
  by_cases hn : words = []
  · exact ⟨[], by simp [hn, lineOf]⟩
  · refine ⟨(lineOf words ++ " ").toList, ?_⟩
    rw [lineOf, String.intercalate_append_of_ne_nil hn (by simp), String.toList_append,
      String.intercalate_singleton]
    rfl

theorem toList_lineOf_cons (w : String) (words : List String) :
    ∃ rest, (lineOf (w :: words)).toList = w.toList ++ rest ∧ IsApart rest := by
  rw [toList_lineOf]
  cases words with
  | nil => exact ⟨[], by simp, isApart_nil⟩
  | cons w' words =>
    refine ⟨' ' :: [' '].intercalate ((w' :: words).map String.toList), ?_, isApart_space _⟩
    simp [List.intercalate_cons_cons]

/-- A line of words is read as tokens, each taken from its word wherever that stands apart. -/
theorem scan_lineOf {tokens : List Token} {words : List String}
    (h : List.Forall₂ (fun t (w : String) => ∀ rest, IsApart rest →
      Reading.between.tokens (w.toList ++ rest) = t :: Reading.between.tokens rest) tokens words) :
    scan (lineOf words) = tokens := by
  rw [scan, toList_lineOf]
  induction h with
  | nil => rfl
  | @cons t w tokens words hw h ih =>
    cases words with
    | nil =>
      have hlast := hw [] isApart_nil
      rw [List.append_nil] at hlast
      cases h
      simpa [Reading.tokens, Reading.finish] using hlast
    | cons w' words =>
      rw [List.map_cons, List.map_cons, List.intercalate_cons_cons, List.append_assoc,
        List.singleton_append, ← List.map_cons, hw _ (isApart_space _), Reading.tokens]
      · simp only [Reading.finish, List.nil_append]
        rw [if_pos (by rfl), ih]
      · simp

/-- A line of words is read as the tokens that the words write. -/
theorem scan_spelled {tokens : List Token} {words : List String}
    (h : List.Forall₂ Spells tokens words) : scan (lineOf words) = tokens :=
  scan_lineOf (h.imp fun _ _ hw _ hr => Reading.tokens_spelled hw hr)

/-- A way to write a token stays on its line. -/
theorem Spells.lineEnd_not_mem (h : t.Spells w) : '\n' ∉ w.toList := by
  cases h with
  | bare text _ _ single => exact single
  | quoted text q quote _ single =>
    have hne : '\n' ≠ q := by
      rcases eq_of_isQuote quote with rfl | rfl <;> decide
    rw [Text.toList_between]
    simp [hne, single]

/-- Quotes at both ends keep a text from being trimmed. -/
theorem isTight_between (hq : isQuote q = true) (s : String) :
    Text.IsTight (Text.between q s).toList := by
  have hb : Text.isBlank q = false := by
    rcases eq_of_isQuote hq with rfl | rfl <;> decide
  rw [Text.toList_between]
  constructor
  · exact ⟨q, rfl, hb⟩
  · refine ⟨q, ?_, hb⟩
    rw [← List.cons_append, List.getLast?_concat]

/-- Whether a token can be written in a script: a bare one holds no quote and no blank, and is
not empty; a quoted one holds no line end and lacks one of the two quotes. -/
structure IsRepresentable (t : Token) : Prop where
  bare : t.quoted = false →
    t.text ≠ "" ∧ ∀ c ∈ t.text.toList, isQuote c = false ∧ Text.isBlank c = false
  quoted : t.quoted = true →
    '\n' ∉ t.text.toList ∧ ('"' ∉ t.text.toList ∨ '\'' ∉ t.text.toList)

-- The characters are tested one by one: a quantifier over all characters would be decided by
-- going through them.
instance (t : Token) : Decidable t.IsRepresentable :=
  decidable_of_iff
    ((t.quoted = false →
      t.text ≠ "" ∧ t.text.toList.all (fun c => !isQuote c && !Text.isBlank c) = true) ∧
    (t.quoted = true →
      '\n' ∉ t.text.toList ∧ ('"' ∉ t.text.toList ∨ '\'' ∉ t.text.toList))) <| by
    simp only [List.all_eq_true, Bool.and_eq_true, Bool.not_eq_true']
    exact ⟨fun h => ⟨h.1, h.2⟩, fun h => ⟨h.bare, h.quoted⟩⟩

theorem isGap_of_not_isBlank {c : Char} (h : Text.isBlank c = false) : isGap c = false := by
  by_contra hg
  rw [Bool.not_eq_false, isGap, Bool.or_eq_true, beq_iff_eq, beq_iff_eq] at hg
  rcases hg with rfl | rfl <;> revert h <;> decide

theorem lineEnd_not_mem_of_not_isBlank (h : ∀ c ∈ cs, Text.isBlank c = false) : '\n' ∉ cs :=
  fun hm => absurd (h _ hm) (by decide)

theorem written_of_bare (hq : t.quoted = false) : t.written = t.text := by
  simp [written, hq]

/-- A quoted token is written between quotes of a kind that it lacks, if it lacks one kind. -/
theorem written_of_quoted (hq : t.quoted = true)
    (hl : '"' ∉ t.text.toList ∨ '\'' ∉ t.text.toList) :
    ∃ q, isQuote q = true ∧ q ∉ t.text.toList ∧ t.written = Text.between q t.text := by
  by_cases hd : '"' ∈ t.text.toList
  · refine ⟨'\'', rfl, hl.resolve_left fun hn => hn hd, ?_⟩
    apply String.toList_inj.mp
    simp [written, hq, hd]
  · refine ⟨'"', rfl, hd, ?_⟩
    apply String.toList_inj.mp
    simp [written, hq, hd]

namespace IsRepresentable

theorem spells (h : t.IsRepresentable) : t.Spells t.written := by
  rcases ht : t with ⟨text, quoted⟩
  subst ht
  cases quoted with
  | false =>
    obtain ⟨hn, hp⟩ := h.bare rfl
    rw [written_of_bare rfl]
    exact .bare text hn (fun c hc => ⟨isGap_of_not_isBlank (hp c hc).2, (hp c hc).1⟩)
      (lineEnd_not_mem_of_not_isBlank fun c hc => (hp c hc).2)
  | true =>
    obtain ⟨q, hq, hl, hw⟩ := written_of_quoted rfl (h.quoted rfl).2
    rw [hw]
    exact .quoted text q hq hl (h.quoted rfl).1

theorem isTight (h : t.IsRepresentable) : Text.IsTight t.written.toList := by
  cases hq : t.quoted with
  | false =>
    obtain ⟨hn, hp⟩ := h.bare hq
    rw [written_of_bare hq]
    exact .ofAll (String.toList_eq_nil_iff.not.mpr hn) fun c hc => (hp c hc).2
  | true =>
    obtain ⟨q, hquote, -, hw⟩ := written_of_quoted hq (h.quoted hq).2
    rw [hw]
    exact isTight_between hquote t.text

/-- A quote is not a slash, so that only a bare token can start a comment. -/
theorem slashes_of_written (h : t.IsRepresentable) (hs : ['/', '/'] <+: t.written.toList) :
    t.quoted = false ∧ ['/', '/'] <+: t.text.toList := by
  cases hq : t.quoted with
  | false =>
    rw [written_of_bare hq] at hs
    exact ⟨rfl, hs⟩
  | true =>
    obtain ⟨q, hquote, -, hw⟩ := written_of_quoted hq (h.quoted hq).2
    rw [hw, Text.toList_between] at hs
    obtain ⟨rfl, -⟩ := List.cons_prefix_cons.mp hs
    exact absurd hquote (by decide)

theorem spells_bare {text : String} (h : IsRepresentable ⟨text, false⟩) :
    Spells ⟨text, false⟩ text :=
  h.spells

theorem isTight_bare {text : String} (h : IsRepresentable ⟨text, false⟩) :
    Text.IsTight text.toList :=
  h.isTight

end IsRepresentable

end Token

namespace Line

open Token

/-- Whether some words, with a space between neighbours, make a line that holds a command and
write its tokens: the first word starts no comment, and trimming leaves the line as it is. -/
structure Writes (words : List String) (tokens : List Token) : Prop where
  spells : List.Forall₂ Spells tokens words
  first : ∃ w ∈ words.head?, Text.IsTight w.toList ∧ ¬ ['/', '/'] <+: w.toList
  last : ∀ w ∈ words.getLast?, Text.IsTight w.toList

variable {cs rest : List Char} {tokens : List Token} {words : List String} {n : Nat}

theorem withoutReturn_eq (h : Text.IsTight cs) : withoutReturn cs = cs := by
  obtain ⟨c, hc, hb⟩ := h.last
  have hne : c ≠ '\r' := by
    rintro rfl
    revert hb
    decide
  rw [withoutReturn, if_neg]
  simpa [hc] using hne

theorem isExecutable_of_isTight (h : Text.IsTight cs) (hc : ¬ ['/', '/'] <+: cs) :
    isExecutable cs = true := by
  rw [isExecutable, h.trim_eq]
  split
  · exact absurd rfl h.ne_nil
  · exact absurd (by simp) hc
  · rfl

/-- Two slashes that start a line start its first word. -/
theorem slashes_of_append (hn : cs ≠ []) (hr : IsApart rest)
    (h : ['/', '/'] <+: cs ++ rest) : ['/', '/'] <+: cs := by
  cases cs with
  | nil => exact absurd rfl hn
  | cons c cs =>
    cases cs with
    | nil =>
      obtain ⟨-, hrest⟩ := List.cons_prefix_cons.mp h
      obtain ⟨ds, rfl⟩ := hrest
      have hgap : isGap '/' = true := hr '/' rfl
      exact absurd hgap (by decide)
    | cons d cs => simpa using h

namespace Writes

theorem isTight (h : Writes words tokens) : Text.IsTight (lineOf words).toList := by
  obtain ⟨w, hw, htight, -⟩ := h.first
  obtain ⟨ws, rfl⟩ := List.head?_eq_some_iff.mp hw
  obtain ⟨init, w', hconcat⟩ := (List.eq_nil_or_concat (w :: ws)).resolve_left (by simp)
  rw [List.concat_eq_append] at hconcat
  constructor
  · obtain ⟨c, hc, hb⟩ := htight.head
    obtain ⟨rest, hrest, -⟩ := toList_lineOf_cons w ws
    exact ⟨c, by simp [hrest, List.head?_append, hc], hb⟩
  · obtain ⟨c, hc, hb⟩ := (h.last w' (by simp [hconcat])).last
    obtain ⟨cs, hcs⟩ := toList_lineOf_concat init w'
    exact ⟨c, by simp [hconcat, hcs, List.getLast?_append, hc], hb⟩

theorem isExecutable (h : Writes words tokens) :
    Line.isExecutable (lineOf words).toList = true := by
  apply isExecutable_of_isTight h.isTight
  intro hslashes
  obtain ⟨w, hw, htight, hc⟩ := h.first
  obtain ⟨ws, rfl⟩ := List.head?_eq_some_iff.mp hw
  obtain ⟨rest, hrest, hapart⟩ := toList_lineOf_cons w ws
  rw [hrest] at hslashes
  exact hc (slashes_of_append htight.ne_nil hapart hslashes)

theorem lineEnd_not_mem (h : Writes words tokens) : '\n' ∉ (lineOf words).toList := by
  rw [toList_lineOf, Text.mem_intercalate_iff (by decide)]
  rintro ⟨l, hl, hm⟩
  obtain ⟨w, hw, rfl⟩ := List.mem_map.mp hl
  obtain ⟨i, hi, rfl⟩ := List.getElem_of_mem hw
  have hspells := h.spells.get (by rw [h.spells.length_eq]; exact hi) hi
  exact hspells.lineEnd_not_mem hm

/-- The words are read as the tokens that they write. -/
theorem ofLine_eq (h : Writes words tokens) (n : Nat) (source : Option Path) :
    Command.ofLine source ⟨n, lineOf words⟩ =
      Command.ofTokens tokens n (lineOf words) source := by
  have htrim : Text.trimmed (lineOf words) = lineOf words := by
    rw [Text.trimmed, h.isTight.trim_eq, String.ofList_toList]
  rw [Command.ofLine, htrim, scan_spelled h.spells]

/-- The line stands among the lines of a script that hold commands. -/
theorem numbered_cons (h : Writes words tokens) (ls : List (List Char)) :
    numbered n ((lineOf words).toList :: ls) = ⟨n, lineOf words⟩ :: numbered (n + 1) ls := by
  rw [numbered, withoutReturn_eq h.isTight, if_pos h.isExecutable, String.ofList_toList]

end Writes

theorem Writes.cons {t : Token} {w : String} (ht : t.Spells w) (hw : Text.IsTight w.toList)
    (hc : ¬ ['/', '/'] <+: w.toList) (h : List.Forall₂ Spells tokens words)
    (hl : ∀ v ∈ words.getLast?, Text.IsTight v.toList) : Writes (w :: words) (t :: tokens) where
  spells := .cons ht h
  first := ⟨w, rfl, hw, hc⟩
  last v hv := by
    rw [List.getLast?_cons] at hv
    cases hlast : words.getLast? with
    | none =>
      rw [hlast] at hv
      cases hv
      exact hw
    | some v' =>
      rw [hlast] at hv
      cases hv
      exact hl v' hlast

theorem numbered_append (n : Nat) (ls ls' : List (List Char)) :
    numbered n (ls ++ ls') = numbered n ls ++ numbered (n + ls.length) ls' := by
  induction ls generalizing n with
  | nil => rfl
  | cons l ls ih =>
    have hn : n + (l :: ls).length = n + 1 + ls.length := by
      rw [List.length_cons]
      omega
    simp only [List.cons_append, numbered, ih, hn]
    split <;> rfl

theorem scan_eq (contents : String) :
    scan contents = numbered 1 ((Text.pieces '\n' contents).map String.toList) := by
  rw [scan, Text.map_toList_pieces]

/-- A line that holds a command is read wherever it stands in a script. -/
theorem Writes.mem_scan (h : Writes words tokens) {contents : String}
    {before after : List String}
    (hl : Text.pieces '\n' contents = before ++ lineOf words :: after) :
    ⟨before.length + 1, lineOf words⟩ ∈ scan contents := by
  rw [scan_eq, hl, List.map_append, numbered_append, List.map_cons, h.numbered_cons,
    List.length_map, Nat.add_comm]
  simp

theorem Writes.scan_alone (h : Writes words tokens) :
    scan (lineOf words) = [⟨1, lineOf words⟩] := by
  rw [scan, Text.splitOn_of_not_mem h.lineEnd_not_mem, h.numbered_cons]
  rfl

end Line

namespace Command

/-- Whether a command is what the tokens of a numbered row say: the first one names it, by the
segments of its library and its verb, and the others are its arguments. -/
structure Reads (source : Option Path) (row : List Token × Nat) (c : Command) : Prop where
  tokens : ∃ t, row.1 = t :: c.args ∧ c.name = t.text
  line : c.line = row.2
  source : c.source = source
  plain : Registry.IsPlain (c.library ++ [c.verb])
  name : Registry.dotted (c.library ++ [c.verb]) = c.name

variable {source : Option Path} {tokens : List Token} {words : List String} {c : Command}

/-- A command has the library and the verb that its name is made of, and the arguments after it. -/
theorem Reads.eq {library : List String} {verb : String} {t : Token} {args : List Token} {n : Nat}
    (h : Reads source (t :: args, n) c) (hp : Registry.IsPlain (library ++ [verb]))
    (ht : t.text = Registry.dotted (library ++ [verb])) :
    c.library = library ∧ c.verb = verb ∧ c.args = args := by
  obtain ⟨t', hrow, hname⟩ := h.tokens
  obtain ⟨rfl, rfl⟩ := List.cons.inj hrow
  have hdotted := h.name.trans (hname.trans ht)
  have hsegments := Registry.dotted_injective h.plain hp (by simp) (by simp) hdotted
  obtain ⟨hlibrary, hverb⟩ := List.append_inj' hsegments rfl
  exact ⟨hlibrary, List.singleton_inj.mp hverb, rfl⟩

/-- The library and the verb of a command are the pieces of its name between dots. -/
theorem segments_of_ofTokens {line : Int} {text : String}
    (h : ofTokens tokens line text source = .ok c) :
    c.library ++ [c.verb] = Text.pieces '.' c.name := by
  unfold ofTokens at h
  split at h
  · cases h
  · split at h <;> cases h
    next t args _ =>
    have hn : Text.pieces '.' t.text ≠ [] := by
      simp [Text.pieces, Text.splitOn_ne_nil]
    rw [List.getLastD_eq_getLast?, List.getLast?_eq_some_getLast hn]
    exact List.dropLast_concat_getLast hn

theorem ofTokens_reads {n : Nat} {text : String}
    (h : ofTokens tokens n text source = .ok c) : Reads source (tokens, n) c ∧ c.text = text := by
  have hsegments := segments_of_ofTokens h
  have hplain : Registry.IsPlain (c.library ++ [c.verb]) := by
    rw [hsegments]
    exact fun s hs => Text.not_mem_of_mem_pieces hs
  have hname : Registry.dotted (c.library ++ [c.verb]) = c.name := by
    rw [hsegments]
    exact Text.intercalate_pieces c.name
  unfold ofTokens at h
  split at h
  · cases h
  · next t args =>
    split at h
    · cases h
    · cases h
      exact ⟨⟨⟨t, rfl, rfl⟩, rfl, rfl, hplain, hname⟩, rfl⟩

/-- A line of words is read as a command, if its first token is not empty. -/
theorem ofLine_reads (h : Line.Writes words tokens) (hn : ∃ t ∈ tokens.head?, t.text ≠ "")
    (n : Nat) (source : Option Path) : ∃ c,
      ofLine source ⟨n, Token.lineOf words⟩ = .ok c ∧ Reads source (tokens, n) c := by
  obtain ⟨t, ht, hname⟩ := hn
  obtain ⟨args, rfl⟩ := List.head?_eq_some_iff.mp ht
  obtain ⟨c, hc⟩ : ∃ c, ofTokens (t :: args) n (Token.lineOf words) source = .ok c := by
    rw [ofTokens, if_neg hname]
    exact ⟨_, rfl⟩
  exact ⟨c, (h.ofLine_eq n source).trans hc, (ofTokens_reads hc).1⟩

end Command

theorem Builtin.ofName?_name (b : Builtin) : ofName? b.name = some b := by
  cases b <;> rfl

theorem Builtin.isRepresentable_name (b : Builtin) :
    Token.IsRepresentable ⟨b.name, false⟩ := by
  cases b <;> decide

namespace Script

variable {tokens : List Token} {words : List String} {P : Command → Prop}

/-- Whether some words on a line of a script are read as a command with a property, whatever else
stands in the script; alone they make a script. -/
structure Yields (words : List String) (P : Command → Prop) : Prop where
  alone : ∃ c, parse (Token.lineOf words) none = .ok ⟨[c], none⟩
  command : ∀ {contents source script before after}, parse contents source = .ok script →
    Text.pieces '\n' contents = before ++ Token.lineOf words :: after →
    ∃ c ∈ script.commands, c.line = (before.length + 1 : Nat) ∧ P c

theorem yields (h : Line.Writes words tokens) (hn : ∃ t ∈ tokens.head?, t.text ≠ "")
    (hP : ∀ source n c, Command.Reads source (tokens, n) c → P c) : Yields words P where
  alone := by
    obtain ⟨c, hc, -⟩ := Command.ofLine_reads h hn 1 none
    refine ⟨c, ?_⟩
    rw [parse, h.scan_alone, List.mapM_cons, hc]
    rfl
  command hparse hline := by
    obtain ⟨cs, hcs, hscript⟩ := bind_eq_ok.mp hparse
    cases hscript
    obtain ⟨c, hc, hread⟩ := exists_mem_of_mapM hcs _ (h.mem_scan hline)
    obtain ⟨c', hc', hreads⟩ := Command.ofLine_reads h hn _ _
    obtain rfl : c = c' := Except.ok.inj (hread.symm.trans hc')
    exact ⟨c, hc, hreads.line, hP _ _ c hreads⟩

theorem yields_builtin (b : Builtin) (h : List.Forall₂ Token.Spells tokens words)
    (hl : ∀ v ∈ words.getLast?, Text.IsTight v.toList)
    (hP : ∀ c : Command, c.builtin? = some b → c.args = tokens → P c) :
    Yields (b.name :: words) P := by
  have hb := b.isRepresentable_name
  have hcomment : ¬ ['/', '/'] <+: b.name.toList := by
    cases b <;> decide
  have hfilled : b.name ≠ "" := by
    cases b <;> decide
  have hplain : Registry.IsPlain ([] ++ [b.name]) := by
    cases b <;> simp [Registry.IsPlain, Builtin.name]
  have hname : b.name = Registry.dotted ([] ++ [b.name]) := by
    rw [Registry.dotted, List.nil_append, String.intercalate_singleton]
  refine yields (.cons hb.spells_bare hb.isTight_bare hcomment h hl)
    ⟨_, rfl, hfilled⟩ fun source n c hc => ?_
  obtain ⟨-, hverb, hargs⟩ := hc.eq hplain hname
  exact hP c (by rw [Command.builtin?, hverb, b.ofName?_name]) hargs

theorem yields_library {library : List String} {verb w : String} {quoted : Bool}
    (hn : library ≠ []) (hp : Registry.IsPlain (library ++ [verb]))
    (hw : Token.Spells ⟨Registry.dotted (library ++ [verb]), quoted⟩ w)
    (htight : Text.IsTight w.toList) (hcomment : ¬ ['/', '/'] <+: w.toList)
    (h : List.Forall₂ Token.Spells tokens words)
    (hl : ∀ v ∈ words.getLast?, Text.IsTight v.toList)
    (hP : ∀ c : Command, c.library = library → c.verb = verb → c.args = tokens → P c) :
    Yields (w :: words) P := by
  have hfilled : Registry.dotted (library ++ [verb]) ≠ "" := by
    intro he
    have hdotted : Registry.dotted (library ++ [verb]) = Registry.dotted [""] := he
    have hsegments := Registry.dotted_injective hp (by simp [Registry.IsPlain]) (by simp)
      (by simp) hdotted
    have hlength := congrArg List.length hsegments
    simp [hn] at hlength
  refine yields (.cons hw htight hcomment h hl) ⟨_, rfl, hfilled⟩ fun source n c hc => ?_
  obtain ⟨hlibrary, hverb, hargs⟩ := hc.eq hp rfl
  exact hP c hlibrary hverb hargs

end Script

end TapScript
