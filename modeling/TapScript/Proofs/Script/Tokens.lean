import TapScript.Proofs.Script.Words

/-! # What tokens keep of their line

Each character of a line has a role, by the quote that stands open before it. The roles alone say
how the line is cut into tokens and which of its characters they keep. What the tokens of a line
hold allows them to be written again, and they are then read as they were.
-/

namespace TapScript.Token

/-- What a character does in its line: separate tokens, open or close a span between quotes, or
stand for itself outside of such spans or in one. -/
inductive Role
  | gap
  | opening
  | closing
  | bare
  | literal
  deriving DecidableEq, Repr

namespace Role

/-- The role of a character after which quote, if any, stands open. -/
def of : Option Char → Char → Role
  | none, c => if isGap c then gap else if isQuote c then opening else bare
  | some q, c => if c = q then closing else literal

/-- Whether the character is part of what its token says. -/
def isText : Role → Bool
  | bare | literal => true
  | gap | opening | closing => false

end Role

/-- The quote that stands open after a character. -/
def openAfter (quote? : Option Char) (c : Char) : Option Char :=
  match Role.of quote? c with
  | .opening => some c
  | .closing => none
  | .gap | .bare | .literal => quote?

/-- A character of a line with its role. -/
structure Mark where
  char : Char
  role : Role
  deriving DecidableEq, Repr

/-- The marks of the rest of a line. -/
def marks : Option Char → List Char → List Mark
  | _, [] => []
  | quote?, c :: cs => ⟨c, .of quote? c⟩ :: marks (openAfter quote? c) cs

/-- The characters that are neither gaps nor the quotes around a span. -/
def textOf (ms : List Mark) : List Char :=
  (ms.filter (·.role.isText)).map (·.char)

/-- Whether a token is read from the first part of some marks: from what is before a gap or the
end of the line, or else up to the first quote that closes a span. -/
structure IsPart (part rest : List Mark) : Prop where
  filled : part ≠ []
  gapless : ∀ m ∈ part, m.role ≠ .gap
  ends : (∃ init m, part = init ++ [m] ∧ m.role = .closing ∧ ∀ m ∈ init, m.role ≠ .closing) ∨
    (∀ m ∈ part, m.role ≠ .closing) ∧ ∀ m ∈ rest.head?, m.role = .gap

/-- The token that a part of a line writes. It is quoted if a quote opens in the part. -/
def ofPart (part : List Mark) : Token :=
  ⟨String.ofList (textOf part), part.any (·.role = .opening)⟩

/-- Whether some tokens are those of a marked line. -/
inductive Reads : List Mark → List Token → Prop
  | done : Reads [] []
  | gap {m ms ts} (role : m.role = .gap) (rest : Reads ms ts) : Reads (m :: ms) ts
  | token {part ms ts} (isPart : IsPart part ms) (rest : Reads ms ts) :
    Reads (part ++ ms) (ofPart part :: ts)

section Marks

variable {part part' ms ms' : List Mark} {m : Mark} {ts ts' : List Token}

@[simp] theorem textOf_append (ms ms' : List Mark) :
    textOf (ms ++ ms') = textOf ms ++ textOf ms' := by
  simp [textOf]

theorem textOf_singleton (c : Char) (role : Role) :
    textOf [⟨c, role⟩] = if role.isText then [c] else [] := by
  cases role <;> rfl

namespace IsPart

/-- A part does not go on where another one ends. -/
theorem eq_of_append {more : List Mark} (h : IsPart part (more ++ ms))
    (h' : IsPart (part ++ more) ms) : more = [] := by
  rcases more with _ | ⟨m, more⟩
  · rfl
  have hgap : m.role ≠ .gap := h'.gapless m (by simp)
  obtain ⟨init, close, rfl, hclose, -⟩ | ⟨-, hhead⟩ := h.ends
  · -- The quote that closes the part would have to be the last mark of the longer one.
    obtain ⟨init', close', heq, -, hinit'⟩ | ⟨hopen, -⟩ := h'.ends
    · have hmem : close ∈ init' := by
        have hlast := congrArg List.dropLast heq
        rw [List.dropLast_concat, List.append_assoc, List.dropLast_append_of_ne_nil (by simp)]
          at hlast
        rw [← hlast]
        simp [List.dropLast_cons_of_ne_nil]
      exact absurd hclose (hinit' close hmem)
    · exact absurd hclose (hopen close (by simp))
  · exact absurd (hhead m rfl) hgap

theorem unique (h : IsPart part ms) (h' : IsPart part' ms') (heq : part ++ ms = part' ++ ms') :
    part = part' ∧ ms = ms' := by
  obtain ⟨more, rfl, rfl⟩ | ⟨more, rfl, rfl⟩ := List.append_eq_append_iff.mp heq
  · obtain rfl := h.eq_of_append h'
    simp
  · obtain rfl := h'.eq_of_append h
    simp

end IsPart

namespace Reads

/-- A marked line is read in one way. -/
theorem unique (h : Reads ms ts) (h' : Reads ms ts') : ts = ts' := by
  induction h generalizing ts' with
  | done =>
    generalize hms : ([] : List Mark) = ms at h'
    cases h' with
    | done => rfl
    | gap => cases hms
    | token isPart => exact absurd (List.append_eq_nil_iff.mp hms.symm).1 isPart.filled
  | @gap m ms ts role _ ih =>
    generalize hms : m :: ms = ms' at h'
    cases h' with
    | done => cases hms
    | gap _ rest' =>
      cases hms
      exact ih rest'
    | @token part _ _ isPart _ =>
      obtain ⟨m', part, rfl⟩ := List.exists_cons_of_ne_nil isPart.filled
      cases hms
      exact absurd role (isPart.gapless m (by simp))
  | @token part ms ts isPart _ ih =>
    generalize hms : part ++ ms = ms' at h'
    cases h' with
    | done => exact absurd (List.append_eq_nil_iff.mp hms).1 isPart.filled
    | @gap m' _ _ role _ =>
      obtain ⟨m, part, rfl⟩ := List.exists_cons_of_ne_nil isPart.filled
      cases hms
      exact absurd role (isPart.gapless m' (by simp))
    | token isPart' rest' =>
      obtain ⟨rfl, rfl⟩ := isPart.unique isPart' hms
      rw [ih rest']

/-- The tokens say what is neither a gap nor a quote around a span. -/
theorem text (h : Reads ms ts) : ts.flatMap (·.text.toList) = textOf ms := by
  induction h with
  | done => rfl
  | gap role _ ih => simp [ih, textOf, role, Role.isText]
  | token _ _ ih => simp [ih, ofPart]

end Reads

end Marks

namespace Reading

/-- The quote that stands open. -/
def quote? : Reading → Option Char
  | between | bare _ => none
  | within q _ => some q

/-- Whether what is in hand was taken from a part of a line that may go on. -/
structure Holds (r : Reading) (part : List Mark) : Prop where
  goesOn : ∀ m ∈ part, m.role ≠ .gap ∧ m.role ≠ .closing
  text : textOf part = r.taken.reverse
  filled : part = [] ↔ r = between
  quoted : part.any (·.role = .opening) = r.quote?.isSome

variable {r : Reading} {part : List Mark} {taken : List Char} {c q : Char}

@[simp] theorem quote?_between : between.quote? = none := rfl

@[simp] theorem quote?_bare : (bare taken).quote? = none := rfl

@[simp] theorem quote?_within : (within q taken).quote? = some q := rfl

theorem holds_between : between.Holds [] := by
  constructor <;> simp [textOf]

theorem Holds.bare (h : r.Holds part) (hr : r.quote? = none) :
    (bare (c :: r.taken)).Holds (part ++ [⟨c, .bare⟩]) where
  goesOn := by simpa [or_imp, forall_and] using h.goesOn
  text := by simp [h.text, textOf_singleton, Role.isText]
  filled := by simp
  quoted := by simp [h.quoted, hr]

theorem Holds.opening (h : r.Holds part) : (within c r.taken).Holds (part ++ [⟨c, .opening⟩]) where
  goesOn := by simpa [or_imp, forall_and] using h.goesOn
  text := by simp [h.text, textOf_singleton, Role.isText]
  filled := by simp
  quoted := by simp

theorem Holds.literal (h : (within q taken).Holds part) :
    (within q (c :: taken)).Holds (part ++ [⟨c, .literal⟩]) where
  goesOn := by simpa [or_imp, forall_and] using h.goesOn
  text := by simp [h.text, textOf_singleton, Role.isText]
  filled := by simp
  quoted := by simpa using h.quoted

/-- What is in hand at the end of its part is the token that the part writes. -/
theorem Holds.finish (h : r.Holds part) (hp : part ≠ []) : r.finish = [ofPart part] := by
  have htext := h.text
  have hquoted := h.quoted
  cases r with
  | between => exact absurd (h.filled.mpr rfl) hp
  | bare taken => simp [Reading.finish, ofPart, htext, hquoted]
  | within q taken => simp [Reading.finish, ofPart, htext, hquoted]

/-- What is in hand before a gap, or at the end of the line, is read as it should be. -/
theorem Holds.reads_finish (h : r.Holds part) {ms : List Mark} {ts : List Token}
    (hms : ∀ m ∈ ms.head?, m.role = .gap) (hr : Reads ms ts) :
    Reads (part ++ ms) (r.finish ++ ts) := by
  by_cases hp : part = []
  · rw [hp, h.filled.mp hp]
    exact hr
  · rw [h.finish hp]
    exact .token ⟨hp, fun m hm => (h.goesOn m hm).1,
      .inr ⟨fun m hm => (h.goesOn m hm).2, hms⟩⟩ hr

/-- What is in hand when its span is closed is read as it should be. -/
theorem Holds.reads_closed (h : (within q taken).Holds part) {ms : List Mark} {ts : List Token}
    (hr : Reads ms ts) :
    Reads (part ++ ⟨q, .closing⟩ :: ms) ((within q taken).finish ++ ts) := by
  have hpart : part ≠ [] := by simp [h.filled]
  have hclosed : ofPart (part ++ [⟨q, .closing⟩]) = ofPart part := by
    simp [ofPart, textOf_singleton, Role.isText]
  rw [h.finish hpart, List.append_cons, ← hclosed]
  refine .token ⟨by simp, ?_, .inl ⟨part, _, rfl, rfl, fun m hm => (h.goesOn m hm).2⟩⟩ hr
  simpa [or_imp, forall_and] using fun m hm => (h.goesOn m hm).1

theorem quote?_eq_none (h : ∀ q taken, r ≠ within q taken) : r.quote? = none := by
  cases r with
  | between | bare _ => rfl
  | within q taken => exact absurd rfl (h q taken)

/-- The rest of a line is read as the marks of the part in hand and of the rest say. -/
theorem Holds.reads (h : r.Holds part) (cs : List Char) :
    Reads (part ++ marks r.quote? cs) (r.tokens cs) := by
  -- The invariant of the reader is that it holds the part since the last gap or closing quote.
  fun_induction tokens r cs generalizing part with
  | case1 r =>
    rw [marks, ← List.append_nil r.finish]
    exact h.reads_finish (by simp) .done
  | case2 q taken cs ih =>
    simpa [marks, Role.of, openAfter] using h.reads_closed (ih holds_between)
  | case3 q taken c cs hc ih =>
    simpa [marks, Role.of, openAfter, hc] using ih h.literal
  | case4 r c cs hr hgap ih =>
    rw [quote?_eq_none hr, marks, openAfter, Role.of, if_pos hgap]
    exact h.reads_finish (by simp) (.gap rfl (ih holds_between))
  | case5 r c cs hr hgap hquote ih =>
    simpa [quote?_eq_none hr, marks, Role.of, openAfter, hgap, hquote] using ih h.opening
  | case6 r c cs hr hgap hquote ih =>
    have hnone := quote?_eq_none hr
    simpa [hnone, marks, Role.of, openAfter, hgap, hquote] using ih (h.bare hnone)

end Reading

/-- Whether a token can be read from a line: a bare one says something and holds no gap and no
quote; none holds both quotes. -/
structure IsReadable (t : Token) : Prop where
  bare : t.quoted = false →
    t.text ≠ "" ∧ ∀ c ∈ t.text.toList, isGap c = false ∧ isQuote c = false
  lacks : '"' ∉ t.text.toList ∨ '\'' ∉ t.text.toList

/-- The ways to write a token: a bare one as its text, a quoted one between two quotes that it
lacks. -/
inductive IsWrittenAs : Token → String → Prop
  | bare (text : String) : IsWrittenAs ⟨text, false⟩ text
  | quoted (text : String) (q : Char) (quote : isQuote q = true) (lacks : q ∉ text.toList) :
    IsWrittenAs ⟨text, true⟩ (Text.between q text)

namespace Reading

/-- Whether what is in hand can become a token. -/
def IsReadable : Reading → Prop
  | between => True
  | bare taken => taken ≠ [] ∧ ∀ c ∈ taken, isGap c = false ∧ isQuote c = false
  | within q taken => isQuote q = true ∧ q ∉ taken

variable {r : Reading} {c : Char}

theorem IsReadable.finish (h : r.IsReadable) : ∀ t ∈ r.finish, t.IsReadable := by
  cases r with
  | between => simp [Reading.finish]
  | bare taken =>
    obtain ⟨hn, hp⟩ := h
    have hlacks : '"' ∉ taken := fun hm => absurd (hp _ hm).2 (by decide)
    rintro t ht
    obtain rfl := List.mem_singleton.mp ht
    exact ⟨fun _ => by simpa [hn] using hp, .inl (by simpa using hlacks)⟩
  | within q taken =>
    obtain ⟨hq, hlacks⟩ := h
    rintro t ht
    obtain rfl := List.mem_singleton.mp ht
    refine ⟨by simp, ?_⟩
    obtain rfl | rfl := eq_of_isQuote hq
    · exact .inl (by simpa using hlacks)
    · exact .inr (by simpa using hlacks)

/-- The characters in hand outside of a span are no gaps and no quotes. -/
theorem IsReadable.plain (h : r.IsReadable) (hr : r.quote? = none) :
    ∀ c ∈ r.taken, isGap c = false ∧ isQuote c = false := by
  cases r with
  | between => nofun
  | bare taken => exact h.2
  | within q taken => cases hr

theorem IsReadable.opening (h : r.IsReadable) (hr : r.quote? = none) (hc : isQuote c = true) :
    (within c r.taken).IsReadable := by
  refine ⟨hc, fun hm => ?_⟩
  rw [(h.plain hr c hm).2] at hc
  cases hc

theorem IsReadable.bare (h : r.IsReadable) (hr : r.quote? = none) (hg : isGap c = false)
    (hc : isQuote c = false) : (bare (c :: r.taken)).IsReadable :=
  ⟨by simp, List.forall_mem_cons.mpr ⟨⟨hg, hc⟩, h.plain hr⟩⟩

theorem IsReadable.tokens (h : r.IsReadable) (cs : List Char) :
    ∀ t ∈ r.tokens cs, t.IsReadable := by
  fun_induction Reading.tokens r cs with
  | case1 r => exact h.finish
  | case2 q taken cs ih => exact List.forall_mem_append.mpr ⟨h.finish, ih trivial⟩
  | case3 q taken c cs hc ih => exact ih ⟨h.1, by simp [h.2, Ne.symm hc]⟩
  | case4 r c cs hr hgap ih => exact List.forall_mem_append.mpr ⟨h.finish, ih trivial⟩
  | case5 r c cs hr hgap hquote ih => exact ih (h.opening (quote?_eq_none hr) hquote)
  | case6 r c cs hr hgap hquote ih =>
    exact ih (h.bare (quote?_eq_none hr) (by simpa using hgap) (by simpa using hquote))

end Reading

theorem isReadable_of_mem_scan {line : String} {t : Token} (h : t ∈ scan line) : t.IsReadable := by
  have hbetween : Reading.between.IsReadable := trivial
  exact hbetween.tokens line.toList t h

namespace IsReadable

variable {t : Token} {w : String} {rest : List Char}

/-- Every token that was read can be written. -/
theorem isWrittenAs_written (h : t.IsReadable) : t.IsWrittenAs t.written := by
  obtain ⟨text, quoted⟩ := t
  cases quoted with
  | false =>
    rw [written_of_bare rfl]
    exact .bare text
  | true =>
    obtain ⟨q, hq, hlacks, hw⟩ := written_of_quoted rfl h.lacks
    rw [hw]
    exact .quoted text q hq hlacks

/-- However a token is written, it is read as it was. -/
theorem tokens_written (h : t.IsReadable) (hw : t.IsWrittenAs w) (hr : IsApart rest) :
    Reading.between.tokens (w.toList ++ rest) = t :: Reading.between.tokens rest := by
  cases hw with
  | bare text =>
    obtain ⟨hfilled, hplain⟩ := h.bare rfl
    exact Reading.tokens_plain hfilled hplain hr
  | quoted text q quote lacks => exact Reading.tokens_between quote lacks rest

end IsReadable

/-- What the tokens of a line keep of it. They are cut from the line as the roles of its characters
say, they say all of it but gaps and the quotes around spans, and, in any of the ways to write
them, with a space between neighbours, they are read again. -/
structure Conserves (line : String) (ts : List Token) : Prop where
  reads : ∀ ts', Reads (marks none line.toList) ts' ↔ ts' = ts
  text : ts.flatMap (·.text.toList) = textOf (marks none line.toList)
  readable : ∀ t ∈ ts, t.IsReadable
  writable : List.Forall₂ IsWrittenAs ts (ts.map written)
  readBack : ∀ words, List.Forall₂ IsWrittenAs ts words → scan (lineOf words) = ts

theorem scan_conserves (line : String) : Conserves line (scan line) := by
  have hreads : Reads (marks none line.toList) (scan line) :=
    Reading.holds_between.reads line.toList
  have hreadable : ∀ t ∈ scan line, t.IsReadable := fun t ht => isReadable_of_mem_scan ht
  constructor
  · exact fun ts' => ⟨fun h => h.unique hreads, fun h => h ▸ hreads⟩
  · exact hreads.text
  · exact hreadable
  · rw [List.forall₂_map_right_iff, List.forall₂_same]
    exact fun t ht => (hreadable t ht).isWrittenAs_written
  · intro words hwords
    have hboth := (List.forall₂_and_left _ _).mpr ⟨hreadable, hwords⟩
    refine scan_lineOf (hboth.imp ?_)
    rintro t w ⟨ht, hw⟩ rest hr
    exact ht.tokens_written hw hr

/-- A quote may open inside a token, the one that closes it ends the token, and one that is left
open takes the rest of the line. -/
example : scan "a\"b c\"d ''\t'e f" =
    [⟨"ab c", true⟩, ⟨"d", false⟩, ⟨"", true⟩, ⟨"e f", true⟩] := by
  decide

end TapScript.Token
