import Mathlib.Data.List.TakeWhile
import Mathlib.Data.Nat.Init
import TapScript.Markup.Render
import TapScript.Proofs.CommandLine.Displays
import TapScript.Proofs.Script.Words

/-! # Reading markup

A text is read in parts: backslashes with a tag after them, or with another character, or at the
end. What is seen of a text follows from its parts, wherever they stand. Text without brackets is
seen as it is, also between a tag and the tag that closes it.
-/

namespace TapScript.Markup

/-- Backslashes. -/
abbrev slashes (n : Nat) : List Char :=
  List.replicate n '\\'

/-- Whether a bracket opens or closes. -/
def isBracket (c : Char) : Bool :=
  c = '[' || c = ']'

/-- Whether a text can stand between the brackets of a tag. -/
structure IsTag (body : List Char) : Prop where
  opens : body.head?.any opensTag = true
  bare : ∀ c ∈ body, isBracket c = false

variable {c : Char} {cs rest more body seen : List Char} {n position : Nat}
  {opened outer : List String}

section Tags

theorem isBracket_eq_false : isBracket c = false ↔ c ≠ '[' ∧ c ≠ ']' := by
  simp [isBracket]

theorem isBracket_of_opensTag (h : opensTag c = true) : isBracket c = false := by
  rw [isBracket_eq_false]
  constructor <;> rintro rfl
  · exact absurd h (by decide)
  · exact absurd h (by decide)

/-- What a text holds before its first bracket. -/
def beforeBracket (cs : List Char) : List Char :=
  cs.takeWhile fun c => c != '[' && c != ']'

theorem not_isBracket_of_mem_beforeBracket (h : c ∈ beforeBracket cs) : isBracket c = false := by
  simpa [isBracket] using List.mem_takeWhile_imp h

theorem beforeBracket_append (hu : ∀ c ∈ cs, isBracket c = false) (hc : isBracket c = true) :
    beforeBracket (cs ++ c :: more) = cs := by
  unfold beforeBracket
  rw [List.takeWhile_append_of_pos, List.takeWhile_cons_of_neg, List.append_nil]
  · intro h
    have hne : c ≠ '[' ∧ c ≠ ']' := by simpa using h
    rw [isBracket_eq_false.mpr hne] at hc
    cases hc
  · intro d hd
    simpa [isBracket] using hu d hd

theorem tag?_of_ne (h : c ≠ '[') : tag? (c :: cs) = none := by
  unfold tag?
  split
  · next heq => exact absurd (List.cons.inj heq).1 h
  · rfl

theorem tag?_eq_some_iff :
    tag? cs = some body ↔ IsTag body ∧ ∃ rest, cs = bracketed body ++ rest := by
  constructor
  · intro h
    unfold tag? at h
    split at h
    · next c cs =>
      rcases Option.ite_some_none_eq_some.mp h with ⟨⟨ho, hc⟩, rfl⟩
      rcases List.head?_eq_some_iff.mp hc with ⟨rest, hrest⟩
      have hcs : cs = beforeBracket cs ++ ']' :: rest := by
        rw [← hrest]
        exact (List.prefix_iff_eq_append.mp (List.takeWhile_prefix _)).symm
      refine ⟨⟨ho, ?_⟩, rest, ?_⟩
      · exact List.forall_mem_cons.mpr
          ⟨isBracket_of_opensTag ho, fun d hd => not_isBracket_of_mem_beforeBracket hd⟩
      · rw [bracketed, List.append_assoc, List.cons_append, List.cons_append]
        exact congrArg ('[' :: c :: ·) hcs
    · cases h
  · rintro ⟨⟨ho, hb⟩, rest, rfl⟩
    cases body with
    | nil => cases ho
    | cons c cs =>
      have htake : beforeBracket (cs ++ ']' :: rest) = cs :=
        beforeBracket_append (List.forall_mem_cons.mp hb).2 (by decide)
      rw [beforeBracket] at htake
      simp only [bracketed, tag?, List.cons_append, List.append_assoc, List.nil_append]
      rw [htake, if_pos ⟨by simpa using ho, by simp⟩]

theorem tag?_bracketed (hb : IsTag body) : tag? (bracketed body ++ rest) = some body :=
  tag?_eq_some_iff.mpr ⟨hb, rest, rfl⟩

/-- Whether the first bracket of a text is a closing one. -/
def closes (cs : List Char) : Bool :=
  (cs.dropWhile fun c => c != '[' && c != ']').head? = some ']'

theorem closes_append (hu : ∀ c ∈ cs, isBracket c = false) : closes (cs ++ more) = closes more := by
  unfold closes
  rw [List.dropWhile_append_of_pos]
  intro d hd
  simpa [isBracket] using hu d hd

theorem closes_of_bracket (h : isBracket c = true) : closes (c :: cs) = decide (c = ']') := by
  obtain rfl | rfl : c = '[' ∨ c = ']' := by simpa [isBracket] using h
  · rfl
  · rfl

theorem closes_append_bracket : closes (cs ++ '[' :: more) = closes cs := by
  induction cs with
  | nil => rfl
  | cons c cs ih =>
    cases hb : isBracket c with
    | true => rw [List.cons_append, closes_of_bracket hb, closes_of_bracket hb]
    | false =>
      have hone : ∀ d ∈ [c], isBracket d = false := by simpa using hb
      have hnext (cs : List Char) : closes (c :: cs) = closes cs := closes_append hone
      rw [List.cons_append, hnext, hnext, ih]

theorem isSome_tag? : (tag? ('[' :: cs)).isSome = (cs.head?.any opensTag && closes cs) := by
  rw [Bool.eq_iff_iff, Option.isSome_iff_exists, Bool.and_eq_true]
  constructor
  · rintro ⟨body, h⟩
    obtain ⟨⟨ho, hb⟩, rest, hcs⟩ := tag?_eq_some_iff.mp h
    obtain rfl : cs = body ++ ']' :: rest := by simpa [bracketed] using hcs
    constructor
    · cases body with
      | nil => cases ho
      | cons => exact ho
    · rw [closes_append hb]
      rfl
  · rintro ⟨ho, hc⟩
    refine ⟨beforeBracket cs, tag?_eq_some_iff.mpr ⟨⟨?_, ?_⟩, ?_⟩⟩
    · cases cs with
      | nil => cases ho
      | cons c cs =>
        have hne := isBracket_eq_false.mp (isBracket_of_opensTag ho)
        simpa [beforeBracket, hne] using ho
    · exact fun d hd => not_isBracket_of_mem_beforeBracket hd
    · obtain ⟨rest, hrest⟩ := List.head?_eq_some_iff.mp (of_decide_eq_true hc)
      have hcs : beforeBracket cs ++ ']' :: rest = cs := by
        rw [← hrest]
        exact List.takeWhile_append_dropWhile
      exact ⟨rest, by simp [bracketed, hcs]⟩

end Tags

section Parts

theorem takeWhile_slashes (h : rest.head? ≠ some '\\') :
    (slashes n ++ rest).takeWhile (· == '\\') = slashes n := by
  rw [List.takeWhile_append_of_pos fun c hc => by simp [List.eq_of_mem_replicate hc]]
  cases rest with
  | nil => simp
  | cons c cs =>
    have hc : c ≠ '\\' := by simpa using h
    simp [hc]

theorem drop_slashes : (slashes n ++ rest).drop n = rest :=
  List.drop_left' List.length_replicate

theorem drop_bracketed : (bracketed body ++ rest).drop (body.length + 2) = rest :=
  List.drop_left' (by simp [bracketed])

theorem head_bracketed : (bracketed body ++ rest).head? ≠ some '\\' := by
  simp [bracketed]

theorem pieces_tag (hb : IsTag body) :
    pieces position (slashes n ++ (bracketed body ++ rest)) =
      (if n % 2 = 1 then [.plain (slashes (n / 2) ++ bracketed body)]
        else [.plain (slashes (n / 2)), .tag body (position + n)]) ++
      pieces (position + n + body.length + 2) rest := by
  obtain ⟨c, cs, hcs⟩ : ∃ c cs, slashes n ++ (bracketed body ++ rest) = c :: cs :=
    List.exists_cons_of_ne_nil (by simp [bracketed])
  rw [hcs, pieces, ← hcs, takeWhile_slashes head_bracketed]
  simp only [List.length_replicate, drop_slashes, tag?_bracketed hb, drop_bracketed]
  split <;> rfl

theorem pieces_cons (hc : c ≠ '\\') (ht : tag? (c :: cs) = none) :
    pieces position (c :: cs) = .plain [c] :: pieces (position + 1) cs := by
  have htake : (c :: cs).takeWhile (· == '\\') = [] :=
    List.takeWhile_cons_of_neg (by simpa using hc)
  rw [pieces, htake]
  simp only [List.length_nil, List.drop_zero, ht, if_pos]

theorem pieces_slashes (hn : n ≠ 0) (hr : rest.head? ≠ some '\\') (ht : tag? rest = none) :
    pieces position (slashes n ++ rest) =
      .plain (slashes (if rest.head? = some '[' then n - 1 else n)) ::
        pieces (position + n) rest := by
  obtain ⟨m, rfl⟩ := Nat.exists_eq_succ_of_ne_zero hn
  have hcs : slashes (m + 1) ++ rest = '\\' :: (slashes m ++ rest) := by
    rw [slashes, List.replicate_succ, List.cons_append]
  rw [hcs, pieces, ← hcs, takeWhile_slashes hr]
  simp only [List.length_replicate, drop_slashes, ht, if_neg hn]
  split <;> simp

end Parts

/-- Every text starts with some backslashes, or none, before another character or its end. -/
theorem exists_slashes (cs : List Char) :
    ∃ n rest, cs = slashes n ++ rest ∧ rest.head? ≠ some '\\' := by
  induction cs with
  | nil => exact ⟨0, [], rfl, by simp⟩
  | cons c cs ih =>
    by_cases hc : c = '\\'
    · obtain ⟨n, rest, rfl, hr⟩ := ih
      exact ⟨n + 1, rest, by rw [hc, slashes, slashes, List.replicate_succ, List.cons_append], hr⟩
    · exact ⟨0, c :: cs, rfl, by simpa using hc⟩

/-- How a text is read: backslashes to its end, before a tag, or before another character that
starts none. -/
inductive Parts : List Char → Prop
  | ending (n : Nat) : Parts (slashes n)
  | tag (n : Nat) {body rest} (isTag : IsTag body) (next : Parts rest) :
      Parts (slashes n ++ (bracketed body ++ rest))
  | char (n : Nat) {c cs} (noSlash : c ≠ '\\') (noTag : tag? (c :: cs) = none)
      (next : Parts cs) : Parts (slashes n ++ c :: cs)

theorem parts (cs : List Char) : Parts cs := by
  induction hl : cs.length using Nat.strong_induction_on generalizing cs with
  | _ length ih =>
    obtain ⟨n, rest, rfl, hr⟩ := exists_slashes cs
    cases ht : tag? rest with
    | some body =>
      obtain ⟨hb, after, rfl⟩ := tag?_eq_some_iff.mp ht
      exact .tag n hb (ih after.length (by simp [← hl, bracketed]; omega) after rfl)
    | none =>
      cases rest with
      | nil =>
        rw [List.append_nil]
        exact .ending n
      | cons c cs =>
        exact .char n (by simpa using hr) ht (ih cs.length (by simp [← hl]; omega) cs rfl)

section Seeing

/-! ### What is seen -/

/-- What is seen of some characters while some tags are open, if they can be rendered. -/
def seen? (opened : List String) (cs : List Char) : Option (List Char) :=
  (renderPieces (pieces 0 cs) opened).toOption

theorem toOption_plain {ps : List Piece} : (renderPieces (.plain cs :: ps) opened).toOption =
    (renderPieces ps opened).toOption.map (cs ++ ·) := by
  rw [renderPieces]
  cases renderPieces ps opened <;> rfl

theorem toOption_tag {ps : List Piece} : (renderPieces (.tag body position :: ps) opened).toOption =
    (follow body position opened).toOption.bind fun outer => (renderPieces ps outer).toOption := by
  rw [renderPieces]
  cases follow body position opened <;> rfl

theorem toOption_follow :
    (follow body position opened).toOption = (follow body 0 opened).toOption := by
  unfold follow
  split
  · split
    · cases opened <;> rfl
    · simp only
      split <;> rfl
  · rfl

theorem toOption_char (hc : c ≠ '\\') (ht : tag? (c :: cs) = none) :
    (renderPieces (pieces position (slashes n ++ c :: cs)) opened).toOption =
      (renderPieces (pieces (position + n + 1) cs) opened).toOption.map
        (slashes (if c = '[' then n - 1 else n) ++ c :: ·) := by
  by_cases hn : n = 0
  · subst hn
    rw [slashes, List.replicate_zero, List.nil_append, pieces_cons hc ht, toOption_plain]
    simp
  · rw [pieces_slashes hn (by simpa using hc) ht, pieces_cons hc ht, toOption_plain,
      toOption_plain, Option.map_map]
    simp [Function.comp_def]

theorem toOption_slashes :
    (renderPieces (pieces position (slashes n)) opened).toOption = some (slashes n) := by
  by_cases hn : n = 0
  · subst hn
    rw [slashes, List.replicate_zero, pieces, renderPieces]
    rfl
  · rw [← List.append_nil (slashes n), pieces_slashes hn (by simp) rfl, toOption_plain, pieces,
      renderPieces]
    simp [Except.toOption]

/-- It does not matter for what is seen where a text starts. -/
theorem toOption_pieces (position : Nat) (cs : List Char) (opened : List String) :
    (renderPieces (pieces position cs) opened).toOption = seen? opened cs := by
  unfold seen?
  generalize 0 = other
  induction parts cs generalizing position other opened with
  | ending n => rw [toOption_slashes, toOption_slashes]
  | @tag n body rest hb _ ih =>
    rw [pieces_tag hb, pieces_tag hb]
    split
    · simp only [List.singleton_append, toOption_plain]
      rw [ih]
    · simp only [List.cons_append, List.nil_append, toOption_plain, toOption_tag]
      have hfollow : (follow body (position + n) opened).toOption =
          (follow body (other + n) opened).toOption := toOption_follow.trans toOption_follow.symm
      rw [hfollow]
      exact congrArg _ (congrArg _ (funext fun outer => ih _ _ _))
  | char n hc ht _ ih => rw [toOption_char hc ht, toOption_char hc ht, ih]

theorem seen?_slashes (n : Nat) : seen? opened (slashes n) = some (slashes n) :=
  toOption_slashes

theorem seen?_char (hc : c ≠ '\\') (ht : tag? (c :: cs) = none) :
    seen? opened (slashes n ++ c :: cs) =
      (seen? opened cs).map (slashes (if c = '[' then n - 1 else n) ++ c :: ·) := by
  rw [seen?, toOption_char hc ht, toOption_pieces]

theorem seen?_escapedTag (hb : IsTag body) :
    seen? opened (slashes (2 * n + 1) ++ (bracketed body ++ rest)) =
      (seen? opened rest).map fun seen => slashes n ++ (bracketed body ++ seen) := by
  rw [seen?, pieces_tag hb, if_pos (by omega), List.singleton_append, toOption_plain,
    toOption_pieces, show (2 * n + 1) / 2 = n by omega]
  simp only [List.append_assoc]

/-- Half of the backslashes before a tag are seen, if there is an even number of them. -/
theorem seen?_tag (hb : IsTag body) :
    seen? opened (slashes (2 * n) ++ (bracketed body ++ rest)) =
      ((follow body 0 opened).toOption.bind (seen? · rest)).map (slashes n ++ ·) := by
  rw [seen?, pieces_tag hb, if_neg (by omega), show 2 * n / 2 = n by omega]
  simp only [List.cons_append, List.nil_append, toOption_plain, toOption_tag, toOption_pieces]
  rw [toOption_follow]

theorem seen?_bracketed (hb : IsTag body) : seen? opened (bracketed body ++ rest) =
    (follow body 0 opened).toOption.bind (seen? · rest) := by
  have htag : seen? opened (slashes (2 * 0) ++ (bracketed body ++ rest)) = _ := seen?_tag hb
  simpa using htag

/-- Text without an opening bracket is seen as it is, if no backslash of it meets what follows. -/
theorem seen?_plain (hu : '[' ∉ cs) (hl : more = [] ∨ cs.getLast? ≠ some '\\') :
    seen? opened (cs ++ more) = (seen? opened more).map (cs ++ ·) := by
  induction parts cs with
  | ending n =>
    rcases hl with rfl | hl
    · have hnil : seen? opened [] = some [] := seen?_slashes 0
      rw [List.append_nil, seen?_slashes, hnil, Option.map_some, List.append_nil]
    · have hn : n = 0 := by
        by_contra hn
        simp [List.getLast?_replicate, hn] at hl
      subst hn
      simp
  | tag n hb _ _ => exact absurd (by simp [bracketed]) hu
  | @char n c cs hc ht _ ih =>
    have hb : c ≠ '[' ∧ '[' ∉ cs := by
      constructor
      · rintro rfl
        simp at hu
      · exact fun hm => hu (by simp [hm])
    have hnext : seen? opened (cs ++ more) = (seen? opened more).map (cs ++ ·) := by
      refine ih hb.2 (hl.imp id fun hl => ?_)
      cases cs with
      | nil => simp
      | cons d cs => simpa [List.getLast?_append, List.getLast?_cons_cons] using hl
    rw [List.append_assoc, List.cons_append, seen?_char hc (tag?_of_ne hb.1), if_neg hb.1, hnext,
      Option.map_map]
    simp [Function.comp_def]

end Seeing

section Styles

open CommandLine

/-! ### Styles -/

variable {style : String}

theorem letter_of_mem (h : IsStyle style) (hc : c ∈ style.toList) : 'a' ≤ c ∧ c ≤ 'z' := by
  have hlower : (decide ('a'.val ≤ c.val) && decide (c.val ≤ 'z'.val)) = true :=
    List.all_eq_true.mp h.letters c hc
  simpa [Char.le_def] using hlower

theorem opensTag_of_mem (h : IsStyle style) (hc : c ∈ style.toList) : opensTag c = true := by
  have hletter := letter_of_mem h hc
  simp [opensTag, hletter]

theorem ne_of_mem (h : IsStyle style) (hc : c ∈ style.toList) : c ≠ '=' ∧ c ≠ '/' := by
  have hletter := letter_of_mem h hc
  constructor <;> rintro rfl <;> revert hletter <;> decide

theorem not_isBlank_of_mem (h : IsStyle style) (hc : c ∈ style.toList) :
    Text.isBlank c = false := by
  have hletter : 'a'.toNat ≤ c.toNat ∧ c.toNat ≤ 'z'.toNat := letter_of_mem h hc
  rw [← Bool.not_eq_true, Text.isBlank, Text.Ranges.holds_iff]
  rintro ⟨r, hr, hle⟩
  simp only [Text.blankRanges, List.mem_cons, List.not_mem_nil, or_false] at hr
  rcases hr with rfl | rfl | rfl | rfl | rfl | rfl | rfl | rfl | rfl | rfl <;>
    · simp at hle hletter
      omega

theorem isTag_style (h : IsStyle style) : IsTag style.toList where
  opens := by
    obtain ⟨c, cs, hcs⟩ := List.exists_cons_of_ne_nil h.named
    rw [hcs]
    exact opensTag_of_mem h (hcs ▸ List.mem_cons_self)
  bare c hc := isBracket_of_opensTag (opensTag_of_mem h hc)

theorem isTag_closing (h : ∀ c ∈ body, isBracket c = false) : IsTag ('/' :: body) where
  opens := rfl
  bare := List.forall_mem_cons.mpr ⟨rfl, h⟩

theorem tagName_style (h : IsStyle style) : tagName style.toList = style.toList :=
  List.takeWhile_eq_self_iff.mpr fun c hc => by simpa using (ne_of_mem h hc).1

/-- The tag of a style opens it. -/
theorem follow_style (h : IsStyle style) :
    follow style.toList position opened = .ok (Style.canonical style :: opened) := by
  unfold follow
  rw [tagName_style h]
  split
  · next hname => exact absurd rfl (ne_of_mem h (hname ▸ List.mem_cons_self)).2
  · rw [String.ofList_toList]

/-- The closing tag of a style closes it, if it is open. -/
theorem follow_closing (h : IsStyle style) (ho : Style.canonical style ∈ opened) :
    follow ('/' :: style.toList) position opened =
      .ok (opened.erase (Style.canonical style)) := by
  have hname : tagName ('/' :: style.toList) = '/' :: style.toList := by
    rw [tagName, List.takeWhile_cons_of_pos (by decide)]
    exact congrArg _ (tagName_style h)
  have htrim : Text.trim style.toList = style.toList :=
    (Text.IsTight.ofAll h.named fun _ hc => not_isBlank_of_mem h hc).trim_eq
  unfold follow
  simp [hname, htrim, h.named, ho]

/-- The tags around a text with a style are left out. -/
theorem seen?_styled {text : List Char} (hs : IsStyle style) (ht : '[' ∉ text)
    (hl : text.getLast? ≠ some '\\') :
    seen? opened (bracketed style.toList ++ (text ++ (bracketed ('/' :: style.toList) ++ more))) =
      (seen? opened more).map (text ++ ·) := by
  have hclose : seen? (Style.canonical style :: opened)
      (bracketed ('/' :: style.toList) ++ more) = seen? opened more := by
    rw [seen?_bracketed (isTag_closing (isTag_style hs).bare), follow_closing hs List.mem_cons_self,
      List.erase_cons_head]
    rfl
  rw [seen?_bracketed (isTag_style hs), follow_style hs]
  exact (seen?_plain ht (.inr hl)).trans (congrArg _ hclose)

/-- A tag without a slash opens a style. -/
theorem follow_of_not_mem (hs : '/' ∉ body) :
    ∃ style, ∀ opened, follow body 0 opened = .ok (style :: opened) := by
  refine ⟨Style.canonical (String.ofList (tagName body)), fun opened => ?_⟩
  unfold follow
  split
  · next name hname =>
    have htaken : tagName body <+: body := List.takeWhile_prefix _
    exact absurd (htaken.subset (hname ▸ List.mem_cons_self)) hs
  · rfl

/-- A closing tag when none is open is an error. -/
theorem follow_nil (name : List Char) : ∃ e, follow ('/' :: name) 0 [] = .error e := by
  have hname : tagName ('/' :: name) = '/' :: name.takeWhile (· != '=') := by
    rw [tagName, List.takeWhile_cons_of_pos (by decide)]
  unfold follow
  rw [hname]
  simp only
  split
  · exact ⟨_, rfl⟩
  · exact ⟨_, rfl⟩

/-- What starts no tag does not start one with an opening bracket after it. -/
theorem tag?_append (ht : tag? (c :: cs) = none) : tag? (c :: (cs ++ '[' :: more)) = none := by
  by_cases hc : c = '['
  · subst hc
    have hhead : (cs ++ '[' :: more).head?.any opensTag = cs.head?.any opensTag := by
      cases cs <;> rfl
    rw [← Option.not_isSome_iff_eq_none] at ht ⊢
    rwa [isSome_tag?, hhead, closes_append_bracket, ← isSome_tag?]
  · exact tag?_of_ne hc

/-- A text without slashes can always be seen in a style, since its tags only open others. -/
theorem isSome_seen?_enclosed (hs : IsStyle style) (ho : Style.canonical style ∈ opened)
    (hc : '/' ∉ cs) :
    (seen? opened (cs ++ bracketed ('/' :: style.toList))).isSome = true := by
  induction parts cs generalizing opened with
  | ending n =>
    have hend (opened : List String) : (seen? opened []).isSome = true := by
      rw [show ([] : List Char) = slashes 0 from rfl, seen?_slashes]
      rfl
    have hclosing := isTag_closing (isTag_style hs).bare
    rw [← List.append_nil (bracketed _)]
    obtain ⟨k, rfl | rfl⟩ : ∃ k, n = 2 * k ∨ n = 2 * k + 1 := ⟨n / 2, by omega⟩
    · rw [seen?_tag hclosing, follow_closing hs ho]
      simpa [Except.toOption] using hend _
    · rw [seen?_escapedTag hclosing, Option.isSome_map]
      exact hend opened
  | @tag n body rest hb _ ih =>
    have hslash : '/' ∉ body ∧ '/' ∉ rest := by
      constructor <;> exact fun hm => hc (by simp [bracketed, hm])
    rw [List.append_assoc, List.append_assoc]
    obtain ⟨k, rfl | rfl⟩ : ∃ k, n = 2 * k ∨ n = 2 * k + 1 := ⟨n / 2, by omega⟩
    · -- The tag opens another style over those that are open, and the one to close stays open.
      obtain ⟨opening, hfollow⟩ := follow_of_not_mem hslash.1
      rw [seen?_tag hb, hfollow, Option.isSome_map]
      exact ih (List.mem_cons_of_mem opening ho) hslash.2
    · rw [seen?_escapedTag hb, Option.isSome_map]
      exact ih ho hslash.2
  | @char n c cs hn ht _ ih =>
    have hslash : '/' ∉ cs := fun hm => hc (by simp [hm])
    have htag : tag? (c :: (cs ++ bracketed ('/' :: style.toList))) = none := tag?_append ht
    rw [List.append_assoc, List.cons_append, seen?_char hn htag, Option.isSome_map]
    exact ih ho hslash

end Styles

end TapScript.Markup
