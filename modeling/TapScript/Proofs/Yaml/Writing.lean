import TapScript.Proofs.Json.Reading
import TapScript.Script.Line
import TapScript.Yaml.Writer

/-! # Line ends of written documents

The only line end that the writer puts between lines is a line feed, and a text that holds a
carriage return is written with an escape for it. So reading lines of any kind leaves what is
written as it is.
-/

namespace TapScript

theorem Text.unifyLineEnds_of_not_mem {cs : List Char} (h : '\r' ∉ cs) : unifyLineEnds cs = cs := by
  fun_induction unifyLineEnds cs with
  | case1 => rfl
  | case2 cs ih => exact absurd List.mem_cons_self h
  | case3 cs _ ih => exact absurd List.mem_cons_self h
  | case4 c cs _ _ ih => rw [ih fun hm => h (List.mem_cons_of_mem _ hm)]

namespace Yaml

/-! ### Pages -/

namespace Page

variable {p : Page} {cs : List Char} {n : Nat}

/-- A page without carriage returns. -/
def Clean (p : Page) : Prop :=
  '\r' ∉ p.done

theorem Clean.put (h : p.Clean) (hc : '\r' ∉ cs) : (p.put cs).Clean := by
  simpa [Clean, Page.put] using ⟨hc, h⟩

theorem Clean.endLine (h : p.Clean) {c : Char} (hc : c ≠ '\r') : (p.endLine c).Clean := by
  simpa [Clean, Page.endLine] using ⟨hc.symm, h⟩

theorem Clean.indentTo (h : p.Clean) : (p.indentTo n).Clean :=
  h.put fun hm => absurd (List.eq_of_mem_replicate hm) (by decide)

theorem Clean.newLine (h : p.Clean) : (p.newLine n).Clean :=
  (h.endLine (by decide)).indentTo

theorem Clean.foldl_endLine (h : p.Clean) (hc : '\r' ∉ cs) : (cs.foldl Page.endLine p).Clean := by
  induction cs generalizing p with
  | nil => exact h
  | cons c cs ih =>
    obtain ⟨hc, hcs⟩ := not_or.mp (mt List.mem_cons.mpr hc)
    exact ih (h.endLine (Ne.symm hc)) hcs

end Page

/-! ### Texts -/

variable {p : Page} {indent : Nat} {cs held : List Char} {c : Char} {s : String}

theorem not_mem_takeWhile {q : Char → Bool} (h : '\r' ∉ cs) : '\r' ∉ cs.takeWhile q :=
  fun hm => h ((List.takeWhile_sublist q).subset hm)

theorem not_mem_drop {n : Nat} (h : '\r' ∉ cs) : '\r' ∉ cs.drop n :=
  fun hm => h (List.mem_of_mem_drop hm)

theorem not_mem_append {ds : List Char} (hc : '\r' ∉ cs) (hd : '\r' ∉ ds) : '\r' ∉ cs ++ ds :=
  fun hm => (List.mem_append.mp hm).elim hc hd

theorem writeRuns_clean {inner : Char → List Char} (hi : ∀ c ≠ '\r', '\r' ∉ inner c) {first : Bool}
    {fuel : Nat} (hp : p.Clean) (hc : '\r' ∉ cs) :
    (writeRuns indent inner first fuel cs p).Clean := by
  induction fuel generalizing first cs p with
  | zero => exact hp
  | succ fuel ih =>
    unfold writeRuns
    cases cs with
    | nil => exact hp
    | cons c cs =>
      dsimp only
      split
      · refine ih ?_ (not_mem_drop hc)
        split
        · exact hp.newLine
        · exact hp.put (not_mem_takeWhile hc)
      · split
        · refine ih (Page.Clean.indentTo (Page.Clean.foldl_endLine ?_ (not_mem_takeWhile hc)))
            (not_mem_drop hc)
          split
          · exact hp.endLine (by decide)
          · exact hp
        · refine ih (hp.put fun hm => ?_) (not_mem_drop hc)
          obtain ⟨d, hd, hm⟩ := List.mem_flatMap.mp hm
          exact hi d (fun he => not_mem_takeWhile hc (he ▸ hd)) hm

theorem not_mem_digitChar (n : Nat) (h : n < 16) : (Nat.digitChar n).toUpper ≠ '\r' := by
  decide +revert

theorem not_mem_upperHex (width n : Nat) : '\r' ∉ upperHex width n := by
  induction width generalizing n with
  | zero => exact List.not_mem_nil
  | succ w ih =>
    unfold upperHex Text.hex
    rw [List.map_append, List.mem_append]
    rintro (h | h)
    · exact ih _ h
    · exact not_mem_digitChar (n % 16) (Nat.mod_lt _ (by decide)) (List.mem_singleton.mp h).symm

theorem not_mem_doubleEscape (c : Char) : '\r' ∉ doubleEscape c := by
  have hcr : doubleEscape '\r' = ['\\', 'r'] := by decide
  by_cases hc : c = '\r'
  · rw [hc, hcr]
    decide
  · have hl : ∀ d, escapeLetters.lookup c = some d → d ≠ '\r' := by
      have hm : ∀ e ∈ escapeLetters, e.2 ≠ '\r' := by decide
      intro d hd
      obtain ⟨l₁, l₂, he, -⟩ := List.lookup_eq_some_iff.mp hd
      exact hm (c, d) (he ▸ by simp)
    unfold doubleEscape
    dsimp only
    split
    · simpa using Ne.symm hc
    · split
      · next d hd => simpa using (hl d hd).symm
      · repeat' split
        all_goals simp [not_mem_upperHex]

theorem writeDouble_clean {first : Bool} (hp : p.Clean) (hh : '\r' ∉ held) :
    (writeDouble indent first held cs p).Clean := by
  induction cs generalizing first held p with
  | nil => exact hp.put hh
  | cons c cs ih =>
    have hb : '\r' ∉ ['\\'] := by decide
    have hd := not_mem_doubleEscape c
    unfold writeDouble
    dsimp only
    cases he : doubleEscape c != [c] with
    | true =>
      have hp' : ((p.put held).put (doubleEscape c)).Clean := (hp.put hh).put hd
      simp only [if_true]
      split
      · refine ih ?_ List.not_mem_nil
        split
        · exact ((hp'.put hb).newLine).put hb
        · exact (hp'.put hb).newLine
      · exact ih hp' List.not_mem_nil
    | false =>
      have hc : '\r' ∉ [c] := by
        rw [bne_eq_false_iff_eq] at he
        exact he ▸ hd
      simp only [Bool.false_eq_true, if_false]
      split
      · exact ih (((hp.put (not_mem_append hh hb)).newLine).put hb) hc
      · exact ih hp (not_mem_append hh hc)

theorem isSpecial_of_style (h : Style.ofText s ≠ .double) : '\r' ∉ s.toList := by
  intro hm
  have hs : s.toList.any isSpecial = true := List.any_eq_true.mpr ⟨_, hm, by decide⟩
  unfold Style.ofText at h
  simp [Traits.ofText, hs] at h

theorem writeText_clean (hp : p.Clean) : (writeText indent s p).Clean := by
  unfold writeText
  dsimp only
  split
  · next h =>
    refine writeRuns_clean (fun c hc => ?_) (hp.put (by decide))
      (isSpecial_of_style (by rw [h]; decide))
    simpa using Ne.symm hc
  · next h =>
    refine (writeRuns_clean (fun c hc => ?_) (hp.put (by decide))
      (isSpecial_of_style (by rw [h]; decide))).put (by decide)
    split <;> simpa using Ne.symm hc
  · exact (writeDouble_clean (hp.put (by decide)) List.not_mem_nil).put (by decide)

/-! ### Values -/

/-- A value in which no key of a mapping holds a carriage return. -/
inductive CleanKeys : Value → Prop
  | leaf {v : Value} (h : v.isMap = false) : CleanKeys v
  | map {b : Bool} {es : List (Value × Value)} (hk : ∀ e ∈ es, ∀ k, e.1 = .text k → '\r' ∉ k.toList)
      (hv : ∀ e ∈ es, CleanKeys e.2) : CleanKeys (.map b es)

theorem not_mem_toString (n : Int) : '\r' ∉ (toString n).toList := by
  rw [JsonValue.toList_toString]
  refine not_mem_append (by split <;> decide) fun hm => ?_
  exact absurd (Nat.isDigit_of_mem_toDigits (by decide) (by decide) hm) (by decide)

mutual

theorem writeValue_clean : ∀ {v : Value} {indent : Nat} {p : Page}, CleanKeys v → p.Clean →
    (writeValue indent v p).Clean
  | .none, _, _, _, hp => by
    rw [writeValue]
    exact hp.put (by decide)
  | .bool b, _, _, _, hp => by
    rw [writeValue]
    exact hp.put (by cases b <;> decide)
  | .int n, _, _, _, hp => by
    rw [writeValue]
    exact hp.put fun hm => not_mem_toString n ((List.mem_cons.mp hm).resolve_left (by decide))
  | .text s, _, _, _, hp => by
    rw [writeValue]
    exact writeText_clean hp
  | .map _ es, _, _, hv, hp => by
    rw [writeValue]
    split
    · exact hp.put (by decide)
    · cases hv with
      | leaf h => cases h
      | map hk hv => exact writeEntries_clean hk hv hp.newLine
  | .float _, _, _, _, hp | .date _, _, _, _, hp | .list _, _, _, _, hp | .tuple _, _, _, _, hp
  | .module .., _, _, _, hp | .object .., _, _, _, hp => by
    simpa only [writeValue] using hp

theorem writeEntries_clean : ∀ {es : List (Value × Value)} {indent : Nat} {p : Page},
    (∀ e ∈ es, ∀ k, e.1 = .text k → '\r' ∉ k.toList) → (∀ e ∈ es, CleanKeys e.2) → p.Clean →
      (writeEntries indent es p).Clean
  | [], _, _, _, _, hp => by
    rw [writeEntries]
    exact hp
  | [(k, v)], _, _, hk, hv, hp => by
    rw [writeEntries]
    exact writeEntry_clean (hk _ List.mem_cons_self) (hv _ List.mem_cons_self) hp
  | (k, v) :: e :: es, _, _, hk, hv, hp => by
    rw [writeEntries]
    · have ⟨hk, hks⟩ := List.forall_mem_cons.mp hk
      have ⟨hv, hvs⟩ := List.forall_mem_cons.mp hv
      exact writeEntries_clean hks hvs (writeEntry_clean hk hv hp).newLine
    · exact nofun

theorem writeEntry_clean : ∀ {k v : Value} {indent : Nat} {p : Page},
    (∀ s, k = .text s → '\r' ∉ s.toList) → CleanKeys v → p.Clean → (writeEntry indent k v p).Clean
  | k, v, indent, p, hk, hv, hp => by
    unfold writeEntry
    split
    · next s => exact writeValue_clean hv (hp.put (not_mem_append (hk s rfl) (by decide)))
    · exact writeValue_clean hv (hp.put (by decide))

end

theorem not_mem_write {es : List (Value × Value)} (h : CleanKeys (.map false es)) :
    '\r' ∉ (write es).toList := by
  unfold write
  split
  · decide
  · cases h with
    | leaf h => cases h
    | map hk hv =>
      have hp : ((writeEntries 0 es {}).endLine '\n').Clean :=
        (writeEntries_clean hk hv fun hm => absurd hm List.not_mem_nil).endLine (by decide)
      rw [String.toList_ofList]
      exact fun hm => hp (List.mem_reverse.mp hm)

end Yaml

end TapScript
