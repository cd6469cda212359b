/-! # Splitting at a character

A text split at a separator has one piece more than it has separators, and the pieces joined
by the separator give the text back.
-/

namespace TapScript.Text

/-- The pieces of a text between the occurrences of a character. -/
def splitOn (sep : Char) : List Char → List (List Char)
  | [] => [[]]
  | c :: cs =>
    if c = sep then [] :: splitOn sep cs
    else
      match splitOn sep cs with
      | [] => [[c]]
      | p :: ps => (c :: p) :: ps

/-- Pieces with a separator between neighbours. -/
def joinWith (sep : Char) : List (List Char) → List Char
  | [] => []
  | [p] => p
  | p :: q :: ps => p ++ sep :: joinWith sep (q :: ps)

/-- `splitOn` on strings. -/
def pieces (sep : Char) (s : String) : List String :=
  (splitOn sep s.toList).map String.ofList

variable {sep : Char}

theorem splitOn_ne_nil (cs : List Char) : splitOn sep cs ≠ [] := by
  cases cs with
  | nil => simp [splitOn]
  | cons c cs =>
    rw [splitOn]
    split
    · simp
    · split <;> simp

theorem joinWith_cons {p : List Char} {ps : List (List Char)} (h : ps ≠ []) :
    joinWith sep (p :: ps) = p ++ sep :: joinWith sep ps := by
  cases ps with
  | nil => exact absurd rfl h
  | cons q ps => rfl

@[simp] theorem joinWith_splitOn (cs : List Char) : joinWith sep (splitOn sep cs) = cs := by
  induction cs with
  | nil => rfl
  | cons c cs ih =>
    rw [splitOn]
    split
    · next h => simp [joinWith_cons (splitOn_ne_nil cs), ih, h]
    · split
      · next h => exact absurd h (splitOn_ne_nil cs)
      · next p ps h =>
        rw [h] at ih
        cases ps with
        | nil => simpa [joinWith] using ih
        | cons q ps => simpa [joinWith] using ih

theorem not_mem_of_mem_splitOn {cs p : List Char} (h : p ∈ splitOn sep cs) : sep ∉ p := by
  induction cs generalizing p with
  | nil => simp_all [splitOn]
  | cons c cs ih =>
    rw [splitOn] at h
    split at h
    · rcases List.mem_cons.1 h with rfl | h
      · simp
      · exact ih h
    · next hc =>
      split at h
      · simp_all [Ne.symm hc]
      · next q ps hq =>
        rcases List.mem_cons.1 h with rfl | h
        · have := ih (hq ▸ List.mem_cons_self)
          simp_all [Ne.symm hc]
        · exact ih (hq ▸ List.mem_cons_of_mem _ h)

theorem mem_of_mem_splitOn {cs p : List Char} {c : Char} (h : p ∈ splitOn sep cs) (hc : c ∈ p) :
    c ∈ cs := by
  induction cs generalizing p with
  | nil => simp_all [splitOn]
  | cons d cs ih =>
    rw [splitOn] at h
    split at h
    · rcases List.mem_cons.1 h with rfl | h
      · cases hc
      · exact List.mem_cons_of_mem d (ih h hc)
    · split at h
      · simp_all
      · next q ps hq =>
        rcases List.mem_cons.1 h with rfl | h
        · rcases List.mem_cons.1 hc with rfl | hc
          · exact List.mem_cons_self
          · exact List.mem_cons_of_mem d (ih (hq ▸ List.mem_cons_self) hc)
        · exact List.mem_cons_of_mem d (ih (hq ▸ List.mem_cons_of_mem q h) hc)

theorem splitOn_of_not_mem {cs : List Char} (h : sep ∉ cs) : splitOn sep cs = [cs] := by
  induction cs with
  | nil => rfl
  | cons c cs ih =>
    obtain ⟨hc, hcs⟩ := not_or.1 fun hm => h (List.mem_cons.2 hm)
    rw [splitOn, if_neg (Ne.symm hc), ih hcs]

theorem splitOn_append_cons (cs ds : List Char) :
    splitOn sep (cs ++ sep :: ds) = splitOn sep cs ++ splitOn sep ds := by
  induction cs with
  | nil => simp [splitOn]
  | cons c cs ih =>
    rw [List.cons_append, splitOn, splitOn, ih]
    split
    · rfl
    · have hn : splitOn sep cs ≠ [] := splitOn_ne_nil cs
      obtain ⟨p, ps, h⟩ := List.exists_cons_of_ne_nil hn
      simp [h]

theorem splitOn_append {p : List Char} (h : sep ∉ p) (cs : List Char) :
    splitOn sep (p ++ sep :: cs) = p :: splitOn sep cs := by
  rw [splitOn_append_cons, splitOn_of_not_mem h, List.singleton_append]

theorem splitOn_intercalate {ps : List (List Char)} (h : ∀ p ∈ ps, sep ∉ p) (hn : ps ≠ []) :
    splitOn sep ([sep].intercalate ps) = ps := by
  induction ps with
  | nil => exact absurd rfl hn
  | cons p ps ih =>
    obtain ⟨hp, hps⟩ := List.forall_mem_cons.1 h
    cases ps with
    | nil => rw [List.intercalate_singleton, splitOn_of_not_mem hp]
    | cons q ps =>
      rw [List.intercalate_cons_cons, List.append_assoc, List.singleton_append,
        splitOn_append hp, ih hps (by simp)]

theorem joinWith_eq_intercalate (ps : List (List Char)) :
    joinWith sep ps = [sep].intercalate ps := by
  induction ps with
  | nil => rfl
  | cons p ps ih =>
    cases ps with
    | nil => rw [List.intercalate_singleton, joinWith]
    | cons q ps =>
      rw [List.intercalate_cons_cons, List.append_assoc, List.singleton_append, joinWith, ih]

theorem mem_intercalate_iff {α : Type} {sep : List α} {ls : List (List α)} {a : α} (h : a ∉ sep) :
    a ∈ sep.intercalate ls ↔ ∃ l ∈ ls, a ∈ l := by
  induction ls with
  | nil => simp
  | cons l ls ih =>
    cases ls with
    | nil => simp
    | cons l' ls => simp [List.intercalate_cons_cons, ih, h]

theorem map_toList_pieces (s : String) :
    (pieces sep s).map String.toList = splitOn sep s.toList := by
  have hid : String.toList ∘ String.ofList = id := funext fun _ => String.toList_ofList
  rw [pieces, List.map_map, hid, List.map_id]

/-- The pieces of a text joined by the separator give the text back. -/
theorem intercalate_pieces (s : String) :
    (String.singleton sep).intercalate (pieces sep s) = s := by
  apply String.toList_inj.1
  rw [String.toList_intercalate, String.toList_singleton, map_toList_pieces,
    ← joinWith_eq_intercalate, joinWith_splitOn]

/-- The pieces of two texts with a separator between them are those of each. -/
theorem pieces_append (a b : String) :
    pieces sep (a ++ String.singleton sep ++ b) = pieces sep a ++ pieces sep b := by
  rw [pieces, String.toList_append, String.toList_append, String.toList_singleton,
    List.append_assoc, List.singleton_append, splitOn_append_cons, List.map_append]
  rfl

theorem not_mem_of_mem_pieces {s p : String} (h : p ∈ pieces sep s) : sep ∉ p.toList := by
  obtain ⟨cs, hc, rfl⟩ := List.mem_map.1 h
  rw [String.toList_ofList]
  exact not_mem_of_mem_splitOn hc

/-- Texts without the separator are the pieces of what they are joined to. -/
theorem pieces_intercalate {ss : List String} (h : ∀ s ∈ ss, sep ∉ s.toList) (hn : ss ≠ []) :
    pieces sep ((String.singleton sep).intercalate ss) = ss := by
  have hid : String.ofList ∘ String.toList = id := funext fun _ => String.ofList_toList
  rw [pieces, String.toList_intercalate, String.toList_singleton,
    splitOn_intercalate (by simpa using h) (by simpa using hn), List.map_map, hid, List.map_id]

end TapScript.Text
