import TapScript.JsonValue

/-! # Reading JSON documents

A reader of documents, which knows nothing of how they are laid out: blanks may stand between all
parts. What is written is read back.
-/

namespace TapScript.JsonValue

/-- A character that may stand between the parts of a document. -/
def isBlank (c : Char) : Bool :=
  c == ' ' || c == '\n' || c == '\r' || c == '\t'

def hexValue? (c : Char) : Option Nat :=
  if '0' ≤ c ∧ c ≤ '9' then some (c.toNat - '0'.toNat)
  else if 'a' ≤ c ∧ c ≤ 'f' then some (c.toNat - 'a'.toNat + 10)
  else if 'A' ≤ c ∧ c ≤ 'F' then some (c.toNat - 'A'.toNat + 10)
  else none

/-- The character of a number in hexadecimal digits, if there is one. -/
def charOfHex? (ds : List Char) : Option Char := do
  let n := (← ds.mapM hexValue?).foldl (fun n d => 16 * n + d) 0
  if n.isValidChar then some (Char.ofNat n) else none

/-- The character that a letter after a backslash stands for. -/
def unescaped? (c : Char) : Option Char :=
  match c with
  | '"' | '\\' | '/' => some c
  | 'n' => some '\n'
  | 'r' => some '\r'
  | 't' => some '\t'
  | 'b' => some '\x08'
  | 'f' => some '\x0c'
  | _ => none

/-- The characters up to the closing quote of a text, and what follows it. -/
def readText : List Char → Option (List Char × List Char)
  | [] => none
  | '"' :: cs => some ([], cs)
  | '\\' :: 'u' :: d₁ :: d₂ :: d₃ :: d₄ :: cs => do
    let c ← charOfHex? [d₁, d₂, d₃, d₄]
    (readText cs).map fun (s, rest) => (c :: s, rest)
  | '\\' :: e :: cs => do
    let c ← unescaped? e
    (readText cs).map fun (s, rest) => (c :: s, rest)
  | c :: cs =>
    if c.toNat < 0x20 then none else (readText cs).map fun (s, rest) => (c :: s, rest)

def readNat (cs : List Char) : Option (Nat × List Char) :=
  match cs.takeWhile Char.isDigit with
  | [] => none
  | ds => some (Nat.ofDigitChars 10 ds 0, cs.dropWhile Char.isDigit)

def readInt : List Char → Option (Int × List Char)
  | '-' :: cs => (readNat cs).map fun (n, rest) => (-n, rest)
  | cs => (readNat cs).map fun (n, rest) => (n, rest)

mutual

/-- The document at the front of some characters, and what follows it. -/
def readValue : (fuel : Nat) → List Char → Option (JsonValue × List Char)
  | 0, _ => none
  | n + 1, cs =>
    match cs.dropWhile isBlank with
    | 'n' :: 'u' :: 'l' :: 'l' :: rest => some (null, rest)
    | '"' :: cs => (readText cs).map fun (s, rest) => (text (String.ofList s), rest)
    | '[' :: cs =>
      match cs.dropWhile isBlank with
      | ']' :: rest => some (list [], rest)
      | cs => (readItems n cs).map fun (vs, rest) => (list vs, rest)
    | '\x7b' :: cs =>
      match cs.dropWhile isBlank with
      | '\x7d' :: rest => some (object [], rest)
      | cs => (readFields n cs).map fun (fs, rest) => (object fs, rest)
    | cs => (readInt cs).map fun (i, rest) => (int i, rest)

/-- Documents with commas between them, up to the closing bracket. -/
def readItems : (fuel : Nat) → List Char → Option (List JsonValue × List Char)
  | 0, _ => none
  | n + 1, cs => do
    let (v, cs) ← readValue n cs
    match cs.dropWhile isBlank with
    | ',' :: cs => (readItems n cs).map fun (vs, rest) => (v :: vs, rest)
    | ']' :: rest => some ([v], rest)
    | _ => none

/-- Documents after their names, with commas between them, up to the closing brace. -/
def readFields : (fuel : Nat) → List Char → Option (List (String × JsonValue) × List Char)
  | 0, _ => none
  | n + 1, cs =>
    match cs.dropWhile isBlank with
    | '"' :: cs => do
      let (k, cs) ← readText cs
      match cs.dropWhile isBlank with
      | ':' :: cs => do
        let (v, cs) ← readValue n cs
        match cs.dropWhile isBlank with
        | ',' :: cs => (readFields n cs).map fun (fs, rest) => ((String.ofList k, v) :: fs, rest)
        | '\x7d' :: rest => some ([(String.ofList k, v)], rest)
        | _ => none
      | _ => none
    | _ => none

end

/-- The document that a text holds, with nothing but blanks around it. -/
def ofText? (s : String) : Option JsonValue :=
  match readValue (s.length + 1) s.toList with
  | some (v, rest) => if rest.all isBlank then some v else none
  | none => none

/-- The part of a document that has a name. -/
def field? (name : String) : JsonValue → Option JsonValue
  | object fields => fields.lookup name
  | _ => none

theorem ofOption_eq_null_iff {s : Option String} : ofOption s = null ↔ s = none := by
  cases s <;> simp [ofOption]

variable {bs cs rest : List Char}

section Texts

theorem charOfHex?_hex : ∀ n < 32, charOfHex? (Text.hex 4 n) = some (Char.ofNat n) := by
  decide

theorem readText_escaped (c : Char) (cs : List Char) :
    readText (escaped c ++ cs) = (readText cs).map fun (s, rest) => (c :: s, rest) := by
  unfold escaped
  split
  · next h => rcases h with rfl | rfl <;> simp [readText, unescaped?]
  split
  · next h => subst h; simp [readText, unescaped?]
  split
  · next h => subst h; simp [readText, unescaped?]
  split
  · next h => subst h; simp [readText, unescaped?]
  split
  · next h => subst h; simp [readText, unescaped?]
  split
  · next h => subst h; simp [readText, unescaped?]
  split
  · next h =>
    have hc := charOfHex?_hex c.toNat h
    rw [Char.ofNat_toNat] at hc
    simp only [Text.hex, List.nil_append, List.cons_append] at hc ⊢
    rw [readText, hc]
    rfl
  · next hq _ _ _ _ _ hn =>
    obtain ⟨hquote, hslash⟩ := not_or.mp hq
    rw [List.singleton_append, readText, if_neg hn]
    · exact hquote
    · rintro _ _ _ _ _ rfl; exact absurd rfl hslash
    · rintro _ _ rfl; exact absurd rfl hslash

/-- A text between quotes is read up to its closing quote. -/
theorem readText_escapes (cs rest : List Char) :
    readText (cs.flatMap escaped ++ '"' :: rest) = some (cs, rest) := by
  induction cs with
  | nil => rfl
  | cons c cs ih =>
    rw [List.flatMap_cons, List.append_assoc, readText_escaped, ih]
    rfl

end Texts

section Numbers

/-- The written form of an integer: a digit and more digits, after a sign if it is negative. -/
theorem toList_toString (i : Int) : (toString i).toList =
    (if 0 ≤ i then [] else ['-']) ++ Nat.toDigits 10 i.natAbs := by
  rw [Int.toString_eq_repr, Int.repr_eq_if]
  split
  · next h => rw [Nat.repr_eq_ofList_toDigits, String.toList_ofList,
      show i.toNat = i.natAbs by omega, List.nil_append]
  · next h =>
    rw [String.toList_append, show "-".toList = ['-'] from rfl, Nat.repr_eq_ofList_toDigits,
      String.toList_ofList, show (-i).toNat = i.natAbs by omega]

theorem exists_toDigits (n : Nat) : ∃ c cs, Nat.toDigits 10 n = c :: cs ∧ c.isDigit = true := by
  obtain ⟨c, cs, hc⟩ := List.exists_cons_of_ne_nil (Nat.toDigits_ne_nil (n := n) (b := 10))
  exact ⟨c, cs, hc, Nat.isDigit_of_mem_toDigits (b := 10) (n := n) (by decide) (by decide)
    (by simp [hc])⟩

/-- The characters of a number end where what follows is no digit. -/
theorem readNat_toDigits (n : Nat) (h : ∀ c ∈ rest.head?, c.isDigit = false) :
    readNat (Nat.toDigits 10 n ++ rest) = some (n, rest) := by
  have hd : ∀ c ∈ Nat.toDigits 10 n, c.isDigit = true := fun c hc =>
    Nat.isDigit_of_mem_toDigits (by decide) (by decide) hc
  have hr : rest.takeWhile Char.isDigit = [] ∧ rest.dropWhile Char.isDigit = rest := by
    cases rest with
    | nil => exact ⟨rfl, rfl⟩
    | cons c cs => simp [h c rfl]
  unfold readNat
  rw [List.takeWhile_append_of_pos hd, List.dropWhile_append_of_pos hd, hr.1, hr.2,
    List.append_nil]
  split
  · next h => exact absurd h Nat.toDigits_ne_nil
  · rw [Nat.ofDigitChars_ten_toDigits]

theorem readInt_of_head_ne {c : Char} (h : c ≠ '-') :
    readInt (c :: cs) = (readNat (c :: cs)).map fun (n, rest) => (n, rest) := by
  unfold readInt
  split
  · next h' => exact absurd (List.cons.inj h').1 h
  · rfl

theorem readInt_toString (i : Int) (h : ∀ c ∈ rest.head?, c.isDigit = false) :
    readInt ((toString i).toList ++ rest) = some (i, rest) := by
  have hn := readNat_toDigits i.natAbs h
  rw [toList_toString]
  split
  · next hi =>
    obtain ⟨c, cs, hc, hd⟩ := exists_toDigits i.natAbs
    rw [List.nil_append, hc, List.cons_append,
      readInt_of_head_ne (by rintro rfl; exact absurd hd (by decide)), ← List.cons_append, ← hc, hn]
    simp [Int.natAbs_of_nonneg hi]
  · next hi =>
    rw [List.singleton_append, List.cons_append, readInt, hn]
    simp only [Option.map_some, Option.some.injEq, Prod.mk.injEq, and_true]
    omega

end Numbers

section Parts

variable {n : Nat} {v : JsonValue} {vs : List JsonValue} {k : String}
  {fs : List (String × JsonValue)}

theorem dropWhile_blanks (h : ∀ c ∈ bs, isBlank c = true) :
    (bs ++ cs).dropWhile isBlank = cs.dropWhile isBlank :=
  List.dropWhile_append_of_pos h

theorem readValue_blanks (h : ∀ c ∈ bs, isBlank c = true) :
    readValue n (bs ++ cs) = readValue n cs := by
  cases n with
  | zero => simp only [readValue]
  | succ n => simp only [readValue, dropWhile_blanks h]

theorem readItems_blanks (h : ∀ c ∈ bs, isBlank c = true) :
    readItems n (bs ++ cs) = readItems n cs := by
  cases n with
  | zero => simp only [readItems]
  | succ n => simp only [readItems, readValue_blanks h]

theorem readFields_blanks (h : ∀ c ∈ bs, isBlank c = true) :
    readFields n (bs ++ cs) = readFields n cs := by
  cases n with
  | zero => simp only [readFields]
  | succ n => simp only [readFields, dropWhile_blanks h]

theorem readItems_dropWhile (n : Nat) (cs : List Char) :
    readItems n (cs.dropWhile isBlank) = readItems n cs := by
  have hb : readItems n (cs.takeWhile isBlank ++ cs.dropWhile isBlank) =
      readItems n (cs.dropWhile isBlank) :=
    readItems_blanks (List.all_eq_true.mp List.all_takeWhile)
  rwa [List.takeWhile_append_dropWhile, eq_comm] at hb

theorem readFields_dropWhile (n : Nat) (cs : List Char) :
    readFields n (cs.dropWhile isBlank) = readFields n cs := by
  have hb : readFields n (cs.takeWhile isBlank ++ cs.dropWhile isBlank) =
      readFields n (cs.dropWhile isBlank) :=
    readFields_blanks (List.all_eq_true.mp List.all_takeWhile)
  rwa [List.takeWhile_append_dropWhile, eq_comm] at hb

/-- Items are not mistaken for the end of an empty list. -/
theorem readItems_closing : readItems n (']' :: cs) = none := by
  cases n with
  | zero => simp only [readItems]
  | succ n =>
    cases n <;> simp [readItems, readValue, isBlank, readInt, readNat]

theorem readFields_closing : readFields n ('\x7d' :: cs) = none := by
  cases n <;> simp [readFields, isBlank]

theorem readValue_list (h : readItems n cs = some (vs, rest)) :
    readValue (n + 1) ('[' :: cs) = some (list vs, rest) := by
  rw [← readItems_dropWhile] at h
  rw [readValue, List.dropWhile_cons_of_neg (by decide)]
  simp only
  split
  · next hc => rw [hc, readItems_closing] at h; cases h
  · rw [h]; rfl

theorem readValue_object (h : readFields n cs = some (fs, rest)) :
    readValue (n + 1) ('\x7b' :: cs) = some (object fs, rest) := by
  rw [← readFields_dropWhile] at h
  rw [readValue, List.dropWhile_cons_of_neg (by decide)]
  simp only
  split
  · next hc => rw [hc, readFields_closing] at h; cases h
  · rw [h]; rfl

theorem readItems_last (hv : readValue n cs = some (v, bs ++ ']' :: rest))
    (hb : ∀ c ∈ bs, isBlank c = true) : readItems (n + 1) cs = some ([v], rest) := by
  rw [readItems, hv]
  simp [dropWhile_blanks hb, isBlank]

theorem readItems_more {cs' : List Char} (hv : readValue n cs = some (v, ',' :: cs'))
    (hvs : readItems n cs' = some (vs, rest)) :
    readItems (n + 1) cs = some (v :: vs, rest) := by
  rw [readItems, hv]
  simp [isBlank, hvs]

theorem readFields_last {cs' : List Char} (hk : readText cs = some (k.toList, ':' :: cs'))
    (hv : readValue n cs' = some (v, bs ++ '\x7d' :: rest)) (hb : ∀ c ∈ bs, isBlank c = true) :
    readFields (n + 1) ('"' :: cs) = some ([(k, v)], rest) := by
  rw [readFields, List.dropWhile_cons_of_neg (by decide)]
  simp [hk, isBlank, hv, dropWhile_blanks hb]

theorem readFields_more {cs' cs'' : List Char}
    (hk : readText cs = some (k.toList, ':' :: cs'))
    (hv : readValue n cs' = some (v, ',' :: cs'')) (hfs : readFields n cs'' = some (fs, rest)) :
    readFields (n + 1) ('"' :: cs) = some ((k, v) :: fs, rest) := by
  rw [readFields, List.dropWhile_cons_of_neg (by decide)]
  simp [hk, isBlank, hv, hfs]

end Parts

section Documents

variable {level : Nat}

theorem isBlank_newline (level : Nat) : ∀ c ∈ (newline level).toList, isBlank c = true := by
  simp [newline, isBlank]

/-- A line break is no digit, so that a number ends before it. -/
theorem head_newline : ∀ c ∈ ((newline level).toList ++ cs).head?, c.isDigit = false := by
  simp [newline]

/-- What stands between two items of a block. -/
def separator (level : Nat) : List Char :=
  ',' :: (newline level).toList

theorem toList_block {ss : List String} (h : ss ≠ []) (opening closing : String) (level : Nat) :
    (block opening closing level ss).toList =
      opening.toList ++ ((newline (level + 1)).toList ++
        ((separator (level + 1)).intercalate (ss.map String.toList) ++
          ((newline level).toList ++ closing.toList))) := by
  cases ss with
  | nil => exact absurd rfl h
  | cons s ss => simp [block, separator, String.toList_append, String.toList_intercalate]

theorem toList_quoted (s : String) :
    (quoted s).toList = '"' :: (s.toList.flatMap escaped ++ ['"']) := by
  simp [quoted]

theorem toList_field (k s : String) : (quoted k ++ ": " ++ s).toList =
    '"' :: (k.toList.flatMap escaped ++ '"' :: ':' :: ' ' :: s.toList) := by
  simp [quoted, String.toList_append]

theorem readValue_int (n : Nat) (i : Int) (h : ∀ c ∈ rest.head?, c.isDigit = false) :
    readValue (n + 1) ((toString i).toList ++ rest) = some (int i, rest) := by
  have hi := readInt_toString i h
  obtain ⟨c, cs, hc, hd⟩ :
      ∃ c cs, (toString i).toList = c :: cs ∧ (c.isDigit = true ∨ c = '-') := by
    rw [toList_toString]
    split
    · obtain ⟨c, cs, hc, hd⟩ := exists_toDigits i.natAbs
      exact ⟨c, cs, hc, Or.inl hd⟩
    · exact ⟨_, _, rfl, Or.inr rfl⟩
  have hne : ∀ x : Char, x.isDigit = false → x ≠ '-' → c ≠ x := by
    rintro x hx hm rfl
    rcases hd with h | h
    · rw [hx] at h; cases h
    · exact hm h
  have hb : isBlank c = false := by
    simp [isBlank, hne ' ' (by decide) (by decide), hne '\n' (by decide) (by decide),
      hne '\r' (by decide) (by decide), hne '\t' (by decide) (by decide)]
  rw [hc, List.cons_append] at hi ⊢
  rw [readValue, List.dropWhile_cons_of_neg (by simp [hb])]
  split
  · next h => exact absurd (List.cons.inj h).1 (hne 'n' (by decide) (by decide))
  · next h => exact absurd (List.cons.inj h).1 (hne '"' (by decide) (by decide))
  · next h => exact absurd (List.cons.inj h).1 (hne '[' (by decide) (by decide))
  · next h => exact absurd (List.cons.inj h).1 (hne '\x7b' (by decide) (by decide))
  · rw [hi]; rfl

/-- A document is read back from its written form, whatever follows but a digit. -/
def ReadBack (v : JsonValue) : Prop :=
  ∀ (level fuel : Nat) (rest : List Char), (∀ c ∈ rest.head?, c.isDigit = false) →
    (v.render level).toList.length < fuel →
    readValue fuel ((v.render level).toList ++ rest) = some (v, rest)

theorem readItems_renderAll {vs : List JsonValue} (hvs : ∀ v ∈ vs, ReadBack v) (hne : vs ≠ [])
    (level outer : Nat) {fuel : Nat} (rest : List Char)
    (h : ((separator level).intercalate ((renderAll level vs).map String.toList)).length + 1 <
      fuel) :
    readItems fuel ((separator level).intercalate ((renderAll level vs).map String.toList) ++
      ((newline outer).toList ++ (']' :: rest))) = some (vs, rest) := by
  induction vs generalizing fuel with
  | nil => exact absurd rfl hne
  | cons v vs ih =>
    obtain ⟨n, rfl⟩ := Nat.exists_eq_succ_of_ne_zero (Nat.ne_zero_of_lt h)
    obtain ⟨hv, hvs⟩ := List.forall_mem_cons.mp hvs
    cases vs with
    | nil =>
      simp only [renderAll, List.map_cons, List.map_nil, List.intercalate_singleton] at h ⊢
      exact readItems_last (hv level n _ head_newline (by omega)) (isBlank_newline _)
    | cons w vs =>
      rw [renderAll, renderAll, List.map_cons, List.map_cons, List.intercalate_cons_cons,
        ← List.map_cons, ← renderAll] at h ⊢
      simp only [separator, List.length_append, List.length_cons] at h
      simp only [List.append_assoc]
      refine readItems_more (hv level n _ (by simp [separator]) (by omega)) ?_
      refine (readItems_blanks (isBlank_newline _)).trans ?_
      exact ih hvs (by simp) (by simp [separator]; omega)

theorem readFields_renderFields {fs : List (String × JsonValue)} (hfs : ∀ f ∈ fs, ReadBack f.2)
    (hne : fs ≠ []) (level outer : Nat) {fuel : Nat} (rest : List Char)
    (h : ((separator level).intercalate ((renderFields level fs).map String.toList)).length + 1 <
      fuel) :
    readFields fuel ((separator level).intercalate ((renderFields level fs).map String.toList) ++
      ((newline outer).toList ++ ('\x7d' :: rest))) = some (fs, rest) := by
  induction fs generalizing fuel with
  | nil => exact absurd rfl hne
  | cons f fs ih =>
    obtain ⟨n, rfl⟩ := Nat.exists_eq_succ_of_ne_zero (Nat.ne_zero_of_lt h)
    obtain ⟨k, v⟩ := f
    obtain ⟨hv, hfs⟩ : ReadBack v ∧ ∀ f ∈ fs, ReadBack f.2 := List.forall_mem_cons.mp hfs
    have hspace : ∀ c ∈ [' '], isBlank c = true := by simp [isBlank]
    cases fs with
    | nil =>
      simp only [renderFields, List.map_cons, List.map_nil, List.intercalate_singleton,
        toList_field, List.length_append, List.length_cons] at h ⊢
      simp only [List.cons_append, List.append_assoc]
      refine readFields_last (readText_escapes _ _) ?_ (isBlank_newline outer)
      exact (readValue_blanks hspace).trans (hv level n _ head_newline (by omega))
    | cons g fs =>
      obtain ⟨k', w⟩ := g
      rw [renderFields, List.map_cons, renderFields, List.map_cons, List.intercalate_cons_cons,
        ← List.map_cons, ← renderFields, toList_field] at h ⊢
      simp only [separator, List.length_append, List.length_cons] at h
      simp only [List.cons_append, List.append_assoc]
      refine readFields_more (readText_escapes _ _)
        ((readValue_blanks hspace).trans (hv level n _ (by simp [separator]) (by omega))) ?_
      refine (readFields_blanks (isBlank_newline _)).trans ?_
      exact ih hfs (by simp) (by simp only [separator]; omega)

theorem readBack_list {vs : List JsonValue} (hvs : ∀ v ∈ vs, ReadBack v) :
    ReadBack (list vs) := by
  rintro level (_ | n) rest - h
  · exact absurd h (Nat.not_lt_zero _)
  cases vs with
  | nil => simp [render, renderAll, block, readValue, isBlank]
  | cons v vs =>
    rw [render, toList_block (by simp [renderAll])] at h ⊢
    simp only [List.length_append] at h
    simp only [List.append_assoc]
    refine readValue_list ((readItems_blanks (isBlank_newline _)).trans ?_)
    exact readItems_renderAll hvs (by simp) _ _ _ (by simp at h; omega)

theorem readBack_object {fs : List (String × JsonValue)} (hfs : ∀ f ∈ fs, ReadBack f.2) :
    ReadBack (object fs) := by
  rintro level (_ | n) rest - h
  · exact absurd h (Nat.not_lt_zero _)
  cases fs with
  | nil => simp [render, renderFields, block, readValue, isBlank]
  | cons f fs =>
    rw [render, toList_block (by simp [renderFields])] at h ⊢
    simp only [List.length_append] at h
    simp only [List.append_assoc]
    refine readValue_object ((readFields_blanks (isBlank_newline _)).trans ?_)
    exact readFields_renderFields hfs (by simp) _ _ _ (by simp at h; omega)

theorem readBack (v : JsonValue) : ReadBack v := by
  cases v with
  | null => rintro level (_ | n) rest - h <;> simp [render, readValue, isBlank] at h ⊢
  | int i =>
    rintro level (_ | n) rest hr h
    · exact absurd h (Nat.not_lt_zero _)
    · exact readValue_int n i hr
  | text s =>
    rintro level (_ | n) rest - h
    · exact absurd h (Nat.not_lt_zero _)
    · rw [render, toList_quoted, List.cons_append, readValue,
        List.dropWhile_cons_of_neg (by decide), List.append_assoc]
      simp only [List.singleton_append, readText_escapes, Option.map_some, String.ofList_toList]
  | list vs => exact readBack_list fun v _ => readBack v
  | object fs => exact readBack_object fun f _ => readBack f.2
termination_by sizeOf v
decreasing_by
  · have := List.sizeOf_lt_of_mem ‹v ∈ vs›
    simp only [list.sizeOf_spec]
    omega
  · have := List.sizeOf_lt_of_mem ‹f ∈ fs›
    obtain ⟨k, v⟩ := f
    simp only [object.sizeOf_spec, Prod.mk.sizeOf_spec] at this ⊢
    omega

theorem ofText?_written (v : JsonValue) : ofText? v.written = some v := by
  have h := readBack v 0 (v.written.length + 1) [] (by simp) (Nat.lt_succ_self _)
  rw [List.append_nil] at h
  unfold ofText?
  rw [written] at h ⊢
  rw [h]
  rfl

end Documents

end TapScript.JsonValue
