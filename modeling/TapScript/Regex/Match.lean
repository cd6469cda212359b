import TapScript.Regex.Reading

/-! # Matching

A pattern is matched by trying the choices of each part in order, together with all that follows
it. A search succeeds if the pattern matches from some place in the text.
-/

namespace TapScript.Regex

/-- A place in a text, with the spans of the groups matched on the way, latest first. -/
structure Mark where
  position : Nat
  groups : List (Nat × Nat × Nat)

/-- What is still to be matched. -/
abbrev Rest := Mark → Option Mark

/-- What a part is matched in. -/
structure Scene where
  text : Array Char
  widths : List (Nat × Nat)

/-- Whether a character counts as a given one. -/
def sameCode (f : Flags) (n : Nat) (c : Char) : Bool :=
  if f.ignoreCase then
    if f.ascii then (Char.ofNat n).toLower == c.toLower
    else Text.sameLetter (Char.ofNat n) c
  else n == c.toNat

namespace Item

/-- Whether a set with this member holds a character. -/
def holds (f : Flags) (c : Char) : Item → Bool
  | code n => sameCode f n c
  | range low high =>
    if f.ignoreCase then
      (List.range (high + 1 - low)).any fun i => sameCode f (low + i) c
    else low ≤ c.toNat && c.toNat ≤ high
  | kind k negated => k.holds f.ascii c != negated

end Item

namespace Scene

/-- Whether the character at a place is part of a word. -/
def isWordAt (s : Scene) (f : Flags) (n : Nat) : Bool :=
  (s.text[n]?).any (CharClass.word.holds f.ascii)

/-- Whether a place is an edge. -/
def isAt (s : Scene) (f : Flags) (n : Nat) : Edge → Bool
  | .lineStart => n == 0 || f.multiLine && n != 0 && s.text[n - 1]? == some '\n'
  | .lineEnd =>
    n == s.text.size || s.text[n]? == some '\n' && (f.multiLine || n + 1 == s.text.size)
  | .textStart => n == 0
  | .textEnd => n == s.text.size
  | .wordEdge => (n != 0 && s.isWordAt f (n - 1)) != s.isWordAt f n
  | .noWordEdge =>
    s.text.size != 0 && (n != 0 && s.isWordAt f (n - 1)) == s.isWordAt f n

/-- Matches one character of which a test holds. -/
def one (s : Scene) (p : Char → Bool) (k : Rest) (m : Mark) : Option Mark :=
  match s.text[m.position]? with
  | some c => if p c then k { m with position := m.position + 1 } else none
  | none => none

/-- Matches again the text between two places. -/
def again (s : Scene) (f : Flags) (start stop : Nat) (k : Rest) (m : Mark) : Option Mark :=
  let n := stop - start
  let equal := (List.range n).all fun i =>
    match s.text[start + i]?, s.text[m.position + i]? with
    | some a, some b => sameCode f a.toNat b
    | _, _ => false
  if equal then k { m with position := m.position + n } else none

/-- Repeats a part, at most `fuel` times, after `count` times. Beyond the least count, a
repetition that starts where the last one started is not tried. -/
def repeated (body : Rest → Rest) (greed : Greed) (least : Nat) (most : Option Nat) (k : Rest) :
    (fuel count : Nat) → (last : Option Nat) → Rest
  | 0, _, _, m => k m
  | fuel + 1, count, last, m =>
    if count < least then body (repeated body greed least most k fuel (count + 1) last) m
    else
      let more : Unit → Option Mark := fun _ =>
        if most.all (count < ·) && last != some m.position then
          body (repeated body greed least most k fuel (count + 1) (some m.position)) m
        else none
      match greed with
      | .least => k m <|> more ()
      | _ => more () <|> k m

mutual

/-- Matches a part of a pattern and all that follows. -/
def run (s : Scene) (f : Flags) : Node → Rest → Rest
  | .code n, k, m => s.one (sameCode f n) k m
  | .any, k, m => s.one (fun c => f.dotAll || c != '\n') k m
  | .set negated items, k, m => s.one (fun c => items.any (·.holds f c) != negated) k m
  | .edge e, k, m => if s.isAt f m.position e then k m else none
  | .seq ps, k, m => s.runAll f ps k m
  | .branch ps, k, m => s.runAny f ps k m
  | .group number on off body, k, m =>
    s.run (f.within on off) body (fun m' =>
      match number with
      | some n => k { m' with groups := (n, m.position, m'.position) :: m'.groups }
      | none => k m') m
  | .reference n, k, m =>
    match m.groups.lookup n with
    | some (start, stop) => s.again f start stop k m
    | none => none
  | .conditional n yes no, k, m =>
    if (m.groups.lookup n).isSome then s.run f yes k m else s.run f no k m
  | .look ahead negated body, k, m =>
    let back := if ahead then 0 else (body.width s.widths).1
    let found :=
      if m.position < back then none
      else s.run f body some { m with position := m.position - back }
    match found, negated with
    | some m', false => k { m with groups := m'.groups }
    | none, true => k m
    | _, _ => none
  | .atomic body, k, m => (s.run f body some m).bind k
  | .repeated greed least most body, k, m =>
    let fuel := least + s.text.size + 2
    match greed with
    | .keep =>
      (repeated (fun k m => (s.run f body some m).bind k) greed least most some fuel 0 none m).bind
        k
    | _ => repeated (s.run f body) greed least most k fuel 0 none m

/-- Matches parts in a row. -/
def runAll (s : Scene) (f : Flags) : List Node → Rest → Rest
  | [], k, m => k m
  | p :: ps, k, m => s.run f p (s.runAll f ps k) m

/-- Matches the first of some parts with which the rest matches. -/
def runAny (s : Scene) (f : Flags) : List Node → Rest → Rest
  | [], _, _ => none
  | p :: ps, k, m => s.run f p k m <|> s.runAny f ps k m

end

end Scene

/-- Whether a pattern matches somewhere in a text. -/
def Pattern.occursIn (p : Pattern) (text : String) : Bool :=
  let s : Scene := ⟨text.toList.toArray, p.widths⟩
  (List.range (s.text.size + 1)).any fun n => (s.run p.flags p.body some ⟨n, []⟩).isSome

/-- Whether the pattern that a text writes matches somewhere in another text. -/
def search (h : Host) (pattern text : String) : Except Error Bool := do
  return (← Pattern.read h pattern).occursIn text

end TapScript.Regex
