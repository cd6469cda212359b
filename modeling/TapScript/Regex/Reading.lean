import TapScript.Regex.Syntax
import TapScript.Text.Name

/-! # Reading patterns

A pattern is read from left to right, one character or escape at a time. Reading stops at the
first thing that is wrong; a backslash that ends the pattern is found as soon as it comes next.
Which characters have names, and which patterns are nested too deeply to be read, is for the host
to say.
-/

namespace TapScript.Regex

/-- What the reading of patterns needs beside them: the characters that have names, and the message
with which it breaks off where a pattern takes more room than there is. -/
structure Host where
  character? : (name : String) → Option Char
  exhausted? : (pattern : String) → Option String

/-- Where the reader of a pattern is, and the groups that it has met. -/
structure Cursor where
  character? : String → Option Char
  pattern : String
  rest : List Char
  position : Nat
  flags : Flags
  groups : List (Option (Nat × Nat))
  names : List (String × Nat)
  behind : Option Nat
  conditions : List (Nat × Nat)

/-- A computation that reads from a pattern. -/
abbrev Reader := StateT Cursor (Except Error)

namespace Reader

/-- A complaint about the character at a position. -/
def failAt {α : Type} (n : Nat) (c : Complaint) : Reader α := do
  throw ⟨c, some n, (← get).pattern⟩

/-- A complaint about the place of the cursor, so many characters back. -/
def fail {α : Type} (c : Complaint) (back : Nat := 0) : Reader α := do
  failAt ((← get).position - back) c

/-- The next character or escape. -/
def peek : Reader (Option (List Char)) := do
  match (← get).rest with
  | [] => return none
  | '\\' :: c :: _ => return some ['\\', c]
  | c :: _ => return some [c]

/-- A backslash that nothing follows. -/
def checkEnd : Reader Unit := do
  if (← get).rest = ['\\'] then fail .escapeAtEnd

/-- The next character or escape, consumed. -/
def next : Reader (Option (List Char)) := do
  match ← peek with
  | none => return none
  | some t =>
    modify fun s => { s with rest := s.rest.drop t.length, position := s.position + t.length }
    checkEnd
    return some t

/-- Consumes a given character if it comes next. -/
def accept (c : Char) : Reader Bool := do
  if (← peek) == some [c] then
    let _ ← next
    return true
  else return false

/-- Up to `n` characters of a kind, consumed. -/
def takeWhile (p : Char → Bool) : (n : Nat) → Reader (List Char)
  | 0 => return []
  | n + 1 => do
    match ← peek with
    | some [c] =>
      if p c then
        let _ ← next
        return c :: (← takeWhile p n)
      else return []
    | _ => return []

/-- The characters up to a closing one, which is consumed. -/
def takeUntil (closing : Char) (missing : Complaint) : (fuel : Nat) → List Char →
    Reader String
  | 0, taken => fail (.unterminatedName (String.singleton closing)) taken.length
  | fuel + 1, taken => do
    match ← next with
    | none =>
      if taken.isEmpty then fail missing
      else fail (.unterminatedName (String.singleton closing)) taken.length
    | some t =>
      if t = [closing] then
        if taken.isEmpty then fail missing 1 else return String.ofList taken
      else takeUntil closing missing fuel (taken ++ t)

end Reader

open Reader

def isHex (c : Char) : Bool :=
  c.isDigit || ('a' ≤ c && c ≤ 'f') || ('A' ≤ c && c ≤ 'F')

def isOctal (c : Char) : Bool :=
  '0' ≤ c && c ≤ '7'

/-- The value of digits in a base up to sixteen. -/
def valueIn (base : Nat) (ds : List Char) : Nat :=
  ds.foldl (fun n c =>
    base * n + (if c.isDigit then c.toNat - 48 else c.toLower.toNat - 87)) 0

/-- A class of characters by the letter of its escape. -/
def classOf? : Char → Option Item
  | 'd' => some (.kind .digit false)
  | 'D' => some (.kind .digit true)
  | 's' => some (.kind .space false)
  | 'S' => some (.kind .space true)
  | 'w' => some (.kind .word false)
  | 'W' => some (.kind .word true)
  | _ => none

/-- A control character by the letter of its escape. -/
def controlOf? : Char → Option Nat
  | 'a' => some 7
  | 'b' => some 8
  | 'f' => some 12
  | 'n' => some 10
  | 'r' => some 13
  | 't' => some 9
  | 'v' => some 11
  | '\\' => some 92
  | _ => none

/-- An edge by the letter of its escape. -/
def edgeOf? : Char → Option Edge
  | 'A' => some .textStart
  | 'Z' => some .textEnd
  | 'b' => some .wordEdge
  | 'B' => some .noWordEdge
  | _ => none

/-- An escape as it is written. -/
def escapeText (c : Char) (more : List Char) : String :=
  String.ofList ('\\' :: c :: more)

/-- The escapes that mean the same inside and outside of sets: hexadecimal codes and names. -/
def codeEscape? (c : Char) : Reader (Option Nat) := do
  let digits (n : Nat) : Reader (Option Nat) := do
    let ds ← takeWhile isHex n
    if ds.length = n then
      let code := valueIn 16 ds
      if code < 0x110000 then return some code
      else fail (.badEscape (escapeText c ds)) (n + 2)
    else fail (.incompleteEscape (escapeText c ds)) (ds.length + 2)
  match c with
  | 'x' => digits 2
  | 'u' => digits 4
  | 'U' => digits 8
  | 'N' =>
    if ← accept '\x7b' then
      let name ← takeUntil '\x7d' .missingCharacterName ((← get).rest.length + 1) []
      match (← get).character? name with
      | some c => return some c.toNat
      | none => fail (.undefinedCharacter name) (name.length + 4)
    else fail .missingBrace
  | _ => return none

/-- The code of an octal escape. -/
def octal (ds : List Char) : Reader Nat := do
  let code := valueIn 8 ds
  if 0o377 < code then
    fail (.octalTooLarge (String.ofList ('\\' :: ds))) (ds.length + 1)
  else return code

/-- An escape inside a set. -/
def setEscape (c : Char) : Reader Item := do
  if let some n := controlOf? c then return .code n
  if let some k := classOf? c then return k
  if let some n ← codeEscape? c then return .code n
  if isOctal c then return .code (← octal (c :: (← takeWhile isOctal 2)))
  if c.isDigit || c.isAlpha then fail (.badEscape (escapeText c [])) 2
  return .code c.toNat

/-- Refuses a reference to a group that is open, or that the same look behind defines. -/
def checkBehind (n : Nat) : Reader Unit := do
  let s ← get
  if let some first := s.behind then
    if ((s.groups[n]?).join).isNone then fail .openGroup
    if first ≤ n then fail .groupInLookBehind

/-- A reference to a group by its number, written with the given digits. -/
def groupReference (ds : List Char) : Reader Node := do
  let s ← get
  let n := valueIn 10 ds
  if n < s.groups.length then
    if ((s.groups[n]?).join).isNone then fail .openGroup (ds.length + 1)
    checkBehind n
    return .reference n
  fail (.noSuchGroup n) ds.length

/-- An escape outside of sets. -/
def escape (c : Char) : Reader Node := do
  if let some e := edgeOf? c then return .edge e
  if let some k := classOf? c then return .set false [k]
  if let some n := controlOf? c then return .code n
  if let some n ← codeEscape? c then return .code n
  if c = '0' then return .code (valueIn 8 (← takeWhile isOctal 2))
  if c.isDigit then
    match ← takeWhile Char.isDigit 1 with
    | [d] =>
      if isOctal c && isOctal d then
        match ← takeWhile isOctal 1 with
        | [e] => return .code (← octal [c, d, e])
        | _ => groupReference [c, d]
      else groupReference [c, d]
    | _ => groupReference [c]
  else
    if c.isAlpha then fail (.badEscape (escapeText c [])) 2
    return .code c.toNat

/-- The member of a set that a character or escape stands for. -/
def setItem : List Char → Reader Item
  | ['\\', c] => setEscape c
  | c :: _ => return .code c.toNat
  | [] => return .code 0

/-- The members of a set up to its closing bracket; `here` is the place of the opening one. -/
def setItems (here : Nat) : (fuel : Nat) → List Item → Reader (List Item)
  | 0, _ => failAt here .unterminatedSet
  | fuel + 1, items => do
    match ← next with
    | none => failAt here .unterminatedSet
    | some this =>
      if this = [']'] && !items.isEmpty then return items
      let low ← setItem this
      if ← accept '-' then
        match ← next with
        | none => failAt here .unterminatedSet
        | some that =>
          if that = [']'] then return items ++ [low, .code 45]
          let high ← setItem that
          let bad : Complaint := .badRange (String.ofList this) (String.ofList that)
          match low, high with
          | .code a, .code b =>
            if b < a then fail bad (this.length + 1 + that.length)
            setItems here fuel (items ++ [.range a b])
          | _, _ => fail bad (this.length + 1 + that.length)
      else setItems here fuel (items ++ [low])

/-- The options that a group turns on, up to the character that ends them. -/
def flagsOn : (fuel : Nat) → Char → Flags → Reader (Flags × Char)
  | 0, c, on => return (on, c)
  | fuel + 1, c, on => do
    let flag := (Flags.ofLetter? c).getD {}
    if flag.locale then fail .flagForBytes
    let on := on.union flag
    if flag.choosesSet && ((on.ascii && !flag.ascii) || (on.unicode && !flag.unicode)) then
      fail .flagsIncompatible
    match ← next with
    | none => fail .missingFlagEnd
    | some t =>
      match t with
      | [d] =>
        if d = ')' || d = '-' || d = ':' then return (on, d)
        if (Flags.ofLetter? d).isNone then
          fail (if Text.isLetter d then .unknownFlag
            else .missingFlagEnd) 1
        flagsOn fuel d on
      | _ => fail .missingFlagEnd t.length

/-- The options that a group turns off. -/
def flagsOff : (fuel : Nat) → Char → Flags → Reader Flags
  | 0, _, off => return off
  | fuel + 1, c, off => do
    let flag := (Flags.ofLetter? c).getD {}
    if flag.choosesSet then fail .flagTypeUnset
    let off := off.union flag
    match ← next with
    | none => fail .missingColon
    | some t =>
      match t with
      | [d] =>
        if d = ':' then return off
        if (Flags.ofLetter? d).isNone then
          fail (if Text.isLetter d then .unknownFlag
            else .missingColon) 1
        flagsOff fuel d off
      | _ => fail .missingColon t.length

/-- The options after a question mark: for the whole pattern, or those turned on and off. -/
def groupFlags (c : Char) : Reader (Option (Flags × Flags)) := do
  let fuel := (← get).rest.length + 1
  let (on, ended) ← if c = '-' then pure ({}, '-') else flagsOn fuel c {}
  if ended = ')' then
    modify fun s => { s with flags := s.flags.union on }
    return none
  if on.template then fail .flagNotScoped 1
  let off ←
    if ended = '-' then
      match ← next with
      | none => fail .missingFlag
      | some [d] =>
        if (Flags.ofLetter? d).isNone then
          fail (if Text.isLetter d then .unknownFlag
            else .missingFlag) 1
        flagsOff fuel d {}
      | some t => fail .missingFlag t.length
    else pure {}
  if off.template then fail .flagNotUnset 1
  if on.meets off then fail .flagBothWays 1
  return some (on, off)

/-- A bound of a repetition, given by its digits; without any it is zero. -/
def bound (ds : List Char) : Reader Nat := do
  let refuse (c : Complaint) : Reader Nat := do throw ⟨c, none, (← get).pattern⟩
  if IntegerError.maxDigits < ds.length then refuse (.repeatTooLong ds.length)
  else if 4294967295 ≤ valueIn 10 ds then refuse .repeatTooLarge
  else return valueIn 10 ds

/-- The bounds in braces after an item; nothing if the brace is literal. -/
def bounds? : Reader (Option (Nat × Option Nat)) := do
  let saved ← get
  if (← peek) == some ['\x7d'] then return none
  let fuel := saved.rest.length
  let lo ← takeWhile Char.isDigit fuel
  let hi ← if ← accept ',' then takeWhile Char.isDigit fuel else pure lo
  if !(← accept '\x7d') then
    set saved
    return none
  let least ← bound lo
  if hi.isEmpty then return some (least, none)
  let most ← bound hi
  if most < least then failAt saved.position .repeatBounds
  return some (least, some most)

/-- A repetition of the last item read; `here` is the place of the quantifier. -/
def repeatLast (here least : Nat) (most : Option Nat) (done : List Node) :
    Reader (List Node) := do
  match done with
  | [] => failAt here .nothingToRepeat
  | item :: before =>
    if item.isEdge then failAt here .nothingToRepeat
    if item.isRepeated then failAt here .multipleRepeat
    if ← accept '?' then return .repeated .least least most item :: before
    if ← accept '+' then return .repeated .keep least most item :: before
    return .repeated .most least most item :: before

/-- A number for a group that opens here. -/
def openGroup (name : Option String) : Reader Nat := do
  let s ← get
  let n := s.groups.length
  if let some name := name then
    if let some earlier := s.names.lookup name then
      fail (.nameTaken name n earlier) (name.length + 1)
  set { s with
    groups := s.groups ++ [none]
    names := match name with | some name => s.names ++ [(name, n)] | none => s.names }
  return n

/-- Records the widths of a group that closes. -/
def closeGroup (n : Nat) (body : Node) : Reader Unit :=
  modify fun s =>
    { s with groups := s.groups.set n (some (body.width (s.groups.map (·.getD (0, 0))))) }

/-- The most groups that a pattern can have. -/
def maxGroups : Nat := 1073741823

/-- The group that a condition names. -/
def conditionGroup (name : String) : Reader Nat := do
  let s ← get
  let start := s.position - (name.length + 1)
  if Text.isName name then
    match s.names.lookup name with
    | some n => return n
    | none => failAt start (.noSuchName name)
  else
    match Text.freeInteger? name.toList with
    | some (.ofNat n) =>
      if n = 0 then failAt start .badGroupNumber
      if maxGroups ≤ n then failAt start (.noSuchGroup n)
      unless s.conditions.any (·.1 == n) do
        set { s with conditions := s.conditions ++ [(n, start)] }
      return n
    | _ => failAt start (.badGroupName name)

/-- Skips a comment; `start` is the place of its parenthesis. -/
def skipComment (start : Nat) : (fuel : Nat) → Reader Unit
  | 0 => failAt start .unterminatedComment
  | fuel + 1 => do
    match ← next with
    | none => failAt start .unterminatedComment
    | some t => if t = [')'] then return else skipComment start fuel

/-- Skips the rest of a line. -/
def skipLine : (fuel : Nat) → Reader Unit
  | 0 => return
  | fuel + 1 => do
    match ← next with
    | none => return
    | some t => if t = ['\n'] then return else skipLine fuel

/-- The closing parenthesis of a group that opened at `start`. -/
def closing (start : Nat) : Reader Unit := do
  unless ← accept ')' do failAt start .unterminatedGroup

/-- A group name up to its closing character. -/
def groupName (close : Char) : Reader String := do
  let name ← takeUntil close .missingGroupName ((← get).rest.length + 1) []
  unless Text.isName name do fail (.badGroupName name) (name.length + 1)
  return name

/-- What follows the start of a group: options read so far, or a whole item. -/
inductive Opening
  | group (capture atomic : Bool) (name : Option String) (on off : Flags)
  | item (n : Node)
  | look (ahead negated : Bool)
  | condition (n : Nat)
  | options
  | comment

/-- Reads what follows an opening parenthesis at `start`. -/
def opening (start : Nat) (whole : Bool) : Reader Opening := do
  unless ← accept '?' do return .group true false none {} {}
  let some t ← next | fail .unexpectedEnd
  match t with
  | ['P'] =>
    if ← accept '<' then
      return .group true false (some (← groupName '>')) {} {}
    if ← accept '=' then
      let name ← groupName ')'
      let s ← get
      match s.names.lookup name with
      | none => fail (.noSuchName name) (name.length + 1)
      | some n =>
        if ((s.groups[n]?).join).isNone then fail .openGroup (name.length + 1)
        checkBehind n
        return .item (.reference n)
    let some u ← next | fail .unexpectedEnd
    fail (.unknownExtension ("P" ++ String.ofList u)) (u.length + 2)
  | [':'] => return .group false false none {} {}
  | ['#'] =>
    skipComment start ((← get).rest.length + 1)
    return .comment
  | ['='] => return .look true false
  | ['!'] => return .look true true
  | ['<'] =>
    let some u ← next | fail .unexpectedEnd
    match u with
    | ['='] => return .look false false
    | ['!'] => return .look false true
    | _ => fail (.unknownExtension ("<" ++ String.ofList u)) (u.length + 2)
  | ['('] =>
    let name ← takeUntil ')' .missingGroupName ((← get).rest.length + 1) []
    let n ← conditionGroup name
    checkBehind n
    return .condition n
  | ['>'] => return .group false true none {} {}
  | [c] =>
    if (Flags.ofLetter? c).isSome || c = '-' then
      match ← groupFlags c with
      | some (on, off) => return .group false false none on off
      | none =>
        unless whole do failAt start .lateFlags
        return .options
    else fail (.unknownExtension (String.singleton c)) 2
  | t => fail (.unknownExtension (String.ofList t)) (t.length + 1)

mutual

/-- Alternatives between bars. -/
def alternatives (fuel : Nat) (verbose top first : Bool) : Reader Node := do
  match fuel with
  | 0 => return .seq []
  | fuel + 1 =>
    let p ← sequence fuel verbose (top && first) []
    if ← accept '|' then
      let flags := (← get).flags
      let verbose := if top then flags.verbose else verbose
      match ← alternatives fuel verbose top false with
      | .branch ps => return .branch (p :: ps)
      | q => return .branch [p, q]
    else return p

/-- Parts in a row, those read already last first. -/
def sequence (fuel : Nat) (verbose whole : Bool) (done : List Node) : Reader Node := do
  match fuel with
  | 0 => return .seq done.reverse
  | fuel + 1 =>
    match ← peek with
    | none | some ['|'] | some [')'] => return .seq done.reverse
    | some t =>
      let here := (← get).position
      let _ ← next
      let add (n : Node) : Reader Node := sequence fuel verbose whole (n :: done)
      let again (least : Nat) (most : Option Nat) : Reader Node := do
        sequence fuel verbose whole (← repeatLast here least most done)
      match t with
      | ['\\', c] => add (← escape c)
      | ['['] =>
        let negated ← accept '^'
        let items ← setItems here ((← get).rest.length + 1) []
        add (.set negated items)
      | ['?'] => again 0 (some 1)
      | ['*'] => again 0 none
      | ['+'] => again 1 none
      | ['\x7b'] =>
        match ← bounds? with
        | some (least, most) => again least most
        | none => add (.code 0x7b)
      | ['.'] => add .any
      | ['^'] => add (.edge .lineStart)
      | ['$'] => add (.edge .lineEnd)
      | ['('] =>
        match ← opening here (whole && done.isEmpty) with
        | .comment => sequence fuel verbose whole done
        | .options => sequence fuel (← get).flags.verbose whole done
        | .item n => add n
        | .look ahead negated =>
          let outer := (← get).behind
          if !ahead && outer.isNone then
            modify fun s => { s with behind := some s.groups.length }
          let body ← alternatives fuel verbose false true
          if !ahead then modify fun s => { s with behind := outer }
          closing here
          add (.look ahead negated body)
        | .condition n =>
          let yes ← sequence fuel verbose false []
          let no ← if ← accept '|' then sequence fuel verbose false [] else pure (.seq [])
          if (← peek) == some ['|'] then fail .threeBranches
          closing here
          add (.conditional n yes no)
        | .group capture atomic name on off =>
          let number ← if capture then some <$> openGroup name else pure none
          let inner := (verbose || on.verbose) && !off.verbose
          let body ← alternatives fuel inner false true
          closing here
          if let some n := number then closeGroup n body
          add (if atomic then .atomic body else .group number on off body)
      | [c] =>
        if verbose && (c.isWhitespace || c == '\x0b' || c == '\x0c') then
          sequence fuel verbose whole done
        else if verbose && c == '#' then
          skipLine ((← get).rest.length + 1)
          sequence fuel verbose whole done
        else add (.code c.toNat)
      | _ => sequence fuel verbose whole done

end

/-- The pattern that a text writes. -/
def Pattern.read (h : Host) (pattern : String) : Except Error Pattern := do
  if let some m := h.exhausted? pattern then throw ⟨.tooDeep m, none, pattern⟩
  let cs := pattern.toList
  let readAll : Reader Node := do
    checkEnd
    let body ← alternatives (2 * cs.length + 2) false true true
    let s ← get
    if s.flags.ascii && s.flags.unicode then throw ⟨.asciiAndUnicode, none, pattern⟩
    if !s.rest.isEmpty then fail .unbalanced
    if let some (n, at_) := s.conditions.find? fun c => s.groups.length ≤ c.1 then
      failAt at_ (.noSuchGroup n)
    return body
  let (body, s) ← readAll.run ⟨h.character?, pattern, cs, 0, {}, [none], [], none, []⟩
  let widths := s.groups.map (·.getD (0, 0))
  match body.objection? widths s.flags.template with
  | some c => throw ⟨c, none, pattern⟩
  | none => return ⟨body, s.flags, widths⟩

end TapScript.Regex
