import TapScript.Value.Equality
import TapScript.Yaml.Scalar
import TapScript.Yaml.Token

/-! # Documents as trees

The tokens of a document make a tree of scalars, sequences and mappings. An alias stands for the
tree that its anchor marks, which must come before it.
-/

namespace TapScript.Yaml

/-- A part of a document. -/
inductive Node
  | scalar (s : Scalar)
  | seq (items : List Node)
  | map (entries : List (Node × Node))

/-- What is left of the tokens, and the trees that anchors mark. -/
structure Builder where
  rest : List Token
  anchors : List (String × Node)

/-- A computation that builds a tree; nothing if the tokens make none. -/
abbrev Build := StateT Builder Option

namespace Build

/-- The builder gives up. -/
def fail {α : Type} : Build α := fun _ => none

/-- The next token. -/
def peek : Build (Option Token) := do
  return (← get).rest.head?

/-- Consumes a token. -/
def skip : Build Unit :=
  modify fun s => { s with rest := s.rest.drop 1 }

/-- Whether the next token is one of some, or there is none. -/
def atAny (ts : List Token) : Build Bool := do
  match ← peek with
  | some t => return ts.contains t
  | none => return true

/-- Consumes a token if it is next. -/
def accept (t : Token) : Build Bool := do
  if (← peek) == some t then
    skip
    return true
  else return false

/-- Nothing, where a part is left out. -/
def empty : Node :=
  .scalar (.value .none)

/-- The meaning of a scalar under a tag. -/
def tagged (tag : String) (text : String) (plain : Bool) : Build Node := do
  match tag, Scalar.ofPlain text with
  | "!", s => return .scalar s
  | "!!str", _ => return .scalar (.value (.text text))
  | "!!null", _ => return empty
  | "!!bool", .value (.bool b) => return .scalar (.value (.bool b))
  | "!!int", .value (.int n) => return .scalar (.value (.int n))
  | "!!float", .value (.float x) => return .scalar (.value (.float x))
  | "!!float", .value (.int n) => return .scalar (.value (.float (Float.ofInt n)))
  | "", s => return .scalar (if plain then s else .value (.text text))
  | _, _ => fail

/-- Anchor and tag before a node, in either order. -/
def properties : Build (Option String × String) := do
  match ← peek with
  | some (.anchor a) =>
    skip
    match ← peek with
    | some (.tag t) =>
      skip
      return (some a, t)
    | _ => return (some a, "")
  | some (.tag t) =>
    skip
    match ← peek with
    | some (.anchor a) =>
      skip
      return (some a, t)
    | _ => return (none, t)
  | _ => return (none, "")

mutual

/-- A node; `block` allows blocks, and `loose` a sequence that is not indented. -/
def node (fuel : Nat) (block loose : Bool) : Build Node := do
  match fuel with
  | 0 => fail
  | fuel + 1 =>
    if let some (.alias name) ← peek then
      skip
      let some n := (← get).anchors.lookup name | fail
      return n
    let (anchor, tag) ← properties
    let n ← content fuel block loose anchor tag
    if let some a := anchor then
      if ((← get).anchors.lookup a).isSome then fail
      modify fun s => { s with anchors := (a, n) :: s.anchors }
    return n

/-- The content of a node after its properties. -/
def content (fuel : Nat) (block loose : Bool) (anchor : Option String) (tag : String) :
    Build Node := do
  match fuel with
  | 0 => fail
  | fuel + 1 =>
    let collection (allowed : String) (n : Build Node) : Build Node := do
      if tag != "" && tag != allowed && tag != "!" then fail
      n
    match ← peek with
    | some .entry =>
      if loose then collection "!!seq" do return .seq (← looseItems fuel)
      else if anchor.isSome || tag != "" then tagged tag "" true
      else fail
    | some (.scalar text plain) =>
      skip
      tagged tag text plain
    | some .flowSequence =>
      skip
      collection "!!seq" do return .seq (← flowItems fuel true)
    | some .flowMapping =>
      skip
      collection "!!map" do return .map (← flowEntries fuel true)
    | some .blockSequence =>
      if !block then fail
      skip
      collection "!!seq" do return .seq (← blockItems fuel)
    | some .blockMapping =>
      if !block then fail
      skip
      collection "!!map" do return .map (← blockEntries fuel)
    | _ => if anchor.isSome || tag != "" then tagged tag "" true else fail

/-- A node unless one of some tokens comes first. -/
def nodeUnless (fuel : Nat) (ends : List Token) (block loose : Bool) : Build Node := do
  match fuel with
  | 0 => fail
  | fuel + 1 => if ← atAny ends then return empty else node fuel block loose

/-- The items of a block sequence up to its end. -/
def blockItems (fuel : Nat) : Build (List Node) := do
  match fuel with
  | 0 => fail
  | fuel + 1 =>
    if ← accept .entry then
      let n ← nodeUnless fuel [.entry, .blockEnd] true false
      return n :: (← blockItems fuel)
    else if ← accept .blockEnd then return []
    else fail

/-- The items of a sequence that is not indented. -/
def looseItems (fuel : Nat) : Build (List Node) := do
  match fuel with
  | 0 => fail
  | fuel + 1 =>
    if ← accept .entry then
      let n ← nodeUnless fuel [.entry, .key, .value, .blockEnd] true false
      return n :: (← looseItems fuel)
    else return []

/-- The entries of a block mapping up to its end. -/
def blockEntries (fuel : Nat) : Build (List (Node × Node)) := do
  match fuel with
  | 0 => fail
  | fuel + 1 =>
    let ends : List Token := [.key, .value, .blockEnd]
    if ← accept .key then
      let k ← nodeUnless fuel ends true true
      if ← accept .value then
        let v ← nodeUnless fuel ends true true
        return (k, v) :: (← blockEntries fuel)
      else return (k, empty) :: (← blockEntries fuel)
    else if ← accept .blockEnd then return []
    else fail

/-- The items of a flow sequence up to its end; a key makes a mapping of one entry. -/
def flowItems (fuel : Nat) (first : Bool) : Build (List Node) := do
  match fuel with
  | 0 => fail
  | fuel + 1 =>
    if ← accept .flowSequenceEnd then return []
    if !first then
      if !(← accept .flowEntry) then fail
    if ← accept .flowSequenceEnd then return []
    if ← accept .key then
      let k ← nodeUnless fuel [.value, .flowEntry, .flowSequenceEnd] false false
      let v ← flowValue fuel [.flowEntry, .flowSequenceEnd]
      return .map [(k, v)] :: (← flowItems fuel false)
    else
      let n ← node fuel false false
      return n :: (← flowItems fuel false)

/-- The entries of a flow mapping up to its end; a node alone is a key without a value. -/
def flowEntries (fuel : Nat) (first : Bool) : Build (List (Node × Node)) := do
  match fuel with
  | 0 => fail
  | fuel + 1 =>
    if ← accept .flowMappingEnd then return []
    if !first then
      if !(← accept .flowEntry) then fail
    if ← accept .flowMappingEnd then return []
    if ← accept .key then
      let k ← nodeUnless fuel [.value, .flowEntry, .flowMappingEnd] false false
      let v ← flowValue fuel [.flowEntry, .flowMappingEnd]
      return (k, v) :: (← flowEntries fuel false)
    else
      let k ← node fuel false false
      return (k, empty) :: (← flowEntries fuel false)

/-- The value after a key in a flow collection, if there is one. -/
def flowValue (fuel : Nat) (ends : List Token) : Build Node := do
  match fuel with
  | 0 => fail
  | fuel + 1 => if ← accept .value then nodeUnless fuel ends false false else return empty

end

/-- Skips the tokens of one kind. -/
def skipAll (t : Token) : (fuel : Nat) → Build Unit
  | 0 => return
  | fuel + 1 => do if ← accept t then skipAll t fuel

/-- The only document of a stream, if there is one. -/
def document (fuel : Nat) : Build (Option Node) := do
  if (← peek).isNone then return none
  let directed := (← peek) == some .directive
  skipAll .directive fuel
  let explicit ← accept .documentStart
  if directed && !explicit then fail
  let n ←
    if ← atAny [.directive, .documentStart, .documentEnd] then
      if explicit then pure empty else fail
    else node fuel true false
  skipAll .documentEnd fuel
  if (← peek).isSome then fail
  return some n

end Build

/-- The tree of a document; nothing if the document is malformed. -/
def Node.read? (cs : List Char) : Option (Option Node) := do
  let ts ← Token.scan? cs
  let (n, _) ← (Build.document (6 * ts.length + 6)).run ⟨ts, []⟩
  return n

/-- Why a tree stands for no value. -/
inductive Unusable
  | malformed
  | noSuchValue (reason : String)

namespace Node

/-- Whether a value can be a key. -/
def isKey : Value → Bool
  | .list _ | .map .. => false
  | _ => true

/-- The entries of mappings that are merged into another, the first of them strongest. -/
def mergedEntries : Value → Option (List (Value × Value))
  | .map _ es => some es
  | .list vs =>
    vs.reverse.foldlM (fun es v => match v with | .map _ fs => some (es ++ fs) | _ => none) []
  | _ => none

mutual

/-- The value that a tree stands for. -/
def toValue : Node → Except Unusable Value
  | .scalar (.value v) => .ok v
  | .scalar (.noSuchValue r) => .error (.noSuchValue r)
  | .scalar _ => .error .malformed
  | .seq ns => do return .list (← toValues ns)
  | .map es => do
    let (merged, own) ← toEntries es
    return .map false ((merged ++ own).foldl (fun es e => Value.bindTo es e.1 e.2) [])

/-- The values of several trees. -/
def toValues : List Node → Except Unusable (List Value)
  | [] => .ok []
  | n :: ns => do return (← toValue n) :: (← toValues ns)

/-- The merged entries and the own entries of a mapping. -/
def toEntries : List (Node × Node) →
    Except Unusable (List (Value × Value) × List (Value × Value))
  | [] => .ok ([], [])
  | (.scalar .merge, n) :: es => do
    let v ← toValue n
    let (merged, own) ← toEntries es
    match mergedEntries v with
    | some fs => return (fs ++ merged, own)
    | none => .error .malformed
  | (k, n) :: es => do
    let k ← match k with
      | .scalar .unusable => .ok (.text "=")
      | k => toValue k
    let v ← toValue n
    let (merged, own) ← toEntries es
    if isKey k then return (merged, (k, v) :: own) else .error .malformed

end

end Node

end TapScript.Yaml
