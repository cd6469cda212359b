/-! # Issues with settings

A setting that breaks a rule of its field is an issue: where it stands, and which rule.
-/

namespace TapScript

/-- The rules that a setting may break. -/
inductive Rule
  | intType
  | intParsing
  | intParsingSize
  | intFromFloat
  | finiteNumber
  | boolType
  | boolParsing
  | stringType
  | literal
  | modelType
  | greaterThan
  | greaterThanEqual
  deriving DecidableEq, Repr

namespace Rule

/-- The name by which an issue reports the rule. -/
def name : Rule → String
  | intType => "int_type"
  | intParsing => "int_parsing"
  | intParsingSize => "int_parsing_size"
  | intFromFloat => "int_from_float"
  | finiteNumber => "finite_number"
  | boolType => "bool_type"
  | boolParsing => "bool_parsing"
  | stringType => "string_type"
  | literal => "literal_error"
  | modelType => "model_type"
  | greaterThan => "greater_than"
  | greaterThanEqual => "greater_than_equal"

end Rule

/-- A broken rule, under the keys that lead to the setting. -/
structure Issue where
  keys : List String
  rule : Rule
  deriving DecidableEq, Repr

namespace Issue

/-- The issue seen from a section that holds it. -/
def under (key : String) (i : Issue) : Issue :=
  { i with keys := key :: i.keys }

end Issue

end TapScript
