/-! # Locators

A locator finds an element by an XPath, if it starts as one that searches the whole document, and
otherwise by an accessibility id.
-/

namespace TapScript

/-- How a locator finds its element. -/
inductive Strategy
  | xpath
  | accessibilityId
  deriving DecidableEq, Repr

namespace Strategy

def name : Strategy → String
  | xpath => "xpath"
  | accessibilityId => "accessibility_id"

/-- The strategy of a locator. -/
def ofLocator (locator : String) : Strategy :=
  match locator.toList with
  | '/' :: '/' :: '*' :: _ => xpath
  | _ => accessibilityId

/-- The strategy of a name. -/
def ofName? (s : String) : Option Strategy :=
  [xpath, accessibilityId].find? (·.name == s)

end Strategy

end TapScript
