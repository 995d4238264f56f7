/-
  ExprGraph.Text.Structure

  Texts that show how a value is built, on one line: a constructor with named fields, a constructor
  around one part, a list, and a part that may be absent.
-/

namespace ExprGraph.Text

/-- The items, with a comma and a blank between neighbours. -/
def commaSeparated (items : List String) : String := ", ".intercalate items

/-- A constructor with named fields, in the order given. -/
def withFields (name : String) (fields : List (String × String)) : String :=
  name ++ " \x7b " ++ commaSeparated (fields.map fun f => f.1 ++ ": " ++ f.2) ++ " \x7d"

/-- A constructor with named fields of which some are left out. -/
def withSomeFields (name : String) (fields : List (String × String)) : String :=
  name ++ " \x7b " ++ commaSeparated (fields.map fun f => f.1 ++ ": " ++ f.2) ++ ", .. \x7d"

def wrapped (name part : String) : String := name ++ "(" ++ part ++ ")"

/-- A constructor around any number of parts, which is its name alone if there are none. -/
def constructed (name : String) (parts : List String) : String :=
  if parts.isEmpty then name else wrapped name (commaSeparated parts)

def listed (parts : List String) : String := "[" ++ commaSeparated parts ++ "]"

def optional : Option String → String
  | none => "None"
  | some part => wrapped "Some" part

end ExprGraph.Text
