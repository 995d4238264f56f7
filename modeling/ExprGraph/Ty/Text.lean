/-
  ExprGraph.Ty.Text

  Two texts of a type.  The short name is a signature: a scalar by its name, a function as its
  result followed by its argument types in parentheses, with `?` for an absent result, and a named
  type by its name as it is.  The structure text spells out the constructors.
-/

import ExprGraph.Ty.Basic
import ExprGraph.Text.Quoted
import ExprGraph.Text.Structure

namespace ExprGraph.Ty

/-! ## Short names -/

mutual
/-- The signature of a type, as in `float(float,int)`. -/
def shortName : Ty → String
  | .unit => "unit"
  | .bool => "bool"
  | .int32 => "int32"
  | .int => "int"
  | .float32 => "float32"
  | .float => "float"
  | .string => "string"
  | .fn ret args => resultName ret ++ "(" ++ ",".intercalate (shortNames args) ++ ")"
  | .named name => name

/-- The short name of a result, or `?` when it is absent. -/
def resultName : Option Ty → String
  | none => "?"
  | some t => t.shortName

def shortNames : List Ty → List String
  | [] => []
  | t :: ts => t.shortName :: shortNames ts
end

@[simp] theorem shortNames_eq_map (ts : List Ty) : shortNames ts = ts.map shortName := by
  induction ts with
  | nil => rfl
  | cons t ts ih => simp [shortNames, ih]

/-! ## Structure texts -/

mutual
/-- The outermost constructor of a type with all its parts. -/
def structureText : Ty → String
  | .unit => "Unit"
  | .bool => "Bool"
  | .int32 => "Int32"
  | .int => "Int"
  | .float32 => "Float32"
  | .float => "Float"
  | .string => "String"
  | .fn ret args =>
    Text.withFields "Function"
      [("ret", Text.optional (resultDescrText ret)), ("args", Text.listed (descrTexts args))]
  | .named name => Text.wrapped "Opaque" (Text.quote name)

def resultDescrText : Option Ty → Option String
  | none => none
  | some t => some (Text.wrapped "TypeDescr" t.structureText)

def descrTexts : List Ty → List String
  | [] => []
  | t :: ts => Text.wrapped "TypeDescr" t.structureText :: descrTexts ts
end

/-- The structure text of a type as a part of something larger. -/
def descrText (t : Ty) : String := Text.wrapped "TypeDescr" t.structureText

end ExprGraph.Ty
