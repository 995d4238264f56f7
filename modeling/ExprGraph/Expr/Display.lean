/-
  ExprGraph.Expr.Display

  The text of a tree on one line: each node between angle brackets, with its kind, its fields under
  their names, and the texts of the nodes below it.  A function shows its parameters by name only, a
  primitive the address of its native function as this run of the program writes it.
-/

import ExprGraph.Expr.Capability

namespace ExprGraph

/-- The text of a primitive; the machine operation is left out if there is none. -/
def Primitive.display (address : NativeValue → String) (p : Primitive) : String :=
  "<Primitive :name " ++ p.name ++ " :type " ++ p.type.shortName ++ " :value " ++
    address p.function ++
    (if p.intrinsic.isBuiltin then " :intrinsic " ++ p.intrinsic.name else "") ++ ">"

namespace Expr

mutual
/-- The text of a tree on one line. -/
def display (address : NativeValue → String) : Expr → String
  | .const value =>
    "<Constant :type " ++ value.type.descr.shortName ++ " :value " ++ value.text address ++ ">"
  | .prim p => p.display address
  | .var v => "<Variable :name " ++ v.name ++ " :type " ++ v.type.shortName ++ ">"
  | .lambda name _ signature params body =>
    "<Lambda :name " ++ name ++ " :type " ++ signature ++ " :argv [" ++
      " ".intercalate (params.map (·.name)) ++ "] :body " ++ body.display address ++ ">"
  | .apply type fn args =>
    "<Apply :type " ++ type.shortName ++ " :fn " ++ fn.display address ++ " :args [" ++
      " ".intercalate (displayAll address args) ++ "]>"

def displayAll (address : NativeValue → String) : List Expr → List String
  | [] => []
  | e :: es => e.display address :: displayAll address es
end

variable (address : NativeValue → String)

@[simp] theorem displayAll_eq_map (es : List Expr) :
    displayAll address es = es.map (display address) := by
  induction es with
  | nil => rfl
  | cons e es ih => simp [displayAll, ih]

-- The equations are stated here because Lean takes long to derive them through the text literals.

theorem display_const (value : NativeValue) :
    (const value).display address =
      "<Constant :type " ++ value.type.descr.shortName ++ " :value " ++ value.text address ++
        ">" := by
  rw [display.eq_def]

theorem display_prim (p : Primitive) :
    (prim p).display address =
      "<Primitive :name " ++ p.name ++ " :type " ++ p.type.shortName ++ " :value " ++
        address p.function ++
        (if p.intrinsic.isBuiltin then " :intrinsic " ++ p.intrinsic.name else "") ++ ">" := by
  rw [display.eq_def]
  delta Primitive.display
  rfl

theorem display_var (v : Variable) :
    (var v).display address =
      "<Variable :name " ++ v.name ++ " :type " ++ v.type.shortName ++ ">" := by
  rw [display.eq_def]

theorem display_lambda (name : String) (type : Ty) (signature : String) (params : List Variable)
    (body : Expr) :
    (lambda name type signature params body).display address =
      "<Lambda :name " ++ name ++ " :type " ++ signature ++ " :argv [" ++
        " ".intercalate (params.map (·.name)) ++ "] :body " ++ body.display address ++ ">" := by
  rw [display.eq_def]

theorem display_apply (type : Ty) (fn : Expr) (args : List Expr) :
    (apply type fn args).display address =
      "<Apply :type " ++ type.shortName ++ " :fn " ++ fn.display address ++ " :args [" ++
        " ".intercalate (args.map (display address)) ++ "]>" := by
  rw [display.eq_def]
  simp only [displayAll_eq_map]

end Expr

end ExprGraph
