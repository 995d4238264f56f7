/-
  ExprGraph.Ty.Basic

  The types of the values that expressions produce: seven scalar types, function types, and types
  of which only the name is known.

  Two types are equal exactly when they are built the same way, so a named type called `float`
  differs from the scalar `float`.  A function type may lack its result; such a type can be written
  and compared, but nothing that must produce a value accepts it.
-/

namespace ExprGraph

/-- The type of a value. -/
inductive Ty where
  | unit
  | bool
  | int32
  | int
  | float32
  | float
  | string
  /-- Functions from `args` to `ret`; `ret` is absent when the result cannot be described. -/
  | fn (ret : Option Ty) (args : List Ty)
  /-- A type known by its name only. -/
  | named (name : String)
deriving Inhabited

namespace Ty

/-! ## Equality -/

mutual
/-- Structural equality of types, by recursion on the first. -/
def same : Ty → Ty → Bool
  | .unit, .unit => true
  | .bool, .bool => true
  | .int32, .int32 => true
  | .int, .int => true
  | .float32, .float32 => true
  | .float, .float => true
  | .string, .string => true
  | .fn r as, .fn s bs => sameResult r s && sameList as bs
  | .named m, .named n => m == n
  | _, _ => false

/-- Structural equality of the result of a function type, which may be absent. -/
def sameResult : Option Ty → Option Ty → Bool
  | none, none => true
  | some t, some u => same t u
  | _, _ => false

def sameList : List Ty → List Ty → Bool
  | [], [] => true
  | t :: ts, u :: us => same t u && sameList ts us
  | _, _ => false
end

mutual
theorem same_self : ∀ t : Ty, same t t = true
  | .unit | .bool | .int32 | .int | .float32 | .float | .string => rfl
  | .fn r as => by simp [same, sameResult_self r, sameList_self as]
  | .named n => by simp [same]

theorem sameResult_self : ∀ r : Option Ty, sameResult r r = true
  | none => rfl
  | some t => by simp [sameResult, same_self t]

theorem sameList_self : ∀ ts : List Ty, sameList ts ts = true
  | [] => rfl
  | t :: ts => by simp [sameList, same_self t, sameList_self ts]
end

mutual
theorem eq_of_same : ∀ {t u : Ty}, same t u = true → t = u
  | .fn r as, .fn s bs, h => by
    simp only [same, Bool.and_eq_true] at h
    rw [eq_of_sameResult h.1, eq_of_sameList h.2]
  | .named m, .named n, h => by
    simp only [same, beq_iff_eq] at h
    rw [h]
  | .unit, u, h | .bool, u, h | .int32, u, h | .int, u, h | .float32, u, h | .float, u, h
  | .string, u, h => by
    cases u <;> simp [same] at h
    rfl
  | .fn _ _, .unit, h | .fn _ _, .bool, h | .fn _ _, .int32, h | .fn _ _, .int, h
  | .fn _ _, .float32, h | .fn _ _, .float, h | .fn _ _, .string, h | .fn _ _, .named _, h => by
    simp [same] at h
  | .named _, .unit, h | .named _, .bool, h | .named _, .int32, h | .named _, .int, h
  | .named _, .float32, h | .named _, .float, h | .named _, .string, h | .named _, .fn _ _, h => by
    simp [same] at h

theorem eq_of_sameResult : ∀ {r s : Option Ty}, sameResult r s = true → r = s
  | none, none, _ => rfl
  | some t, some u, h => by rw [eq_of_same (t := t) (u := u) (by simpa [sameResult] using h)]
  | none, some _, h => by simp [sameResult] at h
  | some _, none, h => by simp [sameResult] at h

theorem eq_of_sameList : ∀ {ts us : List Ty}, sameList ts us = true → ts = us
  | [], [], _ => rfl
  | t :: ts, u :: us, h => by
    simp only [sameList, Bool.and_eq_true] at h
    rw [eq_of_same h.1, eq_of_sameList h.2]
  | [], _ :: _, h => by simp [sameList] at h
  | _ :: _, [], h => by simp [sameList] at h
end

theorem same_iff_eq {t u : Ty} : same t u = true ↔ t = u :=
  ⟨eq_of_same, fun h => h ▸ same_self t⟩

instance : DecidableEq Ty := fun _ _ => decidable_of_iff _ same_iff_eq

/-! ## Function types -/

def isFunction : Ty → Bool
  | .fn _ _ => true
  | _ => false

/-- The result of a function type; `none` when it is absent or the type is no function type. -/
def result? : Ty → Option Ty
  | .fn ret _ => ret
  | _ => none

/-- The argument types of a function type, in order; other types have none. -/
def args : Ty → List Ty
  | .fn _ args => args
  | _ => []

def arg? (t : Ty) (i : Nat) : Option Ty := t.args[i]?

@[simp] theorem isFunction_fn (ret : Option Ty) (as : List Ty) : (fn ret as).isFunction = true := rfl

@[simp] theorem result?_fn (ret : Option Ty) (as : List Ty) : (fn ret as).result? = ret := rfl

@[simp] theorem args_fn (ret : Option Ty) (as : List Ty) : (fn ret as).args = as := rfl

/-- A type with a result is a function type, from its arguments to that result. -/
theorem eq_fn_of_result? {t r : Ty} (h : t.result? = some r) : t = fn (some r) t.args := by
  cases t <;> simp_all [result?, args]

theorem isFunction_iff {t : Ty} : t.isFunction = true ↔ t = fn t.result? t.args := by
  cases t <;> simp [isFunction, result?, args]

end Ty

end ExprGraph
