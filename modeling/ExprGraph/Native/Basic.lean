/-
  ExprGraph.Native.Basic

  Native types: the types of the values that constants hold and of the functions that primitives
  name.  Each is described by a type of the expression language, and carried by a type of its own.

  The description loses information.  Functions of the two calling conventions are described alike,
  and a record type has whatever description it declares, so equal descriptions do not make equal
  native types.
-/

import ExprGraph.Ty.Basic

namespace ExprGraph

/-- How a native function receives its arguments. -/
inductive Convention where
  | host
  | foreign
deriving DecidableEq, Repr

/-- The type of a native value. -/
inductive NativeTy where
  | unit
  | bool
  | int32
  | int
  | float32
  | float
  | string
  /-- Functions from `args` to `ret` under a calling convention. -/
  | fn (convention : Convention) (ret : NativeTy) (args : List NativeTy)
  /-- A declared type: records of the listed fields, under a name of its own and with the
      description that the declaration gives it. -/
  | record (name : String) (descr : Ty) (fields : List NativeTy)
deriving Inhabited

namespace NativeTy

/-! ## Equality -/

mutual
/-- Structural equality of native types, by recursion on the first. -/
def same : NativeTy → NativeTy → Bool
  | .unit, .unit => true
  | .bool, .bool => true
  | .int32, .int32 => true
  | .int, .int => true
  | .float32, .float32 => true
  | .float, .float => true
  | .string, .string => true
  | .fn c r as, .fn d s bs => c == d && same r s && sameList as bs
  | .record m t as, .record n u bs => m == n && t == u && sameList as bs
  | _, _ => false

def sameList : List NativeTy → List NativeTy → Bool
  | [], [] => true
  | t :: ts, u :: us => same t u && sameList ts us
  | _, _ => false
end

mutual
theorem same_self : ∀ t : NativeTy, same t t = true
  | .unit | .bool | .int32 | .int | .float32 | .float | .string => rfl
  | .fn c r as => by simp [same, same_self r, sameList_self as]
  | .record m t as => by simp [same, sameList_self as]

theorem sameList_self : ∀ ts : List NativeTy, sameList ts ts = true
  | [] => rfl
  | t :: ts => by simp [sameList, same_self t, sameList_self ts]
end

mutual
theorem eq_of_same : ∀ {t u : NativeTy}, same t u = true → t = u
  | .fn c r as, .fn d s bs, h => by
    simp only [same, Bool.and_eq_true, beq_iff_eq] at h
    rw [h.1.1, eq_of_same h.1.2, eq_of_sameList h.2]
  | .record m t as, .record n u bs, h => by
    simp only [same, Bool.and_eq_true, beq_iff_eq] at h
    rw [h.1.1, h.1.2, eq_of_sameList h.2]
  | .unit, u, h | .bool, u, h | .int32, u, h | .int, u, h | .float32, u, h | .float, u, h
  | .string, u, h => by
    cases u <;> simp [same] at h
    rfl
  | .fn _ _ _, .unit, h | .fn _ _ _, .bool, h | .fn _ _ _, .int32, h | .fn _ _ _, .int, h
  | .fn _ _ _, .float32, h | .fn _ _ _, .float, h | .fn _ _ _, .string, h
  | .fn _ _ _, .record _ _ _, h => by simp [same] at h
  | .record _ _ _, .unit, h | .record _ _ _, .bool, h | .record _ _ _, .int32, h
  | .record _ _ _, .int, h | .record _ _ _, .float32, h | .record _ _ _, .float, h
  | .record _ _ _, .string, h | .record _ _ _, .fn _ _ _, h => by simp [same] at h

theorem eq_of_sameList : ∀ {ts us : List NativeTy}, sameList ts us = true → ts = us
  | [], [], _ => rfl
  | t :: ts, u :: us, h => by
    simp only [sameList, Bool.and_eq_true] at h
    rw [eq_of_same h.1, eq_of_sameList h.2]
  | [], _ :: _, h => by simp [sameList] at h
  | _ :: _, [], h => by simp [sameList] at h
end

theorem same_iff_eq {t u : NativeTy} : same t u = true ↔ t = u :=
  ⟨eq_of_same, fun h => h ▸ same_self t⟩

instance : DecidableEq NativeTy := fun _ _ => decidable_of_iff _ same_iff_eq

/-! ## Descriptions -/

mutual
/-- The type that describes a native type. -/
def descr : NativeTy → Ty
  | .unit => .unit
  | .bool => .bool
  | .int32 => .int32
  | .int => .int
  | .float32 => .float32
  | .float => .float
  | .string => .string
  | .fn _ ret args => .fn (some ret.descr) (descrs args)
  | .record _ descr _ => descr

def descrs : List NativeTy → List Ty
  | [] => []
  | t :: ts => t.descr :: descrs ts
end

@[simp] theorem descrs_eq_map (ts : List NativeTy) : descrs ts = ts.map descr := by
  induction ts with
  | nil => rfl
  | cons t ts ih => simp [descrs, ih]

/-- The calling convention does not show in the description. -/
theorem descr_fn (c : Convention) (ret : NativeTy) (args : List NativeTy) :
    (fn c ret args).descr = .fn (some ret.descr) (args.map descr) := by
  simp [descr]

end NativeTy

/-! ## Values -/

/-- A native function: the symbol under which it is linked, and what it computes.  Functions that
    compute the same may still be different functions, each with an address of its own. -/
structure NativeFunction (α : Type) where
  symbol : String
  code : α

namespace NativeTy

mutual
/-- The values of a native type. -/
def Carrier : NativeTy → Type
  | .unit => Unit
  | .bool => Bool
  | .int32 => Int32
  | .int => Int64
  | .float32 => Float32
  | .float => Float
  | .string => String
  | .fn _ ret args => NativeFunction (Curried args ret.Carrier)
  | .record _ _ fields => Record fields

/-- Functions that take arguments of the listed native types one after the other. -/
def Curried : List NativeTy → Type → Type
  | [], r => r
  | a :: as, r => a.Carrier → Curried as r

/-- Values of the listed native types, one of each. -/
def Record : List NativeTy → Type
  | [] => Unit
  | t :: ts => t.Carrier × Record ts
end

end NativeTy

end ExprGraph
