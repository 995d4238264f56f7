/-
  ExprGraph.Binding.Path

  Where a variable's binding is found: a slot of an enclosing scope, counted outward from the
  reference, or a slot of the global namespace.  Links and slots are machine words of 32 bits.
-/

namespace ExprGraph

/-- The place of a binding as seen from a reference. -/
inductive BindingPath where
  /-- Slot `slot` of the scope reached by crossing `link` scopes outward. -/
  | lexical (link slot : UInt32)
  /-- Slot `slot` of the global namespace. -/
  | global (slot : UInt32)
deriving DecidableEq, Repr

namespace BindingPath

/-- The same binding seen from one scope further in. -/
def outward : BindingPath → BindingPath
  | .lexical link slot => .lexical (link + 1) slot
  | .global slot => .global slot

@[simp] theorem outward_lexical (link slot : UInt32) :
    (lexical link slot).outward = lexical (link + 1) slot := rfl

@[simp] theorem outward_global (slot : UInt32) : (global slot).outward = global slot := rfl

/-- The same binding seen from `n` scopes further in. -/
def outwardBy (n : Nat) : BindingPath → BindingPath
  | .lexical link slot => .lexical (link + UInt32.ofNat n) slot
  | .global slot => .global slot

@[simp] theorem outwardBy_lexical (n : Nat) (link slot : UInt32) :
    (lexical link slot).outwardBy n = lexical (link + UInt32.ofNat n) slot := rfl

@[simp] theorem outwardBy_global (n : Nat) (slot : UInt32) :
    (global slot).outwardBy n = global slot := rfl

@[simp] theorem outwardBy_zero (p : BindingPath) : p.outwardBy 0 = p := by
  cases p <;> simp [outwardBy]

theorem outwardBy_outward (n : Nat) (p : BindingPath) :
    p.outward.outwardBy n = p.outwardBy (n + 1) := by
  cases p with
  | lexical link slot =>
    have h : link + 1 + UInt32.ofNat n = link + UInt32.ofNat (n + 1) := by
      rw [UInt32.add_assoc, Nat.add_comm n 1, UInt32.ofNat_add]
      rfl
    simp only [outward_lexical, outwardBy_lexical, h]
  | global slot => rfl

/-- A link that stays a word is raised by as much as the path is moved. -/
theorem toNat_add_ofNat {link : UInt32} {n : Nat} (h : link.toNat + n < UInt32.size) :
    (link + UInt32.ofNat n).toNat = link.toNat + n := by
  have hsize : UInt32.size = 2 ^ 32 := rfl
  rw [UInt32.toNat_add, UInt32.toNat_ofNat']
  omega

def text : BindingPath → String
  | .lexical link slot =>
    "local(link=" ++ toString link.toNat ++ ", slot=" ++ toString slot.toNat ++ ")"
  | .global slot => "global(slot=" ++ toString slot.toNat ++ ")"

end BindingPath

end ExprGraph
