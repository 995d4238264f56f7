/-
  ExprGraph.Span

  The stretch of a source text that a node was read from, as two byte offsets of 64 bits.  Nothing
  orders the two ends: a span that stops before it starts is empty.
-/

namespace ExprGraph

/-- A stretch of a source text. -/
structure Span where
  start : UInt64
  /-- The offset just past the last byte. -/
  stop : UInt64
deriving DecidableEq, Repr

namespace Span

/-- The number of bytes covered, none when the span stops before it starts. -/
def length (s : Span) : Nat := s.stop.toNat - s.start.toNat

def isEmpty (s : Span) : Bool := s.length == 0

/-- The two offsets with two dots between them. -/
def text (s : Span) : String := toString s.start.toNat ++ ".." ++ toString s.stop.toNat

end Span

end ExprGraph
