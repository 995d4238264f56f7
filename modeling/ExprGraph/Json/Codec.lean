/-
  ExprGraph.Json.Codec

  The stored form of kinds, intrinsics, spans and binding paths.

  A kind or an intrinsic is its capitalised name, read also from an object with that name as its only
  key and the value null.  A span is an object with both ends, read also from an array of the two.  A
  path is an object with one key, the name of its form, whose value is an object with the numbers.
  Fields that an object need not have are ignored where it is read.

  The code that writes and reads these forms is derived by serde and is not among the sources, which
  only ask for it.  The definitions here stand for that code: they follow the representation that
  serde documents for derived code, in which enumerations are tagged externally, as it is written to
  JSON values and read from them.
-/

import ExprGraph.Json.Basic
import ExprGraph.Kind
import ExprGraph.Intrinsic
import ExprGraph.Span
import ExprGraph.Binding.Path

namespace ExprGraph

/-- The name that a value holds: a text, or the only key of an object with the value null. -/
def Json.tag? : Json → Option String
  | .str s => some s
  | .obj [(name, .null)] => some name
  | _ => none

def Kind.toJson (k : Kind) : Json := .str k.tag

def Kind.ofJson? (j : Json) : Option Kind := j.tag?.bind Kind.ofTag?

def Intrinsic.toJson (i : Intrinsic) : Json := .str i.tag

def Intrinsic.ofJson? (j : Json) : Option Intrinsic := j.tag?.bind Intrinsic.ofTag?

def Span.toJson (s : Span) : Json :=
  .obj [("start", .nat s.start.toNat), ("end", .nat s.stop.toNat)]

/-- The span with the given ends, if both are words of 64 bits. -/
def Span.ofEnds? (start stop : Json) : Option Span := do
  return ⟨← start.word64?, ← stop.word64?⟩

def Span.ofJson? : Json → Option Span
  | .arr [start, stop] => Span.ofEnds? start stop
  | .obj fields => do Span.ofEnds? (← fields.lookup "start") (← fields.lookup "end")
  | _ => none

def BindingPath.toJson : BindingPath → Json
  | .lexical link slot =>
    .obj [("Local", .obj [("link", .nat link.toNat), ("slot", .nat slot.toNat)])]
  | .global slot => .obj [("Global", .obj [("slot", .nat slot.toNat)])]

def BindingPath.ofJson? : Json → Option BindingPath
  | .obj [(form, .obj fields)] =>
    if form = "Local" then do
      return .lexical (← (← fields.lookup "link").word32?) (← (← fields.lookup "slot").word32?)
    else if form = "Global" then do
      return .global (← (← fields.lookup "slot").word32?)
    else none
  | _ => none

end ExprGraph
