import ExprGraph.Json.Codec
import ExprGraph.Native.Call
import ExprGraph.Expr.Traverse
import ExprGraph.Expr.Free
import ExprGraph.Expr.Display
import ExprGraph.Expr.Outline
import ExprGraph.Namespace.Attach
import ExprGraph.Namespace.Builtins
import ExprGraph.Proofs.Binding.Nearest
import ExprGraph.Proofs.Binding.Links
import ExprGraph.Proofs.Expr.Occurrence
import ExprGraph.Proofs.Expr.Resolution
import ExprGraph.Proofs.Attach.Flat
import ExprGraph.Proofs.Attach.Jobs
import ExprGraph.Proofs.Namespace.Addressing
import ExprGraph.Proofs.Expr.Build
import ExprGraph.Proofs.Expr.Typing
import ExprGraph.Proofs.Expr.Callable
import ExprGraph.Proofs.Expr.Fault
import ExprGraph.Proofs.Expr.Context
import ExprGraph.Proofs.Attach.Resume
import ExprGraph.Proofs.Attach.Interface
import ExprGraph.Proofs.Namespace.Absorption
import ExprGraph.Proofs.Namespace.Slots
import ExprGraph.Proofs.Namespace.Order
import ExprGraph.Proofs.Namespace.Stepwise
import ExprGraph.Proofs.Attach.Account
import ExprGraph.Proofs.Expr.Display
import ExprGraph.Proofs.Attach.Writes
import ExprGraph.Proofs.Session.Ledger
import ExprGraph.Proofs.Attach.Renaming
import ExprGraph.Proofs.Expr.Outline
import ExprGraph.Proofs.Namespace.Registration
import ExprGraph.Proofs.Native.Recovery
import ExprGraph.Proofs.Json.Stored
