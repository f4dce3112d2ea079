import PointerTrace.Document.ScalarFault
import PointerTrace.Program.Issue

/- Why a text or a document gives no program. -/
namespace PointerTrace

/-- A text or a document is malformed, or it holds a number or a date that cannot be built. -/
inductive ReadFailure where
  | malformed (issues : List Issue)
  | unreadable (fault : Document.ScalarFault)
  deriving DecidableEq, Repr

/-- A failure by one syntax fault at a place. -/
def ReadFailure.ofSyntax (fault : SyntaxFault) (location : Option Location) : ReadFailure :=
  .malformed [.ofSyntax fault location]

end PointerTrace
