import PointerTrace.Machine.Verdict

/- Checking a program: it is loaded, run on an empty store, judged, and reported on. A report quotes
   the operation at fault, so there is none where that operation writes a number that is too long to be
   written, although there is a verdict. -/
namespace PointerTrace

/-- What a check depends on besides the program: the value that an external call writes through its
    argument, and whether writing through immutable bindings is refused beforehand. -/
structure CheckOptions where
  externalValue : Int := 1
  checkBindings : Bool := false
  deriving DecidableEq, Repr

/-- Why a check gives no verdict. -/
inductive CheckFailure where
  | malformed (issues : List Issue)
  | unfinished (status : Status)
  deriving DecidableEq, Repr

/-- Why there is no report on a program. -/
inductive ReportFailure where
  | malformed (issues : List Issue)
  | unfinished (status : Status)
  /-- The operation at fault cannot be quoted: its number is too long to be written. -/
  | unquotable
  deriving DecidableEq, Repr

/-- States a verdict, if the operation that it quotes can be written. -/
def Verdict.stated (v : Verdict) : Except ReportFailure Verdict :=
  if v.isQuotable then .ok v else .error .unquotable

/-- The report on a machine. -/
def Machine.report (m : Machine) : Except ReportFailure Verdict :=
  m.verdict.mapError .unfinished >>= Verdict.stated

/-- A refusal of the store as a problem of the trace. -/
def StoreError.issue : StoreError → Issue
  | .unknownId id => ⟨.unknownAllocation ("#" ++ Decimal.ofInt id) none, none⟩
  | .unknownName name => ⟨.unknownAllocation name none, none⟩
  | .nameTaken name count => ⟨.duplicateName name count, none⟩

namespace Program

/-- Runs a program on an empty store to the end, recording memory after every operation on
    request. -/
def evaluate (p : Program) (o : CheckOptions) (recording : Bool) : Except (List Issue) Machine :=
  Machine.load p o.externalValue o.checkBindings recording >>= fun m =>
    m.run.mapError fun e => [e.issue]

/-- The verdict on a program, before the operation at fault is quoted. -/
def check (p : Program) (o : CheckOptions) : Except CheckFailure Verdict :=
  (p.evaluate o false).mapError .malformed >>= fun m => m.verdict.mapError .unfinished

/-- Checks a program and reports on it. -/
def report (p : Program) (o : CheckOptions) : Except ReportFailure Verdict :=
  (p.evaluate o false).mapError .malformed >>= Machine.report

end Program

end PointerTrace
