import PointerTrace.Document.ScalarFault

/- Why a YAML document has no value. -/
namespace PointerTrace.Document.Yaml

/-- Why a document cannot be read: it is malformed, or a scalar in it has no value. -/
inductive Fault where
  | malformed
  | scalar (fault : ScalarFault)
  deriving DecidableEq, Repr

end PointerTrace.Document.Yaml
