import PointerTrace.Document.Yaml.Library
import PointerTrace.Document.Yaml.Reader
import PointerTrace.Document.Yaml.Writer

/- The reader and the writer that the program uses. -/
namespace PointerTrace.Document.Yaml

instance Library.standard : Library := ⟨Yaml.read, Yaml.write⟩

end PointerTrace.Document.Yaml
