/- Marks of terminal text. They are used on a terminal only, and not when colours are turned off. -/
namespace PointerTrace.Report

/-- Whether text may be marked. -/
structure Style where
  coloured : Bool
  deriving DecidableEq, Repr

namespace Style

/-- The style for an output that is or is not a terminal, where colours are or are not turned
    off. -/
def of (terminal noColour : Bool) : Style := ⟨terminal && !noColour⟩

/-- Text marked by a code. -/
def mark (s : Style) (code text : String) : String :=
  if s.coloured then "\x1b[" ++ code ++ "m" ++ text ++ "\x1b[0m" else text

/-- Red text. -/
def red (s : Style) : String → String := s.mark "31"

/-- Green text. -/
def green (s : Style) : String → String := s.mark "32"

/-- Yellow text. -/
def yellow (s : Style) : String → String := s.mark "33"

/-- Cyan text. -/
def cyan (s : Style) : String → String := s.mark "36"

/-- Bold text. -/
def bold (s : Style) : String → String := s.mark "1"

/-- Faint text. -/
def dim (s : Style) : String → String := s.mark "2"

end Style

/-- A text with spaces after it up to a width. -/
def padRight (width : Nat) (s : String) : String :=
  s ++ String.ofList (List.replicate (width - s.length) ' ')

/-- A text with spaces before it up to a width. -/
def padLeft (width : Nat) (s : String) : String :=
  String.ofList (List.replicate (width - s.length) ' ') ++ s

/-- Lines as one text. -/
def joinLines (l : List String) : String := "\n".intercalate l

end PointerTrace.Report
