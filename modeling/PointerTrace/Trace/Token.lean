import PointerTrace.Program.Issue
import PointerTrace.Text.Letter

/- Tokens of the trace language and how a text is cut into them. Blanks and comments stand between
   tokens; a line feed is a token, since it ends a statement. A token is the longest piece of its
   class at its place. The place of a token counts code points, and only a line feed starts a new
   line. -/
namespace PointerTrace.Trace

/-- What a token is. -/
inductive Symbol where
  | letWord
  | mutWord
  | asWord
  | constWord
  | number (digits : String)
  | name (text : String)
  | ampersand
  | star
  | minus
  | assign
  | doubleColon
  | leftParen
  | rightParen
  | colon
  | semicolon
  | newline
  | eof
  deriving DecidableEq, Repr

/-- The class of a token. -/
def Symbol.className : Symbol → String
  | .letWord => "LET"
  | .mutWord => "MUT"
  | .asWord => "AS"
  | .constWord => "CONST"
  | .number _ => "INT_LIT"
  | .name _ => "IDENT"
  | .ampersand => "AMP"
  | .star => "STAR"
  | .minus => "MINUS"
  | .assign => "ASSIGN"
  | .doubleColon => "DOUBLE_COLON"
  | .leftParen => "LPAREN"
  | .rightParen => "RPAREN"
  | .colon => "COLON"
  | .semicolon => "SEMICOLON"
  | .newline => "NEWLINE"
  | .eof => "EOF"

/-- The text of a token as messages give it; a line feed is shown by its escape, and a number
    without its underscores. -/
def Symbol.text : Symbol → String
  | .letWord => "let"
  | .mutWord => "mut"
  | .asWord => "as"
  | .constWord => "const"
  | .number digits => digits
  | .name text => text
  | .ampersand => "&"
  | .star => "*"
  | .minus => "-"
  | .assign => "="
  | .doubleColon => "::"
  | .leftParen => "("
  | .rightParen => ")"
  | .colon => ":"
  | .semicolon => ";"
  | .newline => "\\n"
  | .eof => ""

/-- Whether a token ends a statement. -/
def Symbol.endsStatement : Symbol → Bool
  | .semicolon | .newline | .eof => true
  | _ => false

/-- The token that a word is: a keyword or a name. -/
def Symbol.ofWord (word : String) : Symbol :=
  if word = "let" then .letWord
  else if word = "mut" then .mutWord
  else if word = "as" then .asWord
  else if word = "const" then .constWord
  else .name word

/-- The token that a single character is. -/
def Symbol.ofChar? : Char → Option Symbol
  | '&' => some .ampersand
  | '*' => some .star
  | '-' => some .minus
  | '=' => some .assign
  | '(' => some .leftParen
  | ')' => some .rightParen
  | ';' => some .semicolon
  | ':' => some .colon
  | '\n' => some .newline
  | _ => none

/-- A token and its place. -/
structure Token where
  symbol : Symbol
  location : Location
  deriving DecidableEq, Repr

/-- A token as messages show it. -/
def Token.text (t : Token) : String :=
  "Token(" ++ t.symbol.className ++ ", " ++ Text.quoted t.symbol.text ++ ", " ++ t.location.text ++
    ")"

/-- The tokens of a text: those before its end, and the one at its end. -/
structure Tokens where
  body : List Token
  finish : Token
  deriving DecidableEq, Repr

/-- All tokens in order. -/
def Tokens.toList (ts : Tokens) : List Token := ts.body ++ [ts.finish]

/-- A blank inside a line. -/
def isGap (c : Char) : Bool := c = ' ' || c = '\t' || c = '\r'

/-- A character of a number. -/
def continuesNumber (c : Char) : Bool := c.isDigit || c = '_'

/-- Whether a comment starts with a character that stands before others. -/
def startsComment (c : Char) (rest : List Char) : Bool :=
  c = '#' || (c = '/' && rest.head? = some '/')

/-- The piece of text at a place: how many characters it has after its first one, and the token
    that it is, none for a blank or a comment. Nothing when no piece starts here. -/
def piece? (c : Char) (rest : List Char) : Option (Nat × Option Symbol) :=
  if isGap c then some (0, none)
  else if startsComment c rest then some ((rest.takeWhile (· ≠ '\n')).length, none)
  else if c.isDigit then
    let more := rest.takeWhile continuesNumber
    some (more.length, some (.number (String.ofList ((c :: more).filter Char.isDigit))))
  else if Text.startsName c then
    let more := rest.takeWhile Text.continuesName
    some (more.length, some (.ofWord (String.ofList (c :: more))))
  else if c = ':' && rest.head? = some ':' then some (1, some .doubleColon)
  else (Symbol.ofChar? c).map fun s => (0, some s)

/-- The place after a code point. -/
def after (l : Location) (n : Nat) : Location :=
  if n = '\n'.toNat then { l with line := l.line + 1, column := 1 } else { l with column := l.column + 1 }

/-- The tokens of the rest of a text that starts at a place, or the first code point at which no
    piece starts. -/
def tokensFrom (place : Location) (cs : List Char) : Except Issue Tokens :=
  match cs with
  | [] => .ok ⟨[], ⟨.eof, place⟩⟩
  | c :: rest =>
    match piece? c rest with
    | none => .error (.ofSyntax (.unexpectedCharacter (Text.first (c :: rest))) (some place))
    | some (more, symbol?) => do
      let later ← tokensFrom ((Text.codePoints (c :: rest.take more)).foldl after place) (rest.drop more)
      match symbol? with
      | some symbol => return { later with body := ⟨symbol, place⟩ :: later.body }
      | none => return later
termination_by cs.length
decreasing_by simp only [List.length_cons, List.length_drop]; omega

/-- The tokens of a text. -/
def tokenize (source file : String) : Except Issue Tokens :=
  tokensFrom ⟨1, 1, file⟩ source.toList

end PointerTrace.Trace
