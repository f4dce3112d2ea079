import PointerTrace.Decimal.Literal

/- The arguments of a command, split into options, their values and operands. An argument that starts
   with a dash is an option when its name is known; a long name may be cut short as long as only one
   name starts that way, a value may follow an equals sign, and letters of short options that take
   no value may stand together after one dash, with or without an equals sign after the first.
   Negative numbers, and unknown names with a space in them, are operands; so is everything after a
   lone pair of dashes. -/
namespace PointerTrace.CommandLine

/-- The options of all commands. -/
inductive Flag where
  | help
  | version
  | verbose
  | config
  | format
  | externalValue
  | names
  | force
  deriving DecidableEq, Repr

/-- How many values an option takes. -/
inductive Arity where
  | none
  | one
  | many
  deriving DecidableEq, Repr

/-- The number of values of each option. -/
def Flag.arity : Flag → Arity
  | .help | .version | .verbose | .force => .none
  | .config | .format | .externalValue => .one
  | .names => .many

/-- The written names of the options that a command knows. -/
abbrev Names := List (String × Flag)

/-- Why arguments cannot be split. -/
inductive ArgumentFault where
  | ambiguous (argument : String)
  | valueMissing (argument : String)
  | valueUnwanted (argument : String)
  deriving DecidableEq, Repr

/-- What an argument is. Options that stand in one argument are in order, each with the value that
    the argument holds for it. -/
inductive Role where
  | operand
  | separator
  | options (l : List (Flag × Option String))
  | unknownOption
  | fault
  deriving DecidableEq, Repr

/-- An argument and what it is. -/
structure Word where
  text : String
  role : Role
  deriving DecidableEq, Repr

/-- Whether a character is a decimal digit of any script. -/
def isDigit (c : Char) : Bool := (Decimal.digitOf? c).any (· < 10)

/-- A negative whole number, or a negative decimal fraction, possibly with a line end after it. -/
def isNegativeNumber (cs : List Char) : Bool :=
  let body := if cs.getLast? = some '\n' then cs.dropLast else cs
  match body with
  | '-' :: rest =>
    match rest.dropWhile isDigit with
    | [] => !rest.isEmpty
    | '.' :: part => !part.isEmpty && part.all isDigit
    | _ => false
  | _ => false

/-- Whether an argument has the form of a long option. -/
def isLong (cs : List Char) : Bool := cs.take 2 = ['-', '-']

/-- Splits an argument at its first equals sign, if it has one. -/
def splitValue (cs : List Char) : List Char × Option (List Char) :=
  (cs.takeWhile (· ≠ '='), (cs.dropWhile (· ≠ '=')).tail?)

/-- The options that an argument may stand for when it is not a full name: long ones that start with
    it, or a short one followed by more. Each comes with the rest of the argument, if any: what
    follows an equals sign, or the further letters. -/
def candidates (names : Names) (cs : List Char) : List (Flag × Option (List Char)) :=
  if isLong cs then
    let (start, value) := splitValue cs
    (names.filter fun n => start.isPrefixOf n.1.toList).map fun n => (n.2, value)
  else
    (names.filter fun n => n.1.toList = cs.take 2).map fun n => (n.2, some (cs.drop 2))

/-- The options that letters stand for, after an option that takes no value. One that takes a value has
    the letters after it as its value; a letter that is no option is a fault. -/
def lettersRole (names : Names) (flag : Flag) : List Char → Role
  | [] => .options [(flag, none)]
  | c :: rest =>
    if flag.arity ≠ .none then .options [(flag, some (String.ofList (c :: rest)))]
    else match names.lookup (String.ofList ['-', c]) with
      | none => .fault
      | some next => match lettersRole names next rest with
        | .options l => .options ((flag, none) :: l)
        | role => role

/-- What an argument is, given its first option and the rest of the argument, if any. -/
def optionRole (names : Names) (isLong : Bool) (flag : Flag) : Option (List Char) → Role
  | none => .options [(flag, none)]
  | some rest =>
    if flag.arity ≠ .none then .options [(flag, some (String.ofList rest))]
    else if isLong || rest = [] then .fault
    else lettersRole names flag rest

/-- What an argument is whose name is known in full, possibly up to an equals sign. -/
def exactRole? (names : Names) (cs : List Char) : Option Role :=
  match names.lookup (String.ofList cs) with
  | some flag => some (.options [(flag, none)])
  | none =>
    match splitValue cs with
    | (start, some rest) =>
      (names.lookup (String.ofList start)).map fun flag =>
        optionRole names (isLong cs) flag (some rest)
    | (_, none) => none

/-- What an argument is. -/
def classify (names : Names) (text : String) : Except ArgumentFault Role :=
  let cs := text.toList
  if cs.head? ≠ some '-' || (cs.length = 1 && (names.lookup text).isNone) then .ok .operand
  else match exactRole? names cs with
    | some role => .ok role
    | none =>
      match candidates names cs with
      | [(flag, rest)] => .ok (optionRole names (isLong cs) flag rest)
      | _ :: _ :: _ => .error (.ambiguous text)
      | [] => .ok (if isNegativeNumber cs || cs.contains ' ' then .operand else .unknownOption)

/-- The words of a command's arguments. -/
def words (names : Names) : List String → Except ArgumentFault (List Word)
  | [] => .ok []
  | text :: rest =>
    if text = "--" then .ok (⟨text, .separator⟩ :: rest.map (⟨·, .operand⟩))
    else do
      let role ← classify names text
      return ⟨text, role⟩ :: (← words names rest)

/-- How many operands a command takes; all that remains may be those of another command. -/
inductive Operands where
  | none
  | one
  | rest
  deriving DecidableEq, Repr

/-- A part of a command. -/
inductive Item where
  | option (flag : Flag) (values : List String)
  | operand (text : String)
  | command (texts : List String)
  | extra (text : String)
  | fault (fault : ArgumentFault)
  deriving DecidableEq, Repr

/-- Leaves out a separator at the start. -/
def skipSeparator : List Word → List Word
  | ⟨_, .separator⟩ :: rest => rest
  | ws => ws

/-- Leaving out a separator leaves no more than there was. -/
theorem length_skipSeparator_le (ws : List Word) : (skipSeparator ws).length ≤ ws.length := by
  unfold skipSeparator
  split
  · exact Nat.le_succ _
  · exact Nat.le_refl _

/-- The values that an argument holds for its option: a pair of dashes alone is left out. -/
def heldValues (value : String) : List String := if value = "--" then [] else [value]

/-- The items of the options in one argument, and how many arguments after it are values of the
    last one. -/
def optionItems (text : String) (after : List Word) :
    List (Flag × Option String) → List Item × Nat
  | [] => ([], 0)
  | [(flag, some value)] => ([.option flag (heldValues value)], 0)
  | [(flag, none)] =>
    let values := (after.takeWhile (·.role = .operand)).map Word.text
    match flag.arity, values with
    | .none, _ => ([.option flag []], 0)
    | _, [] => ([.fault (.valueMissing text)], 0)
    | .one, value :: _ => ([.option flag [value]], 1)
    | .many, values => ([.option flag values], values.length)
  | (flag, _) :: rest =>
    let (items, count) := optionItems text after rest
    (.option flag [] :: items, count)

/-- The items of a command's words. A separator with nothing after it names no other command. -/
def itemsOf (operands : Operands) (ws : List Word) : List Item :=
  match ws with
  | [] => []
  | w :: rest =>
    match w.role, operands with
    | .fault, _ => [.fault (.valueUnwanted w.text)]
    | .options l, _ =>
      let (items, count) := optionItems w.text rest l
      items ++ itemsOf operands (rest.drop count)
    | .unknownOption, _ => .extra w.text :: itemsOf operands rest
    | role, .rest =>
      if role = .separator && rest.isEmpty then [.extra w.text]
      else [.command ((w :: rest).map Word.text)]
    | .operand, .one =>
      have := length_skipSeparator_le rest
      .operand w.text :: itemsOf .none (skipSeparator rest)
    | .separator, .one => itemsOf .one rest
    | _, .none => .extra w.text :: itemsOf .none rest
termination_by ws.length
decreasing_by all_goals simp only [List.length_cons, List.length_drop]; omega

/-- The items of a command's arguments. -/
def items (names : Names) (operands : Operands) (arguments : List String) : List Item :=
  match words names arguments with
  | .ok ws => itemsOf operands ws
  | .error fault => [.fault fault]

end PointerTrace.CommandLine
