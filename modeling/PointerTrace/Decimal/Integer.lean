/- Whole numbers in decimal: writing them, and the value of a run of digits. A literal may have at
   most `literalLimit` digits, leading zeros counted; a longer one is refused, not read, and a number
   of more digits is not written either. -/
namespace PointerTrace.Decimal

/-- The digit character of a number below ten. -/
def digitChar (d : Nat) : Char := Char.ofNat (48 + d)

/-- The number that an ASCII digit stands for. -/
def digitValue (c : Char) : Nat := c.toNat - 48

/-- Writes the digits of a number in front of other characters. -/
def digitsOnto (n : Nat) (rest : List Char) : List Char :=
  if n < 10 then digitChar n :: rest else digitsOnto (n / 10) (digitChar (n % 10) :: rest)

/-- The digits of a number, without leading zeros. -/
def digits (n : Nat) : List Char := digitsOnto n []

/-- The number that a run of digits stands for. -/
def value (cs : List Char) : Nat := cs.foldl (fun n c => 10 * n + digitValue c) 0

/-- A number without sign in decimal. -/
def ofNat (n : Nat) : String := String.ofList (digits n)

/-- A whole number in decimal, negative ones with a minus sign. -/
def ofInt : Int → String
  | .ofNat n => ofNat n
  | .negSucc n => "-" ++ ofNat (n + 1)

/-- The most digits a literal may have. -/
def literalLimit : Nat := 4300

/-- Reads a run of digits, or reports how many there are when they are too many. -/
def literal (cs : List Char) : Except Nat Nat :=
  if literalLimit < cs.length then .error cs.length else .ok (value cs)

/-- Whether a number has few enough digits to be written. -/
def isWritable (n : Int) : Bool := n.natAbs < Nat.pow 10 literalLimit

/-- The start of what is said about a number with too many digits. -/
def limitNotice : String :=
  "Exceeds the limit (" ++ ofNat literalLimit ++ " digits) for integer string conversion"

/-- Advice on numbers with too many digits. -/
def limitAdvice : String := "; use sys.set_int_max_str_digits() to increase the limit"

/-- What is said about a number that has too many digits to be written. -/
def unwritableMessage : String := limitNotice ++ limitAdvice

/-- What is said about a literal of some number of digits, which are too many. -/
def tooLongMessage (count : Nat) : String :=
  limitNotice ++ ": value has " ++ ofNat count ++ " digits" ++ limitAdvice

/-- Writing in front of characters is writing, then appending. -/
theorem digitsOnto_eq (n : Nat) (rest : List Char) : digitsOnto n rest = digits n ++ rest := by
  induction n using Nat.strongRecOn generalizing rest with
  | _ n ih =>
    by_cases h : n < 10
    · simp [digits, digitsOnto, h]
    · have onto (r : List Char) : digitsOnto n r = digits (n / 10) ++ digitChar (n % 10) :: r := by
        rw [digitsOnto, if_neg h, ih (n / 10) (by omega)]
      simp [digits, onto]

/-- Written text has at least one digit. -/
theorem digits_ne_nil (n : Nat) : digits n ≠ [] := by
  rw [digits, digitsOnto]
  split
  · simp
  · rw [digitsOnto_eq]; simp

end PointerTrace.Decimal
