/- Bytes written as text: each four letters of an alphabet of sixty-four hold three bytes, and equals
   signs fill up the last four. Other characters between the letters are passed over. -/
namespace PointerTrace.Document.Binary

/-- The six bits that a letter stands for. -/
def sextet? (c : Char) : Option Nat :=
  if 'A' ≤ c && c ≤ 'Z' then some (c.toNat - 65)
  else if 'a' ≤ c && c ≤ 'z' then some (c.toNat - 71)
  else if c.isDigit then some (c.toNat + 4)
  else if c = '+' then some 62
  else if c = '/' then some 63
  else none

/-- Reads letters with `count` of a group of four taken already, whose bits that are no byte yet are
    `carry`. Equals signs that fill the group up end the text; `signs` counts those met since the
    last letter. Nothing is read when the last group is not filled up. -/
def readFrom (count carry signs : Nat) : List Char → Option (List Nat)
  | [] => if count = 0 then some [] else none
  | c :: rest =>
    if c = '=' then
      if count < 2 then readFrom count carry signs rest
      else if 4 ≤ count + signs + 1 then some []
      else readFrom count carry (signs + 1) rest
    else match sextet? c with
      | none => readFrom count carry signs rest
      | some n => match count with
        | 0 => readFrom 1 n 0 rest
        | 1 => ((carry * 4 + n / 16) :: ·) <$> readFrom 2 (n % 16) 0 rest
        | 2 => ((carry * 16 + n / 4) :: ·) <$> readFrom 3 (n % 4) 0 rest
        | _ => ((carry * 64 + n) :: ·) <$> readFrom 0 0 0 rest

/-- The bytes that an ASCII text stands for. -/
def read? (cs : List Char) : Option (List Nat) :=
  if cs.all fun c => c.toNat < 128 then readFrom 0 0 0 cs else none

end PointerTrace.Document.Binary
