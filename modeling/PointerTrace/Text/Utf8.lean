/- Reading bytes as UTF-8. A sequence that is not well formed is refused with the bytes at fault
   and the reason: a byte that starts no sequence, a sequence that a wrong byte cuts short, or
   one that the end of the data cuts short. -/
namespace PointerTrace.Text.Utf8

/-- Why bytes are not UTF-8. -/
inductive Reason where
  | invalidStart
  | invalidContinuation
  | unexpectedEnd
  deriving DecidableEq, Repr

/-- The wording of a reason. -/
def Reason.text : Reason → String
  | .invalidStart => "invalid start byte"
  | .invalidContinuation => "invalid continuation byte"
  | .unexpectedEnd => "unexpected end of data"

/-- The first ill-formed sequence: where it starts, its bytes, and what is wrong with it. -/
structure Fault where
  start : Nat
  bytes : List Nat
  reason : Reason
  deriving DecidableEq, Repr

/-- How many bytes follow a first byte, and the range that the second byte must lie in, which is
    narrower than that of continuation bytes where a wider one would allow overlong forms,
    surrogates or numbers above the last code point. -/
def lead? (b : Nat) : Option (Nat × Nat × Nat) :=
  if 0xC2 ≤ b && b < 0xE0 then some (1, 0x80, 0xBF)
  else if b = 0xE0 then some (2, 0xA0, 0xBF)
  else if b = 0xED then some (2, 0x80, 0x9F)
  else if 0xE1 ≤ b && b < 0xF0 then some (2, 0x80, 0xBF)
  else if b = 0xF0 then some (3, 0x90, 0xBF)
  else if 0xF1 ≤ b && b < 0xF4 then some (3, 0x80, 0xBF)
  else if b = 0xF4 then some (3, 0x80, 0x8F)
  else none

/-- The bits of a first byte that belong to the code point, by the number of bytes that follow. -/
def leadBits (more b : Nat) : Nat :=
  match more with
  | 1 => b % 0x20
  | 2 => b % 0x10
  | _ => b % 0x08

/-- Takes `more` further bytes, the next one within the given range and the others continuation
    bytes, into a code point; on failure reports the bytes accepted and the reason. -/
def continuation : Nat → Nat × Nat → Nat → List Nat → List Nat →
    Except (List Nat × Reason) (Nat × List Nat)
  | 0, _, point, _, rest => .ok (point, rest)
  | _ + 1, _, _, taken, [] => .error (taken.reverse, .unexpectedEnd)
  | more + 1, (low, high), point, taken, b :: rest =>
    if low ≤ b && b ≤ high then
      continuation more (0x80, 0xBF) (point * 64 + b % 64) (b :: taken) rest
    else .error (taken.reverse, .invalidContinuation)

/-- Taking bytes into a code point leaves no more than there was. -/
theorem length_le_of_continuation {more : Nat} {range : Nat × Nat} {point : Nat}
    {taken bytes : List Nat} {r : Nat × List Nat}
    (h : continuation more range point taken bytes = .ok r) : r.2.length ≤ bytes.length := by
  induction more generalizing range point taken bytes with
  | zero => simp only [continuation, Except.ok.injEq] at h; subst h; exact Nat.le_refl _
  | succ more ih =>
    obtain ⟨low, high⟩ := range
    cases bytes with
    | nil => simp [continuation] at h
    | cons b rest =>
      simp only [continuation] at h
      split at h
      · exact Nat.le_succ_of_le (ih h)
      · simp at h

/-- Reads bytes that start at a given offset. -/
def decodeFrom (offset : Nat) (bytes : List Nat) : Except Fault (List Char) :=
  match bytes with
  | [] => .ok []
  | b :: rest =>
    if b < 0x80 then (Char.ofNat b :: ·) <$> decodeFrom (offset + 1) rest
    else match lead? b with
      | none => .error ⟨offset, [b], .invalidStart⟩
      | some (more, range) =>
        match h : continuation more range (leadBits more b) [b] rest with
        | .error (taken, reason) => .error ⟨offset, taken, reason⟩
        | .ok (point, after) =>
          have : after.length ≤ rest.length := length_le_of_continuation h
          (Char.ofNat point :: ·) <$> decodeFrom (offset + more + 1) after
termination_by bytes.length
decreasing_by all_goals simp only [List.length_cons]; omega

/-- Reads bytes as UTF-8. -/
def decode (bytes : List Nat) : Except Fault (List Char) := decodeFrom 0 bytes

end PointerTrace.Text.Utf8
