import PointerTrace.Decimal.Integer

/- Numbers in decimal and what their digits stand for: written digits are read back as the number
   (`value_digits`), and a number below a power of ten has no more digits than its exponent
   (`length_digits`). -/
namespace PointerTrace.Decimal

variable {n d k : Nat}

theorem digits_of_lt (small : n < 10) : digits n = [digitChar n] := by
  rw [digits, digitsOnto, if_pos small]

/-- The last digit is the remainder, the digits before it are those of the quotient. -/
theorem digits_of_ge (large : 10 ≤ n) : digits n = digits (n / 10) ++ [digitChar (n % 10)] := by
  rw [digits, digitsOnto, if_neg (Nat.not_lt.mpr large), digitsOnto_eq]

theorem digitValue_digitChar (single : d < 10) : digitValue (digitChar d) = d := by
  have all : ∀ d < 10, digitValue (digitChar d) = d := by decide
  exact all d single

theorem isDigit_digitChar (single : d < 10) : (digitChar d).isDigit = true := by
  have all : ∀ d < 10, (digitChar d).isDigit = true := by decide
  exact all d single

/-- Written digits are read back as the number. -/
theorem value_digits (n : Nat) : value (digits n) = n := by
  induction n using Nat.strongRecOn with
  | _ n ih =>
    by_cases small : n < 10
    · rw [digits_of_lt small]
      show 10 * 0 + digitValue (digitChar n) = n
      rw [digitValue_digitChar small, Nat.mul_zero, Nat.zero_add]
    · have before := ih (n / 10) (by omega)
      rw [digits_of_ge (Nat.not_lt.mp small), value, List.foldl_append]
      show 10 * value (digits (n / 10)) + digitValue (digitChar (n % 10)) = n
      rw [before, digitValue_digitChar (Nat.mod_lt n (by decide))]
      exact Nat.div_add_mod n 10

theorem value_ofNat (n : Nat) : value (ofNat n).toList = n := by
  rw [ofNat, String.toList_ofList, value_digits]

theorem isDigit_of_mem_digits {c : Char} (inside : c ∈ digits n) : c.isDigit = true := by
  induction n using Nat.strongRecOn with
  | _ n ih =>
    by_cases small : n < 10
    · rw [digits_of_lt small, List.mem_singleton] at inside
      rw [inside]
      exact isDigit_digitChar small
    · rw [digits_of_ge (Nat.not_lt.mp small), List.mem_append, List.mem_singleton] at inside
      rcases inside with before | rfl
      · exact ih (n / 10) (by omega) before
      · exact isDigit_digitChar (Nat.mod_lt n (by decide))

theorem length_digits (positive : 0 < k) (small : n < Nat.pow 10 k) : (digits n).length ≤ k := by
  induction k generalizing n with
  | zero => cases positive
  | succ k ih =>
    by_cases single : n < 10
    · rw [digits_of_lt single]
      exact Nat.le_add_left 1 k
    · have fewer : n / 10 < Nat.pow 10 k :=
        Nat.div_lt_of_lt_mul (by rw [Nat.mul_comm]; exact small)
      have positive : 0 < k := by
        rcases Nat.eq_zero_or_pos k with rfl | positive
        · exact absurd small single
        · exact positive
      rw [digits_of_ge (Nat.not_lt.mp single), List.length_append]
      exact Nat.succ_le_succ (ih positive fewer)

/-- A number that may be written has no more digits than a literal may have. -/
theorem length_digits_of_isWritable {n : Int} (writable : isWritable n = true) :
    (digits n.natAbs).length ≤ literalLimit :=
  length_digits (by decide) (of_decide_eq_true writable)

/-- The least number that is too long to be written. -/
def tooLong : Int := .ofNat (Nat.pow 10 literalLimit)

theorem isWritable_tooLong : isWritable tooLong = false := by
  have bound : ∀ n : Nat, isWritable (.ofNat n) = decide (n < Nat.pow 10 literalLimit) :=
    fun _ => rfl
  rw [tooLong, bound, decide_eq_false (Nat.lt_irrefl _)]

end PointerTrace.Decimal
