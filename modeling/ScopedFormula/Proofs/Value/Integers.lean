import ScopedFormula.Proofs.Value.Exact

/- The operators on integers against the exact operations. A remainder is refused with its
   quotient, and a power for its exponent alone, so a few results that an integer could hold are
   refused; all others are exact. -/
namespace ScopedFormula

variable {a b : Int64} {k : TokenKind} {n : Int}

theorem exact_integer {op : String} {r : Except Failure Value} {m : Int64}
    (h : ExactInteger op n r) (same : m.toInt = n) : r = .ok (.integer m) :=
  exact_item h (fun _ _ => Int64.toInt_inj.mp) same

theorem toInt_eq_zero : b.toInt = 0 ↔ b = 0 := Int64.toInt_inj (y := 0)

theorem small_iff : a.toInt.natAbs < 2 ↔ a = 0 ∨ a = 1 ∨ a = -1 := by
  have zero : a = 0 ↔ a.toInt = 0 := toInt_eq_zero.symm
  have one : a = 1 ↔ a.toInt = 1 := Int64.toInt_inj.symm
  have minusOne : a = -1 ↔ a.toInt = -1 := Int64.toInt_inj.symm
  rw [zero, one, minusOne]
  omega

theorem tmod_between (x y : Int) : 0 ≤ x.tmod y ∧ x.tmod y ≤ x ∨ x ≤ x.tmod y ∧ x.tmod y ≤ 0 := by
  have size : (x.tmod y).natAbs ≤ x.natAbs := by
    rw [Int.natAbs_tmod]
    exact Nat.mod_le _ _
  rcases Int.le_total 0 x with up | down
  · have := Int.tmod_nonneg y up
    omega
  · have := Int.tmod_nonneg y (Int.neg_nonneg_of_nonpos down)
    rw [Int.neg_tmod] at this
    omega

theorem tmod_sign (x y : Int) : x.tmod y = 0 ∨ (x.tmod y).sign = x.sign := by
  rcases Int.lt_trichotomy (x.tmod y) 0 with down | zero | up
  · have negative : x < 0 := by
      rcases tmod_between x y with between | between <;> omega
    exact .inr ((Int.sign_eq_neg_one_of_neg down).trans (Int.sign_eq_neg_one_of_neg negative).symm)
  · exact .inl zero
  · have positive : 0 < x := by
      rcases tmod_between x y with between | between <;> omega
    exact .inr ((Int.sign_eq_one_of_pos up).trans (Int.sign_eq_one_of_pos positive).symm)

theorem remainder_held (a : Int64) (y : Int) : ∃ r : Int64, r.toInt = a.toInt.tmod y := by
  have low := a.le_toInt
  have high := a.toInt_lt
  refine exists_toInt_iff.mpr ?_
  rcases tmod_between a.toInt y with between | between <;> omega

theorem quotient_held_iff : (∃ q : Int64, q.toInt = a.toInt.tdiv b.toInt) ↔
    ¬ (a = Int64.minValue ∧ b = -1) := by
  have low := a.le_toInt
  have high := a.toInt_lt
  have least : a = Int64.minValue ↔ a.toInt = -2 ^ 63 := Int64.toInt_inj.symm
  have minusOne : b = -1 ↔ b.toInt = -1 := Int64.toInt_inj.symm
  rw [exists_toInt_iff, least, minusOne]
  rcases Nat.lt_or_ge b.toInt.natAbs 2 with small | large
  · have either : b.toInt = 0 ∨ b.toInt = 1 ∨ b.toInt = -1 := by omega
    rcases either with same | same | same
    · rw [same, Int.tdiv_zero]
      omega
    · rw [same, Int.tdiv_one]
      omega
    · rw [same, Int.tdiv_neg, Int.tdiv_one]
      omega
  · have half : (a.toInt.tdiv b.toInt).natAbs ≤ a.toInt.natAbs / 2 := by
      rw [Int.natAbs_tdiv]
      exact Nat.div_le_div_left large (by decide)
    omega

theorem pow_parity {x : Int} (small : x.natAbs < 2) {i j : Nat} (parity : i % 2 = j % 2)
    (hi : 0 < i) (hj : 0 < j) : x ^ i = x ^ j := by
  have either : x = 0 ∨ x = 1 ∨ x = -1 := by omega
  rcases either with rfl | rfl | rfl
  · rw [Int.zero_pow (Nat.ne_of_gt hi), Int.zero_pow (Nat.ne_of_gt hj)]
  · rw [Int.one_pow, Int.one_pow]
  · have square : ∀ k : Nat, (-1 : Int) ^ k = (-1) ^ (k % 2) := by
      intro k
      have split : (-1 : Int) ^ (2 * (k / 2) + k % 2) = (-1) ^ (k % 2) := by
        have two : (-1 : Int) ^ 2 = 1 := rfl
        rw [Int.pow_add, Int.pow_mul, two, Int.one_pow, Int.one_mul]
      rwa [Nat.div_add_mod] at split
    rw [square i, square j, parity]

theorem small_power_held {x : Int} (small : x.natAbs < 2) (i : Nat) :
    ∃ m : Int64, m.toInt = x ^ i := by
  have size : (x ^ i).natAbs ≤ 1 := by
    rw [Int.natAbs_pow, ← Nat.one_pow i]
    exact Nat.pow_le_pow_left (Nat.le_of_lt_succ small) i
  exact exists_toInt_iff.mpr (by omega)

theorem pow_large {x : Int} (large : 2 ≤ x.natAbs) {i : Nat} (high : 64 ≤ i) (m : Int64) :
    m.toInt ≠ x ^ i := by
  intro same
  have size : 2 ^ 64 ≤ (x ^ i).natAbs := by
    rw [Int.natAbs_pow]
    exact Nat.le_trans (Nat.pow_le_pow_right (by decide) high) (Nat.pow_le_pow_left large i)
  have := m.le_toInt
  have := m.toInt_lt
  omega

theorem integerPower_exact (x : Int) (i : Nat) (admitted : i < 2 ^ (32 : Nat) ∨ 2 ≤ x.natAbs) :
    ExactInteger "**" (x ^ i) (integerPower x i) := by
  have limit : exponentLimit = 2 ^ 32 := rfl
  rw [integerPower, limit]
  split
  · rename_i high
    have large : 2 ≤ x.natAbs := admitted.resolve_left (Nat.not_lt.mpr high)
    exact .inr ⟨pow_large large (by omega), rfl⟩
  · split
    · exact checked_exact _ _
    · rename_i high
      rcases Nat.lt_or_ge x.natAbs 2 with small | large
      · rw [pow_parity (j := 64 + i % 2) small (by omega) (by omega) (by omega)]
        exact checked_exact _ _
      · -- neither the power nor the one computed in its place is in range
        rcases checked_exact "**" (x ^ (64 + i % 2)) with ⟨m, same, -⟩ | ⟨-, given⟩
        · exact absurd same (pow_large large (by omega) m)
        · exact .inr ⟨pow_large large (by omega), given⟩

/-- The exact result of an operator on integers, where it is an integer: a quotient is cut toward
    zero, and a remainder is what it leaves. -/
def ideal? : TokenKind → Int → Int → Option Int
  | .plus, x, y => some (x + y)
  | .minus, x, y => some (x - y)
  | .asterisk, x, y => some (x * y)
  | .slash, x, y => if y = 0 then none else some (x.tdiv y)
  | .percent, x, y => if y = 0 then none else some (x.tmod y)
  | .power, x, y => if y < 0 then none else some (x ^ y.toNat)
  | _, _, _ => none

/-- The operands that are refused although an integer holds their exact result: those of the
    remainder whose quotient is the one out of range, and 0, 1 or -1 to an exponent of more than
    32 bits. -/
def Denied (k : TokenKind) (a b : Int64) : Prop :=
  k = .percent ∧ a = Int64.minValue ∧ b = -1 ∨
    k = .power ∧ 2 ^ (32 : Nat) ≤ b.toInt ∧ (a = 0 ∨ a = 1 ∨ a = -1)

instance : Decidable (Denied k a b) := inferInstanceAs (Decidable (_ ∨ _))

theorem negate_exact (a : Int64) : ExactInteger "-" (-a.toInt) ((Value.integer a).unary .minus) :=
  checked_exact _ _

theorem quotient_exact (other : b ≠ 0) :
    ExactInteger "/" (a.toInt.tdiv b.toInt) ((Value.integer a).binary .slash (.integer b)) := by
  have given : (Value.integer a).binary .slash (.integer b) =
      checked "/" (a.toInt.tdiv b.toInt) := if_neg other
  rw [given]
  exact checked_exact _ _

theorem remainder_given (other : b ≠ 0) :
    (Value.integer a).binary .percent (.integer b) =
      if a = Int64.minValue ∧ b = -1 then .error (.overflow "%")
      else checked "%" (a.toInt.tmod b.toInt) := by
  have given : (Value.integer a).binary .percent (.integer b) =
      (checked "%" (a.toInt.tdiv b.toInt) >>= fun _ => checked "%" (a.toInt.tmod b.toInt)) :=
    if_neg other
  rw [given]
  rcases checked_exact "%" (a.toInt.tdiv b.toInt) with ⟨q, same, done⟩ | ⟨none, fails⟩
  · rw [done, if_neg (quotient_held_iff.mp ⟨q, same⟩)]
    rfl
  · have least : a = Int64.minValue ∧ b = -1 :=
      Decidable.of_not_not fun other => (quotient_held_iff.mpr other).elim none
    rw [fails, if_pos least]
    rfl

theorem power_given (positive : ¬ b.toInt < 0) :
    (Value.integer a).binary .power (.integer b) = integerPower a.toInt b.toInt.toNat := by
  have positive : ¬ b < 0 := fun less => positive (Int64.lt_iff_toInt_lt.mp less)
  exact if_neg positive

theorem binary_exact (known : ideal? k a.toInt b.toInt = some n) (allowed : ¬ Denied k a b) :
    ExactInteger k.text n ((Value.integer a).binary k (.integer b)) := by
  unfold ideal? at known
  split at known
  · cases known
    exact checked_exact _ _
  · cases known
    exact checked_exact _ _
  · cases known
    exact checked_exact _ _
  · split at known
    · contradiction
    · rename_i other
      cases known
      exact quotient_exact (other ∘ toInt_eq_zero.mpr)
  · split at known
    · contradiction
    · rename_i other
      cases known
      have usual : ¬ (a = Int64.minValue ∧ b = -1) := fun least => allowed (.inl ⟨rfl, least⟩)
      rw [remainder_given (other ∘ toInt_eq_zero.mpr), if_neg usual]
      exact checked_exact _ _
  · split at known
    · contradiction
    · rename_i positive
      cases known
      rw [power_given positive]
      rcases Nat.lt_or_ge a.toInt.natAbs 2 with small | large
      · have low : ¬ 2 ^ 32 ≤ b.toInt :=
          fun high => allowed (.inr ⟨rfl, high, small_iff.mp small⟩)
        exact integerPower_exact _ _ (.inl (by omega))
      · exact integerPower_exact _ _ (.inr large)
  · contradiction

theorem binary_denied (known : ideal? k a.toInt b.toInt = some n) (denied : Denied k a b) :
    (Value.integer a).binary k (.integer b) = .error (.overflow k.text) ∧
      ∃ m : Int64, m.toInt = n := by
  rcases denied with ⟨rfl, least⟩ | ⟨rfl, high, small⟩
  · have other : b ≠ 0 := by
      rw [least.2]
      decide
    rw [ideal?, if_neg (other ∘ toInt_eq_zero.mp)] at known
    cases known
    rw [remainder_given other, if_pos least]
    exact ⟨rfl, remainder_held a b.toInt⟩
  · have positive : ¬ b.toInt < 0 := by omega
    have limit : exponentLimit = 2 ^ 32 := rfl
    have high : exponentLimit ≤ b.toInt.toNat := by omega
    rw [ideal?, if_neg positive] at known
    cases known
    rw [power_given positive, integerPower, if_pos high]
    exact ⟨rfl, small_power_held (small_iff.mpr small) _⟩

def recomposed (a b : Expr) : Expr :=
  .binary
    (.binary (.grouping (.binary a ⟨.slash, "/", 3, none⟩ b)) ⟨.asterisk, "*", 8, none⟩ b)
    ⟨.plus, "+", 12, none⟩ (.binary a ⟨.percent, "%", 16, none⟩ b)

variable {v : Value}

theorem divisor_of_quotient (done : (Value.integer a).binary .slash (.integer b) = .ok v) :
    b ≠ 0 := by
  rintro rfl
  exact nomatch done

theorem quotient_recomposes (done : (Value.integer a).binary .slash (.integer b) = .ok v) :
    ∃ m r : Int64, v.binary .asterisk (.integer b) = .ok (.integer m) ∧
      (Value.integer a).binary .percent (.integer b) = .ok (.integer r) ∧
      r.toInt = a.toInt.tmod b.toInt ∧
      (Value.integer m).binary .plus (.integer r) = .ok (.integer a) := by
  have other := divisor_of_quotient done
  obtain ⟨q, quotient, rfl⟩ := exact_ok (quotient_exact other) done
  have whole : q.toInt * b.toInt + a.toInt.tmod b.toInt = a.toInt := by
    rw [quotient, Int.tdiv_mul_add_tmod]
  obtain ⟨r, remainder⟩ := remainder_held a b.toInt
  obtain ⟨m, product⟩ : ∃ m : Int64, m.toInt = q.toInt * b.toInt := by
    have low := a.le_toInt
    have high := a.toInt_lt
    refine exists_toInt_iff.mpr ?_
    rcases tmod_between a.toInt b.toInt with between | between <;> omega
  refine ⟨m, r, exact_integer (checked_exact _ _) product, ?_, remainder, ?_⟩
  · rw [remainder_given other, if_neg (quotient_held_iff.mp ⟨q, quotient⟩)]
    exact exact_integer (checked_exact _ _) remainder
  · refine exact_integer (checked_exact _ _) ?_
    rw [product, remainder, whole]

/-- The operators on integers give the exact result if an integer holds it. -/
theorem integer_operators (a b : Int64) :
    ExactInteger "+" (a.toInt + b.toInt) ((Value.integer a).binary .plus (.integer b)) ∧
    ExactInteger "-" (a.toInt - b.toInt) ((Value.integer a).binary .minus (.integer b)) ∧
    ExactInteger "*" (a.toInt * b.toInt) ((Value.integer a).binary .asterisk (.integer b)) ∧
    ExactInteger "-" (-a.toInt) ((Value.integer a).unary .minus) ∧
    (Value.integer a).binary .slash (.integer 0) = .error .divisionByZero ∧
    (Value.integer a).binary .percent (.integer 0) = .error .divisionByZero ∧
    (b ≠ 0 →
      ExactInteger "/" (a.toInt.tdiv b.toInt) ((Value.integer a).binary .slash (.integer b))) ∧
    (0 ≤ b.toInt → b.toInt < 2 ^ (32 : Nat) → ExactInteger "**" (a.toInt ^ b.toInt.toNat)
      ((Value.integer a).binary .power (.integer b))) ∧
    ∀ v, (Value.integer a).binary .slash (.integer b) = .ok v →
      (∃ r : Int64, (Value.integer a).binary .percent (.integer b) = .ok (.integer r) ∧
        (r.toInt = 0 ∨ r.toInt.sign = a.toInt.sign) ∧ r.toInt.natAbs < b.toInt.natAbs) ∧
      ∀ perform scope st x y, AmountsTo perform scope st x (.integer a) →
        AmountsTo perform scope st y (.integer b) →
        AmountsTo perform scope st (recomposed x y) (.integer a) := by
  refine ⟨checked_exact _ _, checked_exact _ _, checked_exact _ _, negate_exact a, rfl, rfl,
    quotient_exact, ?_, ?_⟩
  · intro positive small
    rw [power_given (Int.not_lt.mpr positive)]
    exact integerPower_exact _ _ (.inl (by omega))
  · intro v done
    obtain ⟨m, r, product, remainder, value, sum⟩ := quotient_recomposes done
    refine ⟨⟨r, remainder, ?_, ?_⟩, ?_⟩
    · rw [value]
      exact tmod_sign _ _
    · have size : 0 < b.toInt.natAbs :=
        Int.natAbs_pos.mpr (divisor_of_quotient done ∘ toInt_eq_zero.mp)
      rw [value, Int.natAbs_tmod]
      exact Nat.mod_lt _ size
    · intro perform scope st x y left right
      have quotient := amounts_grouping (amounts_binary left right ⟨.slash, "/", 3, none⟩ done)
      have whole := amounts_binary quotient right ⟨.asterisk, "*", 8, none⟩ product
      have rest := amounts_binary left right ⟨.percent, "%", 16, none⟩ remainder
      exact amounts_binary whole rest ⟨.plus, "+", 12, none⟩ sum

def leastPower : Store :=
  ⟨[⟨[("a", .value (.integer (-2))), ("b", .value (.integer 63))], [], none⟩], [], [], 0, []⟩

theorem integer_operators_least :
    (-2 : Int64) ≠ 0 ∧ (0 ≤ (63 : Int64).toInt ∧ (63 : Int64).toInt < 2 ^ (32 : Nat)) ∧
    (Value.integer (-2)).binary .power (.integer 63) = .ok (.integer Int64.minValue) ∧
    (Value.integer (-2)).binary .slash (.integer 63) = .ok (.integer 0) ∧
    evaluate 0 "(a / b) * b + a % b" leastPower = (.ok (.integer (-2)), leastPower) := by
  obtain ⟨-, -, -, -, -, -, quotient, power, whole⟩ := integer_operators (-2) 63
  have divided : (Value.integer (-2)).binary .slash (.integer 63) = .ok (.integer 0) :=
    exact_integer (quotient (by decide)) (by decide)
  have reads : read "(a / b) * b + a % b" = .ok (recomposed (.name "a") (.name "b")) := by cbv
  have left : AmountsTo Action.run 0 leastPower (.name "a") (.integer (-2)) :=
    amounts_name (by rw [Store.binding?, Store.resolve]; rfl)
  have right : AmountsTo Action.run 0 leastPower (.name "b") (.integer 63) :=
    amounts_name (by rw [Store.binding?, Store.resolve]; rfl)
  refine ⟨by decide, by decide, exact_integer (power (by decide) (by decide)) (by decide),
    divided, ?_⟩
  rw [evaluate_of_read reads]
  exact (whole _ divided).2 Action.run 0 leastPower _ _ left right

/-- An operator on integers that has an exact result gives it, or overflows because no integer holds
    it, but for the operands denied: they overflow too, and an integer would hold the result. An
    opposite is never denied. -/
theorem overflow_denied (known : ideal? k a.toInt b.toInt = some n) :
    (¬ Denied k a b → ExactInteger k.text n ((Value.integer a).binary k (.integer b))) ∧
    (Denied k a b ↔ (Value.integer a).binary k (.integer b) = .error (.overflow k.text) ∧
      ∃ m : Int64, m.toInt = n) ∧
    ∀ c : Int64, ExactInteger "-" (-c.toInt) ((Value.integer c).unary .minus) := by
  refine ⟨binary_exact known, ⟨binary_denied known, ?_⟩, negate_exact⟩
  rintro ⟨fails, m, held⟩
  refine Decidable.of_not_not fun allowed => ?_
  exact exact_error (binary_exact known allowed) fails m held

theorem overflow_denied_sum :
    ideal? .plus Int64.maxValue.toInt (1 : Int64).toInt = some 9223372036854775808 ∧
    ¬ Denied .plus Int64.maxValue 1 ∧
    (Value.integer Int64.maxValue).binary .plus (.integer 1) = .error (.overflow "+") := by
  have known : ideal? .plus Int64.maxValue.toInt (1 : Int64).toInt =
      some 9223372036854775808 := by decide
  have allowed : ¬ Denied .plus Int64.maxValue 1 := by decide
  rcases (overflow_denied known).1 allowed with ⟨m, same, -⟩ | ⟨-, fails⟩
  · exact absurd same (Int.ne_of_lt m.toInt_lt)
  · exact ⟨known, allowed, fails⟩

/-- The remainder of the least integer by -1 is 0, and 1 is 1 to any exponent. -/
theorem overflow_without_need :
    (ideal? .percent Int64.minValue.toInt (-1 : Int64).toInt = some (0 : Int64).toInt ∧
      (Value.integer Int64.minValue).binary .percent (.integer (-1)) = .error (.overflow "%")) ∧
    ideal? .power (1 : Int64).toInt (4294967296 : Int64).toInt = some (1 : Int64).toInt ∧
      (Value.integer 1).binary .power (.integer 4294967296) = .error (.overflow "**") := by
  refine ⟨⟨by decide, rfl⟩, ?_, rfl⟩
  exact congrArg some (Int.one_pow)

end ScopedFormula
