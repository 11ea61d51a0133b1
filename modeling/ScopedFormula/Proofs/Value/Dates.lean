import ScopedFormula.Proofs.Value.Comparisons
import ScopedFormula.Proofs.Value.Integers

/- Dates as the readings of a clock. Shifts and differences are exact in nanoseconds, and overflow
   when no reading or no integer shows the result. Two results are refused that could be shown: a
   shift back by the least integer, and a difference that is the least integer. -/
namespace ScopedFormula

/-- Whole seconds since the start of 1970, negative before it, and the nanoseconds since the last
    whole second. -/
structure Clock where
  seconds : Int64
  fraction : Fin 1000000000
  deriving DecidableEq

def Clock.nanos (c : Clock) : Int := c.seconds.toInt * 1000000000 + c.fraction.val

variable {c c' d : Clock} {n : Int64} {k : TokenKind}

theorem nanos_mk (s : Int64) (f : Nat) (less : f < 1000000000) :
    Clock.nanos ⟨s, f, less⟩ = s.toInt * 1000000000 + f :=
  rfl

theorem nanos_range (c : Clock) : Date.earliest ≤ c.nanos ∧ c.nanos ≤ Date.latest := by
  have low := c.seconds.le_toInt
  have high := c.seconds.toInt_lt
  have fraction := c.fraction.isLt
  unfold Date.earliest Date.latest Clock.nanos integerLimit
  omega

def Clock.date (c : Clock) : Date := ⟨c.nanos, (nanos_range c).1, (nanos_range c).2⟩

theorem clock_eq (same : c.nanos = c'.nanos) : c = c' := by
  obtain ⟨s, f, less⟩ := c
  obtain ⟨s', f', less'⟩ := c'
  rw [nanos_mk, nanos_mk] at same
  have seconds : s.toInt = s'.toInt := by omega
  obtain rfl : f = f' := by omega
  rw [Int64.toInt_inj.mp seconds]

theorem exists_clock (e : Date) : ∃ c : Clock, c.date = e := by
  have low := e.earliest_le
  have high := e.le_latest
  unfold Date.earliest integerLimit at low
  unfold Date.latest integerLimit at high
  obtain ⟨s, seconds⟩ : ∃ s : Int64, s.toInt = e.nanos / 1000000000 :=
    exists_toInt_iff.mpr (by omega)
  have less : (e.nanos % 1000000000).toNat < 1000000000 := by omega
  refine ⟨⟨s, _, less⟩, ?_⟩
  have same : Clock.nanos ⟨s, _, less⟩ = e.nanos := by
    rw [nanos_mk, seconds]
    omega
  unfold Clock.date
  congr

abbrev ExactDate (op : String) (n : Int) (r : Except Failure Value) : Prop :=
  Exact Clock.nanos (fun c => .date c.date) op n r

theorem exact_date {op : String} {n : Int} {r : Except Failure Value} (h : ExactDate op n r)
    (same : c.nanos = n) : r = .ok (.date c.date) := by
  -- stated first: against the goal, the date would be taken for the item
  have given := exact_item h (fun _ _ => clock_eq) same
  exact given

theorem dateShift_exact (op : Arithmetic) (c : Clock) (n : Int) :
    ExactDate op.symbol (c.nanos + n) (dateShift op c.date n) := by
  unfold dateShift
  split
  · rename_i e shifted
    obtain ⟨c', rfl⟩ := exists_clock e
    exact .inl ⟨c', Date.ofNanos?_eq_some.mp shifted, rfl⟩
  · rename_i none
    refine .inr ⟨fun c' same => ?_, rfl⟩
    have range := nanos_range c'
    have outside : c.nanos + n < Date.earliest ∨ Date.latest < c.nanos + n :=
      Date.ofNanos?_eq_none.mp none
    omega

theorem plus_exact (c : Clock) (n : Int64) :
    ExactDate "+" (c.nanos + n.toInt) ((Value.date c.date).binary .plus (.integer n)) :=
  dateShift_exact .add c n.toInt

theorem minus_given : (Value.date c.date).binary .minus (.integer n) =
    if n = Int64.minValue then .error (.overflow "-") else dateShift .subtract c.date (-n.toInt) :=
  rfl

theorem minus_exact (other : n ≠ Int64.minValue) :
    ExactDate "-" (c.nanos - n.toInt) ((Value.date c.date).binary .minus (.integer n)) := by
  rw [minus_given, if_neg other]
  exact dateShift_exact .subtract c (-n.toInt)

theorem difference_given : (Value.date c.date).binary .minus (.date d.date) =
    if (c.nanos - d.nanos).natAbs < 2 ^ (63 : Nat) then
      .ok (.integer (.ofInt (c.nanos - d.nanos)))
    else .error (.overflow "-") :=
  rfl

theorem least_value : Int64.minValue.toInt = -2 ^ 63 := rfl

theorem difference_exact (other : c.nanos - d.nanos ≠ Int64.minValue.toInt) :
    ExactInteger "-" (c.nanos - d.nanos) ((Value.date c.date).binary .minus (.date d.date)) := by
  rw [least_value] at other
  rw [difference_given]
  split
  · rename_i small
    exact .inl ⟨_, Int64.toInt_ofInt_of_le (by omega) (by omega), rfl⟩
  · rename_i large
    refine .inr ⟨fun m same => ?_, rfl⟩
    have range := exists_toInt_iff.mp ⟨m, same⟩
    omega

theorem difference_refused (least : c.nanos - d.nanos = Int64.minValue.toInt) :
    (Value.date c.date).binary .minus (.date d.date) = .error (.overflow "-") := by
  rw [difference_given, least]
  rfl

def compared? : TokenKind → Int → Int → Option Bool
  | .lt, x, y => some (x < y)
  | .ltEq, x, y => some (x ≤ y)
  | .gt, x, y => some (y < x)
  | .gtEq, x, y => some (y ≤ x)
  | .eq, x, y => some (x == y)
  | .notEq, x, y => some (x != y)
  | _, _, _ => none

theorem relation_compared {holds : Ordering → Bool} (given : relation? k = some holds) (x y : Int) :
    compared? k x y = some (holds (compare x y)) := by
  unfold relation? at given
  split at given
  · cases given
    refine congrArg some ?_
    rw [Bool.eq_iff_iff, decide_eq_true_iff, beq_iff_eq, Int.compare_eq_lt]
  · cases given
    refine congrArg some ?_
    rw [Bool.eq_iff_iff, decide_eq_true_iff, bne_iff_ne, Int.compare_ne_gt]
  · cases given
    refine congrArg some ?_
    rw [Bool.eq_iff_iff, decide_eq_true_iff, beq_iff_eq, Int.compare_eq_gt]
  · cases given
    refine congrArg some ?_
    rw [Bool.eq_iff_iff, decide_eq_true_iff, bne_iff_ne, Int.compare_ne_lt]
  · contradiction

theorem comparison_exact {t : Bool} (known : compared? k c.nanos d.nanos = some t) :
    (Value.date c.date).binary k (.date d.date) = .ok (.boolean t) := by
  have ordered : (Value.date c.date).order (.date d.date) = .ok (compare c.nanos d.nanos) := rfl
  rcases given : relation? k with _ | holds
  · have either : k = .eq ∨ k = .notEq := by
      revert given known
      cases k <;> simp [relation?, compared?]
    rcases either with rfl | rfl
    · cases known
      exact binary_eq
    · cases known
      exact binary_notEq
  · rw [relation_compared given] at known
    cases known
    rw [binary_relation given, ordered]
    rfl

def returned (d n : Expr) : Expr :=
  .binary
    (.binary (.grouping (.binary d ⟨.plus, "+", 3, none⟩ n)) ⟨.minus, "-", 8, none⟩ n)
    ⟨.eq, "==", 12, none⟩ d

def elapsed (d n : Expr) : Expr :=
  .binary (.grouping (.binary d ⟨.plus, "+", 3, none⟩ n)) ⟨.minus, "-", 8, none⟩ d

variable {v : Value}

theorem shifted_back (other : n ≠ Int64.minValue)
    (done : (Value.date c.date).binary .plus (.integer n) = .ok v) :
    v.binary .minus (.integer n) = .ok (.date c.date) ∧
      v.binary .minus (.date c.date) = .ok (.integer n) := by
  obtain ⟨c', shifted, rfl⟩ := exact_ok (plus_exact c n) done
  have passed : n.toInt = c'.nanos - c.nanos := by omega
  have usual : c'.nanos - c.nanos ≠ Int64.minValue.toInt :=
    passed ▸ other ∘ Int64.toInt_inj.mp
  exact ⟨exact_date (minus_exact other) (by omega),
    exact_integer (difference_exact usual) passed⟩

theorem least_not_back
    (done : (Value.date c.date).binary .plus (.integer Int64.minValue) = .ok v) :
    v.binary .minus (.integer Int64.minValue) = .error (.overflow "-") ∧
      v.binary .minus (.date c.date) = .error (.overflow "-") := by
  obtain ⟨c', shifted, rfl⟩ := exact_ok (plus_exact c _) done
  exact ⟨rfl, difference_refused (by omega)⟩

/-- Every date is one reading of the clock, and arithmetic on dates is arithmetic on their
    nanoseconds. A date shifted forth and back again is the same, and the shift is what has passed,
    in any expression too. -/
theorem date_arithmetic :
    (∀ e : Date, ∃ c : Clock, c.date = e ∧ ∀ c' : Clock, c'.date = e → c' = c) ∧
    ∀ (c d : Clock) (n : Int64),
      ExactDate "+" (c.nanos + n.toInt) ((Value.date c.date).binary .plus (.integer n)) ∧
      (n ≠ Int64.minValue →
        ExactDate "-" (c.nanos - n.toInt) ((Value.date c.date).binary .minus (.integer n))) ∧
      ((c.nanos - d.nanos).natAbs < 2 ^ (63 : Nat) → ∃ m : Int64, m.toInt = c.nanos - d.nanos ∧
        (Value.date c.date).binary .minus (.date d.date) = .ok (.integer m)) ∧
      (2 ^ (63 : Nat) < (c.nanos - d.nanos).natAbs →
        (Value.date c.date).binary .minus (.date d.date) = .error (.overflow "-")) ∧
      (∀ k t, compared? k c.nanos d.nanos = some t →
        (Value.date c.date).binary k (.date d.date) = .ok (.boolean t)) ∧
      (n ≠ Int64.minValue → ∀ v, (Value.date c.date).binary .plus (.integer n) = .ok v →
        v.binary .minus (.integer n) = .ok (.date c.date) ∧
        v.binary .minus (.date c.date) = .ok (.integer n) ∧
        ∀ perform scope st x y, AmountsTo perform scope st x (.date c.date) →
          AmountsTo perform scope st y (.integer n) →
          AmountsTo perform scope st (returned x y) (.boolean true) ∧
          AmountsTo perform scope st (elapsed x y) (.integer n)) := by
  refine ⟨fun e => ?_, fun c d n => ⟨plus_exact c n, ?_, ?_, ?_, ?_, ?_⟩⟩
  · obtain ⟨c, rfl⟩ := exists_clock e
    exact ⟨c, rfl, fun c' same => clock_eq (congrArg Date.nanos same)⟩
  · exact minus_exact
  · intro small
    have usual : c.nanos - d.nanos ≠ Int64.minValue.toInt := by
      rw [least_value]
      omega
    obtain ⟨m, same⟩ : ∃ m : Int64, m.toInt = c.nanos - d.nanos :=
      exists_toInt_iff.mpr (by omega)
    exact ⟨m, same, exact_integer (difference_exact usual) same⟩
  · intro large
    rw [difference_given, if_neg (by omega)]
  · exact fun k t known => comparison_exact known
  · intro other v done
    obtain ⟨back, passed⟩ := shifted_back other done
    refine ⟨back, passed, fun perform scope st x y left right => ?_⟩
    have same : (Value.date c.date).binary .eq (.date c.date) = .ok (.boolean true) :=
      comparison_exact (congrArg some (beq_self_eq_true _))
    have shifted := amounts_grouping (amounts_binary left right ⟨.plus, "+", 3, none⟩ done)
    have again := amounts_binary shifted right ⟨.minus, "-", 8, none⟩ back
    exact ⟨amounts_binary again left ⟨.eq, "==", 12, none⟩ same,
      amounts_binary shifted left ⟨.minus, "-", 8, none⟩ passed⟩

def epoch : Clock := ⟨0, 0⟩

def eve : Clock := ⟨-1, 999999999⟩

def latestClock : Clock := ⟨Int64.maxValue, 999999999⟩

def eveShifted : Store :=
  ⟨[⟨[("d", .value (.date eve.date)), ("n", .value (.integer 2))], [], none⟩], [], [], 0, []⟩

theorem date_arithmetic_eve :
    ((2 : Int64) ≠ Int64.minValue ∧ (Value.date eve.date).binary .plus (.integer 2) =
      .ok (.date (Clock.date ⟨0, 1⟩))) ∧
    evaluate 0 "(d + n) - n == d" eveShifted = (.ok (.boolean true), eveShifted) ∧
    evaluate 0 "(d + n) - d" eveShifted = (.ok (.integer 2), eveShifted) ∧
    ((eve.nanos - epoch.nanos).natAbs < 2 ^ (63 : Nat) ∧
      (Value.date eve.date).binary .minus (.date epoch.date) = .ok (.integer (-1))) ∧
    (2 ^ (63 : Nat) < (latestClock.nanos - epoch.nanos).natAbs ∧
      (Value.date latestClock.date).binary .minus (.date epoch.date) = .error (.overflow "-")) ∧
    compared? .lt eve.nanos epoch.nanos = some true ∧
      (Value.date eve.date).binary .lt (.date epoch.date) = .ok (.boolean true) := by
  obtain ⟨forth, -, near, -, comparison, back⟩ := date_arithmetic.2 eve epoch 2
  have other : (2 : Int64) ≠ Int64.minValue := by decide
  have done : (Value.date eve.date).binary .plus (.integer 2) = .ok (.date (Clock.date ⟨0, 1⟩)) :=
    exact_date forth (by decide)
  have small : (eve.nanos - epoch.nanos).natAbs < 2 ^ (63 : Nat) := by decide
  have large : 2 ^ (63 : Nat) < (latestClock.nanos - epoch.nanos).natAbs := by decide
  have before : compared? .lt eve.nanos epoch.nanos = some true := by decide
  obtain ⟨m, value, passed⟩ := near small
  obtain rfl : m = -1 := Int64.toInt_inj.mp value
  have left : AmountsTo Action.run 0 eveShifted (.name "d") (.date eve.date) :=
    amounts_name (by rw [Store.binding?, Store.resolve]; rfl)
  have right : AmountsTo Action.run 0 eveShifted (.name "n") (.integer 2) :=
    amounts_name (by rw [Store.binding?, Store.resolve]; rfl)
  obtain ⟨same, elapses⟩ := (back other _ done).2.2 Action.run 0 eveShifted _ _ left right
  have reads : read "(d + n) - n == d" = .ok (returned (.name "d") (.name "n")) := by cbv
  have readsOther : read "(d + n) - d" = .ok (elapsed (.name "d") (.name "n")) := by cbv
  refine ⟨⟨other, done⟩, ?_, ?_, ⟨small, passed⟩,
    ⟨large, (date_arithmetic.2 latestClock epoch 2).2.2.2.1 large⟩, before, comparison _ _ before⟩
  · rw [evaluate_of_read reads]
    exact same
  · rw [evaluate_of_read readsOther]
    exact elapses

/-- A shift forth is exact. A shift back by the least integer is refused, whatever the date, and so
    is a difference that is the least integer; all others are exact. A shift forth is therefore
    taken back, and is what has passed, unless it is the least integer. -/
theorem date_overflow (c d : Clock) (n : Int64) :
    ExactDate "+" (c.nanos + n.toInt) ((Value.date c.date).binary .plus (.integer n)) ∧
    (if n = Int64.minValue then
      (Value.date c.date).binary .minus (.integer n) = .error (.overflow "-")
    else ExactDate "-" (c.nanos - n.toInt) ((Value.date c.date).binary .minus (.integer n))) ∧
    (if c.nanos - d.nanos = Int64.minValue.toInt then
      (Value.date c.date).binary .minus (.date d.date) = .error (.overflow "-")
    else ExactInteger "-" (c.nanos - d.nanos)
      ((Value.date c.date).binary .minus (.date d.date))) ∧
    ∀ v, (Value.date c.date).binary .plus (.integer n) = .ok v →
      if n = Int64.minValue then
        v.binary .minus (.integer n) = .error (.overflow "-") ∧
        v.binary .minus (.date c.date) = .error (.overflow "-")
      else v.binary .minus (.integer n) = .ok (.date c.date) ∧
        v.binary .minus (.date c.date) = .ok (.integer n) := by
  refine ⟨plus_exact c n, ?_, ?_, fun v done => ?_⟩
  · split
    · rename_i least
      rw [minus_given, if_pos least]
    · rename_i other
      exact minus_exact other
  · split
    · rename_i least
      exact difference_refused least
    · rename_i usual
      exact difference_exact usual
  · split
    · rename_i least
      subst least
      exact least_not_back done
    · rename_i other
      exact shifted_back other done

theorem date_overflow_eve :
    (Value.date eve.date).binary .plus (.integer 2) = .ok (.date (Clock.date ⟨0, 1⟩)) ∧
    (Value.date (Clock.date ⟨0, 1⟩)).binary .minus (.date eve.date) = .ok (.integer 2) := by
  have done : (Value.date eve.date).binary .plus (.integer 2) = .ok (.date (Clock.date ⟨0, 1⟩)) :=
    exact_date (date_overflow eve epoch 2).1 (by decide)
  have passed := (date_overflow eve epoch 2).2.2.2 _ done
  rw [if_neg (by decide)] at passed
  exact ⟨done, passed.2⟩

def leastBefore : Clock := ⟨-9223372037, 145224192⟩

/-- The epoch could be shifted back by the least integer, and forth by it is a date whose difference
    from the epoch is the least integer. -/
theorem date_overflow_without_need :
    ((Value.date epoch.date).binary .minus (.integer Int64.minValue) = .error (.overflow "-") ∧
      ∃ c : Clock, c.nanos = epoch.nanos - Int64.minValue.toInt) ∧
    (Value.date epoch.date).binary .plus (.integer Int64.minValue) =
      .ok (.date leastBefore.date) ∧
    (Value.date leastBefore.date).binary .minus (.integer Int64.minValue) =
      .error (.overflow "-") ∧
    (Value.date leastBefore.date).binary .minus (.date epoch.date) = .error (.overflow "-") ∧
    Int64.minValue.toInt = leastBefore.nanos - epoch.nanos := by
  exact ⟨⟨rfl, ⟨9223372036, 854775808⟩, by decide⟩,
    exact_date (plus_exact epoch _) (by decide), rfl, difference_refused (by decide), by decide⟩

end ScopedFormula
