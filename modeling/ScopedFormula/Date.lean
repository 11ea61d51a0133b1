import ScopedFormula.Number.Limits

/- Dates: signed nanoseconds since the start of 1970, in the range that whole seconds in 64
   bits and a fraction below a second span. -/
namespace ScopedFormula

def Date.earliest : Int := -integerLimit * 1000000000

def Date.latest : Int := integerLimit * 1000000000 - 1

structure Date where
  nanos : Int
  earliest_le : Date.earliest ≤ nanos
  le_latest : nanos ≤ Date.latest
  deriving DecidableEq, Repr

def Date.ofNanos? (n : Int) : Option Date :=
  if h : Date.earliest ≤ n ∧ n ≤ Date.latest then some ⟨n, h.1, h.2⟩ else none

def Date.shift? (d : Date) (n : Int) : Option Date := Date.ofNanos? (d.nanos + n)

/-- Whole milliseconds, cut toward the epoch; every earlier date has a minus sign. -/
def Date.text (d : Date) : String :=
  let sign := if d.nanos < 0 then "-" else ""
  "Date(" ++ sign ++ toString (d.nanos.natAbs / 1000000) ++ "ms)"

theorem Date.ofNanos?_eq_some {n : Int} {d : Date} : Date.ofNanos? n = some d ↔ d.nanos = n := by
  unfold Date.ofNanos?
  constructor
  · intro h
    split at h
    · exact (Option.some.inj h) ▸ rfl
    · exact absurd h (by simp)
  · intro h
    subst h
    simp [d.earliest_le, d.le_latest]

theorem Date.ofNanos?_eq_none {n : Int} :
    Date.ofNanos? n = none ↔ n < Date.earliest ∨ Date.latest < n := by
  unfold Date.ofNanos?
  split
  · simp only [reduceCtorEq, false_iff]
    omega
  · simp only [true_iff]
    omega

end ScopedFormula
