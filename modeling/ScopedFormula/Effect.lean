import ScopedFormula.Store

/- Computations on the store that may fail. What they did before a failure stays done. -/
namespace ScopedFormula

def Effect (α : Type) : Type := Store → Except Failure α × Store

namespace Effect

def pure (a : α) : Effect α := fun st => (.ok a, st)

def bind (x : Effect α) (f : α → Effect β) : Effect β := fun st =>
  match x st with
  | (.ok a, st') => f a st'
  | (.error e, st') => (.error e, st')

instance : Monad Effect where
  pure := Effect.pure
  bind := Effect.bind

def fail (e : Failure) : Effect α := fun st => (.error e, st)

def lift (r : Except Failure α) : Effect α := fun st => (r, st)

def read (f : Store → α) : Effect α := fun st => (.ok (f st), st)

def update (f : Store → Except Failure Store) : Effect Unit := fun st =>
  match f st with
  | .ok st' => (.ok (), st')
  | .error e => (.error e, st)

def allocate (f : Store → α × Store) : Effect α := fun st => (.ok (f st).1, (f st).2)

def mapFailure (f : Failure → Failure) (x : Effect α) : Effect α := fun st =>
  match x st with
  | (.ok a, st') => (.ok a, st')
  | (.error e, st') => (.error (f e), st')

def orFail (o : Option α) (e : Failure) : Effect α :=
  match o with
  | some a => Effect.pure a
  | none => fail e

theorem pure_apply (a : α) (st : Store) : (Pure.pure a : Effect α) st = (.ok a, st) := rfl

theorem bind_apply (x : Effect α) (f : α → Effect β) (st : Store) :
    (x >>= f) st = match x st with
      | (.ok a, st') => f a st'
      | (.error e, st') => (.error e, st') := rfl

theorem bind_of_ok {x : Effect α} {f : α → Effect β} {st st' : Store} {a : α}
    (h : x st = (.ok a, st')) : (x >>= f) st = f a st' := by
  rw [bind_apply, h]

theorem bind_of_error {x : Effect α} {f : α → Effect β} {st st' : Store} {e : Failure}
    (h : x st = (.error e, st')) : (x >>= f) st = (.error e, st') := by
  rw [bind_apply, h]

theorem bind_eq_ok {x : Effect α} {f : α → Effect β} {st st' : Store} {b : β} :
    (x >>= f) st = (.ok b, st') ↔ ∃ a st₁, x st = (.ok a, st₁) ∧ f a st₁ = (.ok b, st') := by
  constructor
  · intro h
    rcases first : x st with ⟨e | a, st₁⟩
    · rw [bind_of_error first] at h
      cases h
    · rw [bind_of_ok first] at h
      exact ⟨a, st₁, rfl, h⟩
  · rintro ⟨a, st₁, first, rest⟩
    rwa [bind_of_ok first]

end Effect

end ScopedFormula
