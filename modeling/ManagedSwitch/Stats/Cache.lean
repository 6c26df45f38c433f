import ManagedSwitch.Net.Seconds

/-!
# Caches

A cache keeps a value that is expensive to load.  The value stays fresh for a span of time, counted
from the moment at which loading began, until it is invalidated.  A load that fails leaves the cache
as it was.
-/

namespace ManagedSwitch

/-- A value with the time at which its loading began, and the span for which it stays fresh. -/
structure Cache (τ α : Type) where
  span : τ
  value : Option (τ × α)

namespace Cache

section Operations

variable {τ α : Type} [Seconds τ]

def empty (span : τ) : Cache τ α :=
  ⟨span, none⟩

/-- The value, if it is fresh at a time. -/
def fresh?
    (c : Cache τ α)
    (now : τ) :
    Option α :=
  c.value.bind fun v => if c.span ≤ now - v.1 then none else some v.2

def invalidate (c : Cache τ α) : Cache τ α :=
  { c with value := none }

/-- The fresh value, or the value that is loaded now. -/
def get
    {m : Type → Type}
    [Monad m]
    {ε : Type}
    (c : Cache τ α)
    (now : τ)
    (load : m (Except ε α)) :
    m (Except ε α × Cache τ α) := do
  match c.fresh? now with
  | some v => return (.ok v, c)
  | none =>
    match ← load with
    | .error e => return (.error e, c)
    | .ok v => return (.ok v, { c with value := some (now, v) })

end Operations

end Cache
end ManagedSwitch
