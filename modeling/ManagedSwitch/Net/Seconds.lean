import ManagedSwitch.Number.Binary64

/-!
# Seconds

Times and spans of time are numbers of seconds of one type.  The program runs on doubles; its laws
hold for any type with the operations named here.
-/

namespace ManagedSwitch

/-- Numbers of seconds. -/
class Seconds (τ : Type) extends Add τ, Sub τ, Zero τ, LT τ, LE τ where
  decidableLT : DecidableRel (fun a b : τ => a < b)
  decidableLE : DecidableRel (fun a b : τ => a ≤ b)
  /-- A short text of a number, for messages. -/
  brief : τ → String

instance Seconds.instDecidableLT {τ : Type} [Seconds τ] (a b : τ) : Decidable (a < b) :=
  Seconds.decidableLT a b

instance Seconds.instDecidableLE {τ : Type} [Seconds τ] (a b : τ) : Decidable (a ≤ b) :=
  Seconds.decidableLE a b

instance Seconds.instFloat : Seconds Float where
  zero := 0
  decidableLT := fun _ _ => inferInstance
  decidableLE := fun _ _ => inferInstance
  brief := Number.Binary64.briefText

end ManagedSwitch
