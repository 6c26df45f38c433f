import ManagedSwitch.Stats.Cache
import ManagedSwitch.Stats.Scrape
import ManagedSwitch.Stats.Web

/-!
# Exporters

An exporter publishes metrics that a source gives, through a cache: as long as the metrics are
fresh, the source is not asked again.  The source of an exporter at work are its switches.
-/

namespace ManagedSwitch

section Sources

/-- Where metrics come from, with the clock that tells their age and the place for records. -/
structure Source (τ ε : Type) (m : Type → Type) where
  clock : m τ
  report : Record → m Unit
  load : m (Except ε String)

namespace Source

variable {τ ε : Type} {m : Type → Type} [Seconds τ] [Monad m]

/-- The record about metrics that are loaded. -/
def reloading : Record :=
  ⟨.debug, .stats, "Cache expired; reloading"⟩

/-- The metrics of a source, through a cache. -/
def metrics (source : Source τ ε m) : StateT (Cache τ String) m (Except ε String) := fun cache => do
  let now ← source.clock
  if (cache.fresh? now).isNone then
    source.report reloading
  cache.get now source.load

/-- The answer to a request, with the metrics of a source. -/
def answer
    (source : Source τ ε m)
    (method address : String) :
    StateT (Cache τ String) m Web.Answer :=
  Web.answer source.metrics (fun r => source.report r) method address

end Source

end Sources

section Switches

variable {τ : Type} [Seconds τ]

/-- Switches as a source of metrics; loading never fails as a whole. -/
def Source.ofSwitches
    (timeout : τ)
    (switches : List Switch) :
    Source τ Empty (Run τ) :=
  ⟨time, remark, .ok <$> Scrape.collect timeout switches⟩

end Switches

end ManagedSwitch
