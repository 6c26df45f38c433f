import Mathlib.Data.List.Pairwise
import ManagedSwitch.Proofs.Net.Lateness
import ManagedSwitch.Stats.Exporter

/-!
# What a cache gives in the course of time

A cache is asked for its value and invalidated, one step after the other, and the source behind it
may fail whenever it is asked.  A `Course` is a cache with everything that has happened to it so
far, and what the cache may give is said of this past alone: `standing` are the loads that succeeded
since the last invalidation.

The cache stores the newest of them (`Course.stores_after`), and where the clock does not go back,
the newest of them is the one that stays fresh for longest.  So the source is asked exactly if none
of them is fresh (`Course.serves_of_ordered`), and a load that fails changes nothing.
-/

namespace ManagedSwitch
namespace Cache

section Courses

variable {ε : Type}

/-- What is done with a cache: it is asked for its value at a time, or it is invalidated. -/
inductive Use
  | get (now : ℚ)
  | invalidate

def Use.time? : Use → Option ℚ
  | .get now => some now
  | .invalidate => none

/-- What has happened to a cache: it gave something at a time, for which the source may have been
asked, or it was invalidated. -/
inductive Access (ε : Type)
  | got (now : ℚ) (load : Option (Except ε String)) (given : Except ε String)
  | invalidated

namespace Access

def time? : Access ε → Option ℚ
  | .got now _ _ => some now
  | .invalidated => none

/-- The value that was loaded, with the time at which this began. -/
def loaded? : Access ε → Option (ℚ × String)
  | .got now (some (.ok v)) _ => some (now, v)
  | _ => none

def isInvalidation : Access ε → Bool
  | .got _ _ _ => false
  | .invalidated => true

end Access

/-- The loads that succeeded, the newest one first. -/
def loaded (past : List (Access ε)) : List (ℚ × String) :=
  past.filterMap Access.loaded?

/-- The loads that succeeded since the last invalidation, the newest one first. -/
def standing (past : List (Access ε)) : List (ℚ × String) :=
  loaded (past.takeWhile fun a => !a.isInvalidation)

/-- A cache in use, with everything that its source has given, in order, and everything that has
happened to it, the newest first. -/
structure Course (ε : Type) where
  cache : Cache ℚ String
  loads : List (Except ε String)
  past : List (Access ε)

/-- A source whose clock shows a time, and whose loads end as a script says, one after the other;
what they give is remembered. -/
def scripted
    (script : Nat → Except ε String)
    (now : ℚ) :
    Source ℚ ε (StateM (List (Except ε String))) where
  clock := pure now
  report := fun _ => pure ()
  load := modifyGet fun loads => (script loads.length, loads ++ [script loads.length])

namespace Course

/-- Asks the cache for its value. -/
def get
    (script : Nat → Except ε String)
    (c : Course ε)
    (now : ℚ) :
    Except ε String × Course ε :=
  let ((given, cache), loads) := ((scripted script now).metrics.run c.cache).run c.loads
  (given, ⟨cache, loads, .got now (loads.drop c.loads.length).head? given :: c.past⟩)

def invalidate (c : Course ε) : Course ε :=
  ⟨c.cache.invalidate, c.loads, .invalidated :: c.past⟩

def use
    (script : Nat → Except ε String)
    (c : Course ε) :
    Use → Course ε
  | .get now => (c.get script now).2
  | .invalidate => c.invalidate

/-- A new cache after it has been used. -/
def after
    (script : Nat → Except ε String)
    (span : ℚ)
    (uses : List Use) :
    Course ε :=
  uses.foldl (use script) ⟨Cache.empty span, [], []⟩

/-- What a cache gives at a time, and when its source is asked for it. -/
structure Serves
    (script : Nat → Except ε String)
    (span : ℚ)
    (c : Course ε)
    (now : ℚ) :
    Prop where
  /-- The source is asked exactly if no value that was loaded since the last invalidation is
  fresh. -/
  asked_iff :
    (c.get script now).2.loads ≠ c.loads ↔ ¬∃ e ∈ standing c.past, now - e.1 < span
  /-- It is asked once, and the new value or the failure is given. -/
  asked :
    (c.get script now).2.loads ≠ c.loads →
      (c.get script now).1 = script c.loads.length ∧
        (c.get script now).2.loads = c.loads ++ [script c.loads.length]
  /-- Otherwise the value of the last load that succeeded is given; it has not been invalidated and
  is fresh. -/
  kept :
    (c.get script now).2.loads = c.loads →
      ∃ e, (loaded c.past).head? = some e ∧ e ∈ standing c.past ∧ now - e.1 < span ∧
        (c.get script now).1 = .ok e.2
  /-- A failure leaves the cache with its value and its time, and the next time the source is asked
  again. -/
  failed :
    ∀ e, (c.get script now).1 = .error e →
      (c.get script now).2.cache = c.cache ∧
        ∀ later, now ≤ later → ∀ n,
          let d := (List.replicate n Use.invalidate).foldl (use script) (c.get script now).2
          (d.get script later).2.loads ≠ d.loads

end Course

end Courses

section Looks

variable {ε : Type} {m : Type → Type} [Monad m] [LawfulMonad m]

/-- The cache after a load that began at a time. -/
def loadedAt
    (c : Cache ℚ String)
    (now : ℚ) :
    Except ε String → Cache ℚ String
  | .ok v => { c with value := some (now, v) }
  | .error _ => c

variable {source : Source ℚ ε m} {c : Cache ℚ String}

/-- A fresh value is given without asking the source. -/
theorem metrics_of_fresh
    {now : ℚ}
    (hclock : source.clock = pure now)
    {v : String}
    (hfresh : c.fresh? now = some v) :
    source.metrics.run c = pure (.ok v, c) := by
  simp only [StateT.run, Source.metrics, hclock, pure_bind, Cache.get, hfresh,
    Option.isNone_some, Bool.false_eq_true, if_false]

/-- Without a fresh value the source is asked, and what it gives is given. -/
theorem metrics_of_stale
    {now : ℚ}
    (hclock : source.clock = pure now)
    (hstale : c.fresh? now = none) :
    source.metrics.run c =
      (do
        source.report Source.reloading
        let given ← source.load
        pure (given, c.loadedAt now given)) := by
  simp only [StateT.run, Source.metrics, hclock, pure_bind, Cache.get, hstale,
    Option.isNone_none, if_true]
  refine bind_congr fun _ => bind_congr fun given => ?_
  cases given <;> rfl

end Looks

section Steps

variable {ε : Type} (script : Nat → Except ε String) (c : Course ε) {now : ℚ}

namespace Course

theorem get_of_fresh
    {v : String}
    (hfresh : c.cache.fresh? now = some v) :
    c.get script now = (.ok v, ⟨c.cache, c.loads, .got now none (.ok v) :: c.past⟩) := by
  have hdrop : c.loads.drop c.loads.length = [] := List.drop_length
  rw [get, metrics_of_fresh rfl hfresh]
  show (_, Course.mk _ _ (.got now (c.loads.drop c.loads.length).head? _ :: _)) = _
  rw [hdrop]
  rfl

theorem get_of_stale
    (hstale : c.cache.fresh? now = none) :
    c.get script now =
      (script c.loads.length,
        ⟨c.cache.loadedAt now (script c.loads.length), c.loads ++ [script c.loads.length],
          .got now (some (script c.loads.length)) (script c.loads.length) :: c.past⟩) := by
  have hdrop :
      (c.loads ++ [script c.loads.length]).drop c.loads.length = [script c.loads.length] :=
    List.drop_left
  rw [get, metrics_of_stale rfl hstale]
  show (_, Course.mk _ _
    (.got now ((c.loads ++ [script c.loads.length]).drop c.loads.length).head? _ :: _)) = _
  rw [hdrop]
  rfl

/-- The source is asked exactly if there is no fresh value. -/
theorem loads_get_ne_iff :
    (c.get script now).2.loads ≠ c.loads ↔ c.cache.fresh? now = none := by
  cases hfresh : c.cache.fresh? now with
  | some v =>
      simp [c.get_of_fresh script hfresh]
  | none =>
      simp [c.get_of_stale script hfresh]

end Course

/-- A value is fresh if it was loaded less than the span ago. -/
theorem fresh?_eq_some_iff
    {c : Cache ℚ String}
    {v : String} :
    c.fresh? now = some v ↔ ∃ t, c.value = some (t, v) ∧ now - t < c.span := by
  rw [fresh?, Option.bind_eq_some_iff]
  constructor
  · rintro ⟨⟨t, u⟩, hvalue, hfresh⟩
    split at hfresh
    · exact nomatch hfresh
    · next hspan =>
        cases hfresh
        exact ⟨t, hvalue, not_le.mp hspan⟩
  · rintro ⟨t, hvalue, hspan⟩
    exact ⟨(t, v), hvalue, if_neg (not_le.mpr hspan)⟩

/-- What is not fresh does not become fresh. -/
theorem fresh?_eq_none_of_le
    {c : Cache ℚ String}
    {later : ℚ}
    (hstale : c.fresh? now = none)
    (hle : now ≤ later) :
    c.fresh? later = none := by
  rw [Option.eq_none_iff_forall_ne_some] at hstale ⊢
  intro v hfresh
  obtain ⟨t, hvalue, hspan⟩ := fresh?_eq_some_iff.mp hfresh
  exact hstale v (fresh?_eq_some_iff.mpr ⟨t, hvalue, by linarith⟩)

end Steps

section Runs

variable {ε : Type} {script : Nat → Except ε String} {span : ℚ}

/-- Loads that succeeded began at times at which the cache was asked for its value. -/
theorem sublist_map_fst_loaded
    (past : List (Access ε)) :
    ((loaded past).map Prod.fst).Sublist (past.filterMap Access.time?) := by
  induction past with
  | nil =>
      exact List.Sublist.refl []
  | cons a past ih =>
      rw [loaded, List.filterMap_cons, List.filterMap_cons]
      match a with
      | .invalidated => exact ih
      | .got now none _ => exact ih.cons now
      | .got now (some (.error _)) _ => exact ih.cons now
      | .got now (some (.ok _)) _ => exact ih.cons_cons now

theorem standing_prefix_loaded
    (past : List (Access ε)) :
    standing past <+: loaded past :=
  (List.takeWhile_prefix _).filterMap _

namespace Course

/-- One more use of a cache. -/
theorem after_concat
    (uses : List Use)
    (u : Use) :
    after script span (uses ++ [u]) = (after script span uses).use script u := by
  rw [after, List.foldl_append]
  rfl

/-- The span stays, and the value is the one of the newest load since the last invalidation. -/
structure Stores
    (span : ℚ)
    (c : Course ε) :
    Prop where
  span_eq : c.cache.span = span
  value_eq : c.cache.value = (standing c.past).head?

theorem Stores.use
    {c : Course ε}
    (h : c.Stores span)
    (u : Use) :
    (c.use script u).Stores span := by
  cases u with
  | invalidate =>
      exact ⟨h.span_eq, rfl⟩
  | get now =>
      rw [Course.use]
      cases hfresh : c.cache.fresh? now with
      | some v =>
          rw [c.get_of_fresh script hfresh]
          exact ⟨h.span_eq, h.value_eq⟩
      | none =>
          rw [c.get_of_stale script hfresh]
          cases script c.loads.length with
          | error e =>
              exact ⟨h.span_eq, h.value_eq⟩
          | ok v =>
              exact ⟨h.span_eq, rfl⟩

/-- The value that a cache stores after uses. -/
theorem stores_after
    (uses : List Use) :
    (after script span uses).Stores span := by
  induction uses using List.reverseRecOn with
  | nil =>
      exact ⟨rfl, rfl⟩
  | append_singleton uses u ih =>
      rw [after_concat]
      exact ih.use u

/-- The times in the past of a cache are those of its uses. -/
theorem times_after
    (uses : List Use) :
    (after script span uses).past.filterMap Access.time? =
      (uses.filterMap Use.time?).reverse := by
  induction uses using List.reverseRecOn with
  | nil =>
      rfl
  | append_singleton uses u ih =>
      rw [after_concat, List.filterMap_append, List.reverse_append, ← ih]
      cases u with
      | invalidate =>
          rfl
      | get now =>
          rfl

end Course

/-- Where the times of loads do not go back, the newest of them is fresh if any is. -/
theorem exists_fresh_iff
    {past : List (Access ε)}
    (hsorted : ((standing past).map Prod.fst).Pairwise (· ≥ ·))
    (now : ℚ) :
    (∃ e ∈ standing past, now - e.1 < span) ↔
      ∃ e, (standing past).head? = some e ∧ now - e.1 < span := by
  cases hstanding : standing past with
  | nil =>
      simp
  | cons newest older =>
      rw [hstanding, List.map_cons, List.pairwise_cons] at hsorted
      constructor
      · rintro ⟨e, he, hfresh⟩
        have hle : e.1 ≤ newest.1 := by
          rcases List.mem_cons.mp he with rfl | he
          · exact le_refl e.1
          · exact hsorted.1 e.1 (List.mem_map_of_mem he)
        exact ⟨newest, rfl, by linarith⟩
      · rintro ⟨e, he, hfresh⟩
        cases he
        exact ⟨newest, List.mem_cons_self, hfresh⟩

end Runs

section Serving

namespace Course

variable {ε : Type} {script : Nat → Except ε String} {span now : ℚ}

/-- Invalidating makes nothing fresh. -/
theorem fresh?_of_invalidations
    {c : Course ε}
    (hstale : c.cache.fresh? now = none)
    (n : Nat) :
    ((List.replicate n Use.invalidate).foldl (use script) c).cache.fresh? now = none := by
  induction n generalizing c with
  | zero =>
      exact hstale
  | succ n ih =>
      have hnone : c.invalidate.cache.fresh? now = none := rfl
      exact ih hnone

/-- A cache that stores the newest load serves what it should, if the times of loads have not gone
back. -/
theorem Stores.serves
    {c : Course ε}
    (h : c.Stores span)
    (hsorted : ((standing c.past).map Prod.fst).Pairwise (· ≥ ·)) :
    c.Serves script span now := by
  have hfresh :
      ∀ v, c.cache.fresh? now = some v ↔
        ∃ e, (standing c.past).head? = some e ∧ now - e.1 < span ∧ v = e.2 := by
    intro v
    rw [fresh?_eq_some_iff, h.value_eq, h.span_eq]
    constructor
    · rintro ⟨t, hhead, hspan⟩
      exact ⟨(t, v), hhead, hspan, rfl⟩
    · rintro ⟨e, hhead, hspan, rfl⟩
      exact ⟨e.1, hhead, hspan⟩
  constructor
  case asked_iff =>
    rw [c.loads_get_ne_iff script, exists_fresh_iff hsorted, Option.eq_none_iff_forall_ne_some]
    constructor
    · rintro hstale ⟨e, hhead, hspan⟩
      exact hstale e.2 ((hfresh e.2).mpr ⟨e, hhead, hspan, rfl⟩)
    · intro hnone v hv
      obtain ⟨e, hhead, hspan, -⟩ := (hfresh v).mp hv
      exact hnone ⟨e, hhead, hspan⟩
  case asked =>
    intro hasked
    rw [c.loads_get_ne_iff script] at hasked
    rw [c.get_of_stale script hasked]
    exact ⟨rfl, rfl⟩
  case kept =>
    intro hkept
    have hsome : c.cache.fresh? now ≠ none :=
      fun hstale => (c.loads_get_ne_iff script).mpr hstale hkept
    obtain ⟨v, hv⟩ := Option.ne_none_iff_exists'.mp hsome
    obtain ⟨e, hhead, hspan, rfl⟩ := (hfresh v).mp hv
    have hnewest : (loaded c.past).head? = some e := by
      obtain ⟨older, heq⟩ := standing_prefix_loaded c.past
      rw [← heq, List.head?_append, hhead]
      rfl
    rw [c.get_of_fresh script hv]
    exact ⟨e, hnewest, List.mem_of_mem_head? hhead, hspan, rfl⟩
  case failed =>
    intro e he
    cases hv : c.cache.fresh? now with
    | some v =>
        rw [c.get_of_fresh script hv] at he
        exact nomatch he
    | none =>
        rw [c.get_of_stale script hv] at he ⊢
        have hcache : c.cache.loadedAt now (script c.loads.length) = c.cache := by
          rw [show script c.loads.length = .error e from he]
          rfl
        -- Invalidating and waiting keep what is stale stale.
        refine ⟨hcache, fun later hle n => ?_⟩
        rw [loads_get_ne_iff]
        refine fresh?_of_invalidations ?_ n
        rw [hcache]
        exact fresh?_eq_none_of_le hv hle

/-- However a cache has been used by a clock that does not go back, and whichever of its loads have
failed: the source is asked exactly if no value loaded since the last invalidation is fresh, what is
given is the value that was loaded last or what the source gives now, and a failure changes nothing,
so that the source is asked again the next time. -/
theorem serves_of_ordered
    (script : Nat → Except ε String)
    (span : ℚ)
    {uses : List Use}
    (hordered : (uses.filterMap Use.time?).Pairwise (· ≤ ·))
    (now : ℚ) :
    (after script span uses).Serves script span now := by
  have htimes :
      (after script span uses).past.filterMap Access.time? =
        (uses.filterMap Use.time?).reverse :=
    times_after uses
  have hsublist :
      ((standing (after script span uses).past).map Prod.fst).Sublist
        (uses.filterMap Use.time?).reverse := by
    rw [← htimes]
    exact ((standing_prefix_loaded _).sublist.map Prod.fst).trans (sublist_map_fst_loaded _)
  -- The past has the newest access in front, so that its times run backwards.
  have hreverse : (uses.filterMap Use.time?).reverse.Pairwise (· ≥ ·) :=
    List.pairwise_reverse.mpr hordered
  exact (stores_after uses).serves (hreverse.sublist hsublist)

/-- A source whose second load fails. -/
def stumbling : Nat → Except Unit String
  | 0 => .ok "first"
  | 1 => .error ()
  | _ => .ok "later"

/-- Asked at 0, at 5 and at 10 seconds, where the load fails, the cache is asked again at 12
seconds. -/
theorem serves_stumbling :
    ([Use.get 0, .get 5, .get 10].filterMap Use.time?).Pairwise (· ≤ ·) ∧
      (after stumbling 10 [.get 0, .get 5, .get 10]).Serves stumbling 10 12 := by
  have hordered : ([Use.get 0, .get 5, .get 10].filterMap Use.time?).Pairwise (· ≤ ·) := by
    have hle : (5 : ℚ) ≤ 10 := by linarith
    simp [Use.time?, hle]
  exact ⟨hordered, serves_of_ordered stumbling 10 hordered 12⟩

end Course

end Serving

end Cache
end ManagedSwitch
