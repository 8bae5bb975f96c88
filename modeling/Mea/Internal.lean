-- Runs of a step function: the state after a list of steps, and the induction
-- that carries an invariant along every run; how a count over a list moves when
-- one element is replaced. Then `internal::Semaphore`, which the source uses and
-- does not contain, modelled from the spec (§3, §4.1): the available permits, the
-- FIFO queue of waiters, and the `release` that hands permits to the head of the
-- queue with partial credit.
import Mathlib.Data.List.Basic
import Mathlib.Algebra.BigOperators.Group.List
import Mathlib.Algebra.Order.Ring.Nat

namespace mea

variable {σ α : Type} {step : σ → α → Option σ}

/-- The state after a list of steps, if each can be taken. -/
def runSteps (step : σ → α → Option σ) (s : σ) : List α → Option σ
  | [] => some s
  | a :: as => (step s a).bind fun s' => runSteps step s' as

/-- A predicate that every step allowed by `P` keeps holds after every run of
such steps. -/
theorem runSteps_invariant_of {I : σ → Prop} {P : α → Prop}
    (hstep : ∀ s a s', I s → P a → step s a = some s' → I s') :
    ∀ {s s' : σ} (as : List α), I s → (∀ a ∈ as, P a) → runSteps step s as = some s' → I s'
  | _, _, [], hs, _, h => by cases h; exact hs
  | s, _, a :: as, hs, hp, h => by
    obtain ⟨t, ht, hr⟩ := Option.bind_eq_some.mp h
    exact runSteps_invariant_of hstep as (hstep s a t hs (hp a (List.mem_cons_self a as)) ht)
      (fun b hb => hp b (List.mem_cons_of_mem a hb)) hr

/-- A run whose every step, from a state where `I` holds, is seen through `f` as a
step of a second system, is seen through `f` as a run of the second. -/
theorem runSteps_simulate {τ β : Type} {step' : τ → β → Option τ} (f : σ → τ)
    {I : σ → Prop}
    (hinv : ∀ s a s', I s → step s a = some s' → I s')
    (hsim : ∀ s a s', I s → step s a = some s' → ∃ b, step' (f s) b = some (f s')) :
    ∀ {s s' : σ} (as : List α), I s → runSteps step s as = some s' →
      ∃ bs, runSteps step' (f s) bs = some (f s')
  | _, _, [], _, h => by cases h; exact ⟨[], rfl⟩
  | s, _, a :: as, hs, h => by
    obtain ⟨t, ht, hr⟩ := Option.bind_eq_some.mp h
    obtain ⟨b, hb⟩ := hsim s a t hs ht
    obtain ⟨bs, hbs⟩ := runSteps_simulate f hinv hsim as (hinv s a t hs ht) hr
    exact ⟨b :: bs, by simp only [runSteps, hb, Option.some_bind, hbs]⟩

/-- A quantity that each step raises by what the step names is raised, over a run,
by the sum of what its steps name. -/
theorem runSteps_sum (g : σ → Nat) (f : α → Nat)
    (hstep : ∀ s a s', step s a = some s' → g s' = g s + f a) :
    ∀ {s s' : σ} (as : List α), runSteps step s as = some s' → g s' = g s + (as.map f).sum
  | _, _, [], h => by cases h; rfl
  | s, _, a :: as, h => by
    obtain ⟨t, ht, hr⟩ := Option.bind_eq_some.mp h
    rw [runSteps_sum g f hstep as hr, hstep s a t ht, List.map_cons, List.sum_cons, Nat.add_assoc]

/-! ## One element replaced -/

/-- `List.countP_set` with the old element named and without a subtraction. -/
theorem countP_set_add {β : Type} {l : List β} {i : Nat} {b : β} (p : β → Bool) (a : β)
    (h : l[i]? = some b) :
    (l.set i a).countP p + (if p b then 1 else 0) = l.countP p + (if p a then 1 else 0) := by
  obtain ⟨hi, rfl⟩ := List.getElem?_eq_some_iff.mp h
  have := List.boole_getElem_le_countP p l i hi
  rw [List.countP_set p l i a hi]
  omega

end mea

namespace mea.internal

/-- `u32::MAX`, the most the permit counter holds. -/
def u32Max : Nat := 4294967295

/-- Modelled from the spec: a waiter record of the queue: the `acquire` future
`id`, the permits it asked for (`request`, a ghost), and the permits it still
`needed`. -/
structure Waiter where
  id : Nat
  request : Nat
  needed : Nat
  deriving DecidableEq, Repr

/-- What the waiter has been handed so far. -/
def Waiter.credit (w : Waiter) : Nat := w.request - w.needed

/-- Modelled from the spec: `internal::Semaphore`, its available `permits` and
the FIFO queue `waiters`. -/
structure Semaphore where
  permits : Nat
  waiters : List Waiter
  deriving DecidableEq, Repr

/-! ## The operations -/

/-- Modelled from the spec: `release` hands `avail` permits to the head of the
queue while it can be satisfied; a head that cannot takes what is left as
partial credit. The waiters woken, the queue left, and the permits left. -/
def assign : Nat → List Waiter → List Waiter × List Waiter × Nat
  | avail, [] => ([], [], avail)
  | avail, w :: ws =>
    if w.needed ≤ avail then
      let r := assign (avail - w.needed) ws
      (w :: r.1, r.2)
    else ([], { w with needed := w.needed - avail } :: ws, 0)

namespace Semaphore

variable (s : Semaphore)

/-- The spec's invariant of the queue at rest: its head cannot be satisfied by the
available permits, or `release` would have woken it. -/
def HeadBlocked : Prop := ∀ w ws, s.waiters = w :: ws → s.permits < w.needed

/-- Modelled from the spec: `Semaphore::new(permits)`. -/
def new (permits : Nat) : Semaphore := ⟨permits, []⟩

/-- Modelled from the spec: `available_permits()`. -/
def availablePermits : Nat := s.permits

/-- Modelled from the spec: `try_acquire(n)` succeeds only when no waiter is
queued and `n` permits are available. -/
def tryAcquire (n : Nat) : Option Semaphore :=
  if s.waiters.isEmpty ∧ n ≤ s.permits then some { s with permits := s.permits - n } else none

/-- Modelled from the spec: the first poll of `acquire(n)` by the future `id`:
the fast path of `try_acquire`, or a waiter pushed at the tail of the queue. The
flag says whether the future is ready. -/
def acquire (id n : Nat) : Semaphore × Bool :=
  match s.tryAcquire n with
  | some s' => (s', true)
  | none => ({ s with waiters := s.waiters ++ [⟨id, n, n⟩] }, false)

/-- Modelled from the spec: `release(n)` panics, here `none`, when the permits
would pass `u32::MAX`; else the available permits and the `n` released go to the
queue in order, and the rest stays available. With the waiters woken. -/
def release (n : Nat) : Option (Semaphore × List Waiter) :=
  if s.permits + n ≤ u32Max then
    let r := assign (s.permits + n) s.waiters
    some (⟨r.2.2, r.2.1⟩, r.1)
  else none

/-- Modelled from the spec: `forget(n)` removes `min(n, permits)` permits and
returns how many. -/
def forget (n : Nat) : Semaphore × Nat :=
  ({ s with permits := s.permits - min n s.permits }, min n s.permits)

/-- Modelled from the spec (§4.1, cancellation): the `acquire` future `id` is dropped
before it completes. A queued waiter leaves the queue and the credit it was handed
goes back through `release`; a future already woken, one of `notified`, gives back
through `release` all it was handed. With `notified` less the future and the
waiters `release` woke; `none` when the future is not pending or `release` panics. -/
def cancel (notified : List Waiter) (id : Nat) :
    Option (Semaphore × List Waiter × List Waiter) :=
  match s.waiters.find? (·.id == id) with
  | some w =>
    ({ s with waiters := s.waiters.erase w }.release w.credit).map
      fun (r : Semaphore × List Waiter) => (r.1, notified, r.2)
  | none =>
    match notified.find? (·.id == id) with
    | some w => (s.release w.request).map fun r => (r.1, notified.erase w, r.2)
    | none => none

end Semaphore

/-- Modelled from the spec (§4.1, resumption): the future `id` is polled after it
was woken. It is one of `notified`, and is ready with the waiter record it was
woken with; the others stay woken. -/
def poll (notified : List Waiter) (id : Nat) : Option (Waiter × List Waiter) :=
  (notified.find? (·.id == id)).map fun w => (w, notified.erase w)

/-! ## What `release` hands out -/

/-- `assign` keeps the credit: what was available and credited before is what is
left, credited, or handed whole to the woken waiters. The waiters it returns are
those it was given, and none is left needing more than it asked. -/
theorem assign_credit : ∀ (avail : Nat) (ws : List Waiter),
    (∀ w ∈ ws, w.needed ≤ w.request) →
    (assign avail ws).2.2 + ((assign avail ws).2.1.map Waiter.credit).sum +
        ((assign avail ws).1.map Waiter.request).sum = avail + (ws.map Waiter.credit).sum ∧
      (∀ w ∈ (assign avail ws).2.1, w.needed ≤ w.request) ∧ (assign avail ws).2.2 ≤ avail ∧
      ∀ w ∈ (assign avail ws).1 ++ (assign avail ws).2.1,
        ∃ w' ∈ ws, w.id = w'.id ∧ w.request = w'.request
  | avail, [], _ => by simp [assign]
  | avail, w :: ws, hw => by
    have hw0 := hw w (List.mem_cons_self w ws)
    by_cases hn : w.needed ≤ avail
    · obtain ⟨h1, h2, h3, h4⟩ := assign_credit (avail - w.needed) ws
        (fun v hv => hw v (List.mem_cons_of_mem w hv))
      simp only [assign, if_pos hn, List.map_cons, List.sum_cons, Waiter.credit] at h1 ⊢
      refine ⟨by omega, h2, by omega, fun v hv => ?_⟩
      rcases List.mem_cons.mp (List.cons_append w _ _ ▸ hv) with rfl | hv
      · exact ⟨v, List.mem_cons_self v ws, rfl, rfl⟩
      · obtain ⟨v', hv', e⟩ := h4 v hv
        exact ⟨v', List.mem_cons_of_mem w hv', e⟩
    · simp only [assign, if_neg hn, List.map_cons, List.sum_cons, Waiter.credit, List.map_nil,
        List.sum_nil, List.nil_append, List.mem_cons]
      refine ⟨by omega, ?_, Nat.zero_le _, ?_⟩
      · rintro v (rfl | hv)
        · simp only; omega
        · exact hw v (List.mem_cons_of_mem w hv)
      · rintro v (rfl | hv)
        · exact ⟨w, .inl rfl, rfl, rfl⟩
        · exact ⟨v, .inr hv, rfl, rfl⟩

/-- `assign` wakes a prefix of the queue and leaves the rest in order. -/
theorem assign_ids : ∀ (avail : Nat) (ws : List Waiter),
    ((assign avail ws).1 ++ (assign avail ws).2.1).map Waiter.id = ws.map Waiter.id
  | _, [] => rfl
  | avail, w :: ws => by
    by_cases hn : w.needed ≤ avail
    · simp only [assign, if_pos hn, List.cons_append, List.map_cons,
        assign_ids (avail - w.needed) ws]
    · simp only [assign, if_neg hn, List.nil_append, List.map_cons]

/-- The head that `assign` leaves in the queue cannot be satisfied by what it
leaves available: "head is never satisfiable at rest". -/
theorem assign_head : ∀ (avail : Nat) (ws : List Waiter) {v : Waiter} {vs : List Waiter},
    (assign avail ws).2.1 = v :: vs → (assign avail ws).2.2 < v.needed
  | _, [], _, _, h => by simp [assign] at h
  | avail, w :: ws, v, vs, h => by
    by_cases hn : w.needed ≤ avail
    · simp only [assign, if_pos hn] at h ⊢
      exact assign_head _ ws h
    · simp only [assign, if_neg hn, List.cons.injEq] at h ⊢
      obtain ⟨rfl, -⟩ := h
      simp only
      omega

/-! ## One lemma for each operation -/

namespace Semaphore

variable {s s' : Semaphore} {n : Nat}

theorem tryAcquire_eq_some (h : s.tryAcquire n = some s') :
    s.waiters = [] ∧ n ≤ s.permits ∧ s' = { s with permits := s.permits - n } := by
  unfold tryAcquire at h
  split at h
  · next hc =>
    cases h
    simpa using hc
  · cases h

theorem acquire_eq {id : Nat} {b : Bool} (h : s.acquire id n = (s', b)) :
    (b = true ∧ s.tryAcquire n = some s') ∨
      (b = false ∧ s' = { s with waiters := s.waiters ++ [⟨id, n, n⟩] }) := by
  unfold acquire at h
  split at h <;> cases h
  · exact .inl ⟨rfl, ‹_›⟩
  · exact .inr ⟨rfl, rfl⟩

theorem release_eq_some {woken : List Waiter} (h : s.release n = some (s', woken)) :
    s.permits + n ≤ u32Max ∧ assign (s.permits + n) s.waiters = (woken, s'.waiters, s'.permits) := by
  unfold release at h
  split at h
  · cases h
    exact ⟨‹_›, rfl⟩
  · cases h

theorem release_isSome : (s.release n).isSome ↔ s.permits + n ≤ u32Max := by
  unfold release
  split <;> simp_all

/-- Dropping a pending future does not panic while what is available, credited to
the queue and handed to the woken futures fits in a `u32`: the future gives back
part of it. -/
theorem cancel_isSome {notified : List Waiter} {id : Nat}
    (hk : s.permits + (s.waiters.map Waiter.credit).sum + (notified.map Waiter.request).sum ≤
      u32Max)
    (hi : s.waiters.find? (·.id == id) ≠ none ∨ notified.find? (·.id == id) ≠ none) :
    (s.cancel notified id).isSome := by
  cases hw : s.waiters.find? (·.id == id) with
  | some w =>
    have := List.sum_map_erase Waiter.credit (List.mem_of_find?_eq_some hw)
    simp only [cancel, hw, Option.isSome_map', release_isSome]
    omega
  | none =>
    obtain ⟨w, hw'⟩ := Option.ne_none_iff_exists'.mp (hi.resolve_left (by simp [hw]))
    have := List.sum_map_erase Waiter.request (List.mem_of_find?_eq_some hw')
    simp only [cancel, hw, hw', Option.isSome_map', release_isSome]
    omega

/-! ## No operation leaves a satisfiable head -/

theorem release_headBlocked {woken : List Waiter} (h : s.release n = some (s', woken)) :
    s'.HeadBlocked := by
  obtain ⟨-, ha⟩ := release_eq_some h
  intro w ws e
  have hh := @assign_head (s.permits + n) s.waiters w ws
  rw [ha] at hh
  exact hh e

theorem tryAcquire_headBlocked (h : s.tryAcquire n = some s') : s'.HeadBlocked := by
  obtain ⟨hw, -, rfl⟩ := tryAcquire_eq_some h
  intro _ _ e
  simp [hw] at e

/-- A waiter queued behind an empty queue asked for more than is available. -/
theorem acquire_headBlocked {id : Nat} {b : Bool} (hs : s.HeadBlocked)
    (h : s.acquire id n = (s', b)) : s'.HeadBlocked := by
  rcases acquire_eq h with ⟨-, ht⟩ | ⟨-, rfl⟩
  · exact tryAcquire_headBlocked ht
  · intro w ws e
    cases hw : s.waiters with
    | nil =>
      have hn : ¬ n ≤ s.permits := fun hn => by simp [acquire, tryAcquire, hw, hn] at h
      simp only [hw, List.nil_append, List.cons.injEq] at e
      obtain ⟨rfl, -⟩ := e
      simp only
      omega
    | cons v vs =>
      simp only [hw, List.cons_append, List.cons.injEq] at e
      obtain ⟨rfl, -⟩ := e
      exact hs _ _ hw

theorem forget_headBlocked (hs : s.HeadBlocked) : (s.forget n).1.HeadBlocked :=
  fun w ws e => Nat.lt_of_le_of_lt (Nat.sub_le _ _) (hs w ws e)

end Semaphore

end mea.internal
