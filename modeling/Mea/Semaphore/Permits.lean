-- `mea::semaphore`: a `Semaphore` over `internal::Semaphore`, the permits it hands
-- out, and the `acquire` futures still pending. Permits are conserved: what is
-- available and held is what the semaphore started with, plus what was released,
-- less what was forgotten.
import Mea.Internal

namespace mea.semaphore

open mea.internal

/-! ## The semaphore and its permits -/

/-- A `SemaphorePermit` or an `OwnedSemaphorePermit` (they differ only in how they
hold the semaphore): its `permits`, and whether it is still alive. -/
structure Permit where
  permits : Nat
  live : Bool
  deriving DecidableEq, Repr

/-- What a permit holds: its `permits` while it lives. -/
def Permit.held (p : Permit) : Nat := if p.live then p.permits else 0

/-- One `Semaphore`: the internal semaphore, the `acquire` futures woken and not
polled yet, the permits made from it, the id of the next future, and ghost totals
of what `Semaphore::release` added, what `Semaphore::forget` removed, and what the
permits consumed by `forget` held. -/
structure State where
  s : Semaphore
  notified : List Waiter
  permits : List Permit
  next : Nat
  released : Nat
  forgotten : Nat
  permitsForgotten : Nat
  deriving DecidableEq, Repr

/-- `Semaphore::new(permits)`. -/
def State.new (permits : Nat) : State := ⟨.new permits, [], [], 0, 0, 0, 0⟩

/-- What happens next to the semaphore. -/
inductive Act where
  /-- `try_acquire(n)` or `try_acquire_owned(n)`. -/
  | tryAcquire (n : Nat)
  /-- `acquire(n)` or `acquire_owned(n)`: the first poll of a new future. -/
  | acquire (n : Nat)
  /-- The woken future `i` is polled and returns its permit. -/
  | poll (i : Nat)
  /-- The pending future `i` is dropped. -/
  | cancel (i : Nat)
  /-- `Semaphore::release(n)`. -/
  | release (n : Nat)
  /-- `Semaphore::forget(n)`. -/
  | forget (n : Nat)
  /-- `forget()` on the permit `p`: its `permits` become 0, then it is dropped. -/
  | permitForget (p : Nat)
  /-- `Drop` of the permit `p`: `release(permits)`. -/
  | drop (p : Nat)
  deriving DecidableEq, Repr

/-- What the step passes to `Semaphore::release` directly. -/
def Act.released : Act → Nat
  | .release n => n
  | _ => 0

namespace State

variable (st : State)

/-- `internal::Semaphore::release(n)`, with the futures it woke marked. -/
def releasePath (n : Nat) : Option State :=
  (st.s.release n).map fun r => { st with s := r.1, notified := st.notified ++ r.2 }

/-- A new live permit of `n`, the internal semaphore now `s`. -/
def grant (s : Semaphore) (n : Nat) : State :=
  { st with s := s, permits := st.permits ++ [⟨n, true⟩] }

variable (s : Semaphore) (n : Nat)

@[simp] theorem grant_s : (st.grant s n).s = s := rfl
@[simp] theorem grant_notified : (st.grant s n).notified = st.notified := rfl
@[simp] theorem grant_permits : (st.grant s n).permits = st.permits ++ [⟨n, true⟩] := rfl
@[simp] theorem grant_next : (st.grant s n).next = st.next := rfl
@[simp] theorem grant_released : (st.grant s n).released = st.released := rfl
@[simp] theorem grant_forgotten : (st.grant s n).forgotten = st.forgotten := rfl
@[simp] theorem grant_permitsForgotten :
    (st.grant s n).permitsForgotten = st.permitsForgotten := rfl

/-! ## The operations -/

/-- `Semaphore::try_acquire(n)` and `try_acquire_owned(n)`: a permit if it succeeds. -/
def tryAcquire : State :=
  match st.s.tryAcquire n with
  | some s' => st.grant s' n
  | none => st

/-- `Semaphore::acquire(n)` and `acquire_owned(n)`, the first poll of a new future:
a permit if it is ready at once. -/
def acquire : State :=
  match st.s.acquire st.next n with
  | (s', true) => { st.grant s' n with next := st.next + 1 }
  | (s', false) => { st with s := s', next := st.next + 1 }

/-- A later poll of the future `i`: its permit, once it was woken. -/
def poll (i : Nat) : Option State :=
  match mea.internal.poll st.notified i with
  | some (w, rest) => some { st.grant st.s w.request with notified := rest }
  | none => none

/-- Dropping the pending future `i`. -/
def cancel (i : Nat) : Option State :=
  (st.s.cancel st.notified i).map fun r => { st with s := r.1, notified := r.2.1 ++ r.2.2 }

/-- `Semaphore::release(n)`. -/
def release : Option State :=
  (st.releasePath n).map fun st' => { st' with released := st'.released + n }

/-- `Semaphore::forget(n)`. -/
def forget : State :=
  { st with s := (st.s.forget n).1, forgotten := st.forgotten + (st.s.forget n).2 }

/-- `SemaphorePermit::forget` and `OwnedSemaphorePermit::forget` on the permit `p`:
its `permits` become 0, then it is dropped. -/
def permitForget (p : Nat) : Option State :=
  match st.permits[p]? with
  | some ⟨c, true⟩ =>
    State.releasePath { st with
      permits := st.permits.set p ⟨0, false⟩
      permitsForgotten := st.permitsForgotten + c } 0
  | _ => none

/-- `Drop` for `SemaphorePermit` and `OwnedSemaphorePermit` on the permit `p`:
`release(permits)`. -/
def permitDrop (p : Nat) : Option State :=
  match st.permits[p]? with
  | some ⟨c, true⟩ => { st with permits := st.permits.set p ⟨c, false⟩ }.releasePath c
  | _ => none

end State

@[simp] theorem Permit.held_live (c : Nat) : (⟨c, true⟩ : Permit).held = c := rfl
@[simp] theorem Permit.held_dead (c : Nat) : (⟨c, false⟩ : Permit).held = 0 := rfl

/-- One step. A future is identified by the id its waiter record carries. -/
def step (st : State) : Act → Option State
  | .tryAcquire n => some (st.tryAcquire n)
  | .acquire n => some (st.acquire n)
  | .poll i => st.poll i
  | .cancel i => st.cancel i
  | .release n => st.release n
  | .forget n => some (st.forget n)
  | .permitForget p => st.permitForget p
  | .drop p => st.permitDrop p

/-- What one step can do. -/
theorem step_cases {st st' : State} {a : Act} (h : step st a = some st') :
    (∃ n s', a = .tryAcquire n ∧ st.s.tryAcquire n = some s' ∧ st' = st.grant s' n) ∨
    (∃ n, a = .tryAcquire n ∧ st.s.tryAcquire n = none ∧ st' = st) ∨
    (∃ n s', a = .acquire n ∧ st.s.acquire st.next n = (s', true) ∧
      st' = { st.grant s' n with next := st.next + 1 }) ∨
    (∃ n s', a = .acquire n ∧ st.s.acquire st.next n = (s', false) ∧
      st' = { st with s := s', next := st.next + 1 }) ∨
    (∃ i w, a = .poll i ∧ st.notified.find? (·.id == i) = some w ∧
      st' = { st.grant st.s w.request with notified := st.notified.erase w }) ∨
    (∃ i w, a = .cancel i ∧ st.s.waiters.find? (·.id == i) = some w ∧
      { st with s := { st.s with waiters := st.s.waiters.erase w } }.releasePath w.credit =
        some st') ∨
    (∃ i w, a = .cancel i ∧ st.notified.find? (·.id == i) = some w ∧
      { st with notified := st.notified.erase w }.releasePath w.request = some st') ∨
    (∃ n st'', a = .release n ∧ st.releasePath n = some st'' ∧
      st' = { st'' with released := st''.released + n }) ∨
    (∃ n, a = .forget n ∧
      st' = { st with s := (st.s.forget n).1, forgotten := st.forgotten + (st.s.forget n).2 }) ∨
    (∃ p c, a = .permitForget p ∧ st.permits[p]? = some ⟨c, true⟩ ∧
      State.releasePath { st with
        permits := st.permits.set p ⟨0, false⟩
        permitsForgotten := st.permitsForgotten + c } 0 = some st') ∨
    (∃ p c, a = .drop p ∧ st.permits[p]? = some ⟨c, true⟩ ∧
      { st with permits := st.permits.set p ⟨c, false⟩ }.releasePath c = some st') := by
  cases a <;> simp only [step, State.tryAcquire, State.acquire, State.poll, State.cancel,
    State.release, State.forget, State.permitForget, State.permitDrop] at h
  case tryAcquire n =>
    split at h <;> cases h
    · exact .inl ⟨n, _, rfl, ‹_›, rfl⟩
    · exact .inr <| .inl ⟨n, rfl, ‹_›, rfl⟩
  case acquire n =>
    split at h <;> cases h
    · exact .inr <| .inr <| .inl ⟨n, _, rfl, ‹_›, rfl⟩
    · exact .inr <| .inr <| .inr <| .inl ⟨n, _, rfl, ‹_›, rfl⟩
  case poll i =>
    cases hw : st.notified.find? (·.id == i) <;> simp only [poll, hw, Option.map] at h <;> cases h
    exact .inr <| .inr <| .inr <| .inr <| .inl ⟨i, _, rfl, hw, rfl⟩
  case cancel i =>
    simp only [Semaphore.cancel] at h
    split at h
    · rw [Option.map_map] at h
      exact .inr <| .inr <| .inr <| .inr <| .inr <| .inl ⟨i, _, rfl, ‹_›, h⟩
    · split at h
      · rw [Option.map_map] at h
        exact .inr <| .inr <| .inr <| .inr <| .inr <| .inr <| .inl ⟨i, _, rfl, ‹_›, h⟩
      · cases h
  case release n =>
    obtain ⟨st'', h', rfl⟩ := Option.map_eq_some'.mp h
    exact .inr <| .inr <| .inr <| .inr <| .inr <| .inr <| .inr <| .inl ⟨n, st'', rfl, h', rfl⟩
  case forget n =>
    cases h
    exact .inr <| .inr <| .inr <| .inr <| .inr <| .inr <| .inr <| .inr <| .inl ⟨n, rfl, rfl⟩
  case permitForget p =>
    split at h
    · exact .inr <| .inr <| .inr <| .inr <| .inr <| .inr <| .inr <| .inr <| .inr <| .inl
        ⟨p, _, rfl, ‹_›, h⟩
    · cases h
  case drop p =>
    split at h
    · exact .inr <| .inr <| .inr <| .inr <| .inr <| .inr <| .inr <| .inr <| .inr <| .inr
        ⟨p, _, rfl, ‹_›, h⟩
    · cases h

/-- The state after a list of steps, if each can be taken. -/
def run (st : State) : List Act → Option State := runSteps step st

/-! ## Conservation -/

/-- The permits the semaphore accounts for: available, credited to queued
waiters, owed to woken futures, held by live permits, and forgotten. -/
def State.total (st : State) : Nat :=
  st.s.permits + (st.s.waiters.map Waiter.credit).sum + (st.notified.map Waiter.request).sum +
    (st.permits.map Permit.held).sum + st.forgotten + st.permitsForgotten

/-- The invariant of a semaphore made by `new(k)`. -/
structure Inv (k : Nat) (st : State) : Prop where
  total : st.total = k + st.released
  needed : ∀ w ∈ st.s.waiters, w.needed ≤ w.request

variable {k n : Nat} {st st' : State}

/-- `List.countP_set` for a sum, with the old element named. -/
theorem sum_map_set_add {β : Type} (f : β → Nat) (a : β) :
    ∀ {l : List β} {i : Nat} {b : β}, l[i]? = some b →
      ((l.set i a).map f).sum + f b = (l.map f).sum + f a
  | x :: l, 0, b, h => by
    simp only [List.getElem?_cons_zero, Option.some.injEq] at h
    subst h
    simp only [List.set_cons_zero, List.map_cons, List.sum_cons]
    omega
  | x :: l, i + 1, b, h => by
    have := sum_map_set_add f a (l := l) (i := i) (by simpa using h)
    simp only [List.set_cons_succ, List.map_cons, List.sum_cons]
    omega
  | [], _, _, h => by simp at h

/-- The release path adds the `n` it releases, and panics only past `u32::MAX`. -/
theorem releasePath_total (hw : ∀ w ∈ st.s.waiters, w.needed ≤ w.request)
    (h : st.releasePath n = some st') :
    st'.total = st.total + n ∧ (∀ w ∈ st'.s.waiters, w.needed ≤ w.request) ∧
      st'.released = st.released := by
  obtain ⟨⟨s', woken⟩, hr, rfl⟩ := Option.map_eq_some'.mp h
  obtain ⟨-, ha⟩ := Semaphore.release_eq_some hr
  obtain ⟨h1, h2, -, -⟩ := assign_credit (st.s.permits + n) st.s.waiters hw
  rw [ha] at h1 h2
  refine ⟨?_, h2, rfl⟩
  simp only [State.total, List.map_append, List.sum_append] at h1 ⊢
  omega

theorem releasePath_released (h : st.releasePath n = some st') : st'.released = st.released := by
  obtain ⟨_, -, rfl⟩ := Option.map_eq_some'.mp h
  rfl

theorem releasePath_isSome : (st.releasePath n).isSome ↔ st.s.permits + n ≤ u32Max := by
  simp [State.releasePath, Semaphore.release_isSome]

theorem grant_total {s' : Semaphore} (h : st.s.tryAcquire n = some s') :
    (st.grant s' n).total = st.total := by
  obtain ⟨-, hn, rfl⟩ := Semaphore.tryAcquire_eq_some h
  simp [State.total]
  omega

/-- Releasing `n` from a state that is short of exactly those `n` restores the
invariant. -/
theorem Inv.of_releasePath (hn : ∀ w ∈ st.s.waiters, w.needed ≤ w.request)
    (ht : st.total + n = k + st.released) (h : st.releasePath n = some st') : Inv k st' := by
  obtain ⟨h1, h2, h3⟩ := releasePath_total hn h
  exact ⟨by rw [h1, h3, ht], h2⟩

theorem Inv.step {a : Act} (hs : Inv k st) (h : step st a = some st') : Inv k st' := by
  have ht := hs.total
  rcases step_cases h with ⟨n, s', -, hs', rfl⟩ | ⟨n, -, -, rfl⟩ | ⟨n, s', -, hs', rfl⟩ |
    ⟨n, s', -, hs', rfl⟩ | ⟨i, w, -, hw, rfl⟩ | ⟨i, w, -, hw, h⟩ | ⟨i, w, -, hw, h⟩ |
    ⟨n, st'', -, h', rfl⟩ | ⟨n, -, rfl⟩ | ⟨p, c, -, hp, h⟩ | ⟨p, c, -, hp, h⟩
  · have ht' := grant_total hs'
    obtain ⟨-, -, rfl⟩ := Semaphore.tryAcquire_eq_some hs'
    exact ⟨ht'.trans ht, hs.needed⟩
  · exact hs
  · -- `acquire` takes the fast path
    obtain ⟨-, ht'⟩ | ⟨h, -⟩ := Semaphore.acquire_eq hs'
    · have hg := grant_total ht'
      obtain ⟨-, -, rfl⟩ := Semaphore.tryAcquire_eq_some ht'
      exact ⟨hg.trans ht, hs.needed⟩
    · cases h
  · -- `acquire` queues a waiter with no credit yet
    obtain ⟨h, -⟩ | ⟨-, rfl⟩ := Semaphore.acquire_eq hs'
    · cases h
    refine ⟨?_, fun w hw => ?_⟩
    · simp [State.total, Waiter.credit] at ht ⊢
      omega
    · rcases List.mem_append.mp hw with hw | hw
      · exact hs.needed w hw
      · simp only [List.mem_singleton] at hw
        simp [hw]
  · -- a woken future is polled: what it was owed is now held
    have := List.sum_map_erase Waiter.request (List.mem_of_find?_eq_some hw)
    refine ⟨?_, hs.needed⟩
    simp [State.total] at ht ⊢
    omega
  · -- a queued future is dropped: its credit is released
    have he := List.sum_map_erase Waiter.credit (List.mem_of_find?_eq_some hw)
    refine Inv.of_releasePath (fun v hv => hs.needed v (List.mem_of_mem_erase hv)) ?_ h
    simp only [State.total] at ht he ⊢
    omega
  · -- a woken future is dropped: what it was owed is released
    have he := List.sum_map_erase Waiter.request (List.mem_of_find?_eq_some hw)
    refine Inv.of_releasePath (by exact hs.needed) ?_ h
    simp only [State.total] at ht he ⊢
    omega
  · obtain ⟨h1, h2, h3⟩ := releasePath_total hs.needed h'
    refine ⟨?_, h2⟩
    simp only [State.total] at ht h1 h3 ⊢
    omega
  · refine ⟨?_, hs.needed⟩
    simp only [State.total, Semaphore.forget] at ht ⊢
    omega
  · -- a permit's `forget`: what it held is forgotten
    have he := sum_map_set_add Permit.held ⟨0, false⟩ hp
    refine Inv.of_releasePath (by exact hs.needed) ?_ h
    simp only [State.total, Permit.held_live, Permit.held_dead] at ht he ⊢
    omega
  · -- a permit's drop: what it held is released
    have he := sum_map_set_add Permit.held ⟨c, false⟩ hp
    refine Inv.of_releasePath (by exact hs.needed) ?_ h
    simp only [State.total, Permit.held_live, Permit.held_dead] at ht he ⊢
    omega

/-- Only `Semaphore::release` adds to the released total, and it adds what it is
passed. -/
theorem step_released {a : Act} (h : step st a = some st') :
    st'.released = st.released + a.released := by
  rcases step_cases h with ⟨_, _, rfl, -, rfl⟩ | ⟨_, rfl, -, rfl⟩ | ⟨_, _, rfl, -, rfl⟩ |
    ⟨_, _, rfl, -, rfl⟩ | ⟨_, _, rfl, -, rfl⟩ | ⟨_, _, rfl, -, h⟩ | ⟨_, _, rfl, -, h⟩ |
    ⟨n, _, rfl, hr, rfl⟩ | ⟨_, rfl, rfl⟩ | ⟨_, _, rfl, -, h⟩ | ⟨_, _, rfl, -, h⟩
  any_goals rfl
  any_goals exact (releasePath_released h :)
  exact congrArg (· + n) (releasePath_released hr)

/-- The released total is what the run passed to `Semaphore::release`. -/
theorem released_run (as : List Act) (h : run (State.new k) as = some st) :
    st.released = (as.map Act.released).sum := by
  simpa [State.new] using runSteps_sum State.released Act.released (fun _ _ _ h => step_released h)
    as h

theorem inv_new (k : Nat) : Inv k (State.new k) :=
  ⟨by simp [State.total, State.new, Semaphore.new], by simp [State.new, Semaphore.new]⟩

theorem inv_run (as : List Act) (h : run (State.new k) as = some st) : Inv k st :=
  runSteps_invariant_of (P := fun _ => True) (fun _ _ _ hs _ h => hs.step h) as (inv_new k)
    (fun _ _ => trivial) h

/-- Cancelling a pending future never overflows the counter: what it is credited or
owed is part of the total. -/
theorem cancel_isSome (ht : st.total ≤ u32Max) {i : Nat}
    (hi : st.s.waiters.find? (·.id == i) ≠ none ∨ st.notified.find? (·.id == i) ≠ none) :
    (step st (.cancel i)).isSome := by
  simp only [State.total] at ht
  simpa only [step, State.cancel, Option.isSome_map'] using Semaphore.cancel_isSome (by omega) hi

/-- Dropping or forgetting a live permit never overflows the counter: what it holds
is part of the total. -/
theorem drop_isSome (ht : st.total ≤ u32Max) {p c : Nat} (hp : st.permits[p]? = some ⟨c, true⟩) :
    (step st (.drop p)).isSome ∧ (step st (.permitForget p)).isSome := by
  have := sum_map_set_add Permit.held ⟨c, false⟩ hp
  simp only [State.total] at ht
  simp only [Permit.held_live, Permit.held_dead] at this
  simp only [step, State.permitDrop, State.permitForget, hp, releasePath_isSome]
  omega

/-- Permits are conserved: with no `acquire` pending, the available permits and
those the live permits hold are what `new(k)` made, plus what the run passed to
`release`, less what `forget` returned and what the forgotten permits held. With no
direct `release`, no permit's drop can overflow the counter. -/
theorem permit_conservation (k : Nat) (hk : k ≤ u32Max) (as : List Act) (st : State)
    (h : run (State.new k) as = some st) :
    (st.s.waiters = [] → st.notified = [] →
      st.s.availablePermits + (st.permits.map Permit.held).sum =
        k + (as.map Act.released).sum - st.forgotten - st.permitsForgotten) ∧
    ((∀ n, .release n ∉ as) →
      ∀ p c, st.permits[p]? = some ⟨c, true⟩ → (step st (.drop p)).isSome) := by
  have ht := (inv_run as h).total
  rw [released_run as h] at ht
  refine ⟨fun hw hn => ?_, fun hr p c hp => ?_⟩
  · simp only [State.total, hw, hn, List.map_nil, List.sum_nil] at ht
    simp only [Semaphore.availablePermits]
    omega
  · -- with no direct `release`, the total is `k`
    have h0 : (as.map Act.released).sum = 0 := List.sum_eq_zero fun x hx => by
      obtain ⟨a, ha, rfl⟩ := List.mem_map.mp hx
      cases a <;> first | rfl | exact absurd ha (hr _)
    exact (drop_isSome (by omega) hp).1

/-- On `new(3)`: a future takes 2 at once; a second one queues for 2, is woken by
`release(1)` and polled; the first permit is dropped, `forget(1)` removes one
permit, and the second permit is forgotten. -/
def traceAcquireRelease : List Act :=
  [.acquire 2, .acquire 2, .release 1, .poll 1, .drop 0, .forget 1, .permitForget 1]

theorem permit_conservation_acquire_release :
    ∃ st, run (State.new 3) traceAcquireRelease = some st ∧ st.s.availablePermits = 1 ∧
      st.s.availablePermits + (st.permits.map Permit.held).sum =
        3 + (traceAcquireRelease.map Act.released).sum - st.forgotten - st.permitsForgotten :=
  ⟨_, rfl, rfl, (permit_conservation 3 (by decide) traceAcquireRelease _ rfl).1 rfl rfl⟩

/-! ## Only an overflowing `release` panics -/

/-- In every state of a run of `new(k)`, while `k` and the permits ever released fit
in a `u32`, a step fails only when it names no pending future or no live permit, or
when it is a `Semaphore::release` that would overflow the counter: cancelling a
future, forgetting a permit and dropping one never panic. -/
theorem only_release_panics (k : Nat) (as : List Act) (st : State)
    (h : run (State.new k) as = some st) (hk : k + st.released ≤ u32Max) (a : Act)
    (ha : step st a = none) :
    (∃ i, a = .poll i ∧ st.notified.find? (·.id == i) = none) ∨
      (∃ i, a = .cancel i ∧ st.s.waiters.find? (·.id == i) = none ∧
        st.notified.find? (·.id == i) = none) ∨
      (∃ n, a = .release n ∧ u32Max < st.s.permits + n) ∨
      ∃ p, (a = .permitForget p ∨ a = .drop p) ∧ ∀ c, st.permits[p]? ≠ some ⟨c, true⟩ := by
  have ht : st.total ≤ u32Max := (inv_run as h).total ▸ hk
  cases a with
  | tryAcquire n | acquire n | forget n => cases ha
  | poll i =>
    simp only [step, State.poll] at ha
    split at ha
    · cases ha
    · next hp => exact .inl ⟨i, rfl, by simpa [poll] using hp⟩
  | cancel i =>
    refine .inr (.inl ⟨i, rfl, ?_⟩)
    by_contra hn
    simpa [ha] using cancel_isSome ht (not_and_or.mp hn)
  | release n =>
    simp only [step, State.release, Option.map_eq_none'] at ha
    have : ¬st.s.permits + n ≤ u32Max := releasePath_isSome.not.mp (by simp [ha])
    exact .inr (.inr (.inl ⟨n, rfl, by omega⟩))
  | permitForget p | drop p =>
    refine .inr (.inr (.inr ⟨p, by simp, fun c hp => ?_⟩))
    simpa [ha] using drop_isSome ht hp

theorem only_release_panics_poll :
    ∃ st, run (State.new 2) [.acquire 3] = some st ∧ step st (.poll 0) = none ∧
      st.notified.find? (·.id == 0) = none := by
  refine ⟨_, rfl, rfl, ?_⟩
  rcases only_release_panics 2 [.acquire 3] _ rfl (by decide) (.poll 0) rfl with
    ⟨_, h, hn⟩ | ⟨_, h, -⟩ | ⟨_, h, -⟩ | ⟨_, h | h, -⟩
  · cases h
    exact hn
  all_goals cases h

end mea.semaphore
