-- `mea::rwlock::RwLock` over `internal::Semaphore` with `max_readers` permits: a
-- read guard holds one permit, a write guard `max_readers`. Every run of the lock
-- is a run of the semaphore of `mea::semaphore` whose permits are the guards, so
-- the lock inherits its conservation and its fairness.
import Mea.Semaphore.Fairness

namespace mea.rwlock

open mea.internal

/-! ## The lock, its guards and its pending futures -/

/-- Which call made a future or a guard. -/
inductive Kind where
  | read
  | write
  deriving DecidableEq, Repr

/-- A `RwLockReadGuard`, or a `RwLockWriteGuard` with its `permits_acquired`;
and whether it is still alive. -/
inductive Guard where
  | read (live : Bool)
  | write (permits_acquired : Nat) (live : Bool)
  deriving DecidableEq, Repr

/-- One `RwLock`: `max_readers`, the semaphore `s`, the call each future was made
by, the futures woken and not polled yet, and the guards. -/
structure State where
  max_readers : Nat
  s : Semaphore
  calls : List Kind
  notified : List Waiter
  guards : List Guard
  deriving DecidableEq, Repr

/-- `RwLock::with_max_readers(t, max_readers)`. -/
def withMaxReaders (max_readers : Nat) : State := ⟨max_readers, .new max_readers, [], [], []⟩

/-- `RwLock::new(t)`: `with_max_readers(t, u32::MAX >> 1)`. -/
def new : State := withMaxReaders (u32Max >>> 1)

/-- The permits a call of this kind asks for: 1 for `read`, `max_readers` for `write`. -/
def Kind.permits (max_readers : Nat) : Kind → Nat
  | .read => 1
  | .write => max_readers

/-- The guard a call of this kind returns. -/
def Kind.guard (max_readers : Nat) : Kind → Guard
  | .read => .read true
  | .write => .write max_readers true

/-- What the guard's drop releases: 1 for a read guard, `permits_acquired` for a
write guard. -/
def Guard.permits : Guard → Nat
  | .read _ => 1
  | .write n _ => n

def Guard.live : Guard → Bool
  | .read l | .write _ l => l

/-- The guard once dropped. -/
def Guard.kill : Guard → Guard
  | .read _ => .read false
  | .write n _ => .write n false

@[simp] theorem Guard.permits_kill (u : Guard) : u.kill.permits = u.permits := by cases u <;> rfl
@[simp] theorem Guard.live_kill (u : Guard) : u.kill.live = false := by cases u <;> rfl

namespace State

variable (st : State)

/-- The first poll of `read()` or `write()`: `acquire` on the semaphore, and the
guard if it is ready. -/
def start (k : Kind) : State :=
  match st.s.acquire st.calls.length (k.permits st.max_readers) with
  | (s', true) =>
    { st with
      s := s'
      calls := st.calls ++ [k]
      guards := st.guards ++ [k.guard st.max_readers] }
  | (s', false) => { st with s := s', calls := st.calls ++ [k] }

/-- `try_read()` or `try_write()`: `try_acquire`, and the guard if it succeeds. -/
def attempt (k : Kind) : State :=
  match st.s.tryAcquire (k.permits st.max_readers) with
  | some s' => { st with s := s', guards := st.guards ++ [k.guard st.max_readers] }
  | none => st

/-- `RwLock::read`, first poll: `self.s.acquire(1)`. -/
def read : State := st.start .read

/-- `RwLock::write`, first poll: `self.s.acquire(self.max_readers)`. -/
def write : State := st.start .write

/-- `RwLock::try_read`: `self.s.try_acquire(1)`. -/
def tryRead : State := st.attempt .read

/-- `RwLock::try_write`: `self.s.try_acquire(self.max_readers)`. -/
def tryWrite : State := st.attempt .write

/-- `internal::Semaphore::release(n)`, with the futures it woke marked. -/
def releasePath (n : Nat) : Option State :=
  (st.s.release n).map fun r => { st with s := r.1, notified := st.notified ++ r.2 }

end State

/-- What happens next to the lock. -/
inductive Act where
  | read
  | tryRead
  | write
  | tryWrite
  /-- The woken future `i` is polled and returns its guard. -/
  | poll (i : Nat)
  /-- The pending future `i` is dropped. -/
  | cancel (i : Nat)
  /-- The guard `g` is dropped: `self.s.release(1)` or
  `self.s.release(self.permits_acquired)`. -/
  | drop (g : Nat)
  deriving DecidableEq, Repr

def step (st : State) : Act → Option State
  | .read => some st.read
  | .tryRead => some st.tryRead
  | .write => some st.write
  | .tryWrite => some st.tryWrite
  | .poll i =>
    match poll st.notified i, st.calls[i]? with
    | some (_, rest), some k =>
      some { st with notified := rest, guards := st.guards ++ [k.guard st.max_readers] }
    | _, _ => none
  | .cancel i =>
    (st.s.cancel st.notified i).map fun r => { st with s := r.1, notified := r.2.1 ++ r.2.2 }
  | .drop g =>
    match st.guards[g]? with
    | some u =>
      if u.live then { st with guards := st.guards.set g u.kill }.releasePath u.permits else none
    | none => none

def run (st : State) : List Act → Option State := runSteps step st

/-- What one step of the lock can do. -/
theorem step_cases {st st' : State} {a : Act} (h : step st a = some st') :
    (∃ k, st' = st.start k) ∨ (∃ k, st' = st.attempt k) ∨
    (∃ i w k, st.notified.find? (·.id == i) = some w ∧ st.calls[i]? = some k ∧
      st' = { st with
        notified := st.notified.erase w
        guards := st.guards ++ [k.guard st.max_readers] }) ∨
    (∃ i w, st.s.waiters.find? (·.id == i) = some w ∧
      { st with s := { st.s with waiters := st.s.waiters.erase w } }.releasePath w.credit =
        some st') ∨
    (∃ i w, st.s.waiters.find? (·.id == i) = none ∧ st.notified.find? (·.id == i) = some w ∧
      { st with notified := st.notified.erase w }.releasePath w.request = some st') ∨
    (∃ g, ∃ u : Guard, st.guards[g]? = some u ∧ u.live ∧
      { st with guards := st.guards.set g u.kill }.releasePath u.permits = some st') := by
  cases a <;> simp only [step] at h
  case read => cases h; exact .inl ⟨.read, rfl⟩
  case write => cases h; exact .inl ⟨.write, rfl⟩
  case tryRead => cases h; exact .inr <| .inl ⟨.read, rfl⟩
  case tryWrite => cases h; exact .inr <| .inl ⟨.write, rfl⟩
  case poll i =>
    cases hw : st.notified.find? (·.id == i) <;> cases hk : st.calls[i]? <;>
      simp only [poll, hw, hk, Option.map] at h <;> cases h
    exact .inr <| .inr <| .inl ⟨i, _, _, hw, hk, rfl⟩
  case cancel i =>
    simp only [Semaphore.cancel] at h
    split at h
    · rw [Option.map_map] at h
      exact .inr <| .inr <| .inr <| .inl ⟨i, _, ‹_›, h⟩
    · split at h
      · rw [Option.map_map] at h
        exact .inr <| .inr <| .inr <| .inr <| .inl ⟨i, _, ‹_›, ‹_›, h⟩
      · cases h
  case drop g =>
    split at h
    · split at h
      · exact .inr <| .inr <| .inr <| .inr <| .inr ⟨g, _, ‹_›, ‹_›, h⟩
      · cases h
    · cases h

/-! ## The lock is a client of the semaphore -/

/-- The guard as a permit of `mea::semaphore`: what its drop releases. -/
def Guard.toPermit (u : Guard) : semaphore.Permit := ⟨u.permits, u.live⟩

/-- The lock as a `mea::semaphore` state: the guards are its permits, and nothing
was released directly or forgotten. -/
def State.view (st : State) : semaphore.State :=
  ⟨st.s, st.notified, st.guards.map Guard.toPermit, st.calls.length, 0, 0, 0⟩

/-- Each waiter and each woken future asks for what its call asks for. -/
def Calls (st : State) : Prop :=
  ∀ w ∈ st.s.waiters ++ st.notified,
    ∃ k, st.calls[w.id]? = some k ∧ w.request = k.permits st.max_readers

variable {st st' : State} {n : Nat}

theorem releasePath_view : (st.releasePath n).map State.view = st.view.releasePath n := by
  unfold State.releasePath semaphore.State.releasePath
  change _ = Option.map _ (st.s.release n)
  cases st.s.release n <;> rfl

theorem releasePath_eq (h : st.releasePath n = some st') :
    st.view.releasePath n = some st'.view := by
  rw [← releasePath_view, h]
  rfl

/-- Dropping a guard is dropping its permit in the semaphore. -/
theorem drop_view (g : Nat) :
    (step st (.drop g)).map State.view = semaphore.step st.view (.drop g) := by
  cases hu : st.guards[g]? with
  | none => simp [step, semaphore.step, semaphore.State.permitDrop, State.view, hu]
  | some u =>
    cases hl : u.live <;> simp only [step, hu, hl, if_true, if_false, releasePath_view] <;>
      simp [semaphore.step, semaphore.State.permitDrop, State.view, hu, hl, Guard.toPermit,
        List.map_set]

@[simp] theorem Kind.guard_toPermit (m : Nat) (k : Kind) :
    (k.guard m).toPermit = ⟨k.permits m, true⟩ := by
  cases k <;> rfl

theorem start_view (k : Kind) :
    semaphore.step st.view (.acquire (k.permits st.max_readers)) = some (st.start k).view := by
  simp only [semaphore.step, semaphore.State.acquire, State.start, State.view]
  rcases st.s.acquire st.calls.length (k.permits st.max_readers) with ⟨s', _ | _⟩ <;>
    simp [semaphore.State.grant]

theorem attempt_view (k : Kind) :
    semaphore.step st.view (.tryAcquire (k.permits st.max_readers)) = some (st.attempt k).view := by
  simp only [semaphore.step, semaphore.State.tryAcquire, State.attempt, State.view]
  rcases st.s.tryAcquire (k.permits st.max_readers) with _ | s' <;> simp [semaphore.State.grant]

/-- Each step of the lock is a step of the semaphore with its guards as permits. -/
theorem step_view {a : Act} (hc : Calls st) (h : step st a = some st') :
    ∃ b, semaphore.step st.view b = some st'.view := by
  rcases step_cases h with ⟨k, rfl⟩ | ⟨k, rfl⟩ | ⟨i, w, k, hw, hk, rfl⟩ | ⟨i, w, hw, h⟩ |
    ⟨i, w, hw, hw', h⟩ | ⟨g, u, hu, hl, h⟩
  · exact ⟨_, start_view k⟩
  · exact ⟨_, attempt_view k⟩
  · -- the woken future asked for what its call asks for
    obtain ⟨k', hk', e⟩ := hc w (List.mem_append_right _ (List.mem_of_find?_eq_some hw))
    rw [show w.id = i by simpa using List.find?_some hw, hk] at hk'
    cases hk'
    exact ⟨.poll i, by
      simp [semaphore.step, semaphore.State.poll, State.view, poll, hw, e, semaphore.State.grant]⟩
  · exact ⟨.cancel i, by
      simp only [semaphore.step, semaphore.State.cancel, Semaphore.cancel, State.view, hw,
        Option.map_map]
      exact releasePath_eq h⟩
  · exact ⟨.cancel i, by
      simp only [semaphore.step, semaphore.State.cancel, Semaphore.cancel, State.view, hw, hw',
        Option.map_map]
      exact releasePath_eq h⟩
  · exact ⟨.drop g, by
      simpa [semaphore.step, semaphore.State.permitDrop, State.view, hu, hl, Guard.toPermit,
        List.map_set] using
        releasePath_eq h⟩

/-! ## What every reachable lock keeps -/

theorem releasePath_frame (h : st.releasePath n = some st') :
    st'.max_readers = st.max_readers ∧ st'.calls = st.calls ∧ st'.guards = st.guards := by
  obtain ⟨_, -, rfl⟩ := Option.map_eq_some'.mp h
  exact ⟨rfl, rfl, rfl⟩

/-- The waiters and woken futures after a release were waiters or woken futures
before, with the same ids and requests. -/
theorem releasePath_waiters (hn : ∀ w ∈ st.s.waiters, w.needed ≤ w.request)
    (h : st.releasePath n = some st') :
    ∀ w ∈ st'.s.waiters ++ st'.notified,
      ∃ w' ∈ st.s.waiters ++ st.notified, w.id = w'.id ∧ w.request = w'.request := by
  obtain ⟨⟨s', woken⟩, hr, rfl⟩ := Option.map_eq_some'.mp h
  have h4 := (assign_credit (st.s.permits + n) st.s.waiters hn).2.2.2
  rw [(Semaphore.release_eq_some hr).2] at h4
  intro w hw
  simp only [List.mem_append] at hw h4 ⊢
  rcases hw with hw | hw | hw
  · obtain ⟨w', hw', e⟩ := h4 w (.inr hw)
    exact ⟨w', .inl hw', e⟩
  · exact ⟨w, .inr hw, rfl, rfl⟩
  · obtain ⟨w', hw', e⟩ := h4 w (.inl hw)
    exact ⟨w', .inl hw', e⟩

theorem Calls.getElem?_append (hc : Calls st) {w : Waiter} (hw : w ∈ st.s.waiters ++ st.notified)
    (xs : List Kind) :
    ∃ k, (st.calls ++ xs)[w.id]? = some k ∧ w.request = k.permits st.max_readers := by
  obtain ⟨k, hk, e⟩ := hc w hw
  exact ⟨k, by rw [List.getElem?_append_left (List.getElem?_eq_some_iff.mp hk).1, hk], e⟩

/-- `Calls` survives a step that only appends calls and makes no new future. -/
theorem Calls.of_keeps (hc : Calls st) (hm : st'.max_readers = st.max_readers) (xs : List Kind)
    (hx : st'.calls = st.calls ++ xs)
    (hk : ∀ w ∈ st'.s.waiters ++ st'.notified,
      ∃ w' ∈ st.s.waiters ++ st.notified, w.id = w'.id ∧ w.request = w'.request) :
    Calls st' := by
  intro w hw
  obtain ⟨w', hw', hi, hr⟩ := hk w hw
  rw [hx, hi, hr, hm]
  exact hc.getElem?_append hw' xs

/-- `Calls` survives dropping waiters or woken futures. -/
theorem Calls.of_subset (hc : Calls st) (hm : st'.max_readers = st.max_readers)
    (hx : st'.calls = st.calls)
    (hs : st'.s.waiters ++ st'.notified ⊆ st.s.waiters ++ st.notified) :
    Calls st' :=
  hc.of_keeps hm [] (by rw [hx, List.append_nil]) fun v hv => ⟨v, hs hv, rfl, rfl⟩

theorem Calls.releasePath (hc : Calls st) (hn : ∀ w ∈ st.s.waiters, w.needed ≤ w.request)
    (h : st.releasePath n = some st') : Calls st' := by
  obtain ⟨e1, e2, -⟩ := releasePath_frame h
  exact hc.of_keeps e1 [] (by rw [e2, List.append_nil]) (releasePath_waiters hn h)

theorem Calls.start (hc : Calls st) (k : Kind) : Calls (st.start k) := by
  unfold State.start
  rcases e : st.s.acquire st.calls.length (k.permits st.max_readers) with ⟨s', _ | _⟩
  · obtain ⟨h, -⟩ | ⟨-, rfl⟩ := Semaphore.acquire_eq e
    · cases h
    intro w hw
    simp only [List.mem_append, List.mem_singleton] at hw
    rcases hw with (hw | rfl) | hw
    · exact hc.getElem?_append (List.mem_append_left _ hw) [k]
    · exact ⟨k, List.getElem?_concat_length _ _, rfl⟩
    · exact hc.getElem?_append (List.mem_append_right _ hw) [k]
  · obtain ⟨-, ht⟩ | ⟨h, -⟩ := Semaphore.acquire_eq e
    · obtain ⟨-, -, rfl⟩ := Semaphore.tryAcquire_eq_some ht
      exact fun w hw => hc.getElem?_append hw [k]
    · cases h

theorem Calls.attempt (hc : Calls st) (k : Kind) : Calls (st.attempt k) := by
  unfold State.attempt
  split
  · next s' hs =>
    obtain ⟨-, -, rfl⟩ := Semaphore.tryAcquire_eq_some hs
    exact hc
  · exact hc

theorem Calls.step (hc : Calls st) (hn : ∀ w ∈ st.s.waiters, w.needed ≤ w.request) {a : Act}
    (h : step st a = some st') : Calls st' := by
  rcases step_cases h with ⟨k, rfl⟩ | ⟨k, rfl⟩ | ⟨_, w, _, -, -, rfl⟩ | ⟨_, w, -, h⟩ |
    ⟨_, w, -, -, h⟩ | ⟨_, _, -, -, h⟩
  · exact hc.start k
  · exact hc.attempt k
  · exact hc.of_subset rfl rfl ((List.erase_sublist _ _).append_left _).subset
  · refine Calls.releasePath ?_ (fun v hv => hn v (List.mem_of_mem_erase hv)) h
    exact hc.of_subset rfl rfl ((List.erase_sublist _ _).append_right _).subset
  · refine Calls.releasePath ?_ (by exact hn) h
    exact hc.of_subset rfl rfl ((List.erase_sublist _ _).append_left _).subset
  · exact Calls.releasePath (by exact hc) (by exact hn) h

/-- What a step does to the guards: nothing, a new guard of its call's kind, or one
dropped; and `max_readers` never changes. -/
theorem step_guards {a : Act} (h : step st a = some st') :
    st'.max_readers = st.max_readers ∧
      (st'.guards = st.guards ∨
        (∃ k : Kind, st'.guards = st.guards ++ [k.guard st.max_readers]) ∨
        ∃ g u, st.guards[g]? = some u ∧ st'.guards = st.guards.set g u.kill) := by
  rcases step_cases h with ⟨k, rfl⟩ | ⟨k, rfl⟩ | ⟨_, _, k, -, -, rfl⟩ | ⟨_, _, -, h⟩ |
    ⟨_, _, -, -, h⟩ | ⟨g, u, hu, -, h⟩
  · unfold State.start
    split
    · exact ⟨rfl, .inr (.inl ⟨k, rfl⟩)⟩
    · exact ⟨rfl, .inl rfl⟩
  · unfold State.attempt
    split
    · exact ⟨rfl, .inr (.inl ⟨k, rfl⟩)⟩
    · exact ⟨rfl, .inl rfl⟩
  · exact ⟨rfl, .inr (.inl ⟨k, rfl⟩)⟩
  all_goals obtain ⟨e1, -, e3⟩ := releasePath_frame h
  · exact ⟨e1, .inl e3⟩
  · exact ⟨e1, .inl e3⟩
  · exact ⟨e1, .inr (.inr ⟨g, u, hu, e3⟩)⟩

variable {m : Nat}

theorem writes_step (hm : st.max_readers = m)
    (hw : ∀ n l, Guard.write n l ∈ st.guards → n = m)
    {a : Act} (h : step st a = some st') : ∀ n l, Guard.write n l ∈ st'.guards → n = m := by
  intro n l hl
  obtain ⟨-, hg | ⟨k, hg⟩ | ⟨g, u, hu, hg⟩⟩ := step_guards h <;> rw [hg] at hl
  · exact hw n l hl
  · rcases List.mem_append.mp hl with hl | hl
    · exact hw n l hl
    · cases k <;> simp [Kind.guard] at hl
      exact hl.1.symm ▸ hm
  · rcases List.mem_or_eq_of_mem_set hl with hl | hl
    · exact hw n l hl
    · cases u <;> simp [Guard.kill] at hl
      exact hw _ _ (hl.1 ▸ List.getElem?_mem hu)

/-- The invariant of `with_max_readers(m)`: each pending future asks for what its
call asks for, each write guard holds `max_readers` permits, and the semaphore seen
through the guards conserves its `m` permits. -/
structure Inv (m : Nat) (st : State) : Prop where
  max_readers : st.max_readers = m
  calls : Calls st
  writes : ∀ n l, Guard.write n l ∈ st.guards → n = m
  view : semaphore.Inv m st.view

theorem Inv.step {a : Act} (hs : Inv m st) (h : step st a = some st') : Inv m st' :=
  have ⟨_, hb⟩ := step_view hs.calls h
  ⟨(step_guards h).1.trans hs.max_readers, hs.calls.step hs.view.needed h,
    writes_step hs.max_readers hs.writes h, hs.view.step hb⟩

theorem inv_new (m : Nat) : Inv m (withMaxReaders m) :=
  ⟨rfl, by simp [Calls, withMaxReaders, Semaphore.new], by simp [withMaxReaders],
    semaphore.inv_new m⟩

theorem inv_run (as : List Act) (h : run (withMaxReaders m) as = some st) : Inv m st :=
  runSteps_invariant_of (P := fun _ => True) (fun _ _ _ hs _ h => hs.step h) as (inv_new m)
    (fun _ _ => trivial) h

/-- Every run of the lock is, through `State.view`, a run of the semaphore made by
`new(m)`: the lock is one more client of `mea::semaphore`. -/
theorem run_view (as : List Act) (h : run (withMaxReaders m) as = some st) :
    ∃ bs, semaphore.run (semaphore.State.new m) bs = some st.view :=
  runSteps_simulate State.view (I := Inv m) (fun _ _ _ hs h => hs.step h)
    (fun _ _ _ hs h => step_view hs.calls h) as (inv_new m) h

/-! ## Readers and writers -/

/-- A live read guard. -/
def Guard.isRead : Guard → Bool
  | .read l => l
  | .write _ _ => false

/-- A live write guard. -/
def Guard.isWrite : Guard → Bool
  | .read _ => false
  | .write _ l => l

/-- `R`, the live read guards. -/
def readers (st : State) : Nat := st.guards.countP Guard.isRead

/-- `W`, the live write guards. -/
def writers (st : State) : Nat := st.guards.countP Guard.isWrite

/-- The guards hold one permit for each reader and `m` for each writer. -/
theorem held_guards : ∀ gs : List Guard, (∀ n l, Guard.write n l ∈ gs → n = m) →
    ((gs.map Guard.toPermit).map semaphore.Permit.held).sum =
      gs.countP Guard.isRead + m * gs.countP Guard.isWrite
  | [], _ => rfl
  | u :: gs, hw => by
    have ih := held_guards gs fun n l hl => hw n l (List.mem_cons_of_mem u hl)
    simp only [List.map_cons, List.sum_cons, List.countP_cons, ih]
    cases u with
    | read l =>
      cases l <;> simp [Guard.toPermit, Guard.permits, Guard.live, Guard.isRead, Guard.isWrite]
      omega
    | write n l =>
      obtain rfl := hw n l (List.mem_cons_self _ _)
      cases l <;> simp [Guard.toPermit, Guard.permits, Guard.live, Guard.isRead, Guard.isWrite,
        Nat.mul_add]
      omega

/-- The `m` permits are available, credited to waiting futures, owed to woken
ones, or held: one by each reader and `m` by each writer. -/
theorem permits_balance (hs : Inv m st) :
    st.s.permits + (st.s.waiters.map Waiter.credit).sum + (st.notified.map Waiter.request).sum +
      readers st + m * writers st = m := by
  have ht := hs.view.total
  have hg := held_guards st.guards hs.writes
  simp only [semaphore.State.total, State.view] at ht
  simp only [readers, writers]
  omega

/-- With no future pending, the semaphore has `m - R - m * W` permits available. -/
theorem available_eq (as : List Act) (h : run (withMaxReaders m) as = some st)
    (hw : st.s.waiters = []) (hn : st.notified = []) :
    st.s.availablePermits = m - readers st - m * writers st := by
  have := permits_balance (inv_run as h)
  simp only [hw, hn, List.map_nil, List.sum_nil] at this
  simp only [Semaphore.availablePermits]
  omega

theorem Inv.exclusive (hs : Inv m st) (hm : 0 < m) :
    writers st = 0 ∧ readers st ≤ m ∨ writers st = 1 ∧ readers st = 0 := by
  have hb := permits_balance hs
  have h1 : m * writers st ≤ m * 1 := by omega
  rcases Nat.le_one_iff_eq_zero_or_eq_one.mp (Nat.le_of_mul_le_mul_left h1 hm) with hw | hw <;>
    rw [hw] at hb ⊢ <;> omega

/-- With `m ≥ 1`, a live write guard is the only live guard, and at most `m`
read guards live. -/
theorem guards_exclusive (hm : 0 < m) (as : List Act) (h : run (withMaxReaders m) as = some st) :
    writers st = 0 ∧ readers st ≤ m ∨ writers st = 1 ∧ readers st = 0 :=
  (inv_run as h).exclusive hm

/-- With `m` a `u32`, no guard's drop overflows the semaphore: it is a permit's drop
in the semaphore view, whose total is `m`. -/
theorem drop_isSome (hm : m ≤ u32Max) (as : List Act) (h : run (withMaxReaders m) as = some st)
    {g : Nat} {u : Guard} (hu : st.guards[g]? = some u) (hl : u.live) :
    (step st (.drop g)).isSome := by
  have ht := (inv_run as h).view.total
  rw [← Option.isSome_map' (f := State.view), drop_view]
  exact (semaphore.drop_isSome (by rw [ht]; exact hm)
    (show st.view.permits[g]? = some ⟨u.permits, true⟩ by
      simp [State.view, hu, Guard.toPermit, hl])).1

/-- With `m` a `u32`, cancelling a pending future never overflows the semaphore: what
it is credited or owed is part of the `m` permits. -/
theorem cancel_isSome (hm : m ≤ u32Max) (as : List Act) (h : run (withMaxReaders m) as = some st)
    {i : Nat} (hi : st.s.waiters.find? (·.id == i) ≠ none ∨ st.notified.find? (·.id == i) ≠ none) :
    (step st (.cancel i)).isSome := by
  have ht := (inv_run as h).view.total
  simp only [semaphore.State.total, State.view] at ht
  simpa only [step, Option.isSome_map'] using Semaphore.cancel_isSome (by omega) hi

/-- With `m` a `u32`, the lock never panics: in every state of every run, a step fails
only when it polls a future that was not woken, cancels a future that is not
pending, or drops a guard that is not live. -/
theorem rwlock_never_panics (m : Nat) (hm : m ≤ u32Max) (as : List Act) (st : State)
    (h : run (withMaxReaders m) as = some st) (a : Act) (ha : step st a = none) :
    (∃ i, a = .poll i ∧ st.notified.find? (·.id == i) = none) ∨
      (∃ i, a = .cancel i ∧ st.s.waiters.find? (·.id == i) = none ∧
        st.notified.find? (·.id == i) = none) ∨
      ∃ g, a = .drop g ∧ ∀ u, st.guards[g]? = some u → u.live = false := by
  cases a with
  | read | tryRead | write | tryWrite => cases ha
  | poll i =>
    refine .inl ⟨i, rfl, ?_⟩
    cases hw : st.notified.find? (·.id == i) with
    | none => rfl
    | some w =>
      -- a woken future's call is on record
      obtain ⟨k, hk, -⟩ := (inv_run as h).calls w (List.mem_append_right _ (List.mem_of_find?_eq_some hw))
      rw [show w.id = i by simpa using List.find?_some hw] at hk
      simp [mea.rwlock.step, poll, hw, hk] at ha
  | cancel i =>
    refine .inr (.inl ⟨i, rfl, ?_⟩)
    by_contra hn
    simpa [ha] using cancel_isSome hm as h (not_and_or.mp hn)
  | drop g =>
    refine .inr (.inr ⟨g, rfl, fun u hu => ?_⟩)
    by_contra hl
    simpa [ha] using drop_isSome hm as h hu (by simpa using hl)

theorem rwlock_never_panics_unknown_guard :
    ∃ st, run (withMaxReaders 1) [.write, .drop 0] = some st ∧ step st (.drop 0) = none ∧
      ∀ u, st.guards[0]? = some u → u.live = false := by
  refine ⟨_, rfl, rfl, ?_⟩
  obtain ⟨_, ⟨⟩, -⟩ | ⟨_, ⟨⟩, -⟩ | ⟨_, ⟨⟩, hl⟩ :=
    rwlock_never_panics 1 (by decide) [.write, .drop 0] _ rfl (.drop 0) rfl
  exact hl

/-- With `1 ≤ m ≤ u32::MAX`, in every state of every run: a live write guard is the only
live guard, and at most `m` read guards live; with no future pending, `m - R - m * W`
permits are available; and no guard's drop overflows the semaphore. -/
theorem rw_exclusion (m : Nat) (h1 : 0 < m) (h2 : m ≤ u32Max) (as : List Act) (st : State)
    (h : run (withMaxReaders m) as = some st) :
    (writers st = 0 ∧ readers st ≤ m ∨ writers st = 1 ∧ readers st = 0) ∧
      (st.s.waiters = [] → st.notified = [] →
        st.s.availablePermits = m - readers st - m * writers st) ∧
      ∀ g u, st.guards[g]? = some u → u.live → (step st (.drop g)).isSome :=
  ⟨guards_exclusive h1 as h, available_eq as h, fun _ _ hu hl => drop_isSome h2 as h hu hl⟩

theorem rw_exclusion_reader_waits :
    ∃ st, run (withMaxReaders 2) [.write, .read] = some st ∧
      (writers st = 0 ∧ readers st ≤ 2 ∨ writers st = 1 ∧ readers st = 0) :=
  ⟨_, rfl, (rw_exclusion 2 (by decide) (by decide) [.write, .read] _ rfl).1⟩

/-- The lock's futures are woken in the order they called `read` or `write` (a future's
id is the index of its call): a read queued behind a write is not woken while the write
waits, "read locks are not granted until prior write locks". The head of the queue
asks for more than is available. -/
theorem woken_in_order (m : Nat) (as : List Act) (st : State)
    (h : run (withMaxReaders m) as = some st) :
    (∀ w ∈ st.notified, ∀ v ∈ st.s.waiters, w.id < v.id) ∧
      st.s.waiters.Pairwise (fun v w => v.id < w.id) ∧
      (∀ w ∈ st.s.waiters ++ st.notified, w.id < st.calls.length) ∧
      ∀ w ws, st.s.waiters = w :: ws → st.s.permits < w.needed := by
  obtain ⟨bs, hb⟩ := run_view as h
  have hf := semaphore.fair_run bs hb
  exact ⟨hf.ordered.woken_first, hf.ordered.queued, hf.ordered.fresh, hf.head⟩

theorem woken_in_order_queue :
    ∃ st, run (withMaxReaders 1) [.write, .read, .write] = some st ∧
      st.s.waiters.Pairwise (fun v w => v.id < w.id) :=
  ⟨_, rfl, (woken_in_order 1 [.write, .read, .write] _ rfl).2.1⟩

/-- With `max_readers = 0` a write takes no permit: two `try_write`s both return a
guard. -/
theorem two_writers_at_zero_readers :
    ∃ st, run (withMaxReaders 0) [.tryWrite, .tryWrite] = some st ∧ writers st = 2 :=
  ⟨_, rfl, rfl⟩

end mea.rwlock
