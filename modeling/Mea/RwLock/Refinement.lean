-- What the lock is for: readers share it, a writer holds it alone, and at most
-- `max_readers` readers hold it at once. With `max_readers ≥ 1` every step of the
-- lock, seen through its live read and write guards, is a step of this abstract lock,
-- and `try_read` and `try_write` decide by those guards and the pending futures alone.
import Mea.RwLock.Guards

namespace mea.rwlock

open mea.internal

/-! ## The abstract lock -/

/-- A reader–writer lock as its users see it: the readers and the writers inside. -/
structure Lock where
  readers : Nat
  writers : Nat
  deriving DecidableEq, Repr

/-- What can happen to the lock. `skip` is a step that leaves it alone. -/
inductive LockAct where
  | readLock
  | writeLock
  | readUnlock
  | writeUnlock
  | skip
  deriving DecidableEq, Repr

namespace Lock

def free : Lock := ⟨0, 0⟩

/-- One step of a lock that admits `m` readers at once: a reader enters when no
writer is inside and fewer than `m` readers are; a writer when nobody is. -/
def step (m : Nat) (l : Lock) : LockAct → Option Lock
  | .readLock => if l.writers = 0 ∧ l.readers < m then some ⟨l.readers + 1, 0⟩ else none
  | .writeLock => if l.writers = 0 ∧ l.readers = 0 then some ⟨0, 1⟩ else none
  | .readUnlock => if 0 < l.readers then some ⟨l.readers - 1, l.writers⟩ else none
  | .writeUnlock => if 0 < l.writers then some ⟨l.readers, l.writers - 1⟩ else none
  | .skip => some l

def run (m : Nat) : Lock → List LockAct → Option Lock := runSteps (step m)

/-- A writer is alone inside, and at most `m` readers are. -/
def Exclusive (m : Nat) (l : Lock) : Prop :=
  l.writers = 0 ∧ l.readers ≤ m ∨ l.writers = 1 ∧ l.readers = 0

variable {m : Nat} {l l' : Lock}

theorem Exclusive.step {b : LockAct} (hl : Exclusive m l) (h : step m l b = some l') :
    Exclusive m l' := by
  unfold Exclusive at hl ⊢
  cases b <;> simp only [Lock.step] at h
  all_goals first | (cases h; exact hl) | (split at h <;> cases h)
  all_goals dsimp only; omega

/-- Into an exclusive state, one reader or one writer more, one fewer, or no change
is an abstract step. -/
theorem exists_step (hx : Exclusive m l')
    (h : l'.readers = l.readers + 1 ∧ l'.writers = l.writers ∨
      l'.readers = l.readers ∧ l'.writers = l.writers + 1 ∨
      l.readers = l'.readers + 1 ∧ l'.writers = l.writers ∨
      l'.readers = l.readers ∧ l.writers = l'.writers + 1 ∨ l' = l) :
    ∃ b, step m l b = some l' := by
  obtain ⟨r, w⟩ := l
  obtain ⟨r', w'⟩ := l'
  unfold Exclusive at hx
  simp only [Lock.mk.injEq] at h hx ⊢
  rcases h with ⟨rfl, rfl⟩ | ⟨rfl, rfl⟩ | ⟨rfl, rfl⟩ | ⟨rfl, rfl⟩ | ⟨rfl, rfl⟩
  · exact ⟨.readLock, by simp [step]; omega⟩
  · exact ⟨.writeLock, by simp [step]; omega⟩
  · exact ⟨.readUnlock, by simp [step]⟩
  · exact ⟨.writeUnlock, by simp [step]⟩
  · exact ⟨.skip, rfl⟩

theorem exclusive_run (bs : List LockAct) (h : run m free bs = some l) : Exclusive m l :=
  runSteps_invariant_of (P := fun _ => True) (fun _ _ _ hl _ h => hl.step h) bs
    (.inl ⟨rfl, Nat.zero_le _⟩) (fun _ _ => trivial) h

end Lock

/-! ## The lock as the abstract lock -/

/-- The lock seen as the abstract lock: its live read and write guards. -/
def State.toLock (st : State) : Lock := ⟨readers st, writers st⟩

@[simp] theorem Guard.isRead_kill (u : Guard) : u.kill.isRead = false := by cases u <;> rfl
@[simp] theorem Guard.isWrite_kill (u : Guard) : u.kill.isWrite = false := by cases u <;> rfl

variable {st st' : State} {m : Nat}

/-- A step adds a guard of its call's kind, drops one, or leaves the guards; the
post-state's exclusion says the abstract lock allowed each new guard. -/
theorem step_toLock {a : Act} (hs : Inv m st) (hm : 0 < m) (h : step st a = some st') :
    ∃ b, Lock.step m st.toLock b = some st'.toLock := by
  refine Lock.exists_step ((hs.step h).exclusive hm) ?_
  simp only [State.toLock, Lock.mk.injEq, readers, writers]
  obtain ⟨-, hg | ⟨k, hg⟩ | ⟨g, u, hu, hg⟩⟩ := step_guards h
  · exact .inr (.inr (.inr (.inr ⟨by rw [hg], by rw [hg]⟩)))
  · cases k <;> simp [hg, Kind.guard, Guard.isRead, Guard.isWrite]
  · -- a dropped guard: a live one leaves, a dead one changes nothing
    have hr := countP_set_add Guard.isRead u.kill hu
    have hw := countP_set_add Guard.isWrite u.kill hu
    rw [← hg] at hr hw
    cases u with
    | read l => cases l <;> simp_all [Guard.isRead, Guard.isWrite, Guard.kill]
    | write n l => cases l <;> simp_all [Guard.isRead, Guard.isWrite, Guard.kill]

theorem run_toLock (hm : 0 < m) (as : List Act) (h : run (withMaxReaders m) as = some st) :
    ∃ bs, Lock.run m Lock.free bs = some st.toLock :=
  runSteps_simulate State.toLock (I := Inv m) (fun _ _ _ hs h => hs.step h)
    (fun _ _ _ hs h => step_toLock hs hm h) as (inv_new m) h

/-- The abstract lock's exclusion holds of every lock with `m ≥ 1`. -/
theorem toLock_exclusive (hm : 0 < m) (as : List Act) (h : run (withMaxReaders m) as = some st) :
    Lock.Exclusive m st.toLock :=
  have ⟨bs, hb⟩ := run_toLock hm as h
  Lock.exclusive_run bs hb

/-- With `1 ≤ max_readers`, the lock refines the abstract reader–writer lock that
admits `max_readers` readers: every reachable state, seen through its live guards,
is a state of the abstract lock, and every step from it is one abstract step: a
reader entering with no writer inside and room for it, a writer entering an empty
lock, a reader or writer leaving, or no change. So the abstract lock's exclusion
holds of it. -/
theorem rwlock_refines_lock (m : Nat) (hm : 0 < m) (as : List Act) (st : State)
    (h : run (withMaxReaders m) as = some st) :
    (∃ bs, Lock.run m Lock.free bs = some st.toLock) ∧
      (∀ a st', step st a = some st' → ∃ b, Lock.step m st.toLock b = some st'.toLock) ∧
      Lock.Exclusive m st.toLock :=
  ⟨run_toLock hm as h, fun _ _ hs => step_toLock (inv_run as h) hm hs, toLock_exclusive hm as h⟩

theorem rwlock_refines_lock_readers :
    ∃ st, run (withMaxReaders 2) [.read, .tryRead, .write] = some st ∧
      ∃ bs, Lock.run 2 Lock.free bs = some st.toLock :=
  ⟨_, rfl, (rwlock_refines_lock 2 (by decide) [.read, .tryRead, .write] _ rfl).1⟩

/-! ## What `try_read` and `try_write` decide -/

/-- `try_read()` or `try_write()` returns a guard exactly when no future is queued
and the semaphore has the permits the call asks for. -/
theorem attempt_guards (st : State) (k : Kind) :
    (st.attempt k).guards = st.guards ++ [k.guard st.max_readers] ↔
      st.s.waiters = [] ∧ k.permits st.max_readers ≤ st.s.permits := by
  by_cases hc : st.s.waiters = [] ∧ k.permits st.max_readers ≤ st.s.permits <;>
    simp [State.attempt, Semaphore.tryAcquire, List.isEmpty_iff, hc]

/-- With `m ≥ 1`, every woken future holds permits: it asks for 1 or for `m`. -/
theorem notified_request_sum (hs : Inv m st) (hm : 0 < m) :
    (st.notified.map Waiter.request).sum = 0 ↔ st.notified = [] := by
  refine ⟨fun h0 => List.eq_nil_iff_forall_not_mem.mpr fun w hw => ?_, fun h0 => by simp [h0]⟩
  obtain ⟨k, -, hr⟩ := hs.calls w (List.mem_append_right _ hw)
  have := List.sum_map_erase Waiter.request hw
  rw [hr, hs.max_readers] at this
  cases k <;> simp only [Kind.permits] at this <;> omega

/-- With `1 ≤ max_readers = m`, in every state of every run, `try_read` and `try_write`
decide by the lock's guards and pending futures alone. `try_read` returns a guard
exactly when no future is queued, no write guard lives, and the live read guards
and the permits of woken futures leave room for one more reader. `try_write`
returns one exactly when the lock is free: no live guard and no `read()` or
`write()` future queued or woken. -/
theorem try_lock_iff (m : Nat) (hm : 0 < m) (as : List Act) (st : State)
    (h : run (withMaxReaders m) as = some st) :
    (st.tryRead.guards = st.guards ++ [.read true] ↔
      st.s.waiters = [] ∧ writers st = 0 ∧ readers st + (st.notified.map Waiter.request).sum < m) ∧
      (st.tryWrite.guards = st.guards ++ [.write m true] ↔
        st.s.waiters = [] ∧ readers st = 0 ∧ writers st = 0 ∧ st.notified = []) := by
  have hs := inv_run as h
  have hb := permits_balance hs
  have hr := attempt_guards st .read
  have hw := attempt_guards st .write
  simp only [hs.max_readers, Kind.guard, Kind.permits] at hr hw
  rw [State.tryRead, State.tryWrite, hr, hw, ← notified_request_sum hs hm]
  by_cases hq : st.s.waiters = []
  · simp only [hq, List.map_nil, List.sum_nil, true_and] at hb ⊢
    -- `m * W` is `0` or `m`: a writer takes every permit
    rcases hs.exclusive hm with ⟨hw, -⟩ | ⟨hw, -⟩ <;> rw [hw] at hb ⊢ <;> omega
  · simp [hq]

theorem try_lock_iff_one_reader :
    ∃ st, run (withMaxReaders 2) [.read] = some st ∧
      (st.tryRead.guards = st.guards ++ [.read true] ↔
        st.s.waiters = [] ∧ writers st = 0 ∧ readers st + (st.notified.map Waiter.request).sum < 2) ∧
      (st.tryWrite.guards = st.guards ++ [.write 2 true] ↔
        st.s.waiters = [] ∧ readers st = 0 ∧ writers st = 0 ∧ st.notified = []) :=
  ⟨_, rfl, try_lock_iff 2 (by decide) [.read] _ rfl⟩

end mea.rwlock
