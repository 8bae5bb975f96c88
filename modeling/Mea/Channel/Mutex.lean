-- The channel mutex: at most one task is inside a critical section of `send` or
-- `recv`, and what that task read from the buffer stays true until it leaves.
-- The capacity bound of a bounded channel follows. The mutex is never held across
-- a suspension point, so it cannot deadlock: a task that is neither parked on a
-- condvar nor finished can run its next statement, or waits for the mutex and its
-- holder can run.
import Mea.Channel.Frame

namespace mea.channel

variable {α : Type} {s s' : State α} {i j k : Nat} {t t' u : Task α} {cv : Cv}

/-! ## The invariant -/

/-- The mutex is held exactly when one task is inside a critical section. -/
def LockInv (s : State α) : Prop :=
  s.tasks.countP Task.holdsLock = if s.locked then 1 else 0

/-- What a task inside a critical section read under the mutex: a full buffer
before it parks in `send`, room in a bounded buffer before it pushes, an empty
buffer before it reads `disconnected` in `recv` and before it parks there. -/
def HolderFact (s : State α) : Task α → Prop
  | .send _ _ .wait => s.isFull = true
  | .send _ _ .exit => ∀ c, s.capacity = some c → s.buffer.length < c ∨ s.disconnected = true
  | .send _ _ .push => ∀ c, s.capacity = some c → s.buffer.length < c
  | .recv _ .disc | .recv _ .wait => s.buffer = []
  | _ => True

structure MutexInv (s : State α) : Prop where
  lock : LockInv s
  holder : ∀ (k : Nat) (u : Task α), s.tasks[k]? = some u → HolderFact s u
  bound : ∀ c, s.capacity = some c → s.buffer.length ≤ c

/-! ## Frame lemmas -/

theorem isFull_false {c : Nat} (h : s.isFull = false) (hc : s.capacity = some c) :
    s.buffer.length < c := by
  simp only [State.isFull, hc, decide_eq_false_iff_not] at h
  omega

theorem holderFact_of_not_holdsLock (h : t.holdsLock = false) : HolderFact s t := by
  cases t with
  | send _ _ pc => cases pc <;> simp_all [HolderFact, Task.holdsLock]
  | recv _ pc => cases pc <;> simp_all [HolderFact, Task.holdsLock]
  | disconnect => trivial

theorem HolderFact.mono (h : HolderFact s t) (hb : s'.buffer = s.buffer)
    (hc : s'.capacity = s.capacity) (hd : s.disconnected = true → s'.disconnected = true) :
    HolderFact s' t := by
  have hf : s'.isFull = s.isFull := by simp only [State.isFull, hb, hc]
  cases t with
  | send _ _ pc =>
    cases pc <;> simp only [HolderFact, hf, hb, hc] at h ⊢
    case exit => exact fun c hc => (h c hc).imp_right hd
    all_goals exact h
  | recv _ pc => cases pc <;> simp only [HolderFact, hb] at h ⊢ <;> exact h
  | disconnect => trivial

theorem locked_of_holdsLock (hl : LockInv s) (ht : s.tasks[i]? = some t) (h : t.holdsLock) :
    s.locked = true := by
  have : 0 < s.tasks.countP Task.holdsLock :=
    List.countP_pos_iff.mpr ⟨t, List.getElem?_mem ht, h⟩
  unfold LockInv at hl
  split at hl <;> simp_all

/-- Two tasks inside a critical section are the same task. -/
theorem exclusive (hl : LockInv s) (hi : s.tasks[i]? = some t) (hk : s.tasks[k]? = some u)
    (ht : t.holdsLock) (hu : u.holdsLock) : k = i := by
  by_contra hne
  have := two_le_countP hi hk (Ne.symm hne) ht hu
  unfold LockInv at hl
  split at hl <;> omega

/-- A step of task `i` from `t` to `t'` keeps the invariant when the lock and the
buffer change as its critical section allows. -/
theorem MutexInv.of_set (hs : MutexInv s) (ht : s.tasks[i]? = some t)
    (htasks : s'.tasks = s.tasks.set i t')
    (hlock : (if s'.locked then 1 else 0) + (if t.holdsLock then 1 else 0) =
      (if s.locked then 1 else 0) + (if t'.holdsLock then 1 else 0))
    (hnew : HolderFact s' t') (hbuf : s'.buffer = s.buffer ∨ t.holdsLock = true)
    (hcap : s'.capacity = s.capacity) (hdisc : s.disconnected = true → s'.disconnected = true)
    (hbound : ∀ c, s.capacity = some c → s'.buffer.length ≤ c) : MutexInv s' := by
  refine ⟨?_, ?_, fun c hc => hbound c (hcap ▸ hc)⟩
  · have h1 := countP_set_add Task.holdsLock t' ht
    have h2 := hs.lock
    unfold LockInv at h2 ⊢
    rw [htasks]
    omega
  · intro k u hk
    rw [htasks] at hk
    rcases getElem?_set_cases hk with ⟨rfl, rfl⟩ | ⟨hki, hk⟩
    · exact hnew
    rcases hbuf with hb | hl
    · exact (hs.holder k u hk).mono hb hcap hdisc
    · cases hu : u.holdsLock
      · exact holderFact_of_not_holdsLock hu
      · exact absurd (exclusive hs.lock ht hk hl hu) hki

theorem MutexInv.of_frame (hs : MutexInv s) (htasks : s'.tasks = s.tasks)
    (hlock : s'.locked = s.locked) (hb : s'.buffer = s.buffer) (hc : s'.capacity = s.capacity)
    (hd : s'.disconnected = s.disconnected) : MutexInv s' :=
  ⟨by unfold LockInv; rw [htasks, hlock]; exact hs.lock,
    fun i t ht => (hs.holder i t (htasks ▸ ht)).mono hb hc (hd ▸ id),
    fun c h => hb ▸ hs.bound c (hc ▸ h)⟩

/-- A new task that does not hold the mutex. -/
theorem MutexInv.of_append (hs : MutexInv s) (hnew : t.holdsLock = false) :
    MutexInv { s with tasks := s.tasks ++ [t] } := by
  refine ⟨?_, ?_, hs.bound⟩
  · simpa [LockInv, hnew] using hs.lock
  · intro k u hk
    rcases getElem?_concat_cases hk with hk | ⟨-, rfl⟩
    · exact hs.holder k u hk
    · exact holderFact_of_not_holdsLock hnew

theorem holdsLock_wake (n : Bool) (h : t.parkedOn cv) :
    (t.wake n).holdsLock = false ∧ t.holdsLock = false := by
  rcases parkedOn_wake h with ⟨_, _, -, rfl, e⟩ | ⟨_, -, rfl, e⟩ <;> rw [e] <;>
    exact ⟨rfl, rfl⟩

theorem MutexInv.notifyOne (hs : MutexInv s) (h : s.notifyOne cv j = some s') : MutexInv s' := by
  rcases notifyOne_cases h with ⟨rfl, -⟩ | ⟨t, ht, hp, rfl⟩
  · exact hs
  · obtain ⟨h1, h2⟩ := holdsLock_wake true hp
    exact hs.of_set ht rfl (by simp [h1, h2]) (holderFact_of_not_holdsLock h1) (.inl rfl) rfl id
      hs.bound

theorem MutexInv.notifyAll (hs : MutexInv s) : MutexInv (s.notifyAll cv) := by
  have hw : ∀ t : Task α, (if t.parkedOn cv then t.wake true else t).holdsLock = t.holdsLock := by
    intro t
    split
    · obtain ⟨h1, h2⟩ := holdsLock_wake true ‹_›
      rw [h1, h2]
    · rfl
  refine ⟨?_, ?_, hs.bound⟩
  · simpa [LockInv, List.countP_map, Function.comp_def, hw] using hs.lock
  · intro k u hk
    simp only [State.notifyAll_tasks, List.getElem?_map, Option.map_eq_some'] at hk
    obtain ⟨u', hu', rfl⟩ := hk
    split
    · exact holderFact_of_not_holdsLock (holdsLock_wake true ‹_›).1
    · exact hs.holder k u' hu'

/-! ## Every step keeps the invariant -/

theorem MutexInv.sendStep {h : Nat} {v : α} {pc : SendPc α} (hs : MutexInv s)
    (ht : s.tasks[i]? = some (.send h v pc)) (hstep : sendStep s i h v j pc = some s') :
    MutexInv s' := by
  have hold := hs.holder i _ ht
  cases pc with
  | lock =>
    simp only [mea.channel.sendStep] at hstep
    split at hstep <;> cases hstep
    exact hs.of_set ht rfl (by simp_all [Task.holdsLock]) trivial (.inl rfl) rfl id hs.bound
  | entry =>
    simp only [mea.channel.sendStep] at hstep
    split at hstep <;> cases hstep
    · exact hs.of_set ht rfl (by simp [Task.holdsLock, locked_of_holdsLock hs.lock ht rfl])
        trivial (.inl rfl) rfl id hs.bound
    · exact hs.of_set ht rfl (by simp [Task.holdsLock]) trivial (.inl rfl) rfl id hs.bound
  | cond w =>
    simp only [mea.channel.sendStep] at hstep
    split at hstep <;> cases hstep
    · exact hs.of_set ht rfl (by simp [Task.holdsLock]) (by simp_all [HolderFact]) (.inl rfl)
        rfl id hs.bound
    · refine hs.of_set ht rfl (by simp [Task.holdsLock]) ?_ (.inl rfl) rfl id hs.bound
      intro c hc
      cases hf : s.isFull
      · exact .inl (isFull_false hf (by simpa using hc))
      · simp_all
  | wait =>
    cases hstep
    exact hs.of_set ht rfl (by simp [Task.holdsLock, locked_of_holdsLock hs.lock ht rfl])
      trivial (.inl rfl) rfl id hs.bound
  | relock =>
    simp only [mea.channel.sendStep] at hstep
    split at hstep <;> cases hstep
    exact hs.of_set ht rfl (by simp_all [Task.holdsLock]) trivial (.inl rfl) rfl id hs.bound
  | exit =>
    simp only [mea.channel.sendStep] at hstep
    split at hstep <;> cases hstep
    · exact hs.of_set ht rfl (by simp [Task.holdsLock, locked_of_holdsLock hs.lock ht rfl])
        trivial (.inl rfl) rfl id hs.bound
    · refine hs.of_set ht rfl (by simp [Task.holdsLock]) ?_ (.inl rfl) rfl id hs.bound
      intro c hc
      simpa [*] using hold c (by simpa using hc)
  | push =>
    cases hstep
    refine hs.of_set ht rfl (by simp [Task.holdsLock, locked_of_holdsLock hs.lock ht rfl])
      trivial (.inr rfl) rfl id ?_
    intro c hc
    have := hold c hc
    simp only [List.length_append, List.length_singleton]
    omega
  | notifyRecv | notifySend =>
    refine MutexInv.notifyOne ?_ hstep
    exact hs.of_set ht rfl (by simp [Task.holdsLock]) trivial (.inl rfl) rfl id hs.bound
  | parked | done | cancelled => cases hstep

theorem MutexInv.recvStep {h : Nat} {pc : RecvPc α} (hs : MutexInv s)
    (ht : s.tasks[i]? = some (.recv h pc)) (hstep : recvStep s i h j pc = some s') :
    MutexInv s' := by
  have hold := hs.holder i _ ht
  cases pc with
  | lock =>
    simp only [mea.channel.recvStep] at hstep
    split at hstep <;> cases hstep
    exact hs.of_set ht rfl (by simp_all [Task.holdsLock]) trivial (.inl rfl) rfl id hs.bound
  | pop w =>
    simp only [mea.channel.recvStep] at hstep
    split at hstep <;> cases hstep
    · next v rest hb =>
      refine hs.of_set ht rfl (by simp [Task.holdsLock]) trivial (.inr rfl) rfl id ?_
      intro c hc
      have := hs.bound c hc
      simp only [hb, List.length_cons] at this
      simp only
      omega
    · next hb =>
      exact hs.of_set ht rfl (by simp [Task.holdsLock]) hb (.inl rfl) rfl id hs.bound
  | popped v =>
    refine MutexInv.notifyOne ?_ hstep
    exact hs.of_set ht rfl (by simp [Task.holdsLock, locked_of_holdsLock hs.lock ht rfl])
      trivial (.inl rfl) rfl id hs.bound
  | disc =>
    simp only [mea.channel.recvStep] at hstep
    split at hstep <;> cases hstep
    · exact hs.of_set ht rfl (by simp [Task.holdsLock, locked_of_holdsLock hs.lock ht rfl])
        trivial (.inl rfl) rfl id hs.bound
    · exact hs.of_set ht rfl (by simp [Task.holdsLock]) hold (.inl rfl) rfl id hs.bound
  | wait =>
    cases hstep
    exact hs.of_set ht rfl (by simp [Task.holdsLock, locked_of_holdsLock hs.lock ht rfl])
      trivial (.inl rfl) rfl id hs.bound
  | relock =>
    simp only [mea.channel.recvStep] at hstep
    split at hstep <;> cases hstep
    exact hs.of_set ht rfl (by simp_all [Task.holdsLock]) trivial (.inl rfl) rfl id hs.bound
  | parked | done | cancelled => cases hstep

theorem MutexInv.disconnectStep {pc : DisconnectPc} (hs : MutexInv s)
    (ht : s.tasks[i]? = some (.disconnect pc)) (hstep : disconnectStep s i pc = some s') :
    MutexInv s' := by
  cases pc with
  | store =>
    cases hstep
    exact hs.of_set ht rfl (by simp [Task.holdsLock]) trivial (.inl rfl) rfl (fun _ => rfl)
      hs.bound
  | notifyAll =>
    cases hstep
    exact MutexInv.notifyAll
      (hs.of_set ht rfl (by simp [Task.holdsLock]) trivial (.inl rfl) rfl id hs.bound)
  | done => cases hstep

theorem MutexInv.taskStep (hs : MutexInv s) (ht : s.tasks[i]? = some t)
    (hstep : taskStep s i j t = some s') : MutexInv s' := by
  cases t with
  | send h v pc => exact hs.sendStep ht hstep
  | recv h pc => exact hs.recvStep ht hstep
  | disconnect pc => exact hs.disconnectStep ht hstep

theorem MutexInv.step {a : Act α} (hs : MutexInv s) (h : step s a = some s') :
    MutexInv s' := by
  rcases step_cases h with ⟨_, _, -, -, rfl⟩ | ⟨_, -, -, rfl⟩ | ⟨_, _, -, -, rfl⟩ |
    ⟨g, k, -, -, -, rfl⟩ | ⟨_, _, _, -, ht, hstep⟩ | ⟨_, t, -, ht, hp, rfl⟩ |
    ⟨_, t, -, ht, hp, rfl⟩ | ⟨_, t, -, ht, hp, rfl⟩
  · exact hs.of_append rfl
  · exact hs.of_append rfl
  · exact hs.of_frame (by simp) (by simp) (by simp) (by simp) (by simp)
  · have hd : MutexInv { s.setCnt k (s.cnt k - 1) with handles := s.handles.set g ⟨k, false⟩ } :=
      hs.of_frame (by simp) (by simp) (by simp) (by simp) (by simp)
    unfold State.dropHandle
    split
    · exact hd.of_append rfl
    · exact hd
  · exact hs.taskStep ht hstep
  · obtain ⟨h1, h2⟩ := hp.elim (holdsLock_wake false) (holdsLock_wake false)
    exact hs.of_set ht rfl (by simp [h1, h2]) (holderFact_of_not_holdsLock h1) (.inl rfl) rfl
      id hs.bound
  · exact hs.of_set ht rfl (by simp [Task.holdsLock_of_suspended hp])
      (holderFact_of_not_holdsLock Task.holdsLock_cancel) (.inl rfl) rfl id hs.bound
  · exact hs.of_set ht rfl (by simp [Task.holdsLock_of_woken hp])
      (holderFact_of_not_holdsLock Task.holdsLock_cancel) (.inl rfl) rfl id hs.bound

theorem mutexInv_new (c : Option Nat) : MutexInv (State.new c : State α) :=
  ⟨rfl, fun _ _ h => by simp [State.new] at h, fun _ h => by simp [State.new]⟩

theorem mutexInv_run {c : Option Nat} {as : List (Act α)}
    (h : run (State.new c) as = some s) : MutexInv s :=
  run_invariant (fun _ _ _ hs h => hs.step h) as (mutexInv_new c) h

/-- In every state of every run, at most one task is inside a critical section of
`send` or `recv`, and what it read under the mutex still holds: a `send` about to
push finds room in a bounded buffer, and a `recv` about to park finds it empty. -/
theorem critical_section (c : Option Nat) (as : List (Act α)) (s : State α)
    (h : run (State.new c) as = some s) :
    s.tasks.countP Task.holdsLock ≤ 1 ∧
      (∀ (i k : Nat) (v : α) (cap : Nat), s.tasks[i]? = some (.send k v .push) →
        s.capacity = some cap → s.buffer.length < cap) ∧
      ∀ i k : Nat, s.tasks[i]? = some (.recv k .wait) → s.buffer = [] := by
  have hs := mutexInv_run h
  refine ⟨?_, fun i k v cap ht hc => hs.holder i _ ht cap hc, fun i k ht => hs.holder i _ ht⟩
  rw [hs.lock]
  split <;> omega

theorem critical_section_push :
    ∃ s, run (bounded 1 : State Nat) [.send 0 5, .run 0 0, .run 0 0, .run 0 0, .run 0 0] = some s ∧
      s.tasks.countP Task.holdsLock ≤ 1 :=
  ⟨_, rfl, (critical_section (some 1) [.send 0 5, .run 0 0, .run 0 0, .run 0 0, .run 0 0] _ rfl).1⟩

/-! ## The capacity bound -/

/-- The buffer of `bounded(capacity)` never holds more than `capacity` values,
whatever the senders and receivers do. -/
theorem bounded_buffer_le (capacity : Nat) (as : List (Act α)) (s : State α)
    (h : run (bounded capacity) as = some s) : s.buffer.length ≤ capacity :=
  (mutexInv_run h).bound capacity ((Grows.run as h).capacity.trans rfl)

/-- On `bounded(2)`: two `send`s push and fill the buffer, and a third parks on it. -/
def traceFill : List (Act Nat) :=
  [.send 0 5] ++ List.replicate 5 (.run 0 0) ++ [.send 0 6] ++ List.replicate 5 (.run 1 0) ++
    [.send 0 7] ++ List.replicate 4 (.run 2 0)

theorem bounded_buffer_le_fill :
    ∃ s, run (bounded 2 : State Nat) traceFill = some s ∧ s.buffer = [5, 6] ∧
      s.tasks[2]? = some (.send 0 7 .parked) ∧ s.buffer.length ≤ 2 :=
  ⟨_, rfl, rfl, rfl, bounded_buffer_le 2 traceFill _ rfl⟩

/-! ## Which tasks can run -/

/-- The task cannot run now, whatever the others do: parked on a condvar until a
wakeup, or finished. -/
def Task.stopped : Task α → Bool
  | .send _ _ .parked | .send _ _ (.done _) | .send _ _ .cancelled => true
  | .recv _ .parked | .recv _ (.done _) | .recv _ .cancelled => true
  | .disconnect .done => true
  | _ => false

/-- The task's next statement takes the mutex: the `lock().await` of L145 or L201,
or the re-lock inside `Condvar::wait`. -/
def Task.locking : Task α → Bool
  | .send _ _ .lock | .send _ _ (.relock _) | .recv _ .lock | .recv _ (.relock _) => true
  | _ => false

/-- The holder of the mutex is neither stopped nor waiting for the mutex. -/
theorem Task.runnable_of_holdsLock (h : t.holdsLock) : t.stopped = false ∧ t.locking = false := by
  cases t with
  | send _ _ pc => cases pc <;> first | exact ⟨rfl, rfl⟩ | cases h
  | recv _ pc => cases pc <;> first | exact ⟨rfl, rfl⟩ | cases h
  | disconnect => cases h

/-- Some choice of the waiter it wakes lets `notify_one` go through. -/
theorem notifyOne_enabled (s : State α) (cv : Cv) : ∃ j, (s.notifyOne cv j).isSome := by
  by_cases h : s.tasks.any (·.parkedOn cv)
  · obtain ⟨t, ht, hp⟩ := List.any_eq_true.mp h
    obtain ⟨j, hj⟩ := List.mem_iff_getElem?.mp ht
    exact ⟨j, by simp [State.notifyOne, h, hj, hp]⟩
  · exact ⟨0, by simp [State.notifyOne, h]⟩

/-- A task that is not stopped runs its next statement when the mutex is free or
that statement does not take it. -/
theorem taskStep_enabled (hs : t.stopped = false) (hl : t.locking = true → s.locked = false) :
    ∃ j, (taskStep s i j t).isSome := by
  cases t with
  | send g v pc =>
    cases pc
    case notifyRecv | notifySend => exact notifyOne_enabled _ _
    case lock | relock => exact ⟨0, by simp [taskStep, sendStep, hl rfl]⟩
    case parked | done | cancelled => cases hs
    all_goals exact ⟨0, by simp only [taskStep, sendStep]; first | rfl | (split <;> rfl)⟩
  | recv g pc =>
    cases pc
    case popped => exact notifyOne_enabled _ _
    case lock | relock => exact ⟨0, by simp [taskStep, recvStep, hl rfl]⟩
    case parked | done | cancelled => cases hs
    all_goals exact ⟨0, by simp only [taskStep, recvStep]; first | rfl | (split <;> rfl)⟩
  | disconnect pc => cases pc <;> first | exact ⟨0, rfl⟩ | cases hs

/-- With the mutex held, some task holds it. -/
theorem LockInv.holder (hl : LockInv s) (h : s.locked = true) :
    ∃ (k : Nat) (u : Task α), s.tasks[k]? = some u ∧ u.holdsLock = true := by
  have : 0 < s.tasks.countP Task.holdsLock := by
    unfold LockInv at hl
    rw [hl, h]
    decide
  obtain ⟨u, hu, hh⟩ := List.countP_pos_iff.mp this
  obtain ⟨k, hk⟩ := List.mem_iff_getElem?.mp hu
  exact ⟨k, u, hk, hh⟩

/-- The channel never deadlocks on its mutex: in every state of every run, a task
that is neither parked on a condvar nor finished can run its next statement, or
it waits for the mutex and the task holding the mutex can run its own. -/
theorem no_deadlock (c : Option Nat) (as : List (Act α)) (s : State α)
    (h : run (State.new c) as = some s) (i : Nat) (t : Task α) (ht : s.tasks[i]? = some t)
    (hs : t.stopped = false) :
    (∃ j, (step s (.run i j)).isSome) ∨
      t.locking = true ∧ s.locked = true ∧ ∃ (k : Nat) (u : Task α) (j : Nat), s.tasks[k]? = some u ∧
        u.holdsLock = true ∧ (step s (.run k j)).isSome := by
  by_cases hw : t.locking = true ∧ s.locked = true
  · obtain ⟨k, u, hk, hu⟩ := (mutexInv_run h).lock.holder hw.2
    obtain ⟨h1, h2⟩ := Task.runnable_of_holdsLock hu
    obtain ⟨j, hj⟩ := taskStep_enabled (s := s) (i := k) h1 (by simp [h2])
    exact .inr ⟨hw.1, hw.2, k, u, j, hk, hu, by simpa [step, hk] using hj⟩
  · obtain ⟨j, hj⟩ := taskStep_enabled (s := s) (i := i) hs (by simpa using hw)
    exact .inl ⟨j, by simpa [step, ht] using hj⟩

theorem no_deadlock_waiting_sender :
    ∃ s, run (bounded 1 : State Nat) [.send 0 5, .send 0 6, .run 0 0] = some s ∧
      ((∃ j, (step s (.run 1 j)).isSome) ∨
        (Task.send 0 6 .lock).locking = true ∧ s.locked = true ∧
          ∃ (k : Nat) (u : Task Nat) (j : Nat), s.tasks[k]? = some u ∧ u.holdsLock = true ∧
            (step s (.run k j)).isSome) :=
  ⟨_, rfl, no_deadlock (some 1) [.send 0 5, .send 0 6, .run 0 0] _ rfl 1 _ rfl rfl⟩

end mea.channel
