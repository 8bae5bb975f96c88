-- After disconnection. The flag is never cleared, and a `send` called later
-- returns `SendError(v)` at its first check. Once the buffer has drained with no
-- push pending, nothing is pushed again and a `recv` called later returns `RecvError`.
import Mea.Channel.Delivery
import Mea.Channel.Mutex

namespace mea.channel

variable {α : Type} {s s' : State α} {n i j : Nat} {t t' u : Task α} {cv : Cv}

/-! ## A property of every task -/

/-- Every task satisfies `P`, which may read the task's index. -/
def EveryTask (P : Nat → Task α → Prop) (s : State α) : Prop :=
  ∀ k u, s.tasks[k]? = some u → P k u

section EveryTask

variable {P : Nat → Task α → Prop}

theorem EveryTask.of_set (h : EveryTask P s) (ht : s'.tasks = s.tasks.set i t) (hnew : P i t) :
    EveryTask P s' := fun k u hu => by
  rw [ht] at hu
  rcases getElem?_set_cases hu with ⟨rfl, rfl⟩ | ⟨-, hu⟩
  exacts [hnew, h k u hu]

theorem EveryTask.of_append (h : EveryTask P s) (hnew : P s.tasks.length t) :
    EveryTask P { s with tasks := s.tasks ++ [t] } := fun k u hu => by
  rcases getElem?_concat_cases hu with hu | ⟨rfl, rfl⟩
  exacts [h k u hu, hnew]

theorem EveryTask.notifyOne (h : EveryTask P s) (hw : ∀ k u, P k u → P k (u.wake true))
    (hs : s.notifyOne cv j = some s') : EveryTask P s' := by
  rcases notifyOne_cases hs with ⟨rfl, -⟩ | ⟨u, hu, -, rfl⟩
  exacts [h, h.of_set rfl (hw j u (h j u hu))]

theorem EveryTask.notifyAll (h : EveryTask P s) (hw : ∀ k u, P k u → P k (u.wake true)) :
    EveryTask P (s.notifyAll cv) := fun k u hu => by
  simp only [State.notifyAll_tasks, List.getElem?_map, Option.map_eq_some'] at hu
  obtain ⟨u, hu, rfl⟩ := hu
  split
  exacts [hw k u (h k u hu), h k u hu]

/-- A step keeps `EveryTask P` when `P` holds of each call as it starts, survives a
wakeup and a cancellation, and holds of what a running task becomes. -/
theorem EveryTask.step {a : Act α} (h : EveryTask P s) (hw : ∀ k u b, P k u → P k (u.wake b))
    (hc : ∀ k u, P k u → P k u.cancel) (hsend : ∀ g (v : α), P s.tasks.length (.send g v .lock))
    (hrecv : ∀ g, P s.tasks.length (.recv g .lock)) (hdisc : P s.tasks.length (.disconnect .store))
    (hrun : ∀ i j t, s.tasks[i]? = some t → taskStep s i j t = some s' → EveryTask P s')
    (hstep : step s a = some s') : EveryTask P s' := by
  rcases step_cases hstep with ⟨g, v, -, -, rfl⟩ | ⟨g, -, -, rfl⟩ | ⟨_, _, -, -, rfl⟩ |
    ⟨_, _, -, -, -, rfl⟩ | ⟨i, j, t, -, ht, hs⟩ | ⟨i, t, -, ht, -, rfl⟩ |
    ⟨i, t, -, ht, -, rfl⟩ | ⟨i, t, -, ht, -, rfl⟩
  · exact h.of_append (hsend g v)
  · exact h.of_append (hrecv g)
  · exact fun k u hu => h k u (by simpa using hu)
  · intro k u hu
    rw [State.dropHandle_tasks] at hu
    split at hu
    exacts [h.of_append hdisc k u hu, h k u hu]
  · exact hrun i j t ht hs
  · exact h.of_set rfl (hw i t false (h i t ht))
  all_goals exact h.of_set rfl (hc i t (h i t ht))

end EveryTask

/-! ## A `send` called after disconnection -/

/-- Where a `send` of `v` called after disconnection stands: waiting for the mutex,
holding it at the check of L146, returned `SendError(v)` there, or dropped. -/
def LateSend : Task α → Prop
  | .send _ v pc => pc = .lock ∨ pc = .entry ∨ pc = .done (.error v) ∨ pc = .cancelled
  | _ => True

@[simp] theorem lateSend_send {g : Nat} {v : α} {pc : SendPc α} :
    LateSend (.send g v pc) ↔ pc = .lock ∨ pc = .entry ∨ pc = .done (.error v) ∨ pc = .cancelled :=
  Iff.rfl

theorem LateSend.wake (b : Bool) (h : LateSend t) : LateSend (t.wake b) := by
  cases t with
  | send _ _ pc => rcases h with rfl | rfl | rfl | rfl <;> simp [Task.wake]
  | recv _ pc => cases pc <;> trivial
  | disconnect => trivial

theorem lateSend_cancel (t : Task α) : LateSend t.cancel := by
  cases t <;> simp [Task.cancel] <;> trivial

/-- The channel is disconnected, and every `send` from the `n`-th task on stands
where a call made after disconnection can. -/
structure Closed (n : Nat) (s : State α) : Prop where
  disconnected : s.disconnected = true
  late : EveryTask (fun k u => n ≤ k → LateSend u) s

theorem Closed.taskStep (hc : Closed n s) (ht : s.tasks[i]? = some t)
    (hstep : taskStep s i j t = some s') : EveryTask (fun k u => n ≤ k → LateSend u) s' := by
  have hw : ∀ k (u : Task α), (n ≤ k → LateSend u) → n ≤ k → LateSend (u.wake true) :=
    fun _ _ h hk => (h hk).wake true
  cases t with
  | send g v pc =>
    have hl : n ≤ i → LateSend (.send g v pc) := hc.late i _ ht
    cases pc <;> simp only [mea.channel.taskStep, sendStep] at hstep
    case notifyRecv | notifySend =>
      refine (hc.late.of_set rfl fun hi => ?_).notifyOne hw hstep
      simpa using hl hi
    all_goals first | cases hstep | (split at hstep <;> cases hstep)
    all_goals first
      | exact absurd hc.disconnected ‹_›
      | exact hc.late.of_set rfl fun hi => by have := hl hi; simp at this ⊢
  | recv g pc =>
    cases pc <;> simp only [mea.channel.taskStep, recvStep] at hstep
    case popped => exact (hc.late.of_set rfl fun _ => by trivial).notifyOne hw hstep
    all_goals first | cases hstep | (split at hstep <;> cases hstep)
    all_goals exact hc.late.of_set rfl fun _ => by trivial
  | disconnect pc =>
    cases pc <;> cases hstep
    · exact hc.late.of_set rfl fun _ => by trivial
    · exact (hc.late.of_set rfl fun _ => by trivial).notifyAll hw

theorem Closed.step {a : Act α} (hc : Closed n s) (h : step s a = some s') : Closed n s' :=
  ⟨(Grows.step h).disconnected hc.disconnected,
    hc.late.step (fun _ _ b h hk => (h hk).wake b) (fun _ u _ _ => lateSend_cancel u)
      (fun _ _ _ => .inl rfl) (fun _ _ => trivial) (fun _ => by trivial)
      (fun _ _ _ ht hs => hc.taskStep ht hs) h⟩

/-- Disconnection is final, and a `send` called after it never waits on
`sender_wait` and never pushes: it returns `SendError(v)` with its own value at the
check of L146, unless it is dropped first. -/
theorem send_after_disconnect (s s' : State α) (bs : List (Act α)) (hd : s.disconnected = true)
    (hb : run s bs = some s') :
    s'.disconnected = true ∧ ∀ (k g : Nat) (v : α) (pc : SendPc α), s.tasks.length ≤ k →
      s'.tasks[k]? = some (.send g v pc) →
      pc = .lock ∨ pc = .entry ∨ pc = .done (.error v) ∨ pc = .cancelled := by
  have hc : Closed s.tasks.length s' := run_invariant (fun _ _ _ hc h => hc.step h) bs
    ⟨hd, fun k _ hu hk => absurd (List.getElem?_eq_some_iff.mp hu).1 (by omega)⟩ hb
  exact ⟨hc.disconnected, fun k _ _ _ hk hu => hc.late k _ hu hk⟩

theorem send_after_disconnect_errs :
    ∃ s, run (unbounded : State Nat) [.drop 1, .run 0 0] = some s ∧
      (∃ s', run s [.send 0 7, .run 1 0, .run 1 0] = some s') ∧
      ∀ s', run s [.send 0 7, .run 1 0, .run 1 0] = some s' → s'.disconnected = true :=
  ⟨_, rfl, ⟨_, rfl⟩, fun s' hb => (send_after_disconnect _ s' _ (by rfl) hb).1⟩

/-! ## The buffer after it drained -/

/-- A `send` between the check of L154 and its `push_back`. -/
def Task.atPush : Task α → Bool
  | .send _ _ .push => true
  | _ => false

@[simp] theorem Task.atPush_wake (b : Bool) (t : Task α) : (t.wake b).atPush = t.atPush := by
  cases t with
  | send _ _ pc => cases pc <;> rfl
  | recv _ pc => cases pc <;> rfl
  | disconnect => rfl

@[simp] theorem Task.atPush_cancel (t : Task α) : t.cancel.atPush = false := by
  cases t <;> rfl

/-- The buffer changes only at a push, or at a pop of its head. -/
theorem buffer_step {a : Act α} (h : step s a = some s') :
    s'.buffer = s.buffer ∨ s'.buffer = s.buffer.tail ∨
      ∃ (i k : Nat) (v : α), s.tasks[i]? = some (.send k v .push) := by
  rcases step_cases h with ⟨_, _, -, -, rfl⟩ | ⟨_, -, -, rfl⟩ | ⟨_, _, -, -, rfl⟩ |
    ⟨_, _, -, -, -, rfl⟩ | ⟨i, _, t, -, ht, hstep⟩ | ⟨_, _, -, -, -, rfl⟩ |
    ⟨_, _, -, -, -, rfl⟩ | ⟨_, _, -, -, -, rfl⟩
  · exact .inl rfl
  · exact .inl rfl
  · exact .inl (by simp)
  · exact .inl (by simp)
  · have hn : ∀ {cv : Cv} {j : Nat} {s₀ : State α}, s₀.notifyOne cv j = some s' →
        s'.buffer = s₀.buffer := fun hs => by
      rcases notifyOne_cases hs with ⟨rfl, -⟩ | ⟨_, -, -, rfl⟩ <;> rfl
    cases t with
    | send k v pc =>
      cases pc <;> simp only [taskStep, sendStep] at hstep
      case push => exact .inr (.inr ⟨i, k, v, ht⟩)
      case notifyRecv | notifySend => exact .inl ((hn hstep).trans rfl)
      all_goals first | cases hstep | (split at hstep <;> cases hstep)
      all_goals exact .inl rfl
    | recv k pc =>
      cases pc <;> simp only [taskStep, recvStep] at hstep
      case popped => exact .inl ((hn hstep).trans rfl)
      case pop =>
        split at hstep <;> cases hstep
        · next hb => exact .inr (.inl (by rw [hb]; rfl))
        · exact .inl rfl
      all_goals first | cases hstep | (split at hstep <;> cases hstep)
      all_goals exact .inl rfl
    | disconnect pc => cases pc <;> cases hstep <;> exact .inl rfl
  all_goals exact .inl rfl

/-- Where a `recv` called after the buffer drained stands: waiting for the mutex, at
the `pop_front` of L203 or the check of L208, returned `RecvError`, or dropped. -/
def LateRecv : Task α → Prop
  | .recv _ pc => pc = .lock ∨ (∃ b, pc = .pop b) ∨ pc = .disc ∨ pc = .done (.error ()) ∨
      pc = .cancelled
  | _ => True

@[simp] theorem lateRecv_recv {g : Nat} {pc : RecvPc α} :
    LateRecv (.recv g pc) ↔
      pc = .lock ∨ (∃ b, pc = .pop b) ∨ pc = .disc ∨ pc = .done (.error ()) ∨ pc = .cancelled :=
  Iff.rfl

theorem LateRecv.wake (b : Bool) (h : LateRecv t) : LateRecv (t.wake b) := by
  cases t with
  | send _ _ pc => cases pc <;> trivial
  | recv _ pc => rcases h with rfl | ⟨_, rfl⟩ | rfl | rfl | rfl <;> simp [Task.wake]
  | disconnect => trivial

theorem lateRecv_cancel (t : Task α) : LateRecv t.cancel := by
  cases t <;> simp [Task.cancel] <;> trivial

/-- What a task may be once the channel is disconnected and drained: no `send` is
about to push, and every `recv` from the `n`-th task on stands where a call made
after the drain can. -/
def DrainedTask (n k : Nat) (u : Task α) : Prop := u.atPush = false ∧ (n ≤ k → LateRecv u)

/-- The channel is disconnected, its buffer is empty, and no push is pending. -/
structure Drained (n : Nat) (s : State α) : Prop where
  disconnected : s.disconnected = true
  empty : s.buffer = []
  late : EveryTask (DrainedTask n) s

theorem Drained.no_push (hd : Drained n s) {k g : Nat} {v : α} :
    s.tasks[k]? ≠ some (.send g v .push) := fun h => by
  simpa [DrainedTask, Task.atPush] using hd.late k _ h

theorem Drained.taskStep (hd : Drained n s) (ht : s.tasks[i]? = some t)
    (hstep : taskStep s i j t = some s') : EveryTask (DrainedTask n) s' := by
  have hw : ∀ k (u : Task α), DrainedTask n k u → DrainedTask n k (u.wake true) :=
    fun _ _ h => ⟨(Task.atPush_wake _ _).trans h.1, fun hk => (h.2 hk).wake true⟩
  cases t with
  | send g v pc =>
    cases pc <;> simp only [mea.channel.taskStep, sendStep] at hstep
    case push => exact absurd ht hd.no_push
    case notifyRecv | notifySend => exact (hd.late.of_set rfl ⟨by rfl, fun _ => by trivial⟩).notifyOne hw hstep
    all_goals first | cases hstep | (split at hstep <;> cases hstep)
    all_goals first
      | exact absurd hd.disconnected ‹_›
      | exact hd.late.of_set rfl ⟨by rfl, fun _ => by trivial⟩
  | recv g pc =>
    have hl : n ≤ i → LateRecv (.recv g pc) := (hd.late i _ ht).2
    cases pc <;> simp only [mea.channel.taskStep, recvStep] at hstep
    case popped =>
      refine (hd.late.of_set rfl ⟨by rfl, fun hi => ?_⟩).notifyOne hw hstep
      simpa using hl hi
    all_goals first | cases hstep | (split at hstep <;> cases hstep)
    all_goals first
      | exact absurd hd.disconnected ‹_›
      | exact absurd ‹s.buffer = _ :: _› (by simp [hd.empty])
      | exact hd.late.of_set rfl ⟨by rfl, fun hi => by have := hl hi; simp at this ⊢⟩
  | disconnect pc =>
    cases pc <;> cases hstep
    · exact hd.late.of_set rfl ⟨by rfl, fun _ => by trivial⟩
    · exact (hd.late.of_set rfl ⟨by rfl, fun _ => by trivial⟩).notifyAll hw

theorem Drained.step {a : Act α} (hd : Drained n s) (h : step s a = some s') : Drained n s' where
  disconnected := (Grows.step h).disconnected hd.disconnected
  empty := by
    rcases buffer_step h with hb | hb | ⟨_, _, _, hp⟩
    · exact hb.trans hd.empty
    · rw [hb, hd.empty, List.tail_nil]
    · exact absurd hp hd.no_push
  late := hd.late.step
    (fun _ _ b h => ⟨(Task.atPush_wake _ _).trans h.1, fun hk => (h.2 hk).wake b⟩)
    (fun _ u _ => ⟨Task.atPush_cancel u, fun _ => lateRecv_cancel u⟩)
    (fun _ _ => ⟨by rfl, fun _ => by trivial⟩) (fun _ => ⟨rfl, fun _ => .inl rfl⟩) ⟨by rfl, fun _ => by trivial⟩
    (fun _ _ _ ht hs => hd.taskStep ht hs) h

/-- Once the channel is disconnected and its buffer has drained, with no `send`
between its last check and its push, the buffer stays empty and nothing more is
pushed; a `recv` called afterwards never waits on `receiver_wait`: it returns
`RecvError` at the check of L208, unless it is dropped first. -/
theorem recv_after_drain (s s' : State α) (bs : List (Act α)) (hd : s.disconnected = true)
    (he : s.buffer = []) (hp : ∀ (i k : Nat) (v : α), s.tasks[i]? ≠ some (.send k v .push))
    (hb : run s bs = some s') :
    s'.buffer = [] ∧ s'.pushed = s.pushed ∧ ∀ (k g : Nat) (pc : RecvPc α), s.tasks.length ≤ k →
      s'.tasks[k]? = some (.recv g pc) →
      pc = .lock ∨ (∃ b, pc = .pop b) ∨ pc = .disc ∨ pc = .done (.error ()) ∨ pc = .cancelled := by
  have h0 : Drained s.tasks.length s := by
    refine ⟨hd, he, fun k u hu => ⟨?_, fun hk => absurd (List.getElem?_eq_some_iff.mp hu).1 (by omega)⟩⟩
    cases u with
    | send g v pc => cases pc <;> first | rfl | exact absurd hu (hp k g v)
    | recv | disconnect => rfl
  obtain ⟨hd', hp'⟩ := run_invariant
    (I := fun s' : State α => Drained s.tasks.length s' ∧ s'.pushed = s.pushed)
    (fun _ _ _ hs h => ⟨hs.1.step h,
      (pushed_step h).elim (·.trans hs.2) fun ⟨_, _, _, ht⟩ => absurd ht hs.1.no_push⟩)
    bs ⟨h0, rfl⟩ hb
  exact ⟨hd'.empty, hp', fun k _ _ hk hu => (hd'.late k _ hu).2 hk⟩

theorem recv_after_drain_errs :
    ∃ s, run (unbounded : State Nat) [.drop 0, .run 0 0] = some s ∧
      (∃ s', run s [.recv 1, .run 1 0, .run 1 0, .run 1 0] = some s') ∧
      ∀ s', run s [.recv 1, .run 1 0, .run 1 0, .run 1 0] = some s' → s'.buffer = [] :=
  ⟨_, rfl, ⟨_, rfl⟩, fun s' hb => (recv_after_drain _ s' _ (by rfl) (by rfl)
    (fun i k v h => by cases i <;> cases h) hb).1⟩

end mea.channel
