-- The capacity at its two ends. On `bounded(0)`, `is_full` holds of every buffer,
-- so a `send` waits on `sender_wait` until the channel disconnects and never
-- reaches `push_back`: no value is ever delivered, and the channel is not a
-- rendezvous. On `unbounded()`, `is_full` never holds, so a `send` never waits:
-- nobody is ever parked on `sender_wait`, and every `sender_wait.notify_one()` is lost.
import Mea.Channel.Closed

namespace mea.channel

variable {α : Type} {s s' : State α} {i j : Nat} {t : Task α}

/-! ## `bounded(0)` -/

/-- With capacity 0 no `send` stands at its push: it would have seen room. -/
theorem MutexInv.no_push (hm : MutexInv s) (hc : s.capacity = some 0) {i k : Nat} {v : α} :
    s.tasks[i]? ≠ some (.send k v .push) := fun ht => by
  have := hm.holder i _ ht 0 hc
  omega

/-- On `bounded(0)`, in every state of every run: no `send` stands at its push,
nothing was ever pushed or popped, the buffer is empty, and neither a `send` nor a
`recv` has returned `Ok`. -/
theorem bounded_zero_delivers_nothing (as : List (Act α)) (s : State α)
    (h : run (bounded 0) as = some s) :
    (∀ (i k : Nat) (v : α), s.tasks[i]? ≠ some (.send k v .push)) ∧
      s.pushed = [] ∧ s.popped = [] ∧ s.buffer = [] ∧
      (∀ (i k : Nat) (v : α), s.tasks[i]? ≠ some (.send k v (.done (.ok ())))) ∧
      ∀ (i k : Nat) (v : α), s.tasks[i]? ≠ some (.recv k (.done (.ok v))) := by
  obtain ⟨hm, hc, hp⟩ := run_invariant
    (I := fun s : State α => MutexInv s ∧ s.capacity = some 0 ∧ s.pushed = [])
    (fun _ _ _ hs hstep => ⟨hs.1.step hstep, (Grows.step hstep).capacity.trans hs.2.1,
      (pushed_step hstep).elim (·.trans hs.2.2)
        fun ⟨_, _, _, ht⟩ => absurd ht (hs.1.no_push hs.2.1)⟩)
    as ⟨mutexInv_new (some 0), rfl, rfl⟩ h
  have hl := logInv_run h
  have hf := hl.fifo
  rw [hp, List.map_nil, List.append_eq_nil] at hf
  refine ⟨fun _ _ _ => hm.no_push hc, hp, List.map_eq_nil_iff.mp hf.1, hf.2, fun i k v ht => ?_,
    fun i k v ht => ?_⟩
  · simpa [hp, entriesOf] using hl.sent_ok ht
  · simpa [List.map_eq_nil_iff.mp hf.1, entriesOf] using hl.received ht

theorem bounded_zero_send_waits :
    ∃ s, run (bounded 0 : State Nat) [.send 0 5, .run 0 0, .run 0 0, .run 0 0, .run 0 0] =
      some s ∧ s.pushed = [] :=
  ⟨_, rfl, (bounded_zero_delivers_nothing [.send 0 5, .run 0 0, .run 0 0, .run 0 0, .run 0 0]
    _ rfl).2.1⟩

/-! ## `unbounded()`: a `send` never enters its wait loop -/

/-- The `send` stands inside the loop of L150–152: about to register on
`sender_wait`, registered there, or re-taking the mutex after a wakeup. -/
def Task.waitsToSend : Task α → Bool
  | .send _ _ .wait | .send _ _ .parked | .send _ _ (.relock _) => true
  | _ => false

theorem Task.waitsToSend_wake (b : Bool) (h : t.waitsToSend = false) :
    (t.wake b).waitsToSend = false := by
  cases t with
  | send _ _ pc => cases pc <;> first | rfl | cases h
  | recv _ pc => cases pc <;> rfl
  | disconnect => rfl

theorem Task.waitsToSend_cancel (t : Task α) : t.cancel.waitsToSend = false := by
  cases t <;> rfl

/-- Only a `send` parks on `sender_wait`, inside its wait loop. -/
theorem Task.waitsToSend_of_parkedOn (h : t.parkedOn .sender_wait) : t.waitsToSend := by
  cases t with
  | send _ _ pc => cases pc <;> first | rfl | cases h
  | recv _ pc => cases pc <;> cases h
  | disconnect => cases h

/-- No task is inside the wait loop of `send`. -/
def NoSendWaits (s : State α) : Prop := EveryTask (fun _ u => u.waitsToSend = false) s

/-- On an unbounded channel a statement never enters the wait loop: the loop test
of L150 reads `is_full` as `false`. -/
theorem NoSendWaits.taskStep (hc : s.capacity = none) (hn : NoSendWaits s)
    (ht : s.tasks[i]? = some t) (hstep : taskStep s i j t = some s') : NoSendWaits s' := by
  have hw : ∀ (k : Nat) (u : Task α), u.waitsToSend = false → (u.wake true).waitsToSend = false :=
    fun _ _ => Task.waitsToSend_wake true
  have hf : s.isFull = false := by simp [State.isFull, hc]
  cases t with
  | send g v pc =>
    cases pc <;> simp only [mea.channel.taskStep, sendStep, hf, Bool.false_and] at hstep
    case notifyRecv | notifySend => exact (hn.of_set rfl (by rfl)).notifyOne hw hstep
    case wait => cases hn i _ ht
    all_goals first | cases hstep | (split at hstep <;> cases hstep)
    all_goals exact hn.of_set rfl (by rfl)
  | recv g pc =>
    cases pc <;> simp only [mea.channel.taskStep, recvStep] at hstep
    case popped => exact (hn.of_set rfl (by rfl)).notifyOne hw hstep
    all_goals first | cases hstep | (split at hstep <;> cases hstep)
    all_goals exact hn.of_set rfl (by rfl)
  | disconnect pc =>
    cases pc <;> cases hstep
    · exact hn.of_set rfl (by rfl)
    · exact (hn.of_set rfl (by rfl)).notifyAll hw

theorem NoSendWaits.step {a : Act α} (hc : s.capacity = none) (hn : NoSendWaits s)
    (h : step s a = some s') : NoSendWaits s' :=
  EveryTask.step hn (fun _ _ b => Task.waitsToSend_wake b) (fun _ u _ => u.waitsToSend_cancel)
    (fun _ _ => rfl) (fun _ => rfl) rfl (fun _ _ _ ht hs => hn.taskStep hc ht hs) h

/-- On `unbounded()` a `send` never waits: in every state of every run, no `send`
stands inside the loop of L150–152 (about to wait on `sender_wait`, registered
there, or re-taking the mutex after a wakeup), and no task is parked on
`sender_wait`. -/
theorem unbounded_send_never_waits (as : List (Act α)) (s : State α)
    (h : run unbounded as = some s) :
    (∀ (i g : Nat) (v : α) (pc : SendPc α), s.tasks[i]? = some (.send g v pc) →
      pc ≠ .wait ∧ pc ≠ .parked ∧ ∀ n, pc ≠ .relock n) ∧
      ∀ (i : Nat) (t : Task α), s.tasks[i]? = some t → t.parkedOn .sender_wait = false := by
  obtain ⟨-, hn⟩ := run_invariant (I := fun s : State α => s.capacity = none ∧ NoSendWaits s)
    (fun _ _ _ hs hstep => ⟨(Grows.step hstep).capacity.trans hs.1, hs.2.step hs.1 hstep⟩)
    as ⟨rfl, fun _ _ hu => by simp [unbounded, State.new] at hu⟩ h
  refine ⟨fun i g v pc ht => ?_, fun i t ht => ?_⟩
  · have := hn i _ ht
    refine ⟨?_, ?_, fun n => ?_⟩ <;> rintro rfl <;> cases this
  · exact Bool.eq_false_iff.mpr fun hp => by
      simpa [Task.waitsToSend_of_parkedOn hp] using hn i t ht

theorem unbounded_send_never_waits_two :
    ∃ s, run (unbounded : State Nat) [.send 0 5, .send 0 6, .run 0 0, .run 0 0, .run 0 0,
      .run 0 0] = some s ∧
      ∀ (i g : Nat) (v : Nat) (pc : SendPc Nat), s.tasks[i]? = some (.send g v pc) →
        pc ≠ .wait ∧ pc ≠ .parked ∧ ∀ n, pc ≠ .relock n :=
  ⟨_, rfl, (unbounded_send_never_waits [.send 0 5, .send 0 6, .run 0 0, .run 0 0, .run 0 0,
    .run 0 0] _ rfl).1⟩

end mea.channel
