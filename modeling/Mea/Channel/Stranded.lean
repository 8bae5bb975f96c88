-- A `recv` stranded on `receiver_wait`: only a `send` notifies that condvar, and
-- with no `Sender` left no `send` is in progress or can start. A `recv` parked
-- there when the last `Sender` goes is never woken by a notification.
import Mea.Channel.Endpoints
import Mea.Channel.Wakeup

namespace mea.channel

variable {α : Type} {s s' : State α} {i j k : Nat} {t u : Task α} {cv : Cv}

/-! ## What leaves a parked task alone -/

theorem setTask_getElem?_ne (hik : k ≠ i) (t : Task α) :
    (s.setTask i t).tasks[k]? = s.tasks[k]? := by
  simp [List.getElem?_set_ne (Ne.symm hik)]

/-- `notify_one` on a condvar leaves a task that is not parked there alone. -/
theorem notifyOne_keeps (h : s.notifyOne cv j = some s') (hk : s.tasks[k]? = some u)
    (hu : u.parkedOn cv = false) : s'.tasks[k]? = some u ∧ s'.sender_cnt = s.sender_cnt := by
  rcases notifyOne_cases h with ⟨rfl, -⟩ | ⟨t, ht, hp, rfl⟩
  · exact ⟨hk, rfl⟩
  · refine ⟨?_, rfl⟩
    by_cases hjk : k = j
    · subst hjk
      cases ht.symm.trans hk
      simp [hu] at hp
    · rw [setTask_getElem?_ne hjk, hk]

theorem notifyAll_keeps (hk : s.tasks[k]? = some u) (hu : u.parkedOn cv = false) :
    (s.notifyAll cv).tasks[k]? = some u := by
  simp [List.getElem?_map, hk, hu]

/-- A step of another task that is not a `send` notifying `receiver_wait` leaves a
task parked on `receiver_wait` alone, and `sender_cnt` too. -/
theorem taskStep_keeps_parked (hik : k ≠ i) (hk : s.tasks[k]? = some u)
    (hu : u.parkedOn .sender_wait = false) (hn : ∀ h (v : α), t ≠ .send h v .notifyRecv)
    (hstep : taskStep s i j t = some s') :
    s'.tasks[k]? = some u ∧ s'.sender_cnt = s.sender_cnt := by
  have hset : ∀ t', (s.setTask i t').tasks[k]? = some u := fun t' =>
    (setTask_getElem?_ne hik t').trans hk
  cases t with
  | send h v pc =>
    cases pc <;> simp only [taskStep, sendStep] at hstep
    case notifyRecv => exact absurd rfl (hn h v)
    case notifySend => exact (notifyOne_keeps hstep (hset _) hu :)
    all_goals first | cases hstep | (split at hstep <;> cases hstep)
    all_goals exact ⟨hset _, rfl⟩
  | recv h pc =>
    cases pc <;> simp only [taskStep, recvStep] at hstep
    case popped => exact (notifyOne_keeps hstep (hset _) hu :)
    case pop => split at hstep <;> cases hstep <;> exact ⟨hset _, rfl⟩
    all_goals first | cases hstep | (split at hstep <;> cases hstep)
    all_goals exact ⟨hset _, rfl⟩
  | disconnect pc =>
    cases pc <;> cases hstep
    · exact ⟨hset _, rfl⟩
    · exact ⟨notifyAll_keeps (hset _) hu, rfl⟩

/-! ## With no `Sender` left -/

/-- With `sender_cnt = 0` no handle of the sender side is live. -/
theorem EndpointInv.no_live_sender (hs : EndpointInv s) (h0 : s.sender_cnt = 0) {h : Nat} :
    s.handles[h]? ≠ some ⟨.sender, true⟩ := fun hh => by
  have := hs.cnt .sender ▸ liveCount_pos hh
  simp [State.cnt, h0] at this

/-- With no `Sender` left, a step keeps `sender_cnt` at 0 and leaves a `recv`
parked on `receiver_wait` where it is, unless that `recv` wakes spuriously or its
future is dropped. -/
theorem stranded_step {h : Nat} (hs : EndpointInv s) (h0 : s.sender_cnt = 0)
    (hk : s.tasks[k]? = some (.recv h .parked)) {a : Act α}
    (ha : a ≠ .spurious k ∧ a ≠ .cancel k)
    (hstep : step s a = some s') :
    s'.sender_cnt = 0 ∧ s'.tasks[k]? = some (.recv h .parked) := by
  rcases step_cases hstep with ⟨g, _, -, hl, rfl⟩ | ⟨_, -, -, rfl⟩ | ⟨g, side, -, hh, rfl⟩ |
    ⟨g, side, -, hh, -, rfl⟩ | ⟨i, _, t, -, ht, hstep⟩ | ⟨i, t, rfl, ht, -, rfl⟩ |
    ⟨i, t, rfl, ht, -, rfl⟩ | ⟨i, t, -, ht, hw, rfl⟩
  · exact absurd (by simpa [State.live] using hl) (hs.no_live_sender h0)
  · exact ⟨h0, getElem?_concat_of hk⟩
  · cases side
    · exact absurd hh (hs.no_live_sender h0)
    · refine ⟨?_, by simpa using hk⟩
      simpa [State.cnt] using (s.cloneHandle_cnt .receiver .sender).trans h0
  · cases side
    · exact absurd hh (hs.no_live_sender h0)
    · refine ⟨by simpa [State.cnt] using (s.dropHandle_cnt .receiver g .sender).trans h0, ?_⟩
      rw [State.dropHandle_tasks]
      split
      · exact getElem?_concat_of hk
      · exact hk
  · by_cases hik : k = i
    · subst hik
      cases ht.symm.trans hk
      simp [taskStep, recvStep] at hstep
    · have hn : ∀ g (v : α), t ≠ .send g v .notifyRecv := by
        rintro g v rfl
        have := hs.cnt_pos ht (h := g) (by simp [Task.borrows])
        simp [Task.side, State.cnt, h0] at this
      obtain ⟨e1, e2⟩ := taskStep_keeps_parked hik hk rfl hn hstep
      exact ⟨e2.trans h0, e1⟩
  · exact ⟨h0, (setTask_getElem?_ne (by rintro rfl; exact ha.1 rfl) _).trans hk⟩
  · exact ⟨h0, (setTask_getElem?_ne (by rintro rfl; exact ha.2 rfl) _).trans hk⟩
  · by_cases hik : k = i
    · subst hik
      cases ht.symm.trans hk
      simp [Task.woken] at hw
    · exact ⟨h0, (setTask_getElem?_ne hik _).trans hk⟩

/-- Once the last `Sender` is gone, a `recv` parked on `receiver_wait` stays parked
in every later state of every run, unless it wakes spuriously or its future is
dropped: no notification will ever reach it. -/
theorem parked_recv_stays (c : Option Nat) (as bs : List (Act α)) (s s' : State α) (k h : Nat)
    (hr : run (State.new c) as = some s) (h0 : s.sender_cnt = 0)
    (hk : s.tasks[k]? = some (.recv h .parked)) (hb : run s bs = some s')
    (hno : ∀ a ∈ bs, a ≠ .spurious k ∧ a ≠ .cancel k) :
    s'.tasks[k]? = some (.recv h .parked) :=
  (run_invariant_of
    (I := fun s => MutexInv s ∧ EndpointInv s ∧ s.sender_cnt = 0 ∧
      s.tasks[k]? = some (.recv h .parked))
    (fun _ _ _ hs ha hstep => ⟨hs.1.step hstep, hs.2.1.step hs.1 hstep,
      stranded_step hs.2.1 hs.2.2.1 hs.2.2.2 ha hstep⟩)
    bs ⟨mutexInv_run hr, (endpointInv_run hr).2, h0, hk⟩ hno hb).2.2.2

theorem parked_recv_stays_after_drop :
    ∃ s, run (unbounded : State Nat) traceLastSenderDropped = some s ∧ s.sender_cnt = 0 ∧
      s.tasks[0]? = some (.recv 1 .parked) ∧
      ∃ s', run s [.recv 1, .run 2 0, .run 2 0, .run 2 0] = some s' ∧
        s'.tasks[2]? = some (.recv 1 (.done (.error ()))) ∧ s'.tasks[0]? = some (.recv 1 .parked) :=
  ⟨_, rfl, rfl, rfl, _, rfl, rfl, parked_recv_stays none traceLastSenderDropped
    [.recv 1, .run 2 0, .run 2 0, .run 2 0] _ _ 0 1 rfl rfl rfl rfl (by simp)⟩

end mea.channel
