-- Wakeups on the two condvars. While the channel is connected, a parked task is
-- never left waiting for a value or a slot that nobody is about to take or to
-- announce; at disconnection `Shared::disconnect` wakes only `sender_wait`.
import Mea.Channel.Mutex

namespace mea.channel

variable {α : Type} {s s' : State α} {i j : Nat} {t t' : Task α} {cv : Cv} {d d' : Nat}

/-! ## What the parked tasks are owed -/

namespace Task

/-- A `recv` woken by a notification on `receiver_wait` that has not read the
buffer again. -/
def notifiedRecv : Task α → Bool
  | recv _ (.relock true) | recv _ (.pop true) => true
  | _ => false

/-- A `send` that pushed and has not run `receiver_wait.notify_one()` (L161). -/
def pushPending : Task α → Bool
  | send _ _ .notifyRecv => true
  | _ => false

/-- A `send` woken by a notification on `sender_wait` that has not run the loop
test again. -/
def notifiedSend : Task α → Bool
  | send _ _ (.relock true) | send _ _ (.cond true) => true
  | _ => false

/-- A `send` past its loop test that has not pushed. -/
def slotClaimed : Task α → Bool
  | send _ _ .exit | send _ _ .push => true
  | _ => false

/-- A `recv` that popped and has not run `sender_wait.notify_one()` (L204). -/
def popPending : Task α → Bool
  | recv _ (.popped _) => true
  | _ => false

/-- The future was woken by a notification on its condvar and has not re-taken the
mutex: dropping it now gives up that wakeup. -/
def notified : Task α → Bool
  | send _ _ (.relock true) | recv _ (.relock true) => true
  | _ => false

/-- What one task adds to the right side of the bound for `receiver_wait`. -/
def recvCredit (t : Task α) : Nat :=
  (if t.notifiedRecv then 1 else 0) + (if t.pushPending then 1 else 0)

/-- What one task adds to the right side of the bound for `sender_wait`. -/
def sendCredit (t : Task α) : Nat :=
  (if t.notifiedSend then 1 else 0) + (if t.slotClaimed then 1 else 0) +
    (if t.popPending then 1 else 0)

end Task

/-- With a `recv` parked on `receiver_wait`, each buffered value is owed a
notified `recv` or a pending `notify_one`, up to `d` values. -/
def RecvBound (d : Nat) (s : State α) : Prop :=
  s.tasks.any (·.parkedOn .receiver_wait) →
    s.buffer.length ≤ s.tasks.countP Task.notifiedRecv + s.tasks.countP Task.pushPending + d

/-- With a `send` parked on `sender_wait`, each free slot is owed a notified
`send`, a `send` about to push or a pending `notify_one`, up to `d` slots. -/
def SendBound (d : Nat) (s : State α) : Prop :=
  ∀ c, s.capacity = some c → s.tasks.any (·.parkedOn .sender_wait) →
    c - s.buffer.length ≤ s.tasks.countP Task.notifiedSend + s.tasks.countP Task.slotClaimed +
      s.tasks.countP Task.popPending + d

/-! ## One task changes -/

theorem any_of_any_set {β : Type} {l : List β} {p : β → Bool} {a : β}
    (h : (l.set i a).any p) : l.any p ∨ p a := by
  obtain ⟨u, hu, hp⟩ := List.any_eq_true.mp h
  obtain ⟨k, hk⟩ := List.mem_iff_getElem?.mp hu
  rcases getElem?_set_cases hk with ⟨-, rfl⟩ | ⟨-, hk⟩
  · exact .inr hp
  · exact .inl (List.any_eq_true.mpr ⟨u, List.getElem?_mem hk, hp⟩)

theorem isFull_le {c : Nat} (h : s.isFull = true) (hc : s.capacity = some c) :
    c ≤ s.buffer.length := by
  simpa [State.isFull, hc] using h

/-- Task `i` goes from `t` to `t'`: the buffer may grow by what `t'` is owed more
than `t`, or become empty, and a newly parked `t'` finds it empty. -/
theorem RecvBound.of_set (hs : RecvBound d s) (ht : s.tasks[i]? = some t)
    (htasks : s'.tasks = s.tasks.set i t')
    (hb : s'.buffer = [] ∨
      s'.buffer.length + t.recvCredit + d ≤ s.buffer.length + t'.recvCredit + d')
    (hnew : t'.parkedOn .receiver_wait → s'.buffer = []) : RecvBound d' s' := by
  intro hany
  rcases hb with hb | hb
  · simp [hb]
  rw [htasks] at hany ⊢
  rcases any_of_any_set hany with hany | hp
  · have := hs hany
    have h1 := countP_set_add Task.notifiedRecv t' ht
    have h2 := countP_set_add Task.pushPending t' ht
    simp only [Task.recvCredit] at hb
    omega
  · simp [hnew hp]

/-- Task `i` goes from `t` to `t'`: the free slots may grow by what `t'` is owed
more than `t`, or run out, and a newly parked `t'` finds none. -/
theorem SendBound.of_set (hs : SendBound d s) (ht : s.tasks[i]? = some t)
    (htasks : s'.tasks = s.tasks.set i t') (hcap : s'.capacity = s.capacity)
    (hb : ∀ c, s.capacity = some c → c ≤ s'.buffer.length ∨
      c - s'.buffer.length + t.sendCredit + d ≤ c - s.buffer.length + t'.sendCredit + d')
    (hnew : ∀ c, s.capacity = some c → t'.parkedOn .sender_wait → c ≤ s'.buffer.length) :
    SendBound d' s' := by
  intro c hc hany
  rw [hcap] at hc
  rcases hb c hc with hb | hb
  · omega
  rw [htasks] at hany ⊢
  rcases any_of_any_set hany with hany | hp
  · have := hs c hc hany
    have h1 := countP_set_add Task.notifiedSend t' ht
    have h2 := countP_set_add Task.slotClaimed t' ht
    have h3 := countP_set_add Task.popPending t' ht
    simp only [Task.sendCredit] at hb
    omega
  · have := hnew c hc hp
    omega

theorem RecvBound.quiet (hs : RecvBound d s) (ht : s.tasks[i]? = some t)
    (htasks : s'.tasks = s.tasks.set i t') (hbuf : s'.buffer = s.buffer)
    (hr : t.recvCredit ≤ t'.recvCredit) (hp : t'.parkedOn .receiver_wait = false) :
    RecvBound d s' :=
  hs.of_set ht htasks (.inr (by rw [hbuf]; omega)) (by simp [hp])

theorem SendBound.quiet (hs : SendBound d s) (ht : s.tasks[i]? = some t)
    (htasks : s'.tasks = s.tasks.set i t') (hcap : s'.capacity = s.capacity)
    (hbuf : s'.buffer = s.buffer) (hr : t.sendCredit ≤ t'.sendCredit)
    (hp : t'.parkedOn .sender_wait = false) : SendBound d s' :=
  hs.of_set ht htasks hcap (fun _ _ => .inr (by rw [hbuf]; omega)) (by simp [hp])

/-- New tasks, from a call or a drop, start owed nothing and parked nowhere. -/
theorem RecvBound.of_tasks (hs : RecvBound d s) (hbuf : s'.buffer = s.buffer)
    (htasks : s'.tasks = s.tasks ∨ ∃ t : Task α, s'.tasks = s.tasks ++ [t] ∧
      t.parkedOn .receiver_wait = false) : RecvBound d s' := by
  intro hany
  rw [hbuf]
  rcases htasks with e | ⟨t, e, hp⟩ <;> rw [e] at hany ⊢
  · exact hs hany
  · simp only [List.any_append, List.any_cons, List.any_nil, hp, Bool.or_false,
      List.countP_append] at hany ⊢
    have := hs hany
    omega

theorem SendBound.of_tasks (hs : SendBound d s) (hbuf : s'.buffer = s.buffer)
    (hcap : s'.capacity = s.capacity)
    (htasks : s'.tasks = s.tasks ∨ ∃ t : Task α, s'.tasks = s.tasks ++ [t] ∧
      t.parkedOn .sender_wait = false) : SendBound d s' := by
  intro c hc hany
  rw [hbuf]
  rw [hcap] at hc
  rcases htasks with e | ⟨t, e, hp⟩ <;> rw [e] at hany ⊢
  · exact hs c hc hany
  · simp only [List.any_append, List.any_cons, List.any_nil, hp, Bool.or_false,
      List.countP_append] at hany ⊢
    have := hs c hc hany
    omega

/-! ## Wakeups -/

/-- A wakeup of a parked task, by a notification or spurious, loses nothing owed. -/
theorem RecvBound.wake (n : Bool) (hs : RecvBound d s) (ht : s.tasks[i]? = some t)
    (hp : t.parkedOn cv) : RecvBound d (s.setTask i (t.wake n)) := by
  rcases parkedOn_wake hp with ⟨_, _, -, rfl, e⟩ | ⟨_, -, rfl, e⟩ <;>
    exact hs.quiet ht rfl rfl (Nat.zero_le _) (by simp [e, Task.parkedOn])

theorem SendBound.wake (n : Bool) (hs : SendBound d s) (ht : s.tasks[i]? = some t)
    (hp : t.parkedOn cv) : SendBound d (s.setTask i (t.wake n)) := by
  rcases parkedOn_wake hp with ⟨_, _, -, rfl, e⟩ | ⟨_, -, rfl, e⟩ <;>
    exact hs.quiet ht rfl rfl rfl (Nat.zero_le _) (by simp [e, Task.parkedOn])

theorem RecvBound.notifyOne (hs : RecvBound d s) (h : s.notifyOne cv j = some s') :
    RecvBound d s' := by
  rcases notifyOne_cases h with ⟨rfl, -⟩ | ⟨t, ht, hp, rfl⟩
  · exact hs
  · exact hs.wake true ht hp

theorem SendBound.notifyOne (hs : SendBound d s) (h : s.notifyOne cv j = some s') :
    SendBound d s' := by
  rcases notifyOne_cases h with ⟨rfl, -⟩ | ⟨t, ht, hp, rfl⟩
  · exact hs
  · exact hs.wake true ht hp

/-- `receiver_wait.notify_one()` pays one value owed: it wakes a parked `recv`,
or none is parked. -/
theorem RecvBound.notifyOne_recv (hs : RecvBound (d + 1) s)
    (h : s.notifyOne .receiver_wait j = some s') : RecvBound d s' := by
  rcases notifyOne_cases h with ⟨rfl, hno⟩ | ⟨t, ht, hp, rfl⟩
  · intro hany
    obtain ⟨u, hu, hp⟩ := List.any_eq_true.mp hany
    simp [hno u hu] at hp
  · rcases parkedOn_wake hp with ⟨_, _, h, -, -⟩ | ⟨_, -, rfl, e⟩
    · cases h
    · exact hs.of_set ht rfl
        (.inr (by simp [e, Task.recvCredit, Task.notifiedRecv, Task.pushPending]; omega))
        (by simp [e, Task.parkedOn])

/-- `sender_wait.notify_one()` pays one slot owed: it wakes a parked `send`, or
none is parked. -/
theorem SendBound.notifyOne_send (hs : SendBound (d + 1) s)
    (h : s.notifyOne .sender_wait j = some s') : SendBound d s' := by
  rcases notifyOne_cases h with ⟨rfl, hno⟩ | ⟨t, ht, hp, rfl⟩
  · intro _ _ hany
    obtain ⟨u, hu, hp⟩ := List.any_eq_true.mp hany
    simp [hno u hu] at hp
  · rcases parkedOn_wake hp with ⟨_, _, -, rfl, e⟩ | ⟨_, h, -, -⟩
    · exact hs.of_set ht rfl rfl (fun _ _ => .inr (by
          simp [e, Task.sendCredit, Task.notifiedSend, Task.slotClaimed, Task.popPending]; omega))
        (by simp [e, Task.parkedOn])
    · cases h

/-- `sender_wait.notify_all()` wakes only `send`s: nothing a `recv` waits for moves. -/
theorem wake_sender_eq {p : Task α → Bool}
    (hp : ∀ h v, p (.send h v (.relock true)) = p (.send h v .parked)) (t : Task α) :
    p (if t.parkedOn .sender_wait then t.wake true else t) = p t := by
  split
  · rcases parkedOn_wake ‹_› with ⟨_, _, -, rfl, e⟩ | ⟨_, h, -, -⟩
    · rw [e]; exact hp _ _
    · cases h
  · rfl

theorem RecvBound.notifyAll (hs : RecvBound d s) : RecvBound d (s.notifyAll .sender_wait) := by
  simpa only [RecvBound, State.notifyAll_tasks, State.notifyAll_buffer, List.countP_map,
    List.any_map, Function.comp_def, wake_sender_eq (p := Task.notifiedRecv) (fun _ _ => rfl),
    wake_sender_eq (p := Task.pushPending) (fun _ _ => rfl),
    wake_sender_eq (p := (·.parkedOn .receiver_wait)) (fun _ _ => rfl)] using hs

/-- After `sender_wait.notify_all()` no `send` is parked. -/
theorem SendBound.notifyAll : SendBound d (s.notifyAll .sender_wait) := by
  intro _ _ hany
  simp only [State.notifyAll_tasks, List.any_map, List.any_eq_true, Function.comp_apply] at hany
  obtain ⟨t, -, hp⟩ := hany
  by_cases hk : t.parkedOn .sender_wait
  · rcases parkedOn_wake hk with ⟨_, _, -, -, e⟩ | ⟨_, h, -, -⟩
    · rw [if_pos hk, e] at hp
      simp [Task.parkedOn] at hp
    · cases h
  · simp_all

/-! ## Every step keeps the bounds -/

theorem RecvBound.sendStep {h : Nat} {v : α} {pc : SendPc α} (hs : RecvBound 0 s)
    (ht : s.tasks[i]? = some (.send h v pc)) (hstep : sendStep s i h v j pc = some s') :
    RecvBound 0 s' := by
  cases pc with
  | push =>
    cases hstep
    exact hs.of_set ht rfl (.inr (by simp [Task.recvCredit, Task.notifiedRecv, Task.pushPending]))
      (by simp [Task.parkedOn])
  | notifyRecv =>
    refine RecvBound.notifyOne_recv ?_ hstep
    exact hs.of_set ht rfl (.inr (by simp [Task.recvCredit, Task.notifiedRecv, Task.pushPending]))
      (by simp [Task.parkedOn])
  | notifySend =>
    refine RecvBound.notifyOne ?_ hstep
    exact hs.quiet ht rfl rfl (Nat.zero_le _) rfl
  | wait => cases hstep; exact hs.quiet ht rfl rfl (Nat.zero_le _) rfl
  | parked | done | cancelled => cases hstep
  | lock | entry | cond | relock | exit =>
    simp only [mea.channel.sendStep] at hstep
    split at hstep <;> cases hstep
    all_goals exact hs.quiet ht rfl rfl (Nat.zero_le _) rfl

theorem SendBound.sendStep {h : Nat} {v : α} {pc : SendPc α} (hm : MutexInv s)
    (hd : s.disconnected = false) (hs : SendBound 0 s)
    (ht : s.tasks[i]? = some (.send h v pc)) (hstep : sendStep s i h v j pc = some s') :
    SendBound 0 s' := by
  have hf := hm.holder i _ ht
  cases pc with
  | lock | entry =>
    simp only [mea.channel.sendStep] at hstep
    split at hstep <;> cases hstep
    all_goals exact hs.quiet ht rfl rfl rfl (Nat.zero_le _) rfl
  | cond n =>
    simp only [mea.channel.sendStep] at hstep
    split at hstep <;> cases hstep
    · next hc =>
      simp only [Bool.and_eq_true] at hc
      exact hs.of_set ht rfl rfl (fun _ hc' => .inl (isFull_le hc.1 hc')) (by simp [Task.parkedOn])
    · exact hs.quiet ht rfl rfl rfl (by cases n <;> exact Nat.le_of_ble_eq_true rfl) rfl
  | wait =>
    cases hstep
    exact hs.of_set ht rfl rfl (fun _ _ => .inr (Nat.le_refl _)) (fun _ hc _ => isFull_le hf hc)
  | relock n =>
    simp only [mea.channel.sendStep] at hstep
    split at hstep <;> cases hstep
    exact hs.quiet ht rfl rfl rfl (by cases n <;> exact le_rfl) rfl
  | exit =>
    simp only [mea.channel.sendStep] at hstep
    split at hstep <;> cases hstep
    · simp_all
    · exact hs.quiet ht rfl rfl rfl le_rfl rfl
  | push =>
    cases hstep
    refine hs.of_set ht rfl rfl (fun c hc => .inr ?_) (by simp [Task.parkedOn])
    have := hf c hc
    simp [Task.sendCredit, Task.notifiedSend, Task.slotClaimed, Task.popPending]
    omega
  | notifyRecv | notifySend =>
    refine SendBound.notifyOne ?_ hstep
    exact hs.quiet ht rfl rfl rfl (Nat.zero_le _) rfl
  | parked | done | cancelled => cases hstep

theorem RecvBound.recvStep {h : Nat} {pc : RecvPc α} (hm : MutexInv s) (hs : RecvBound 0 s)
    (ht : s.tasks[i]? = some (.recv h pc)) (hstep : recvStep s i h j pc = some s') :
    RecvBound 0 s' := by
  cases pc with
  | pop n =>
    simp only [mea.channel.recvStep] at hstep
    split at hstep <;> cases hstep
    · next v rest hb =>
      refine hs.of_set ht rfl (.inr ?_) (by simp [Task.parkedOn])
      cases n <;> simp [hb, Task.recvCredit, Task.notifiedRecv, Task.pushPending]
    · exact hs.of_set ht rfl (.inl ‹_›) (by simp [Task.parkedOn])
  | popped v =>
    refine RecvBound.notifyOne ?_ hstep
    exact hs.quiet ht rfl rfl (Nat.zero_le _) rfl
  | wait =>
    cases hstep
    exact hs.of_set ht rfl (.inl (hm.holder i _ ht)) fun _ => hm.holder i _ ht
  | relock n =>
    simp only [mea.channel.recvStep] at hstep
    split at hstep <;> cases hstep
    exact hs.quiet ht rfl rfl (by cases n <;> exact le_rfl) rfl
  | lock | disc =>
    simp only [mea.channel.recvStep] at hstep
    split at hstep <;> cases hstep
    all_goals exact hs.quiet ht rfl rfl (Nat.zero_le _) rfl
  | parked | done | cancelled => cases hstep

theorem SendBound.recvStep {h : Nat} {pc : RecvPc α} (hs : SendBound 0 s)
    (ht : s.tasks[i]? = some (.recv h pc)) (hstep : recvStep s i h j pc = some s') :
    SendBound 0 s' := by
  cases pc with
  | pop n =>
    simp only [mea.channel.recvStep] at hstep
    split at hstep <;> cases hstep
    · next v rest hb =>
      refine hs.of_set ht rfl rfl (fun c _ => .inr ?_) (by simp [Task.parkedOn])
      simp only [hb, List.length_cons]
      cases n <;> simp [Task.sendCredit, Task.notifiedSend, Task.slotClaimed, Task.popPending] <;>
        omega
    · exact hs.quiet ht rfl rfl rfl (Nat.zero_le _) rfl
  | popped v =>
    refine SendBound.notifyOne_send ?_ hstep
    exact hs.of_set ht rfl rfl (fun _ _ => .inr (by
      simp [Task.sendCredit, Task.notifiedSend, Task.slotClaimed, Task.popPending]))
      (by simp [Task.parkedOn])
  | wait => cases hstep; exact hs.quiet ht rfl rfl rfl (Nat.zero_le _) rfl
  | lock | disc | relock =>
    simp only [mea.channel.recvStep] at hstep
    split at hstep <;> cases hstep
    all_goals exact hs.quiet ht rfl rfl rfl (Nat.zero_le _) rfl
  | parked | done | cancelled => cases hstep

theorem RecvBound.disconnectStep {pc : DisconnectPc} (hs : RecvBound 0 s)
    (ht : s.tasks[i]? = some (.disconnect pc)) (hstep : disconnectStep s i pc = some s') :
    RecvBound 0 s' := by
  cases pc with
  | store => cases hstep; exact hs.quiet ht rfl rfl le_rfl rfl
  | notifyAll =>
    cases hstep
    refine RecvBound.notifyAll ?_
    exact hs.quiet ht rfl rfl le_rfl rfl
  | done => cases hstep

theorem SendBound.disconnectStep {pc : DisconnectPc} (hs : SendBound 0 s)
    (ht : s.tasks[i]? = some (.disconnect pc)) (hstep : disconnectStep s i pc = some s') :
    SendBound 0 s' := by
  cases pc with
  | store => cases hstep; exact hs.quiet ht rfl rfl rfl le_rfl rfl
  | notifyAll => cases hstep; exact SendBound.notifyAll
  | done => cases hstep

/-- A future dropped while it waits for the mutex or on a condvar, or after a
spurious wakeup, was owed nothing. -/
theorem cancel_quiet (hc : t.suspended ∨ t.woken ∧ t.notified = false) :
    t.recvCredit = 0 ∧ t.sendCredit = 0 ∧ ∀ cv, t.cancel.parkedOn cv = false := by
  rcases t with ⟨_, _, _ | _ | ⟨_ | _⟩ | _ | _ | ⟨_ | _⟩ | _ | _ | _ | _ | _ | _⟩ |
    ⟨_, _ | ⟨_ | _⟩ | _ | _ | _ | _ | ⟨_ | _⟩ | _ | _⟩ | _ <;>
    first
      | exact ⟨rfl, rfl, fun cv => by cases cv <;> rfl⟩
      | (rcases hc with hc | ⟨hw, hn⟩ <;> first | cases hc | (cases hw; done) | cases hn)

/-- What a step may do to the bounds: it does not drop a future a notification woke. -/
def Sparing (s : State α) (a : Act α) : Prop :=
  ∀ i t, a = .cancelWoken i → s.tasks[i]? = some t → t.notified = false

theorem RecvBound.step {a : Act α} (hm : MutexInv s) (hs : RecvBound 0 s)
    (ha : Sparing s a) (h : step s a = some s') : RecvBound 0 s' := by
  rcases step_cases h with ⟨_, _, -, -, rfl⟩ | ⟨_, -, -, rfl⟩ | ⟨_, _, -, -, rfl⟩ |
    ⟨_, _, -, -, -, rfl⟩ | ⟨_, _, t, -, ht, hstep⟩ | ⟨_, t, -, ht, hp, rfl⟩ |
    ⟨_, t, -, ht, hp, rfl⟩ | ⟨i, t, rfl, ht, hw, rfl⟩
  · exact hs.of_tasks rfl (.inr ⟨_, rfl, rfl⟩)
  · exact hs.of_tasks rfl (.inr ⟨_, rfl, rfl⟩)
  · exact hs.of_tasks (by simp) (.inl (by simp))
  · refine hs.of_tasks (by simp) ?_
    rw [State.dropHandle_tasks]
    split
    exacts [.inr ⟨_, rfl, rfl⟩, .inl rfl]
  · cases t with
    | send => exact hs.sendStep ht hstep
    | recv => exact hs.recvStep hm ht hstep
    | disconnect => exact hs.disconnectStep ht hstep
  · exact hp.elim (hs.wake false ht) (hs.wake false ht)
  · obtain ⟨h1, -, h3⟩ := cancel_quiet (.inl hp)
    exact hs.quiet ht rfl rfl (h1 ▸ Nat.zero_le _) (h3 _)
  · obtain ⟨h1, -, h3⟩ := cancel_quiet (.inr ⟨hw, ha i t rfl ht⟩)
    exact hs.quiet ht rfl rfl (h1 ▸ Nat.zero_le _) (h3 _)

theorem SendBound.step {a : Act α} (hm : MutexInv s) (hd : s.disconnected = false)
    (hs : SendBound 0 s) (ha : Sparing s a) (h : step s a = some s') :
    SendBound 0 s' := by
  rcases step_cases h with ⟨_, _, -, -, rfl⟩ | ⟨_, -, -, rfl⟩ | ⟨_, _, -, -, rfl⟩ |
    ⟨_, _, -, -, -, rfl⟩ | ⟨_, _, t, -, ht, hstep⟩ | ⟨_, t, -, ht, hp, rfl⟩ |
    ⟨_, t, -, ht, hp, rfl⟩ | ⟨i, t, rfl, ht, hw, rfl⟩
  · exact hs.of_tasks rfl rfl (.inr ⟨_, rfl, rfl⟩)
  · exact hs.of_tasks rfl rfl (.inr ⟨_, rfl, rfl⟩)
  · exact hs.of_tasks (by simp) (by simp) (.inl (by simp))
  · refine hs.of_tasks (by simp) (by simp) ?_
    rw [State.dropHandle_tasks]
    split
    exacts [.inr ⟨_, rfl, rfl⟩, .inl rfl]
  · cases t with
    | send => exact hs.sendStep hm hd ht hstep
    | recv => exact hs.recvStep ht hstep
    | disconnect => exact hs.disconnectStep ht hstep
  · exact hp.elim (hs.wake false ht) (hs.wake false ht)
  · obtain ⟨-, h2, h3⟩ := cancel_quiet (.inl hp)
    exact hs.quiet ht rfl rfl rfl (h2 ▸ Nat.zero_le _) (h3 _)
  · obtain ⟨-, h2, h3⟩ := cancel_quiet (.inr ⟨hw, ha i t rfl ht⟩)
    exact hs.quiet ht rfl rfl rfl (h2 ▸ Nat.zero_le _) (h3 _)

/-! ## Runs that give up no notification -/

/-- A step of the channel that refuses only to drop a future a notification woke:
every other future may be dropped, waiting for the mutex, parked, or woken
spuriously. -/
def stepSparing (s : State α) (a : Act α) : Option (State α) :=
  match a with
  | .cancelWoken i => if s.tasks[i]?.any Task.notified then none else step s a
  | _ => step s a

/-- The runs of the channel in which no future a notification woke is dropped. -/
def runSparing (s : State α) : List (Act α) → Option (State α) := runSteps stepSparing s

theorem stepSparing_spec {a : Act α} (h : stepSparing s a = some s') :
    step s a = some s' ∧ Sparing s a := by
  cases a <;> simp only [stepSparing] at h
  case cancelWoken i =>
    split at h
    · cases h
    · next hn => exact ⟨h, fun _ t e ht => by cases e; simpa [ht] using hn⟩
  all_goals exact ⟨h, fun _ _ e => by cases e⟩

/-- Both bounds hold after every run that drops no future a notification woke, the
one for `sender_wait` while the channel is connected. -/
theorem wakeBounds_run {c : Option Nat} {as : List (Act α)}
    (h : runSparing (State.new c) as = some s) :
    MutexInv s ∧ RecvBound 0 s ∧ (s.disconnected = false → SendBound 0 s) := by
  refine runSteps_invariant_of
    (I := fun s => MutexInv s ∧ RecvBound 0 s ∧ (s.disconnected = false → SendBound 0 s))
    (P := fun _ => True) (fun s a s' ⟨hm, hr, hb⟩ _ h => ?_) as
    ⟨mutexInv_new c, fun h => by simp [State.new] at h, fun _ _ _ h => by simp [State.new] at h⟩
    (fun _ _ => trivial) h
  obtain ⟨h, ha⟩ := stepSparing_spec h
  refine ⟨hm.step h, hr.step hm ha h, fun hd' => ?_⟩
  have hd : s.disconnected = false :=
    Bool.eq_false_iff.mpr fun e => by simp [(Grows.step h).disconnected e] at hd'
  exact (hb hd).step hm hd ha h

/-- While the channel is connected, a parked `recv` leaves no buffered value that
no notified `recv` is about to take and no `notify_one` is about to announce; a
parked `send` leaves no free slot that no notified or running `send` is about to
fill and no `notify_one` is about to announce. -/
theorem no_lost_wakeup (c : Option Nat) (as : List (Act α)) (s : State α)
    (h : runSparing (State.new c) as = some s) (hd : s.disconnected = false) :
    (s.tasks.any (·.parkedOn .receiver_wait) →
      s.buffer.length ≤ s.tasks.countP Task.notifiedRecv + s.tasks.countP Task.pushPending) ∧
    (∀ cap, s.capacity = some cap → s.tasks.any (·.parkedOn .sender_wait) →
      cap - s.buffer.length ≤ s.tasks.countP Task.notifiedSend +
        s.tasks.countP Task.slotClaimed + s.tasks.countP Task.popPending) :=
  let ⟨_, hr, hs⟩ := wakeBounds_run h
  ⟨hr, hs hd⟩

/-- On an unbounded channel: a `recv` parks, wakes spuriously and is dropped; a
second `recv` parks; a `send` pushes and stands before its `notify_one`. -/
def traceSpuriousDrop : List (Act Nat) :=
  [.recv 1] ++ List.replicate 4 (.run 0 0) ++ [.spurious 0, .cancelWoken 0, .recv 1] ++
    List.replicate 4 (.run 1 0) ++ [.send 0 5] ++ List.replicate 5 (.run 2 0)

theorem no_lost_wakeup_spurious_drop :
    ∃ s, runSparing (unbounded : State Nat) traceSpuriousDrop = some s ∧
      s.disconnected = false ∧ s.tasks.any (·.parkedOn .receiver_wait) ∧
      s.buffer.length ≤ s.tasks.countP Task.notifiedRecv + s.tasks.countP Task.pushPending :=
  ⟨_, rfl, rfl, rfl, (no_lost_wakeup none traceSpuriousDrop _ rfl rfl).1 rfl⟩

/-- On `bounded(1)`: a `send` fills the buffer and returns, a second `send` parks
on the full buffer, and a `recv` pops the value and stands before its
`sender_wait.notify_one()`. -/
def traceSlotFreed : List (Act Nat) :=
  [.send 0 5] ++ List.replicate 7 (.run 0 0) ++ [.send 0 6] ++ List.replicate 4 (.run 1 0) ++
    [.recv 1, .run 2 0, .run 2 0]

/-- Counting only the notified `send`s, the bound for `sender_wait` fails between
a pop and its `notify_one`. -/
theorem send_bound_fails_after_pop :
    ∃ s, run (bounded 1 : State Nat) traceSlotFreed = some s ∧
      (∀ i, .cancelWoken i ∉ traceSlotFreed) ∧ s.disconnected = false ∧
      s.tasks.any (·.parkedOn .sender_wait) ∧
      s.tasks.countP Task.notifiedSend < 1 - s.buffer.length :=
  ⟨_, rfl, by simp [traceSlotFreed], rfl, rfl, by decide⟩

/-! ## At disconnection -/

/-- A `recv` parks on the empty buffer of an unbounded channel; then the only
`Sender` is dropped and its `Shared::disconnect` runs to the end. -/
def traceLastSenderDropped : List (Act Nat) :=
  [.recv 1, .run 0 0, .run 0 0, .run 0 0, .run 0 0, .drop 0, .run 1 0, .run 1 0]

/-- On `bounded(0)` a `send` finds the buffer full and the channel connected; the
only `Receiver` is dropped and `Shared::disconnect` runs to the end, and only then
does the `send` register on `sender_wait`. -/
def traceSendParksLate : List (Act Nat) :=
  [.send 0 5, .run 0 0, .run 0 0, .run 0 0, .drop 1, .run 1 0, .run 1 0, .run 0 0]

/-- After a completed `Shared::disconnect`, a `recv` can stay parked on
`receiver_wait`, which `disconnect` never notifies, and a `send` can park on
`sender_wait` after the `notify_all`, since `disconnect` does not take the mutex. -/
theorem disconnect_leaves_waiters_parked :
    (∃ s, run (unbounded : State Nat) traceLastSenderDropped = some s ∧
      s.disconnected = true ∧ Task.disconnect .notifyAll ∉ s.tasks ∧
      s.tasks.any (·.parkedOn .receiver_wait)) ∧
    (∃ s, run (bounded 0 : State Nat) traceSendParksLate = some s ∧
      s.disconnected = true ∧ Task.disconnect .notifyAll ∉ s.tasks ∧
      s.tasks.any (·.parkedOn .sender_wait)) :=
  ⟨⟨_, rfl, rfl, by decide, rfl⟩, ⟨_, rfl, rfl, by decide, rfl⟩⟩

end mea.channel
