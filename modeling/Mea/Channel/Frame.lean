-- What one step leaves alone: the field lemmas of the state updates, how a count
-- over the tasks moves when one task changes, and what `notify_one` and
-- `notify_all` can do to the tasks parked on a condvar.
import Mea.Channel.Step

namespace mea.channel

variable {α : Type}

/-! ## Field lemmas -/

namespace State

variable (s : State α) (i : Nat) (t : Task α)

@[simp] theorem setTask_tasks : (s.setTask i t).tasks = s.tasks.set i t := rfl
@[simp] theorem setTask_buffer : (s.setTask i t).buffer = s.buffer := rfl
@[simp] theorem setTask_capacity : (s.setTask i t).capacity = s.capacity := rfl
@[simp] theorem setTask_disconnected : (s.setTask i t).disconnected = s.disconnected := rfl
@[simp] theorem setTask_sender_cnt : (s.setTask i t).sender_cnt = s.sender_cnt := rfl
@[simp] theorem setTask_receiver_cnt : (s.setTask i t).receiver_cnt = s.receiver_cnt := rfl
@[simp] theorem setTask_locked : (s.setTask i t).locked = s.locked := rfl
@[simp] theorem setTask_handles : (s.setTask i t).handles = s.handles := rfl
@[simp] theorem setTask_pushed : (s.setTask i t).pushed = s.pushed := rfl
@[simp] theorem setTask_popped : (s.setTask i t).popped = s.popped := rfl

@[simp] theorem setTask_isFull : (s.setTask i t).isFull = s.isFull := rfl

variable (cv : Cv)

@[simp] theorem notifyAll_tasks :
    (s.notifyAll cv).tasks = s.tasks.map fun t => if t.parkedOn cv then t.wake true else t :=
  rfl
@[simp] theorem notifyAll_buffer : (s.notifyAll cv).buffer = s.buffer := rfl
@[simp] theorem notifyAll_capacity : (s.notifyAll cv).capacity = s.capacity := rfl
@[simp] theorem notifyAll_disconnected : (s.notifyAll cv).disconnected = s.disconnected := rfl
@[simp] theorem notifyAll_sender_cnt : (s.notifyAll cv).sender_cnt = s.sender_cnt := rfl
@[simp] theorem notifyAll_receiver_cnt : (s.notifyAll cv).receiver_cnt = s.receiver_cnt := rfl
@[simp] theorem notifyAll_locked : (s.notifyAll cv).locked = s.locked := rfl
@[simp] theorem notifyAll_handles : (s.notifyAll cv).handles = s.handles := rfl
@[simp] theorem notifyAll_pushed : (s.notifyAll cv).pushed = s.pushed := rfl
@[simp] theorem notifyAll_popped : (s.notifyAll cv).popped = s.popped := rfl

variable (k : Side) (n : Nat)

@[simp] theorem setCnt_tasks : (s.setCnt k n).tasks = s.tasks := by cases k <;> rfl
@[simp] theorem setCnt_buffer : (s.setCnt k n).buffer = s.buffer := by cases k <;> rfl
@[simp] theorem setCnt_capacity : (s.setCnt k n).capacity = s.capacity := by cases k <;> rfl
@[simp] theorem setCnt_disconnected : (s.setCnt k n).disconnected = s.disconnected := by
  cases k <;> rfl
@[simp] theorem setCnt_locked : (s.setCnt k n).locked = s.locked := by cases k <;> rfl
@[simp] theorem setCnt_handles : (s.setCnt k n).handles = s.handles := by cases k <;> rfl
@[simp] theorem setCnt_pushed : (s.setCnt k n).pushed = s.pushed := by cases k <;> rfl
@[simp] theorem setCnt_popped : (s.setCnt k n).popped = s.popped := by cases k <;> rfl

theorem setCnt_cnt (k' : Side) : (s.setCnt k n).cnt k' = if k' = k then n else s.cnt k' := by
  cases k <;> cases k' <;> rfl

@[simp] theorem cloneHandle_tasks : (s.cloneHandle k).tasks = s.tasks := setCnt_tasks ..
@[simp] theorem cloneHandle_buffer : (s.cloneHandle k).buffer = s.buffer := setCnt_buffer ..
@[simp] theorem cloneHandle_capacity : (s.cloneHandle k).capacity = s.capacity :=
  setCnt_capacity ..
@[simp] theorem cloneHandle_disconnected :
    (s.cloneHandle k).disconnected = s.disconnected := setCnt_disconnected ..
@[simp] theorem cloneHandle_locked : (s.cloneHandle k).locked = s.locked := setCnt_locked ..
@[simp] theorem cloneHandle_handles :
    (s.cloneHandle k).handles = s.handles ++ [⟨k, true⟩] := rfl
@[simp] theorem cloneHandle_pushed : (s.cloneHandle k).pushed = s.pushed := setCnt_pushed ..
@[simp] theorem cloneHandle_popped : (s.cloneHandle k).popped = s.popped := setCnt_popped ..

theorem cloneHandle_cnt (k' : Side) :
    (s.cloneHandle k).cnt k' = if k' = k then s.cnt k + 1 else s.cnt k' := by
  rw [← setCnt_cnt]; cases k' <;> rfl

variable (h : Nat)

@[simp] theorem dropHandle_tasks : (s.dropHandle h k).tasks =
    if s.cnt k = 1 then s.tasks ++ [.disconnect .store] else s.tasks := by
  unfold dropHandle; split <;> simp
@[simp] theorem dropHandle_buffer : (s.dropHandle h k).buffer = s.buffer := by
  unfold dropHandle; split <;> simp
@[simp] theorem dropHandle_capacity : (s.dropHandle h k).capacity = s.capacity := by
  unfold dropHandle; split <;> simp
@[simp] theorem dropHandle_disconnected :
    (s.dropHandle h k).disconnected = s.disconnected := by
  unfold dropHandle; split <;> simp
@[simp] theorem dropHandle_locked : (s.dropHandle h k).locked = s.locked := by
  unfold dropHandle; split <;> simp
@[simp] theorem dropHandle_handles :
    (s.dropHandle h k).handles = s.handles.set h ⟨k, false⟩ := by
  unfold dropHandle; split <;> simp
@[simp] theorem dropHandle_pushed : (s.dropHandle h k).pushed = s.pushed := by
  unfold dropHandle; split <;> simp
@[simp] theorem dropHandle_popped : (s.dropHandle h k).popped = s.popped := by
  unfold dropHandle; split <;> simp

theorem dropHandle_cnt (k' : Side) :
    (s.dropHandle h k).cnt k' = if k' = k then s.cnt k - 1 else s.cnt k' := by
  rw [← setCnt_cnt]; unfold dropHandle; split <;> cases k' <;> rfl

end State

namespace Task

variable {t : Task α}

@[simp] theorem holdsLock_cancel : t.cancel.holdsLock = false := by
  rcases t with ⟨_, _, _⟩ | ⟨_, _⟩ | _ <;> rfl

theorem holdsLock_of_suspended (h : t.suspended) : t.holdsLock = false := by
  cases t with
  | send _ _ pc => cases pc <;> first | rfl | simp [suspended] at h
  | recv _ pc => cases pc <;> first | rfl | simp [suspended] at h
  | disconnect => rfl

theorem holdsLock_of_woken (h : t.woken) : t.holdsLock = false := by
  cases t with
  | send _ _ pc => cases pc <;> first | rfl | simp [woken] at h
  | recv _ pc => cases pc <;> first | rfl | simp [woken] at h
  | disconnect => rfl

end Task

/-! ## Counting tasks -/

/-- Two tasks at different places that satisfy `p` make `p` count at least two. -/
theorem two_le_countP {β : Type} {p : β → Bool} {b c : β} :
    ∀ {l : List β} {i k : Nat}, l[i]? = some b → l[k]? = some c → i ≠ k → p b → p c →
      2 ≤ l.countP p
  | x :: l, 0, k + 1, hb, hc, _, pb, pc => by
    rw [List.getElem?_cons_succ] at hc
    have : 0 < l.countP p := List.countP_pos_iff.mpr ⟨c, List.getElem?_mem hc, pc⟩
    simp_all [List.countP_cons]
  | x :: l, i + 1, 0, hb, hc, _, pb, pc => by
    rw [List.getElem?_cons_succ] at hb
    have : 0 < l.countP p := List.countP_pos_iff.mpr ⟨b, List.getElem?_mem hb, pb⟩
    simp_all [List.countP_cons]
  | x :: l, i + 1, k + 1, hb, hc, hik, pb, pc => by
    rw [List.getElem?_cons_succ] at hb hc
    have := two_le_countP hb hc (by omega) pb pc
    rw [List.countP_cons]
    omega
  | [], _, _, hb, _, _, _, _ => by simp at hb
  | _ :: _, 0, 0, _, _, hik, _, _ => absurd rfl hik

/-- A place of a list after `set`: the one set, or another place as it was. -/
theorem getElem?_set_cases {β : Type} {l : List β} {i k : Nat} {a b : β}
    (h : (l.set i a)[k]? = some b) : (k = i ∧ b = a) ∨ (k ≠ i ∧ l[k]? = some b) := by
  rw [List.getElem?_set] at h
  by_cases hik : i = k
  · subst hik
    split at h <;> simp_all
  · simp_all [Ne.symm hik]

/-- A place of a list after an append: an old place, or the new last one. -/
theorem getElem?_concat_cases {β : Type} {l : List β} {k : Nat} {a b : β}
    (h : (l ++ [a])[k]? = some b) : l[k]? = some b ∨ (k = l.length ∧ b = a) := by
  rcases Nat.lt_trichotomy k l.length with hk | rfl | hk
  · exact .inl (by rwa [List.getElem?_append_left hk] at h)
  · exact .inr ⟨rfl, by simp_all⟩
  · rw [List.getElem?_eq_none (by simp; omega)] at h
    cases h

theorem getElem?_concat_of {β : Type} {l : List β} {k : Nat} {a b : β} (h : l[k]? = some b) :
    (l ++ [a])[k]? = some b := by
  rwa [List.getElem?_append_left (List.getElem?_eq_some_iff.mp h).1]

/-! ## Waking the parked tasks -/

theorem parkedOn_wake {t : Task α} {cv : Cv} (h : t.parkedOn cv) :
    (∃ h v, cv = .sender_wait ∧ t = .send h v .parked ∧
      ∀ n, t.wake n = .send h v (.relock n)) ∨
    (∃ h, cv = .receiver_wait ∧ t = .recv h .parked ∧ ∀ n, t.wake n = .recv h (.relock n)) := by
  cases t with
  | send k v pc =>
    cases pc <;> cases cv <;> simp only [Task.parkedOn, reduceCtorEq] at h
    exact .inl ⟨k, v, rfl, rfl, fun _ => rfl⟩
  | recv k pc =>
    cases pc <;> cases cv <;> simp only [Task.parkedOn, reduceCtorEq] at h
    exact .inr ⟨k, rfl, rfl, fun _ => rfl⟩
  | disconnect => simp [Task.parkedOn] at h

/-- What `notify_one` did: nobody was parked, or it woke the parked task `j`. -/
theorem notifyOne_cases {s s' : State α} {cv : Cv} {j : Nat} (h : s.notifyOne cv j = some s') :
    (s' = s ∧ ∀ t ∈ s.tasks, t.parkedOn cv = false) ∨
    ∃ t, s.tasks[j]? = some t ∧ t.parkedOn cv = true ∧ s' = s.setTask j (t.wake true) := by
  unfold State.notifyOne at h
  split at h
  · right
    split at h
    · rename_i t ht
      split at h
      · exact ⟨t, ht, ‹_›, (Option.some.inj h).symm⟩
      · cases h
    · cases h
  · left
    simp_all

/-! ## What one step can do -/

/-- Everything `step` can do, with its guards: start a call on a live handle, clone
or drop a handle, run a task, or wake or cancel one. -/
theorem step_cases {s s' : State α} {a : Act α} (h : step s a = some s') :
    (∃ h v, a = .send h v ∧ s.live h .sender ∧
      s' = { s with tasks := s.tasks ++ [.send h v .lock] }) ∨
    (∃ h, a = .recv h ∧ s.live h .receiver ∧
      s' = { s with tasks := s.tasks ++ [.recv h .lock] }) ∨
    (∃ h k, a = .clone h ∧ s.handles[h]? = some ⟨k, true⟩ ∧ s' = s.cloneHandle k) ∨
    (∃ h k, a = .drop h ∧ s.handles[h]? = some ⟨k, true⟩ ∧
      (∀ u ∈ s.tasks, u.borrows h = false) ∧ s' = s.dropHandle h k) ∨
    (∃ i j t, a = .run i j ∧ s.tasks[i]? = some t ∧ taskStep s i j t = some s') ∨
    (∃ i t, a = .spurious i ∧ s.tasks[i]? = some t ∧
      (t.parkedOn .sender_wait ∨ t.parkedOn .receiver_wait) ∧ s' = s.setTask i (t.wake false)) ∨
    (∃ i t, a = .cancel i ∧ s.tasks[i]? = some t ∧ t.suspended ∧ s' = s.setTask i t.cancel) ∨
    (∃ i t, a = .cancelWoken i ∧ s.tasks[i]? = some t ∧ t.woken ∧
      s' = s.setTask i t.cancel) := by
  cases a <;> simp only [step] at h
  case send k v => split at h <;> cases h; exact .inl ⟨k, v, rfl, ‹_›, rfl⟩
  case recv k => split at h <;> cases h; exact .inr <| .inl ⟨k, rfl, ‹_›, rfl⟩
  case clone k =>
    split at h <;> cases h
    exact .inr <| .inr <| .inl ⟨k, _, rfl, ‹_›, Side.clone_eq _ _⟩
  case drop k =>
    split at h
    · split at h <;> cases h
      rename_i hh hb
      exact .inr <| .inr <| .inr <| .inl ⟨k, _, rfl, hh, by simpa using hb, Side.drop_eq _ _ _⟩
    · cases h
  case run i j =>
    split at h
    · exact .inr <| .inr <| .inr <| .inr <| .inl ⟨i, j, _, rfl, ‹_›, h⟩
    · cases h
  case spurious i =>
    split at h
    · split at h <;> cases h
      rename_i ht hp
      exact .inr <| .inr <| .inr <| .inr <| .inr <| .inl ⟨i, _, rfl, ht, by simpa using hp, rfl⟩
    · cases h
  case cancel i =>
    split at h
    · split at h <;> cases h
      exact .inr <| .inr <| .inr <| .inr <| .inr <| .inr <| .inl ⟨i, _, rfl, ‹_›, ‹_›, rfl⟩
    · cases h
  case cancelWoken i =>
    split at h
    · split at h <;> cases h
      exact .inr <| .inr <| .inr <| .inr <| .inr <| .inr <| .inr ⟨i, _, rfl, ‹_›, ‹_›, rfl⟩
    · cases h

/-! ## What no step takes back -/

/-- From `s` to `s'` the capacity stays, `disconnected` once set stays set, the
logs only grow at their ends, and no task disappears. -/
structure Grows (s s' : State α) : Prop where
  capacity : s'.capacity = s.capacity
  disconnected : s.disconnected = true → s'.disconnected = true
  pushed : s.pushed <+: s'.pushed
  popped : s.popped <+: s'.popped
  tasks : s.tasks.length ≤ s'.tasks.length

namespace Grows

variable {s s' s'' : State α}

theorem refl (s : State α) : Grows s s :=
  ⟨rfl, id, List.prefix_refl _, List.prefix_refl _, le_rfl⟩

theorem trans (h₁ : Grows s s') (h₂ : Grows s' s'') : Grows s s'' :=
  ⟨h₂.capacity.trans h₁.capacity, h₂.disconnected ∘ h₁.disconnected,
    h₁.pushed.trans h₂.pushed, h₁.popped.trans h₂.popped, h₁.tasks.trans h₂.tasks⟩

theorem setTask (s : State α) (i : Nat) (t : Task α) : Grows s (s.setTask i t) :=
  ⟨rfl, id, List.prefix_refl _, List.prefix_refl _, by simp⟩

theorem notifyOne {cv : Cv} {j : Nat} (h : s.notifyOne cv j = some s') : Grows s s' := by
  rcases notifyOne_cases h with ⟨rfl, -⟩ | ⟨t, -, -, rfl⟩
  · exact refl _
  · exact setTask _ j (t.wake true)

theorem sendStep {i j k : Nat} {v : α} {pc : SendPc α} (h : sendStep s i k v j pc = some s') :
    Grows s s' := by
  cases pc <;> simp only [mea.channel.sendStep] at h
  case notifyRecv | notifySend => exact (setTask ..).trans (notifyOne h)
  all_goals first | cases h | (split at h <;> cases h)
  all_goals exact ⟨rfl, by simp, by simp, by simp, by simp⟩

theorem recvStep {i j k : Nat} {pc : RecvPc α} (h : recvStep s i k j pc = some s') :
    Grows s s' := by
  cases pc <;> simp only [mea.channel.recvStep] at h
  case popped =>
    refine Grows.trans ?_ (notifyOne h)
    exact ⟨rfl, id, by simp, by simp, by simp⟩
  all_goals first | cases h | (split at h <;> cases h)
  all_goals exact ⟨rfl, by simp, by simp, by simp, by simp⟩

theorem disconnectStep {i : Nat} {pc : DisconnectPc} (h : disconnectStep s i pc = some s') :
    Grows s s' := by
  cases pc <;> cases h
  · exact ⟨rfl, fun _ => rfl, by simp, by simp, by simp⟩
  · exact ⟨rfl, id, by simp, by simp, by simp⟩

theorem step {a : Act α} (h : step s a = some s') : Grows s s' := by
  rcases step_cases h with ⟨_, _, -, -, rfl⟩ | ⟨_, -, -, rfl⟩ | ⟨_, _, -, -, rfl⟩ |
    ⟨_, _, -, -, -, rfl⟩ | ⟨_, _, t, -, -, ht⟩ | ⟨_, _, -, -, -, rfl⟩ |
    ⟨_, _, -, -, -, rfl⟩ | ⟨_, _, -, -, -, rfl⟩
  · exact ⟨rfl, id, by simp, by simp, by simp⟩
  · exact ⟨rfl, id, by simp, by simp, by simp⟩
  · exact ⟨by simp, by simp, by simp, by simp, by simp⟩
  · exact ⟨by simp, by simp, by simp, by simp,
      by simp only [State.dropHandle_tasks]; split <;> simp⟩
  · cases t with
    | send => exact sendStep ht
    | recv => exact recvStep ht
    | disconnect => exact disconnectStep ht
  all_goals exact setTask ..

theorem run : ∀ {s s' : State α} (as : List (Act α)), run s as = some s' → Grows s s'
  | _, _, [], h => by cases h; exact refl _
  | _, _, a :: as, h => by
    rw [run_cons] at h
    obtain ⟨t, ht, hr⟩ := Option.bind_eq_some.mp h
    exact (step ht).trans (Grows.run as hr)

end Grows

/-! ## The push log -/

variable {s s' : State α}

theorem notifyOne_pushed {cv : Cv} {j : Nat} (h : s.notifyOne cv j = some s') :
    s'.pushed = s.pushed := by
  rcases notifyOne_cases h with ⟨rfl, -⟩ | ⟨t, -, -, rfl⟩ <;> rfl

/-- The push log grows only at a `push_back`: a step leaves it alone unless some
`send` stands at its push. -/
theorem pushed_step {a : Act α} (h : step s a = some s') :
    s'.pushed = s.pushed ∨ ∃ (i k : Nat) (v : α), s.tasks[i]? = some (.send k v .push) := by
  rcases step_cases h with ⟨_, _, -, -, rfl⟩ | ⟨_, -, -, rfl⟩ | ⟨_, _, -, -, rfl⟩ |
    ⟨_, _, -, -, -, rfl⟩ | ⟨i, _, t, -, ht, hstep⟩ | ⟨_, _, -, -, -, rfl⟩ |
    ⟨_, _, -, -, -, rfl⟩ | ⟨_, _, -, -, -, rfl⟩
  · exact .inl rfl
  · exact .inl rfl
  · exact .inl (by simp)
  · exact .inl (by simp)
  · cases t with
    | send k v pc =>
      cases pc <;> simp only [taskStep, sendStep] at hstep
      case push => exact .inr ⟨i, k, v, ht⟩
      case notifyRecv | notifySend => exact .inl ((notifyOne_pushed hstep).trans rfl)
      all_goals first | cases hstep | (split at hstep <;> cases hstep)
      all_goals exact .inl rfl
    | recv k pc =>
      cases pc <;> simp only [taskStep, recvStep] at hstep
      case popped => exact .inl ((notifyOne_pushed hstep).trans rfl)
      case pop => split at hstep <;> cases hstep <;> exact .inl rfl
      all_goals first | cases hstep | (split at hstep <;> cases hstep)
      all_goals exact .inl rfl
    | disconnect pc => cases pc <;> cases hstep <;> exact .inl rfl
  all_goals exact .inl rfl

end mea.channel
