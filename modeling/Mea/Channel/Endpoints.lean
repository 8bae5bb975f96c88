-- Endpoint counting: `sender_cnt` and `receiver_cnt` count the live handles,
-- `disconnected` is set exactly when one of them has reached zero and is never
-- cleared, and the two errors are returned only when the other side is gone.
import Mea.Channel.Mutex

namespace mea.channel

variable {α : Type} {s s' : State α} {i j : Nat} {t t' u : Task α} {cv : Cv}

/-! ## The invariant -/

/-- The side of the handle a call borrows. -/
def Task.side : Task α → Side
  | .recv _ _ => .receiver
  | _ => .sender

/-- The live handles of side `k`. -/
def liveCount (s : State α) (k : Side) : Nat := s.handles.countP (· == ⟨k, true⟩)

/-- What a finished call, or a `Shared::disconnect` before its store, knows of the
counts: `Err(SendError)` with no receiver left, `Err(RecvError)` with an empty
buffer and no sender left, a disconnect with a count at zero. -/
def EndFact (s : State α) : Task α → Prop
  | .send _ _ (.done (.error _)) => s.receiver_cnt = 0
  | .recv _ (.done (.error _)) => s.buffer = [] ∧ s.sender_cnt = 0
  | .disconnect .store => s.sender_cnt = 0 ∨ s.receiver_cnt = 0
  | _ => True

structure EndpointInv (s : State α) : Prop where
  cnt : ∀ k : Side, s.cnt k = liveCount s k
  borrow : ∀ (k h : Nat) (u : Task α), s.tasks[k]? = some u → u.borrows h →
    s.handles[h]? = some ⟨u.side, true⟩
  disc : s.disconnected = true → s.sender_cnt = 0 ∨ s.receiver_cnt = 0
  zero : s.sender_cnt = 0 ∨ s.receiver_cnt = 0 →
    s.disconnected = true ∨ ∃ k : Nat, s.tasks[k]? = some (.disconnect .store)
  fact : ∀ (k : Nat) (u : Task α), s.tasks[k]? = some u → EndFact s u

/-! ## Lemmas -/

theorem liveCount_pos {h : Nat} {k : Side} (hh : s.handles[h]? = some ⟨k, true⟩) :
    0 < liveCount s k :=
  List.countP_pos_iff.mpr ⟨_, List.getElem?_mem hh, by simp⟩

/-- A call in progress keeps a count of its side above zero. -/
theorem EndpointInv.cnt_pos {h : Nat} (hs : EndpointInv s) (ht : s.tasks[i]? = some t)
    (hb : t.borrows h) : 0 < s.cnt t.side :=
  hs.cnt t.side ▸ liveCount_pos (hs.borrow i h t ht hb)

theorem EndFact.mono (hf : EndFact s u) (hsc : s.sender_cnt = 0 → s'.sender_cnt = 0)
    (hrc : s.receiver_cnt = 0 → s'.receiver_cnt = 0)
    (hb : s.buffer = [] → s.sender_cnt = 0 → s'.buffer = []) : EndFact s' u := by
  rcases u with ⟨_, _, _ | _ | _ | _ | _ | _ | _ | _ | _ | _ | ⟨_ | _⟩ | _⟩ |
    ⟨_, _ | _ | _ | _ | _ | _ | _ | ⟨_ | _⟩ | _⟩ | ⟨_ | _ | _⟩ <;>
    simp only [EndFact] at hf ⊢ <;> try trivial
  · exact hrc hf
  · exact ⟨hb hf.1 hf.2, hsc hf.2⟩
  · exact hf.imp hsc hrc

theorem endFact_of_parked (n : Bool) (h : t.parkedOn cv) : EndFact s (t.wake n) := by
  rcases parkedOn_wake h with ⟨_, _, -, -, e⟩ | ⟨_, -, -, e⟩ <;> rw [e] <;> trivial

/-- A step of task `i` from `t` to `t'` that leaves the handles and counts alone. -/
theorem EndpointInv.of_set (hs : EndpointInv s) (ht : s.tasks[i]? = some t)
    (htasks : s'.tasks = s.tasks.set i t') (hh : s'.handles = s.handles)
    (hsc : s'.sender_cnt = s.sender_cnt) (hrc : s'.receiver_cnt = s.receiver_cnt)
    (hdisc : s.disconnected = true → s'.disconnected = true)
    (hdisc' : s'.disconnected = true → s.disconnected = true ∨ t = .disconnect .store)
    (hstore : t = .disconnect .store → s'.disconnected = true)
    (hb : s.buffer = [] → s.sender_cnt = 0 → s'.buffer = [])
    (hborrow : ∀ h, t'.borrows h → t.borrows h) (hside : t'.side = t.side)
    (hnew : EndFact s' t') : EndpointInv s' := by
  refine ⟨fun k => ?_, ?_, ?_, ?_, ?_⟩
  · have := hs.cnt k
    cases k <;> simpa [State.cnt, liveCount, hh, hsc, hrc] using this
  · intro k h u hk hu
    rw [htasks] at hk
    rw [hh]
    rcases getElem?_set_cases hk with ⟨rfl, rfl⟩ | ⟨-, hk⟩
    · rw [hside]; exact hs.borrow k h t ht (hborrow h hu)
    · exact hs.borrow k h u hk hu
  · intro hd
    rw [hsc, hrc]
    rcases hdisc' hd with hd | rfl
    · exact hs.disc hd
    · exact hs.fact i _ ht
  · intro hz
    rw [hsc, hrc] at hz
    rcases hs.zero hz with hd | ⟨k, hk⟩
    · exact .inl (hdisc hd)
    · by_cases hki : k = i
      · subst hki
        exact .inl (hstore (Option.some.inj (ht.symm.trans hk)))
      · exact .inr ⟨k, by rw [htasks, List.getElem?_set_ne (Ne.symm hki)]; exact hk⟩
  · intro k u hk
    rw [htasks] at hk
    rcases getElem?_set_cases hk with ⟨rfl, rfl⟩ | ⟨-, hk⟩
    · exact hnew
    · exact (hs.fact k u hk).mono (by omega) (by omega) hb

/-- A wakeup of a parked task, by a notification or spuriously. -/
theorem EndpointInv.wake (n : Bool) (hs : EndpointInv s) (ht : s.tasks[i]? = some t)
    (hp : t.parkedOn cv) : EndpointInv (s.setTask i (t.wake n)) := by
  rcases parkedOn_wake hp with ⟨_, _, -, rfl, e⟩ | ⟨_, -, rfl, e⟩ <;>
    exact hs.of_set ht rfl rfl rfl rfl id (.inl ·) (by simp) (fun h _ => h)
      (by simp [e, Task.borrows]) (by simp [e, Task.side]) (endFact_of_parked n hp)

theorem EndpointInv.notifyOne (hs : EndpointInv s) (h : s.notifyOne cv j = some s') :
    EndpointInv s' := by
  rcases notifyOne_cases h with ⟨rfl, -⟩ | ⟨t, ht, hp, rfl⟩
  · exact hs
  · exact hs.wake true ht hp

theorem EndpointInv.notifyAll (hs : EndpointInv s) : EndpointInv (s.notifyAll cv) := by
  have hw : ∀ u : Task α, u.parkedOn cv →
      (∀ h, (u.wake true).borrows h = u.borrows h) ∧ (u.wake true).side = u.side ∧
        u ≠ .disconnect .store := by
    intro u hu
    rcases parkedOn_wake hu with ⟨_, _, -, rfl, e⟩ | ⟨_, -, rfl, e⟩ <;>
      simp [e, Task.borrows, Task.side]
  refine ⟨fun k => by simpa [State.cnt, liveCount] using hs.cnt k, ?_, hs.disc, ?_, ?_⟩
  · intro k h u hk hu
    simp only [State.notifyAll_tasks, List.getElem?_map, Option.map_eq_some'] at hk
    obtain ⟨u', hu', rfl⟩ := hk
    split at hu
    · obtain ⟨h1, h2, -⟩ := hw u' ‹_›
      rw [h1] at hu
      simpa [*] using hs.borrow k h u' hu' hu
    · simpa [*] using hs.borrow k h u' hu' hu
  · intro hz
    rcases hs.zero hz with hd | ⟨k, hk⟩
    · exact .inl hd
    · refine .inr ⟨k, ?_⟩
      simp [hk, Task.parkedOn]
  · intro k u hk
    simp only [State.notifyAll_tasks, List.getElem?_map, Option.map_eq_some'] at hk
    obtain ⟨u', hu', rfl⟩ := hk
    split
    · exact endFact_of_parked true ‹_›
    · exact (hs.fact k u' hu').mono id id (fun h _ => h)

theorem EndpointInv.of_append (hs : EndpointInv s)
    (hb : ∀ h, t.borrows h → s.handles[h]? = some ⟨t.side, true⟩) (hnew : EndFact s t) :
    EndpointInv { s with tasks := s.tasks ++ [t] } := by
  refine ⟨hs.cnt, ?_, hs.disc, ?_, ?_⟩
  · intro k h u hk hu
    rcases getElem?_concat_cases hk with hk | ⟨-, rfl⟩
    · exact hs.borrow k h u hk hu
    · exact hb h hu
  · intro hz
    rcases hs.zero hz with hd | ⟨k, hk⟩
    · exact .inl hd
    · exact .inr ⟨k, getElem?_concat_of hk⟩
  · intro k u hk
    rcases getElem?_concat_cases hk with hk | ⟨-, rfl⟩
    · exact hs.fact k u hk
    · exact hnew

/-- Once the channel is disconnected, a running call leaves no count on the other
side: its own side's count is positive. -/
theorem EndpointInv.cnt_zero_of_borrows {h : Nat} {k : Side} (hs : EndpointInv s)
    (ht : s.tasks[i]? = some t) (hb : t.borrows h) (hk : k ≠ t.side)
    (hd : s.disconnected = true) : s.cnt k = 0 := by
  have h1 := hs.cnt_pos ht hb
  have := hs.disc hd
  generalize t.side = k' at hk h1
  cases k <;> cases k' <;> first | exact absurd rfl hk | (simp only [State.cnt] at h1 ⊢; omega)

/-! ## Every step keeps the invariant -/

theorem EndpointInv.sendStep {h : Nat} {v : α} {pc : SendPc α} (hs : EndpointInv s)
    (ht : s.tasks[i]? = some (.send h v pc)) (hstep : sendStep s i h v j pc = some s') :
    EndpointInv s' := by
  cases pc with
  | push =>
    cases hstep
    have hpos := hs.cnt_pos ht (h := h) (by simp [Task.borrows])
    exact hs.of_set ht rfl rfl rfl rfl id (.inl ·) (by simp)
      (fun _ h0 => absurd h0 (by simpa [State.cnt, Task.side] using hpos.ne'))
      (by simp [Task.borrows]) rfl trivial
  | notifyRecv | notifySend =>
    refine EndpointInv.notifyOne ?_ hstep
    exact hs.of_set ht rfl rfl rfl rfl id (.inl ·) (by simp) (fun h _ => h)
      (by simp [Task.borrows]) rfl trivial
  | parked | done | cancelled => cases hstep
  | entry | exit =>
    simp only [mea.channel.sendStep] at hstep
    split at hstep <;> cases hstep
    · exact hs.of_set ht rfl rfl rfl rfl id (.inl ·) (by simp) (fun h _ => h)
        (by simp [Task.borrows]) rfl
        (hs.cnt_zero_of_borrows (h := h) (k := .receiver) ht (by simp [Task.borrows])
          (by simp [Task.side]) ‹_›)
    · exact hs.of_set ht rfl rfl rfl rfl id (.inl ·) (by simp) (fun h _ => h)
        (by simp [Task.borrows]) rfl trivial
  | lock | cond | relock =>
    simp only [mea.channel.sendStep] at hstep
    split at hstep <;> cases hstep
    all_goals
      exact hs.of_set ht rfl rfl rfl rfl id (.inl ·) (by simp) (fun h _ => h)
        (by simp [Task.borrows]) rfl trivial
  | wait =>
    cases hstep
    exact hs.of_set ht rfl rfl rfl rfl id (.inl ·) (by simp) (fun h _ => h)
      (by simp [Task.borrows]) rfl trivial

theorem EndpointInv.recvStep {h : Nat} {pc : RecvPc α} (hm : MutexInv s) (hs : EndpointInv s)
    (ht : s.tasks[i]? = some (.recv h pc)) (hstep : recvStep s i h j pc = some s') :
    EndpointInv s' := by
  cases pc with
  | pop w =>
    simp only [mea.channel.recvStep] at hstep
    split at hstep <;> cases hstep
    · next v rest hb =>
      exact hs.of_set ht rfl rfl rfl rfl id (.inl ·) (by simp)
        (fun h0 => absurd (hb ▸ h0) (List.cons_ne_nil v rest)) (by simp [Task.borrows]) rfl
        trivial
    · exact hs.of_set ht rfl rfl rfl rfl id (.inl ·) (by simp) (fun h _ => h)
        (by simp [Task.borrows]) rfl trivial
  | popped v =>
    refine EndpointInv.notifyOne ?_ hstep
    exact hs.of_set ht rfl rfl rfl rfl id (.inl ·) (by simp) (fun h _ => h)
      (by simp [Task.borrows]) rfl trivial
  | disc =>
    simp only [mea.channel.recvStep] at hstep
    split at hstep <;> cases hstep
    · exact hs.of_set ht rfl rfl rfl rfl id (.inl ·) (by simp) (fun h _ => h)
        (by simp [Task.borrows]) rfl
        ⟨hm.holder i _ ht, hs.cnt_zero_of_borrows (h := h) (k := .sender) ht
          (by simp [Task.borrows]) (by simp [Task.side]) ‹_›⟩
    · exact hs.of_set ht rfl rfl rfl rfl id (.inl ·) (by simp) (fun h _ => h)
        (by simp [Task.borrows]) rfl trivial
  | lock | relock =>
    simp only [mea.channel.recvStep] at hstep
    split at hstep <;> cases hstep
    exact hs.of_set ht rfl rfl rfl rfl id (.inl ·) (by simp) (fun h _ => h)
      (by simp [Task.borrows]) rfl trivial
  | wait =>
    cases hstep
    exact hs.of_set ht rfl rfl rfl rfl id (.inl ·) (by simp) (fun h _ => h)
      (by simp [Task.borrows]) rfl trivial
  | parked | done | cancelled => cases hstep

theorem EndpointInv.disconnectStep {pc : DisconnectPc} (hs : EndpointInv s)
    (ht : s.tasks[i]? = some (.disconnect pc)) (hstep : disconnectStep s i pc = some s') :
    EndpointInv s' := by
  cases pc with
  | store =>
    cases hstep
    exact hs.of_set ht rfl rfl rfl rfl (fun _ => rfl) (fun _ => .inr rfl) (fun _ => rfl)
      (fun h _ => h) (by simp [Task.borrows]) rfl trivial
  | notifyAll =>
    cases hstep
    refine EndpointInv.notifyAll ?_
    exact hs.of_set ht rfl rfl rfl rfl id (.inl ·) (by simp) (fun h _ => h)
      (by simp [Task.borrows]) rfl trivial
  | done => cases hstep

/-! ## Handles -/

theorem liveCount_cloneHandle (k k' : Side) :
    liveCount (s.cloneHandle k) k' = liveCount s k' + if k' = k then 1 else 0 := by
  by_cases e : k' = k
  · subst e; simp [liveCount]
  · simp [liveCount, e, Ne.symm e]

theorem liveCount_dropHandle {h : Nat} {k : Side} (hh : s.handles[h]? = some ⟨k, true⟩)
    (k' : Side) : liveCount (s.dropHandle h k) k' + (if k' = k then 1 else 0) = liveCount s k' := by
  have := countP_set_add (· == ⟨k', true⟩) ⟨k, false⟩ hh
  by_cases e : k' = k
  · subst e; simp_all [liveCount]
  · simp_all [liveCount, Ne.symm e]

theorem EndpointInv.clone {h : Nat} {k : Side} (hs : EndpointInv s)
    (hh : s.handles[h]? = some ⟨k, true⟩) : EndpointInv (s.cloneHandle k) := by
  have hpos : 0 < s.cnt k := hs.cnt k ▸ liveCount_pos hh
  have hsc := s.cloneHandle_cnt k .sender
  have hrc := s.cloneHandle_cnt k .receiver
  have hsc0 : s.sender_cnt = 0 → (s.cloneHandle k).sender_cnt = 0 := by
    cases k <;> simp_all [State.cnt]; omega
  have hrc0 : s.receiver_cnt = 0 → (s.cloneHandle k).receiver_cnt = 0 := by
    cases k <;> simp_all [State.cnt]; omega
  have hz : (s.cloneHandle k).sender_cnt = 0 ∨ (s.cloneHandle k).receiver_cnt = 0 →
      s.sender_cnt = 0 ∨ s.receiver_cnt = 0 := by
    cases k <;> simp_all [State.cnt]
  refine ⟨fun k' => ?_, fun k' h' u hk hu => ?_, fun hd => (hs.disc (by simpa using hd)).imp hsc0 hrc0,
    fun h0 => by simpa using hs.zero (hz h0), fun k' u hk => ?_⟩
  · rw [s.cloneHandle_cnt, liveCount_cloneHandle, ← hs.cnt]
    by_cases e : k' = k <;> simp [e]
  · simp only [State.cloneHandle_tasks, State.cloneHandle_handles] at hk ⊢
    exact getElem?_concat_of (hs.borrow k' h' u hk hu)
  · simp only [State.cloneHandle_tasks] at hk
    exact (hs.fact k' u hk).mono hsc0 hrc0 (fun h _ => by simpa using h)

theorem EndpointInv.drop {h : Nat} {k : Side} (hs : EndpointInv s)
    (hh : s.handles[h]? = some ⟨k, true⟩) (hb : ∀ u ∈ s.tasks, u.borrows h = false) :
    EndpointInv (s.dropHandle h k) := by
  have hpos : 0 < s.cnt k := hs.cnt k ▸ liveCount_pos hh
  have hsc := s.dropHandle_cnt k h .sender
  have hrc := s.dropHandle_cnt k h .receiver
  have hsc0 : s.sender_cnt = 0 → (s.dropHandle h k).sender_cnt = 0 := by
    cases k <;> simp only [State.cnt, reduceCtorEq, if_true, if_false] at hsc ⊢ <;> omega
  have hrc0 : s.receiver_cnt = 0 → (s.dropHandle h k).receiver_cnt = 0 := by
    cases k <;> simp only [State.cnt, reduceCtorEq, if_true, if_false] at hrc ⊢ <;> omega
  have htask : ∀ (k' : Nat) (u : Task α), (s.dropHandle h k).tasks[k']? = some u →
      s.tasks[k']? = some u ∨ (u = .disconnect .store ∧ s.cnt k = 1) := by
    intro k' u hk
    rw [State.dropHandle_tasks] at hk
    split at hk
    · exact (getElem?_concat_cases hk).imp id fun e => ⟨e.2, ‹_›⟩
    · exact .inl hk
  refine ⟨fun k' => ?_, fun k' h' u hk hu => ?_, fun hd => ?_, fun h0 => ?_, fun k' u hk => ?_⟩
  · have h1 := liveCount_dropHandle hh k'
    have h2 := hs.cnt k
    have h3 := hs.cnt k'
    rw [s.dropHandle_cnt]
    by_cases e : k' = k
    · subst e
      rw [if_pos rfl] at h1 ⊢
      omega
    · rw [if_neg e] at h1 ⊢
      omega
  · rcases htask k' u hk with hk' | ⟨rfl, -⟩
    · have hne : h' ≠ h := by
        rintro rfl
        simp [hb u (List.getElem?_mem hk')] at hu
      rw [State.dropHandle_handles, List.getElem?_set_ne (Ne.symm hne)]
      exact hs.borrow k' h' u hk' hu
    · simp [Task.borrows] at hu
  · exact (hs.disc (by simpa using hd)).imp hsc0 hrc0
  · by_cases hz : s.sender_cnt = 0 ∨ s.receiver_cnt = 0
    · rcases hs.zero hz with hd | ⟨k', hk⟩
      · exact .inl (by simpa using hd)
      · refine .inr ⟨k', ?_⟩
        rw [State.dropHandle_tasks]
        split
        · exact getElem?_concat_of hk
        · exact hk
    · have h1 : s.cnt k = 1 := by
        cases k <;> simp only [State.cnt, reduceCtorEq, if_true, if_false] at hsc hrc hpos ⊢ <;> omega
      exact .inr ⟨s.tasks.length, by simp [h1]⟩
  · rcases htask k' u hk with hk | ⟨rfl, h1⟩
    · exact (hs.fact k' u hk).mono hsc0 hrc0 (fun h _ => by simpa using h)
    · show _ ∨ _
      cases k <;> simp only [State.cnt, reduceCtorEq, if_true, if_false] at hsc hrc h1 ⊢ <;> omega

/-- A future dropped while it waits for the mutex, on a condvar, or to re-take
the mutex after a wakeup. -/
theorem EndpointInv.cancel (hs : EndpointInv s) (ht : s.tasks[i]? = some t)
    (hc : t.suspended ∨ t.woken) : EndpointInv (s.setTask i t.cancel) := by
  rcases t with ⟨_, _, _⟩ | ⟨_, _⟩ | _
  · exact hs.of_set ht rfl rfl rfl rfl id (.inl ·) (by simp) (fun h _ => h)
      (by simp [Task.cancel, Task.borrows]) rfl trivial
  · exact hs.of_set ht rfl rfl rfl rfl id (.inl ·) (by simp) (fun h _ => h)
      (by simp [Task.cancel, Task.borrows]) rfl trivial
  · simp [Task.suspended, Task.woken] at hc

theorem EndpointInv.taskStep (hm : MutexInv s) (hs : EndpointInv s) (ht : s.tasks[i]? = some t)
    (hstep : taskStep s i j t = some s') : EndpointInv s' := by
  cases t with
  | send h v pc => exact hs.sendStep ht hstep
  | recv h pc => exact hs.recvStep hm ht hstep
  | disconnect pc => exact hs.disconnectStep ht hstep

theorem EndpointInv.step {a : Act α} (hm : MutexInv s) (hs : EndpointInv s)
    (h : step s a = some s') : EndpointInv s' := by
  rcases step_cases h with ⟨_, _, -, hl, rfl⟩ | ⟨_, -, hl, rfl⟩ | ⟨_, _, -, hh, rfl⟩ |
    ⟨_, _, -, hh, hb, rfl⟩ | ⟨_, _, _, -, ht, hstep⟩ | ⟨_, _, -, ht, hp, rfl⟩ |
    ⟨_, _, -, ht, hp, rfl⟩ | ⟨_, _, -, ht, hp, rfl⟩
  · refine hs.of_append (fun h' hb => ?_) trivial
    obtain rfl : _ = h' := by simpa [Task.borrows] using hb
    simpa [State.live] using hl
  · refine hs.of_append (fun h' hb => ?_) trivial
    obtain rfl : _ = h' := by simpa [Task.borrows] using hb
    simpa [State.live] using hl
  · exact hs.clone hh
  · exact hs.drop hh hb
  · exact hs.taskStep hm ht hstep
  · exact hp.elim (hs.wake false ht) (hs.wake false ht)
  · exact hs.cancel ht (.inl hp)
  · exact hs.cancel ht (.inr hp)

theorem endpointInv_new (c : Option Nat) : EndpointInv (State.new c : State α) where
  cnt k := by cases k <;> rfl
  borrow _ _ _ h := by simp [State.new] at h
  disc h := by simp [State.new] at h
  zero h := by simp [State.new] at h
  fact _ _ h := by simp [State.new] at h

theorem endpointInv_run {c : Option Nat} {as : List (Act α)}
    (h : run (State.new c) as = some s) : MutexInv s ∧ EndpointInv s :=
  @run_invariant α (fun s => MutexInv s ∧ EndpointInv s)
    (fun _ _ _ hs h => ⟨hs.1.step h, hs.2.step hs.1 h⟩) _ _ as
    ⟨mutexInv_new c, endpointInv_new c⟩ h

/-! ## Endpoint counting -/

/-- After any run of one channel: the counts are the live handles of each side;
`disconnected` is set only with a count at zero and, once no `Shared::disconnect`
waits before its store, with every count at zero; it is never cleared; and the
two errors are returned only when the other side has no live handle (and, for
`RecvError`, the buffer is empty). -/
theorem endpoint_counts (c : Option Nat) (as : List (Act α)) (s : State α)
    (h : run (State.new c) as = some s) :
    s.sender_cnt = liveCount s .sender ∧ s.receiver_cnt = liveCount s .receiver ∧
    (s.disconnected = true → s.sender_cnt = 0 ∨ s.receiver_cnt = 0) ∧
    ((∀ k : Nat, s.tasks[k]? ≠ some (.disconnect .store)) →
      (s.disconnected = true ↔ s.sender_cnt = 0 ∨ s.receiver_cnt = 0)) ∧
    (∀ as' s', run s as' = some s' → s.disconnected = true → s'.disconnected = true) ∧
    (∀ (k h : Nat) (v w : α), s.tasks[k]? = some (.send h v (.done (.error w))) →
      liveCount s .receiver = 0) ∧
    (∀ k h : Nat, s.tasks[k]? = some (.recv h (.done (.error ()))) →
      s.buffer = [] ∧ liveCount s .sender = 0) := by
  obtain ⟨-, hs⟩ := endpointInv_run h
  refine ⟨hs.cnt .sender, hs.cnt .receiver, hs.disc, fun hn => ⟨hs.disc, fun hz => ?_⟩,
    fun as' _ h' => (Grows.run as' h').disconnected, fun k _ _ _ hk => ?_, fun k _ hk => ?_⟩
  · exact (hs.zero hz).resolve_right fun ⟨k, hk⟩ => hn k hk
  · exact hs.cnt .receiver ▸ hs.fact k _ hk
  · exact ⟨(hs.fact k _ hk).1, hs.cnt .sender ▸ (hs.fact k _ hk).2⟩

/-- On an unbounded channel: the `Sender` is cloned, both `Sender`s are dropped and
`Shared::disconnect` runs, and a `recv` called then returns `RecvError`. -/
def traceCloneDrop : List (Act Nat) :=
  [.clone 0, .drop 0, .drop 2, .run 0 0, .run 0 0, .recv 1, .run 1 0, .run 1 0, .run 1 0]

theorem endpoint_counts_clone_drop :
    ∃ s, run (unbounded : State Nat) traceCloneDrop = some s ∧ s.disconnected = true ∧
      s.sender_cnt = liveCount s .sender ∧ s.receiver_cnt = liveCount s .receiver ∧
      (s.disconnected = true → s.sender_cnt = 0 ∨ s.receiver_cnt = 0) ∧
      ∀ k h : Nat, s.tasks[k]? = some (.recv h (.done (.error ()))) →
        s.buffer = [] ∧ liveCount s .sender = 0 :=
  have h := endpoint_counts none traceCloneDrop _ rfl
  ⟨_, rfl, rfl, h.1, h.2.1, h.2.2.1, h.2.2.2.2.2.2⟩

end mea.channel
