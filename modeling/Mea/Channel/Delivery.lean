-- No value is lost, duplicated or reordered: what the receivers popped, then
-- what the buffer holds, is what the senders pushed, in push order; each `send`
-- pushes its own value once, and only on the way to `Ok`.
import Mea.Channel.Frame

namespace mea.channel

variable {α : Type} {s s' : State α} {i j : Nat} {t t' : Task α} {cv : Cv}

/-! ## What each task put in the logs -/

namespace Task

/-- The value a `send` has pushed: from its `push_back` on, and only then. -/
def pushedVal : Task α → Option α
  | send _ v .notifyRecv | send _ v .notifySend | send _ v (.done (.ok _)) => some v
  | _ => none

/-- The value a `recv` has popped: from its `pop_front` on, and only then. -/
def poppedVal : Task α → Option α
  | recv _ (.popped v) | recv _ (.done (.ok v)) => some v
  | _ => none

/-- A `send` that failed hands back its own value in `SendError`. -/
def errOwn : Task α → Prop
  | send _ v (.done (.error w)) => w = v
  | _ => True

end Task

/-- The entries of task `i` in a log of (task, value). -/
def entriesOf (l : List (Nat × α)) (i : Nat) : List (Nat × α) := l.filter (·.1 == i)

/-- What task `i`, which is `t`, left in the two logs. -/
def Own (s : State α) (i : Nat) (t : Task α) : Prop :=
  entriesOf s.pushed i = (t.pushedVal.map ((i, ·))).toList ∧
  entriesOf s.popped i = (t.poppedVal.map ((i, ·))).toList ∧ t.errOwn

structure LogInv (s : State α) : Prop where
  fifo : s.popped.map Prod.snd ++ s.buffer = s.pushed.map Prod.snd
  own : ∀ (k : Nat) (u : Task α), s.tasks[k]? = some u → Own s k u
  pushed_ids : ∀ e ∈ s.pushed, e.1 < s.tasks.length
  popped_ids : ∀ e ∈ s.popped, e.1 < s.tasks.length

/-! ## Entries -/

theorem entriesOf_concat_ne {l : List (Nat × α)} {k : Nat} {e : Nat × α} (h : e.1 ≠ k) :
    entriesOf (l ++ [e]) k = entriesOf l k := by
  simp [entriesOf, h]

theorem entriesOf_concat_self (l : List (Nat × α)) (k : Nat) (v : α) :
    entriesOf (l ++ [(k, v)]) k = entriesOf l k ++ [(k, v)] := by
  simp [entriesOf]

theorem entriesOf_of_le {l : List (Nat × α)} {k : Nat} (h : ∀ e ∈ l, e.1 < k) :
    entriesOf l k = [] := by
  simp only [entriesOf, List.filter_eq_nil_iff, beq_iff_eq]
  exact fun e he hk => absurd (h e he) (by omega)

theorem mem_of_entriesOf {l : List (Nat × α)} {k : Nat} {e : Nat × α}
    (h : entriesOf l k = [e]) : e ∈ l := by
  have : e ∈ entriesOf l k := by rw [h]; exact List.mem_singleton_self e
  exact List.mem_of_mem_filter this

/-! ## Steps that leave the logs alone -/

theorem LogInv.of_set (hs : LogInv s) (ht : s.tasks[i]? = some t)
    (htasks : s'.tasks = s.tasks.set i t') (hbuf : s'.buffer = s.buffer)
    (hpu : s'.pushed = s.pushed) (hpo : s'.popped = s.popped)
    (hv : t'.pushedVal = t.pushedVal) (hp : t'.poppedVal = t.poppedVal) (he : t'.errOwn) :
    LogInv s' := by
  refine ⟨by rw [hbuf, hpu, hpo]; exact hs.fifo, ?_, ?_, ?_⟩
  · intro k u hk
    rw [htasks] at hk
    rcases getElem?_set_cases hk with ⟨rfl, rfl⟩ | ⟨-, hk⟩
    · obtain ⟨h1, h2, -⟩ := hs.own k t ht
      exact ⟨by rw [hpu, h1, hv], by rw [hpo, h2, hp], he⟩
    · rw [Own, hpu, hpo]
      exact hs.own k u hk
  · intro e he
    simpa [htasks] using hs.pushed_ids e (hpu ▸ he)
  · intro e he
    simpa [htasks] using hs.popped_ids e (hpo ▸ he)

theorem LogInv.of_append (hs : LogInv s) (hv : t.pushedVal = none) (hp : t.poppedVal = none)
    (he : t.errOwn) : LogInv { s with tasks := s.tasks ++ [t] } := by
  refine ⟨hs.fifo, ?_, ?_, ?_⟩
  · intro k u hk
    rcases getElem?_concat_cases hk with hk | ⟨rfl, rfl⟩
    · exact hs.own k u hk
    · exact ⟨by rw [entriesOf_of_le hs.pushed_ids, hv]; rfl,
        by rw [entriesOf_of_le hs.popped_ids, hp]; rfl, he⟩
  · intro e he
    have := hs.pushed_ids e he
    simp only [List.length_append, List.length_singleton]
    omega
  · intro e he
    have := hs.popped_ids e he
    simp only [List.length_append, List.length_singleton]
    omega

theorem LogInv.of_frame (hs : LogInv s) (htasks : s'.tasks = s.tasks)
    (hbuf : s'.buffer = s.buffer) (hpu : s'.pushed = s.pushed) (hpo : s'.popped = s.popped) :
    LogInv s' :=
  ⟨by rw [hbuf, hpu, hpo]; exact hs.fifo,
    fun k u hk => by rw [Own, hpu, hpo]; exact hs.own k u (htasks ▸ hk),
    fun e he => htasks ▸ hs.pushed_ids e (hpu ▸ he),
    fun e he => htasks ▸ hs.popped_ids e (hpo ▸ he)⟩

/-- A wakeup or a cancellation of a task that has not pushed or popped. -/
theorem vals_wake (n : Bool) (h : t.parkedOn cv) :
    (t.wake n).pushedVal = t.pushedVal ∧ (t.wake n).poppedVal = t.poppedVal ∧ (t.wake n).errOwn := by
  rcases parkedOn_wake h with ⟨_, _, -, rfl, e⟩ | ⟨_, -, rfl, e⟩ <;> rw [e] <;>
    exact ⟨rfl, rfl, trivial⟩

theorem LogInv.notifyOne (hs : LogInv s) (h : s.notifyOne cv j = some s') : LogInv s' := by
  rcases notifyOne_cases h with ⟨rfl, -⟩ | ⟨t, ht, hp, rfl⟩
  · exact hs
  · obtain ⟨h1, h2, h3⟩ := vals_wake true hp
    exact hs.of_set ht rfl rfl rfl rfl h1 h2 h3

theorem LogInv.notifyAll (hs : LogInv s) : LogInv (s.notifyAll cv) := by
  refine ⟨hs.fifo, ?_, by simpa using hs.pushed_ids, by simpa using hs.popped_ids⟩
  intro k u hk
  simp only [State.notifyAll_tasks, List.getElem?_map, Option.map_eq_some'] at hk
  obtain ⟨u', hu', rfl⟩ := hk
  obtain ⟨h1, h2, h3⟩ := hs.own k u' hu'
  split
  · obtain ⟨e1, e2, e3⟩ := vals_wake true ‹_›
    exact ⟨by rw [State.notifyAll_pushed, h1, e1], by rw [State.notifyAll_popped, h2, e2], e3⟩
  · exact ⟨h1, h2, h3⟩

/-! ## Push and pop -/

theorem LogInv.push {h : Nat} {v : α} (hs : LogInv s) (ht : s.tasks[i]? = some (.send h v .push)) :
    LogInv { s.setTask i (.send h v .notifyRecv) with
      buffer := s.buffer ++ [v], pushed := s.pushed ++ [(i, v)], locked := false } := by
  have hi : i < s.tasks.length := (List.getElem?_eq_some_iff.mp ht).1
  refine ⟨?_, ?_, ?_, ?_⟩
  · simp [← List.append_assoc, hs.fifo]
  · intro k u hk
    rcases getElem?_set_cases hk with ⟨rfl, rfl⟩ | ⟨hki, hk⟩
    · obtain ⟨h1, h2, -⟩ := hs.own k _ ht
      exact ⟨by rw [entriesOf_concat_self, h1]; rfl, h2, trivial⟩
    · obtain ⟨h1, h2, h3⟩ := hs.own k u hk
      exact ⟨by rw [entriesOf_concat_ne (Ne.symm hki), h1], h2, h3⟩
  · intro e he
    simp only [List.mem_append, List.mem_singleton] at he
    rcases he with he | rfl
    · simpa using hs.pushed_ids e he
    · simpa using hi
  · simpa using hs.popped_ids

theorem LogInv.pop {h : Nat} {w : Bool} {v : α} {rest : List α} (hs : LogInv s)
    (ht : s.tasks[i]? = some (.recv h (.pop w))) (hb : s.buffer = v :: rest) :
    LogInv { s.setTask i (.recv h (.popped v)) with
      buffer := rest, popped := s.popped ++ [(i, v)] } := by
  have hi : i < s.tasks.length := (List.getElem?_eq_some_iff.mp ht).1
  refine ⟨?_, ?_, ?_, ?_⟩
  · simp [← hs.fifo, hb]
  · intro k u hk
    rcases getElem?_set_cases hk with ⟨rfl, rfl⟩ | ⟨hki, hk⟩
    · obtain ⟨h1, h2, -⟩ := hs.own k _ ht
      exact ⟨h1, by rw [entriesOf_concat_self, h2]; rfl, trivial⟩
    · obtain ⟨h1, h2, h3⟩ := hs.own k u hk
      exact ⟨h1, by rw [entriesOf_concat_ne (Ne.symm hki), h2], h3⟩
  · simpa using hs.pushed_ids
  · intro e he
    simp only [List.mem_append, List.mem_singleton] at he
    rcases he with he | rfl
    · simpa using hs.popped_ids e he
    · simpa using hi

/-! ## Every step keeps the invariant -/

theorem LogInv.sendStep {h : Nat} {v : α} {pc : SendPc α} (hs : LogInv s)
    (ht : s.tasks[i]? = some (.send h v pc)) (hstep : sendStep s i h v j pc = some s') :
    LogInv s' := by
  cases pc with
  | push => cases hstep; exact hs.push ht
  | notifyRecv | notifySend =>
    refine LogInv.notifyOne ?_ hstep
    exact hs.of_set ht rfl rfl rfl rfl rfl rfl trivial
  | parked | done | cancelled => cases hstep
  | _ =>
    simp only [mea.channel.sendStep] at hstep
    first | cases hstep | (split at hstep <;> cases hstep)
    all_goals exact hs.of_set ht rfl rfl rfl rfl rfl rfl (by simp [Task.errOwn])

theorem LogInv.recvStep {h : Nat} {pc : RecvPc α} (hs : LogInv s)
    (ht : s.tasks[i]? = some (.recv h pc)) (hstep : recvStep s i h j pc = some s') :
    LogInv s' := by
  cases pc with
  | pop w =>
    simp only [mea.channel.recvStep] at hstep
    split at hstep <;> cases hstep
    · exact hs.pop ht ‹_›
    · exact hs.of_set ht rfl rfl rfl rfl rfl rfl trivial
  | popped v =>
    refine LogInv.notifyOne ?_ hstep
    exact hs.of_set ht rfl rfl rfl rfl rfl rfl trivial
  | parked | done | cancelled => cases hstep
  | _ =>
    simp only [mea.channel.recvStep] at hstep
    first | cases hstep | (split at hstep <;> cases hstep)
    all_goals exact hs.of_set ht rfl rfl rfl rfl rfl rfl trivial

theorem LogInv.disconnectStep {pc : DisconnectPc} (hs : LogInv s)
    (ht : s.tasks[i]? = some (.disconnect pc)) (hstep : disconnectStep s i pc = some s') :
    LogInv s' := by
  cases pc with
  | store =>
    cases hstep
    exact @LogInv.of_set _ _ _ _ _ (.disconnect .notifyAll) hs ht rfl rfl rfl rfl rfl rfl trivial
  | notifyAll =>
    cases hstep
    refine LogInv.notifyAll ?_
    exact hs.of_set ht rfl rfl rfl rfl rfl rfl trivial
  | done => cases hstep

theorem LogInv.step {a : Act α} (hs : LogInv s) (h : step s a = some s') : LogInv s' := by
  rcases step_cases h with ⟨_, _, -, -, rfl⟩ | ⟨_, -, -, rfl⟩ | ⟨_, _, -, -, rfl⟩ |
    ⟨g, k, -, -, -, rfl⟩ | ⟨_, _, t, -, ht, hstep⟩ | ⟨_, t, -, ht, hp, rfl⟩ |
    ⟨_, t, -, ht, hp, rfl⟩ | ⟨_, t, -, ht, hp, rfl⟩
  · exact hs.of_append rfl rfl trivial
  · exact hs.of_append rfl rfl trivial
  · exact hs.of_frame (by simp) (by simp) (by simp) (by simp)
  · have hd : LogInv { s.setCnt k (s.cnt k - 1) with handles := s.handles.set g ⟨k, false⟩ } :=
      hs.of_frame (by simp) (by simp) (by simp) (by simp)
    unfold State.dropHandle
    split
    · exact hd.of_append rfl rfl trivial
    · exact hd
  · cases t with
    | send => exact hs.sendStep ht hstep
    | recv => exact hs.recvStep ht hstep
    | disconnect => exact hs.disconnectStep ht hstep
  · obtain ⟨h1, h2, h3⟩ := hp.elim (vals_wake false) (vals_wake false)
    exact hs.of_set ht rfl rfl rfl rfl h1 h2 h3
  all_goals
    rcases t with ⟨_, _, _ | _ | _ | _ | _ | _ | _ | _ | _ | _ | _ | _⟩ |
      ⟨_, _ | _ | _ | _ | _ | _ | _ | _ | _⟩ | _ <;>
      first | exact hs.of_set ht rfl rfl rfl rfl rfl rfl trivial | cases hp

theorem logInv_new (c : Option Nat) : LogInv (State.new c : State α) :=
  ⟨rfl, fun _ _ h => by simp [State.new] at h, by simp [State.new], by simp [State.new]⟩

theorem logInv_run {c : Option Nat} {as : List (Act α)}
    (h : run (State.new c) as = some s) : LogInv s :=
  run_invariant (fun _ _ _ hs h => hs.step h) as (logInv_new c) h

/-! ## No value lost, duplicated or reordered -/

theorem val_of_mem_entriesOf {l : List (Nat × α)} {e : Nat × α} {o : Option α}
    (he : e ∈ l) (h : entriesOf l e.1 = (o.map ((e.1, ·))).toList) : o = some e.2 := by
  have hmem : e ∈ entriesOf l e.1 := List.mem_filter.mpr ⟨he, by simp⟩
  rw [h] at hmem
  cases o <;> simp_all [Prod.ext_iff]

section Delivered

variable (hs : LogInv s)
include hs

theorem LogInv.sent_ok {k : Nat} {v : α} (ht : s.tasks[i]? = some (.send k v (.done (.ok ())))) :
    entriesOf s.pushed i = [(i, v)] :=
  (hs.own i _ ht).1

theorem LogInv.sent_err {k : Nat} {v w : α}
    (ht : s.tasks[i]? = some (.send k v (.done (.error w)))) :
    w = v ∧ entriesOf s.pushed i = [] :=
  ⟨(hs.own i _ ht).2.2, (hs.own i _ ht).1⟩

theorem LogInv.sent_cancelled {k : Nat} {v : α}
    (ht : s.tasks[i]? = some (.send k v .cancelled)) : entriesOf s.pushed i = [] :=
  (hs.own i _ ht).1

theorem LogInv.received {k : Nat} {v : α} (ht : s.tasks[i]? = some (.recv k (.done (.ok v)))) :
    entriesOf s.popped i = [(i, v)] :=
  (hs.own i _ ht).2.1

/-- Every entry of the push log is the value of the `send` that pushed it. -/
theorem LogInv.pushed_by {e : Nat × α} (he : e ∈ s.pushed) :
    ∃ u, s.tasks[e.1]? = some u ∧ u.pushedVal = some e.2 :=
  have hu := List.getElem?_eq_getElem (hs.pushed_ids e he)
  ⟨_, hu, val_of_mem_entriesOf he (hs.own _ _ hu).1⟩

/-- Every entry of the pop log is the value of the `recv` that popped it. -/
theorem LogInv.popped_by {e : Nat × α} (he : e ∈ s.popped) :
    ∃ u, s.tasks[e.1]? = some u ∧ u.poppedVal = some e.2 :=
  have hu := List.getElem?_eq_getElem (hs.popped_ids e he)
  ⟨_, hu, val_of_mem_entriesOf he (hs.own _ _ hu).2.1⟩

/-- A send that had returned `Ok` in `s` comes, in any later state, before every
send that was not called yet in `s` and has pushed since. -/
theorem LogInv.push_order {a ka : Nat} {va : α}
    (ha : s.tasks[a]? = some (.send ka va (.done (.ok ())))) {as : List (Act α)}
    (hr : run s as = some s') {b : Nat} {u : Task α} {vb : α} (hb : s'.tasks[b]? = some u)
    (hnew : s.tasks.length ≤ b) (hu : u.pushedVal = some vb) :
    List.Sublist [(a, va), (b, vb)] s'.pushed := by
  have hs' : LogInv s' := run_invariant (fun _ _ _ hs h => hs.step h) as hs hr
  obtain ⟨rest, hrest⟩ := (Grows.run as hr).pushed
  have hA : (a, va) ∈ s.pushed := mem_of_entriesOf (hs.sent_ok ha)
  have hB : (b, vb) ∈ s'.pushed := by
    have := (hs'.own b u hb).1
    rw [hu] at this
    exact mem_of_entriesOf this
  have hB' : (b, vb) ∉ s.pushed := fun h => by
    have := hs.pushed_ids _ h
    simp only at this
    omega
  rw [← hrest] at hB ⊢
  have hBr : (b, vb) ∈ rest := (List.mem_append.mp hB).resolve_left hB'
  exact (List.singleton_sublist.mpr hA).append (List.singleton_sublist.mpr hBr)

end Delivered

/-- No value is lost, duplicated or reordered, in any run of a channel with any
senders, receivers, clones, drops and cancellations: the values popped, in pop
order, then the buffer, are the values pushed, in push order; a `send` that
returned `Ok` pushed its own value once; one that returned `Err(SendError(w))`
or was cancelled pushed nothing, and `w` is its value; a `recv` that returned
`Ok(v)` popped `v` once; every push is a `send`'s own value and every pop the
value of the `recv` that popped it; and a `send` that
returned `Ok` before another `send` was called is ahead of it in push order. -/
theorem no_value_lost (c : Option Nat) (as : List (Act α)) (s : State α)
    (h : run (State.new c) as = some s) :
    s.popped.map Prod.snd ++ s.buffer = s.pushed.map Prod.snd ∧
    (∀ i k v, s.tasks[i]? = some (.send k v (.done (.ok ()))) →
      entriesOf s.pushed i = [(i, v)]) ∧
    (∀ i k v w, s.tasks[i]? = some (.send k v (.done (.error w))) →
      w = v ∧ entriesOf s.pushed i = []) ∧
    (∀ i k v, s.tasks[i]? = some (.send k v .cancelled) → entriesOf s.pushed i = []) ∧
    (∀ i k v, s.tasks[i]? = some (.recv k (.done (.ok v))) →
      entriesOf s.popped i = [(i, v)]) ∧
    (∀ e ∈ s.pushed, ∃ u, s.tasks[e.1]? = some u ∧ u.pushedVal = some e.2) ∧
    (∀ e ∈ s.popped, ∃ u, s.tasks[e.1]? = some u ∧ u.poppedVal = some e.2) ∧
    (∀ a ka va, s.tasks[a]? = some (.send ka va (.done (.ok ()))) →
      ∀ as' s', run s as' = some s' → ∀ b u vb, s'.tasks[b]? = some u →
        s.tasks.length ≤ b → u.pushedVal = some vb →
          List.Sublist [(a, va), (b, vb)] s'.pushed) := by
  have hs := logInv_run h
  exact ⟨hs.fifo, fun _ _ _ => hs.sent_ok, fun _ _ _ _ => hs.sent_err,
    fun _ _ _ => hs.sent_cancelled, fun _ _ _ => hs.received, fun _ => hs.pushed_by,
    fun _ => hs.popped_by,
    fun _ _ _ ha _ _ hr _ _ _ hb hnew hu => hs.push_order ha hr hb hnew hu⟩

/-- On an unbounded channel: a `send` of 5 returns `Ok`, a `send` of 6 pushes, and a
`recv` pops 5 and returns it. -/
def tracePushPop : List (Act Nat) :=
  [.send 0 5] ++ List.replicate 7 (.run 0 0) ++ [.send 0 6] ++ List.replicate 5 (.run 1 0) ++
    [.recv 1] ++ List.replicate 3 (.run 2 0)

theorem no_value_lost_push_pop :
    ∃ s, run (unbounded : State Nat) tracePushPop = some s ∧ s.popped = [(2, 5)] ∧
      s.popped.map Prod.snd ++ s.buffer = s.pushed.map Prod.snd ∧
      ∀ i k v, s.tasks[i]? = some (.recv k (.done (.ok v))) → entriesOf s.popped i = [(i, v)] :=
  have h := no_value_lost none tracePushPop _ rfl
  ⟨_, rfl, rfl, h.1, h.2.2.2.2.1⟩

end mea.channel
