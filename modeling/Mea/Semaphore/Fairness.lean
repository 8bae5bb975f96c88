-- The fairness `mea::semaphore` promises (spec §4.1): the head of the queue is
-- never satisfiable at rest, and futures are woken in the order they queued. Each
-- step keeps both, so they hold in every state of every run.
import Mea.Semaphore.Permits

namespace mea.semaphore

open mea.internal

/-! ## The order of the pending futures -/

/-- The queue is in the order its futures entered it: ids increase from the head. -/
def Queued (st : State) : Prop := st.s.waiters.Pairwise fun v w => v.id < w.id

/-- Every woken future entered the queue before every future still in it. -/
def WokenFirst (st : State) : Prop := ∀ w ∈ st.notified, ∀ v ∈ st.s.waiters, w.id < v.id

/-- Every pending future has an id handed out already. -/
def Fresh (st : State) : Prop := ∀ w ∈ st.s.waiters ++ st.notified, w.id < st.next

/-- The pending futures are in the order they called `acquire`. -/
structure Ordered (st : State) : Prop where
  queued : Queued st
  woken_first : WokenFirst st
  fresh : Fresh st

/-- The fairness the spec asks of the semaphore. -/
structure Fair (st : State) : Prop where
  ordered : Ordered st
  head : st.s.HeadBlocked

variable {st st' : State} {n : Nat}

/-- Dropping pending futures keeps the order. -/
theorem Ordered.of_sub (ho : Ordered st) (hw : st'.s.waiters.Sublist st.s.waiters)
    (hn : st'.notified ⊆ st.notified) (hx : st'.next = st.next) : Ordered st' := by
  refine ⟨ho.queued.sublist hw, fun w hw' v hv => ho.woken_first w (hn hw') v (hw.subset hv),
    fun w hw' => hx ▸ ho.fresh w ?_⟩
  rcases List.mem_append.mp hw' with h | h
  · exact List.mem_append_left _ (hw.subset h)
  · exact List.mem_append_right _ (hn h)

/-- A release wakes the head of the queue first, and leaves a head it cannot
satisfy. -/
theorem Ordered.releasePath (ho : Ordered st) (h : st.releasePath n = some st') : Fair st' := by
  obtain ⟨⟨s', woken⟩, hr, rfl⟩ := Option.map_eq_some'.mp h
  have hids := assign_ids (st.s.permits + n) st.s.waiters
  rw [(Semaphore.release_eq_some hr).2] at hids
  have hmem : ∀ v ∈ woken ++ s'.waiters, ∃ v' ∈ st.s.waiters, v'.id = v.id := fun v hv =>
    List.mem_map.mp (hids ▸ List.mem_map_of_mem Waiter.id hv)
  have hq : (woken ++ s'.waiters).Pairwise fun v w => v.id < w.id := by
    rw [← List.pairwise_map, hids, List.pairwise_map]
    exact ho.queued
  obtain ⟨-, hrest, hcross⟩ := List.pairwise_append.mp hq
  refine ⟨⟨hrest, fun w hw v hv => ?_, fun w hw => ?_⟩, Semaphore.release_headBlocked hr⟩
  · rcases List.mem_append.mp hw with hw | hw
    · obtain ⟨v', hv', e⟩ := hmem v (List.mem_append_right _ hv)
      exact e ▸ ho.woken_first w hw v' hv'
    · exact hcross w hw v hv
  · simp only [List.mem_append] at hw
    rcases hw with hw | hw | hw
    · obtain ⟨v', hv', e⟩ := hmem w (List.mem_append_right _ hw)
      exact e ▸ ho.fresh v' (List.mem_append_left _ hv')
    · exact ho.fresh w (List.mem_append_right _ hw)
    · obtain ⟨v', hv', e⟩ := hmem w (List.mem_append_left _ hw)
      exact e ▸ ho.fresh v' (List.mem_append_left _ hv')

/-- The fast path leaves the queue empty. -/
theorem fair_of_tryAcquire {s' : Semaphore} (ho : Ordered st) (h : st.s.tryAcquire n = some s')
    (hx : st.next ≤ st'.next) (hs : st'.s = s')
    (hn : st'.notified = st.notified) : Fair st' := by
  obtain ⟨hw, -, rfl⟩ := Semaphore.tryAcquire_eq_some h
  refine ⟨⟨by simp [Queued, hs, hw], by simp [WokenFirst, hs, hw], fun w hw' => ?_⟩, ?_⟩
  · simp only [hs, hw, hn, List.nil_append] at hw'
    have := ho.fresh w (List.mem_append_right _ hw')
    omega
  · exact hs ▸ Semaphore.tryAcquire_headBlocked h

/-- A future queued at the tail has the newest id. -/
theorem Ordered.enqueue (ho : Ordered st) (k : Nat) :
    Ordered { st with
      s := { st.s with waiters := st.s.waiters ++ [⟨st.next, k, k⟩] }
      next := st.next + 1 } := by
  refine ⟨List.pairwise_append.mpr ⟨ho.queued, List.pairwise_singleton _ _, fun v hv w hw => ?_⟩,
    fun w hw v hv => ?_, fun w hw => ?_⟩
  · rw [List.mem_singleton.mp hw]
    exact ho.fresh v (List.mem_append_left _ hv)
  · rcases List.mem_append.mp hv with hv | hv
    · exact ho.woken_first w hw v hv
    · rw [List.mem_singleton.mp hv]
      exact ho.fresh w (List.mem_append_right _ hw)
  · simp only [List.mem_append, List.mem_singleton] at hw
    rcases hw with (hw | rfl) | hw
    · exact Nat.lt_succ_of_lt (ho.fresh w (List.mem_append_left _ hw))
    · exact Nat.lt_succ_self _
    · exact Nat.lt_succ_of_lt (ho.fresh w (List.mem_append_right _ hw))

theorem Fair.step {a : Act} (hf : Fair st) (h : step st a = some st') : Fair st' := by
  have ho := hf.ordered
  rcases step_cases h with ⟨n, s', -, hs', rfl⟩ | ⟨n, -, -, rfl⟩ | ⟨n, s', -, hs', rfl⟩ |
    ⟨n, s', -, hs', rfl⟩ | ⟨i, w, -, hw, rfl⟩ | ⟨i, w, -, hw, h⟩ | ⟨i, w, -, hw, h⟩ |
    ⟨n, st'', -, h', rfl⟩ | ⟨n, -, rfl⟩ | ⟨p, c, -, hp, h⟩ | ⟨p, c, -, hp, h⟩
  · exact fair_of_tryAcquire ho hs' le_rfl rfl rfl
  · exact hf
  · obtain ⟨-, ht⟩ | ⟨h, -⟩ := Semaphore.acquire_eq hs'
    · exact fair_of_tryAcquire ho ht (Nat.le_succ _) rfl rfl
    · cases h
  · obtain ⟨h, -⟩ | ⟨-, rfl⟩ := Semaphore.acquire_eq hs'
    · cases h
    exact ⟨ho.enqueue n, Semaphore.acquire_headBlocked hf.head hs'⟩
  · exact ⟨ho.of_sub (List.Sublist.refl _) (List.erase_subset _ _) rfl, hf.head⟩
  · refine Ordered.releasePath ?_ h
    exact ho.of_sub (List.erase_sublist _ _) (List.Subset.refl _) rfl
  · refine Ordered.releasePath ?_ h
    exact ho.of_sub (List.Sublist.refl _) (List.erase_subset _ _) rfl
  · have hf' := ho.releasePath h'
    exact ⟨hf'.ordered.of_sub (List.Sublist.refl _) (List.Subset.refl _) rfl, hf'.head⟩
  · exact ⟨ho.of_sub (List.Sublist.refl _) (List.Subset.refl _) rfl,
      Semaphore.forget_headBlocked hf.head⟩
  all_goals
    refine Ordered.releasePath ?_ h
    exact ho.of_sub (List.Sublist.refl _) (List.Subset.refl _) rfl

theorem fair_new (k : Nat) : Fair (State.new k) :=
  ⟨⟨List.Pairwise.nil, by simp [WokenFirst, State.new, Semaphore.new],
      by simp [Fresh, State.new, Semaphore.new]⟩,
    by simp [Semaphore.HeadBlocked, State.new, Semaphore.new]⟩

theorem fair_run {k : Nat} (as : List Act) (h : run (State.new k) as = some st) : Fair st :=
  runSteps_invariant_of (P := fun _ => True) (fun _ _ _ hf _ h => hf.step h) as (fair_new k)
    (fun _ _ => trivial) h

/-- The semaphore is fair in every state of every run: the head of the queue asks for
more than is available, the queue is in the order its futures called `acquire`, and
every woken future called it before every future still waiting. -/
theorem semaphore_fair (k : Nat) (as : List Act) (st : State) (h : run (State.new k) as = some st) :
    (∀ w ws, st.s.waiters = w :: ws → st.s.availablePermits < w.needed) ∧
      st.s.waiters.Pairwise (fun v w => v.id < w.id) ∧
      (∀ w ∈ st.notified, ∀ v ∈ st.s.waiters, w.id < v.id) ∧
      ∀ w ∈ st.s.waiters ++ st.notified, w.id < st.next :=
  have hf := fair_run as h
  ⟨hf.head, hf.ordered.queued, hf.ordered.woken_first, hf.ordered.fresh⟩

theorem semaphore_fair_queued :
    ∃ st, run (State.new 1) [.acquire 2, .acquire 1] = some st ∧
      st.s.waiters.Pairwise (fun v w => v.id < w.id) :=
  ⟨_, rfl, (semaphore_fair 1 [.acquire 2, .acquire 1] _ rfl).2.1⟩

end mea.semaphore
