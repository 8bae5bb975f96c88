-- What a channel is for: a FIFO queue of values, bounded by its capacity. Seen
-- through what was sent, what is buffered and what was received, every step of a
-- channel is a step of this queue: nothing, an enqueue with room, or a dequeue of
-- the head. The queue's own laws then hold of every channel.
import Mea.Channel.Mutex

namespace mea.channel

variable {α : Type}

/-! ## The abstract queue -/

/-- A FIFO queue with its history: every value enqueued, the values still queued,
and every value dequeued, oldest first. -/
structure Queue (α : Type) where
  enqueued : List α
  queued : List α
  dequeued : List α
  deriving DecidableEq, Repr

/-- What can happen to the queue. `skip` is a step that leaves it alone. -/
inductive QueueAct (α : Type) where
  | enqueue (v : α)
  | dequeue
  | skip
  deriving DecidableEq, Repr

namespace Queue

def empty : Queue α := ⟨[], [], []⟩

/-- Room for one more value under the capacity `cap`; `none` is unbounded. -/
def hasRoom (cap : Option Nat) (q : Queue α) : Bool :=
  match cap with
  | none => true
  | some c => decide (q.queued.length < c)

/-- One step of the queue of capacity `cap`: an enqueue only with room, a dequeue
only of the head. -/
def step (cap : Option Nat) (q : Queue α) : QueueAct α → Option (Queue α)
  | .enqueue v =>
    if q.hasRoom cap then some ⟨q.enqueued ++ [v], q.queued ++ [v], q.dequeued⟩ else none
  | .dequeue =>
    match q.queued with
    | v :: rest => some ⟨q.enqueued, rest, q.dequeued ++ [v]⟩
    | [] => none
  | .skip => some q

def run (cap : Option Nat) : Queue α → List (QueueAct α) → Option (Queue α) :=
  runSteps (step cap)

/-- The laws of the queue: what was dequeued, then what is queued, is what was
enqueued, in order; and no more than `cap` values are queued. -/
structure Inv (cap : Option Nat) (q : Queue α) : Prop where
  fifo : q.dequeued ++ q.queued = q.enqueued
  bound : ∀ c, cap = some c → q.queued.length ≤ c

variable {cap : Option Nat} {q q' : Queue α}

theorem Inv.step {b : QueueAct α} (hq : Inv cap q) (h : step cap q b = some q') : Inv cap q' := by
  cases b with
  | enqueue v =>
    simp only [Queue.step] at h
    split at h <;> cases h
    refine ⟨by simp [← hq.fifo], fun c hc => ?_⟩
    simp_all [hasRoom]
    omega
  | dequeue =>
    simp only [Queue.step] at h
    split at h <;> cases h
    next v rest hv =>
    refine ⟨by simp [← hq.fifo, hv], fun c hc => ?_⟩
    have := hq.bound c hc
    simp only [hv, List.length_cons] at this
    show rest.length ≤ c
    omega
  | skip => cases h; exact hq

theorem inv_run (bs : List (QueueAct α)) (h : run cap empty bs = some q) : Inv cap q :=
  runSteps_invariant_of (P := fun _ => True) (fun _ _ _ hq _ h => hq.step h) bs
    ⟨rfl, fun _ _ => Nat.zero_le _⟩ (fun _ _ => trivial) h

end Queue

/-! ## The channel as a queue -/

/-- The channel seen as a queue: the values pushed, the buffer, and the values
popped. -/
def State.toQueue (s : State α) : Queue α :=
  ⟨s.pushed.map Prod.snd, s.buffer, s.popped.map Prod.snd⟩

variable {s s' : State α} {i j : Nat} {t : Task α}

theorem toQueue_notifyOne {cv : Cv} (h : s.notifyOne cv j = some s') : s'.toQueue = s.toQueue := by
  rcases notifyOne_cases h with ⟨rfl, -⟩ | ⟨_, -, -, rfl⟩ <;> rfl

theorem skip_of_toQueue (cap : Option Nat) (h : s'.toQueue = s.toQueue) :
    ∃ b, Queue.step cap s.toQueue b = some s'.toQueue :=
  ⟨.skip, by rw [h]; rfl⟩

/-- A task's statement is a queue step: `push_back` (L158) an enqueue, with the room
the holder of the mutex saw at L150; `pop_front` (L203) a dequeue of the head; every
other statement leaves the queue alone. -/
theorem taskStep_toQueue (hm : MutexInv s) (ht : s.tasks[i]? = some t)
    (h : taskStep s i j t = some s') : ∃ b, Queue.step s.capacity s.toQueue b = some s'.toQueue := by
  cases t with
  | send g v pc =>
    cases pc <;> simp only [taskStep, sendStep] at h
    case push =>
      cases h
      have hroom : ∀ c, s.capacity = some c → s.buffer.length < c := hm.holder i _ ht
      refine ⟨.enqueue v, ?_⟩
      cases hc : s.capacity with
      | none => simp [Queue.step, Queue.hasRoom, State.toQueue, hc]
      | some c => simp [Queue.step, Queue.hasRoom, State.toQueue, hc, hroom c hc]
    case notifyRecv | notifySend => exact skip_of_toQueue _ ((toQueue_notifyOne h).trans rfl)
    all_goals first | cases h | (split at h <;> cases h)
    all_goals exact skip_of_toQueue _ rfl
  | recv g pc =>
    cases pc <;> simp only [taskStep, recvStep] at h
    case popped => exact skip_of_toQueue _ ((toQueue_notifyOne h).trans rfl)
    case pop =>
      split at h <;> cases h
      · next v rest hb => exact ⟨.dequeue, by simp [Queue.step, State.toQueue, hb]⟩
      · exact skip_of_toQueue _ rfl
    all_goals first | cases h | (split at h <;> cases h)
    all_goals exact skip_of_toQueue _ rfl
  | disconnect pc => cases pc <;> cases h <;> exact skip_of_toQueue _ rfl

theorem step_toQueue {a : Act α} (hm : MutexInv s) (h : step s a = some s') :
    ∃ b, Queue.step s.capacity s.toQueue b = some s'.toQueue := by
  rcases step_cases h with ⟨_, _, -, -, rfl⟩ | ⟨_, -, -, rfl⟩ | ⟨_, _, -, -, rfl⟩ |
    ⟨_, _, -, -, -, rfl⟩ | ⟨_, _, _, -, ht, hs⟩ | ⟨_, _, -, -, -, rfl⟩ |
    ⟨_, _, -, -, -, rfl⟩ | ⟨_, _, -, -, -, rfl⟩
  on_goal 5 => exact taskStep_toQueue hm ht hs
  -- a call started, a handle cloned or dropped, a wakeup or a cancellation: no change
  all_goals exact skip_of_toQueue _ (by simp [State.toQueue])

variable {c : Option Nat} {as : List (Act α)}

theorem run_toQueue (h : run (State.new c) as = some s) :
    ∃ bs, Queue.run c Queue.empty bs = some s.toQueue :=
  runSteps_simulate State.toQueue (I := fun s => MutexInv s ∧ s.capacity = c)
    (fun _ _ _ hs h => ⟨hs.1.step h, (Grows.step h).capacity.trans hs.2⟩)
    (fun _ _ _ hs h => hs.2 ▸ step_toQueue hs.1 h) as ⟨mutexInv_new c, rfl⟩ h

/-- The queue's laws hold of every channel: the values popped, then the buffer, are
the values pushed, and the buffer stays within the capacity. -/
theorem toQueue_inv (h : run (State.new c) as = some s) : Queue.Inv c s.toQueue :=
  have ⟨bs, hb⟩ := run_toQueue h
  Queue.inv_run bs hb

/-- A channel made by `bounded(c)` or `unbounded()` refines the FIFO queue of
capacity `c`: every reachable state is a state of the queue seen through
`State.toQueue`, and every step from it is one step of the queue: an enqueue made
with room, a dequeue of the head, or no change. So the queue's laws hold of it. -/
theorem channel_refines_queue (c : Option Nat) (as : List (Act α)) (s : State α)
    (h : run (State.new c) as = some s) :
    (∃ bs, Queue.run c Queue.empty bs = some s.toQueue) ∧
      (∀ a s', step s a = some s' → ∃ b, Queue.step c s.toQueue b = some s'.toQueue) ∧
      Queue.Inv c s.toQueue :=
  have hc : s.capacity = c := (Grows.run as h).capacity
  ⟨run_toQueue h, fun _ _ hs => hc ▸ step_toQueue (mutexInv_run h) hs, toQueue_inv h⟩

theorem channel_refines_queue_send :
    ∃ s, run (bounded 1 : State Nat) [.send 0 5, .run 0 0, .run 0 0, .run 0 0, .run 0 0,
      .run 0 0] = some s ∧ ∃ bs, Queue.run (some 1) Queue.empty bs = some s.toQueue :=
  ⟨_, rfl, (channel_refines_queue (some 1) [.send 0 5, .run 0 0, .run 0 0, .run 0 0, .run 0 0,
    .run 0 0] _ rfl).1⟩

end mea.channel
