-- One step of the channel: a task runs the next statement of `send`, `recv` or
-- `Shared::disconnect`, a handle is cloned or dropped, a new call starts, a parked
-- task wakes up spuriously, or a pending future is dropped.
import Mea.Channel.State
import Mea.Internal

namespace mea.channel

variable {α : Type}

/-! ## The statements of `send`, `recv` and `disconnect` -/

/-- Task `i`, a `send` of `v` through handle `h`, runs one statement of
`Sender::send`. `j` is the waiter its `notify_one` wakes. -/
def sendStep (s : State α) (i h : Nat) (v : α) (j : Nat) : SendPc α → Option (State α)
  | .lock =>
    if !s.locked then some { s.setTask i (.send h v .entry) with locked := true } else none
  | .entry =>
    if s.disconnected then some { s.setTask i (.send h v (.done (.error v))) with locked := false }
    else some (s.setTask i (.send h v (.cond false)))
  | .cond _ =>
    if s.isFull && !s.disconnected then some (s.setTask i (.send h v .wait))
    else some (s.setTask i (.send h v .exit))
  | .wait => some { s.setTask i (.send h v .parked) with locked := false }
  | .relock n =>
    if !s.locked then some { s.setTask i (.send h v (.cond n)) with locked := true }
    else none
  | .exit =>
    if s.disconnected then some { s.setTask i (.send h v (.done (.error v))) with locked := false }
    else some (s.setTask i (.send h v .push))
  | .push =>
    some { s.setTask i (.send h v .notifyRecv) with
      buffer := s.buffer ++ [v], pushed := s.pushed ++ [(i, v)], locked := false }
  | .notifyRecv => (s.setTask i (.send h v .notifySend)).notifyOne .receiver_wait j
  | .notifySend => (s.setTask i (.send h v (.done (.ok ())))).notifyOne .sender_wait j
  | .parked | .done _ | .cancelled => none

/-- Task `i`, a `recv` through handle `h`, runs one statement of
`Receiver::recv`. The `sender_wait.notify_one()` of L204 and the return that drops
the guard are one step. -/
def recvStep (s : State α) (i h j : Nat) : RecvPc α → Option (State α)
  | .lock =>
    if !s.locked then some { s.setTask i (.recv h (.pop false)) with locked := true }
    else none
  | .pop _ =>
    match s.buffer with
    | v :: rest =>
      some { s.setTask i (.recv h (.popped v)) with
        buffer := rest, popped := s.popped ++ [(i, v)] }
    | [] => some (s.setTask i (.recv h .disc))
  | .popped v => { s.setTask i (.recv h (.done (.ok v))) with locked := false }.notifyOne .sender_wait j
  | .disc =>
    if s.disconnected then some { s.setTask i (.recv h (.done (.error ()))) with locked := false }
    else some (s.setTask i (.recv h .wait))
  | .wait => some { s.setTask i (.recv h .parked) with locked := false }
  | .relock n =>
    if !s.locked then some { s.setTask i (.recv h (.pop n)) with locked := true }
    else none
  | .parked | .done _ | .cancelled => none

/-- Task `i` runs one statement of `Shared::disconnect`. -/
def disconnectStep (s : State α) (i : Nat) : DisconnectPc → Option (State α)
  | .store => some { s.setTask i (.disconnect .notifyAll) with disconnected := true }
  | .notifyAll => some ((s.setTask i (.disconnect .done)).notifyAll .sender_wait)
  | .done => none

/-- Task `i`, which is `t`, runs its next statement. -/
def taskStep (s : State α) (i j : Nat) : Task α → Option (State α)
  | .send h v pc => sendStep s i h v j pc
  | .recv h pc => recvStep s i h j pc
  | .disconnect pc => disconnectStep s i pc

/-! ## Handles -/

/-- `Sender::clone` or `Receiver::clone`: `fetch_add(1)` and a new live handle. -/
def State.cloneHandle (s : State α) (k : Side) : State α :=
  { s.setCnt k (s.cnt k + 1) with handles := s.handles ++ [⟨k, true⟩] }

/-- `Drop` of handle `h` on side `k`: `fetch_sub(1)`, and when that returned 1 the
same thread goes on to run `Shared::disconnect`. -/
def State.dropHandle (s : State α) (h : Nat) (k : Side) : State α :=
  let s' := { s.setCnt k (s.cnt k - 1) with handles := s.handles.set h ⟨k, false⟩ }
  if s.cnt k = 1 then { s' with tasks := s'.tasks ++ [.disconnect .store] } else s'

/-- `Clone for Sender`: `sender_cnt.fetch_add(1)`. -/
def Sender.clone (s : State α) : State α := s.cloneHandle .sender

/-- `Clone for Receiver`: `receiver_cnt.fetch_add(1)`. -/
def Receiver.clone (s : State α) : State α := s.cloneHandle .receiver

/-- `Drop for Sender` of handle `h`: `sender_cnt.fetch_sub(1)`, then `disconnect()`
if that returned 1. -/
def Sender.drop (s : State α) (h : Nat) : State α := s.dropHandle h .sender

/-- `Drop for Receiver` of handle `h`: `receiver_cnt.fetch_sub(1)`, then
`disconnect()` if that returned 1. -/
def Receiver.drop (s : State α) (h : Nat) : State α := s.dropHandle h .receiver

/-- The `Clone` of a handle on side `k`. -/
def Side.clone : Side → State α → State α
  | .sender => Sender.clone
  | .receiver => Receiver.clone

/-- The `Drop` of a handle on side `k`. -/
def Side.drop : Side → State α → Nat → State α
  | .sender => Sender.drop
  | .receiver => Receiver.drop

theorem Side.clone_eq (k : Side) (s : State α) : k.clone s = s.cloneHandle k := by
  cases k <;> rfl

theorem Side.drop_eq (k : Side) (s : State α) (h : Nat) : k.drop s h = s.dropHandle h k := by
  cases k <;> rfl

/-! ## Steps and runs -/

/-- What can happen next on the channel. -/
inductive Act (α : Type) where
  /-- A task calls `send(v)` on the `Sender` handle `h`. -/
  | send (h : Nat) (v : α)
  /-- A task calls `recv()` on the `Receiver` handle `h`. -/
  | recv (h : Nat)
  | clone (h : Nat)
  | drop (h : Nat)
  /-- Task `i` runs its next statement; a `notify_one` in it wakes waiter `j`. -/
  | run (i j : Nat)
  /-- A spurious wakeup of the parked task `i`. -/
  | spurious (i : Nat)
  /-- The future of task `i`, waiting for the mutex or parked, is dropped. -/
  | cancel (i : Nat)
  /-- The future of task `i` is dropped after a wakeup, before it re-took the mutex. -/
  | cancelWoken (i : Nat)
  deriving DecidableEq, Repr

/-- One step. A call borrows a live handle of its side, and a handle that a
pending call borrows cannot be dropped: Rust's borrow rules. -/
def step (s : State α) : Act α → Option (State α)
  | .send h v =>
    if s.live h .sender then some { s with tasks := s.tasks ++ [.send h v .lock] } else none
  | .recv h =>
    if s.live h .receiver then some { s with tasks := s.tasks ++ [.recv h .lock] } else none
  | .clone h =>
    match s.handles[h]? with
    | some ⟨k, true⟩ => some (k.clone s)
    | _ => none
  | .drop h =>
    match s.handles[h]? with
    | some ⟨k, true⟩ => if s.tasks.any (·.borrows h) then none else some (k.drop s h)
    | _ => none
  | .run i j =>
    match s.tasks[i]? with
    | some t => taskStep s i j t
    | none => none
  | .spurious i =>
    match s.tasks[i]? with
    | some t => if t.parkedOn .sender_wait || t.parkedOn .receiver_wait then
        some (s.setTask i (t.wake false)) else none
    | none => none
  | .cancel i =>
    match s.tasks[i]? with
    | some t => if t.suspended then some (s.setTask i t.cancel) else none
    | none => none
  | .cancelWoken i =>
    match s.tasks[i]? with
    | some t => if t.woken then some (s.setTask i t.cancel) else none
    | none => none

/-- The state after a list of steps, if each can be taken. -/
def run (s : State α) : List (Act α) → Option (State α) := runSteps step s

theorem run_cons (s : State α) (a : Act α) (as : List (Act α)) :
    run s (a :: as) = (step s a).bind fun s' => run s' as := rfl

theorem run_invariant_of {I : State α → Prop} {P : Act α → Prop}
    (hstep : ∀ s a s', I s → P a → step s a = some s' → I s') {s s' : State α}
    (as : List (Act α)) (hs : I s) (hp : ∀ a ∈ as, P a) (h : run s as = some s') : I s' :=
  runSteps_invariant_of hstep as hs hp h

/-- A predicate that every step keeps holds after every run. -/
theorem run_invariant {I : State α → Prop}
    (hstep : ∀ s a s', I s → step s a = some s' → I s') {s s' : State α} (as : List (Act α))
    (hs : I s) (h : run s as = some s') : I s' :=
  run_invariant_of (P := fun _ => True) (fun s a s' hs _ => hstep s a s' hs) as hs
    (fun _ _ => trivial) h

end mea.channel
