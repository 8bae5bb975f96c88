-- The state of one channel of `mea::channel`: the `Shared<T>` record with the
-- buffer of its `Channel<T>`, the tasks that run `send`, `recv` and
-- `Shared::disconnect` on it, the endpoint handles, and logs of every push and pop.
import Mathlib.Data.List.Basic

namespace mea.channel

instance instDecidableEqExcept {ε β : Type} [DecidableEq ε] [DecidableEq β] :
    DecidableEq (Except ε β)
  | .error x, .error y => decidable_of_iff (x = y) (by simp)
  | .ok x, .ok y => decidable_of_iff (x = y) (by simp)
  | .error _, .ok _ => isFalse (by simp)
  | .ok _, .error _ => isFalse (by simp)

/-! ## Tasks -/

/-- The side of an endpoint handle. -/
inductive Side where
  | sender
  | receiver
  deriving DecidableEq, Repr

/-- The two condition variables of `Shared`. -/
inductive Cv where
  | sender_wait
  | receiver_wait
  deriving DecidableEq, Repr

/-- Where a call of `Sender::send` stands, one constructor for each statement of
`send` that touches shared state: `lock` (L145, the mutex not yet held), `entry`
(L146), `cond` (the loop test of L150), `wait` (L151, before the call registers on
the condvar), `parked` and `relock` (inside `Condvar::wait`: registered, then woken
and re-taking the mutex), `exit` (L154), `push` (L158), `notifyRecv` (L161),
`notifySend` (L162), then the result. The ghost flag `notified` records a wakeup by
a notification on `sender_wait` rather than a spurious one, until the loop test is
read again. -/
inductive SendPc (α : Type) where
  | lock
  | entry
  | cond (notified : Bool)
  | wait
  | parked
  | relock (notified : Bool)
  | exit
  | push
  | notifyRecv
  | notifySend
  | done (r : Except α Unit)
  | cancelled
  deriving DecidableEq, Repr

/-- Where a call of `Receiver::recv` stands: `lock` (L201), `pop` (L203), `popped v`
(L204, the mutex still held), `disc` (L208), `wait` (L212), `parked`, `relock`,
then the result: `.ok v` for `Ok(v)` and `.error ()` for `Err(RecvError(()))`.
`notified` marks a wakeup by a notification on `receiver_wait` until the buffer is
read again. -/
inductive RecvPc (α : Type) where
  | lock
  | pop (notified : Bool)
  | popped (v : α)
  | disc
  | wait
  | parked
  | relock (notified : Bool)
  | done (r : Except Unit α)
  | cancelled
  deriving DecidableEq, Repr

/-- `Shared::disconnect`, run by the drop that took a count to zero: the store of
`disconnected` (L73), then `sender_wait.notify_all()` (L74). -/
inductive DisconnectPc where
  | store
  | notifyAll
  | done
  deriving DecidableEq, Repr

/-- A task working on the channel: a `send` of `v` or a `recv` borrowing handle
`h`, or a running `Shared::disconnect`. -/
inductive Task (α : Type) where
  | send (h : Nat) (v : α) (pc : SendPc α)
  | recv (h : Nat) (pc : RecvPc α)
  | disconnect (pc : DisconnectPc)
  deriving DecidableEq, Repr

namespace Task

variable {α : Type}

/-- The task holds the channel mutex. -/
def holdsLock : Task α → Bool
  | send _ _ .entry | send _ _ (.cond _) | send _ _ .wait | send _ _ .exit
  | send _ _ .push => true
  | recv _ (.pop _) | recv _ (.popped _) | recv _ .disc | recv _ .wait => true
  | _ => false

/-- The task is registered on the condition variable `cv`. -/
def parkedOn : Task α → Cv → Bool
  | send _ _ .parked, .sender_wait => true
  | recv _ .parked, .receiver_wait => true
  | _, _ => false

/-- Modelled from the spec: a wakeup on its condvar, by a notification or spurious;
the waiter goes on to re-take the mutex inside `Condvar::wait`. -/
def wake (notified : Bool) : Task α → Task α
  | send h v .parked => send h v (.relock notified)
  | recv h .parked => recv h (.relock notified)
  | t => t

/-- The future waits at an `.await` with no wakeup pending: for the mutex, or
on a condvar. Dropping it there is a cancellation. -/
def suspended : Task α → Bool
  | send _ _ .lock | send _ _ .parked | recv _ .lock | recv _ .parked => true
  | _ => false

/-- The future was woken on its condvar and waits to re-take the mutex. -/
def woken : Task α → Bool
  | send _ _ (.relock _) | recv _ (.relock _) => true
  | _ => false

/-- The future is dropped. -/
def cancel : Task α → Task α
  | send h v _ => send h v .cancelled
  | recv h _ => recv h .cancelled
  | t => t

/-- The `send` or `recv` future still exists and so borrows its handle `h`. -/
def borrows (h : Nat) : Task α → Bool
  | send k _ pc => k == h && !(pc matches .done _ | .cancelled)
  | recv k pc => k == h && !(pc matches .done _ | .cancelled)
  | disconnect _ => false

end Task

/-! ## The shared state -/

/-- An endpoint handle: a `Sender` or a `Receiver`, and whether it is live. -/
structure Handle where
  side : Side
  live : Bool
  deriving DecidableEq, Repr

/-- One channel: the fields of `Shared<T>` and of its `Channel<T>` (the mutex as
whether it is held; the condvars as the tasks parked on them), the tasks, the
handles ever made, and the ghost logs `pushed` and `popped` of (task, value). -/
structure State (α : Type) where
  buffer : List α
  capacity : Option Nat
  disconnected : Bool
  sender_cnt : Nat
  receiver_cnt : Nat
  /-- Modelled from the spec: the async `primitives::mutex::Mutex` around `Channel<T>`,
  which is not in src/, as whether it is held. -/
  locked : Bool
  tasks : List (Task α)
  handles : List Handle
  pushed : List (Nat × α)
  popped : List (Nat × α)
  deriving DecidableEq, Repr

namespace State

variable {α : Type} (s : State α)

/-- `Shared::new(capacity)` with the one `Sender` and one `Receiver` that
`bounded` and `unbounded` hand out. The counts start at 1, as in the source. -/
def new (capacity : Option Nat) : State α where
  buffer := []
  capacity := capacity
  disconnected := false
  sender_cnt := 1
  receiver_cnt := 1
  locked := false
  tasks := []
  handles := [⟨.sender, true⟩, ⟨.receiver, true⟩]
  pushed := []
  popped := []

/-- `Channel::is_full`: `capacity.map_or(false, |cap| buffer.len() >= cap)`. -/
def isFull : Bool :=
  match s.capacity with
  | none => false
  | some cap => decide (cap ≤ s.buffer.length)

/-- The count of live handles of one side, `sender_cnt` or `receiver_cnt`. -/
def cnt : Side → Nat
  | .sender => s.sender_cnt
  | .receiver => s.receiver_cnt

def setCnt : Side → Nat → State α
  | .sender, n => { s with sender_cnt := n }
  | .receiver, n => { s with receiver_cnt := n }

def setTask (i : Nat) (t : Task α) : State α := { s with tasks := s.tasks.set i t }

/-- Handle `h` is live and on side `k`. -/
def live (h : Nat) (k : Side) : Bool := s.handles[h]? == some ⟨k, true⟩

/-- Modelled from the spec: `primitives::condvar::Condvar::notify_one` on `cv`, which
is not in src/: wake waiter `j`, any of those parked there; with nobody parked the
notification is lost. -/
def notifyOne (cv : Cv) (j : Nat) : Option (State α) :=
  if s.tasks.any (·.parkedOn cv) then
    match s.tasks[j]? with
    | some t => if t.parkedOn cv then some (s.setTask j (t.wake true)) else none
    | none => none
  else some s

/-- Modelled from the spec: `Condvar::notify_all` on `cv`, which is not in src/:
every task parked there wakes. -/
def notifyAll (cv : Cv) : State α :=
  { s with tasks := s.tasks.map fun t => if t.parkedOn cv then t.wake true else t }

end State

/-- `bounded(capacity)`. -/
def bounded {α : Type} (capacity : Nat) : State α := State.new (some capacity)

/-- `unbounded()`. -/
def unbounded {α : Type} : State α := State.new none

end mea.channel
