import Mathlib

/-!
# The channel with reservations

A producer of the channel reserves a slot, and commits a value through the reservation or drops it.
The slots in use are counted in two places, a counter of reservations and the length of the queue,
and the functions of the channel read them one after the other.  The module models each access to an
atomic and each operation of the queue as one step of the thread that makes it, and a run is any list
of such steps, so that a statement about runs is one about every interleaving.

Notifications are left out: they only say when a thread that waits looks again, and here it may do so
at any time.  A call that is cancelled is a thread that takes no further step.  The queue is another
crate's, and is taken at its word (`ArrayQueue`).

Both faults below are of one kind: a thread reads two of the three shared variables and acts on the
first value after it has become untrue.

## Main results

* `reservation_guaranteed` — a reservation is a guarantee in every run in which no claim rests on a
  length of the queue that another thread has changed since.
* `recv_drained_iff` — `recv` reports a drained channel rightly exactly if as many values were taken
  out of the queue as were put in between its two looks.
-/

namespace FrankenTerm.Ports.TxChannel

open Finset

/-- `TxEnvelope`. -/
structure TxEnvelope (T : Type) where
  seq : Nat
  value : T
  deriving DecidableEq

/-- `crossbeam::queue::ArrayQueue`, by its values.  That the queue is bounded and first in, first out,
and that each of its operations is one step, is assumed of that crate. -/
abbrev ArrayQueue (α : Type) := List α

namespace ArrayQueue

variable {α : Type} (queue : ArrayQueue α)

/-- `push`; `none` is the refusal of a full queue. -/
def push (capacity : Nat) (value : α) : Option (ArrayQueue α) :=
  if queue.length < capacity then some (queue ++ [value]) else none

/-- `pop`. -/
def pop : Option (α × ArrayQueue α) :=
  match queue with
  | [] => none
  | value :: rest => some (value, rest)

variable {queue} {capacity : Nat} {value : α} {next : ArrayQueue α}

theorem push_eq_some : queue.push capacity value = some next ↔
    queue.length < capacity ∧ next = queue ++ [value] := by
  unfold push
  split <;> simp_all [eq_comm]

theorem push_eq_none : queue.push capacity value = none ↔ capacity ≤ queue.length := by
  unfold push
  split <;> simp_all

theorem pop_eq_some : queue.pop = some (value, next) ↔ queue = value :: next := by
  unfold pop
  split <;> simp_all

theorem pop_eq_none : queue.pop = none ↔ queue = [] := by
  unfold pop
  split <;> simp_all

end ArrayQueue

/-- `TxShared` with its `RollbackState`.  The last four fields are a record of what happened: the
reservations handed out whose flag `committed` is not set, what the queue took and gave, and the
values of the commits that failed. -/
structure TxShared (T : Type) where
  capacity : Nat
  queue : ArrayQueue (TxEnvelope T) := []
  closed : Bool := false
  nextSeq : Nat := 1
  activeReservations : Nat := 0
  reservations : List Nat := []
  pushed : List (TxEnvelope T) := []
  received : List (TxEnvelope T) := []
  refused : List (TxEnvelope T) := []

/-- What a producer thread does next, with what it has read. -/
inductive Producer (T : Type) where
  | idle
  /-- `try_reserve` loads `closed`, the counter and the length, and exchanges the counter. -/
  | opening
  | counting
  | measuring (active : Nat)
  /-- `pushes` is a record, too: how many values the queue had taken at the look at its length. -/
  | claiming (active pushes : Nat)
  /-- It loads `closed` again, and allocates the sequence number. -/
  | checking
  | numbering
  | issuing (seq : Nat)
  /-- It takes its claim back. -/
  | unclaiming
  /-- `commit` has set the flag and pushes the value. -/
  | placing (envelope : TxEnvelope T)
  /-- The push failed and the flag is reset. -/
  | reverting (seq : Nat)
  /-- The value is pushed and the counter is lowered. -/
  | settling

/-- Where a `recv` stands. -/
inductive Consumer where
  /-- Before its loop, or at its head again. -/
  | idle
  | sawClosed
  | sawEmpty
  | polling
  /-- It returned `Ok(None)`. -/
  | drained
  deriving DecidableEq

/-- A turn of a producer thread: a new call, or the next access of the call it is in. -/
inductive Turn (T : Type) where
  | tryReserve
  | commit (seq : Nat) (value : T)
  | access
  /-- `compare_exchange_weak` fails although the counter has the expected value. -/
  | spurious

namespace TxShared

variable {T : Type} (s : TxShared T)

/-- `allocate_monotonic_nonzero` after it read `next_seq`. -/
def allocate : Producer T := if s.nextSeq = 0 then .unclaiming else .issuing s.nextSeq

/-- The next access of `try_reserve` or `commit`.  The counter stays below the capacity, so that
`checked_add` does not fail. -/
def access : Producer T → TxShared T × Producer T
  | .idle => (s, .idle)
  | .opening => (s, if s.closed then .idle else .counting)
  | .counting => (s, .measuring s.activeReservations)
  | .measuring active =>
    (s, if s.queue.length + active ≥ s.capacity then .idle else .claiming active s.pushed.length)
  | .claiming active _ =>
    if s.activeReservations = active then ({ s with activeReservations := active + 1 }, .checking)
    else (s, .opening)
  | .checking => (s, if s.closed then .unclaiming else .numbering)
  | .numbering => (s, s.allocate)
  | .issuing seq =>
    if s.nextSeq = seq then
      ({ s with nextSeq := (seq + 1) % 2 ^ 64, reservations := seq :: s.reservations }, .idle)
    else (s, s.allocate)
  | .placing envelope =>
    match s.queue.push s.capacity envelope with
    | some queue => ({ s with queue, pushed := s.pushed ++ [envelope] }, .settling)
    | none => ({ s with refused := s.refused ++ [envelope] }, .reverting envelope.seq)
  | .reverting seq => ({ s with reservations := seq :: s.reservations }, .idle)
  | .unclaiming | .settling => ({ s with activeReservations := s.activeReservations - 1 }, .idle)

/-- One turn.  A commit through a reservation whose flag is set fails with `AlreadyCommitted`. -/
def turn : Turn T → Producer T → TxShared T × Producer T
  | .tryReserve, .idle => (s, .opening)
  | .commit seq value, .idle =>
    if seq ∈ s.reservations then
      ({ s with reservations := s.reservations.erase seq }, .placing ⟨seq, value⟩)
    else (s, .idle)
  | .access, producer => s.access producer
  | .spurious, .claiming _ _ => (s, .opening)
  | _, producer => (s, producer)

/-- `Reservation::drop`.  Nobody else can see the flag any more, so that its load is no step. -/
def drop (seq : Nat) : TxShared T :=
  if seq ∈ s.reservations then
    { s with
      reservations := s.reservations.erase seq
      activeReservations := s.activeReservations - 1 }
  else s

/-- `TxProducer::close`. -/
def close : TxShared T := { s with closed := true }

/-- `TxConsumer::try_recv`. -/
def tryRecv : TxShared T :=
  match s.queue.pop with
  | none => s
  | some (envelope, rest) => { s with queue := rest, received := s.received ++ [envelope] }

/-- The next access of `recv_with_cx`. -/
def recv : Consumer → TxShared T × Consumer
  | .idle | .drained => (s, if s.closed then .sawClosed else .polling)
  | .sawClosed => (s, if s.queue.isEmpty then .sawEmpty else .polling)
  | .sawEmpty => (s, if s.activeReservations = 0 then .drained else .polling)
  | .polling => (s.tryRecv, .idle)

end TxShared

/-- A channel and the threads at work on it. -/
structure Channel (T : Type) (n : Nat) where
  shared : TxShared T
  producers : Fin n → Producer T := fun _ => .idle
  consumers : Nat → Consumer := fun _ => .idle

inductive Event (T : Type) (n : Nat) where
  | produce (p : Fin n) (turn : Turn T)
  | drop (seq : Nat)
  | close
  | tryRecv
  | recv (k : Nat)

/-- `tx_channel`. -/
def txChannel (T : Type) (capacity n : Nat) : Channel T n := { shared := { capacity } }

namespace Channel

variable {T : Type} {n : Nat} (ch : Channel T n)

def step : Event T n → Channel T n
  | .produce p turn =>
    { ch with
      shared := (ch.shared.turn turn (ch.producers p)).1
      producers := Function.update ch.producers p (ch.shared.turn turn (ch.producers p)).2 }
  | .drop seq => { ch with shared := ch.shared.drop seq }
  | .close => { ch with shared := ch.shared.close }
  | .tryRecv => { ch with shared := ch.shared.tryRecv }
  | .recv k =>
    { ch with
      shared := (ch.shared.recv (ch.consumers k)).1
      consumers := Function.update ch.consumers k (ch.shared.recv (ch.consumers k)).2 }

def run (events : List (Event T n)) : Channel T n := events.foldl step ch

end Channel

open TxShared Channel

variable {T : Type} {n : Nat}

/-- The accesses of a reservation that meets no other thread. -/
def reserves (p : Fin n) : List (Event T n) :=
  .produce p .tryReserve :: List.replicate 7 (.produce p .access)

/-- A commit that meets no other thread. -/
def commits (p : Fin n) (seq : Nat) (value : T) : List (Event T n) :=
  [.produce p (.commit seq value), .produce p .access, .produce p .access]

/-! ## What the steps can do -/

/-- The claims of a thread that the counter holds and that no reservation stands for. -/
def Producer.claims : Producer T → Nat
  | .idle | .opening | .counting | .measuring _ | .claiming _ _ => 0
  | .checking | .numbering | .issuing _ | .unclaiming | .placing _ | .reverting _ | .settling => 1

/-- The counter and the record of the queue agree before and after. -/
structure Balanced (s s' : TxShared T) (before after : Nat) : Prop where
  counted : before + s.reservations.length ≤ s.activeReservations →
    s'.activeReservations + before + s.reservations.length =
      s.activeReservations + after + s'.reservations.length
  fifo : s.pushed = s.received ++ s.queue → s'.pushed = s'.received ++ s'.queue
  closed : s.closed → s'.closed

theorem TxShared.turn_balanced (s : TxShared T) (turn : Turn T) (producer : Producer T) :
    Balanced s (s.turn turn producer).1 producer.claims (s.turn turn producer).2.claims := by
  fun_cases TxShared.turn s turn producer
  case case2 seq value hMem =>
    have hErase := List.length_erase_of_mem hMem
    have hPos := List.length_pos_of_mem hMem
    exact ⟨by simp only [Producer.claims]; omega, id, id⟩
  case case4 =>
    fun_cases TxShared.access s producer <;> (try unfold allocate) <;> (try split)
    all_goals
      refine ⟨?_, ?_, id⟩
      · intro h
        simp only [Producer.claims, List.length_cons] at h ⊢ <;> omega
      · simp_all [ArrayQueue.push_eq_some]
  all_goals exact ⟨by simp [Producer.claims], id, id⟩

/-- What a drop, a close and the steps of the consumers leave to the producers. -/
structure Eases (s s' : TxShared T) : Prop extends Balanced s s' 0 0 where
  capacity : s'.capacity = s.capacity
  queue : s'.queue.length ≤ s.queue.length
  reservations : s'.reservations.length ≤ s.reservations.length
  pushed : s'.pushed = s.pushed
  refused : s'.refused = s.refused

theorem TxShared.tryRecv_eases (s : TxShared T) : Eases s s.tryRecv := by
  fun_cases TxShared.tryRecv s with
  | case1 => exact ⟨⟨fun _ => rfl, id, id⟩, rfl, le_rfl, le_rfl, rfl, rfl⟩
  | case2 envelope rest hPop =>
    have hQueue := ArrayQueue.pop_eq_some.mp hPop
    refine ⟨⟨fun _ => rfl, fun h => ?_, id⟩, rfl, by simp [hQueue], le_rfl, rfl, rfl⟩
    simpa [hQueue] using h

theorem Channel.step_eases (ch : Channel T n) (event : Event T n) :
    (∃ p turn, event = .produce p turn) ∨
      Eases ch.shared (ch.step event).shared ∧ (ch.step event).producers = ch.producers := by
  have hSame : Eases ch.shared ch.shared := ⟨⟨fun _ => rfl, id, id⟩, rfl, le_rfl, le_rfl, rfl, rfl⟩
  cases event with
  | produce p turn => exact .inl ⟨p, turn, rfl⟩
  | drop seq =>
    refine .inr ⟨?_, rfl⟩
    simp only [Channel.step, TxShared.drop]
    split
    next hMem =>
      have hErase := List.length_erase_of_mem hMem
      have hPos := List.length_pos_of_mem hMem
      exact ⟨⟨by dsimp only; omega, id, id⟩, rfl, le_rfl, List.length_erase_le, rfl, rfl⟩
    next => exact hSame
  | close => exact .inr ⟨⟨⟨fun _ => rfl, id, fun _ => rfl⟩, rfl, le_rfl, le_rfl, rfl, rfl⟩, rfl⟩
  | tryRecv => exact .inr ⟨ch.shared.tryRecv_eases, rfl⟩
  | recv k =>
    refine .inr ⟨?_, rfl⟩
    simp only [Channel.step]
    fun_cases TxShared.recv ch.shared (ch.consumers k)
    case case5 => exact ch.shared.tryRecv_eases
    all_goals exact hSame

theorem sum_update {ι α : Type*} [Fintype ι] [DecidableEq ι] (f : ι → α) (i : ι) (a : α)
    (w : α → Nat) : ∑ j, w (Function.update f i a j) + w (f i) = ∑ j, w (f j) + w a := by
  have hUpdate : ∀ j, w (Function.update f i a j) = Function.update (fun j => w (f j)) i (w a) j :=
    fun j => Function.apply_update (fun _ => w) f i a j
  rw [sum_congr rfl fun j _ => hUpdate j, sum_update_of_mem (mem_univ i), add_comm (w a),
    ← sum_sdiff (subset_univ {i}), sum_singleton]
  omega

/-- The counter holds the claims and the reservations, and a `recv` that is behind its first look has
seen the channel closed. -/
structure Accounted (ch : Channel T n) : Prop where
  counted : ch.shared.activeReservations =
    ∑ p, (ch.producers p).claims + ch.shared.reservations.length
  fifo : ch.shared.pushed = ch.shared.received ++ ch.shared.queue
  closed : ∀ k, ch.consumers k = .sawClosed ∨ ch.consumers k = .sawEmpty → ch.shared.closed

theorem Accounted.step {ch : Channel T n} (h : Accounted ch) (event : Event T n) :
    Accounted (ch.step event) := by
  have hCounted := h.counted
  rcases ch.step_eases event with ⟨p, turn, rfl⟩ | ⟨hEases, hProducers⟩
  · have hTurn := turn_balanced ch.shared turn (ch.producers p)
    have hSum := sum_update ch.producers p (ch.shared.turn turn (ch.producers p)).2 Producer.claims
    have hClaims := single_le_sum (fun q _ => Nat.zero_le (ch.producers q).claims) (mem_univ p)
    have hBalance := hTurn.counted (by omega)
    refine ⟨?_, hTurn.fifo h.fifo, fun k hk => hTurn.closed (h.closed k hk)⟩
    simp only [Channel.step]
    omega
  · have hBalance := hEases.counted (by omega)
    refine ⟨?_, hEases.fifo h.fifo, fun k hk => ?_⟩
    · rw [hProducers]
      omega
    · cases event with
      | recv j =>
        rcases eq_or_ne k j with rfl | hNe
        · have hSeen := h.closed k
          simp only [Channel.step, Function.update_self] at hk ⊢
          by_contra hOpen
          cases hAt : ch.consumers k <;> simp_all [TxShared.recv]
        · exact hEases.closed (h.closed k (by simpa [Channel.step, hNe] using hk))
      | _ => exact hEases.closed (h.closed k hk)

theorem accounted_run (capacity : Nat) (events : List (Event T n)) :
    Accounted ((txChannel T capacity n).run events) := by
  refine List.foldlRecOn events Channel.step ?_ fun _ h event _ => h.step event
  exact ⟨by simp [txChannel, Producer.claims], rfl, fun _ h => by simp [txChannel] at h⟩

/-! ## The drained channel -/

/-- The thread looks at `closed` before it pushes a value or hands out a reservation. -/
def Producer.barred : Producer T → Bool
  | .numbering | .issuing _ | .placing _ | .reverting _ => false
  | _ => true

structure Sealed (ch : Channel T n) : Prop where
  closed : ch.shared.closed
  reservations : ch.shared.reservations = []
  barred : ∀ p, (ch.producers p).barred

theorem TxShared.turn_barred {s : TxShared T} {producer : Producer T} (turn : Turn T)
    (hClosed : s.closed) (hNone : s.reservations = []) (h : producer.barred) :
    (s.turn turn producer).2.barred ∧ (s.turn turn producer).1.reservations = [] ∧
      (s.turn turn producer).1.pushed = s.pushed := by
  fun_cases TxShared.turn s turn producer
  case case2 hMem =>
    rw [hNone] at hMem
    cases hMem
  case case4 =>
    fun_cases TxShared.access s producer <;> try split
    all_goals simp_all [Producer.barred]
  all_goals exact ⟨h, hNone, rfl⟩

theorem Sealed.step {ch : Channel T n} (h : Sealed ch) (event : Event T n) :
    Sealed (ch.step event) ∧ (ch.step event).shared.pushed = ch.shared.pushed := by
  rcases ch.step_eases event with ⟨p, turn, rfl⟩ | ⟨hEases, hProducers⟩
  · rcases turn_barred turn h.closed h.reservations (h.barred p) with ⟨hBarred, hNone, hPushed⟩
    refine ⟨⟨(turn_balanced _ _ _).closed h.closed, hNone, ?_⟩, hPushed⟩
    exact (Function.forall_update_iff _ fun _ (producer : Producer T) => producer.barred).mpr
      ⟨hBarred, fun q _ => h.barred q⟩
  · have hNone := hEases.reservations
    rw [h.reservations, List.length_nil, Nat.le_zero, List.length_eq_zero_iff] at hNone
    exact ⟨⟨hEases.closed h.closed, hNone, hProducers ▸ h.barred⟩, hEases.pushed⟩

/-- What `Ok(None)` says: the channel is closed, what was committed has been received in its order,
no reservation is left and no commit will ever succeed. -/
structure Drained (ch : Channel T n) : Prop where
  closed : ch.shared.closed
  received : ch.shared.received = ch.shared.pushed
  reservations : ch.shared.reservations = []
  claims : ∀ p, (ch.producers p).claims = 0
  final : ∀ events, (ch.run events).shared.pushed = ch.shared.pushed

/-- A `recv` that reports the end of the channel is right if the queue is still empty. -/
theorem drained_iff_queue (capacity : Nat) (events : List (Event T n)) (k : Nat)
    (h : (((txChannel T capacity n).run events).step (.recv k)).consumers k = .drained) :
    Drained (((txChannel T capacity n).run events).step (.recv k)) ↔
      ((txChannel T capacity n).run events).shared.queue = [] := by
  have hAccounted := accounted_run (T := T) (n := n) capacity events
  generalize (txChannel T capacity n).run events = ch at h hAccounted ⊢
  simp only [Channel.step, Function.update_self] at h
  obtain ⟨hAt, hZero, hShared⟩ : ch.consumers k = .sawEmpty ∧ ch.shared.activeReservations = 0 ∧
      (ch.shared.recv (ch.consumers k)).1 = ch.shared := by
    revert h
    fun_cases TxShared.recv ch.shared (ch.consumers k) <;> (try split) <;> simp_all
  have hClosed : ch.shared.closed := hAccounted.closed k (.inr hAt)
  have hCounted := hAccounted.counted
  rw [hZero, eq_comm, Nat.add_eq_zero_iff, sum_eq_zero_iff, List.length_eq_zero_iff] at hCounted
  rcases hCounted with ⟨hClaims, hNone⟩
  have hBarred : ∀ p, (ch.producers p).barred := by
    intro p
    have hFree := hClaims p (mem_univ p)
    cases hAt : ch.producers p <;> rw [hAt] at hFree <;> first | rfl | cases hFree
  simp only [Channel.step, hShared]
  constructor
  · intro hDrained
    have hReceived : ch.shared.received = ch.shared.pushed := hDrained.received
    simpa [hReceived] using hAccounted.fifo
  · intro hQueue
    refine ⟨hClosed, by simp [hAccounted.fifo, hQueue], hNone, fun p => hClaims p (mem_univ p),
      fun later => ?_⟩
    refine And.right (List.foldlRecOn later Channel.step
      (motive := fun after => Sealed after ∧ after.shared.pushed = ch.shared.pushed)
      ⟨⟨hClosed, hNone, hBarred⟩, rfl⟩ fun _ h event _ => ?_)
    exact (h.1.step event).imp_right (·.trans h.2)

/-- The turn puts a value into the queue. -/
def TxShared.pushes (s : TxShared T) : Turn T → Producer T → Bool
  | .access, .placing _ => s.queue.length < s.capacity
  | _, _ => false

/-- The event puts a value into the queue. -/
def pushes (ch : Channel T n) : Event T n → Bool
  | .produce p turn => ch.shared.pushes turn (ch.producers p)
  | _ => false

/-- The event takes a value out of the queue. -/
def pops (ch : Channel T n) : Event T n → Bool
  | .tryRecv => !ch.shared.queue.isEmpty
  | .recv k => ch.consumers k = .polling && !ch.shared.queue.isEmpty
  | _ => false

/-- How many of the events are such accesses, each judged in the state before it. -/
def accesses (isOne : Channel T n → Event T n → Bool) : Channel T n → List (Event T n) → Nat
  | _, [] => 0
  | ch, event :: rest => (isOne ch event).toNat + accesses isOne (ch.step event) rest

theorem TxShared.length_tryRecv (s : TxShared T) :
    s.tryRecv.queue.length + (!s.queue.isEmpty).toNat = s.queue.length := by
  fun_cases TxShared.tryRecv s with
  | case1 hPop => simp [ArrayQueue.pop_eq_none.mp hPop]
  | case2 envelope rest hPop => simp [ArrayQueue.pop_eq_some.mp hPop]

theorem TxShared.length_turn (s : TxShared T) (turn : Turn T) (producer : Producer T) :
    (s.turn turn producer).1.queue.length = s.queue.length + (s.pushes turn producer).toNat := by
  fun_cases TxShared.turn s turn producer
  case case4 =>
    fun_cases TxShared.access s producer
    case case11 hPush =>
      obtain ⟨hRoom, rfl⟩ := ArrayQueue.push_eq_some.mp hPush
      simp [TxShared.pushes, hRoom]
    case case12 hPush => simp [TxShared.pushes, ArrayQueue.push_eq_none.mp hPush]
    all_goals rfl
  case case6 hAccess _ _ _ =>
    have hNone : s.pushes turn producer = false := by
      cases turn <;> first | rfl | exact absurd rfl hAccess
    rw [hNone]
    rfl
  all_goals rfl

theorem length_queue_step (ch : Channel T n) (event : Event T n) :
    (ch.step event).shared.queue.length + (pops ch event).toNat =
      ch.shared.queue.length + (pushes ch event).toNat := by
  cases event with
  | produce p turn => exact ch.shared.length_turn turn (ch.producers p)
  | drop seq =>
    simp only [Channel.step, TxShared.drop]
    split <;> simp [pops, pushes]
  | close => simp [Channel.step, TxShared.close, pops, pushes]
  | tryRecv => simpa [Channel.step, pops, pushes] using ch.shared.length_tryRecv
  | recv k =>
    simp only [Channel.step, pops, pushes]
    fun_cases TxShared.recv ch.shared (ch.consumers k)
    case case5 => simpa using ch.shared.length_tryRecv
    all_goals simp

theorem length_queue_run (ch : Channel T n) (events : List (Event T n)) :
    (ch.run events).shared.queue.length + accesses pops ch events =
      ch.shared.queue.length + accesses pushes ch events := by
  induction events generalizing ch with
  | nil => rfl
  | cons event rest ih =>
    have hStep := length_queue_step ch event
    have hRest := ih (ch.step event)
    simp only [Channel.run, List.foldl_cons, accesses] at hRest ⊢
    omega

/-- **`recv` reports the end of the channel** rightly exactly if between its look at the queue and its
look at the counter as many values were taken out of the queue as were put into it. -/
theorem recv_drained_iff (capacity : Nat) (before between : List (Event T n)) (k : Nat)
    (hLook : (((txChannel T capacity n).run before).step (.recv k)).consumers k = .sawEmpty)
    (hDrained : (((((txChannel T capacity n).run before).step (.recv k)).run between).step
      (.recv k)).consumers k = .drained) :
    let look := ((txChannel T capacity n).run before).step (.recv k)
    Drained ((look.run between).step (.recv k)) ↔
      accesses pushes look between = accesses pops look between := by
  intro look
  have hEmpty : look.shared.queue = [] := by
    simp only [look, Channel.step, Function.update_self] at hLook ⊢
    revert hLook
    fun_cases TxShared.recv _ (((txChannel T capacity n).run before).consumers k) <;>
      (try split) <;> simp_all
  have hLength := length_queue_run look between
  have hRun : look.run between = (txChannel T capacity n).run (before ++ .recv k :: between) := by
    simp [look, Channel.run, List.foldl_append]
  rw [hRun] at hLength hDrained ⊢
  rw [drained_iff_queue capacity _ k hDrained, ← List.length_eq_zero_iff]
  rw [hEmpty] at hLength
  simp only [List.length_nil] at hLength
  omega

theorem recv_drained_of_close :
    let look := ((txChannel Nat 1 1).run (reserves 0 ++ [.close, .recv 0])).step (.recv 0)
    Drained ((look.run (commits 0 1 7 ++ [.tryRecv])).step (.recv 0)) := by
  have hLook : (((txChannel Nat 1 1).run (reserves 0 ++ [.close, .recv 0])).step (.recv 0)).consumers
      0 = .sawEmpty := by decide
  have hDrained : (((((txChannel Nat 1 1).run (reserves 0 ++ [.close, .recv 0])).step
      (.recv 0)).run (commits 0 1 7 ++ [.tryRecv])).step (.recv 0)).consumers 0 = .drained := by
    decide
  exact (recv_drained_iff 1 _ _ 0 hLook hDrained).mpr (by decide)

/-- A commit between the two looks of a `recv` is missed. -/
theorem recv_misses_commit :
    let ch := (txChannel Nat 1 1).run (reserves 0 ++ [.close, .recv 0, .recv 0] ++ commits 0 1 7)
    (ch.step (.recv 0)).consumers 0 = .drained ∧ ¬Drained (ch.step (.recv 0)) :=
  ⟨by decide, fun h => absurd h.received (by decide)⟩

/-! ## Reservations and room -/

/-- The claims of a thread that take room outside the queue. -/
def Producer.pending : Producer T → Nat
  | .settling => 0
  | producer => producer.claims

/-- Values, reservations and the claims in between fit, and no commit failed for want of room. -/
def Guaranteed (ch : Channel T n) : Prop :=
  ch.shared.queue.length + ch.shared.reservations.length +
    ∑ p, (ch.producers p).pending ≤ ch.shared.capacity ∧ ch.shared.refused = []

/-- The exchange succeeds although a value was put into the queue since the look at its length.  A
thread that is about to claim puts none in, so it was another one. -/
def TxShared.outdated (s : TxShared T) : Turn T → Producer T → Bool
  | .access, .claiming active pushes => s.activeReservations = active && s.pushed.length ≠ pushes
  | _, _ => false

/-- **The event is a claim that rests on the past.** -/
def outdated (ch : Channel T n) : Event T n → Bool
  | .produce p turn => ch.shared.outdated turn (ch.producers p)
  | _ => false

/-- What a thread that is about to claim has seen: unless a value was pushed since, there is room. -/
structure Seen (s : TxShared T) (producer : Producer T) : Prop where
  past : ∀ active pushes, producer = .claiming active pushes → pushes ≤ s.pushed.length
  room : ∀ active, producer = .claiming active s.pushed.length →
    s.queue.length + active < s.capacity

/-- What another thread has seen is still true after an access. -/
structure Spares (s s' : TxShared T) : Prop where
  capacity : s'.capacity = s.capacity
  pushed : s.pushed.length ≤ s'.pushed.length
  queue : s'.pushed.length = s.pushed.length → s'.queue.length ≤ s.queue.length

theorem Seen.spares {s s' : TxShared T} {producer : Producer T} (h : Seen s producer)
    (hSpares : Spares s s') : Seen s' producer := by
  have hPushed := hSpares.pushed
  refine ⟨fun active pushes hClaim => (h.past active pushes hClaim).trans hPushed, ?_⟩
  intro active hClaim
  have hSame := le_antisymm (h.past active _ hClaim) hPushed
  have hRoom := h.room active (hSame ▸ hClaim)
  have hQueue := hSpares.queue hSame
  have hCapacity := hSpares.capacity
  omega

theorem TxShared.turn_spares (s : TxShared T) (turn : Turn T) (producer : Producer T) :
    Spares s (s.turn turn producer).1 := by
  fun_cases TxShared.turn s turn producer
  case case4 =>
    fun_cases TxShared.access s producer
    all_goals constructor
    all_goals simp
  all_goals exact ⟨rfl, le_rfl, fun _ => le_rfl⟩

/-- The room that a thread can rely on when the others take up `rest`. -/
structure Roomy (rest : Nat) (s : TxShared T) (producer : Producer T) : Prop where
  room : s.queue.length + s.reservations.length + producer.pending + rest ≤ s.capacity
  refused : s.refused = []

theorem Roomy.turn {rest : Nat} {s : TxShared T} {producer : Producer T}
    (h : Roomy rest s producer) (hSeen : Seen s producer) (turn : Turn T)
    (hCounted : producer.claims + s.reservations.length + rest ≤ s.activeReservations)
    (hUpToDate : s.outdated turn producer = false) :
    Roomy rest (s.turn turn producer).1 (s.turn turn producer).2 ∧
      Seen (s.turn turn producer).1 (s.turn turn producer).2 := by
  have hRoom := h.room
  have hRefused := h.refused
  fun_cases TxShared.turn s turn producer
  case case2 seq value hMem =>
    have hErase := List.length_erase_of_mem hMem
    have hPos := List.length_pos_of_mem hMem
    refine ⟨⟨?_, hRefused⟩, by simp, by simp⟩
    simp only [Producer.pending, Producer.claims] at hRoom ⊢
    omega
  case case4 =>
    fun_cases TxShared.access s producer <;> (try unfold allocate) <;> (try split)
    case case4.isFalse active hRoomSeen =>
      refine ⟨⟨hRoom, hRefused⟩, ?_, ?_⟩
      · intro _ _ hClaim
        cases hClaim
        exact le_rfl
      · intro _ hClaim
        cases hClaim
        show s.queue.length + active < s.capacity
        omega
    case case5 pushes =>
      have hPushes : s.pushed.length = pushes := by
        simpa [TxShared.outdated] using hUpToDate
      have hFree := hSeen.room s.activeReservations (by rw [hPushes])
      refine ⟨⟨?_, hRefused⟩, by simp, by simp⟩
      simp only [Producer.pending, Producer.claims] at hRoom hCounted ⊢
      omega
    case case11 hPush =>
      obtain ⟨_, rfl⟩ := ArrayQueue.push_eq_some.mp hPush
      refine ⟨⟨?_, hRefused⟩, by simp, by simp⟩
      simp only [Producer.pending, Producer.claims, List.length_append, List.length_singleton]
        at hRoom ⊢
      omega
    case case12 hPush =>
      have hFull := ArrayQueue.push_eq_none.mp hPush
      simp only [Producer.pending, Producer.claims] at hRoom
      omega
    all_goals
      refine ⟨⟨?_, hRefused⟩, by simp, by simp⟩
      simp only [Producer.pending, Producer.claims, List.length_cons] at hRoom ⊢
      omega
  case case6 => exact ⟨h, hSeen⟩
  all_goals exact ⟨⟨hRoom, hRefused⟩, by simp, by simp⟩

theorem Producer.pending_le_claims (producer : Producer T) : producer.pending ≤ producer.claims := by
  cases producer <;> simp [Producer.pending, Producer.claims]

/-- What holds in every state of a run whose claims are up to date. -/
structure Kept (ch : Channel T n) : Prop where
  guaranteed : Guaranteed ch
  seen : ∀ p, Seen ch.shared (ch.producers p)

theorem Kept.step {ch : Channel T n} (h : Kept ch) (hAccounted : Accounted ch) {event : Event T n}
    (hUpToDate : outdated ch event = false) : Kept (ch.step event) := by
  obtain ⟨⟨hRoom, hRefused⟩, hSeen⟩ := h
  rcases ch.step_eases event with ⟨p, turn, rfl⟩ | ⟨hEases, hProducers⟩
  · have hSum := sum_update ch.producers p (ch.shared.turn turn (ch.producers p)).2 Producer.pending
    have hPending := add_sum_erase univ (fun q => (ch.producers q).pending) (mem_univ p)
    have hClaims := add_sum_erase univ (fun q => (ch.producers q).claims) (mem_univ p)
    have hOthers : ∑ q ∈ univ.erase p, (ch.producers q).pending ≤
        ∑ q ∈ univ.erase p, (ch.producers q).claims :=
      sum_le_sum fun q _ => (ch.producers q).pending_le_claims
    have hCounted := hAccounted.counted
    have hRoomy : Roomy (∑ q ∈ univ.erase p, (ch.producers q).pending) ch.shared (ch.producers p) :=
      ⟨by omega, hRefused⟩
    obtain ⟨hAfter, hSeenAfter⟩ := hRoomy.turn (hSeen p) turn (by omega) hUpToDate
    have hRoomAfter := hAfter.room
    refine ⟨⟨?_, hAfter.refused⟩, ?_⟩
    · simp only [Channel.step]
      omega
    · exact (Function.forall_update_iff _ fun _ producer => Seen _ producer).mpr
        ⟨hSeenAfter, fun q _ => (hSeen q).spares (ch.shared.turn_spares turn (ch.producers p))⟩
  · have hQueue := hEases.queue
    have hReservations := hEases.reservations
    have hCapacity := hEases.capacity
    refine ⟨⟨?_, hEases.refused.trans hRefused⟩, fun p => ?_⟩
    · rw [hProducers]
      omega
    · rw [hProducers]
      exact (hSeen p).spares ⟨hCapacity, hEases.pushed ▸ le_rfl, fun _ => hQueue⟩

theorem Kept.run {ch : Channel T n} (h : Kept ch) (hAccounted : Accounted ch)
    {events : List (Event T n)} (hUpToDate : accesses outdated ch events = 0) :
    Kept (ch.run events) := by
  induction events generalizing ch with
  | nil => exact h
  | cons event rest ih =>
    simp only [accesses, Nat.add_eq_zero_iff, Bool.toNat_eq_zero] at hUpToDate
    exact ih (h.step hAccounted hUpToDate.1) (hAccounted.step event) hUpToDate.2

/-- **A reservation is a guarantee** in every run of any number of threads in which no claim rests on
the past. -/
theorem reservation_guaranteed (capacity : Nat) (events : List (Event T n))
    (h : accesses outdated (txChannel T capacity n) events = 0) :
    Guaranteed ((txChannel T capacity n).run events) := by
  have hStart : Kept (txChannel T capacity n) := by
    refine ⟨⟨?_, rfl⟩, fun _ => ⟨?_, ?_⟩⟩ <;> simp [txChannel, Producer.pending, Producer.claims]
  exact (hStart.run (accounted_run capacity []) h).guaranteed

/-- Two threads reserve, and then both commit. -/
theorem two_reservations_guaranteed : Guaranteed ((txChannel Nat 2 2).run
    (reserves 0 ++ reserves 1 ++ commits 0 1 7 ++ commits 1 2 8)) :=
  reservation_guaranteed 2 _ (by decide)

/-- Thread 0 reads the counter and the length; thread 1 reserves and commits, and leaves the counter
as it was; thread 0 claims the slot that is gone, and its commit fails. -/
def race : List (Event Nat 2) :=
  (reserves 0).take 4 ++ reserves 1 ++ commits 1 1 7 ++ (reserves 0).drop 4 ++ commits 0 2 7

theorem race_not_guaranteed : ¬Guaranteed ((txChannel Nat 1 2).run race) :=
  fun h => absurd h.2 (by decide)

end FrankenTerm.Ports.TxChannel
