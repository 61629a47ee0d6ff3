import Mathlib.Data.List.Basic

/-!
# Bounded channels

A channel with one receiver that holds a bounded number of values. The values that were received are
kept, so that everything that was ever sent is at hand: a channel passes on what was sent, in order,
and nothing else.
-/

namespace PlayitAgent

/-- What a log with one more entry has to show. -/
theorem filterMap_snoc {α β : Type} (f : α → Option β) (log : List α) (a : α) :
    (log ++ [a]).filterMap f = log.filterMap f ++ (f a).toList := by
  rw [List.filterMap_append, List.filterMap_cons]
  cases f a <;> rfl

/-- A channel. -/
structure Channel (α : Type) where
  /-- How many values can wait. -/
  capacity : ℕ
  /-- What was received, in order. -/
  received : List α
  /-- What waits to be received. -/
  queue : List α
  /-- No more values wait than there is room for. -/
  length_le : queue.length ≤ capacity

namespace Channel

variable {α : Type} {c c' : Channel α} {a : α}

/-- A channel that nothing was sent on. -/
def new (capacity : ℕ) : Channel α := ⟨capacity, [], [], Nat.zero_le _⟩

/-- What was sent, in order. -/
def sent (c : Channel α) : List α := c.received ++ c.queue

/-- A value is sent, when there is room for it. -/
def send (c : Channel α) (a : α) : Option (Channel α) :=
  if h : c.queue.length < c.capacity then
    some { c with
      queue := c.queue ++ [a]
      length_le := by
        rw [List.length_append, List.length_singleton]
        omega }
  else none

/-- The value that has waited longest is received. -/
def recv (c : Channel α) : Option (α × Channel α) :=
  c.queue.head?.map fun a => (a, { c with
    received := c.received ++ [a]
    queue := c.queue.tail
    length_le := by
      have h := c.length_le
      rw [List.length_tail]
      omega })

/-- What was received was sent before. -/
theorem received_prefix (c : Channel α) : c.received <+: c.sent := List.prefix_append _ _

/-- What sending does to a channel. -/
structure Sends (c c' : Channel α) (a : α) : Prop where
  sent_eq : c'.sent = c.sent ++ [a]
  received_eq : c'.received = c.received

/-- A value that is sent is the last one that was. -/
theorem sends_of_send (h : c.send a = some c') : Sends c c' a := by
  unfold send at h
  split at h
  · have heq := Option.some.inj h
    subst heq
    exact ⟨(List.append_assoc _ _ _).symm, rfl⟩
  · cases h

/-- What receiving does to a channel. -/
structure Receives (c c' : Channel α) (a : α) : Prop where
  sent_eq : c'.sent = c.sent
  received_eq : c'.received = c.received ++ [a]

/-- The value that is received is the first one that waits. -/
theorem receives_of_recv (h : c.recv = some (a, c')) : Receives c c' a := by
  unfold recv at h
  obtain ⟨b, hb, heq⟩ := Option.map_eq_some_iff.1 h
  cases heq
  have hqueue : c.queue = a :: c.queue.tail := (List.cons_head?_tail hb).symm
  refine ⟨?_, rfl⟩
  calc c.received ++ [a] ++ c.queue.tail = c.received ++ (a :: c.queue.tail) := by
        rw [List.append_assoc, List.singleton_append]
    _ = c.sent := by rw [← hqueue, sent]

end Channel

end PlayitAgent
