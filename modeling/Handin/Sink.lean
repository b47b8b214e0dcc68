import Handin.Fault
import Handin.Text.Utf8

/-! Where output goes: a writer that may take little at a time, be interrupted, fill up or fail. -/

namespace Handin

/-- What happens when a sink is full: a fault, or writes that take nothing. The fault is for good: a
write that was interrupted would be tried again, without an end. -/
inductive Sink.Full
  | fault (kind : Fault.Kind) (final : kind ≠ .interrupted)
  | zero
  deriving DecidableEq, Repr

structure Sink.Plan where
  maxWrite : Option Nat := none
  limit : Option Nat := none
  full : Sink.Full := .fault .brokenPipe (by decide)
  /-- The calls of `write`, counted from one, that are interrupted. -/
  interrupts : List Nat := []
  flushFault : Option (Nat × Fault.Kind) := none
  deriving Repr

structure Sink where
  plan : Sink.Plan := {}
  calls : Nat := 0
  flushes : Nat := 0
  pieces : List Bytes := []
  marks : List Nat := []
  deriving Repr

namespace Sink

def taken (s : Sink) : Bytes := s.pieces.reverse.flatten

def size (s : Sink) : Nat := s.pieces.foldr (fun b n => b.length + n) 0

inductive Step
  | interrupted
  | failed (kind : Fault.Kind)
  | took (n : Nat)

def step (s : Sink) (n : Nat) : Step :=
  if s.calls + 1 ∈ s.plan.interrupts then .interrupted
  else
    let n := match s.plan.maxWrite with
      | some most => min n most
      | none => n
    match s.plan.limit with
    | none => .took n
    | some limit =>
      match min n (limit - s.size), s.plan.full with
      | 0, .fault kind _ => .failed kind
      | n, _ => .took n

def push (s : Sink) (b : Bytes) : Sink :=
  { s with calls := s.calls + 1, pieces := b :: s.pieces }

def skip (s : Sink) : Sink := { s with calls := s.calls + 1 }

@[simp] theorem taken_push (s : Sink) (b : Bytes) : (s.push b).taken = s.taken ++ b := by
  simp [taken, push]

@[simp] theorem taken_skip (s : Sink) : s.skip.taken = s.taken := rfl

def pending (s : Sink) : Nat := (s.plan.interrupts.filter (s.calls < ·)).length

theorem pending_skip_lt {s : Sink} (h : s.calls + 1 ∈ s.plan.interrupts) :
    s.skip.pending < s.pending := by
  have split : ∀ l : List Nat, s.calls + 1 ∈ l →
      (l.filter (s.calls + 1 < ·)).length < (l.filter (s.calls < ·)).length := by
    intro l
    induction l with
    | nil => simp
    | cons x l ih =>
      intro member
      have le : (l.filter (s.calls + 1 < ·)).length ≤ (l.filter (s.calls < ·)).length := by
        rw [← List.countP_eq_length_filter, ← List.countP_eq_length_filter]
        exact List.countP_mono_left fun y _ hy => by simp at hy ⊢; omega
      by_cases hx : x = s.calls + 1
      · subst hx
        simp
        omega
      · have := ih (by simpa [Ne.symm hx] using member)
        simp only [List.filter_cons]
        by_cases h1 : s.calls + 1 < x <;> by_cases h2 : s.calls < x <;> simp [h1, h2] <;> omega
  exact split _ h

theorem pending_push_le (s : Sink) (b : Bytes) : (s.push b).pending ≤ s.pending := by
  unfold pending
  rw [← List.countP_eq_length_filter, ← List.countP_eq_length_filter]
  exact List.countP_mono_left fun y _ hy =>
    decide_eq_true (Nat.lt_of_succ_lt (of_decide_eq_true hy))

/-- Writes the whole buffer, calling again after an interruption; the kind says why it could not. -/
def writeAll (s : Sink) (b : Bytes) : Except Fault.Kind Unit × Sink :=
  if b = [] then (.ok (), s)
  else
    match _step : s.step b.length with
    | .interrupted => writeAll s.skip b
    | .failed kind => (.error kind, s.skip)
    | .took 0 => (.error .writeZero, s.skip)
    | .took (n + 1) => writeAll (s.push (b.take (n + 1))) (b.drop (n + 1))
termination_by s.pending + b.length
decreasing_by
  · have : s.calls + 1 ∈ s.plan.interrupts := by
      unfold step at _step
      by_cases h : s.calls + 1 ∈ s.plan.interrupts
      · exact h
      · simp only [h, if_false] at _step
        repeat' split at _step
        all_goals cases _step
    have := pending_skip_lt this
    omega
  · have := pending_push_le s (b.take (n + 1))
    have : b.length ≠ 0 := by simpa using ‹¬b = []›
    simp only [List.length_drop]
    omega

/-- Flushes; an interruption is not tried again. -/
def flush (s : Sink) : Except Fault.Kind Unit × Sink :=
  let s := { s with flushes := s.flushes + 1 }
  match s.plan.flushFault with
  | some (call, kind) =>
    if s.flushes = call then (.error kind, s) else (.ok (), { s with marks := s.size :: s.marks })
  | none => (.ok (), { s with marks := s.size :: s.marks })

theorem taken_flush (s : Sink) : s.flush.2.taken = s.taken := by
  dsimp only [flush]
  split
  · split <;> rfl
  · rfl

end Sink

end Handin
