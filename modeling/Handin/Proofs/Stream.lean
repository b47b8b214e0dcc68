import Handin.Proofs.Pace

namespace Handin

namespace Sink

theorem writeAll_plan (s : Sink) (b : Bytes) : (s.writeAll b).2.plan = s.plan := by
  fun_induction writeAll s b with
  | case1 s => rfl
  | case2 s b filled step ih => exact ih
  | case3 s b filled kind step => rfl
  | case4 s b filled step => rfl
  | case5 s b filled n step ih => exact ih

theorem flush_error_call {s s' : Sink} {kind : Fault.Kind} (broken : s.flush = (.error kind, s')) :
    s.plan.flushFault = some (s'.flushes, kind) ∧ s'.flushes = s.flushes + 1 := by
  unfold flush at broken
  dsimp only at broken
  split at broken
  · next call why fault =>
      split at broken
      · next here =>
          cases broken
          exact ⟨by rw [fault, ← here], rfl⟩
      · cases broken
  · cases broken

theorem refusal_congr {s s' : Sink} (plan : s'.plan = s.plan) : s'.refusal = s.refusal := by
  rw [refusal, refusal, plan]

theorem writeAll_ok_fits {s s' : Sink} {b : Bytes} (written : s.writeAll b = (.ok (), s')) :
    s.Fits b := by
  rcases s.writeAll_cases b with ⟨s'', _, whole⟩ | ⟨kind, s'', broken, _⟩
  · exact (delivered_taken whole).1
  · rw [written] at broken
    cases broken

theorem writeAll_error_stuck {s s' : Sink} {b : Bytes} {kind : Fault.Kind}
    (broken : s.writeAll b = (.error kind, s')) : Stuck s b kind s' := by
  rcases s.writeAll_cases b with ⟨s'', written, _⟩ | ⟨kind', s'', broken', stuck⟩
  · rw [broken] at written
    cases written
  · rw [broken] at broken'
    cases broken'
    exact stuck

def Full.kind : Full → Fault.Kind
  | fault kind _ => kind
  | zero => .writeZero

/-- A sink that has taken nothing yet, and with each call takes a byte or more until it has `limit`
bytes; from then on it is full the way that is given. -/
structure Fresh (s : Sink) (limit : Option Nat) (full : Full) : Prop where
  taken_eq : s.taken = []
  maxWrite_ne : s.plan.maxWrite ≠ some 0
  limit_eq : s.plan.limit = limit
  full_eq (most : Nat) : limit = some most → s.plan.full = full

variable {s : Sink} {limit : Option Nat} {full : Full}

theorem Fresh.room?_eq (fresh : s.Fresh limit full) : s.room? = limit := by
  have empty : s.size = 0 := by
    rw [size_eq, fresh.taken_eq]
    rfl
  rw [room?, if_neg fresh.maxWrite_ne, fresh.limit_eq, empty]
  cases limit <;> rfl

theorem Fresh.refusal_eq (fresh : s.Fresh limit full) {most : Nat} (bounded : limit = some most) :
    s.refusal = full.kind := by
  rw [refusal, fresh.limit_eq, bounded, fresh.full_eq most bounded]
  cases full <;> rfl

end Sink

namespace Relay

theorem copied_plan {s s' : Sink} {cs : List Bytes} (copied : Copied s cs s') : s'.plan = s.plan := by
  induction copied with
  | nil => rfl
  | @cons s s₁ s₂ s₃ b rest written flushed _ ih =>
      have first : s₁.plan = s.plan := by simpa [written] using s.writeAll_plan b
      have second : s₂.plan = s₁.plan := by rw [Sink.flush_ok flushed]
      exact ih.trans (second.trans first)

theorem copied_fits {s s' : Sink} {cs : List Bytes} (copied : Copied s cs s') :
    s.Fits cs.flatten := by
  induction copied with
  | nil => exact fun _ _ => Nat.zero_le _
  | @cons s s₁ s₂ s₃ b rest written flushed _ ih =>
      have one : Copied s [b] s₂ := .cons written flushed (.nil s₂)
      have taken : s₂.taken = s.taken ++ b := by simpa using copied_taken one
      rw [List.flatten_cons]
      exact (Sink.fits_append_iff (copied_plan one) taken (Sink.writeAll_ok_fits written)).mpr ih

theorem pass_error_cases {s s' : Sink} {b : Bytes} {kind : Fault.Kind}
    (broken : pass s b = (.error kind, s')) : s.Stuck b kind s' ∨
      s'.flushes = s.flushes + 1 ∧ s.plan.flushFault = some (s'.flushes, kind) := by
  rcases pass_error_iff.mp broken with unwritten | ⟨s₁, written, unflushed⟩
  · exact .inl (Sink.writeAll_error_stuck unwritten)
  · have plan := s.writeAll_plan b
    have flushes := (s.writeAll_unflushed b).2
    rw [written] at plan flushes
    obtain ⟨fault, one⟩ := Sink.flush_error_call unflushed
    exact .inr ⟨one.trans (congrArg (· + 1) flushes), plan ▸ fault⟩

theorem jammed_full {s s' : Sink} {cs : List Bytes} {kind : Fault.Kind} (jammed : Jammed s cs kind s')
    (flushed : ∀ call why, s.plan.flushFault = some (call, why) →
      call ≤ s.flushes ∨ s'.flushes < call) :
    kind = s.refusal ∧ ∃ room, s.room? = some room ∧ room < cs.flatten.length ∧
      s'.taken = s.taken ++ cs.flatten.take room := by
  obtain ⟨before, failing, after, s₁, rfl, copied, broken⟩ := jammed_iff.mp jammed
  have plan := copied_plan copied
  have taken := copied_taken copied
  rcases pass_error_cases broken with stuck | ⟨last, fault⟩
  · obtain ⟨refusal, left, free, short, more⟩ := Sink.stuck_taken stuck
    rw [Sink.room?_of_taken plan taken] at free
    obtain ⟨room, whole, rfl⟩ := Option.map_eq_some_iff.mp free
    have enough : before.flatten.length ≤ room := copied_fits copied room whole
    have bytes : (before ++ failing :: after).flatten =
        before.flatten ++ (failing ++ after.flatten) := by
      rw [List.flatten_append, List.flatten_cons]
    refine ⟨refusal.trans (Sink.refusal_congr plan), room, whole, ?_, ?_⟩
    · rw [bytes, List.length_append, List.length_append]
      omega
    · calc
        s'.taken = s.taken ++ (before.flatten ++ failing.take (room - before.flatten.length)) := by
          rw [more, taken, List.append_assoc]
        _ = s.taken ++ (before ++ failing :: after).flatten.take room := by
          rw [bytes, List.take_append, List.take_of_length_le enough,
            List.take_append_of_le_length (Nat.le_of_lt short)]
  · -- the flush that fails would be one of those that do not
    have flushes := (copied_flushes copied).1
    rw [plan] at fault
    have apart := flushed _ _ fault
    omega

def Flushed (reply : List Read) (out : Sink) : Prop :=
  ∀ call kind, out.plan.flushFault = some (call, kind) →
    call ≤ out.flushes ∨ (relay reply out).sink.flushes < call

/-- What comes of bytes that end with a fault, or without one, and go to a sink with so much room. -/
structure Streamed (limit : Option Nat) (full : Sink.Full) (bytes : Bytes) (fault? : Option Fault)
    (run : Run) : Prop where
  taken_eq : run.sink.taken = match limit with
    | some most => bytes.take (min most bytes.length)
    | none => bytes
  writeFailed_iff (kind : Fault.Kind) : run.outcome = .writeFailed kind ↔
    kind = full.kind ∧ ∃ most, limit = some most ∧ most < bytes.length
  readFailed_iff (f : Fault) : run.outcome = .readFailed f ↔
    fault? = some f ∧ ∀ most, limit = some most → bytes.length ≤ most
  total_iff (n : Nat) : run.outcome = .total n ↔
    fault? = none ∧ n = bytes.length ∧ ∀ most, limit = some most → bytes.length ≤ most

section Streamed

variable {limit : Option Nat} {full : Sink.Full} {bytes : Bytes} {fault? : Option Fault}
  {run run' : Run}

theorem Streamed.whole (fits : ∀ most, limit = some most → bytes.length ≤ most)
    (taken : run.sink.taken = bytes)
    (ended : fault? = none → run.outcome = .total bytes.length)
    (broken : ∀ f, fault? = some f → run.outcome = .readFailed f) :
    Streamed limit full bytes fault? run where
  taken_eq := by
    rw [taken]
    cases limit with
    | none => rfl
    | some most =>
        have enough := fits most rfl
        exact (List.take_of_length_le (by omega)).symm
  writeFailed_iff kind := by
    constructor
    · intro unwritten
      cases fault? with
      | none => cases (ended rfl).symm.trans unwritten
      | some f => cases (broken f rfl).symm.trans unwritten
    · rintro ⟨_, most, bounded, short⟩
      have enough := fits most bounded
      omega
  readFailed_iff f := by
    rw [and_iff_left fits]
    cases fault? with
    | none => simp [ended]
    | some g => simp [broken]
  total_iff n := by
    rw [and_iff_left fits]
    cases fault? with
    | none => simp [ended, eq_comm]
    | some g => simp [broken]

theorem Streamed.part {most : Nat} (short : most < bytes.length)
    (taken : run.sink.taken = bytes.take most) (outcome : run.outcome = .writeFailed full.kind) :
    Streamed (some most) full bytes fault? run where
  taken_eq := by
    rw [taken]
    dsimp only
    rw [Nat.min_eq_left (Nat.le_of_lt short)]
  writeFailed_iff kind := by
    rw [outcome]
    constructor
    · intro same
      cases same
      exact ⟨rfl, most, rfl, short⟩
    · rintro ⟨rfl, _⟩
      rfl
  readFailed_iff f := by
    rw [outcome]
    simp [short]
  total_iff n := by
    rw [outcome]
    simp [short]

theorem Streamed.outcome_eq (streamed : Streamed limit full bytes fault? run)
    (streamed' : Streamed limit full bytes fault? run') : run'.outcome = run.outcome := by
  cases same : run.outcome with
  | total n => exact (streamed'.total_iff n).mpr ((streamed.total_iff n).mp same)
  | readFailed f => exact (streamed'.readFailed_iff f).mpr ((streamed.readFailed_iff f).mp same)
  | writeFailed kind =>
      exact (streamed'.writeFailed_iff kind).mpr ((streamed.writeFailed_iff kind).mp same)

end Streamed

theorem relay_streamed {reply : List Read} {out : Sink} {limit : Option Nat} {full : Sink.Full}
    (fresh : out.Fresh limit full) (flushed : Flushed reply out) :
    Streamed limit full (delivered reply) (breakage? reply) (relay reply out) := by
  rcases relay_cases reply out with ⟨copied, outcome⟩ | ⟨kind, jammed, outcome⟩
  · apply Streamed.whole
    · intro most bounded
      rw [← received_flatten]
      exact copied_fits copied most (fresh.room?_eq.trans bounded)
    · rw [copied_taken copied, fresh.taken_eq, received_flatten, List.nil_append]
    · intro ends
      rw [outcome, ending_buffered, ends]
    · intro f ends
      rw [outcome, ending_buffered, ends]
  · obtain ⟨refusal, room, free, short, taken⟩ := jammed_full jammed flushed
    obtain rfl : limit = some room := fresh.room?_eq.symm.trans free
    rw [received_flatten] at short taken
    apply Streamed.part short
    · rw [taken, fresh.taken_eq, List.nil_append]
    · rw [outcome, refusal, fresh.refusal_eq rfl]

/-- Two relays of the same bytes with the same end come to the same, whatever the cuts and the
interruptions, if their sinks have the same room. -/
theorem relay_recut {reply reply' : List Read} {out out' : Sink} {limit : Option Nat}
    {full : Sink.Full} (bytes : delivered reply' = delivered reply)
    (ends : breakage? reply' = breakage? reply) (fresh : out.Fresh limit full)
    (fresh' : out'.Fresh limit full) (flushed : Flushed reply out) (flushed' : Flushed reply' out') :
    (relay reply' out').outcome = (relay reply out).outcome ∧
      Streamed limit full (delivered reply) (breakage? reply) (relay reply out) ∧
      Streamed limit full (delivered reply) (breakage? reply) (relay reply' out') := by
  have first := relay_streamed fresh flushed
  have second := relay_streamed fresh' flushed'
  rw [bytes, ends] at second
  exact ⟨first.outcome_eq second, first, second⟩

theorem relay_recut_small :
    let reply : List Read := [.data [1, 2, 3, 4], .fault (.bare .connectionReset)]
    let reply' : List Read := [.fault (.bare .interrupted), .data [1, 2], .data [3],
      .fault (.os 4), .data [4], .fault (.bare .connectionReset)]
    let out : Sink := { plan := { limit := some 3, full := .zero } }
    let out' : Sink :=
      { plan := { maxWrite := some 1, limit := some 3, full := .zero, interrupts := [1, 3] } }
    ((relay reply out).outcome = .writeFailed .writeZero ∧
        (relay reply out).sink.taken = [1, 2, 3]) ∧
      (relay reply' out').outcome = .writeFailed .writeZero ∧
        (relay reply' out').sink.taken = [1, 2, 3] := by
  intro reply reply' out out'
  have bytes : delivered reply' = delivered reply := rfl
  have fresh : out.Fresh (some 3) .zero := ⟨rfl, by decide, rfl, fun _ _ => rfl⟩
  have fresh' : out'.Fresh (some 3) .zero := ⟨rfl, by decide, rfl, fun _ _ => rfl⟩
  have flushed : Flushed reply out := fun _ _ fails => by cases fails
  have flushed' : Flushed reply' out' := fun _ _ fails => by cases fails
  obtain ⟨same, first, second⟩ := relay_recut bytes rfl fresh fresh' flushed flushed'
  have broken : (relay reply out).outcome = .writeFailed .writeZero :=
    (first.writeFailed_iff _).mpr ⟨rfl, 3, rfl, by decide⟩
  exact ⟨⟨broken, first.taken_eq⟩, same.trans broken, second.taken_eq⟩

end Relay

end Handin
