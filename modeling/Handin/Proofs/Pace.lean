import Mathlib.Logic.ExistsUnique
import Mathlib.Logic.Relation
import Handin.Proofs.Relay

/-! The pace of a relay: at every read, all that was read before has been written and flushed. What
the sink has in the end follows, however the relay ends. -/

namespace Handin

namespace Sink

theorem flush_ok {s s' : Sink} (flushed : s.flush = (.ok (), s')) :
    s' = { s with flushes := s.flushes + 1, marks := s.size :: s.marks } := by
  unfold flush at flushed
  dsimp only at flushed
  repeat' split at flushed
  all_goals cases flushed
  all_goals rfl

theorem flush_error {s s' : Sink} {kind : Fault.Kind} (broken : s.flush = (.error kind, s')) :
    s' = { s with flushes := s.flushes + 1 } := by
  unfold flush at broken
  dsimp only at broken
  repeat' split at broken
  all_goals cases broken
  rfl

theorem writeAll_unflushed (s : Sink) (b : Bytes) :
    (s.writeAll b).2.marks = s.marks ∧ (s.writeAll b).2.flushes = s.flushes := by
  fun_induction writeAll s b with
  | case1 s => exact ⟨rfl, rfl⟩
  | case2 s b filled step ih => exact ih
  | case3 s b filled kind step => exact ⟨rfl, rfl⟩
  | case4 s b filled step => exact ⟨rfl, rfl⟩
  | case5 s b filled n step ih => exact ih

theorem step_interrupted {s : Sink} {n : Nat} (step : s.step n = .interrupted) :
    s.calls + 1 ∈ s.plan.interrupts := by
  unfold Sink.step at step
  grind

theorem writeAll_calls (s : Sink) (b : Bytes) :
    (s.writeAll b).2.calls + (s.writeAll b).2.pending ≤ s.calls + s.pending + b.length := by
  have skipped (s : Sink) : s.skip.pending ≤ s.pending := pending_push_le s []
  have counted (s : Sink) : s.skip.calls = s.calls + 1 := rfl
  fun_induction writeAll s b with
  | case1 s => exact Nat.le_refl _
  | case2 s b filled step ih =>
      have fewer := pending_skip_lt (step_interrupted step)
      have one := counted s
      omega
  | case3 s b filled kind step =>
      have offered : 0 < b.length := List.length_pos_iff.mpr filled
      have fewer := skipped s
      have one := counted s
      dsimp only
      omega
  | case4 s b filled step =>
      have offered : 0 < b.length := List.length_pos_iff.mpr filled
      have fewer := skipped s
      have one := counted s
      dsimp only
      omega
  | case5 s b filled n step ih =>
      have fewer := pending_push_le s (b.take (n + 1))
      have one : (s.push (b.take (n + 1))).calls = s.calls + 1 := rfl
      have offered : 0 < b.length := List.length_pos_iff.mpr filled
      rw [List.length_drop] at ih
      omega

end Sink

namespace Relay

def marked (n : Nat) : List Bytes → List Nat
  | [] => []
  | b :: rest => (n + b.length) :: marked (n + b.length) rest

theorem pass_ok_iff {s s' : Sink} {b : Bytes} :
    pass s b = (.ok (), s') ↔ ∃ s₁, s.writeAll b = (.ok (), s₁) ∧ s₁.flush = (.ok (), s') := by
  unfold pass
  rcases s.writeAll b with ⟨_ | _, s₁⟩ <;> simp

theorem pass_error_iff {s s' : Sink} {b : Bytes} {kind : Fault.Kind} :
    pass s b = (.error kind, s') ↔ s.writeAll b = (.error kind, s') ∨
      ∃ s₁, s.writeAll b = (.ok (), s₁) ∧ s₁.flush = (.error kind, s') := by
  unfold pass
  rcases s.writeAll b with ⟨_ | _, s₁⟩ <;> simp

theorem pass_ok {s s' : Sink} {b : Bytes} (passed : pass s b = (.ok (), s')) :
    s'.taken = s.taken ++ b ∧ s'.size = s.size + b.length ∧ s'.flushes = s.flushes + 1 ∧
      s'.marks = s'.size :: s.marks ∧
      s'.calls + s'.pending ≤ s.calls + s.pending + b.length := by
  obtain ⟨s₁, written, flushed⟩ := pass_ok_iff.mp passed
  have taken : s'.taken = s.taken ++ b := by rw [flush_taken flushed, Sink.writeAll_ok written]
  have size : s'.size = s.size + b.length := by
    rw [Sink.size_eq, Sink.size_eq, taken, List.length_append]
  obtain ⟨marks, flushes⟩ := s.writeAll_unflushed b
  have calls := s.writeAll_calls b
  rw [written] at marks flushes calls
  have same := Sink.flush_ok flushed
  subst same
  refine ⟨taken, size, congrArg (· + 1) flushes, congrArg _ marks, calls⟩

theorem pass_error {s s' : Sink} {b : Bytes} {kind : Fault.Kind}
    (broken : pass s b = (.error kind, s')) :
    (∃ front back, front ++ back = b ∧ s'.taken = s.taken ++ front ∧
        s'.flushes = s.flushes + if back = [] then 1 else 0) ∧
      s'.calls + s'.pending ≤ s.calls + s.pending + b.length := by
  obtain ⟨_, flushes⟩ := s.writeAll_unflushed b
  have calls := s.writeAll_calls b
  rcases pass_error_iff.mp broken with unwritten | ⟨s₁, written, unflushed⟩
  · obtain ⟨front, back, filled, whole, taken⟩ := Sink.writeAll_error unwritten
    rw [unwritten] at flushes calls
    exact ⟨⟨front, back, whole, taken, by rw [if_neg filled, flushes, Nat.add_zero]⟩, calls⟩
  · rw [written] at flushes calls
    have taken : s'.taken = s.taken ++ b := by rw [flush_taken unflushed, Sink.writeAll_ok written]
    have same := Sink.flush_error unflushed
    subst same
    exact ⟨⟨b, [], List.append_nil b, taken, congrArg (· + 1) flushes⟩, calls⟩

theorem copied_flushes {s s' : Sink} {cs : List Bytes} (copied : Copied s cs s') :
    s'.flushes = s.flushes + cs.length ∧
      s'.marks.reverse = s.marks.reverse ++ marked s.size cs ∧
      s'.calls + s'.pending ≤ s.calls + s.pending + cs.flatten.length := by
  induction copied with
  | nil s => exact ⟨rfl, (List.append_nil _).symm, Nat.le_refl _⟩
  | @cons s s₁ s₂ s₃ b rest written flushed _ ih =>
      obtain ⟨_, size, flushes, marks, calls⟩ := pass_ok (pass_ok_iff.mpr ⟨s₁, written, flushed⟩)
      obtain ⟨flushes', marks', calls'⟩ := ih
      refine ⟨?_, ?_, ?_⟩
      · rw [flushes', flushes, List.length_cons]
        omega
      · rw [marks', marks, List.reverse_cons, size, marked, List.append_assoc,
          List.singleton_append]
      · rw [List.flatten_cons, List.length_append]
        omega

theorem copied_flushed {s s' : Sink} {cs : List Bytes} (copied : Copied s cs s')
    (filled : cs ≠ []) : s'.marks.head? = some s'.size := by
  induction copied with
  | nil s => exact absurd rfl filled
  | @cons s s₁ s₂ s₃ b rest written flushed copied ih =>
      cases rest with
      | nil =>
          cases copied
          have marks := (pass_ok (pass_ok_iff.mpr ⟨s₁, written, flushed⟩)).2.2.2.1
          rw [marks, List.head?_cons]
      | cons => exact ih (List.cons_ne_nil _ _)

theorem Copied.concat {s s₁ s₂ : Sink} {cs : List Bytes} {b : Bytes} (copied : Copied s cs s₁)
    (passed : pass s₁ b = (.ok (), s₂)) : Copied s (cs ++ [b]) s₂ := by
  induction copied with
  | nil s =>
      obtain ⟨s', written, flushed⟩ := pass_ok_iff.mp passed
      exact .cons written flushed (.nil s₂)
  | cons written flushed _ ih => exact .cons written flushed (ih passed)

theorem jammed_iff {s s' : Sink} {cs : List Bytes} {kind : Fault.Kind} :
    Jammed s cs kind s' ↔ ∃ before failing after s₁, cs = before ++ failing :: after ∧
      Copied s before s₁ ∧ pass s₁ failing = (.error kind, s') := by
  constructor
  · intro jammed
    induction jammed with
    | @write s s₁ b kind rest broken =>
        exact ⟨[], b, rest, s, rfl, .nil s, pass_error_iff.mpr (.inl broken)⟩
    | @flush s s₁ s₂ b kind rest written broken =>
        exact ⟨[], b, rest, s, rfl, .nil s, pass_error_iff.mpr (.inr ⟨s₁, written, broken⟩)⟩
    | @later s s₁ s₂ s₃ b rest kind written flushed _ ih =>
        obtain ⟨before, failing, after, s', rfl, copied, broken⟩ := ih
        exact ⟨b :: before, failing, after, s', rfl, .cons written flushed copied, broken⟩
  · rintro ⟨before, failing, after, s₁, rfl, copied, broken⟩
    induction copied with
    | nil s =>
        rcases pass_error_iff.mp broken with unwritten | ⟨s₂, written, unflushed⟩
        · exact .write after unwritten
        · exact .flush after written unflushed
    | cons written flushed _ ih => exact .later written flushed (ih broken)

theorem not_jammed_of_copied {s s₁ s₂ : Sink} {cs : List Bytes} {kind : Fault.Kind}
    (copied : Copied s cs s₁) : ¬ Jammed s cs kind s₂ := by
  induction copied with
  | nil s => exact fun jammed => by cases jammed
  | cons written flushed _ ih =>
      intro jammed
      cases jammed with
      | write _ broken =>
          rw [written] at broken
          cases broken
      | flush _ written' broken =>
          rw [written] at written'
          cases written'
          rw [flushed] at broken
          cases broken
      | later written' flushed' jammed =>
          rw [written] at written'
          cases written'
          rw [flushed] at flushed'
          cases flushed'
          exact ih jammed

/-- A relay that is about to read: the chunks it has read, the reads it has made, its sink and the
reads that are left. -/
structure Moment where
  got : List Bytes
  reads : Nat
  sink : Sink
  left : List Read

namespace Moment

def first (reply : List Read) (out : Sink) : Moment := ⟨[], 0, out, buffered reply⟩

def run (m : Moment) : Run := copy m.got.flatten.length m.reads m.sink m.left

/-- From one read to the next: a chunk is passed on, or a read was interrupted. -/
inductive Turn : Moment → Moment → Prop
  | chunk {got : List Bytes} {reads : Nat} {s s' : Sink} {x : UInt8} {b : Bytes} {rest : List Read} :
      pass s (x :: b) = (.ok (), s') →
        Turn ⟨got, reads, s, .data (x :: b) :: rest⟩ ⟨got ++ [x :: b], reads + 1, s', rest⟩
  | again {got : List Bytes} {reads : Nat} {s : Sink} {f : Fault} {rest : List Read} :
      f.kind = .interrupted →
        Turn ⟨got, reads, s, .fault f :: rest⟩ ⟨got, reads + 1, s, rest⟩

abbrev Leads : Moment → Moment → Prop := Relation.ReflTransGen Turn

variable {m m' : Moment}

/-- A turn is what the relay does between two of its reads. -/
theorem Turn.run_eq (turn : Turn m m') : m.run = m'.run := by
  cases turn with
  | chunk passed => simp [run, copy, passed]
  | again interrupted => simp [run, copy, interrupted]

theorem Turn.reads_eq (turn : Turn m m') : m'.reads = m.reads + 1 := by
  cases turn <;> rfl

theorem Turn.left_lt (turn : Turn m m') : m'.left.length < m.left.length := by
  cases turn <;> exact Nat.lt_succ_self _

theorem Turn.unique {m₁ m₂ : Moment} (turn : Turn m m₁) (turn' : Turn m m₂) : m₁ = m₂ := by
  cases turn with
  | chunk passed =>
      cases turn' with
      | chunk passed' =>
          rw [passed] at passed'
          cases passed'
          rfl
  | again interrupted => cases turn' with | again _ => rfl

theorem run_last (last : ¬ ∃ m', Turn m m') : m.run.reads = m.reads + 1 := by
  obtain ⟨got, reads, s, left⟩ := m
  match left with
  | [] => rfl
  | .data [] :: _ => rfl
  | .data (x :: b) :: rest =>
      rcases passed : pass s (x :: b) with ⟨_ | _, s'⟩
      · simp [run, copy, passed]
      · exact absurd ⟨_, .chunk passed⟩ last
  | .fault f :: rest =>
      by_cases interrupted : f.kind = .interrupted
      · exact absurd ⟨_, .again interrupted⟩ last
      · simp [run, copy, interrupted]

theorem Leads.run_eq (leads : Leads m m') : m.run = m'.run := by
  induction leads with
  | refl => rfl
  | tail _ turn ih => exact ih.trans turn.run_eq

theorem Leads.reads_le (leads : Leads m m') : m.reads ≤ m'.reads := by
  induction leads with
  | refl => exact Nat.le_refl _
  | tail _ turn ih =>
      rw [turn.reads_eq]
      exact Nat.le_succ_of_le ih

theorem reads_lt_run (m : Moment) : m.reads < m.run.reads := by
  by_cases more : ∃ m', Turn m m'
  · obtain ⟨m', turn⟩ := more
    have shorter := turn.left_lt
    have later := reads_lt_run m'
    rw [turn.run_eq]
    rw [turn.reads_eq] at later
    omega
  · rw [run_last more]
    exact Nat.lt_succ_self _
termination_by m.left.length

theorem run_reads_le (m : Moment) : m.run.reads ≤ m.reads + m.left.length + 1 := by
  by_cases more : ∃ m', Turn m m'
  · obtain ⟨m', turn⟩ := more
    have shorter := turn.left_lt
    have later := run_reads_le m'
    rw [turn.run_eq]
    rw [turn.reads_eq] at later
    omega
  · rw [run_last more]
    omega
termination_by m.left.length

theorem exists_leads {k : Nat} (m : Moment) (from_here : m.reads ≤ k) (made : k < m.run.reads) :
    ∃ m', Leads m m' ∧ m'.reads = k := by
  by_cases here : m.reads = k
  · exact ⟨m, .refl, here⟩
  · by_cases more : ∃ m', Turn m m'
    · obtain ⟨m', turn⟩ := more
      have shorter := turn.left_lt
      have next := turn.reads_eq
      obtain ⟨last, leads, same⟩ :=
        exists_leads (k := k) m' (by omega) (by rw [← turn.run_eq]; exact made)
      exact ⟨last, .head turn leads, same⟩
    · rw [run_last more] at made
      omega
termination_by m.left.length

theorem Leads.unique {m₁ m₂ : Moment} (leads : Leads m m₁) (leads' : Leads m m₂)
    (same : m₁.reads = m₂.reads) : m₁ = m₂ := by
  have ordered {a b : Moment} (after : Leads a b) (level : a.reads = b.reads) : a = b := by
    cases after.cases_head with
    | inl here => exact here
    | inr later =>
        obtain ⟨next, turn, rest⟩ := later
        have more := Leads.reads_le rest
        rw [turn.reads_eq] at more
        omega
  have right_unique : Relator.RightUnique Turn := fun _ _ _ turn turn' => turn.unique turn'
  rcases Relation.ReflTransGen.total_of_right_unique right_unique leads leads' with after | after
  · exact ordered after same
  · exact (ordered after same.symm).symm

/-- Nothing is held back: what was read has been written, with a flush after each chunk, and what is
left makes up the rest of the reply. -/
structure Abreast (reply : List Read) (out : Sink) (m : Moment) : Prop where
  copied : Copied out m.got m.sink
  chunks_eq : m.got ++ chunks m.left = received reply

theorem abreast_first (reply : List Read) (out : Sink) : Abreast reply out (first reply out) :=
  ⟨.nil out, rfl⟩

theorem Turn.abreast {reply : List Read} {out : Sink} (turn : Turn m m')
    (here : Abreast reply out m) : Abreast reply out m' := by
  obtain ⟨copied, rest⟩ := here
  cases turn with
  | chunk passed =>
      refine ⟨copied.concat passed, ?_⟩
      rw [← rest, chunks, List.append_assoc, List.singleton_append]
  | again interrupted =>
      refine ⟨copied, ?_⟩
      rw [← rest, chunks, if_pos interrupted]

theorem Leads.abreast {reply : List Read} {out : Sink} (leads : Leads (first reply out) m) :
    Abreast reply out m := by
  induction leads with
  | refl => exact abreast_first reply out
  | tail _ turn ih => exact turn.abreast ih

end Moment

/-- What a relay of a reply to the sink `out` comes to. -/
structure Exact (reply : List Read) (out : Sink) (run : Run) : Prop where
  total_iff (n : Nat) : run.outcome = .total n ↔
    breakage? reply = none ∧ Copied out (received reply) run.sink ∧ n = (delivered reply).length
  readFailed_iff (f : Fault) : run.outcome = .readFailed f ↔
    breakage? reply = some f ∧ Copied out (received reply) run.sink
  writeFailed_iff (kind : Fault.Kind) : run.outcome = .writeFailed kind ↔
    ∃ before failing after s, received reply = before ++ failing :: after ∧ Copied out before s ∧
      pass s failing = (.error kind, run.sink)
  otherwise : (∃ kind, run.outcome = .writeFailed kind) ↔ ¬ ∃ s, Copied out (received reply) s
  whole : (∀ kind, run.outcome ≠ .writeFailed kind) →
    run.sink.taken = out.taken ++ delivered reply ∧
      run.sink.flushes = out.flushes + (received reply).length ∧
      run.sink.marks.reverse = out.marks.reverse ++ marked out.size (received reply)
  part (kind : Fault.Kind) : run.outcome = .writeFailed kind →
    ∃ before front back after, received reply = before ++ (front ++ back) :: after ∧
      run.sink.taken = out.taken ++ (before.flatten ++ front) ∧
      before.flatten ++ front <+: delivered reply ∧
      run.sink.flushes = out.flushes + before.length + if back = [] then 1 else 0
  moment (k : Nat) : k < run.reads → ∃! m, (Moment.first reply out).Leads m ∧ m.reads = k
  paced (m : Moment) : (Moment.first reply out).Leads m →
    m.run = run ∧ m.reads < run.reads ∧ received reply = m.got ++ chunks m.left ∧
      m.sink.taken = out.taken ++ m.got.flatten ∧
      m.sink.flushes = out.flushes + m.got.length ∧
      m.sink.marks.reverse = out.marks.reverse ++ marked out.size m.got ∧
      (m.got ≠ [] → m.sink.marks.head? = some m.sink.size)
  reads_le : run.reads ≤ (buffered reply).length + 1
  calls_le : run.sink.calls ≤ out.calls + out.pending + (delivered reply).length

theorem exact_part {reply : List Read} {out : Sink} {kind : Fault.Kind}
    (jammed : Jammed out (received reply) kind (relay reply out).sink) :
    ∃ before front back after, received reply = before ++ (front ++ back) :: after ∧
      (relay reply out).sink.taken = out.taken ++ (before.flatten ++ front) ∧
      before.flatten ++ front <+: delivered reply ∧
      (relay reply out).sink.flushes = out.flushes + before.length + if back = [] then 1 else 0 := by
  obtain ⟨before, failing, after, s, parts, copied, broken⟩ := jammed_iff.mp jammed
  obtain ⟨⟨front, back, rfl, taken, flushes⟩, _⟩ := pass_error broken
  refine ⟨before, front, back, after, parts, ?_, ?_, ?_⟩
  · rw [taken, copied_taken copied, List.append_assoc]
  · rw [← received_flatten, parts, List.flatten_append, List.flatten_cons, List.append_assoc]
    exact (List.prefix_append_right_inj _).mpr (List.prefix_append front _)
  · rw [flushes, (copied_flushes copied).1]

theorem relay_calls_le (reply : List Read) (out : Sink) :
    (relay reply out).sink.calls ≤ out.calls + out.pending + (delivered reply).length := by
  rw [← received_flatten]
  rcases relay_cases reply out with ⟨copied, _⟩ | ⟨kind, jammed, _⟩
  · have calls := (copied_flushes copied).2.2
    omega
  · obtain ⟨before, failing, after, s, parts, copied, broken⟩ := jammed_iff.mp jammed
    have calls := (copied_flushes copied).2.2
    have more := (pass_error broken).2
    rw [parts, List.flatten_append, List.flatten_cons, List.length_append, List.length_append]
    omega

/-- A relay copies a reply exactly, at the pace at which it arrives. -/
theorem relay_exact (reply : List Read) (out : Sink) : Exact reply out (relay reply out) where
  total_iff n := by
    rcases relay_cases reply out with ⟨copied, outcome⟩ | ⟨kind, jammed, outcome⟩
    · rw [outcome, ending_buffered]
      cases breakage? reply <;> simp [copied, eq_comm]
    · rw [outcome]
      constructor
      · intro other
        cases other
      · rintro ⟨_, copied, _⟩
        exact absurd jammed (not_jammed_of_copied copied)
  readFailed_iff f := relay_readFailed_iff
  writeFailed_iff kind := by rw [relay_writeFailed_iff, jammed_iff]
  otherwise := by
    constructor
    · rintro ⟨kind, broken⟩ ⟨s, copied⟩
      exact not_jammed_of_copied copied (relay_writeFailed_iff.mp broken)
    · intro uncopied
      rcases relay_cases reply out with ⟨copied, _⟩ | ⟨kind, _, outcome⟩
      · exact absurd ⟨_, copied⟩ uncopied
      · exact ⟨kind, outcome⟩
  whole unbroken := by
    rcases relay_cases reply out with ⟨copied, _⟩ | ⟨kind, _, outcome⟩
    · obtain ⟨flushes, marks, _⟩ := copied_flushes copied
      exact ⟨by rw [copied_taken copied, received_flatten], flushes, marks⟩
    · exact absurd outcome (unbroken kind)
  part kind broken := exact_part (relay_writeFailed_iff.mp broken)
  moment k made := by
    obtain ⟨m, leads, here⟩ := Moment.exists_leads (Moment.first reply out) (Nat.zero_le k) made
    refine ⟨m, ⟨leads, here⟩, ?_⟩
    rintro m' ⟨leads', here'⟩
    exact Moment.Leads.unique leads' leads (here'.trans here.symm)
  paced m leads := by
    have same : m.run = relay reply out := (Moment.Leads.run_eq leads).symm
    obtain ⟨copied, chunks⟩ := Moment.Leads.abreast leads
    obtain ⟨flushes, marks, _⟩ := copied_flushes copied
    exact ⟨same, same ▸ m.reads_lt_run, chunks.symm, copied_taken copied, flushes, marks,
      copied_flushed copied⟩
  reads_le := by
    have bound := (Moment.first reply out).run_reads_le
    rwa [Moment.first, Nat.zero_add] at bound
  calls_le := relay_calls_le reply out

end Relay

end Handin
