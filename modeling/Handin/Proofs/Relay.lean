import Handin.Proofs.Sink
import Handin.Relay

/-! What a relay makes of a reply: the bytes that came before the reply ended or a read of it
failed, and whether the sink held out that long. -/

namespace Handin.Relay

/-- The chunks that reads yield before the reply ends or one of them fails for good. -/
def chunks : List Read → List Bytes
  | [] => []
  | .data [] :: _ => []
  | .data (x :: b) :: rest => (x :: b) :: chunks rest
  | .fault f :: rest => if f.kind = .interrupted then chunks rest else []

def breakage? : List Read → Option Fault
  | [] => none
  | .data [] :: _ => none
  | .data (_ :: _) :: rest => breakage? rest
  | .fault f :: rest => if f.kind = .interrupted then breakage? rest else some f

def delivered (reply : List Read) : Bytes := (chunks reply).flatten

theorem delivered_cons {b : Bytes} (filled : b ≠ []) (rest : List Read) :
    delivered (.data b :: rest) = b ++ delivered rest ∧
      breakage? (.data b :: rest) = breakage? rest := by
  cases b with
  | nil => exact absurd rfl filled
  | cons x b => exact ⟨rfl, rfl⟩

/-- Every chunk was written and flushed, one after the other. -/
inductive Copied : Sink → List Bytes → Sink → Prop
  | nil (s : Sink) : Copied s [] s
  | cons {s s₁ s₂ s₃ : Sink} {b : Bytes} {rest : List Bytes} :
      s.writeAll b = (.ok (), s₁) → s₁.flush = (.ok (), s₂) → Copied s₂ rest s₃ →
        Copied s (b :: rest) s₃

/-- Some chunk could not be written or flushed, and all before it were. -/
inductive Jammed : Sink → List Bytes → Fault.Kind → Sink → Prop
  | write {s s₁ : Sink} {b : Bytes} {kind : Fault.Kind} (rest : List Bytes) :
      s.writeAll b = (.error kind, s₁) → Jammed s (b :: rest) kind s₁
  | flush {s s₁ s₂ : Sink} {b : Bytes} {kind : Fault.Kind} (rest : List Bytes) :
      s.writeAll b = (.ok (), s₁) → s₁.flush = (.error kind, s₂) → Jammed s (b :: rest) kind s₂
  | later {s s₁ s₂ s₃ : Sink} {b : Bytes} {rest : List Bytes} {kind : Fault.Kind} :
      s.writeAll b = (.ok (), s₁) → s₁.flush = (.ok (), s₂) → Jammed s₂ rest kind s₃ →
        Jammed s (b :: rest) kind s₃

theorem copied_or_jammed (s : Sink) (cs : List Bytes) :
    (∃ s', Copied s cs s') ∨ ∃ kind s', Jammed s cs kind s' := by
  induction cs generalizing s with
  | nil => exact .inl ⟨s, .nil s⟩
  | cons b rest ih =>
      rcases written : s.writeAll b with ⟨_ | _, s₁⟩
      · exact .inr ⟨_, s₁, .write rest written⟩
      · rcases flushed : s₁.flush with ⟨_ | _, s₂⟩
        · exact .inr ⟨_, s₂, .flush rest written flushed⟩
        · rcases ih s₂ with ⟨s₃, copied⟩ | ⟨kind, s₃, jammed⟩
          · exact .inl ⟨s₃, .cons written flushed copied⟩
          · exact .inr ⟨kind, s₃, .later written flushed jammed⟩

theorem flush_taken {s s' : Sink} {ending : Except Fault.Kind Unit}
    (flushed : s.flush = (ending, s')) : s'.taken = s.taken := by
  simpa [flushed] using s.taken_flush

theorem copied_taken {s s' : Sink} {cs : List Bytes} (copied : Copied s cs s') :
    s'.taken = s.taken ++ cs.flatten := by
  induction copied with
  | nil => simp
  | cons written flushed _ ih =>
      rw [ih, flush_taken flushed, Sink.writeAll_ok written, List.flatten_cons, List.append_assoc]

theorem jammed_taken {s s' : Sink} {cs : List Bytes} {kind : Fault.Kind}
    (jammed : Jammed s cs kind s') :
    ∃ front, front <+: cs.flatten ∧ s'.taken = s.taken ++ front := by
  induction jammed with
  | write rest broken =>
      obtain ⟨front, back, _, whole, taken⟩ := Sink.writeAll_error broken
      refine ⟨front, ?_, taken⟩
      rw [← whole, List.flatten_cons, List.append_assoc]
      exact List.prefix_append front _
  | @flush s s₁ s₂ b kind rest written flushed =>
      refine ⟨b, List.prefix_append b _, ?_⟩
      rw [flush_taken flushed, Sink.writeAll_ok written]
  | @later s s₁ s₂ s₃ b rest kind written flushed _ ih =>
      obtain ⟨front, part, taken⟩ := ih
      refine ⟨b ++ front, (List.prefix_append_right_inj b).mpr part, ?_⟩
      rw [taken, flush_taken flushed, Sink.writeAll_ok written, List.append_assoc]

def ending (total : Nat) (reads : List Read) : Outcome :=
  match breakage? reads with
  | none => .total (total + (delivered reads).length)
  | some f => .readFailed f

theorem ending_data (total : Nat) (x : UInt8) (b : Bytes) (rest : List Read) :
    ending total (.data (x :: b) :: rest) = ending (total + (x :: b).length) rest := by
  simp only [ending, breakage?, delivered, chunks, List.flatten_cons, List.length_append,
    Nat.add_assoc]

theorem copy_copied {reads : List Read} {s s' : Sink} (total count : Nat)
    (copied : Copied s (chunks reads) s') :
    (copy total count s reads).outcome = ending total reads ∧
      (copy total count s reads).sink = s' := by
  -- by the reads; both counts are general, as they grow from one read to the next
  fun_induction chunks reads generalizing s total count with
  | case1 =>
      cases copied
      exact ⟨rfl, rfl⟩
  | case2 =>
      cases copied
      exact ⟨rfl, rfl⟩
  | case3 x b rest ih =>
      cases copied with
      | cons written flushed copied =>
          rw [ending_data]
          simpa only [copy, pass, written, flushed] using
            ih (total + (x :: b).length) (count + 1) copied
  | case4 f rest interrupted ih =>
      simpa [copy, interrupted, ending, breakage?, delivered, chunks] using
        ih total (count + 1) copied
  | case5 f rest final =>
      cases copied
      simp [copy, final, ending, breakage?]

theorem copy_jammed {reads : List Read} {s s' : Sink} {kind : Fault.Kind} (total count : Nat)
    (jammed : Jammed s (chunks reads) kind s') :
    (copy total count s reads).outcome = .writeFailed kind ∧
      (copy total count s reads).sink = s' := by
  fun_induction chunks reads generalizing s total count with
  | case1 => cases jammed
  | case2 => cases jammed
  | case3 x b rest ih =>
      cases jammed with
      | write _ broken => simp [copy, pass, broken]
      | flush _ written broken => simp [copy, pass, written, broken]
      | later written flushed jammed =>
          simpa [copy, pass, written, flushed] using
            ih (total + (x :: b).length) (count + 1) jammed
  | case4 f rest interrupted ih =>
      simpa [copy, interrupted] using ih total (count + 1) jammed
  | case5 f rest final => cases jammed

theorem pieces_flatten (b : Bytes) : (pieces b).flatten = b := by
  fun_induction pieces b with
  | case1 b short => simp
  | case2 b long ih => rw [List.flatten_cons, ih, List.take_append_drop]

theorem pieces_filled {b : Bytes} (filled : b ≠ []) : ∀ p ∈ pieces b, p ≠ [] := by
  fun_induction pieces b with
  | case1 b short =>
      intro p member
      rw [List.mem_singleton] at member
      rw [member]
      exact filled
  | case2 b long ih =>
      have more : chunkSize < b.length := Nat.lt_of_not_le long
      have room : 0 < chunkSize := by decide
      intro p member
      rcases List.mem_cons.mp member with rfl | later
      · apply List.ne_nil_of_length_pos
        rw [List.length_take]
        omega
      · refine ih ?_ p later
        apply List.ne_nil_of_length_pos
        rw [List.length_drop]
        omega

theorem chunks_append (ps : List Bytes) (filled : ∀ p ∈ ps, p ≠ []) (rest : List Read) :
    chunks (ps.map .data ++ rest) = ps ++ chunks rest := by
  induction ps with
  | nil => rfl
  | cons p ps ih =>
      cases p with
      | nil => exact absurd rfl (filled [] List.mem_cons_self)
      | cons x b =>
          simp only [List.map_cons, List.cons_append, chunks]
          rw [ih fun p member => filled p (List.mem_cons_of_mem _ member)]

theorem breakage?_append (ps : List Bytes) (filled : ∀ p ∈ ps, p ≠ []) (rest : List Read) :
    breakage? (ps.map .data ++ rest) = breakage? rest := by
  induction ps with
  | nil => rfl
  | cons p ps ih =>
      cases p with
      | nil => exact absurd rfl (filled [] List.mem_cons_self)
      | cons x b =>
          simp only [List.map_cons, List.cons_append, breakage?]
          exact ih fun p member => filled p (List.mem_cons_of_mem _ member)

theorem pieces_nil : pieces [] = [[]] := by
  rw [pieces]
  exact dif_pos (Nat.zero_le _)

theorem delivered_buffered (reply : List Read) :
    delivered (buffered reply) = delivered reply := by
  unfold delivered
  fun_induction chunks reply with
  | case1 => rfl
  | case2 rest => simp [buffered, pieces_nil, chunks]
  | case3 x b rest ih =>
      have filled := pieces_filled (List.cons_ne_nil x b)
      rw [buffered, chunks_append _ filled, List.flatten_append, pieces_flatten, ih,
        List.flatten_cons]
  | case4 f rest interrupted ih => simpa [buffered, chunks, interrupted] using ih
  | case5 f rest final => simp [buffered, chunks, final]

theorem breakage?_buffered (reply : List Read) :
    breakage? (buffered reply) = breakage? reply := by
  fun_induction breakage? reply with
  | case1 => rfl
  | case2 rest => simp [buffered, pieces_nil, breakage?]
  | case3 x b rest ih =>
      rw [buffered, breakage?_append _ (pieces_filled (List.cons_ne_nil x b)), ih]
  | case4 f rest interrupted ih => simpa [buffered, breakage?, interrupted] using ih
  | case5 f rest final => simp [buffered, breakage?, final]

def received (reply : List Read) : List Bytes := chunks (buffered reply)

theorem received_flatten (reply : List Read) : (received reply).flatten = delivered reply :=
  delivered_buffered reply

theorem ending_buffered (reply : List Read) :
    ending 0 (buffered reply) = match breakage? reply with
      | none => .total (delivered reply).length
      | some f => .readFailed f := by
  rw [ending, breakage?_buffered, delivered_buffered, Nat.zero_add]

theorem relay_copied {reply : List Read} {s s' : Sink} (copied : Copied s (received reply) s') :
    (relay reply s).outcome = ending 0 (buffered reply) ∧ (relay reply s).sink = s' :=
  copy_copied 0 0 copied

theorem relay_jammed {reply : List Read} {s s' : Sink} {kind : Fault.Kind}
    (jammed : Jammed s (received reply) kind s') :
    (relay reply s).outcome = .writeFailed kind ∧ (relay reply s).sink = s' :=
  copy_jammed 0 0 jammed

theorem relay_cases (reply : List Read) (s : Sink) :
    (Copied s (received reply) (relay reply s).sink ∧
        (relay reply s).outcome = ending 0 (buffered reply)) ∨
      ∃ kind, Jammed s (received reply) kind (relay reply s).sink ∧
        (relay reply s).outcome = .writeFailed kind := by
  rcases copied_or_jammed s (received reply) with ⟨s', copied⟩ | ⟨kind, s', jammed⟩
  · obtain ⟨outcome, sink⟩ := relay_copied copied
    exact .inl ⟨sink ▸ copied, outcome⟩
  · obtain ⟨outcome, sink⟩ := relay_jammed jammed
    exact .inr ⟨kind, sink ▸ jammed, outcome⟩

theorem relay_writeFailed_iff {reply : List Read} {s : Sink} {kind : Fault.Kind} :
    (relay reply s).outcome = .writeFailed kind ↔
      Jammed s (received reply) kind (relay reply s).sink := by
  constructor
  · intro broken
    rcases relay_cases reply s with ⟨_, outcome⟩ | ⟨why, jammed, outcome⟩
    · rw [outcome, ending_buffered] at broken
      cases ends : breakage? reply <;> rw [ends] at broken <;> cases broken
    · rw [outcome] at broken
      cases broken
      exact jammed
  · intro jammed
    exact (relay_jammed jammed).1

theorem relay_readFailed_iff {reply : List Read} {s : Sink} {f : Fault} :
    (relay reply s).outcome = .readFailed f ↔
      breakage? reply = some f ∧ Copied s (received reply) (relay reply s).sink := by
  constructor
  · intro broken
    rcases relay_cases reply s with ⟨copied, outcome⟩ | ⟨why, _, outcome⟩
    · refine ⟨?_, copied⟩
      rw [outcome, ending_buffered] at broken
      cases ends : breakage? reply with
      | none => simp [ends] at broken
      | some g => simpa [ends] using broken
    · rw [outcome] at broken
      cases broken
  · rintro ⟨ends, copied⟩
    rw [(relay_copied copied).1, ending_buffered, ends]

theorem relay_total_iff {reply : List Read} {s : Sink} :
    (∃ n, (relay reply s).outcome = .total n) ↔
      breakage? reply = none ∧ Copied s (received reply) (relay reply s).sink := by
  constructor
  · rintro ⟨n, whole⟩
    rcases relay_cases reply s with ⟨copied, outcome⟩ | ⟨why, _, outcome⟩
    · refine ⟨?_, copied⟩
      rw [outcome, ending_buffered] at whole
      cases ends : breakage? reply with
      | none => rfl
      | some f => simp [ends] at whole
    · rw [outcome] at whole
      cases whole
  · rintro ⟨ends, copied⟩
    rw [(relay_copied copied).1, ending_buffered, ends]
    exact ⟨_, rfl⟩

end Handin.Relay
