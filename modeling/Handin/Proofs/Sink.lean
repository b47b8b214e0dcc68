import Handin.Sink

namespace Handin.Sink

theorem writeAll_ok {s s' : Sink} {b : Bytes} (written : s.writeAll b = (.ok (), s')) :
    s'.taken = s.taken ++ b := by
  fun_induction writeAll s b with
  | case1 s =>
      cases written
      simp
  | case2 s b filled step ih => simpa using ih written
  | case3 s b filled kind step => cases written
  | case4 s b filled step => cases written
  | case5 s b filled n step ih =>
      rw [ih written, taken_push, List.append_assoc, List.take_append_drop]

theorem writeAll_error {s s' : Sink} {b : Bytes} {kind : Fault.Kind}
    (broken : s.writeAll b = (.error kind, s')) :
    ∃ front back, back ≠ [] ∧ front ++ back = b ∧ s'.taken = s.taken ++ front := by
  fun_induction writeAll s b with
  | case1 s => cases broken
  | case2 s b filled step ih => exact ih broken
  | case3 s b filled why step =>
      cases broken
      exact ⟨[], b, filled, rfl, by simp⟩
  | case4 s b filled step =>
      cases broken
      exact ⟨[], b, filled, rfl, by simp⟩
  | case5 s b filled n step ih =>
      obtain ⟨front, back, more, whole, taken⟩ := ih broken
      refine ⟨b.take (n + 1) ++ front, back, more, ?_, ?_⟩
      · rw [List.append_assoc, whole, List.take_append_drop]
      · rw [taken, taken_push, List.append_assoc]

/-- Calls of `write` that hand bytes over piece by piece until the sink has taken them all. A call may
offer any piece from the front of what is left, be interrupted, and take a part of its piece. -/
inductive Delivered : Sink → Bytes → Sink → Prop
  | done (s : Sink) : Delivered s [] s
  | interrupted {s s' : Sink} {b : Bytes} {n : Nat} : 0 < n → n ≤ b.length →
      s.step n = .interrupted → Delivered s.skip b s' → Delivered s b s'
  | took {s s' : Sink} {b : Bytes} {n k : Nat} : 0 < n → n ≤ b.length → s.step n = .took (k + 1) →
      Delivered (s.push (b.take (k + 1))) (b.drop (k + 1)) s' → Delivered s b s'

/-- Calls of `write` as before, up to one that fails: with a fault, or by taking nothing. -/
inductive Stuck : Sink → Bytes → Fault.Kind → Sink → Prop
  | failed {s : Sink} {b : Bytes} {n : Nat} {kind : Fault.Kind} : 0 < n → n ≤ b.length →
      s.step n = .failed kind → Stuck s b kind s.skip
  | nothing {s : Sink} {b : Bytes} {n : Nat} : 0 < n → n ≤ b.length → s.step n = .took 0 →
      Stuck s b .writeZero s.skip
  | interrupted {s s' : Sink} {b : Bytes} {n : Nat} {kind : Fault.Kind} : 0 < n → n ≤ b.length →
      s.step n = .interrupted → Stuck s.skip b kind s' → Stuck s b kind s'
  | took {s s' : Sink} {b : Bytes} {n k : Nat} {kind : Fault.Kind} : 0 < n → n ≤ b.length →
      s.step n = .took (k + 1) → Stuck (s.push (b.take (k + 1))) (b.drop (k + 1)) kind s' →
        Stuck s b kind s'

def room? (s : Sink) : Option Nat :=
  if s.plan.maxWrite = some 0 then some 0 else s.plan.limit.map (· - s.size)

def refusal (s : Sink) : Fault.Kind :=
  match s.plan.limit, s.plan.full with
  | some _, .fault kind _ => kind
  | _, _ => .writeZero

theorem size_eq (s : Sink) : s.size = s.taken.length := by
  have sums (ps : List Bytes) : ps.foldr (fun b n => b.length + n) 0 = ps.flatten.length := by
    induction ps with
    | nil => rfl
    | cons b ps ih => rw [List.foldr_cons, ih, List.flatten_cons, List.length_append]
  rw [size, sums, taken]
  simp [List.length_flatten]

theorem room?_of_taken {s s' : Sink} {b : Bytes} (plan : s'.plan = s.plan)
    (taken : s'.taken = s.taken ++ b) : s'.room? = s.room?.map (· - b.length) := by
  have size : s'.size = s.size + b.length := by
    rw [size_eq, size_eq, taken, List.length_append]
  unfold room?
  rw [plan, size]
  by_cases shut : s.plan.maxWrite = some 0
  · simp [shut]
  · simp only [shut, if_false, Option.map_map]
    congr 1
    funext limit
    exact Nat.sub_add_eq limit s.size b.length

theorem room?_push (s : Sink) (b : Bytes) : (s.push b).room? = s.room?.map (· - b.length) :=
  room?_of_taken rfl (taken_push s b)

theorem step_took {s : Sink} {n k : Nat} (step : s.step n = .took (k + 1)) :
    k + 1 ≤ n ∧ ∀ room, s.room? = some room → k + 1 ≤ room := by
  unfold Sink.step at step
  unfold room?
  grind

theorem step_failed {s : Sink} {n : Nat} {kind : Fault.Kind} (offered : 0 < n)
    (step : s.step n = .failed kind) : s.room? = some 0 ∧ s.refusal = kind := by
  unfold Sink.step at step
  unfold room? refusal
  grind

theorem step_nothing {s : Sink} {n : Nat} (offered : 0 < n) (step : s.step n = .took 0) :
    s.room? = some 0 ∧ s.refusal = .writeZero := by
  unfold Sink.step at step
  unfold room? refusal
  grind

def Fits (s : Sink) (b : Bytes) : Prop := ∀ room, s.room? = some room → b.length ≤ room

/-- Bytes fit if the first of them do and the others fit into the room that is left. -/
theorem fits_append_iff {s s' : Sink} {a b : Bytes} (plan : s'.plan = s.plan)
    (taken : s'.taken = s.taken ++ a) (front : s.Fits a) : s.Fits (a ++ b) ↔ s'.Fits b := by
  unfold Fits at front ⊢
  rw [room?_of_taken plan taken, List.length_append]
  cases free : s.room? with
  | none => simp
  | some room =>
      have enough := front room free
      simp only [Option.map_some, Option.some.injEq, forall_eq']
      omega

theorem fits_push_iff {s : Sink} {b : Bytes} {k : Nat} (room : ∀ r, s.room? = some r → k ≤ r)
    (front : k ≤ b.length) : (s.push (b.take k)).Fits (b.drop k) ↔ s.Fits b := by
  have taken : (b.take k).length = k := List.length_take_of_le front
  have fits : s.Fits (b.take k) := fun r free => taken.symm ▸ room r free
  have plan : (s.push (b.take k)).plan = s.plan := rfl
  rw [← fits_append_iff plan (taken_push s (b.take k)) fits, List.take_append_drop]

theorem delivered_taken {s s' : Sink} {b : Bytes} (delivered : Delivered s b s') :
    s.Fits b ∧ s'.taken = s.taken ++ b := by
  induction delivered with
  | done s => exact ⟨fun _ _ => Nat.zero_le _, (List.append_nil _).symm⟩
  | interrupted _ _ _ _ ih => exact ih
  | took _ inside step _ ih =>
      obtain ⟨offered, room⟩ := step_took step
      obtain ⟨fits, taken⟩ := ih
      refine ⟨(fits_push_iff room (Nat.le_trans offered inside)).mp fits, ?_⟩
      rw [taken, taken_push, List.append_assoc, List.take_append_drop]

theorem stuck_taken {s s' : Sink} {b : Bytes} {kind : Fault.Kind} (stuck : Stuck s b kind s') :
    kind = s.refusal ∧ ∃ room, s.room? = some room ∧ room < b.length ∧
      s'.taken = s.taken ++ b.take room := by
  have shut {s : Sink} {b : Bytes} {n : Nat} (offered : 0 < n) (inside : n ≤ b.length)
      (full : s.room? = some 0) :
      ∃ room, s.room? = some room ∧ room < b.length ∧ s.skip.taken = s.taken ++ b.take room :=
    ⟨0, full, by omega, by simp⟩
  induction stuck with
  | failed offered inside step =>
      obtain ⟨full, refusal⟩ := step_failed offered step
      exact ⟨refusal.symm, shut offered inside full⟩
  | nothing offered inside step =>
      obtain ⟨full, refusal⟩ := step_nothing offered step
      exact ⟨refusal.symm, shut offered inside full⟩
  | interrupted _ _ _ _ ih => exact ih
  | @took s s' b n k kind _ inside step _ ih =>
      obtain ⟨offered, room⟩ := step_took step
      obtain ⟨refusal, left, free, short, taken⟩ := ih
      have front : k + 1 ≤ b.length := Nat.le_trans offered inside
      rw [room?_push, List.length_take_of_le front] at free
      obtain ⟨r, whole, rfl⟩ := Option.map_eq_some_iff.mp free
      have enough := room r whole
      rw [List.length_drop] at short
      refine ⟨refusal, r, whole, by omega, ?_⟩
      have parts : b.take (k + 1) ++ (b.drop (k + 1)).take (r - (k + 1)) = b.take r := by
        rw [← List.take_add, Nat.add_sub_cancel' enough]
      rw [taken, taken_push, List.append_assoc, parts]

theorem not_fits_of_stuck {s s' : Sink} {b : Bytes} {kind : Fault.Kind}
    (stuck : Stuck s b kind s') : ¬ s.Fits b := by
  obtain ⟨_, room, free, short, _⟩ := stuck_taken stuck
  intro fits
  have := fits room free
  omega

/-- A whole write is such a sequence of calls: each offers all that is left. -/
theorem writeAll_cases (s : Sink) (b : Bytes) :
    (∃ s', s.writeAll b = (.ok (), s') ∧ Delivered s b s') ∨
      ∃ kind s', s.writeAll b = (.error kind, s') ∧ Stuck s b kind s' := by
  fun_induction writeAll s b with
  | case1 s => exact .inl ⟨s, rfl, .done s⟩
  | case2 s b filled step ih =>
      have offered : 0 < b.length := List.length_pos_iff.mpr filled
      rcases ih with ⟨s', written, delivered⟩ | ⟨kind, s', written, stuck⟩
      · exact .inl ⟨s', written, .interrupted offered (Nat.le_refl _) step delivered⟩
      · exact .inr ⟨kind, s', written, .interrupted offered (Nat.le_refl _) step stuck⟩
  | case3 s b filled kind step =>
      have offered : 0 < b.length := List.length_pos_iff.mpr filled
      exact .inr ⟨kind, s.skip, rfl, .failed offered (Nat.le_refl _) step⟩
  | case4 s b filled step =>
      have offered : 0 < b.length := List.length_pos_iff.mpr filled
      exact .inr ⟨.writeZero, s.skip, rfl, .nothing offered (Nat.le_refl _) step⟩
  | case5 s b filled n step ih =>
      have offered : 0 < b.length := List.length_pos_iff.mpr filled
      rcases ih with ⟨s', written, delivered⟩ | ⟨kind, s', written, stuck⟩
      · exact .inl ⟨s', written, .took offered (Nat.le_refl _) step delivered⟩
      · exact .inr ⟨kind, s', written, .took offered (Nat.le_refl _) step stuck⟩

theorem writeAll_of_delivered {s s' : Sink} {b : Bytes} (delivered : Delivered s b s') :
    (s.writeAll b).1 = .ok () ∧ (s.writeAll b).2.taken = s'.taken := by
  obtain ⟨fits, taken⟩ := delivered_taken delivered
  -- the room decides, whatever the calls were
  rcases s.writeAll_cases b with ⟨s'', written, whole⟩ | ⟨kind, s'', _, stuck⟩
  · rw [written]
    exact ⟨rfl, (delivered_taken whole).2.trans taken.symm⟩
  · exact absurd fits (not_fits_of_stuck stuck)

theorem writeAll_of_stuck {s s' : Sink} {b : Bytes} {kind : Fault.Kind}
    (stuck : Stuck s b kind s') :
    (s.writeAll b).1 = .error kind ∧ (s.writeAll b).2.taken = s'.taken := by
  obtain ⟨refusal, room, free, _, taken⟩ := stuck_taken stuck
  rcases s.writeAll_cases b with ⟨s'', _, whole⟩ | ⟨kind', s'', written, stuck'⟩
  · exact absurd (delivered_taken whole).1 (not_fits_of_stuck stuck)
  · obtain ⟨refusal', room', free', _, taken'⟩ := stuck_taken stuck'
    have same : room' = room := Option.some.inj (free'.symm.trans free)
    rw [written, taken', taken, same, refusal', refusal]
    exact ⟨rfl, rfl⟩

end Handin.Sink
