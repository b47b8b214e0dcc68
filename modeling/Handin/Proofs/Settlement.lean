import Handin.Proofs.Composed
import Handin.Proofs.Relay

/-! How a submission ends once it is sent: well, or with a failure that tells which side broke
first. The sink has by then what was delivered, no more and no less. -/

namespace Handin

def Exchange.delivered : Exchange → Bytes
  | failed _ => []
  | answered _ body => Relay.delivered body

namespace Outcome

variable {files : List String} {timeout : Nat} {o : Outcome}

theorem result_ok_iff : o.result files timeout = .ok () ↔ o = completed := by
  cases o <;> simp [result]

theorem result_output_iff {kind : Fault.Kind} :
    o.result files timeout = .error (.output kind) ↔ o = outputFailed kind := by
  cases o <;> simp [result]

theorem result_timeout_iff {seconds : Nat} :
    o.result files timeout = .error (.timeout seconds) ↔
      seconds = timeout / 1000 ∧ o = timedOut := by
  cases o <;> simp [result, eq_comm]

theorem result_transportInit_iff :
    o.result files timeout = .error .transportInit ↔ o = initFailed := by
  cases o <;> simp [result]

theorem result_upload_iff {names : List String} :
    o.result files timeout = .error (.upload names) ↔ names = files ∧ o = uploadFailed := by
  cases o <;> simp [result, eq_comm]

theorem result_connectivity_iff :
    o.result files timeout = .error .connectivity ↔ o = unreachable := by
  cases o <;> simp [result]

variable {why : SendFault}

theorem ofSendFault_timedOut_iff : ofSendFault files why = timedOut ↔ why.isLate = true := by
  grind [ofSendFault]

theorem ofSendFault_initFailed_iff :
    ofSendFault files why = initFailed ↔ why.isLate = false ∧ why.isUnsendable = true := by
  grind [ofSendFault]

theorem ofSendFault_uploadFailed_iff :
    ofSendFault files why = uploadFailed ↔
      why.isLate = false ∧ why.isUnsendable = false ∧ why.isUnconnected = false ∧
        why.isUpload = true ∧ files ≠ [] := by
  grind [ofSendFault]

theorem ofSendFault_unreachable_iff :
    ofSendFault files why = unreachable ↔
      why.isLate = false ∧ why.isUnsendable = false ∧
        (why.isUnconnected = true ∨ why.isUpload = false ∨ files = []) := by
  grind [ofSendFault]

theorem ofSendFault_ne_completed : ofSendFault files why ≠ completed := by
  grind [ofSendFault]

theorem ofSendFault_ne_outputFailed {kind : Fault.Kind} :
    ofSendFault files why ≠ outputFailed kind := by
  grind [ofSendFault]

variable {status : Nat} {r : Relay.Outcome}

theorem ofRelay_completed_iff :
    ofRelay status r = completed ↔ isSuccess status = true ∧ ∃ n, r = .total n := by
  cases r <;> grind [ofRelay]

theorem ofRelay_outputFailed_iff {kind : Fault.Kind} :
    ofRelay status r = outputFailed kind ↔ r = .writeFailed kind := by
  cases r <;> grind [ofRelay]

theorem ofRelay_timedOut_iff :
    ofRelay status r = timedOut ↔ ∃ f, f.isTimeout = true ∧ r = .readFailed f := by
  cases r <;> grind [ofRelay]

theorem ofRelay_unreachable_iff :
    ofRelay status r = unreachable ↔
      (isSuccess status = false ∧ ∃ n, r = .total n) ∨
        ∃ f, f.isTimeout = false ∧ r = .readFailed f := by
  cases r <;> grind [ofRelay]

theorem ofRelay_ne_initFailed : ofRelay status r ≠ initFailed := by
  cases r <;> grind [ofRelay]

theorem ofRelay_ne_uploadFailed : ofRelay status r ≠ uploadFailed := by
  cases r <;> grind [ofRelay]

end Outcome

/-- What a submission of `files` comes to, by what came of its request: the result `result` and the
sink `out'`. -/
structure Settled (files : List String) (timeout : Nat) (out : Sink) (exchange : Exchange)
    (result : Except Failure Unit) (out' : Sink) : Prop where
  ok_iff : result = .ok () ↔
    ∃ status body, exchange = .answered status body ∧ isSuccess status = true ∧
      Relay.breakage? body = none ∧ Relay.Copied out (Relay.received body) out'
  output_iff (kind : Fault.Kind) : result = .error (.output kind) ↔
    ∃ status body, exchange = .answered status body ∧
      Relay.Jammed out (Relay.received body) kind out'
  timeout_iff (seconds : Nat) : result = .error (.timeout seconds) ↔
    seconds = timeout / 1000 ∧
      ((∃ why, exchange = .failed why ∧ why.isLate = true) ∨
        ∃ status body f, exchange = .answered status body ∧ Relay.breakage? body = some f ∧
          f.isTimeout = true ∧ Relay.Copied out (Relay.received body) out')
  transportInit_iff : result = .error .transportInit ↔
    ∃ why, exchange = .failed why ∧ why.isLate = false ∧ why.isUnsendable = true
  upload_iff (names : List String) : result = .error (.upload names) ↔
    names = files ∧ ∃ why, exchange = .failed why ∧ why.isLate = false ∧
      why.isUnsendable = false ∧ why.isUnconnected = false ∧ why.isUpload = true ∧ files ≠ []
  connectivity_iff : result = .error .connectivity ↔
    (∃ why, exchange = .failed why ∧ why.isLate = false ∧ why.isUnsendable = false ∧
        (why.isUnconnected = true ∨ why.isUpload = false ∨ files = [])) ∨
      ∃ status body, exchange = .answered status body ∧
        Relay.Copied out (Relay.received body) out' ∧
        (isSuccess status = false ∧ Relay.breakage? body = none ∨
          ∃ f, Relay.breakage? body = some f ∧ f.isTimeout = false)
  front : ∃ front, front <+: exchange.delivered ∧ out'.taken = out.taken ++ front
  exact : (∀ kind, result ≠ .error (.output kind)) → out'.taken = out.taken ++ exchange.delivered

namespace Scene

theorem settle_failed (files : List String) (timeout : Nat) (out : Sink) (why : SendFault) :
    Settled files timeout out (.failed why) ((Outcome.ofSendFault files why).result files timeout)
      out where
  ok_iff := by simp [Outcome.result_ok_iff, Outcome.ofSendFault_ne_completed]
  output_iff kind := by simp [Outcome.result_output_iff, Outcome.ofSendFault_ne_outputFailed]
  timeout_iff seconds := by simp [Outcome.result_timeout_iff, Outcome.ofSendFault_timedOut_iff]
  transportInit_iff := by
    simp [Outcome.result_transportInit_iff, Outcome.ofSendFault_initFailed_iff]
  upload_iff names := by simp [Outcome.result_upload_iff, Outcome.ofSendFault_uploadFailed_iff]
  connectivity_iff := by
    simp [Outcome.result_connectivity_iff, Outcome.ofSendFault_unreachable_iff]
  front := ⟨[], List.nil_prefix, (List.append_nil _).symm⟩
  exact _ := (List.append_nil _).symm

theorem settle_answered (files : List String) (timeout : Nat) (out : Sink) (status : Nat)
    (body : List Read) :
    Settled files timeout out (.answered status body)
      ((Outcome.ofRelay status (relay body out).outcome).result files timeout)
      (relay body out).sink where
  ok_iff := by
    simp [Outcome.result_ok_iff, Outcome.ofRelay_completed_iff, Relay.relay_total_iff, and_assoc]
  output_iff kind := by
    simp [Outcome.result_output_iff, Outcome.ofRelay_outputFailed_iff, Relay.relay_writeFailed_iff,
      and_assoc]
  timeout_iff seconds := by
    simp [Outcome.result_timeout_iff, Outcome.ofRelay_timedOut_iff, Relay.relay_readFailed_iff,
      and_assoc, and_left_comm]
  transportInit_iff := by simp [Outcome.result_transportInit_iff, Outcome.ofRelay_ne_initFailed]
  upload_iff names := by simp [Outcome.result_upload_iff, Outcome.ofRelay_ne_uploadFailed]
  connectivity_iff := by
    simp [Outcome.result_connectivity_iff, Outcome.ofRelay_unreachable_iff,
      Relay.relay_readFailed_iff, Relay.relay_total_iff, and_assoc]
    grind
  front := by
    rcases Relay.relay_cases body out with ⟨copied, _⟩ | ⟨kind, jammed, _⟩
    · refine ⟨_, List.prefix_rfl, ?_⟩
      rw [Relay.copied_taken copied, Relay.received_flatten]
      rfl
    · obtain ⟨front, part, taken⟩ := Relay.jammed_taken jammed
      rw [Relay.received_flatten] at part
      exact ⟨front, part, taken⟩
  exact kept := by
    rcases Relay.relay_cases body out with ⟨copied, _⟩ | ⟨kind, _, outcome⟩
    · rw [Relay.copied_taken copied, Relay.received_flatten]
      rfl
    · have broken : Outcome.ofRelay status (relay body out).outcome = .outputFailed kind :=
        Outcome.ofRelay_outputFailed_iff.mpr outcome
      exact absurd (Outcome.result_output_iff.mpr broken) (kept kind)

theorem settle_settled (files : List String) (timeout : Nat) (out : Sink) (exchange : Exchange) :
    Settled files timeout out exchange ((settle files out exchange).1.result files timeout)
      (settle files out exchange).2 := by
  cases exchange with
  | failed why => exact settle_failed files timeout out why
  | answered status body => exact settle_answered files timeout out status body

/-- Once its submission is sent, an invocation ends as what comes of the submission tells. -/
theorem run_settled {σ : Type} (s : Scene σ) {i : Invocation} {out : Sink} {request : Request}
    {exchange : Exchange} (sent : (request, exchange) ∈ (s.run i out).exchanges)
    (submission : i.submits request) :
    Settled ((s.listed? i).getD []) s.client.timeout out exchange (s.run i out).result
      (s.run i out).out := by
  obtain ⟨present, rfl⟩ := sent_submission sent submission
  obtain ⟨composed, ready, wet, attached⟩ := sent?_some present
  have files : composed.files = (s.listed? i).getD [] := by
    rw [Submission.files, (composed_upload ready).1]
  rw [s.run_sent ready wet attached out, ← files]
  exact settle_settled composed.files s.client.timeout out _

theorem run_settled_small : ∃ request : Request,
    (request, .answered 200 [.data (Text.utf8 "a.c b.h a.c")]) ∈
        (small.run ⟨some "c1", none, false⟩ {}).exchanges ∧
      Settled [] 5000 {} (.answered 200 [.data (Text.utf8 "a.c b.h a.c")])
        (small.run ⟨some "c1", none, false⟩ {}).result (small.run ⟨some "c1", none, false⟩ {}).out :=
  have sent : (_, _) ∈ (small.run ⟨some "c1", none, false⟩ {}).exchanges :=
    List.mem_singleton.mpr rfl
  ⟨_, sent, small.run_settled sent rfl⟩

end Scene

end Handin
