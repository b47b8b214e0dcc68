import Handin.Proofs.Gating
import Handin.Proofs.Percent
import Handin.Proofs.Sink
import Handin.Proofs.Upload

/-! Reports of failures: one line each, whatever the service said. Only a name from the command line
that has a line feed of its own makes more of it, and such a name is refused before anything is
sent. -/

namespace Handin

namespace Text

def lineFeed : UInt8 := 0x0a

def IsLine (b : Bytes) : Prop := ∃ front, lineFeed ∉ front ∧ b = front ++ [lineFeed]

theorem isLine_append_iff {front : Bytes} : IsLine (front ++ [lineFeed]) ↔ lineFeed ∉ front := by
  constructor
  · rintro ⟨front', clean, same⟩
    rwa [List.append_cancel_right same]
  · intro clean
    exact ⟨front, clean, rfl⟩

theorem lineFeed_mem_append {s t : String} (clean : '\n' ∉ s.toList) :
    '\n' ∈ (s ++ t).toList ↔ '\n' ∈ t.toList := by
  rw [String.toList_append, List.mem_append, or_iff_right clean]

theorem lineFeed_mem_utf8_iff {s : String} : lineFeed ∈ utf8 s ↔ '\n' ∈ s.toList := by
  have byte : lineFeed = UInt8.ofNat '\n'.toNat := rfl
  have chars : utf8 s = s.toList.flatMap Url.charBytes := by
    rw [← Url.utf8_ofList, String.ofList_toList]
  rw [byte, chars, List.mem_flatMap]
  constructor
  · rintro ⟨c, member, inside⟩
    rwa [Url.eq_of_ascii_mem_charBytes (by decide) inside] at member
  · intro member
    refine ⟨'\n', member, ?_⟩
    rw [Url.charBytes_ascii (by decide)]
    exact List.mem_singleton.mpr rfl

theorem lineFeed_notMem_numeral {base : Nat} (two : 2 ≤ base) (most : base ≤ 16) (n : Nat) :
    '\n' ∉ numeral base n := by
  intro member
  obtain ⟨d, small, same⟩ := mem_numeral two member
  have read := digitValue?_digit (Nat.lt_of_lt_of_le small most)
  rw [← same] at read
  cases read

theorem lineFeed_notMem_escape (c : Char) : '\n' ∉ escape c := by
  have digits := lineFeed_notMem_numeral (by decide) (by decide : 16 ≤ 16) c.toNat
  by_cases same : c = '\n'
  · rw [same]
    decide +kernel
  · have other : '\n' ≠ c := fun equal => same equal.symm
    unfold escape
    repeat' split
    all_goals simp [digits, other]

theorem lineFeed_notMem_quoted (s : String) : '\n' ∉ (quoted s).toList := by
  rw [quoted, String.toList_ofList]
  intro member
  simp only [List.mem_cons, List.mem_append, List.mem_flatMap, List.not_mem_nil, or_false] at member
  rcases member with quote | ⟨c, _, inside⟩ | quote
  · cases quote
  · exact lineFeed_notMem_escape c inside
  · cases quote

end Text

namespace Failure

variable {f : Failure}

theorem utf8_report (program : String) (f : Failure) :
    Text.utf8 (f.report program) =
      Text.utf8 ("[" ++ program ++ "] " ++ f.message) ++ [Text.lineFeed] := by
  rw [report, reportLine, Text.utf8_append]
  rfl

theorem isLine_report_iff {program : String} (plain : '\n' ∉ program.toList) (f : Failure) :
    Text.IsLine (Text.utf8 (f.report program)) ↔ '\n' ∉ f.message.toList := by
  have brackets : '\n' ∉ "[".toList ∧ '\n' ∉ "] ".toList := by decide
  rw [utf8_report, Text.isLine_append_iff, Text.lineFeed_mem_utf8_iff]
  simp only [String.toList_append, List.mem_append, brackets.1, brackets.2, plain, false_or]

theorem plain_output (kind : Fault.Kind) : '\n' ∉ (output kind).message.toList := by
  have words : '\n' ∉ "Unable to write output".toList := by decide +kernel
  exact words

theorem plain_unsafeName (name : String) : '\n' ∉ (unsafeName name).message.toList := by
  have text : (unsafeName name).message =
      "Refusing unsafe file name from server: " ++ Text.quoted name := rfl
  have words : '\n' ∉ "Refusing unsafe file name from server: ".toList := by decide +kernel
  rw [text, Text.lineFeed_mem_append words]
  exact Text.lineFeed_notMem_quoted name

theorem plain_upload {names : List String} (clean : ∀ n ∈ names, '\n' ∉ n.toList) :
    '\n' ∉ (upload names).message.toList := by
  have text : (upload names).message = "Unable to upload file(s): " ++ " ".intercalate names := rfl
  have words : '\n' ∉ "Unable to upload file(s): ".toList := by decide +kernel
  rw [text, Text.lineFeed_mem_append words, String.toList_intercalate]
  intro member
  obtain ⟨part, among, inside⟩ := Text.mem_of_mem_intercalate member (by decide)
  obtain ⟨name, listed, rfl⟩ := List.mem_map.mp among
  exact clean name listed inside

theorem plain_timeout (seconds : Nat) : '\n' ∉ (timeout seconds).message.toList := by
  have text : (timeout seconds).message = "Unable to connect to server (timed out after " ++
      String.ofList (Text.decimal seconds) ++ "s)" := rfl
  have words : '\n' ∉ "Unable to connect to server (timed out after ".toList ∧
      '\n' ∉ "s)".toList := by decide +kernel
  have digits := Text.lineFeed_notMem_numeral (by decide) (by decide : 10 ≤ 16) seconds
  rw [text, String.toList_append, List.mem_append, or_iff_left words.2, String.toList_append,
    List.mem_append, or_iff_right words.1, String.toList_ofList]
  exact digits

end Failure

theorem Outcome.result_plain {files : List String} (clean : ∀ n ∈ files, '\n' ∉ n.toList)
    {timeout : Nat} {o : Outcome} {f : Failure} (failed : o.result files timeout = .error f) :
    '\n' ∉ f.message.toList := by
  cases o <;> cases failed
  case initFailed => decide +kernel
  case uploadFailed => exact Failure.plain_upload clean
  case unreachable => decide +kernel
  case timedOut => exact Failure.plain_timeout _
  case outputFailed kind => exact Failure.plain_output kind

/-- What is written when a failure of an invocation is reported. -/
structure Reported {σ : Type} (s : Scene σ) (i : Invocation) (out : Sink) (program : String)
    (f : Failure) : Prop where
  bytes_eq : Text.utf8 (f.report program) =
    Text.utf8 ("[" ++ program ++ "] " ++ f.message) ++ [Text.lineFeed]
  /-- A sink that takes a report, in whatever pieces, has taken these bytes. -/
  taken_eq (sink sink' : Sink) : sink.Delivered (Text.utf8 (f.report program)) sink' →
    sink'.taken = sink.taken ++ Text.utf8 (f.report program)
  isLine_iff : Text.IsLine (Text.utf8 (f.report program)) ↔
    ¬ ∃ role raw, i.Gives role raw ∧ '\n' ∈ raw.toList ∧
      f = .usage ("Invalid " ++ role ++ ": " ++ raw)
  early : ¬ Text.IsLine (Text.utf8 (f.report program)) →
    s.run i out = ⟨.error f, out, [], [], s.service⟩

namespace Scene

variable {σ : Type} {s : Scene σ} {i : Invocation}

theorem listed?_clean {names : List String} (listed : s.listed? i = some names) :
    ∀ n ∈ names, '\n' ∉ n.toList := by
  obtain ⟨query, _, listed⟩ := Option.bind_eq_some_iff.mp listed
  intro n member inside
  unfold Exchange.listed? at listed
  cases brought : Listing.ofExchange (s.reply query) with
  | error trouble =>
      rw [brought] at listed
      cases listed
  | ok found =>
      rw [brought] at listed
      cases listed
      have solid := ofExchange_solid brought member inside
      cases solid

theorem composed_clean {submission : Submission} (ready : s.composed i = .ok submission) :
    ∀ n ∈ submission.files, '\n' ∉ n.toList := by
  intro n member
  rw [composed_files ready] at member
  cases listed : s.listed? i with
  | none =>
      rw [listed] at member
      cases member
  | some names =>
      rw [listed, Option.getD_some] at member
      exact listed?_clean listed n member

theorem composed_plain {owner user : String} (accounts : s.accounts = ⟨.ok owner, .ok user⟩)
    {f : Failure} (refused : s.composed i = .error f) :
    i.names = .error f ∨ '\n' ∉ f.message.toList := by
  rcases bind_error refused with names | ⟨⟨course, assignment⟩, _, refused⟩
  · exact .inl names
  rcases bind_error refused with owned | ⟨_, _, refused⟩
  · rw [accounts] at owned
    cases owned
  rcases bind_error refused with files | ⟨_, _, refused⟩
  · rcases files_error files with rfl | ⟨bad, rfl⟩
    · exact .inr (by decide +kernel)
    · exact .inr (Failure.plain_unsafeName bad)
  rcases bind_error refused with used | ⟨_, _, refused⟩
  · rw [accounts] at used
    cases used
  · cases refused

theorem run_plain {owner user : String} (accounts : s.accounts = ⟨.ok owner, .ok user⟩) {out : Sink}
    {f : Failure} (failed : (s.run i out).result = .error f) :
    i.names = .error f ∨ '\n' ∉ f.message.toList := by
  generalize ran : s.run i out = t at failed
  cases went_of_run ran with
  | refused refused =>
      cases failed
      exact composed_plain accounts refused
  | printed ready dry =>
      obtain ⟨kind, rfl⟩ := print_error failed
      exact .inr (Failure.plain_output kind)
  | unattached ready _ _ =>
      cases failed
      exact .inr (Failure.plain_upload (composed_clean ready))
  | sent ready _ _ => exact .inr (Outcome.result_plain (composed_clean ready) failed)

theorem refused_spoilt_iff {role raw : String} (given : i.Gives role raw) :
    '\n' ∈ (Failure.usage ("Invalid " ++ role ++ ": " ++ raw)).message.toList ↔
      '\n' ∈ raw.toList := by
  have text : (Failure.usage ("Invalid " ++ role ++ ": " ++ raw)).message =
      "Invalid " ++ role ++ ": " ++ raw := rfl
  have words : '\n' ∉ ("Invalid " ++ role ++ ": ").toList := by
    cases given <;> decide +kernel
  rw [text, Text.lineFeed_mem_append words]

/-- Whatever the service lists or replies, the failure of an invocation is reported in one line,
unless a name that was given has a line feed. -/
theorem run_reported {owner user : String} (s : Scene σ)
    (accounts : s.accounts = ⟨.ok owner, .ok user⟩) {program : String}
    (plain : '\n' ∉ program.toList) (i : Invocation) (out : Sink) {f : Failure}
    (failed : (s.run i out).result = .error f) : Reported s i out program f := by
  have isLine := Failure.isLine_report_iff plain f
  have told := run_plain accounts failed
  constructor
  case bytes_eq => exact Failure.utf8_report program f
  case taken_eq =>
    intro sink sink' delivered
    exact (Sink.delivered_taken delivered).2
  case isLine_iff =>
    rw [isLine, not_iff_not]
    constructor
    · intro spoilt
      rcases told with refused | clean
      · rcases Invocation.names_error_cases refused with rfl | ⟨role, raw, given, rfl⟩
        · exact absurd spoilt (by decide +kernel)
        · exact ⟨role, raw, given, (refused_spoilt_iff given).mp spoilt, rfl⟩
      · exact absurd spoilt clean
    · rintro ⟨role, raw, given, member, rfl⟩
      exact (refused_spoilt_iff given).mpr member
  case early =>
    intro spoilt
    rw [isLine, not_not] at spoilt
    rcases told with refused | clean
    · exact refused_names refused out
    · exact absurd spoilt clean

theorem run_reported_small :
    ({ small with disk := ⟨fun _ => .absent .notFound⟩ }.run ⟨some "c1", some "a1", false⟩ {}).result =
        .error (.upload ["a.c", "b.h", "a.c"]) ∧
      Reported { small with disk := ⟨fun _ => .absent .notFound⟩ } ⟨some "c1", some "a1", false⟩ {}
        "casey" (.upload ["a.c", "b.h", "a.c"]) :=
  have failed : ({ small with disk := ⟨fun _ => .absent .notFound⟩ }.run
      ⟨some "c1", some "a1", false⟩ {}).result = .error (.upload ["a.c", "b.h", "a.c"]) := by
    decide +kernel
  ⟨failed, run_reported _ rfl (by decide +kernel) _ _ failed⟩

end Scene

end Handin
