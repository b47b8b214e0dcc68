import Handin.Proofs.Percent
import Handin.Proofs.Relay
import Handin.Proofs.Scene
import Handin.Proofs.Listing

namespace Handin

namespace Listing

open Relay

/-- The room is filled from what is delivered, whatever comes after it. If that leaves room, the
reply has to end. -/
theorem gather_eq {room : Nat} (some_room : 0 < room) (body : List Read) :
    gather room body =
      if room ≤ (delivered body).length then some ((delivered body).take room)
      else if breakage? body = none then some (delivered body) else none := by
  fun_induction gather room body with
  | case1 room => simp [delivered, chunks, breakage?]
  | case2 room rest => simp [delivered, chunks, breakage?]
  | case3 room b rest filled full =>
      obtain ⟨bytes, _⟩ := delivered_cons filled rest
      have within : room ≤ (b ++ delivered rest).length := by
        rw [List.length_append]
        omega
      rw [bytes, if_pos within, List.take_append_of_le_length full]
  | case4 room b rest filled more ih =>
      obtain ⟨bytes, ending⟩ := delivered_cons filled rest
      have front : (b ++ delivered rest).take room =
          b ++ (delivered rest).take (room - b.length) := by
        rw [List.take_append, List.take_of_length_le (by omega)]
      have fits : room ≤ (b ++ delivered rest).length ↔
          room - b.length ≤ (delivered rest).length := by
        rw [List.length_append]
        omega
      rw [ih (by omega), bytes, ending, front]
      simp only [fits]
      split
      · rfl
      · split <;> rfl
  | case5 room f rest interrupted ih =>
      simpa [delivered, chunks, breakage?, interrupted] using ih some_room
  | case6 room f rest final =>
      have empty : ¬ room ≤ (delivered (.fault f :: rest)).length := by
        simp [delivered, chunks, final]
        omega
      rw [if_neg empty]
      simp [breakage?, final]

theorem readReply_ok_iff {body : List Read} {text : String} :
    readReply body = .ok text ↔ breakage? body = none ∧ (delivered body).length ≤ maxLength ∧
      delivered body = Text.utf8 text := by
  unfold readReply
  rw [gather_eq (Nat.succ_pos maxLength)]
  by_cases long : maxLength + 1 ≤ (delivered body).length
  · have cut : maxLength < ((delivered body).take (maxLength + 1)).length := by
      rw [List.length_take]
      omega
    simp only [if_pos long, if_pos cut, reduceCtorEq, false_iff]
    omega
  · have short : (delivered body).length ≤ maxLength := by omega
    rw [if_neg long]
    by_cases ends : breakage? body = none
    · rw [if_pos ends]
      dsimp only
      rw [if_neg (Nat.not_lt.mpr short)]
      simp only [ends, short, true_and]
      constructor
      · intro read
        split at read
        · next s decoded =>
            cases read
            exact (Url.utf8_of_ofUtf8? decoded).symm
        · cases read
      · intro bytes
        rw [bytes, Text.ofUtf8?_utf8]
    · simp [ends]

end Listing

/-- An exchange brings a text that is all of a reply which reports success, ends and has at most
4096 bytes. -/
inductive Exchange.Brings : Exchange → String → Prop
  | whole {status : Nat} {body : List Read} {text : String} :
      200 ≤ status → status < 300 → Relay.breakage? body = none →
        (Relay.delivered body).length ≤ 4096 → Relay.delivered body = Text.utf8 text →
          Brings (.answered status body) text

namespace Exchange

theorem brings_iff {exchange : Exchange} {text : String} :
    exchange.Brings text ↔ ∃ status body, exchange = .answered status body ∧
      isSuccess status = true ∧ Listing.readReply body = .ok text := by
  constructor
  · rintro ⟨least, most, ends, short, bytes⟩
    refine ⟨_, _, rfl, ?_, Listing.readReply_ok_iff.mpr ⟨ends, short, bytes⟩⟩
    simp [isSuccess, least, most]
  · rintro ⟨status, body, rfl, success, read⟩
    obtain ⟨ends, short, bytes⟩ := Listing.readReply_ok_iff.mp read
    have range : 200 ≤ status ∧ status < 300 := by simpa [isSuccess] using success
    exact .whole range.1 range.2 ends short bytes

theorem listed?_of_brings {exchange : Exchange} {text : String} (brought : exchange.Brings text) :
    exchange.listed? = Listing.names? text := by
  obtain ⟨status, body, rfl, success, read⟩ := brings_iff.mp brought
  simp only [listed?, Listing.ofExchange, success, if_true, read]
  rfl

theorem brings_of_listed? {exchange : Exchange} {names : List String}
    (listed : exchange.listed? = some names) : ∃ text, exchange.Brings text := by
  cases exchange with
  | failed why => cases listed
  | answered status body =>
      simp only [listed?, Listing.ofExchange] at listed
      split at listed
      · next success =>
          cases read : Listing.readReply body with
          | error trouble =>
              rw [read] at listed
              cases listed
          | ok text => exact ⟨text, brings_iff.mpr ⟨status, body, rfl, success, read⟩⟩
      · cases listed

theorem listed?_recut {status : Nat} {body body' : List Read}
    (bytes : Relay.delivered body = Relay.delivered body')
    (ends : Relay.breakage? body = none ↔ Relay.breakage? body' = none) :
    (answered status body).listed? = (answered status body').listed? := by
  have read : Listing.readReply body = Listing.readReply body' := by
    unfold Listing.readReply
    simp only [Listing.gather_eq (Nat.succ_pos Listing.maxLength), bytes, ends]
  simp only [listed?, Listing.ofExchange, read]

end Exchange

namespace Scene

variable {σ : Type} (s : Scene σ)

def discovered (r : Record σ) (owner : String) (course assignment : Identifier) :
    Option (List String) :=
  ((s.client.discover s.world owner course assignment).run r).1

/-- What a client finds out, by the reply that it gets: the names in the whole of it, however the
reply is cut, or nothing, and then the invocation ends with that. -/
structure Discovers (owner : String) (course assignment : Identifier) : Prop where
  isSome_iff (r : Record σ) : (s.discovered r owner course assignment).isSome = true ↔
    ∃ text, (s.answer (s.client.listingRequest owner course assignment) r.service).1.Brings text ∧
      ∃ c ∈ text.toList, Text.isBlank c = false
  names_eq (r : Record σ) (text : String) :
    (s.answer (s.client.listingRequest owner course assignment) r.service).1.Brings text →
      s.discovered r owner course assignment = Listing.names? text
  recut {τ : Type} (r : Record σ) (s' : Scene τ) (r' : Record τ) (owner' : String)
    (course' assignment' : Identifier) (status : Nat) (body body' : List Read) :
    (s.answer (s.client.listingRequest owner course assignment) r.service).1 =
      .answered status body →
    (s'.answer (s'.client.listingRequest owner' course' assignment') r'.service).1 =
      .answered status body' →
    Relay.delivered body = Relay.delivered body' →
    (Relay.breakage? body = none ↔ Relay.breakage? body' = none) →
      s.discovered r owner course assignment = s'.discovered r' owner' course' assignment'
  run_none (i : Invocation) (out : Sink) : i.names = .ok (course, some assignment) →
    s.accounts.owner = .ok owner →
    s.discovered ⟨s.service, []⟩ owner course assignment = none →
      s.run i out = ⟨.error .discovery, out,
        [(s.client.listingRequest owner course assignment,
          s.reply (s.client.listingRequest owner course assignment))], [],
        (s.answer (s.client.listingRequest owner course assignment) s.service).2⟩

theorem discovered_eq (r : Record σ) (owner : String) (course assignment : Identifier) :
    s.discovered r owner course assignment =
      (s.answer (s.client.listingRequest owner course assignment) r.service).1.listed? :=
  (s.discover_run rfl r).1

theorem run_undiscovered {i : Invocation} {owner : String} {course assignment : Identifier}
    (named : i.names = .ok (course, some assignment)) (owned : s.accounts.owner = .ok owner)
    (unlisted : (s.reply (s.client.listingRequest owner course assignment)).listed? = none)
    (out : Sink) :
    s.run i out = ⟨.error .discovery, out,
      [(s.client.listingRequest owner course assignment,
        s.reply (s.client.listingRequest owner course assignment))], [],
      (s.answer (s.client.listingRequest owner course assignment) s.service).2⟩ := by
  have query : s.query? i = some (s.client.listingRequest owner course assignment) := by
    simp only [query?, named, owned]
  have files : s.files i = .error .discovery := by
    simp only [Scene.files, listed?, query, Option.bind_some, unlisted]
  have refused : s.composed i = .error .discovery := by
    simp only [composed, named, owned, files]
    rfl
  rw [s.run_refused refused out, asked, served, query]
  rfl

theorem discovers (owner : String) (course assignment : Identifier) :
    s.Discovers owner course assignment := by
  constructor
  case isSome_iff =>
    intro r
    rw [s.discovered_eq]
    constructor
    · intro found
      obtain ⟨names, listed⟩ := Option.isSome_iff_exists.mp found
      obtain ⟨text, brought⟩ := Exchange.brings_of_listed? listed
      rw [Exchange.listed?_of_brings brought] at found
      exact ⟨text, brought, names?_isSome_iff.mp found⟩
    · rintro ⟨text, brought, solid⟩
      rw [Exchange.listed?_of_brings brought]
      exact names?_isSome_iff.mpr solid
  case names_eq =>
    intro r text brought
    rw [s.discovered_eq, Exchange.listed?_of_brings brought]
  case recut =>
    intro τ r s' r' owner' course' assignment' status body body' reply reply' bytes ends
    rw [s.discovered_eq, s'.discovered_eq, reply, reply']
    exact Exchange.listed?_recut bytes ends
  case run_none =>
    intro i out named owned absent
    rw [s.discovered_eq] at absent
    exact s.run_undiscovered named owned absent out

end Scene

end Handin
