import Handin.Listing
import Handin.Proofs.Words

namespace Handin

theorem names?_solid {reply : String} {names : List String}
    (read : Listing.names? reply = some names) {name : String} (member : name ∈ names) {c : Char}
    (inside : c ∈ name.toList) : Text.isBlank c = false := by
  unfold Listing.names? at read
  split at read
  · cases read
  · cases read
    obtain ⟨word, among, rfl⟩ := List.mem_map.mp member
    rw [String.toList_ofList] at inside
    exact Text.not_isBlank_of_mem_words among inside

theorem names?_isSome_iff {reply : String} :
    (Listing.names? reply).isSome = true ↔ ∃ c ∈ reply.toList, Text.isBlank c = false := by
  have blank : Text.words reply.toList = [] ↔ ∀ c ∈ reply.toList, Text.isBlank c = true :=
    Text.words_eq_nil_iff
  unfold Listing.names?
  split
  · next empty => simpa using blank.mp empty
  · next filled => simpa using mt blank.mpr filled

theorem ofExchange_solid {exchange : Exchange} {names : List String}
    (listed : Listing.ofExchange exchange = .ok (some names)) {name : String}
    (member : name ∈ names) {c : Char} (inside : c ∈ name.toList) : Text.isBlank c = false := by
  cases exchange with
  | failed why => cases listed
  | answered status body =>
      unfold Listing.ofExchange at listed
      dsimp only at listed
      split at listed
      · cases reply : Listing.readReply body with
        | error trouble =>
            rw [reply] at listed
            cases listed
        | ok text =>
            rw [reply] at listed
            exact names?_solid (Except.ok.inj listed) member inside
      · cases listed

structure Ordinary (name : String) : Prop where
  ne_empty : name ≠ ""
  ne_dot : name ≠ "."
  ne_dots : name ≠ ".."
  no_separator : ∀ c ∈ name.toList, c ≠ '/' ∧ c ≠ '\\' ∧ c.toNat ≠ 0

theorem isPlain_iff {name : String} : Listing.isPlain name = true ↔ Ordinary name := by
  simp only [Listing.isPlain, Bool.and_eq_true, bne_iff_ne, List.all_eq_true]
  constructor
  · rintro ⟨⟨⟨ne_empty, ne_dot⟩, ne_dots⟩, clean⟩
    exact ⟨ne_empty, ne_dot, ne_dots, fun c member => by simpa [and_assoc] using clean c member⟩
  · rintro ⟨ne_empty, ne_dot, ne_dots, clean⟩
    exact ⟨⟨⟨ne_empty, ne_dot⟩, ne_dots⟩, fun c member => by simpa [and_assoc] using clean c member⟩

end Handin
