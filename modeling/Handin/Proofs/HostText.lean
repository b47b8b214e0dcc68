import Handin.Proofs.Authority
import Handin.Proofs.Segments

namespace Handin.Url

open Text

namespace Ipv4

def bytes (address : Nat) : List (List Char) :=
  [3, 2, 1, 0].map fun i => decimal (address / Nat.pow 256 i % 256)

theorem isDigit_of_mem_bytes {address : Nat} {byte : List Char} (member : byte ∈ bytes address)
    {c : Char} (inside : c ∈ byte) : isDigit c = true := by
  obtain ⟨i, _, rfl⟩ := List.mem_map.mp member
  exact isDigit_of_mem_decimal inside

theorem mem_text {address : Nat} {c : Char} (member : c ∈ text address) :
    c = '.' ∨ isDigit c = true := by
  by_cases dot : c = '.'
  · exact .inl dot
  · obtain ⟨byte, inside, digit⟩ := mem_of_mem_intercalate member (by simpa using dot)
    exact .inr (isDigit_of_mem_bytes inside digit)

theorem splitOn_text (address : Nat) : (text address).splitOn '.' = bytes address := by
  apply List.splitOn_intercalate
  · intro byte member dot
    cases isDigit_of_mem_bytes member dot
  · exact List.cons_ne_nil _ _

theorem parts_text (address : Nat) : parts (text address) = bytes address := by
  unfold parts
  rw [splitOn_text]
  have last : (bytes address).getLast? ≠ some [] :=
    fun same => decimal_ne_nil _ (Option.some.inj same)
  exact if_neg last

theorem endsInNumber_text (address : Nat) : endsInNumber (text address) = true := by
  have digits : (decimal (address / Nat.pow 256 0 % 256)).all isDigit = true :=
    List.all_eq_true.mpr fun c member => isDigit_of_mem_decimal member
  have filled := decimal_ne_nil (address / Nat.pow 256 0 % 256)
  unfold endsInNumber
  rw [parts_text]
  simp [bytes, -Nat.pow_eq, digits, filled]

theorem text_injective {a b : Nat} (small : a < 256 ^ 4) (small' : b < 256 ^ 4)
    (same : text a = text b) : a = b := by
  have bytes : bytes a = bytes b := by
    rw [← splitOn_text, same, splitOn_text]
  have each (i : Nat) (place : i ∈ [3, 2, 1, 0]) :
      a / Nat.pow 256 i % 256 = b / Nat.pow 256 i % 256 :=
    numeral_inj (by decide) (by decide) (List.map_inj_left.mp bytes i place)
  have three := each 3 (by decide)
  have two := each 2 (by decide)
  have one := each 1 (by decide)
  have zero := each 0 (by decide)
  simp only [Nat.pow_eq] at three two one zero
  omega

theorem foldl_le {front : List Nat} (bytes : ∀ n ∈ front, n ≤ 255) (k acc : Nat)
    (few : k + front.length ≤ 4) :
    (front.zipIdx k).foldl (fun acc (n, i) => acc + n * Nat.pow 256 (3 - i)) acc +
      256 ^ (4 - (k + front.length)) ≤ acc + 256 ^ (4 - k) := by
  induction front generalizing k acc with
  | nil => exact Nat.le_refl _
  | cons n rest ih =>
      have count : k + (n :: rest).length = k + 1 + rest.length := by
        rw [List.length_cons]
        omega
      rw [count] at few
      have later := ih (fun m member => bytes m (List.mem_cons_of_mem n member)) (k + 1)
        (acc + n * Nat.pow 256 (3 - k)) few
      have next : 4 - (k + 1) = 3 - k := by omega
      have place : 256 ^ (4 - k) = 256 * 256 ^ (3 - k) := by
        rw [show 4 - k = 3 - k + 1 by omega, Nat.pow_succ']
      have value : n * 256 ^ (3 - k) ≤ 255 * 256 ^ (3 - k) :=
        Nat.mul_le_mul_right _ (bytes n List.mem_cons_self)
      rw [List.zipIdx_cons, List.foldl_cons, count, place]
      rw [next] at later
      simp only [Nat.pow_eq] at later ⊢
      omega

theorem parse?_lt {name : List Char} {address : Nat} (read : parse? name = some address) :
    address < 256 ^ 4 := by
  unfold parse? at read
  obtain ⟨numbers, _, read⟩ := Option.bind_eq_some_iff.mp read
  obtain ⟨last, _, read⟩ := Option.bind_eq_some_iff.mp read
  dsimp only at read
  split at read
  · cases read
  · next within =>
      cases read
      simp only [not_or, Bool.not_eq_true, List.any_eq_false, decide_eq_true_eq, not_lt,
        not_le] at within
      obtain ⟨few, bytes, room⟩ := within
      have bound := foldl_le bytes 0 last (by omega)
      simp only [Nat.zero_add, Nat.sub_zero] at bound
      simp only [Nat.pow_eq] at room
      omega

end Ipv4

namespace Ipv6

theorem mem_groupsText {groups : List Nat} {c : Char} (member : c ∈ groupsText groups) :
    c = ':' ∨ ∃ d < 16, c = digit d := by
  by_cases colon : c = ':'
  · exact .inl colon
  · obtain ⟨part, inside, written⟩ := mem_of_mem_intercalate member (by simpa using colon)
    obtain ⟨n, _, rfl⟩ := List.mem_map.mp inside
    exact .inr (mem_numeral (by decide) written)

theorem mem_text {groups : List Nat} {c : Char} (member : c ∈ text groups) :
    c = ':' ∨ ∃ d < 16, c = digit d := by
  unfold text at member
  split at member
  · exact mem_groupsText member
  · rcases List.mem_append.mp member with front | back
    · rcases List.mem_append.mp front with front | colons
      · exact mem_groupsText front
      · exact .inl (by simpa using colons)
    · exact mem_groupsText back

theorem parse?_length {cs : List Char} {groups : List Nat} (read : parse? cs = some groups) :
    groups.length = 8 := by
  unfold parse? at read
  split at read
  · obtain ⟨gs, _, read⟩ := Option.bind_eq_some_iff.mp read
    split at read
    · next eight =>
        cases read
        exact eight
    · cases read
  · next before after _ =>
      split at read
      · cases read
      · obtain ⟨front, _, read⟩ := Option.bind_eq_some_iff.mp read
        obtain ⟨back, _, read⟩ := Option.bind_eq_some_iff.mp read
        split at read
        · cases read
          simp
          omega
        · cases read

theorem take_zeros (groups : List Nat) :
    groups.take (zeros groups) = List.replicate (zeros groups) 0 := by
  have prefix' : groups.take (zeros groups) = groups.takeWhile (· == 0) :=
    (List.prefix_iff_eq_take.mp (List.takeWhile_prefix _)).symm
  rw [prefix', List.eq_replicate_iff]
  refine ⟨rfl, fun g member => ?_⟩
  simpa using List.mem_takeWhile_imp member

theorem zeros_of_longestRun {groups : List Nat} {i n : Nat} (run : longestRun groups = some (i, n)) :
    zeros (groups.drop i) = n := by
  have each : ∀ run ∈ longestRun groups, zeros (groups.drop run.1) = run.2 := by
    unfold longestRun
    apply List.foldlRecOn
      (motive := fun (best : Option (Nat × Nat)) => ∀ run ∈ best, zeros (groups.drop run.1) = run.2)
    · exact nofun
    · intro best kept i _ run better
      dsimp only at better
      split at better
      · cases better
        rfl
      · exact kept run better
  exact each (i, n) run

theorem eq_of_longestRun {groups : List Nat} {i n : Nat} (run : longestRun groups = some (i, n)) :
    groups = groups.take i ++ List.replicate n 0 ++ groups.drop (i + n) := by
  have zero := take_zeros (groups.drop i)
  rw [zeros_of_longestRun run] at zero
  rw [← zero, List.append_assoc, ← List.drop_drop, List.take_append_drop, List.take_append_drop]

def blocks (groups : List Nat) : List (List Char) :=
  if groups = [] then [[]] else groups.map (numeral 16)

theorem groupsText_eq (groups : List Nat) : groupsText groups = [':'].intercalate (blocks groups) := by
  unfold groupsText blocks
  split
  · next none =>
      rw [none]
      rfl
  · rfl

theorem colon_notMem_blocks {groups : List Nat} {block : List Char} (member : block ∈ blocks groups) :
    ':' ∉ block := by
  intro inside
  unfold blocks at member
  split at member
  · rw [List.mem_singleton.mp member] at inside
    cases inside
  · obtain ⟨n, _, rfl⟩ := List.mem_map.mp member
    obtain ⟨d, small, colon⟩ := mem_numeral (by decide) inside
    exact ne_digit rfl small colon

theorem blocks_ne_nil (groups : List Nat) : blocks groups ≠ [] := by
  unfold blocks
  split
  · exact List.cons_ne_nil _ _
  · next some => simpa using some

def allBlocks (groups : List Nat) : List (List Char) :=
  match longestRun groups with
  | none => blocks groups
  | some (i, n) => blocks (groups.take i) ++ ([[]] ++ blocks (groups.drop (i + n)))

theorem text_eq (groups : List Nat) : text groups = [':'].intercalate (allBlocks groups) := by
  unfold text allBlocks
  cases longestRun groups with
  | none => exact groupsText_eq groups
  | some run =>
      have front := blocks_ne_nil (groups.take run.1)
      have back := blocks_ne_nil (groups.drop (run.1 + run.2))
      dsimp only
      rw [groupsText_eq, groupsText_eq, intercalate_append ':' front (by simp),
        intercalate_append ':' (by simp) back]
      simp

theorem splitOn_text (groups : List Nat) : (text groups).splitOn ':' = allBlocks groups := by
  rw [text_eq]
  unfold allBlocks
  cases longestRun groups with
  | none => exact List.splitOn_intercalate ':' (fun _ => colon_notMem_blocks) (blocks_ne_nil groups)
  | some run =>
      refine List.splitOn_intercalate ':' (fun block member => ?_) (by simp)
      rcases List.mem_append.mp member with front | back
      · exact colon_notMem_blocks front
      · rcases List.mem_cons.mp back with rfl | back
        · exact nofun
        · exact colon_notMem_blocks back

theorem numeral_ne_nil (n : Nat) : numeral 16 n ≠ [] :=
  (value?_numeral (by decide) (by decide) n).1

theorem map_numeral_inj {groups groups' : List Nat}
    (same : groups.map (numeral 16) = groups'.map (numeral 16)) : groups = groups' :=
  (List.map_inj_right fun _ _ => numeral_inj (by decide) (by decide)).mp same

theorem blocks_of_ne_nil {groups : List Nat} (filled : groups ≠ []) :
    blocks groups = groups.map (numeral 16) ∧ [] ∉ blocks groups := by
  have blocks : blocks groups = groups.map (numeral 16) := if_neg filled
  refine ⟨blocks, ?_⟩
  rw [blocks]
  intro member
  obtain ⟨n, _, empty⟩ := List.mem_map.mp member
  exact numeral_ne_nil n empty

theorem blocks_reverse (groups : List Nat) : (blocks groups).reverse = blocks groups.reverse := by
  by_cases none : groups = []
  · rw [none]
    rfl
  · rw [(blocks_of_ne_nil none).1, (blocks_of_ne_nil (by simpa using none)).1, List.map_reverse]

theorem front_eq {front front' : List Nat} {back back' : List (List Char)}
    (same : blocks front ++ [] :: back = blocks front' ++ [] :: back') : front = front' := by
  have before (front : List Nat) (back : List (List Char)) :
      (blocks front ++ [] :: back).takeWhile (· ≠ []) = front.map (numeral 16) := by
    by_cases none : front = []
    · rw [none]
      rfl
    · obtain ⟨numerals, filled⟩ := blocks_of_ne_nil none
      have kept : ∀ block ∈ blocks front, decide (block ≠ []) = true := by
        intro block member
        have other : block ≠ [] := fun empty => filled (empty ▸ member)
        simpa using other
      rw [List.takeWhile_append_of_pos kept, ← numerals]
      simp
  apply map_numeral_inj
  rw [← before front back, same, before]

theorem back_eq {front front' : List (List Char)} {back back' : List Nat}
    (same : front ++ [] :: blocks back = front' ++ [] :: blocks back') : back = back' := by
  have mirrored := congrArg List.reverse same
  simp only [List.reverse_append, List.reverse_cons, blocks_reverse, List.append_assoc,
    List.singleton_append] at mirrored
  exact List.reverse_inj.mp (front_eq mirrored)

theorem nil_mem_allBlocks_iff {groups : List Nat} (filled : groups ≠ []) :
    [] ∈ allBlocks groups ↔ (longestRun groups).isSome = true := by
  unfold allBlocks
  cases longestRun groups with
  | none => simpa using (blocks_of_ne_nil filled).2
  | some run => simp

theorem eq_of_shortened {groups groups' : List Nat} (count : groups.length = groups'.length)
    {i n i' n' : Nat} (run : longestRun groups = some (i, n))
    (run' : longestRun groups' = some (i', n')) (front : groups.take i = groups'.take i')
    (back : groups.drop (i + n) = groups'.drop (i' + n')) : groups = groups' := by
  have whole := eq_of_longestRun run
  have whole' := eq_of_longestRun run'
  have parts := congrArg List.length whole
  have parts' := congrArg List.length whole'
  rw [← front, ← back] at whole' parts'
  simp only [List.length_append, List.length_replicate] at parts parts'
  have zeros : n = n' := by omega
  rw [whole, whole', zeros]

theorem text_injective {groups groups' : List Nat} (eight : groups.length = 8)
    (eight' : groups'.length = 8) (same : text groups = text groups') : groups = groups' := by
  have all : allBlocks groups = allBlocks groups' := by
    rw [← splitOn_text, same, splitOn_text]
  have filled : groups ≠ [] := List.ne_nil_of_length_pos (by omega)
  have filled' : groups' ≠ [] := List.ne_nil_of_length_pos (by omega)
  have shortened : (longestRun groups).isSome = true ↔ (longestRun groups').isSome = true := by
    rw [← nil_mem_allBlocks_iff filled, all, nil_mem_allBlocks_iff filled']
  unfold allBlocks at all
  cases run : longestRun groups with
  | none =>
      cases run' : longestRun groups' with
      | none =>
          rw [run, run'] at all
          apply map_numeral_inj
          rw [← (blocks_of_ne_nil filled).1, ← (blocks_of_ne_nil filled').1]
          exact all
      | some => simp [run, run'] at shortened
  | some =>
      cases run' : longestRun groups' with
      | none => simp [run, run'] at shortened
      | some =>
          rw [run, run'] at all
          exact eq_of_shortened (eight.trans eight'.symm) run run' (front_eq all) (back_eq all)

end Ipv6

theorem Domain.not_isForbidden {name out : List Char} (read : toAscii? name = some out) {c : Char}
    (member : c ∈ out) : isForbidden c = false := by
  have clean {ascii : List Char}
      (kept : (if ascii.any isForbidden then none else some ascii) = some out) :
      isForbidden c = false := by
    split at kept
    · cases kept
    · next absent =>
        cases kept
        apply Bool.eq_false_of_not_eq_true
        intro forbidden
        exact absent (List.any_eq_true.mpr ⟨c, member, forbidden⟩)
  unfold toAscii? at read
  dsimp only at read
  split at read
  · exact clean read
  · obtain ⟨ascii, _, kept⟩ := Option.bind_eq_some_iff.mp read
    exact clean kept

theorem Domain.not_isForbidden_of_digit {c : Char} (digit : (digitValue? c).isSome = true) :
    isForbidden c = false := by
  have range : 48 ≤ c.toNat ∧ c.toNat ≤ 102 := by
    have decimal : '0' ≤ c ∧ c ≤ '9' ↔ 48 ≤ c.toNat ∧ c.toNat ≤ 57 := Iff.rfl
    have small : 'a' ≤ c ∧ c ≤ 'f' ↔ 97 ≤ c.toNat ∧ c.toNat ≤ 102 := Iff.rfl
    have large : 'A' ≤ c ∧ c ≤ 'F' ↔ 65 ≤ c.toNat ∧ c.toNat ≤ 70 := Iff.rfl
    simp only [digitValue?, Bool.and_eq_true, decide_eq_true_eq, decimal, small, large] at digit
    repeat' split at digit
    all_goals first | omega | cases digit
  apply Bool.eq_false_of_not_eq_true
  intro forbidden
  simp only [isForbidden, Bool.or_eq_true, decide_eq_true_eq, beq_iff_eq, List.contains_iff_mem]
    at forbidden
  rcases forbidden with (low | last) | mark
  · omega
  · omega
  · simp only [List.mem_cons, List.not_mem_nil, or_false] at mark
    rcases mark with rfl | rfl | rfl | rfl | rfl | rfl | rfl | rfl | rfl | rfl | rfl | rfl | rfl <;>
      cases digit

namespace Host

/-- What a host is once it has been read: no name is taken for an address. -/
def Settled : Host → Prop
  | name s => Ipv4.endsInNumber s.toList = false ∧ ∀ c ∈ s.toList, Domain.isForbidden c = false
  | ipv4 address => address < 256 ^ 4
  | ipv6 groups => groups.length = 8

theorem settled_of_ofName {cs : List Char} {host : Host} (read : ofName cs = .ok host) :
    host.Settled := by
  unfold ofName at read
  split at read
  · unfold bracketed at read
    split at read
    · split at read
      · next groups parsed =>
          cases read
          exact Ipv6.parse?_length parsed
      · cases read
    · cases read
  · split at read
    · cases read
    · cases read
    · next ascii _ named =>
        obtain ⟨s, _, shown⟩ := Option.bind_eq_some_iff.mp named
        split at read
        · split at read
          · next address parsed =>
              cases read
              exact Ipv4.parse?_lt parsed
          · cases read
        · next other =>
            cases read
            refine ⟨?_, fun c member => ?_⟩
            · rw [String.toList_ofList]
              exact Bool.eq_false_of_not_eq_true other
            · rw [String.toList_ofList] at member
              exact Domain.not_isForbidden shown member

/-- Only an address of groups has brackets and colons; no host has anything else that is forbidden. -/
theorem forbidden_mem_text {host : Host} (settled : host.Settled) {c : Char}
    (forbidden : Domain.isForbidden c = true) (member : c ∈ host.text.toList) :
    (∃ groups, host = ipv6 groups) ∧ c ∈ ['[', ':', ']'] := by
  have other (digit : (digitValue? c).isSome = true) : False := by
    rw [Domain.not_isForbidden_of_digit digit] at forbidden
    cases forbidden
  cases host with
  | name s =>
      rw [settled.2 c member] at forbidden
      cases forbidden
  | ipv4 address =>
      rw [text, String.toList_ofList] at member
      rcases Ipv4.mem_text member with rfl | digit
      · cases forbidden
      · rw [digitValue?_of_isDigit digit] at other
        exact (other rfl).elim
  | ipv6 groups =>
      refine ⟨⟨groups, rfl⟩, ?_⟩
      rw [text, String.toList_ofList] at member
      simp only [List.mem_cons, List.mem_append, List.not_mem_nil, or_false] at member ⊢
      rcases member with opening | group | closing
      · exact .inl opening
      · rcases Ipv6.mem_text group with colon | ⟨d, small, rfl⟩
        · exact .inr (.inl colon)
        · rw [digitValue?_digit small] at other
          exact (other rfl).elim
      · exact .inr (.inr closing)

theorem bracket_mem_text_iff {host : Host} (settled : host.Settled) :
    '[' ∈ host.text.toList ↔ ∃ groups, host = ipv6 groups := by
  constructor
  · exact fun member => (forbidden_mem_text settled rfl member).1
  · rintro ⟨groups, rfl⟩
    rw [text, String.toList_ofList]
    exact List.mem_cons_self

theorem text_ipv6 (groups : List Nat) :
    (ipv6 groups).text = String.ofList ('[' :: Ipv6.text groups) ++ "]" := by
  apply String.toList_inj.mp
  simp [text]

theorem closing_notMem (groups : List Nat) :
    ']' ∉ (String.ofList ('[' :: Ipv6.text groups)).toList := by
  rw [String.toList_ofList]
  intro member
  rcases List.mem_cons.mp member with opening | group
  · exact absurd opening (by decide)
  · rcases Ipv6.mem_text group with colon | ⟨d, small, digit⟩
    · exact absurd colon (by decide)
    · exact ne_digit rfl small digit

theorem name_ne_ipv4 {s : String} {address : Nat} (settled : (name s).Settled) :
    (name s).text ≠ (ipv4 address).text := by
  intro same
  have chars := congrArg String.toList same
  rw [text, text, String.toList_ofList] at chars
  have number := settled.1
  rw [chars, Ipv4.endsInNumber_text] at number
  cases number

theorem text_injective {host host' : Host} (settled : host.Settled) (settled' : host'.Settled)
    (same : host.text = host'.text) : host = host' := by
  have kind : (∃ groups, host = ipv6 groups) ↔ ∃ groups, host' = ipv6 groups := by
    rw [← bracket_mem_text_iff settled, same, bracket_mem_text_iff settled']
  cases host with
  | name s =>
      cases host' with
      | name s' => exact congrArg name same
      | ipv4 address => exact absurd same (name_ne_ipv4 settled)
      | ipv6 groups => simp at kind
  | ipv4 address =>
      cases host' with
      | name s => exact absurd same.symm (name_ne_ipv4 settled')
      | ipv4 address' =>
          have chars := String.ofList_inj.mp same
          exact congrArg ipv4 (Ipv4.text_injective settled settled' chars)
      | ipv6 groups => simp at kind
  | ipv6 groups =>
      cases host' with
      | name s => simp at kind
      | ipv4 address => simp at kind
      | ipv6 groups' =>
          have chars := (List.cons.inj (String.ofList_inj.mp same)).2
          exact congrArg ipv6 (Ipv6.text_injective settled settled' (List.append_cancel_right chars))

end Host

end Handin.Url
