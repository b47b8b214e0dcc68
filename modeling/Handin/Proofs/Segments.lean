import Handin.Proofs.Percent
import Handin.Url.Segments

namespace Handin.Url

/-- What may stand between the slashes of a path: some text that is no dot segment and that no
character drops out of. -/
structure Spellable (s : String) : Prop where
  ne_empty : s ≠ ""
  ne_dot : s ≠ "."
  ne_dots : s ≠ ".."
  tab_notMem : '\t' ∉ s.toList
  newline_notMem : '\n' ∉ s.toList
  return_notMem : '\r' ∉ s.toList

def pieces? (u : Url) : Option (List (List Char)) :=
  match u.pathText.toList with
  | '/' :: rest =>
    if rest.getLast? = some '/' then some (rest.dropLast.splitOn '/') else none
  | _ => none

def named? (u : Url) : Option (List String) := u.pieces?.bind (·.mapM decoded?)

def inPiece (special : Bool) : Char → Bool := if special then inSpecialSegment else inSegment

theorem inPiece_sign (special : Bool) : inPiece special '%' = true := by
  cases special <;> rfl

theorem inPiece_slash (special : Bool) : inPiece special '/' = true := by
  cases special <;> rfl

def reserved : List Char := [' ', '"', '<', '>', '`', '#', '?', '{', '}', '/', '%', '\\']

theorem mem_reserved {special : Bool} {c : Char} (encoded : inPiece special c = true) :
    c ∈ reserved := by
  cases special <;>
    simp only [inPiece, inSpecialSegment, inSegment, inPath, inFragment, Bool.or_eq_true,
      List.contains_iff_mem, beq_iff_eq, if_true, Bool.false_eq_true, if_false, reserved,
      List.mem_cons] at encoded ⊢ <;>
    grind

theorem segment_eq {s : String} (spelled : Spellable s) (special : Bool) :
    segment special s = percentEncode (inPiece special) s.toList := by
  have kept : (s.toList.filter fun c => c != '\t' && c != '\n' && c != '\r') = s.toList := by
    rw [List.filter_eq_self]
    intro c member
    have tab : c ≠ '\t' := fun same => spelled.tab_notMem (same ▸ member)
    have newline : c ≠ '\n' := fun same => spelled.newline_notMem (same ▸ member)
    have back : c ≠ '\r' := fun same => spelled.return_notMem (same ▸ member)
    simp [tab, newline, back]
  rw [segment, kept, inPiece]

theorem decoded?_segment {s : String} (spelled : Spellable s) (special : Bool) :
    decoded? (segment special s) = some s := by
  rw [segment_eq spelled, decoded?_encode (inPiece_sign special)]

theorem slash_notMem_segment {s : String} (spelled : Spellable s) (special : Bool) :
    '/' ∉ segment special s := by
  rw [segment_eq spelled]
  exact slash_notMem_percentEncode (inPiece_slash special) s.toList

theorem segment_ne {s t : String} {piece : List Char} (spelled : Spellable s) (special : Bool)
    (read : decoded? piece = some t) (other : s ≠ t) : segment special s ≠ piece := by
  intro same
  have whole := decoded?_segment spelled special
  rw [same, read] at whole
  exact other (Option.some.inj whole).symm

theorem segment_ne_nil {s : String} (spelled : Spellable s) (special : Bool) :
    segment special s ≠ [] :=
  segment_ne spelled special (by decide +kernel) spelled.ne_empty

/-- The segments that more are added to: a lone slash holds none. -/
def begun (list : List String) : List String := if list = [""] then [] else list

def Undriven (scheme s : String) : Prop :=
  scheme ≠ "file" ∨ isDrive (segment (isSpecialScheme scheme) s) = false

theorem push_eq {scheme s : String} (spelled : Spellable s) (undriven : Undriven scheme s)
    (list : List String) :
    push scheme list s = begun list ++ [String.ofList (segment (isSpecialScheme scheme) s)] := by
  have dot : segment (isSpecialScheme scheme) s ≠ ['.'] :=
    segment_ne spelled _ (by decide +kernel) spelled.ne_dot
  have dots : segment (isSpecialScheme scheme) s ≠ ['.', '.'] :=
    segment_ne spelled _ (by decide +kernel) spelled.ne_dots
  have drive (front : List String) : ¬ (scheme = "file" ∧ front = [] ∧
      isDrive (segment (isSpecialScheme scheme) s) = true) := by
    rintro ⟨file, _, letter⟩
    rcases undriven with other | plain
    · exact other file
    · rw [plain] at letter
      cases letter
  simp only [push, spelled.ne_dot, spelled.ne_dots, dot, dots, drive, or_self, if_false, begun]

theorem begun_push {scheme s : String} (spelled : Spellable s) (undriven : Undriven scheme s)
    (list : List String) :
    begun (push scheme list s) =
      begun list ++ [String.ofList (segment (isSpecialScheme scheme) s)] := by
  rw [push_eq spelled undriven]
  have filled := segment_ne_nil spelled (isSpecialScheme scheme)
  -- what was pushed is not empty, so the path is no lone slash
  apply if_neg
  intro lone
  have last := congrArg List.getLast? lone
  rw [List.getLast?_concat] at last
  have empty := congrArg String.toList (Option.some.inj last)
  rw [String.toList_ofList] at empty
  exact filled empty

theorem begun_foldl_push {scheme : String} {parts : List String}
    (spelled : ∀ s ∈ parts, Spellable s) (undriven : ∀ s ∈ parts, Undriven scheme s)
    (list : List String) :
    begun (parts.foldl (push scheme) list) =
      begun list ++ parts.map fun s => String.ofList (segment (isSpecialScheme scheme) s) := by
  induction parts generalizing list with
  | nil => simp
  | cons s rest ih =>
      have first := begun_push (spelled s List.mem_cons_self) (undriven s List.mem_cons_self) list
      have later := ih (fun t member => spelled t (List.mem_cons_of_mem s member))
        (fun t member => undriven t (List.mem_cons_of_mem s member))
      rw [List.foldl_cons, later, first, List.map_cons, List.append_assoc, List.singleton_append]

theorem push_empty (scheme : String) (list : List String) :
    push scheme list "" = begun list ++ [""] := by
  have empty (special : Bool) : segment special "" = [] := by
    cases special <;> rfl
  simp [push, empty, begun, isDrive]

theorem withSegments_elsewhere (u : Url) (parts : List String) :
    u.withSegments parts = { u with path := (u.withSegments parts).path } := by
  unfold withSegments
  split <;> rfl

def shown (special : Bool) (parts : List String) : List String :=
  parts.map (fun s => String.ofList (segment special s)) ++ [""]

/-- Setting a path replaces its segments, and nothing besides. -/
theorem withSegments_eq {u : Url} (other : u.scheme ≠ "file") (parted : u.isFlat = false) :
    ∃ guarded, ∀ parts, (∀ s ∈ parts, Spellable s) →
      u.withSegments parts = { u with path := .segments guarded (shown u.isSpecial parts) } := by
  have whole (list : List String) (lone : begun list = []) (parts : List String)
      (spelled : ∀ s ∈ parts, Spellable s) :
      (parts ++ [""]).foldl (push u.scheme) list = shown u.isSpecial parts := by
    rw [List.foldl_append, List.foldl_cons, List.foldl_nil, push_empty,
      begun_foldl_push spelled fun _ _ => .inl other, lone, List.nil_append, shown, isSpecial]
  cases path : u.path with
  | flat text =>
      rw [isFlat, path] at parted
      cases parted
  | segments guarded list =>
      refine ⟨guarded, fun parts spelled => ?_⟩
      cases list with
      | nil => simp only [withSegments, path, Path.cleared, whole [] rfl parts spelled]
      | cons => simp only [withSegments, path, Path.cleared, whole [""] rfl parts spelled]

theorem flatMap_mark (mark : Char) {pieces : List (List Char)} (filled : pieces ≠ []) :
    pieces.flatMap (mark :: ·) = mark :: [mark].intercalate pieces := by
  induction pieces with
  | nil => exact absurd rfl filled
  | cons piece rest ih =>
      cases rest with
      | nil => simp
      | cons next more =>
          rw [List.flatMap_cons, ih (List.cons_ne_nil _ _), List.intercalate_cons_cons]
          simp

theorem intercalate_append (mark : Char) {front back : List (List Char)} (filled : front ≠ [])
    (filled' : back ≠ []) : [mark].intercalate (front ++ back) =
      [mark].intercalate front ++ mark :: [mark].intercalate back := by
  have whole := flatMap_mark mark (List.append_ne_nil_of_left_ne_nil filled back)
  rw [List.flatMap_append, flatMap_mark mark filled, flatMap_mark mark filled'] at whole
  exact (List.cons.inj whole).2.symm

theorem toList_segmentsText (list : List String) :
    (segmentsText list).toList = list.flatMap fun s => '/' :: s.toList := by
  simp only [segmentsText, String.toList_join, List.flatMap_map, String.toList_append]
  rfl

theorem pieces?_shown {u : Url} {guarded special : Bool} {parts : List String}
    (path : u.path = .segments guarded (shown special parts)) (filled : parts ≠ [])
    (spelled : ∀ s ∈ parts, Spellable s) : u.pieces? = some (parts.map (segment special)) := by
  -- a slash within a piece would part it
  have clean : ∀ piece ∈ parts.map (segment special), '/' ∉ piece := by
    intro piece member
    obtain ⟨s, inside, rfl⟩ := List.mem_map.mp member
    exact slash_notMem_segment (spelled s inside) special
  have inhabited : parts.map (segment special) ≠ [] := by simpa using filled
  have text : u.pathText.toList =
      '/' :: (['/'].intercalate (parts.map (segment special)) ++ ['/']) := by
    rw [pathText, path, toList_segmentsText, shown, List.flatMap_append, List.flatMap_map]
    simp only [String.toList_ofList]
    rw [← List.flatMap_map, flatMap_mark '/' inhabited]
    rfl
  simp only [pieces?, text, List.getLast?_concat, List.dropLast_concat, if_true]
  rw [List.splitOn_intercalate '/' clean inhabited]

theorem named?_shown {u : Url} {guarded special : Bool} {parts : List String}
    (path : u.path = .segments guarded (shown special parts)) (filled : parts ≠ [])
    (spelled : ∀ s ∈ parts, Spellable s) : u.named? = some parts := by
  have read : ∀ (parts : List String), (∀ s ∈ parts, Spellable s) →
      (parts.map (segment special)).mapM decoded? = some parts := by
    intro parts
    induction parts with
    | nil => simp
    | cons s rest ih =>
        intro spelled
        have first := decoded?_segment (spelled s List.mem_cons_self) special
        have later := ih fun t member => spelled t (List.mem_cons_of_mem s member)
        simp [first, later]
  rw [named?, pieces?_shown path filled spelled, Option.bind_some, read parts spelled]

theorem pathText_of_text {u : Url} {guarded : Bool} {list list' : List String}
    (same : ({ u with path := .segments guarded list } : Url).text =
      ({ u with path := .segments guarded list' } : Url).text) :
    segmentsText list = segmentsText list' := by
  have chars := congrArg String.toList same
  apply String.toList_inj.mp
  simpa [text, rootText, tailText, Path.text, authorityText, String.toList_append] using chars

theorem withSegments_injective {u : Url} (other : u.scheme ≠ "file") (parted : u.isFlat = false)
    {parts parts' : List String} (filled : parts ≠ []) (filled' : parts' ≠ [])
    (spelled : ∀ s ∈ parts, Spellable s) (spelled' : ∀ s ∈ parts', Spellable s)
    (same : (u.withSegments parts).text = (u.withSegments parts').text) : parts = parts' := by
  obtain ⟨guarded, set⟩ := withSegments_eq other parted
  have left := named?_shown (congrArg Url.path (set parts spelled)) filled spelled
  have right := named?_shown (congrArg Url.path (set parts' spelled')) filled' spelled'
  have paths : (u.withSegments parts).pathText = (u.withSegments parts').pathText := by
    rw [set parts spelled, set parts' spelled'] at same ⊢
    exact pathText_of_text same
  have named : (u.withSegments parts).named? = (u.withSegments parts').named? := by
    simp only [named?, pieces?, paths]
  rw [left, right] at named
  exact Option.some.inj named

end Handin.Url
