import Mathlib.Logic.Relation
import Handin.Fault

namespace Handin.Fault

def wrapped? : Fault → Option Fault
  | wrapping _ inner => some inner
  | _ => none

/-- The source that a fault names. One that wraps another names the source of the other. -/
def source? : Fault → Option Fault
  | wrapping _ inner => inner.source?
  | remarkOn _ source => some source
  | _ => none

inductive Links (f g : Fault) : Prop
  | wrapped : f.wrapped? = some g → Links f g
  | source : f.source? = some g → Links f g

/-- One fault is another, or is what another wraps or its source, at any depth. -/
def Reaches : Fault → Fault → Prop := Relation.ReflTransGen Links

theorem reaches_alone {f h : Fault} (whole : f.wrapped? = none) (unsourced : f.source? = none) :
    f.Reaches h ↔ h = f := by
  constructor
  · intro reached
    rcases Relation.ReflTransGen.cases_head reached with same | ⟨g, link, _⟩
    · exact same.symm
    · cases link with
      | wrapped inner => simp [whole] at inner
      | source origin => simp [unsourced] at origin
  · rintro rfl
    exact .refl

theorem reaches_over {f g h : Fault} (link : Links f g)
    (others : ∀ g', Links f g' → g' = g ∨ Links g g') :
    f.Reaches h ↔ h = f ∨ g.Reaches h := by
  constructor
  · intro reached
    rcases Relation.ReflTransGen.cases_head reached with same | ⟨g', link', more⟩
    · exact .inl same.symm
    · rcases others g' link' with rfl | next
      · exact .inr more
      · exact .inr (.head next more)
  · rintro (rfl | reached)
    · exact .refl
    · exact .head link reached

theorem reaches_wrapping {kind : Kind} {inner h : Fault} :
    (wrapping kind inner).Reaches h ↔ h = wrapping kind inner ∨ inner.Reaches h := by
  apply reaches_over (.wrapped rfl)
  intro g' link
  cases link with
  | wrapped same => exact .inl (Option.some.inj same).symm
  | source origin => exact .inr (.source origin)

theorem reaches_remarkOn {text : String} {source h : Fault} :
    (remarkOn text source).Reaches h ↔ h = remarkOn text source ∨ source.Reaches h := by
  apply reaches_over (.source rfl)
  intro g' link
  cases link with
  | wrapped inner => cases inner
  | source same => exact .inl (Option.some.inj same).symm

theorem chain_eq (f : Fault) : f.chain = f :: f.chain.tail := by
  cases f <;> rfl

theorem mem_tail_chain_iff {f g : Fault} :
    g ∈ f.chain.tail ↔ ∃ text, f.Reaches (remarkOn text g) := by
  induction f with
  | bare kind => simp [chain, reaches_alone (f := bare kind) rfl rfl]
  | os code => simp [chain, reaches_alone (f := os code) rfl rfl]
  | remark text => simp [chain, reaches_alone (f := remark text) rfl rfl]
  | wrapping kind inner ih =>
      simp only [chain, List.tail_cons, reaches_wrapping, reduceCtorEq, false_or]
      exact ih
  | remarkOn text source ih =>
      rw [chain, List.tail_cons, chain_eq source, List.mem_cons, ih]
      simp only [reaches_remarkOn, remarkOn.injEq]
      constructor
      · rintro (rfl | ⟨other, reached⟩)
        · exact ⟨text, .inl ⟨rfl, rfl⟩⟩
        · exact ⟨other, .inr reached⟩
      · rintro ⟨other, ⟨_, same⟩ | reached⟩
        · exact .inl same
        · exact .inr ⟨other, reached⟩

theorem mem_chain_iff {f g : Fault} :
    g ∈ f.chain ↔ g = f ∨ ∃ text, f.Reaches (remarkOn text g) := by
  rw [chain_eq, List.mem_cons, mem_tail_chain_iff]

def met : Fault → List Fault
  | wrapping kind inner => wrapping kind inner :: inner.chain
  | f => f.chain

theorem isTimeout_eq (f : Fault) : f.isTimeout = f.met.any (·.kind == .timedOut) := by
  cases f with
  | wrapping kind inner => rfl
  | _ => simp [isTimeout, met, chain]

theorem mem_met_iff {f g : Fault} :
    g ∈ f.met ↔ g = f ∨ f.wrapped? = some g ∨ ∃ text, f.Reaches (remarkOn text g) := by
  cases f with
  | wrapping kind inner =>
      simp only [met, List.mem_cons, mem_chain_iff, wrapped?, Option.some.injEq, reaches_wrapping,
        reduceCtorEq, false_or, eq_comm (a := inner)]
  | _ => simp [met, mem_chain_iff, wrapped?]

theorem reaches_of_mem_met {f g : Fault} (member : g ∈ f.met) : f.Reaches g := by
  rcases mem_met_iff.mp member with rfl | inner | ⟨text, reached⟩
  · exact .refl
  · exact .single (.wrapped inner)
  · exact .tail reached (.source rfl)

/-- A fault is told for a timeout by one that it reaches: itself, the one it wraps, or the source of
a remark. A timeout that stands anywhere else, wrapped in a fault that is wrapped itself, is not
met. -/
theorem isTimeout_iff (f : Fault) :
    f.isTimeout = true ↔ ∃ g, f.Reaches g ∧ g.kind = .timedOut ∧
      (g = f ∨ f.wrapped? = some g ∨ ∃ text, f.Reaches (remarkOn text g)) := by
  rw [isTimeout_eq, List.any_eq_true]
  constructor
  · rintro ⟨g, member, late⟩
    exact ⟨g, reaches_of_mem_met member, beq_iff_eq.mp late, mem_met_iff.mp member⟩
  · rintro ⟨g, _, late, place⟩
    exact ⟨g, mem_met_iff.mpr place, beq_iff_eq.mpr late⟩

/-- A timeout within two wrappings is passed over. -/
theorem isTimeout_nested :
    (wrapping .other (wrapping .other (bare .timedOut))).isTimeout = false ∧
      (wrapping .other (wrapping .other (bare .timedOut))).Reaches (bare .timedOut) ∧
        (bare .timedOut).kind = .timedOut :=
  ⟨rfl, .head (.wrapped rfl) (.single (.wrapped rfl)), rfl⟩

end Handin.Fault
