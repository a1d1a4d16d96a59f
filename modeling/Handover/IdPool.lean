import Mathlib.Tactic

/-!
A bitmap of identifiers. They count from one, zero stands for none, and the lowest that
is free is the next to be given out. As long as exactly those that are held are marked and
none is held twice, neither giving out nor taking back changes that.
-/
namespace Handover.IdPool
universe u
variable {w : Nat}

/-- The lowest bit that is clear. -/
def lowest (marks : BitVec w) : Option Nat := (List.range w).find? (fun k => !marks.getLsbD k)

def mark (marks : BitVec w) (k : Nat) : BitVec w := marks ||| BitVec.twoPow w k

/-- The bitmap without the identifier, if it is one. -/
def release (marks : BitVec w) (id : Nat) : BitVec w :=
  if 0 < id then marks &&& ~~~BitVec.twoPow w (id - 1) else marks

theorem lowest_spec {marks : BitVec w} {k : Nat} (found : lowest marks = some k) : k < w ∧ marks.getLsbD k = false := by
  have isClear := List.find?_some found
  have member := List.mem_of_find?_eq_some found
  exact ⟨List.mem_range.mp member,by simpa using isClear⟩

theorem getLsbD_mark (marks : BitVec w) (k i : Nat) : (mark marks k).getLsbD i = (marks.getLsbD i || (k < w && k = i)) := by
  simp [mark,BitVec.getLsbD_twoPow]

theorem getLsbD_release {marks : BitVec w} {id i : Nat} (marked : marks.getLsbD i = true) (other : id ≠ i + 1) :
    (release marks id).getLsbD i = true := by
  have inside := BitVec.lt_of_getLsbD marked
  unfold release
  split
  · have apart : i ≠ id - 1 := by omega
    simp [marked,inside,apart]
  · exact marked

theorem of_getLsbD_release {marks : BitVec w} {id i : Nat} (marked : (release marks id).getLsbD i = true) :
    marks.getLsbD i = true ∧ id ≠ i + 1 := by
  unfold release at marked
  split at marked
  · simp only [BitVec.getLsbD_and,BitVec.getLsbD_not,BitVec.getLsbD_twoPow,Bool.and_eq_true,Bool.not_eq_true'] at marked
    obtain ⟨before,inside,kept⟩ := marked
    refine ⟨before,fun same => ?_⟩
    have cleared : id - 1 = i := by omega
    simp [cleared,of_decide_eq_true inside] at kept
  · exact ⟨marked,by omega⟩

variable {Owner : Type u}

/-- Whatever is held is marked, and has one holder. -/
structure Owned (marks : BitVec w) (held : Owner → Nat) : Prop where
  marked : ∀ a, held a ≠ 0 → marks.getLsbD (held a - 1) = true
  apart : ∀ a b, held a ≠ 0 → held a = held b → a = b

/-- The bitmap marks exactly what is held. -/
structure Allotted (marks : BitVec w) (held : Owner → Nat) : Prop extends Owned marks held where
  used : ∀ k, marks.getLsbD k = true → ∃ a, held a = k + 1

theorem allotted_none : Allotted (0 : BitVec w) (fun _ : Owner => 0) where
  marked := fun _ held => absurd rfl held
  apart := fun _ _ held => absurd rfl held
  used := fun k marked => absurd marked (by simp)

section
variable {marks : BitVec w} {held held' : Owner → Nat} {a : Owner}

/-- A holder without identifier takes the lowest that is free. -/
theorem Owned.take {k : Nat} (owned : Owned marks held) (free : lowest marks = some k) (isHeld : held' a = k + 1)
    (others : ∀ b, b ≠ a → held' b = held b) : Owned (mark marks k) held' := by
  obtain ⟨inside,isClear⟩ := lowest_spec free
  have unheld : ∀ b, held b ≠ k + 1 := by
    intro b taken
    have marked := owned.marked b (by omega)
    rw [taken,Nat.add_sub_cancel,isClear] at marked
    cases marked
  refine ⟨fun b some => ?_,fun b c some same => ?_⟩
  · rw [getLsbD_mark]
    by_cases isNew : b = a
    · subst isNew
      simp [isHeld,inside]
    · rw [others b isNew] at some ⊢
      simp [owned.marked b some]
  · by_cases isNew : b = a
    · by_cases isNew' : c = a
      · rw [isNew,isNew']
      · subst isNew
        exact absurd ((others c isNew').symm.trans (same.symm.trans isHeld)) (unheld c)
    · rw [others b isNew] at some same
      by_cases isNew' : c = a
      · subst isNew'
        exact absurd (same.trans isHeld) (unheld b)
      · rw [others c isNew'] at same
        exact owned.apart b c some same

/-- A holder gives its identifier back. -/
theorem Owned.give (owned : Owned marks held) (isNone : held' a = 0) (others : ∀ b, b ≠ a → held' b = held b) :
    Owned (release marks (held a)) held' := by
  have old : ∀ {b}, held' b ≠ 0 → b ≠ a ∧ held' b = held b := by
    intro b some
    have isOther : b ≠ a := fun isNew => some (isNew ▸ isNone)
    exact ⟨isOther,others b isOther⟩
  refine ⟨fun b some => ?_,fun b c some same => ?_⟩
  · obtain ⟨isOther,kept⟩ := old some
    rw [kept] at some ⊢
    refine getLsbD_release (owned.marked b some) (fun equal => isOther (owned.apart b a some ?_))
    omega
  · have some' : held' c ≠ 0 := same ▸ some
    rw [(old some).2] at same
    exact owned.apart b c ((old some).2 ▸ some) (same.trans (old some').2)

theorem Allotted.take {k : Nat} (allotted : Allotted marks held) (free : lowest marks = some k) (none : held a = 0)
    (isHeld : held' a = k + 1) (others : ∀ b, b ≠ a → held' b = held b) : Allotted (mark marks k) held' := by
  refine ⟨allotted.toOwned.take free isHeld others,fun i marked => ?_⟩
  simp only [getLsbD_mark,Bool.or_eq_true,Bool.and_eq_true,decide_eq_true_eq] at marked
  rcases marked with marked | ⟨_,rfl⟩
  · obtain ⟨b,holds⟩ := allotted.used i marked
    have isOther : b ≠ a := by
      rintro rfl
      omega
    exact ⟨b,(others b isOther).trans holds⟩
  · exact ⟨a,isHeld⟩

theorem Allotted.give (allotted : Allotted marks held) (isNone : held' a = 0) (others : ∀ b, b ≠ a → held' b = held b) :
    Allotted (release marks (held a)) held' := by
  refine ⟨allotted.toOwned.give isNone others,fun i marked => ?_⟩
  obtain ⟨before,isOther⟩ := of_getLsbD_release marked
  obtain ⟨b,holds⟩ := allotted.used i before
  have isOther : b ≠ a := by
    rintro rfl
    exact isOther holds
  exact ⟨b,(others b isOther).trans holds⟩

end
end Handover.IdPool
