import Mathlib.Tactic

/-!
A register of holders: everyone is entered under a key at most once, may be replaced there
by another or take itself out, and is then announced as gone. Whoever is replaced is in
the hands of the one who does it until he is announced; whoever leaves is first queued.
In every reachable state each holder is in exactly one place, and so each is announced
once at most, and is not registered any more then.
-/
namespace Handover
universe u v

/-- Who is still to be entered, who is entered, who was replaced, who leaves, who waits to
    be announced and who has been. -/
@[ext] structure Register (Key : Type u) (Id : Type v) where
  fresh : Id → Bool
  active : Key → Option Id
  replaced : Option Id
  leaving : Id → Bool
  queued : List Id
  told : List Id

namespace Register
variable {Key : Type u} {Id : Type v} [DecidableEq Id] (key : Id → Key)

/-- The places at which the holder is. -/
def places (r : Register Key Id) (i : Id) : Nat :=
  (r.fresh i).toNat + (if r.active (key i) = some i then 1 else 0) + (if r.replaced = some i then 1 else 0) +
    (r.leaving i).toNat + r.queued.count i + r.told.count i

/-- What can happen to a register, one thing at a time. -/
inductive Step [DecidableEq Key] (r : Register Key Id) : Register Key Id → Prop where
  | put {i : Id} (isFresh : r.fresh i = true) (isNew : r.active (key i) = none) :
    Step r { r with
      fresh := Function.update r.fresh i false
      active := Function.update r.active (key i) (some i) }
  | replace {i old : Id} (isFresh : r.fresh i = true) (isActive : r.active (key i) = some old) (none_ : r.replaced = none) :
    Step r { r with
      fresh := Function.update r.fresh i false
      active := Function.update r.active (key i) (some i)
      replaced := some old }
  | evict {old : Id} (isOld : r.replaced = some old) : Step r { r with replaced := none, told := r.told ++ [old] }
  | remove {i : Id} (isActive : r.active (key i) = some i) :
    Step r { r with
      active := Function.update r.active (key i) none
      leaving := Function.update r.leaving i true }
  | report {i : Id} (leaves : r.leaving i = true) :
    Step r { r with leaving := Function.update r.leaving i false, queued := r.queued ++ [i] }
  | tell {i : Id} {rest : List Id} (isNext : r.queued = i :: rest) : Step r { r with queued := rest, told := r.told ++ [i] }

/-- Everyone is in one place, and entered under his own key. -/
structure Exact (r : Register Key Id) : Prop where
  own : ∀ k i, r.active k = some i → key i = k
  one : ∀ i, r.places key i = 1

variable {key} {r r' : Register Key Id}

/-- Whoever is entered is at no other place. -/
theorem Exact.of_active (exactly : r.Exact key) {i : Id} (isActive : r.active (key i) = some i) :
    r.fresh i = false ∧ r.replaced ≠ some i ∧ r.leaving i = false ∧ i ∉ r.queued ∧ i ∉ r.told := by
  have one := exactly.one i
  rw [places,if_pos isActive] at one
  have isOld : ¬ (r.replaced = some i) := by
    intro isOld
    rw [if_pos isOld] at one
    omega
  refine ⟨?_,isOld,?_,List.count_eq_zero.mp (by omega),List.count_eq_zero.mp (by omega)⟩
  · exact Bool.toNat_eq_zero.mp (by omega)
  · exact Bool.toNat_eq_zero.mp (by omega)

theorem Exact.of_fresh (exactly : r.Exact key) {i : Id} (isFresh : r.fresh i = true) :
    r.active (key i) ≠ some i ∧ r.replaced ≠ some i ∧ r.leaving i = false ∧ i ∉ r.queued ∧ i ∉ r.told := by
  have one := exactly.one i
  rw [places,isFresh,Bool.toNat_true] at one
  have notActive : ¬ (r.active (key i) = some i) := by
    intro isActive
    rw [if_pos isActive] at one
    omega
  have notOld : ¬ (r.replaced = some i) := by
    intro isOld
    rw [if_pos isOld] at one
    omega
  exact ⟨notActive,notOld,Bool.toNat_eq_zero.mp (by omega),List.count_eq_zero.mp (by omega),List.count_eq_zero.mp (by omega)⟩

section
variable [DecidableEq Key] {i old : Id}

theorem own_put (exactly : r.Exact key) {k : Key} {j : Id} (isActive : Function.update r.active (key i) (some i) k = some j) :
    key j = k := by
  by_cases isKey : k = key i
  · subst isKey
    rw [Function.update_self] at isActive
    cases isActive
    rfl
  · rw [Function.update_of_ne isKey] at isActive
    exact exactly.own k j isActive

theorem places_put (isFresh : r.fresh i = true) (isNew : r.active (key i) = none) (j : Id) :
    places key { r with
      fresh := Function.update r.fresh i false
      active := Function.update r.active (key i) (some i) } j = r.places key j := by
  unfold places
  dsimp only
  by_cases same : j = i
  · subst same
    simp [isFresh,isNew]
  · by_cases sameKey : key j = key i
    · simp [same,sameKey,isNew,Ne.symm same]
    · simp [same,sameKey]

theorem places_replace (exactly : r.Exact key) (isFresh : r.fresh i = true) (isActive : r.active (key i) = some old)
    (none_ : r.replaced = none) (j : Id) :
    places key { r with
      fresh := Function.update r.fresh i false
      active := Function.update r.active (key i) (some i)
      replaced := some old } j = r.places key j := by
  have oldKey := exactly.own _ _ isActive
  have other : old ≠ i := by
    rintro rfl
    exact (exactly.of_fresh isFresh).1 isActive
  unfold places
  dsimp only
  by_cases isOld : j = old
  · subst isOld
    simp [other,oldKey,isActive,none_,Ne.symm other]
  · by_cases same : j = i
    · subst same
      simp [isFresh,isActive,none_,other]
    · by_cases sameKey : key j = key i
      · simp [same,sameKey,isActive,none_,Ne.symm same,Ne.symm isOld]
      · simp [same,sameKey,none_,Ne.symm isOld]

theorem places_remove (exactly : r.Exact key) (isActive : r.active (key i) = some i) (j : Id) :
    places key { r with
      active := Function.update r.active (key i) none
      leaving := Function.update r.leaving i true } j = r.places key j := by
  have stays := (exactly.of_active isActive).2.2.1
  unfold places
  dsimp only
  by_cases same : j = i
  · subst same
    simp [isActive,stays]
    omega
  · by_cases sameKey : key j = key i
    · simp [same,sameKey,isActive,Ne.symm same]
    · simp [same,sameKey]

/-- Whatever happens, everyone stays in one place. -/
theorem Exact.step (exactly : r.Exact key) (steps : Step key r r') : r'.Exact key := by
  cases steps with
  | put isFresh isNew =>
    exact ⟨fun k j => own_put exactly,fun j => (places_put isFresh isNew j).trans (exactly.one j)⟩
  | replace isFresh isActive none_ =>
    exact ⟨fun k j => own_put exactly,fun j => (places_replace exactly isFresh isActive none_ j).trans (exactly.one j)⟩
  | @evict old isOld =>
    refine ⟨exactly.own,fun j => ?_⟩
    have one := exactly.one j
    unfold places at one ⊢
    by_cases same : j = old
    · subst same
      simp [isOld] at one ⊢
      omega
    · simp [isOld,Ne.symm same] at one ⊢
      exact one
  | @remove i isActive =>
    refine ⟨fun k j isOther => ?_,fun j => (places_remove exactly isActive j).trans (exactly.one j)⟩
    by_cases isKey : k = key i
    · subst isKey
      simp at isOther
    · dsimp only at isOther
      rw [Function.update_of_ne isKey] at isOther
      exact exactly.own k j isOther
  | @report i leaves =>
    refine ⟨exactly.own,fun j => ?_⟩
    have one := exactly.one j
    unfold places at one ⊢
    by_cases same : j = i
    · subst same
      simp [leaves] at one ⊢
      omega
    · simp [same,Ne.symm same] at one ⊢
      exact one
  | @tell i rest isNext =>
    refine ⟨exactly.own,fun j => ?_⟩
    have one := exactly.one j
    unfold places at one ⊢
    by_cases same : j = i
    · subst same
      simp [isNext] at one ⊢
      omega
    · simp [isNext,Ne.symm same] at one ⊢
      exact one

end

/-- The holder is neither still to come nor entered. -/
structure Out (key : Id → Key) (r : Register Key Id) (i : Id) : Prop where
  fresh : r.fresh i = false
  active : r.active (key i) ≠ some i

/-- No one comes back. -/
theorem Out.step [DecidableEq Key] {i : Id} (out : Out key r i) (steps : Step key r r') : Out key r' i := by
  obtain ⟨fresh,active⟩ := out
  have put : ∀ {j : Id}, r.fresh j = true →
      Function.update r.fresh j false i = false ∧ Function.update r.active (key j) (some j) (key i) ≠ some i := by
    intro j isFresh
    have other : i ≠ j := by
      rintro rfl
      exact absurd (isFresh.symm.trans fresh) (by simp)
    refine ⟨by simp [other,fresh],?_⟩
    by_cases sameKey : key i = key j
    · simp [sameKey,Ne.symm other]
    · rwa [Function.update_of_ne sameKey]
  cases steps with
  | put isFresh isNew => exact ⟨(put isFresh).1,(put isFresh).2⟩
  | replace isFresh isActive none_ => exact ⟨(put isFresh).1,(put isFresh).2⟩
  | @remove j isActive =>
    refine ⟨fresh,?_⟩
    dsimp only
    by_cases sameKey : key i = key j
    · simp [sameKey]
    · rwa [Function.update_of_ne sameKey]
  | _ => exact ⟨fresh,active⟩

/-- The holder is neither still to come nor entered, nor about to leave. -/
structure Departed (key : Id → Key) (r : Register Key Id) (i : Id) : Prop extends Out key r i where
  leaving : r.leaving i = false

theorem Departed.step [DecidableEq Key] {i : Id} (departed : Departed key r i) (steps : Step key r r') : Departed key r' i := by
  refine ⟨departed.toOut.step steps,?_⟩
  cases steps with
  | @remove j isActive =>
    have other : i ≠ j := by
      rintro rfl
      exact departed.active isActive
    simp [other,departed.leaving]
  | @report j leaves =>
    dsimp only
    rw [Function.update_apply]
    split
    · rfl
    · exact departed.leaving
  | _ => exact departed.leaving

/-- Whoever is replaced, queued or announced has departed. -/
theorem Exact.departed (exactly : r.Exact key) {i : Id} (gone : r.replaced = some i ∨ i ∈ r.queued ∨ i ∈ r.told) :
    Departed key r i := by
  have one := exactly.one i
  unfold places at one
  have some_ : 1 ≤ (if r.replaced = some i then 1 else 0) + r.queued.count i + r.told.count i := by
    rcases gone with isOld | queued | told
    · rw [if_pos isOld]
      omega
    · have := List.count_pos_iff.mpr queued
      omega
    · have := List.count_pos_iff.mpr told
      omega
  refine ⟨⟨Bool.toNat_eq_zero.mp (by omega),fun isActive => ?_⟩,Bool.toNat_eq_zero.mp (by omega)⟩
  rw [if_pos isActive] at one
  omega

/-- Whoever is about to leave is not entered. -/
theorem Exact.out (exactly : r.Exact key) {i : Id} (leaves : r.leaving i = true) : Out key r i := by
  have one := exactly.one i
  rw [places,leaves,Bool.toNat_true] at one
  refine ⟨Bool.toNat_eq_zero.mp (by omega),fun isActive => ?_⟩
  rw [if_pos isActive] at one
  omega

/-- Whoever has come, has not left and is not replaced is entered. -/
theorem Exact.active (exactly : r.Exact key) {i : Id} (isKnown : r.fresh i = false) (notReplaced : r.replaced ≠ some i)
    (stays : r.leaving i = false) (notQueued : i ∉ r.queued) (notTold : i ∉ r.told) : r.active (key i) = some i := by
  have one := exactly.one i
  rw [places,isKnown,if_neg notReplaced,stays,List.count_eq_zero.mpr notQueued,List.count_eq_zero.mpr notTold] at one
  by_contra notActive
  rw [if_neg notActive] at one
  simp at one

/-- No one is announced twice. -/
theorem Exact.nodup (exactly : r.Exact key) : (r.told ++ r.queued).Nodup := by
  rw [List.nodup_iff_count_le_one]
  intro i
  have one := exactly.one i
  unfold places at one
  rw [List.count_append]
  omega

end Register
end Handover
