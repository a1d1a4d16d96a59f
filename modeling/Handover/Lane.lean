import Mathlib.Tactic

/-!
Items that pass a point. One is in hand at a time; it leaves at once, or is put on a
stack, and a release lets the whole stack leave, the newest item first. Items are taken
in increasing order, and they leave in that order as long as none leaves, or is stacked,
past others on the stack.
-/
namespace Handover
universe u

/-- `left` has the items that left, the first one first, and `stack` those that wait, the
    newest first. -/
@[ext] structure Lane (Item : Type u) where
  left : List Item
  stack : List Item
  inHand : Option Item

namespace Lane
variable {Item : Type u} [Preorder Item] {lane lane' : Lane Item} {placed : Bool}

/-- The items in the order in which they leave if nothing more comes. -/
def line (lane : Lane Item) : List Item := lane.left ++ lane.stack

def InOrder (lane : Lane Item) : Prop := lane.line.Pairwise (· < ·)

/-- The item in hand is the newest. -/
def Valid (lane : Lane Item) : Prop := ∀ i, lane.inHand = some i → ∀ j ∈ lane.line, j < i

/-- What can happen in one step, and whether an item is placed behind the others in
    doing so. -/
inductive Moves (lane : Lane Item) : Bool → Lane Item → Prop where
  | stays : Moves lane false lane
  | takes {i : Item} (free : lane.inHand = none) (newest : ∀ j ∈ lane.line, j < i) :
    Moves lane false { lane with inHand := some i }
  | passes {i : Item} (free : lane.inHand = none) (newest : ∀ j ∈ lane.line, j < i) :
    Moves lane true { lane with left := lane.left ++ [i] }
  | leaves {i : Item} (isHand : lane.inHand = some i) :
    Moves lane true { lane with left := lane.left ++ [i], inHand := none }
  | waits {i : Item} (isHand : lane.inHand = some i) :
    Moves lane true { lane with stack := i :: lane.stack, inHand := none }
  | releases : Moves lane false { lane with left := lane.left ++ lane.stack, stack := [] }

/-- A new item between the two parts is in its place only if the second is empty. -/
theorem pairwise_insert_iff {left stack : List Item} {i : Item} (newest : ∀ j ∈ left ++ stack, j < i) :
    (left ++ i :: stack).Pairwise (· < ·) ↔ (left ++ stack).Pairwise (· < ·) ∧ stack = [] := by
  constructor
  · intro sorted
    refine ⟨sorted.sublist (List.sublist_cons_self i stack |>.append_left left),List.eq_nil_iff_forall_not_mem.mpr ?_⟩
    intro j member
    have after : i < j := (List.pairwise_cons.mp (List.pairwise_append.mp sorted).2.1).1 j member
    exact lt_asymm after (newest j (List.mem_append_right left member))
  · rintro ⟨sorted,rfl⟩
    rw [List.append_nil] at sorted newest
    refine List.pairwise_append.mpr ⟨sorted,List.pairwise_singleton _ i,fun j member k isItem => ?_⟩
    rw [List.mem_singleton.mp isItem]
    exact newest j member

theorem Moves.valid (moves : Moves lane placed lane') (valid : Valid lane) : Valid lane' := by
  cases moves with
  | stays => exact valid
  | takes free newest =>
    rintro i isHand
    cases isHand
    exact newest
  | passes free newest => exact fun i isHand => absurd (free.symm.trans isHand) (by simp)
  | leaves isHand => exact fun i isHand' => by cases isHand'
  | waits isHand => exact fun i isHand' => by cases isHand'
  | releases =>
    intro i isHand j member
    refine valid i isHand j ?_
    simpa [line] using member

/-- A step keeps the order exactly if it places no item behind others on the stack. -/
theorem Moves.inOrder_iff (moves : Moves lane placed lane') (valid : Valid lane) :
    InOrder lane' ↔ InOrder lane ∧ (placed = true → lane.stack = []) := by
  have places : ∀ i, (∀ j ∈ lane.line, j < i) →
      ((lane.left ++ i :: lane.stack).Pairwise (· < ·) ↔ InOrder lane ∧ (true = true → lane.stack = [])) := by
    intro i newest
    simpa [InOrder,line] using pairwise_insert_iff newest
  cases moves with
  | stays => simp
  | takes free newest => simp [InOrder,line]
  | @passes i free newest => simpa [InOrder,line] using places i newest
  | @leaves i isHand => simpa [InOrder,line] using places i (valid i isHand)
  | @waits i isHand => simpa [InOrder,line] using places i (valid i isHand)
  | releases => simp [InOrder,line]

end Lane
end Handover
