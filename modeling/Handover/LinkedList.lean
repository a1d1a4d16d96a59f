import Mathlib.Tactic

/-!
Singly linked lists in memory: cells with a value and a pointer to the next cell, and
what a chain of pointers stands for. A null pointer is `none`; memory that is not
allocated, or freed, has no cell.
-/
namespace Handover
universe u

structure Cell (α : Type u) where
  value : α
  next : Option Nat

/-- What the addresses hold. -/
abbrev Heap (α : Type u) := Nat → Option (Cell α)

namespace Heap
variable {α : Type u} {heap heap' : Heap α}

/-- The pointers from `p` on go through the addresses with these values and arrive at `q`. -/
def Segment (heap : Heap α) : Option Nat → List (Nat × α) → Option Nat → Prop
  | p, [], q => p = q
  | p, (a,value) :: rest, q => p = some a ∧ ∃ next, heap a = some ⟨value,next⟩ ∧ Segment heap next rest q

/-- A whole list, with no address in it twice. -/
structure Linked (heap : Heap α) (head : Option Nat) (cells : List (Nat × α)) : Prop where
  segment : Segment heap head cells none
  distinct : (cells.map Prod.fst).Nodup

theorem segment_append {first second : List (Nat × α)} {p q : Option Nat} :
    Segment heap p (first ++ second) q ↔ ∃ r, Segment heap p first r ∧ Segment heap r second q := by
  induction first generalizing p with
  | nil => simp [Segment]
  | cons cell rest ih =>
    simp only [List.cons_append,Segment,ih]
    constructor
    · rintro ⟨isHere,next,isCell,r,before,after⟩
      exact ⟨r,⟨isHere,next,isCell,before⟩,after⟩
    · rintro ⟨r,⟨isHere,next,isCell,before⟩,after⟩
      exact ⟨isHere,next,isCell,r,before,after⟩

/-- Only the cells of a segment matter. -/
theorem Segment.congr {cells : List (Nat × α)} {p q : Option Nat} (segment : Segment heap p cells q)
    (same : ∀ a ∈ cells.map Prod.fst, heap' a = heap a) : Segment heap' p cells q := by
  induction cells generalizing p with
  | nil => exact segment
  | cons cell rest ih =>
    obtain ⟨isHere,next,isCell,later⟩ := segment
    refine ⟨isHere,next,?_,ih later (fun a member => same a (List.mem_cons_of_mem _ member))⟩
    rw [same cell.1 List.mem_cons_self]
    exact isCell

/-- A write beside a segment. -/
theorem Segment.write {cells : List (Nat × α)} {p q : Option Nat} (segment : Segment heap p cells q) {a : Nat}
    (beside : a ∉ cells.map Prod.fst) (cell : Option (Cell α)) : Segment (Function.update heap a cell) p cells q :=
  segment.congr (fun _ member => Function.update_of_ne (by rintro rfl; exact beside member) _ _)

/-- The last cell of a segment points to where it arrives. -/
theorem segment_concat {cells : List (Nat × α)} {a : Nat} {value : α} {p q : Option Nat} :
    Segment heap p (cells ++ [(a,value)]) q ↔ Segment heap p cells (some a) ∧ heap a = some ⟨value,q⟩ := by
  rw [segment_append]
  constructor
  · rintro ⟨r,before,rfl,next,isCell,rfl⟩
    exact ⟨before,isCell⟩
  · rintro ⟨before,isCell⟩
    exact ⟨some a,before,rfl,q,isCell,rfl⟩

/-- Assigning the `next` of the last cell redirects the segment. -/
theorem Segment.relink {cells : List (Nat × α)} {a : Nat} {value : α} {p q : Option Nat}
    (segment : Segment heap p (cells ++ [(a,value)]) q) (apart : a ∉ cells.map Prod.fst) (q' : Option Nat) :
    Segment (Function.update heap a (some ⟨value,q'⟩)) p (cells ++ [(a,value)]) q' :=
  segment_concat.mpr ⟨(segment_concat.mp segment).1.write apart _,Function.update_self ..⟩

end Heap
end Handover
