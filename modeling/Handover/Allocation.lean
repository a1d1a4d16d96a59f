import Mathlib.Tactic

/-!
Numbering clients class by class, in the order in which they first ask: the
purpose of an allocator with one counter for each class that never releases a
number. The number of a client is its `rank`; it does not change when others
arrive, and ranks are distinct within a class.
-/
namespace Handover.Allocation
universe u v
variable {Client : Type u} {Class : Type v} [DecidableEq Class] (classOf : Client → Class)

/-- The clients of one class, in order. -/
def members (order : List Client) (k : Class) : List Client := order.filter (fun client => classOf client = k)

variable {classOf}

theorem mem_members (order : List Client) (k : Class) (client : Client) :
    client ∈ members classOf order k ↔ client ∈ order ∧ classOf client = k := by
  simp [members]

theorem members_append_other (order : List Client) {client : Client} {k : Class} (other : classOf client ≠ k) :
    members classOf (order ++ [client]) k = members classOf order k := by
  simp [members,other]

variable (classOf) in
theorem members_append_same (order : List Client) (client : Client) :
    members classOf (order ++ [client]) (classOf client) = members classOf order (classOf client) ++ [client] := by
  simp [members]

variable [DecidableEq Client]

/-- The clients so far, in order, after one more request. -/
def arrive (order : List Client) (client : Client) : List Client :=
  if client ∈ order then order else order ++ [client]

/-- The clients of a list of requests, in the order of their first request. -/
def arrivals (requests : List Client) : List Client := requests.foldl arrive []

variable (classOf) in
/-- How many clients of its class came before the client. -/
def rank (order : List Client) (client : Client) : Nat := (members classOf order (classOf client)).idxOf client

theorem nodup_arrive {order : List Client} (nodup : order.Nodup) (client : Client) : (arrive order client).Nodup := by
  unfold arrive
  split
  · exact nodup
  · rename_i absent
    simp only [List.nodup_append,List.nodup_cons,List.not_mem_nil,not_false_eq_true,List.nodup_nil,and_self,
      List.mem_singleton,forall_eq,true_and]
    exact ⟨nodup,fun other inside same => absent (same ▸ inside)⟩

theorem mem_arrive (order : List Client) (client other : Client) :
    other ∈ arrive order client ↔ other ∈ order ∨ other = client := by
  unfold arrive
  split
  · rename_i present
    constructor
    · exact .inl
    · rintro (inside | rfl)
      · exact inside
      · exact present
  · simp

private theorem foldl_arrive (requests order : List Client) (nodup : order.Nodup) :
    (requests.foldl arrive order).Nodup ∧ ∀ client, client ∈ requests.foldl arrive order ↔ client ∈ order ∨ client ∈ requests := by
  induction requests generalizing order with
  | nil => exact ⟨nodup,by simp⟩
  | cons first rest ih =>
    obtain ⟨distinct,inside⟩ := ih (arrive order first) (nodup_arrive nodup first)
    refine ⟨distinct,fun client => ?_⟩
    rw [List.foldl_cons,inside,mem_arrive,List.mem_cons,or_assoc]

theorem nodup_arrivals (requests : List Client) : (arrivals requests).Nodup :=
  (foldl_arrive requests [] List.nodup_nil).1

theorem mem_arrivals (requests : List Client) (client : Client) : client ∈ arrivals requests ↔ client ∈ requests := by
  rw [arrivals,(foldl_arrive requests [] List.nodup_nil).2]
  simp

/-- There are as many clients of a class as distinct requests for it. -/
theorem length_members_arrivals (requests : List Client) (k : Class) :
    (members classOf (arrivals requests) k).length =
      (requests.filter (fun client => classOf client = k)).dedup.length := by
  have distinct : (members classOf (arrivals requests) k).Nodup := (nodup_arrivals requests).filter _
  apply List.Perm.length_eq
  rw [List.perm_ext_iff_of_nodup distinct (List.nodup_dedup _)]
  intro client
  rw [mem_members,mem_arrivals,List.mem_dedup,List.mem_filter,decide_eq_true_eq]

variable (classOf) in
theorem rank_lt {order : List Client} {client : Client} (inside : client ∈ order) :
    rank classOf order client < (members classOf order (classOf client)).length :=
  List.idxOf_lt_length_iff.mpr ((mem_members order _ client).mpr ⟨inside,rfl⟩)

/-- Within a class the rank identifies the client. -/
theorem rank_injective {order : List Client} {one two : Client} (inside : one ∈ order)
    (sameClass : classOf one = classOf two) (sameRank : rank classOf order one = rank classOf order two) : one = two := by
  unfold rank at sameRank
  rw [← sameClass] at sameRank
  exact (List.idxOf_inj ((mem_members order _ one).mpr ⟨inside,rfl⟩)).mp sameRank

variable (classOf) in
/-- Every rank below the number of clients of the class is taken. -/
theorem exists_rank {order : List Client} (nodup : order.Nodup) {k : Class} {i : Nat}
    (small : i < (members classOf order k).length) :
    ∃ client ∈ order, classOf client = k ∧ rank classOf order client = i := by
  have member := List.getElem_mem small
  obtain ⟨inside,isClass⟩ := (mem_members order k _).mp member
  refine ⟨(members classOf order k)[i],inside,isClass,?_⟩
  unfold rank
  rw [isClass]
  exact List.Nodup.idxOf_getElem (nodup.filter _) i small

/-- Arrivals leave the ranks of earlier clients alone. -/
theorem rank_append_old {order : List Client} {client : Client} (inside : client ∈ order) (next : Client) :
    rank classOf (order ++ [next]) client = rank classOf order client := by
  unfold rank
  by_cases same : classOf next = classOf client
  · rw [← same,members_append_same]
    exact List.idxOf_append_of_mem ((mem_members order _ client).mpr ⟨inside,same.symm⟩)
  · rw [members_append_other order same]

theorem rank_append_new {order : List Client} {client : Client} (absent : client ∉ order) :
    rank classOf (order ++ [client]) client = (members classOf order (classOf client)).length := by
  have outside : client ∉ members classOf order (classOf client) := fun inside => absent ((mem_members order _ client).mp inside).1
  unfold rank
  rw [members_append_same,List.idxOf_append_of_notMem outside]
  simp

end Handover.Allocation
