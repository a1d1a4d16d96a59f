import Handover.AccessPointSpec
import Handover.LinkedList

/-!
The loop of `reinject_pkt` on the pointers of a bucket. It unlinks every packet of the
flow, through the head of the bucket as long as no packet before it stays and through
`prev` from then on; `prev` has no value until a packet stays. A read through a pointer to
nothing, or through `prev` without a value, is a fault.
-/
namespace Handover
open AccessPoint Heap Function

/-- The bucket, the memory and the variables of `reinject_pkt`, and its verdicts so far. -/
structure Surgery where
  head : Option Nat
  heap : Heap PortData
  temp : Option Nat
  prev : Option Nat
  first : Bool
  verdicts : List Verdict

namespace Surgery

/-- Before the loop. -/
def start (heap : Heap PortData) (head : Option Nat) : Surgery := ⟨head,heap,head,none,true,[]⟩

/-- The packet is of the entry's flow. -/
def isMatch (nMap : NATMap) (data : PortData) : Bool := data.packet.tuple = nMap.toFourTuple

/-- What precedes the packet is made to point behind it. -/
def unlink (s : Surgery) (next : Option Nat) : Option Surgery :=
  if s.first then some { s with head := next }
  else s.prev.bind (fun prev => (s.heap prev).map (fun cell =>
    { s with heap := update s.heap prev (some { cell with next := next }) }))

/-- The packet is rewritten in place, leaves with a verdict and is freed. -/
def release (cfg : APConfig) (nMap : NATMap) (s : Surgery) (p : Nat) : Option Surgery :=
  (s.heap p).map (fun cell =>
    let packet := outbound cfg nMap cell.value.packet
    let heap := update s.heap p (some { cell with value := { cell.value with packet := packet } })
    { s with
      heap := update heap p none
      verdicts := s.verdicts ++ [⟨cell.value.packetId,packet⟩] })

/-- The loop goes on behind what precedes the packet. -/
def resume (s : Surgery) : Option Surgery :=
  if s.first then some { s with temp := s.head }
  else s.prev.bind (fun prev => (s.heap prev).map (fun cell => { s with temp := cell.next }))

/-- One iteration, for the packet that `temp` points to. -/
def iteration (cfg : APConfig) (nMap : NATMap) (s : Surgery) (p : Nat) : Option Surgery :=
  (s.heap p).bind (fun cell =>
    if isMatch nMap cell.value then (s.unlink cell.next).bind (fun s => (s.release cfg nMap p).bind resume)
    else some { s with first := false, prev := some p, temp := cell.next })

/-- At most `n` iterations, until `temp` is null; `none` if that is not enough, or on a
    fault. -/
def loop (cfg : APConfig) (nMap : NATMap) : Nat → Surgery → Option Surgery
  | 0, s => if s.temp = none then some s else none
  | n + 1, s => match s.temp with
    | none => some s
    | some p => (s.iteration cfg nMap p).bind (loop cfg nMap n)

/-! ### One iteration -/

/-- Between two iterations: the packets that stay, and those still to be looked at. -/
structure Between (s : Surgery) (done todo : List (Nat × PortData)) : Prop where
  before : Segment s.heap s.head done s.temp
  after : Segment s.heap s.temp todo none
  distinct : ((done ++ todo).map Prod.fst).Nodup
  first : s.first = true ↔ done = []
  prev : ∀ earlier a data, done = earlier ++ [(a,data)] → s.prev = some a

theorem between_start {heap : Heap PortData} {head : Option Nat} {cells : List (Nat × PortData)}
    (linked : Linked heap head cells) : Between (start heap head) [] cells where
  before := rfl
  after := linked.segment
  distinct := linked.distinct
  first := by simp [start]
  prev := by simp

section
variable (cfg : APConfig) {nMap : NATMap} {s : Surgery} {done todo : List (Nat × PortData)} {a : Nat} {data : PortData}

/-- A packet that stays is the next `prev`. -/
theorem Between.stays (between : Between s done ((a,data) :: todo)) (other : isMatch nMap data = false) :
    ∃ next, s.temp = some a ∧ s.iteration cfg nMap a = some { s with first := false, prev := some a, temp := next } ∧
      Between { s with first := false, prev := some a, temp := next } (done ++ [(a,data)]) todo := by
  obtain ⟨isTemp,next,isCell,later⟩ := between.after
  refine ⟨next,isTemp,?_,?_,later,?_,?_,?_⟩
  · simp [iteration,isCell,other]
  · refine segment_concat.mpr ⟨?_,isCell⟩
    rw [← isTemp]
    exact between.before
  · have distinct := between.distinct
    rwa [List.append_cons] at distinct
  · simp
  · intro earlier a' data' isLast
    have same := List.append_inj_right' isLast rfl
    cases same
    rfl

/-- What an iteration leaves of a packet of the flow at `a`: one verdict, and freed memory. -/
structure Leaves (cfg : APConfig) (nMap : NATMap) (s : Surgery) (done : List (Nat × PortData)) (a : Nat) (data : PortData)
    (s' : Surgery) : Prop where
  verdicts : s'.verdicts = s.verdicts ++ [⟨data.packetId,outbound cfg nMap data.packet⟩]
  freed : s'.heap a = none
  beside : ∀ c, c ∉ done.map Prod.fst → c ≠ a → s'.heap c = s.heap c

/-- No packet stays before it: the head of the bucket is redirected. -/
theorem Between.leaves_head (between : Between s [] ((a,data) :: todo)) (isFlow : isMatch nMap data = true) :
    ∃ s', s.iteration cfg nMap a = some s' ∧ Between s' [] todo ∧ Leaves cfg nMap s [] a data s' := by
  obtain ⟨isTemp,next,isCell,later⟩ := between.after
  have isFirst : s.first = true := between.first.mpr rfl
  obtain ⟨absent,distinct⟩ := List.nodup_cons.mp between.distinct
  refine ⟨{ s with
    head := next
    heap := update s.heap a none
    temp := next
    verdicts := s.verdicts ++ [⟨data.packetId,outbound cfg nMap data.packet⟩] },?_,⟨rfl,?_,distinct,?_,?_⟩,rfl,?_,?_⟩
  · simp [iteration,isCell,isFlow,unlink,isFirst,release,resume]
  · exact later.write absent none
  · simp [isFirst]
  · simp
  · exact update_self ..
  · intro c _ other
    exact update_of_ne other _ _

/-- Otherwise the last packet that stays is made to point behind it. -/
theorem Between.leaves_prev {earlier : List (Nat × PortData)} {b : Nat} {kept : PortData}
    (between : Between s (earlier ++ [(b,kept)]) ((a,data) :: todo)) (isFlow : isMatch nMap data = true) :
    ∃ s', s.iteration cfg nMap a = some s' ∧ Between s' (earlier ++ [(b,kept)]) todo ∧
      Leaves cfg nMap s (earlier ++ [(b,kept)]) a data s' := by
  obtain ⟨isTemp,next,isCell,later⟩ := between.after
  have notFirst : s.first = false := by
    rw [Bool.eq_false_iff,Ne,between.first]
    simp
  have isPrev : s.prev = some b := between.prev earlier b kept rfl
  have isLast : s.heap b = some ⟨kept,s.temp⟩ := (segment_concat.mp between.before).2
  obtain ⟨early,late,apart⟩ := List.nodup_append.mp (List.map_append ▸ between.distinct)
  obtain ⟨absent,_⟩ := List.nodup_cons.mp late
  have behind : b ∉ todo.map Prod.fst := fun member => apart b (by simp) b (List.mem_cons_of_mem a member) rfl
  have other : a ∉ (earlier ++ [(b,kept)]).map Prod.fst := fun member => apart a member a List.mem_cons_self rfl
  have different : a ≠ b := fun same => other (by simp [same])
  have single : b ∉ earlier.map Prod.fst := by
    rw [List.map_append,List.nodup_append] at early
    exact fun member => early.2.2 b member b (by simp) rfl
  refine ⟨{ s with
    heap := update (update s.heap b (some ⟨kept,next⟩)) a none
    temp := next
    verdicts := s.verdicts ++ [⟨data.packetId,outbound cfg nMap data.packet⟩] },?_,⟨?_,?_,?_,?_,?_⟩,rfl,?_,?_⟩
  · simp [iteration,isCell,isFlow,unlink,notFirst,isPrev,isLast,release,resume,different,different.symm]
  · exact (between.before.relink single next).write other none
  · exact (later.write behind _).write absent none
  · refine between.distinct.sublist (List.Sublist.map _ ?_)
    exact (List.sublist_cons_self _ _).append_left _
  · exact between.first
  · exact between.prev
  · exact update_self ..
  · intro c outside elsewhere
    have notLast : c ≠ b := fun same => outside (by simp [same])
    exact (update_of_ne elsewhere _ _).trans (update_of_ne notLast _ _)

theorem Between.leaves (between : Between s done ((a,data) :: todo)) (isFlow : isMatch nMap data = true) :
    ∃ s', s.iteration cfg nMap a = some s' ∧ Between s' done todo ∧ Leaves cfg nMap s done a data s' := by
  rcases List.eq_nil_or_concat done with rfl | ⟨earlier,⟨b,kept⟩,isDone⟩
  · exact between.leaves_head cfg isFlow
  · rw [List.concat_eq_append] at isDone
    subst isDone
    exact between.leaves_prev cfg isFlow

/-! ### The loop -/

/-- What the loop leaves, of a bucket with these cells from some place on: a verdict for
    every packet of the flow, and the others linked as they were. -/
structure Swept (cfg : APConfig) (nMap : NATMap) (s : Surgery) (done todo : List (Nat × PortData)) (s' : Surgery) : Prop where
  ended : s'.temp = none
  verdicts : s'.verdicts = s.verdicts ++ (todo.filter (fun cell => isMatch nMap cell.2)).map
    (fun cell => ⟨cell.2.packetId,outbound cfg nMap cell.2.packet⟩)
  linked : Linked s'.heap s'.head (done ++ todo.filter (fun cell => !isMatch nMap cell.2))
  freed : ∀ cell ∈ todo, isMatch nMap cell.2 = true → s'.heap cell.1 = none
  beside : ∀ c, c ∉ (done ++ todo).map Prod.fst → s'.heap c = s.heap c

theorem Between.swept_nil (between : Between s done []) : Swept cfg nMap s done [] s where
  ended := between.after
  verdicts := by simp
  linked := by
    have before := between.before
    rw [show s.temp = none from between.after] at before
    rw [List.filter_nil]
    exact ⟨by rwa [List.append_nil],between.distinct⟩
  freed := by simp
  beside := fun _ _ => rfl

/-- The rest of the loop, by induction over the packets still to be looked at. -/
theorem Between.loop (nMap : NATMap) (between : Between s done todo) :
    ∃ s', s.loop cfg nMap todo.length = some s' ∧ Swept cfg nMap s done todo s' := by
  induction todo generalizing s done with
  | nil => exact ⟨s,if_pos between.after,between.swept_nil cfg⟩
  | cons cell todo ih =>
    obtain ⟨a,data⟩ := cell
    have isTemp : s.temp = some a := between.after.1
    cases isFlow : isMatch nMap data with
    | false =>
      obtain ⟨next,_,iterated,between'⟩ := between.stays cfg isFlow
      obtain ⟨s',looped,swept⟩ := ih between'
      refine ⟨s',?_,swept.ended,?_,?_,?_,?_⟩
      · simp [Surgery.loop,isTemp,iterated,looped]
      · simpa [isFlow] using swept.verdicts
      · simpa [isFlow] using swept.linked
      · intro cell member isFlow'
        rcases List.mem_cons.mp member with rfl | later
        · rw [isFlow] at isFlow'
          cases isFlow'
        · exact swept.freed cell later isFlow'
      · simpa using swept.beside
    | true =>
      obtain ⟨middle,iterated,between',leaves⟩ := between.leaves cfg isFlow
      obtain ⟨s',looped,swept⟩ := ih between'
      have gone : a ∉ (done ++ todo).map Prod.fst := by
        have distinct := between.distinct
        rw [List.map_append,List.map_cons,List.nodup_middle,List.nodup_cons] at distinct
        rw [List.map_append]
        exact distinct.1
      refine ⟨s',?_,swept.ended,?_,?_,?_,?_⟩
      · simp [Surgery.loop,isTemp,iterated,looped]
      · rw [swept.verdicts,leaves.verdicts]
        simp [isFlow]
      · simpa [isFlow] using swept.linked
      · intro cell member isFlow'
        rcases List.mem_cons.mp member with rfl | later
        · rw [swept.beside a gone,leaves.freed]
        · exact swept.freed cell later isFlow'
      · intro c outside
        simp only [List.map_append,List.map_cons,List.mem_append,List.mem_cons,not_or] at outside
        rw [swept.beside c (by simp [outside]),leaves.beside c outside.1 outside.2.1]

end

/-- The loop ends after one iteration for every packet, gives one verdict for each packet of
    the flow and none for another, and leaves the others in the bucket, in their order and
    as they were. That is what the bucket's list model says. -/
theorem reinject_exact (cfg : APConfig) (nMap : NATMap) {heap : Heap PortData} {head : Option Nat}
    {cells : List (Nat × PortData)} (linked : Linked heap head cells) :
    ∃ s, (start heap head).loop cfg nMap cells.length = some s ∧ s.temp = none ∧
      s.verdicts = (cells.filter (fun cell => cell.2.packet.tuple = nMap.toFourTuple)).map
        (fun cell => ⟨cell.2.packetId,outbound cfg nMap cell.2.packet⟩) ∧
      Linked s.heap s.head (cells.filter (fun cell => !decide (cell.2.packet.tuple = nMap.toFourTuple))) ∧
      reinjectChain cfg nMap (cells.map Prod.snd) =
        (s.verdicts,(cells.filter (fun cell => !decide (cell.2.packet.tuple = nMap.toFourTuple))).map Prod.snd) := by
  obtain ⟨s,looped,swept⟩ := (between_start linked).loop cfg nMap
  have verdicts : s.verdicts = (cells.filter (fun cell => cell.2.packet.tuple = nMap.toFourTuple)).map
      (fun cell => ⟨cell.2.packetId,outbound cfg nMap cell.2.packet⟩) := swept.verdicts
  refine ⟨s,looped,swept.ended,verdicts,swept.linked,?_⟩
  rw [reinjectChain_eq,verdicts,List.filter_map,List.filter_map,List.map_map]
  rfl

/-- A datagram of the host 192.168.5.9 to port 53 of 8.8.8.8, from the given port. -/
def query (port : UInt8) : Packet :=
  [0x45,0,0,28,0,1,0,0,64,17,0,0,192,168,5,9,8,8,8,8,0xc0,port,0,53,0,8,0,0]

/-- Three packets wait in a bucket, the first and the last of them of one flow. -/
def waiting : List (Nat × PortData) := [(1,⟨31,query 1⟩),(2,⟨32,query 2⟩),(3,⟨33,query 1⟩)]

def memory : Heap PortData
  | 1 => some ⟨⟨31,query 1⟩,some 2⟩
  | 2 => some ⟨⟨32,query 2⟩,some 3⟩
  | 3 => some ⟨⟨33,query 1⟩,none⟩
  | _ => none

theorem waiting_reinjected : Linked memory (some 1) waiting ∧
    ∃ s, (start memory (some 1)).loop ⟨⟨2,0,0,0,1,1⟩,⟨10,0,0,1⟩,⟨192,168,5,0⟩,255⟩ ⟨(query 1).tuple,49152⟩ 3 = some s ∧
      s.verdicts.map (·.packetId) = [31,33] ∧ Linked s.heap s.head [(2,⟨32,query 2⟩)] := by
  have linked : Linked memory (some 1) waiting :=
    ⟨⟨rfl,_,rfl,rfl,_,rfl,rfl,_,rfl,rfl⟩,by decide⟩
  obtain ⟨s,looped,_,verdicts,kept,_⟩ :=
    reinject_exact ⟨⟨2,0,0,0,1,1⟩,⟨10,0,0,1⟩,⟨192,168,5,0⟩,255⟩ ⟨(query 1).tuple,49152⟩ linked
  refine ⟨linked,s,looped,?_,kept⟩
  rw [verdicts,List.map_map]
  decide

end Surgery
end Handover
