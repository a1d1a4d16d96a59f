import Handover.Checksum

/-!
The variable `headerSum` of `handle_pkt` and `calculateCheckSum`, which is a C `int`: all
values that it takes while the checksums of a packet are refreshed. None of them is
negative or overflows, though the longest packets come close.
-/
namespace Handover
open Bytes OnesComplement

/-- The values of an `int` to which a loop adds, from its first one on. -/
def running (start : Int) (terms : List Nat) : List Int := terms.scanl (fun (sum : Int) (term : Nat) => sum + term) start

/-- What only grows stays between its first value and its last. -/
theorem running_between {start value : Int} {terms : List Nat} (member : value ∈ running start terms) :
    start ≤ value ∧ value ≤ start + terms.sum := by
  induction terms generalizing start with
  | nil =>
    rw [running,List.scanl_nil,List.mem_singleton] at member
    simp [member]
  | cons term terms ih =>
    rw [running,List.scanl_cons,List.mem_cons] at member
    rw [List.sum_cons]
    rcases member with rfl | member
    · omega
    · have := ih member
      omega

namespace Packet

/-- What `calculateCheckSum` adds, in order: the words of its loop but the skipped one,
    and the odd byte. -/
def terms (data : List UInt8) (last skip : Nat) (odd : Bool) : List Nat :=
  ((List.range last).filter (· ≠ skip)).map (fun num => (word data (2 * num)).toNat) ++
    if odd then [(word data (2 * last)).toNat / 256 * 256] else []

/-- The values of `headerSum` in `calculateCheckSum`; in the end only its low half is left. -/
def checkSumValues (data : List UInt8) (last headerSum skip : Nat) (odd : Bool) : List Int :=
  running headerSum (terms data last skip odd) ++
    [((headerSum + (terms data last skip odd).sum) % 65536 : Int)]

/-- The six words of `struct pseudo_header`. -/
def pseudoWords (p : Packet) : List Nat :=
  [(word p 12).toNat,(word p 14).toNat,(word p 16).toNat,(word p 18).toNat,(protocol p).toNat,
    ((totalLength p).toNat + 65536 - transport p) % 65536]

/-- The values of `headerSum` at the end of `handle_pkt`, once addresses and ports are
    rewritten: for the header, in the loop over the pseudo header and behind it. -/
def refreshValues (p : Packet) : List Int :=
  let header := checkSumValues p (headerWords p * 2) 0 5 false
  let p := storeCheckSum p 10 (calculateCheckSum p (headerWords p * 2) 0 5 false)
  let last := ((totalLength p).toNat - transport p) / 2
  let odd := decide ((totalLength p).toNat % 2 = 1)
  header ++ running 0 (pseudoWords p) ++
    if protocol p = 17 then checkSumValues (p.drop (transport p)) last (pseudoWords p).sum 3 odd
    else if protocol p = 6 then checkSumValues (p.drop (transport p)) last (pseudoWords p).sum 8 odd
    else []

/-! ### The sums -/

theorem sum_words (data : List UInt8) (last skip : Nat) :
    (((List.range last).filter (· ≠ skip)).map (fun num => (word data (2 * num)).toNat)).sum =
      ∑ num ∈ (Finset.range last).erase skip, (word data (2 * num)).toNat := by
  induction last with
  | zero => rfl
  | succ last ih =>
    rw [List.range_succ,List.filter_append,List.map_append,List.sum_append,ih,Finset.range_add_one]
    by_cases isSkip : last = skip
    · subst isSkip
      rw [Finset.erase_insert Finset.notMem_range_self,Finset.erase_eq_of_notMem Finset.notMem_range_self]
      simp
    · rw [Finset.erase_insert_of_ne isSkip,Finset.sum_insert (by simp)]
      simp [isSkip,Nat.add_comm]

/-- All that is added gives the sum that the checksum is made of. -/
theorem sum_terms (data : List UInt8) (last headerSum skip : Nat) (odd : Bool) :
    headerSum + (terms data last skip odd).sum = selectedSum data last headerSum skip odd := by
  rw [terms,List.sum_append,sum_words,selectedSum,oddByte,word_high]
  cases odd <;> simp [Nat.add_assoc]

theorem sum_pseudoWords (p : Packet) : (pseudoWords p).sum = pseudoSum p := by
  simp only [pseudoWords,List.sum_cons,List.sum_nil,pseudoSum]
  omega

/-- The checksum is made of the sum of all that is added. -/
theorem calculateCheckSum_terms (data : List UInt8) (last headerSum skip : Nat) (odd : Bool) :
    calculateCheckSum data last headerSum skip odd =
      UInt16.ofNat (65535 - addCarry 65536 (headerSum + (terms data last skip odd).sum)) := by
  rw [calculateCheckSum_eq,sum_terms]

/-- A value of a C `int` that is not negative. -/
def InInt (value : Int) : Prop := 0 ≤ value ∧ value ≤ 2 ^ 31 - 1

theorem inInt_checkSumValues {data : List UInt8} {last headerSum skip : Nat} {odd : Bool}
    (small : selectedSum data last headerSum skip odd < 2 ^ 31) {value : Int}
    (member : value ∈ checkSumValues data last headerSum skip odd) : InInt value := by
  have total := sum_terms data last headerSum skip odd
  rw [checkSumValues,List.mem_append,List.mem_singleton] at member
  unfold InInt
  rcases member with member | rfl
  · have := running_between member
    omega
  · omega

/-- The values before and behind the new checksum of the header. -/
theorem refreshValues_eq (p : Packet) :
    refreshValues p = checkSumValues p (headerWords p * 2) 0 5 false ++ running 0 (pseudoWords (headerRefreshed p)) ++
      let q := headerRefreshed p
      let behind skip := checkSumValues (q.drop (transport q)) (transportWords q) (pseudoWords q).sum skip (oddLength q)
      if protocol q = 17 then behind 3 else if protocol q = 6 then behind 8 else [] :=
  rfl

theorem inInt_transport {p : Packet} (words : 5 ≤ headerWords p) (skip : Nat) {value : Int}
    (member : value ∈ checkSumValues (p.drop (transport p)) (transportWords p) (pseudoWords p).sum skip (oddLength p)) :
    InInt value := by
  rw [sum_pseudoWords] at member
  exact inInt_checkSumValues (transportSum_lt words skip (oddLength p)) member

theorem inInt_pseudo {p : Packet} {value : Int} (member : value ∈ running 0 (pseudoWords p)) : InInt value := by
  have between := running_between member
  have pseudo := pseudoSum_le p
  rw [sum_pseudoWords] at between
  unfold InInt
  omega

/-- Every value of `headerSum` fits: for the IP header, for the pseudo header and for what
    follows it in UDP and TCP, whatever the packet has there and however long it is. -/
theorem headerSum_inInt (p : Packet) (words : 5 ≤ headerWords p) : ∀ value ∈ refreshValues p, InInt value := by
  have words' : 5 ≤ headerWords (headerRefreshed p) := by
    rw [(shape_headerRefreshed p).words]
    exact words
  intro value member
  rw [refreshValues_eq,List.mem_append,List.mem_append] at member
  rcases member with (header | pseudo) | behind
  · exact inInt_checkSumValues (headerRest_lt p) header
  · exact inInt_pseudo pseudo
  · dsimp only at behind
    split_ifs at behind
    · exact inInt_transport words' 3 behind
    · exact inInt_transport words' 8 behind
    · cases behind

theorem query_inInt : headerWords AccessPoint.query = 5 ∧ ∀ value ∈ refreshValues AccessPoint.query, InInt value :=
  ⟨by decide,headerSum_inInt AccessPoint.query (by decide)⟩

end Packet
end Handover
