import Handover.OnesComplement
import Handover.Rewriting
import Handover.Gateway

/-!
The checksums of packets that the two NAT programs rewrite, against what a receiver
computes. The programs sum the words but the checksum's own and add the carry once,
a receiver sums all of them and folds. So the header is accepted exactly if the
addition of the carry does not carry again, and so is a datagram that the packet
carries whole. The programs sum what the IP header counts, a receiver all fragments and
of UDP as much as its own length says; where these differ the two sums must agree.
-/
namespace Handover
open Bytes OnesComplement

namespace Packet

/-! ### Sums of words -/

/-- The byte left over behind an odd number of them, as the high half of a word. -/
def oddByte (data : List UInt8) (last : Nat) (odd : Bool) : Nat := if odd then (byte data (2 * last)).toNat * 256 else 0

/-- What `calculateCheckSum` is to sum. -/
def selectedSum (data : List UInt8) (last headerSum skip : Nat) (odd : Bool) : Nat :=
  headerSum + ∑ num ∈ (Finset.range last).erase skip, (word data (2 * num)).toNat + oddByte data last odd

/-- What a receiver sums: no word is skipped. -/
def receivedSum (data : List UInt8) (last headerSum : Nat) (odd : Bool) : Nat :=
  headerSum + ∑ num ∈ Finset.range last, (word data (2 * num)).toNat + oddByte data last odd

/-- The Internet checksum of a sum of 16-bit words. -/
def internetChecksum (sum : Nat) : UInt16 := UInt16.ofNat (65535 - fold 65536 sum)

theorem foldl_words (data : List UInt8) (last headerSum skip : Nat) :
    (List.range last).foldl (fun sum num => if num = skip then sum else sum + (word data (2 * num)).toNat) headerSum =
      headerSum + ∑ num ∈ (Finset.range last).erase skip, (word data (2 * num)).toNat := by
  induction last with
  | zero => simp
  | succ last ih =>
    rw [List.range_succ,List.foldl_append,ih,Finset.range_add_one]
    by_cases isSkip : last = skip
    · subst isSkip
      rw [Finset.erase_insert Finset.notMem_range_self,Finset.erase_eq_of_notMem Finset.notMem_range_self]
      simp
    · rw [Finset.erase_insert_of_ne isSkip,Finset.sum_insert (by simp)]
      simp only [List.foldl_cons,List.foldl_nil,if_neg isSkip]
      omega

theorem calculateCheckSum_eq (data : List UInt8) (last headerSum skip : Nat) (odd : Bool) :
    calculateCheckSum data last headerSum skip odd =
      UInt16.ofNat (65535 - addCarry 65536 (selectedSum data last headerSum skip odd)) := by
  unfold calculateCheckSum
  dsimp only
  rw [foldl_words,word_high,selectedSum,oddByte]
  cases odd <;> rfl

theorem calculateCheckSum_toNat (data : List UInt8) (last headerSum skip : Nat) (odd : Bool) :
    (calculateCheckSum data last headerSum skip odd).toNat =
      65536 - 1 - addCarry 65536 (selectedSum data last headerSum skip odd) := by
  rw [calculateCheckSum_eq,UInt16.toNat_ofNat',Nat.mod_eq_of_lt (by omega)]

/-- The code's checksum is the Internet checksum if the carry is carried once. -/
theorem calculateCheckSum_iff {data : List UInt8} {last headerSum skip : Nat} {odd : Bool}
    (small : selectedSum data last headerSum skip odd < 2 ^ 31) :
    calculateCheckSum data last headerSum skip odd = internetChecksum (selectedSum data last headerSum skip odd) ↔
      OneCarry 65536 (selectedSum data last headerSum skip odd) := by
  rw [← complement_addCarry_iff (by omega) (by omega),calculateCheckSum_eq,internetChecksum]
  constructor
  · intro same
    have values := congrArg UInt16.toNat same
    simp only [UInt16.toNat_ofNat'] at values
    omega
  · intro same
    rw [show 65535 - addCarry 65536 (selectedSum data last headerSum skip odd) = _ from same]

theorem receivedSum_eq (data : List UInt8) {last skip : Nat} (inside : skip < last) (headerSum : Nat) (odd : Bool) :
    receivedSum data last headerSum odd =
      selectedSum data last headerSum skip odd + (word data (2 * skip)).toNat := by
  have split := Finset.add_sum_erase (Finset.range last) (fun num => (word data (2 * num)).toNat)
    (Finset.mem_range.mpr inside)
  rw [receivedSum,selectedSum]
  omega

/-- The word that holds the checksum does not count. -/
theorem selectedSum_congr {data data' : List UInt8} {last skip : Nat} (headerSum : Nat) {odd : Bool}
    (words : ∀ num < last, num ≠ skip → word data' (2 * num) = word data (2 * num))
    (left : odd = true → byte data' (2 * last) = byte data (2 * last)) :
    selectedSum data' last headerSum skip odd = selectedSum data last headerSum skip odd := by
  have sums : ∑ num ∈ (Finset.range last).erase skip, (word data' (2 * num)).toNat =
      ∑ num ∈ (Finset.range last).erase skip, (word data (2 * num)).toNat := by
    refine Finset.sum_congr rfl (fun num member => ?_)
    rw [Finset.mem_erase,Finset.mem_range] at member
    rw [words num member.2 member.1]
  have bytes : oddByte data' last odd = oddByte data last odd := by
    unfold oddByte
    split
    · rename_i isOdd
      rw [left isOdd]
    · rfl
  rw [selectedSum,sums,bytes,selectedSum]

theorem selectedSum_le (data : List UInt8) (last headerSum skip : Nat) (odd : Bool) :
    selectedSum data last headerSum skip odd ≤ headerSum + last * 65535 + 65280 := by
  have words : ∑ num ∈ (Finset.range last).erase skip, (word data (2 * num)).toNat ≤ last * 65535 := by
    calc ∑ num ∈ (Finset.range last).erase skip, (word data (2 * num)).toNat
        ≤ ∑ num ∈ Finset.range last, (word data (2 * num)).toNat :=
          Finset.sum_le_sum_of_subset (Finset.erase_subset skip _)
      _ ≤ ∑ _num ∈ Finset.range last, 65535 :=
          Finset.sum_le_sum (fun num _ => Nat.le_of_lt_succ (word data (2 * num)).toNat_lt)
      _ = last * 65535 := by simp
  have := (byte data (2 * last)).toNat_lt
  unfold selectedSum oddByte
  split <;> omega

/-! ### The checksums of a packet -/

/-- The sum of the header's words but the checksum. -/
def headerRest (p : Packet) : Nat := selectedSum p (headerWords p * 2) 0 5 false

/-- The sum of the pseudo header and of what follows the header, but the checksum. -/
def transportRest (p : Packet) : Nat :=
  selectedSum (p.drop (transport p)) (transportWords p) (pseudoSum p) (checksumWord p) (oddLength p)

/-- A receiver accepts the header. -/
def HeaderVerifies (p : Packet) : Prop := fold 65536 (receivedSum p (headerWords p * 2) 0 false) = 65535

/-- What is behind the header, with what later fragments bring. -/
def datagram (p : Packet) (rest : List UInt8) : List UInt8 := (p.take (totalLength p).toNat).drop (transport p) ++ rest

/-- How much of it a receiver sums: as much as a UDP header says, or all. -/
def datagramLength (p : Packet) (rest : List UInt8) : Nat :=
  if protocol p = 17 then (word p (transport p + 4)).toNat else (datagram p rest).length

/-- The sum of a pseudo header with the length. -/
def pseudoOf (p : Packet) (length : Nat) : Nat :=
  (word p 12).toNat + (word p 14).toNat + (word p 16).toNat + (word p 18).toNat + (protocol p).toNat + length

/-- The receiver has the datagram up to its checksum at least. -/
structure Arrived (p : Packet) (rest : List UInt8) : Prop where
  checksum : 2 * checksumWord p + 2 ≤ datagramLength p rest
  whole : datagramLength p rest ≤ (datagram p rest).length

/-- What the receiver sums but the checksum. -/
def datagramRest (p : Packet) (rest : List UInt8) : Nat :=
  selectedSum (datagram p rest) (datagramLength p rest / 2) (pseudoOf p (datagramLength p rest)) (checksumWord p)
    (datagramLength p rest % 2 = 1)

/-- A receiver accepts the datagram. UDP has no checksum if it is zero. -/
structure DatagramVerifies (p : Packet) (rest : List UInt8) : Prop where
  arrived : Arrived p rest
  sum : protocol p = 17 ∧ word (datagram p rest) (2 * checksumWord p) = 0 ∨
    fold 65536 (receivedSum (datagram p rest) (datagramLength p rest / 2) (pseudoOf p (datagramLength p rest))
      (datagramLength p rest % 2 = 1)) = 65535

/-- A UDP datagram or TCP segment starts here, at least up to its checksum. -/
structure StartsTransport (p : Packet) : Prop where
  known : hasChecksum p = true
  first : fragmentOffset p = 0
  checksum : checksumOffset p + 2 ≤ (totalLength p).toNat

/-- All of it is here, and nothing else. -/
structure WholeTransport (p : Packet) : Prop extends StartsTransport p where
  last : moreFragments p = false
  udpLength : protocol p = 17 → transport p + (word p (transport p + 4)).toNat = (totalLength p).toNat

instance (p : Packet) : Decidable (WholeTransport p) :=
  decidable_of_iff (hasChecksum p = true ∧ fragmentOffset p = 0 ∧ checksumOffset p + 2 ≤ (totalLength p).toNat ∧
      moreFragments p = false ∧ (protocol p = 17 → transport p + (word p (transport p + 4)).toNat = (totalLength p).toNat))
    ⟨fun ⟨known,first,checksum,last,udpLength⟩ => ⟨⟨known,first,checksum⟩,last,udpLength⟩,
      fun whole => ⟨whole.known,whole.first,whole.checksum,whole.last,whole.udpLength⟩⟩

theorem headerRest_lt (p : Packet) : headerRest p < 2 ^ 31 := by
  have := selectedSum_le p (headerWords p * 2) 0 5 false
  have : headerWords p < 16 := Nat.mod_lt _ (by omega)
  unfold headerRest
  omega

theorem pseudoSum_le (p : Packet) : pseudoSum p ≤ 65535 * 5 + 255 := by
  have := (word p 12).toNat_lt
  have := (word p 14).toNat_lt
  have := (word p 16).toNat_lt
  have := (word p 18).toNat_lt
  have := (protocol p).toNat_lt
  unfold pseudoSum
  omega

/-- Not even the longest packet overflows an `int`. -/
theorem transportSum_lt {p : Packet} (words : 5 ≤ headerWords p) (skip : Nat) (odd : Bool) :
    selectedSum (p.drop (transport p)) (transportWords p) (pseudoSum p) skip odd < 2 ^ 31 := by
  have total := selectedSum_le (p.drop (transport p)) (transportWords p) (pseudoSum p) skip odd
  have pseudo := pseudoSum_le p
  have few : transportWords p ≤ 32757 := by
    have := (totalLength p).toNat_lt
    unfold transportWords transport
    omega
  omega

theorem ValidHeader.transportRest_lt {p : Packet} (valid : ValidHeader p) : transportRest p < 2 ^ 31 :=
  transportSum_lt valid.words _ _

/-- Behind the header only the transport checksum differs from what was summed. -/
theorem byte_refresh_header {p : Packet} {i : Nat} (inside : i < checksumOffset p ∨ checksumOffset p + 2 ≤ i) :
    byte (refresh p) i = byte (headerRefreshed p) i := by
  rw [refresh_eq]
  split
  · exact byte_storeCheckSum _ _ inside
  · rfl

theorem ValidHeader.shape_refresh {p : Packet} (valid : ValidHeader p) : SameShape p (refresh p) := by
  have := valid.portOffset .source
  refine shape_of_bytes (fun i small => byte_refresh (.inl small) (fun _ => ?_))
  omega

/-- The header of a refreshed packet has the code's checksum. -/
theorem ValidHeader.word_header {p : Packet} (valid : ValidHeader p) :
    word (refresh p) 10 = calculateCheckSum p (headerWords p * 2) 0 5 false := by
  have apart := valid.apart
  have room := valid.room
  have behind := checksumOffset_eq p
  have stored : word (refresh p) 10 = word (headerRefreshed p) 10 :=
    (word_eq_iff _ _ 10).mpr ⟨byte_refresh_header (.inl (by omega)),byte_refresh_header (.inl (by omega))⟩
  rw [stored,headerRefreshed,word_storeCheckSum (by omega)]

/-- What the header has beside its checksum is what was summed. -/
theorem ValidHeader.headerRest_refresh {p : Packet} (valid : ValidHeader p) : headerRest (refresh p) = headerRest p := by
  have behind := checksumOffset_eq p
  rw [headerRest,valid.shape_refresh.words]
  refine selectedSum_congr 0 (fun num few other => ?_) (by simp)
  have inside : 2 * num + 2 ≤ transport p := by unfold transport; omega
  rw [word_eq_iff]
  exact ⟨byte_refresh (by omega) (fun _ => by omega),byte_refresh (by omega) (fun _ => by omega)⟩

theorem ValidHeader.headerVerifies_iff {p : Packet} (valid : ValidHeader p) :
    HeaderVerifies (refresh p) ↔ OneCarry 65536 (headerRest p) := by
  have words := valid.words
  have small := headerRest_lt p
  have sum : receivedSum (refresh p) (headerWords (refresh p) * 2) 0 false =
      headerRest p + (65536 - 1 - addCarry 65536 (headerRest p)) := by
    have inside : 5 < headerWords (refresh p) * 2 := by
      rw [valid.shape_refresh.words]
      omega
    have rest : selectedSum (refresh p) (headerWords (refresh p) * 2) 0 5 false = headerRest p := valid.headerRest_refresh
    rw [receivedSum_eq _ inside,rest,valid.word_header,calculateCheckSum_toNat,headerRest]
  rw [HeaderVerifies,sum]
  exact fold_add_complement_iff (by omega) (by omega)

/-! ### The datagram -/

theorem length_datagram {p : Packet} (valid : ValidHeader p) (rest : List UInt8) :
    (datagram p rest).length = (totalLength p).toNat - transport p + rest.length := by
  have := valid.total
  rw [datagram,List.length_append,List.length_drop,List.length_take,Nat.min_eq_left this]

theorem byte_datagram {p : Packet} (valid : ValidHeader p) (rest : List UInt8) {i : Nat}
    (inside : transport p + i < (totalLength p).toNat) : byte (datagram p rest) i = byte p (transport p + i) := by
  have := valid.total
  rw [datagram,byte_append _ _ (by rw [List.length_drop,List.length_take]; omega),byte_drop,byte_take _ inside]

theorem byte_datagram_rest {p : Packet} (valid : ValidHeader p) (rest : List UInt8) {i : Nat}
    (outside : ¬ transport p + i < (totalLength p).toNat) :
    byte (datagram p rest) i = byte rest (i - ((totalLength p).toNat - transport p)) := by
  have := valid.header
  have length := length_datagram valid []
  simp only [datagram,List.append_nil,List.length_nil,Nat.add_zero] at length
  simp only [datagram,byte,List.getD_eq_getElem?_getD]
  rw [List.getElem?_append_right (by omega),length]

section
variable {p : Packet} (valid : ValidHeader p) (rest : List UInt8)
include valid

/-- Only the checksum of the datagram is new. -/
theorem byte_datagram_refresh {i : Nat} (outside : i < 2 * checksumWord p ∨ 2 * checksumWord p + 2 ≤ i) :
    byte (datagram (refresh p) rest) i = byte (datagram p rest) i := by
  have shape := valid.shape_refresh
  have valid' := shape.validHeader (length_refresh p) valid
  have apart := valid.apart
  have behind := checksumOffset_eq p
  by_cases inside : transport p + i < (totalLength p).toNat
  · rw [byte_datagram valid' rest (by rwa [shape.transport,shape.total]),byte_datagram valid rest inside,shape.transport]
    exact byte_refresh (by omega) (fun _ => by omega)
  · rw [byte_datagram_rest valid' rest (by rwa [shape.transport,shape.total]),byte_datagram_rest valid rest inside,
      shape.transport,shape.total]

theorem datagramLength_refresh : datagramLength (refresh p) rest = datagramLength p rest := by
  have shape := valid.shape_refresh
  have valid' := shape.validHeader (length_refresh p) valid
  have apart := valid.apart
  unfold datagramLength
  rw [shape.protocol,shape.transport,length_datagram valid',length_datagram valid,shape.total,shape.transport]
  split
  · rename_i udp
    have place : checksumOffset p = transport p + 6 := if_pos udp
    rw [(word_eq_iff p (refresh p) (transport p + 4)).mpr
      ⟨byte_refresh (by omega) (fun _ => by omega),byte_refresh (by omega) (fun _ => by omega)⟩]
  · rfl

theorem arrived_refresh : Arrived (refresh p) rest ↔ Arrived p rest := by
  have shape := valid.shape_refresh
  have valid' := shape.validHeader (length_refresh p) valid
  have length := datagramLength_refresh valid rest
  have lengths : (datagram (refresh p) rest).length = (datagram p rest).length := by
    rw [length_datagram valid',length_datagram valid,shape.total,shape.transport]
  constructor
  · rintro ⟨checksum,whole⟩
    exact ⟨by rwa [length,shape.checksumWord] at checksum,by rwa [length,lengths] at whole⟩
  · rintro ⟨checksum,whole⟩
    exact ⟨by rwa [length,shape.checksumWord],by rwa [length,lengths]⟩

theorem pseudoOf_refresh (length : Nat) : pseudoOf (refresh p) length = pseudoOf p length := by
  have apart := valid.apart
  have behind := checksumOffset_eq p
  have words : ∀ i, 12 ≤ i → i < 19 → word (refresh p) i = word p i := fun i first last =>
    (word_eq_iff p _ i).mpr ⟨byte_refresh (by omega) (fun _ => by omega),byte_refresh (by omega) (fun _ => by omega)⟩
  unfold pseudoOf
  rw [words 12 (by omega) (by omega),words 14 (by omega) (by omega),words 16 (by omega) (by omega),
    words 18 (by omega) (by omega),valid.shape_refresh.protocol]

variable (starts : StartsTransport p)
include starts

theorem word_datagram_refresh : word (datagram (refresh p) rest) (2 * checksumWord p) = transportCheckSum p := by
  have shape := valid.shape_refresh
  have valid' := shape.validHeader (length_refresh p) valid
  have behind := checksumOffset_eq p
  have checksum := starts.checksum
  have total := valid.total
  have same : ∀ i, transport p + i < (totalLength p).toNat →
      byte (datagram (refresh p) rest) i = byte (refresh p) (transport p + i) := by
    intro i inside
    rw [byte_datagram valid' rest (by rwa [shape.transport,shape.total]),shape.transport]
  have stored : word (refresh p) (checksumOffset p) = transportCheckSum p := by
    have fits : checksumOffset p + 2 ≤ (headerRefreshed p).length := by
      rw [headerRefreshed,length_storeCheckSum]
      omega
    rw [refresh_eq,if_pos starts.known,word_storeCheckSum fits,valid.sum_headerRefreshed]
  rw [← stored,word,same _ (by omega),same _ (by omega),word,behind,Nat.add_assoc]

/-- The receiver adds the code's checksum to what it sums itself. -/
theorem receivedSum_refresh (arrived : Arrived p rest) :
    receivedSum (datagram (refresh p) rest) (datagramLength p rest / 2) (pseudoOf (refresh p) (datagramLength p rest))
      (datagramLength p rest % 2 = 1) = datagramRest p rest + (65536 - 1 - addCarry 65536 (transportRest p)) := by
  have inside : checksumWord p < datagramLength p rest / 2 := by
    have := arrived.checksum
    omega
  have outside : ∀ i, i < 2 * checksumWord p ∨ 2 * checksumWord p + 2 ≤ i →
      byte (datagram (refresh p) rest) i = byte (datagram p rest) i := fun i => byte_datagram_refresh valid rest
  have same : selectedSum (datagram (refresh p) rest) (datagramLength p rest / 2) (pseudoOf p (datagramLength p rest))
      (checksumWord p) (datagramLength p rest % 2 = 1) = datagramRest p rest := by
    refine selectedSum_congr _ (fun num _ other => ?_) (fun _ => outside _ (by omega))
    rw [word_eq_iff]
    exact ⟨outside _ (by omega),outside _ (by omega)⟩
  rw [receivedSum_eq _ inside,pseudoOf_refresh valid,same,word_datagram_refresh valid rest starts,transportCheckSum,
    calculateCheckSum_toNat,transportRest]

omit valid in
theorem datagramRest_pos : 0 < datagramRest p rest := by
  have known := starts.known
  have positive : 0 < (protocol p).toNat := by
    simp only [hasChecksum,Bool.or_eq_true,decide_eq_true_eq] at known
    rcases known with udp | tcp
    · rw [udp]; decide
    · rw [tcp]; decide
  unfold datagramRest selectedSum pseudoOf
  omega

/-- A receiver accepts the start of a datagram if what it sums agrees with what the
    code has summed. -/
theorem datagramVerifies_iff : DatagramVerifies (refresh p) rest ↔ Arrived p rest ∧
    (protocol p = 17 ∧ transportCheckSum p = 0 ∨
      datagramRest p rest + (if OneCarry 65536 (transportRest p) then 0 else 1) ≡ transportRest p [MOD 65535]) := by
  have small := valid.transportRest_lt
  have shape := valid.shape_refresh
  have unchecked : protocol (refresh p) = 17 ∧ word (datagram (refresh p) rest) (2 * checksumWord (refresh p)) = 0 ↔
      protocol p = 17 ∧ transportCheckSum p = 0 := by
    rw [shape.protocol,shape.checksumWord,word_datagram_refresh valid rest starts]
  have accepts : Arrived p rest → (fold 65536 (receivedSum (datagram (refresh p) rest) (datagramLength p rest / 2)
      (pseudoOf (refresh p) (datagramLength p rest)) (datagramLength p rest % 2 = 1)) = 65535 ↔
      datagramRest p rest + (if OneCarry 65536 (transportRest p) then 0 else 1) ≡ transportRest p [MOD 65535]) := by
    intro arrived
    rw [receivedSum_refresh valid rest starts arrived]
    exact fold_complement_iff (by omega) (by omega) (datagramRest_pos rest starts)
  constructor
  · rintro ⟨arrived,sum⟩
    have arrived' := (arrived_refresh valid rest).mp arrived
    rw [unchecked,datagramLength_refresh valid,accepts arrived'] at sum
    exact ⟨arrived',sum⟩
  · rintro ⟨arrived,agrees⟩
    refine ⟨(arrived_refresh valid rest).mpr arrived,?_⟩
    rwa [unchecked,datagramLength_refresh valid,accepts arrived]

end

section
variable {p : Packet}

theorem WholeTransport.datagramLength (whole : WholeTransport p) (valid : ValidHeader p) :
    datagramLength p [] = (totalLength p).toNat - transport p := by
  unfold Packet.datagramLength
  split
  · rename_i udp
    have := whole.udpLength udp
    omega
  · rw [length_datagram valid,List.length_nil,Nat.add_zero]

theorem WholeTransport.arrived (whole : WholeTransport p) (valid : ValidHeader p) : Arrived p [] := by
  have checksum := whole.checksum
  have behind := checksumOffset_eq p
  refine ⟨?_,?_⟩
  · rw [whole.datagramLength valid]
    omega
  · rw [whole.datagramLength valid,length_datagram valid]
    omega

/-- Of a whole datagram both sum the same. -/
theorem WholeTransport.datagramRest (whole : WholeTransport p) (valid : ValidHeader p) :
    datagramRest p [] = transportRest p := by
  have header := valid.header
  have bound := (totalLength p).toNat_lt
  have even : transport p % 4 = 0 := Nat.mul_mod_left _ _
  have pseudo : pseudoOf p ((totalLength p).toNat - transport p) = pseudoSum p := by
    unfold pseudoOf pseudoSum
    rw [show (totalLength p).toNat + 65536 - transport p = (totalLength p).toNat - transport p + 65536 by omega,
      Nat.add_mod_right,Nat.mod_eq_of_lt (by omega)]
  have odd : decide (((totalLength p).toNat - transport p) % 2 = 1) = oddLength p := by
    unfold oddLength
    rw [decide_eq_decide]
    omega
  unfold Packet.datagramRest transportRest
  rw [whole.datagramLength valid,pseudo,odd]
  have bytes : ∀ i, transport p + i < (totalLength p).toNat → byte (datagram p []) i = byte (p.drop (transport p)) i := by
    intro i inside
    rw [byte_datagram valid [] inside,byte_drop]
  refine selectedSum_congr _ (fun num few _ => ?_) (fun isOdd => bytes _ ?_)
  · have few : num < ((totalLength p).toNat - transport p) / 2 := few
    rw [word_eq_iff]
    exact ⟨bytes _ (by omega),bytes _ (by omega)⟩
  · have : (totalLength p).toNat % 2 = 1 := of_decide_eq_true isOdd
    omega

/-- A checksum of zero has all ones complemented, for which one carry was enough. -/
theorem ValidHeader.oneCarry_of_zero (valid : ValidHeader p) (zero : transportCheckSum p = 0) :
    OneCarry 65536 (transportRest p) := by
  have small := valid.transportRest_lt
  have value := congrArg UInt16.toNat zero
  rw [transportCheckSum,calculateCheckSum_toNat,← transportRest,addCarry] at value
  have nothing : (0 : UInt16).toNat = 0 := rfl
  unfold OneCarry
  omega

theorem WholeTransport.verifies_iff (whole : WholeTransport p) (valid : ValidHeader p) :
    DatagramVerifies (refresh p) [] ↔ OneCarry 65536 (transportRest p) := by
  rw [datagramVerifies_iff valid [] whole.toStartsTransport,whole.datagramRest valid,and_iff_right (whole.arrived valid)]
  have carries := @add_missing_iff 65536 (by omega) (transportRest p)
  exact (or_congr_right carries).trans (or_iff_right_of_imp (fun unchecked => valid.oneCarry_of_zero unchecked.2))

end

/-! ### What is rewritten -/

/-- At most the addresses and ports differ. -/
structure Readdressed (data p : Packet) : Prop where
  length : p.length = data.length
  bytes : ∀ i, i < 12 ∨ 20 ≤ i → i < transport data ∨ transport data + 4 ≤ i → byte p i = byte data i

section
variable {data p : Packet}

theorem Readdressed.shape (same : Readdressed data p) (valid : ValidHeader data) : SameShape data p := by
  have := valid.apart
  exact shape_of_bytes (fun i small => same.bytes i (by omega) (by omega))

theorem Readdressed.startsTransport (same : Readdressed data p) (valid : ValidHeader data)
    (starts : StartsTransport data) : StartsTransport p := by
  have shape := same.shape valid
  refine ⟨?_,?_,?_⟩
  · rw [shape.hasChecksum]
    exact starts.known
  · rw [fragmentOffset,shape.fragment]
    exact starts.first
  · rw [shape.checksumOffset,shape.total]
    exact starts.checksum

theorem Readdressed.wholeTransport (same : Readdressed data p) (valid : ValidHeader data)
    (whole : WholeTransport data) : WholeTransport p := by
  have shape := same.shape valid
  have apart := valid.apart
  refine ⟨same.startsTransport valid whole.toStartsTransport,?_,?_⟩
  · rw [moreFragments,shape.fragment]
    exact whole.last
  · rw [shape.protocol,shape.transport,shape.total,(word_eq_iff data p (transport data + 4)).mpr
      ⟨same.bytes _ (by omega) (by omega),same.bytes _ (by omega) (by omega)⟩]
    exact whole.udpLength

end

theorem readdressed_overwrite (data : Packet) (side : Side) (a : IPv4) (port : UInt16) :
    Readdressed data (overwrite side a port data) := by
  have address := addressOffset_bounds side
  have ports : transport data ≤ portOffset data side ∧ portOffset data side + 2 ≤ transport data + 4 := by
    cases side <;> simp [portOffset]
  exact ⟨length_overwrite,fun i _ _ => byte_overwrite (by omega) (by omega)⟩

theorem readdressed_copy (data : Packet) {at' : Nat} (first : 12 ≤ at') (last : at' ≤ 16) (a : IPv4) :
    Readdressed data (copy data at' (addressBytes a)) := by
  have four : (addressBytes a).length = 4 := rfl
  exact ⟨length_copy _ _ _,fun i _ _ => byte_copy_outside _ (by omega)⟩

end Packet

open Packet

/-- A packet that the access point or the gateway rewrites: as it comes, with addresses
    and ports overwritten, and as it leaves. What follows it in the buffer is old. -/
inductive Rewritten : Packet → Packet → Packet → Prop where
  | accessPoint {cfg : APConfig} {ap : AccessPoint} {side : Side} {a : IPv4} {port : UInt16} {data out : Packet}
    (rewrites : AccessPoint.Rewrites cfg ap side a port data out) : Rewritten data (overwrite side a port data) out
  | gatewayUplink {cfg : GatewayConfig} {table table' : Buckets GatewayMap} {data behind buffer : Packet}
    (inside : inSubnet cfg.subnet (Packet.tuple (data ++ behind)).sourceIP = true)
    (handled : Gateway.handleUplink cfg table (data ++ behind) = some (table',buffer)) :
    Rewritten data (data.setSourceAddress cfg.ifIP) (buffer.take data.length)
  | gatewayDownlink {cfg : GatewayConfig} {table : Buckets GatewayMap} {data behind buffer : Packet} {nMap : GatewayMap}
    (found : Gateway.route cfg table (data ++ behind) = some (some nMap))
    (handled : Gateway.handleDownlink cfg table (data ++ behind) = some buffer) :
    Rewritten data (data.setDestinationAddress nMap.srcAddr) (buffer.take data.length)

section
variable {data p out : Packet} (rewritten : Rewritten data p out)
include rewritten

theorem Rewritten.readdressed : Readdressed data p := by
  cases rewritten with
  | accessPoint rewrites => exact readdressed_overwrite data _ _ _
  | gatewayUplink inside handled => exact readdressed_copy data (by omega) (by omega) _
  | gatewayDownlink found handled => exact readdressed_copy data (by omega) (by omega) _

/-- Either program refreshes the checksums last. -/
theorem Rewritten.refreshed (valid : data.ValidHeader) : out = refresh p := by
  have valid' : ValidHeader p := by
    have same := rewritten.readdressed
    exact (same.shape valid).validHeader same.length valid
  have address : ∀ (behind : Packet) (i : Nat) (a : IPv4), ValidHeader (copy data i (addressBytes a)) →
      (refresh (copy (data ++ behind) i (addressBytes a))).take data.length = refresh (copy data i (addressBytes a)) := by
    intro behind i a valid'
    have same := (sameStart_append data behind).copy i (addressBytes a)
    have taken := valid'.take_refresh (by rwa [length_copy])
    rwa [length_copy] at taken
  cases rewritten with
  | accessPoint rewrites => exact rewrites.translate valid
  | @gatewayUplink cfg _ _ _ behind _ inside handled =>
    rw [Gateway.handleUplink,if_pos inside,Option.map_eq_some_iff] at handled
    obtain ⟨_,_,same⟩ := handled
    rw [← (Prod.mk.inj same).2]
    exact address behind 12 _ valid'
  | @gatewayDownlink cfg _ _ behind _ nMap found handled =>
    rw [Gateway.handleDownlink,found] at handled
    rw [← Option.some.inj handled]
    exact address behind 16 _ valid'

end

/-- The checksum is the Internet checksum, and a receiver accepts the header that either
    program has rewritten and the datagram that it carries whole, exactly if adding the
    carry does not carry again. It accepts a datagram that only starts there, or says
    another length, if its own sum agrees with what was summed. -/
theorem checksum_verifies_iff (data : Packet) :
    (∀ last headerSum skip odd, selectedSum data last headerSum skip odd < 2 ^ 31 →
      (calculateCheckSum data last headerSum skip odd = internetChecksum (selectedSum data last headerSum skip odd) ↔
        OneCarry 65536 (selectedSum data last headerSum skip odd))) ∧
    ∀ p out, Rewritten data p out → data.ValidHeader →
      (HeaderVerifies out ↔ OneCarry 65536 p.headerRest) ∧
      (data.WholeTransport → (DatagramVerifies out [] ↔ OneCarry 65536 p.transportRest)) ∧
      (data.StartsTransport → ∀ rest, DatagramVerifies out rest ↔ p.Arrived rest ∧
        (p.protocol = 17 ∧ p.transportCheckSum = 0 ∨
          p.datagramRest rest + (if OneCarry 65536 p.transportRest then 0 else 1) ≡ p.transportRest [MOD 65535])) := by
  refine ⟨fun last headerSum skip odd small => calculateCheckSum_iff small,fun p out rewritten valid => ?_⟩
  have same := rewritten.readdressed
  have valid' := (same.shape valid).validHeader same.length valid
  rw [rewritten.refreshed valid]
  exact ⟨valid'.headerVerifies_iff,fun whole => (same.wholeTransport valid whole).verifies_iff valid',
    fun starts rest => datagramVerifies_iff valid' rest (same.startsTransport valid starts)⟩

open AccessPoint (laboratory knowing query)

theorem query_accepted : ∃ p out, Rewritten query p out ∧ HeaderVerifies out ∧ DatagramVerifies out [] := by
  have rewrites := @AccessPoint.found_rewrites laboratory (knowing query) query ⟨query.tuple,49152⟩ (by decide) (by decide)
  obtain ⟨header,transport,_⟩ := (checksum_verifies_iff query).2 _ _ (.accessPoint rewrites) (by decide)
  exact ⟨_,_,.accessPoint rewrites,header.mpr (by decide +kernel),(transport (by decide)).mpr (by decide +kernel)⟩

/-- Once its source is overwritten, both sums of this packet have all ones in their low
    half and a carry. -/
def damaged : Packet :=
  [69,0,0,30,58,245,0,0,64,17,0,0,192,168,5,2,93,184,216,34,19,136,0,53,0,10,0,0,255,202]

theorem second_carry_dropped :
    calculateCheckSum [255,255,255,255,0,1] 3 0 3 false ≠
      internetChecksum (selectedSum [255,255,255,255,0,1] 3 0 3 false) ∧
    ∃ p out, Rewritten damaged p out ∧ damaged.ValidHeader ∧ damaged.WholeTransport ∧ ¬ HeaderVerifies out ∧
      ¬ DatagramVerifies out [] := by
  have rewrites := @AccessPoint.found_rewrites laboratory (knowing damaged) damaged ⟨damaged.tuple,49152⟩
    (by decide) (by decide)
  have valid : damaged.ValidHeader := by decide
  have whole : damaged.WholeTransport := by decide
  have rewritten := Rewritten.accessPoint rewrites
  have same := rewritten.readdressed
  have valid' := (same.shape valid).validHeader same.length valid
  refine ⟨?_,_,_,rewritten,valid,whole,?_,?_⟩
  · rw [Ne,calculateCheckSum_iff (by decide +kernel)]
    decide +kernel
  · rw [rewritten.refreshed valid,valid'.headerVerifies_iff]
    decide +kernel
  · rw [rewritten.refreshed valid,(same.wholeTransport valid whole).verifies_iff valid']
    decide +kernel

end Handover
