import Handover.AccessPointSpec

/-!
What the translation of a packet may change. The access point writes the port of a
flow to where a TCP or UDP header has it before it looks at the protocol, and the
transport checksum without a look at the fragment offset. In the IP header only the
address and the checksum change; behind it only the port and the checksum do where
they are, but any other packet has its payload overwritten.
-/
namespace Handover
open Bytes

/-- The end of a packet that is translated: the source in queue 0, the destination in
    queue 1. -/
inductive Side where
  | source
  | destination
deriving DecidableEq

namespace Packet

def addressOffset : Side → Nat
  | .source => 12
  | .destination => 16

def portOffset (p : Packet) : Side → Nat
  | .source => transport p
  | .destination => transport p + 2

/-- Where a UDP header has its checksum, and where any other has that of TCP. -/
def checksumOffset (p : Packet) : Nat := if protocol p = 17 then transport p + 6 else transport p + 16

/-- The 13 bits of `flags_fo`, in units of eight bytes. -/
def fragmentOffset (p : Packet) : Nat := (word p 6).toNat % 8192

/-- The flag before them: this is not the last fragment. -/
def moreFragments (p : Packet) : Bool := (word p 6).toNat / 8192 % 2 = 1

/-- The protocols that have a checksum behind the IP header. -/
def hasChecksum (p : Packet) : Bool := protocol p = 17 || protocol p = 6

/-- The packet starts with a TCP or UDP header. -/
def carriesPorts (p : Packet) : Bool := hasChecksum p && fragmentOffset p = 0

/-- The packet with one address and port overwritten. -/
def overwrite (side : Side) (a : IPv4) (port : UInt16) (p : Packet) : Packet :=
  copy (copy p (portOffset p side) (wordBytes port)) (addressOffset side) (addressBytes a)

def translate (side : Side) (a : IPv4) (port : UInt16) (p : Packet) : Packet := refresh (overwrite side a port p)

/-- The packet has a whole IPv4 header, and is no shorter than the header says. -/
structure ValidHeader (p : Packet) : Prop where
  words : 5 ≤ headerWords p
  header : transport p ≤ (totalLength p).toNat
  total : (totalLength p).toNat ≤ p.length

instance (p : Packet) : Decidable (ValidHeader p) :=
  decidable_of_iff (5 ≤ headerWords p ∧ transport p ≤ (totalLength p).toNat ∧ (totalLength p).toNat ≤ p.length)
    ⟨fun all => ⟨all.1,all.2.1,all.2.2⟩,fun valid => ⟨valid.1,valid.2,valid.3⟩⟩

/-- The bytes that translation is for. -/
def mayChange (side : Side) (p : Packet) (i : Nat) : Prop :=
  (10 ≤ i ∧ i < 12) ∨ (addressOffset side ≤ i ∧ i < addressOffset side + 4) ∨
    carriesPorts p ∧ ((portOffset p side ≤ i ∧ i < portOffset p side + 2) ∨
      (checksumOffset p ≤ i ∧ i < checksumOffset p + 2))

instance (side : Side) (p : Packet) (i : Nat) : Decidable (mayChange side p i) := by
  unfold mayChange
  infer_instance

/-- Only those bytes differ. -/
structure OnlyTranslated (side : Side) (p q : Packet) : Prop where
  length : q.length = p.length
  bytes : ∀ i, ¬ mayChange side p i → byte q i = byte p i

theorem ValidHeader.apart {p : Packet} (valid : ValidHeader p) : 20 ≤ transport p := by
  have := valid.words
  unfold transport
  omega

theorem ValidHeader.room {p : Packet} (valid : ValidHeader p) : transport p ≤ p.length := valid.header.trans valid.total

/-! ### Where the checksums go -/

theorem length_storeCheckSum (p : Packet) (i : Nat) (checksum : UInt16) :
    (storeCheckSum p i checksum).length = p.length := by
  unfold storeCheckSum
  split
  · exact length_copy p i _
  · rfl

/-- The checksum is there afterwards, as far as there is room for it. -/
theorem byte_storeCheckSum_eq (p : Packet) (i : Nat) (checksum : UInt16) (j : Nat) :
    byte (storeCheckSum p i checksum) j =
      if i ≤ j ∧ j < i + 2 ∧ j < p.length then byte (wordBytes checksum) (j - i) else byte p j := by
  unfold storeCheckSum
  split
  · exact byte_copy p i (wordBytes checksum) j
  · rename_i same
    split
    · rename_i inside
      rw [← not_not.mp same,wordBytes_word]
      obtain rfl | rfl : j = i ∨ j = i + 1 := by omega
      · rw [Nat.sub_self]
        rfl
      · rw [Nat.add_sub_cancel_left]
        rfl
    · rfl

theorem byte_storeCheckSum (p : Packet) {i j : Nat} (checksum : UInt16) (outside : j < i ∨ i + 2 ≤ j) :
    byte (storeCheckSum p i checksum) j = byte p j := by
  rw [byte_storeCheckSum_eq,if_neg (by omega)]

theorem word_storeCheckSum {p : Packet} {i : Nat} (fits : i + 2 ≤ p.length) (checksum : UInt16) :
    word (storeCheckSum p i checksum) i = checksum := by
  unfold storeCheckSum
  split
  · exact word_copy_inside fits checksum
  · rename_i same
    exact not_not.mp same

/-- What says how a packet is taken apart. -/
structure SameShape (p q : Packet) : Prop where
  words : headerWords q = headerWords p
  total : totalLength q = totalLength p
  protocol : Packet.protocol q = Packet.protocol p
  fragment : word q 6 = word p 6

theorem shape_of_bytes {p q : Packet} (same : ∀ i < 10, byte q i = byte p i) : SameShape p q where
  words := by rw [headerWords,same 0 (by omega),headerWords]
  total := (word_eq_iff p q 2).mpr ⟨same 2 (by omega),same 3 (by omega)⟩
  protocol := same 9 (by omega)
  fragment := (word_eq_iff p q 6).mpr ⟨same 6 (by omega),same 7 (by omega)⟩

section
variable {p q : Packet}

theorem SameShape.transport (same : SameShape p q) : Packet.transport q = Packet.transport p := by
  rw [Packet.transport,same.words,Packet.transport]

theorem SameShape.hasChecksum (same : SameShape p q) : Packet.hasChecksum q = Packet.hasChecksum p := by
  rw [Packet.hasChecksum,same.protocol,Packet.hasChecksum]

theorem SameShape.checksumOffset (same : SameShape p q) : Packet.checksumOffset q = Packet.checksumOffset p := by
  rw [Packet.checksumOffset,same.protocol,same.transport,Packet.checksumOffset]

theorem SameShape.portOffset (same : SameShape p q) (side : Side) : Packet.portOffset q side = Packet.portOffset p side := by
  cases side <;> simp only [Packet.portOffset,same.transport]

end

/-- The packet once its header checksum is refreshed. -/
def headerRefreshed (p : Packet) : Packet := storeCheckSum p 10 (calculateCheckSum p (headerWords p * 2) 0 5 false)

/-- The word of the transport header that has its checksum. -/
def checksumWord (p : Packet) : Nat := if protocol p = 17 then 3 else 8

/-- How many words the transport checksum covers. -/
def transportWords (p : Packet) : Nat := ((totalLength p).toNat - transport p) / 2

/-- A byte is left over behind them. -/
def oddLength (p : Packet) : Bool := (totalLength p).toNat % 2 = 1

def transportCheckSum (p : Packet) : UInt16 :=
  calculateCheckSum (p.drop (transport p)) (transportWords p) (pseudoSum p) (checksumWord p) (oddLength p)

theorem byte_headerRefreshed (p : Packet) {i : Nat} (outside : i < 10 ∨ 12 ≤ i) :
    byte (headerRefreshed p) i = byte p i :=
  byte_storeCheckSum p _ outside

theorem shape_headerRefreshed (p : Packet) : SameShape p (headerRefreshed p) :=
  shape_of_bytes (fun _ small => byte_headerRefreshed p (.inl small))

theorem refresh_eq (p : Packet) :
    refresh p = if hasChecksum p then
      storeCheckSum (headerRefreshed p) (checksumOffset p) (transportCheckSum (headerRefreshed p))
    else headerRefreshed p := by
  have same := shape_headerRefreshed p
  unfold refresh
  simp only [← headerRefreshed.eq_1,same.protocol,same.transport]
  unfold hasChecksum checksumOffset transportCheckSum checksumWord
  rw [same.protocol,same.transport]
  by_cases udp : protocol p = 17
  · simp [udp,transportWords,oddLength,same.transport]
  · by_cases tcp : protocol p = 6
    · simp [tcp,transportWords,oddLength,same.transport]
    · simp [udp,tcp]

theorem length_refresh (p : Packet) : (refresh p).length = p.length := by
  rw [refresh_eq]
  split
  · rw [length_storeCheckSum,headerRefreshed,length_storeCheckSum]
  · exact length_storeCheckSum p 10 _

/-- Refreshing changes the checksums only. -/
theorem byte_refresh {p : Packet} {i : Nat} (header : i < 10 ∨ 12 ≤ i)
    (behind : hasChecksum p → i < checksumOffset p ∨ checksumOffset p + 2 ≤ i) : byte (refresh p) i = byte p i := by
  rw [refresh_eq]
  split
  · rename_i isTransport
    rw [byte_storeCheckSum _ _ (behind isTransport),byte_headerRefreshed p header]
  · exact byte_headerRefreshed p header

/-- The word that holds the checksum does not count. -/
theorem calculateCheckSum_congr {data data' : List UInt8} {last skip : Nat} (headerSum : Nat) {odd : Bool}
    (words : ∀ num < last, num ≠ skip → word data' (2 * num) = word data (2 * num))
    (left : odd = true → byte data' (2 * last) = byte data (2 * last)) :
    calculateCheckSum data' last headerSum skip odd = calculateCheckSum data last headerSum skip odd := by
  have sums : (List.range last).foldl
        (fun sum num => if num = skip then sum else sum + (word data' (2 * num)).toNat) headerSum =
      (List.range last).foldl
        (fun sum num => if num = skip then sum else sum + (word data (2 * num)).toNat) headerSum := by
    refine List.foldl_ext _ _ _ (fun sum num member => ?_)
    by_cases isSkip : num = skip
    · rw [if_pos isSkip,if_pos isSkip]
    · rw [if_neg isSkip,if_neg isSkip,words num (List.mem_range.mp member) isSkip]
  unfold calculateCheckSum
  dsimp only
  rw [sums]
  cases odd with
  | false => simp only [Bool.false_eq_true,if_false]
  | true => simp only [if_true,word_high,left rfl]

theorem checksumOffset_eq (p : Packet) : checksumOffset p = transport p + 2 * checksumWord p := by
  unfold checksumOffset checksumWord
  split <;> rfl

section
variable {p q : Packet}

theorem SameShape.transportWords (same : SameShape p q) : Packet.transportWords q = Packet.transportWords p := by
  rw [Packet.transportWords,same.total,same.transport,Packet.transportWords]

theorem SameShape.checksumWord (same : SameShape p q) : Packet.checksumWord q = Packet.checksumWord p := by
  rw [Packet.checksumWord,same.protocol,Packet.checksumWord]

theorem SameShape.oddLength (same : SameShape p q) : Packet.oddLength q = Packet.oddLength p := by
  rw [Packet.oddLength,same.total,Packet.oddLength]

theorem SameShape.pseudoSum (same : SameShape p q) (addresses : ∀ i, 12 ≤ i → i < 20 → byte q i = byte p i) :
    Packet.pseudoSum q = Packet.pseudoSum p := by
  have words : ∀ i, 12 ≤ i → i < 19 → word q i = word p i := fun i first last =>
    (word_eq_iff p q i).mpr ⟨addresses i first (by omega),addresses (i+1) (by omega) (by omega)⟩
  unfold Packet.pseudoSum
  rw [words 12 (by omega) (by omega),words 14 (by omega) (by omega),words 16 (by omega) (by omega),
    words 18 (by omega) (by omega),same.protocol,same.total,same.transport]

/-- The transport checksum is one of the addresses and of what the header counts behind
    itself, but the checksum where that is whole. -/
theorem SameShape.transportCheckSum (same : SameShape p q) (header : Packet.transport p ≤ (totalLength p).toNat)
    (addresses : ∀ i, 12 ≤ i → i < 20 → byte q i = byte p i)
    (payload : ∀ i, Packet.transport p ≤ i → i < (totalLength p).toNat → (Packet.checksumOffset p + 2 ≤ (totalLength p).toNat →
      i < Packet.checksumOffset p ∨ Packet.checksumOffset p + 2 ≤ i) → byte q i = byte p i) :
    Packet.transportCheckSum q = Packet.transportCheckSum p := by
  have even : Packet.transport p % 4 = 0 := Nat.mul_mod_left _ _
  have place := checksumOffset_eq p
  unfold Packet.transportCheckSum
  rw [same.pseudoSum addresses,same.transportWords,same.checksumWord,same.oddLength,same.transport]
  refine calculateCheckSum_congr _ (fun num few other => ?_) (fun isOdd => ?_)
  · have inside : Packet.transport p + 2 * num + 1 < (totalLength p).toNat := by
      unfold Packet.transportWords at few
      omega
    rw [word_drop,word_drop,word_eq_iff]
    exact ⟨payload _ (by omega) (by omega) (by omega),payload _ (by omega) (by omega) (by omega)⟩
  · have odd : (totalLength p).toNat % 2 = 1 := of_decide_eq_true isOdd
    have last : Packet.transport p + 2 * Packet.transportWords p + 1 = (totalLength p).toNat := by
      unfold Packet.transportWords
      omega
    rw [byte_drop,byte_drop]
    exact payload _ (by omega) (by omega) (by omega)

end

theorem ValidHeader.sum_headerRefreshed {p : Packet} (valid : ValidHeader p) :
    transportCheckSum (headerRefreshed p) = transportCheckSum p := by
  have := valid.apart
  exact (shape_headerRefreshed p).transportCheckSum valid.header (fun i _ _ => byte_headerRefreshed p (by omega))
    (fun i _ _ _ => byte_headerRefreshed p (by omega))

/-! ### What follows the packet in the buffer -/

/-- The first bytes are the same. -/
structure SameStart (n : Nat) (p q : Packet) : Prop where
  first : n ≤ p.length
  second : n ≤ q.length
  bytes : ∀ i < n, byte q i = byte p i

theorem sameStart_append (p behind : Packet) : SameStart p.length p (p ++ behind) :=
  ⟨le_rfl,by simp,fun _ inside => byte_append p behind inside⟩

section
variable {n : Nat} {p q : Packet}

theorem SameStart.copy (same : SameStart n p q) (i : Nat) (bytes : List UInt8) :
    SameStart n (copy p i bytes) (copy q i bytes) := by
  obtain ⟨first,second,here⟩ := same
  refine ⟨by rwa [length_copy],by rwa [length_copy],fun j inside => ?_⟩
  rw [byte_copy,byte_copy,here j inside]
  simp only [show j < p.length by omega,show j < q.length by omega]

theorem SameStart.storeCheckSum (same : SameStart n p q) (i : Nat) (checksum : UInt16) :
    SameStart n (storeCheckSum p i checksum) (storeCheckSum q i checksum) := by
  obtain ⟨first,second,here⟩ := same
  refine ⟨by rwa [length_storeCheckSum],by rwa [length_storeCheckSum],fun j inside => ?_⟩
  rw [byte_storeCheckSum_eq,byte_storeCheckSum_eq,here j inside]
  simp only [show j < p.length by omega,show j < q.length by omega]

/-- Within the packet, refreshing does not depend on what is behind it. -/
theorem SameStart.refresh (same : SameStart n p q) (words : 5 ≤ headerWords p)
    (header : transport p ≤ (totalLength p).toNat) (total : (totalLength p).toNat ≤ n) :
    SameStart n (refresh p) (refresh q) := by
  have apart : 20 ≤ transport p := by unfold transport; omega
  have shape : SameShape p q := shape_of_bytes (fun i small => same.bytes i (by omega))
  have headerSum : calculateCheckSum q (headerWords p * 2) 0 5 false = calculateCheckSum p (headerWords p * 2) 0 5 false := by
    refine calculateCheckSum_congr 0 (fun num few _ => ?_) (by simp)
    have inside : 2 * num + 1 < transport p := by unfold transport; omega
    rw [word_eq_iff]
    exact ⟨same.bytes _ (by omega),same.bytes _ (by omega)⟩
  have refreshed : SameStart n (headerRefreshed p) (headerRefreshed q) := by
    unfold headerRefreshed
    rw [shape.words,headerSum]
    exact same.storeCheckSum 10 _
  rw [refresh_eq,refresh_eq,shape.hasChecksum,shape.checksumOffset]
  split
  · have shape' := shape_headerRefreshed p
    have sum : transportCheckSum (headerRefreshed q) = transportCheckSum (headerRefreshed p) := by
      refine SameShape.transportCheckSum (shape_of_bytes (fun i small => refreshed.bytes i (by omega))) ?_
        (fun i _ small => refreshed.bytes i (by omega)) (fun i _ inside _ => refreshed.bytes i ?_)
      · rwa [shape'.transport,shape'.total]
      · rw [shape'.total] at inside
        omega
    rw [sum]
    exact refreshed.storeCheckSum _ _
  · exact refreshed

end

theorem ValidHeader.take_refresh {p q : Packet} (valid : ValidHeader p) (same : SameStart p.length p q) :
    (refresh q).take p.length = refresh p := by
  have refreshed := same.refresh valid.words valid.header valid.total
  refine ext_byte ?_ (fun i inside => ?_)
  · rw [List.length_take,length_refresh,length_refresh,Nat.min_eq_left same.second]
  · rw [length_refresh] at inside
    rw [byte_take _ inside]
    exact refreshed.bytes i inside

/-! ### What translation changes -/

theorem addressOffset_bounds (side : Side) : 12 ≤ addressOffset side ∧ addressOffset side + 4 ≤ 20 := by
  cases side <;> simp [addressOffset]

theorem ValidHeader.portOffset {p : Packet} (valid : ValidHeader p) (side : Side) :
    20 ≤ Packet.portOffset p side ∧ Packet.portOffset p side + 2 ≤ Packet.checksumOffset p := by
  have := valid.apart
  unfold Packet.checksumOffset
  cases side <;> simp only [Packet.portOffset] <;> split <;> omega

/-- The bytes are there, as far as the packet reaches. -/
def There (p : Packet) (i : Nat) (bytes : List UInt8) : Prop :=
  ∀ j < bytes.length, i + j < p.length → byte p (i + j) = byte bytes j

instance (p : Packet) (i : Nat) (bytes : List UInt8) : Decidable (There p i bytes) := by
  unfold There
  infer_instance

section
variable {side : Side} {a : IPv4} {port : UInt16} {p : Packet}

theorem byte_overwrite {i : Nat} (address : i < addressOffset side ∨ addressOffset side + 4 ≤ i)
    (isPort : i < portOffset p side ∨ portOffset p side + 2 ≤ i) : byte (overwrite side a port p) i = byte p i := by
  rw [overwrite,byte_copy_outside _ address,byte_copy_outside _ isPort]

theorem length_overwrite : (overwrite side a port p).length = p.length := by
  rw [overwrite,length_copy,length_copy]

theorem length_translate : (translate side a port p).length = p.length := by
  rw [translate,length_refresh,length_overwrite]

theorem ValidHeader.shape_overwrite (valid : ValidHeader p) : SameShape p (overwrite side a port p) := by
  have := addressOffset_bounds side
  have := valid.portOffset side
  exact shape_of_bytes (fun i small => byte_overwrite (by omega) (by omega))

theorem SameShape.validHeader {q : Packet} (same : SameShape p q) (length : q.length = p.length) (valid : ValidHeader p) :
    ValidHeader q := by
  refine ⟨?_,?_,?_⟩
  · rw [same.words]
    exact valid.words
  · rw [same.transport,same.total]
    exact valid.header
  · rw [same.total,length]
    exact valid.total

theorem ValidHeader.overwrite (valid : ValidHeader p) : ValidHeader (overwrite side a port p) :=
  valid.shape_overwrite.validHeader length_overwrite valid

/-- What leaves the buffer is the packet translated, whatever is behind it. -/
theorem ValidHeader.translate_append (valid : ValidHeader p) (behind : Packet) :
    (translate side a port (p ++ behind)).take p.length = translate side a port p := by
  have same := sameStart_append p behind
  have apart := valid.apart
  have room := valid.room
  have shape : SameShape p (p ++ behind) := shape_of_bytes (fun i small => same.bytes i (by omega))
  have written : SameStart p.length (Packet.overwrite side a port p) (Packet.overwrite side a port (p ++ behind)) := by
    unfold Packet.overwrite
    rw [shape.portOffset]
    exact (same.copy _ _).copy _ _
  rw [← length_overwrite] at written
  have valid' : ValidHeader (Packet.overwrite side a port p) := valid.overwrite
  have taken := valid'.take_refresh written
  rwa [length_overwrite] at taken

/-- Beside the address, the port and the checksums nothing changes. -/
theorem ValidHeader.byte_translate (valid : ValidHeader p) {i : Nat} (header : i < 10 ∨ 12 ≤ i)
    (address : i < addressOffset side ∨ addressOffset side + 4 ≤ i)
    (isPort : i < Packet.portOffset p side ∨ Packet.portOffset p side + 2 ≤ i)
    (behind : hasChecksum p → i < checksumOffset p ∨ checksumOffset p + 2 ≤ i) :
    byte (translate side a port p) i = byte p i := by
  have same : SameShape p (Packet.overwrite side a port p) := valid.shape_overwrite
  rw [translate,byte_refresh header (by rwa [same.hasChecksum,same.checksumOffset]),byte_overwrite address isPort]

/-- The port is written whatever the packet carries. -/
theorem ValidHeader.byte_port (valid : ValidHeader p) {j : Nat} (small : j < 2)
    (inside : Packet.portOffset p side + j < p.length) :
    byte (translate side a port p) (Packet.portOffset p side + j) = byte (wordBytes port) j := by
  have same : SameShape p (Packet.overwrite side a port p) := valid.shape_overwrite
  have := addressOffset_bounds side
  have bounds := valid.portOffset side
  have four : (addressBytes a).length = 4 := rfl
  have two : (wordBytes port).length = 2 := rfl
  rw [translate,byte_refresh (.inr (by omega)) (fun _ => .inl (by rw [same.checksumOffset]; omega)),Packet.overwrite,
    byte_copy_outside _ (by omega),byte_copy,if_pos (by omega),Nat.add_sub_cancel_left]

/-- So is the checksum, where there is one. -/
theorem ValidHeader.byte_checksum (valid : ValidHeader p) (known : hasChecksum p = true) {j : Nat} (small : j < 2)
    (inside : checksumOffset p + j < p.length) :
    byte (translate side a port p) (checksumOffset p + j) =
      byte (wordBytes (transportCheckSum (Packet.overwrite side a port p))) j := by
  have same : SameShape p (Packet.overwrite side a port p) := valid.shape_overwrite
  have valid' : ValidHeader (Packet.overwrite side a port p) := valid.overwrite
  have length : (headerRefreshed (Packet.overwrite side a port p)).length = p.length := by
    rw [headerRefreshed,length_storeCheckSum,length_overwrite]
  rw [translate,refresh_eq,same.hasChecksum,if_pos known,same.checksumOffset,byte_storeCheckSum_eq,length,
    if_pos (by omega),Nat.add_sub_cancel_left,valid'.sum_headerRefreshed]

theorem ValidHeader.onlyTranslated (valid : ValidHeader p) (ports : carriesPorts p = true) :
    OnlyTranslated side p (translate side a port p) := by
  refine ⟨length_translate,fun i kept => ?_⟩
  simp only [mayChange,ports,true_and,not_or,not_and,not_lt] at kept
  obtain ⟨header,address,isPort,checksum⟩ := kept
  exact valid.byte_translate (by omega) (by omega) (by omega) (fun _ => by omega)

/-- A packet without ports keeps its payload only if what is written there is there. -/
theorem ValidHeader.onlyTranslated_iff (valid : ValidHeader p) (noPorts : carriesPorts p = false) :
    OnlyTranslated side p (translate side a port p) ↔ There p (Packet.portOffset p side) (wordBytes port) ∧
      (hasChecksum p = true → There p (checksumOffset p) (wordBytes (transportCheckSum (Packet.overwrite side a port p)))) := by
  have := addressOffset_bounds side
  have bounds := valid.portOffset side
  have payload : ∀ i, 20 ≤ i → ¬ mayChange side p i := by
    intro i behind
    simp only [mayChange,noPorts,Bool.false_eq_true,false_and,or_false,not_or,not_and,not_lt]
    omega
  constructor
  · rintro ⟨_,kept⟩
    refine ⟨fun j small inside => ?_,fun known j small inside => ?_⟩
    · exact (kept _ (payload _ (by omega))).symm.trans (valid.byte_port small inside)
    · exact (kept _ (payload _ (by omega))).symm.trans (valid.byte_checksum known small inside)
  · rintro ⟨isPort,isChecksum⟩
    refine ⟨length_translate,fun i kept => ?_⟩
    by_cases inside : i < p.length
    · by_cases inPort : Packet.portOffset p side ≤ i ∧ i < Packet.portOffset p side + 2
      · obtain ⟨j,rfl⟩ := Nat.exists_eq_add_of_le inPort.1
        have small : j < 2 := by omega
        exact (valid.byte_port small inside).trans (isPort j small inside).symm
      · by_cases inChecksum : hasChecksum p = true ∧ checksumOffset p ≤ i ∧ i < checksumOffset p + 2
        · obtain ⟨known,first,last⟩ := inChecksum
          obtain ⟨j,rfl⟩ := Nat.exists_eq_add_of_le first
          have small : j < 2 := by omega
          exact (valid.byte_checksum known small inside).trans (isChecksum known j small inside).symm
        · simp only [mayChange,not_or,not_and,not_lt] at kept
          refine valid.byte_translate (by omega) (by omega) (by omega) (fun known => ?_)
          have := not_and.mp inChecksum known
          omega
    · have after : byte (translate side a port p) i = 0 := byte_beyond (by rw [length_translate]; omega)
      rw [after,byte_beyond (by omega)]

end

end Packet

namespace AccessPoint

/-- A packet that the access point rewrites, with the address and port that it writes: in
    queue 0, in queue 1, or from among those of its flow that waited for the port. -/
inductive Rewrites (cfg : APConfig) (ap : AccessPoint) : Side → IPv4 → UInt16 → Packet → Packet → Prop where
  | uplink {ap' : AccessPoint} {packetId : Nat} {hwAddr : Mac} {data behind : Packet} {nMap : NATMap} {verdict : Verdict}
    (inside : Packet.inSubnet cfg.subnet (Packet.tuple (data ++ behind)).sourceIP = true)
    (found : lookupPortMapQ0 ap.entryList (Packet.tuple (data ++ behind)) = some (some nMap))
    (handled : ap.handleUplinkIn cfg packetId hwAddr data behind = some (ap',some verdict)) :
    Rewrites cfg ap .source cfg.ifIP nMap.newPort data verdict.payload
  | downlink {data behind out : Packet} {nMap : NATMap}
    (addressed : (Packet.tuple (data ++ behind)).destinationIP = cfg.ifIP)
    (found : lookupPortMapQ1 ap.entryList (Packet.tuple (data ++ behind)).destinationPort
      (Packet.tuple (data ++ behind)).sourceIP (Packet.tuple (data ++ behind)).sourcePort = some (some nMap))
    (handled : ap.handleDownlinkIn cfg data behind = some out) :
    Rewrites cfg ap .destination nMap.sourceIP nMap.sourcePort data out
  | reinjected {ap' : AccessPoint} {i k : Nat} {tuple : FourTuple} {nMap : NATMap} {chain : List PortData}
    {verdicts : List Verdict} {temp : PortData} {verdict : Verdict} (thread : ap.reinjecting[i]? = some tuple)
    (found : lookupPortMapQ0 ap.entryList tuple = some (some nMap))
    (held : ap.portQueue.bucket tuple.destinationIP.o3.toNat = some chain)
    (ran : ap.reinjectPkt cfg i = some (ap',verdicts))
    (isTemp : (chain.filter (fun temp => temp.packet.tuple = tuple))[k]? = some temp)
    (isVerdict : verdicts[k]? = some verdict) :
    Rewrites cfg ap .source cfg.ifIP nMap.newPort temp.packet verdict.payload

theorem outbound_eq (cfg : APConfig) (nMap : NATMap) (data : Packet) :
    outbound cfg nMap data = data.translate .source cfg.ifIP nMap.newPort := rfl

theorem inbound_eq (a : IPv4) (port : UInt16) (data : Packet) :
    ((data.setDestinationPort port).setDestinationAddress a).refresh = data.translate .destination a port := rfl

theorem Rewrites.translate {cfg : APConfig} {ap : AccessPoint} {side : Side} {a : IPv4} {port : UInt16} {data out : Packet}
    (rewrites : Rewrites cfg ap side a port data out) (valid : data.ValidHeader) : out = data.translate side a port := by
  cases rewrites with
  | @uplink _ _ _ _ behind nMap verdict inside found handled =>
    rw [handleUplinkIn,if_pos inside,found,Option.bind_some] at handled
    have isVerdict : some _ = some verdict := (Prod.mk.inj (Option.some.inj handled)).2
    rw [← Option.some.inj isVerdict,outbound_eq]
    exact valid.translate_append behind
  | @downlink _ behind _ nMap addressed found handled =>
    rw [handleDownlinkIn,if_pos addressed,found,Option.map_some] at handled
    rw [← Option.some.inj handled]
    dsimp only
    rw [inbound_eq]
    exact valid.translate_append behind
  | @reinjected _ _ k tuple nMap chain _ temp verdict thread found held ran isTemp isVerdict =>
    obtain ⟨_,_,_,thread',found',held',rfl,_⟩ := reinjectPkt_spec ran
    cases thread.symm.trans thread'
    cases found.symm.trans found'
    cases held.symm.trans held'
    have isKey : nMap.toFourTuple = tuple :=
      Buckets.key_of_get (fun t : FourTuple => t.destinationIP.o3.toNat) NATMap.toFourTuple found
    rw [reinjectChain_eq,isKey,List.getElem?_map,isTemp] at isVerdict
    rw [← outbound_eq,← Option.some.inj isVerdict]

theorem found_rewrites {cfg : APConfig} {ap : AccessPoint} {data : Packet} {nMap : NATMap}
    (inside : Packet.inSubnet cfg.subnet data.tuple.sourceIP = true)
    (found : lookupPortMapQ0 ap.entryList data.tuple = some (some nMap)) :
    Rewrites cfg ap .source cfg.ifIP nMap.newPort data (outbound cfg nMap data) := by
  have handled : ap.handleUplinkIn cfg 0 ⟨0,0,0,0,0,0⟩ data [] = some (ap,some ⟨0,outbound cfg nMap data⟩) := by
    have whole : (outbound cfg nMap data).take data.length = outbound cfg nMap data :=
      List.take_of_length_le (by rw [outbound_eq,Packet.length_translate])
    rw [handleUplinkIn,if_pos (by rwa [List.append_nil]),List.append_nil,found,Option.bind_some]
    dsimp only
    rw [whole]
  generalize outbound cfg nMap data = out at handled ⊢
  exact @Rewrites.uplink cfg ap ap 0 ⟨0,0,0,0,0,0⟩ data [] nMap ⟨0,out⟩ (by rwa [List.append_nil])
    (by rwa [List.append_nil]) handled

/-- In a packet that carries ports translation touches what it is for. In any other the
    payload stays only if the port, and the checksum of the packet that it is written
    into, happen to be there already. -/
theorem translation_touches {cfg : APConfig} {ap : AccessPoint} {side : Side} {a : IPv4} {port : UInt16} {data out : Packet}
    (rewrites : Rewrites cfg ap side a port data out) (valid : data.ValidHeader) :
    Packet.OnlyTranslated side data out ↔ data.carriesPorts = true ∨
      Packet.There data (data.portOffset side) (wordBytes port) ∧ (data.hasChecksum = true →
        Packet.There data data.checksumOffset (wordBytes (Packet.overwrite side a port data).transportCheckSum)) := by
  rw [rewrites.translate valid]
  by_cases ports : data.carriesPorts = true
  · exact iff_of_true (valid.onlyTranslated ports) (.inl ports)
  · rw [valid.onlyTranslated_iff (by simpa using ports)]
    exact (or_iff_right ports).symm

/-- An access point and its subnet. -/
def laboratory : APConfig := ⟨⟨4,0,0,0,0,1⟩,⟨10,0,0,1⟩,⟨192,168,5,0⟩,10⟩

def echoRequest : Packet := [69,0,0,28,0,0,0,0,64,1,0,0,192,168,5,2,93,184,216,34,8,0,247,255,0,0,0,0]

def query : Packet := [69,0,0,28,0,0,0,0,64,17,0,0,192,168,5,2,93,184,216,34,19,136,0,53,0,8,0,0]

/-- The later fragment of a UDP datagram. -/
def laterFragment : Packet := [69,0,0,28,0,1,0,185,64,17,0,0,192,168,5,2,93,184,216,34,1,2,3,4,5,6,7,8]

/-- An entry for the flow of the packet. -/
def knowing (data : Packet) : AccessPoint :=
  { init laboratory with
    entryList := (Buckets.empty 255).set data.tuple.destinationIP.o3.toNat [⟨data.tuple,49152⟩] }

theorem query_translated : ∃ out, Rewrites laboratory (knowing query) .source laboratory.ifIP 49152 query out ∧
    Packet.OnlyTranslated .source query out := by
  have rewrites := @found_rewrites laboratory (knowing query) query ⟨query.tuple,49152⟩ (by decide) (by decide)
  exact ⟨_,rewrites,(translation_touches rewrites (by decide)).mpr (.inl (by decide))⟩

/-- The first packet of a station: held, asked for, and let go with more changed than
    its translation. -/
def Overwritten (data : Packet) : Prop :=
  data.ValidHeader ∧ ∃ ap ap' ap'' verdict,
    (init laboratory).handleUplink laboratory 0 ⟨2,0,0,0,0,1⟩ data = some (ap,none) ∧
    ap.handleVendor laboratory (.natAdd ⟨2,0,0,0,0,1⟩ data.tuple 49152) = some (ap',[]) ∧
    ap'.reinjectPkt laboratory 0 = some (ap'',[verdict]) ∧ ¬ Packet.OnlyTranslated .source data verdict.payload

/-- The port is written over the type of the message, and over a fragment's data. -/
theorem payload_overwritten : Overwritten echoRequest ∧ Overwritten laterFragment := by
  constructor
  · exact ⟨by decide,_,_,_,_,rfl,rfl,rfl,fun only => absurd (only.bytes 20 (by decide)) (by decide)⟩
  · exact ⟨by decide,_,_,_,_,rfl,rfl,rfl,fun only => absurd (only.bytes 20 (by decide)) (by decide)⟩

end AccessPoint
end Handover
