import Handover.Bytes
import Handover.Messages

/-!
IPv4 packets as the two NAT programs see them through `struct ip_header_t` and
`struct transport_header`, and the parts of `handle_pkt` that both share: the
address and port that they overwrite, and the checksums that they refresh.
-/
namespace Handover
open Bytes

/-- The payload of an intercepted packet. -/
abbrev Packet := List UInt8

namespace Packet

/-- The header length in 32-bit words: `ver_ihl & 0x0f`. -/
def headerWords (p : Packet) : Nat := (byte p 0).toNat % 16

/-- Where the transport header starts. -/
def transport (p : Packet) : Nat := headerWords p * 4

def totalLength (p : Packet) : UInt16 := word p 2

def protocol (p : Packet) : UInt8 := byte p 9

def addressAt (p : Packet) (i : Nat) : IPv4 := ⟨byte p i,byte p (i+1),byte p (i+2),byte p (i+3)⟩

/-- The addresses and ports of the packet. -/
def tuple (p : Packet) : FourTuple :=
  ⟨addressAt p 12,addressAt p 16,word p (transport p),word p (transport p + 2)⟩

def addressBytes (a : IPv4) : List UInt8 := [a.o0,a.o1,a.o2,a.o3]

def setSourceAddress (p : Packet) (a : IPv4) : Packet := copy p 12 (addressBytes a)

def setDestinationAddress (p : Packet) (a : IPv4) : Packet := copy p 16 (addressBytes a)

def setSourcePort (p : Packet) (port : UInt16) : Packet := copy p (transport p) (wordBytes port)

def setDestinationPort (p : Packet) (port : UInt16) : Packet := copy p (transport p + 2) (wordBytes port)

/-- The sum runs over the first `last` words but the skipped one; its carry is
    added once. -/
def calculateCheckSum (data : List UInt8) (last headerSum skip : Nat) (odd : Bool) : UInt16 :=
  let sum := (List.range last).foldl
    (fun sum num => if num = skip then sum else sum + (word data (2 * num)).toNat) headerSum
  let sum := if odd then sum + (word data (2 * last)).toNat / 256 * 256 else sum
  UInt16.ofNat (65535 - (sum % 65536 + sum / 65536) % 65536)

/-- The sum of the six words of `struct pseudo_header`; its length field is the
    difference cut to 16 bits. -/
def pseudoSum (p : Packet) : Nat :=
  (word p 12).toNat + (word p 14).toNat + (word p 16).toNat + (word p 18).toNat + (protocol p).toNat +
    ((totalLength p).toNat + 65536 - transport p) % 65536

def storeCheckSum (p : Packet) (i : Nat) (checksum : UInt16) : Packet :=
  if word p i ≠ checksum then copy p i (wordBytes checksum) else p

/-- The end of `handle_pkt`, once addresses and ports are rewritten. -/
def refresh (p : Packet) : Packet :=
  let p := storeCheckSum p 10 (calculateCheckSum p (headerWords p * 2) 0 5 false)
  let last := ((totalLength p).toNat - transport p) / 2
  let odd := decide ((totalLength p).toNat % 2 = 1)
  if protocol p = 17 then
    storeCheckSum p (transport p + 6) (calculateCheckSum (p.drop (transport p)) last (pseudoSum p) 3 odd)
  else if protocol p = 6 then
    storeCheckSum p (transport p + 16) (calculateCheckSum (p.drop (transport p)) last (pseudoSum p) 8 odd)
  else p

/-! ### The subnet test -/

/-- `%hhu` of an octet. -/
def decimal (octet : UInt8) : List Char := Nat.toDigits 10 octet.toNat

/-- The text that a subnet address is configured as: its first three octets. -/
def subnetText (a : IPv4) : List Char := decimal a.o0 ++ '.' :: decimal a.o1 ++ '.' :: decimal a.o2

/-- The dotted text of an address. -/
def addressText (a : IPv4) : List Char := subnetText a ++ '.' :: decimal a.o3

/-- `strncmp` of the address with the subnet, over the length of the subnet. -/
def inSubnet (subnet a : IPv4) : Bool := (subnetText subnet).isPrefixOf (addressText a)

/-- The packet has a whole IPv4 header and its ports. -/
structure WellFormed (p : Packet) : Prop where
  header : 5 ≤ headerWords p
  ports : transport p + 4 ≤ p.length

instance (p : Packet) : Decidable (WellFormed p) :=
  decidable_of_iff (5 ≤ headerWords p ∧ transport p + 4 ≤ p.length) ⟨fun both => ⟨both.1,both.2⟩,fun formed => ⟨formed.1,formed.2⟩⟩

/-! ### What overwriting changes -/

theorem headerWords_copy (p : Packet) {i : Nat} (bytes : List UInt8) (later : 0 < i) :
    headerWords (copy p i bytes) = headerWords p := by
  rw [headerWords,byte_copy_outside p (.inl later),headerWords]

theorem transport_copy (p : Packet) {i : Nat} (bytes : List UInt8) (later : 0 < i) :
    transport (copy p i bytes) = transport p := by
  rw [transport,headerWords_copy p bytes later,transport]

theorem WellFormed.copy {p : Packet} (formed : WellFormed p) {i : Nat} (bytes : List UInt8) (later : 0 < i) :
    WellFormed (copy p i bytes) := by
  refine ⟨?_,?_⟩
  · rw [headerWords_copy p bytes later]
    exact formed.header
  · rw [transport_copy p bytes later,length_copy]
    exact formed.ports

theorem addressAt_copy_outside (p : Packet) {i j : Nat} {bytes : List UInt8}
    (outside : j + 3 < i ∨ i + bytes.length ≤ j) : addressAt (copy p i bytes) j = addressAt p j := by
  unfold addressAt
  rw [byte_copy_outside p (by omega),byte_copy_outside p (by omega),byte_copy_outside p (by omega),
    byte_copy_outside p (by omega)]

theorem addressAt_copy_inside {p : Packet} {i : Nat} (fits : i + 4 ≤ p.length) (a : IPv4) :
    addressAt (copy p i (addressBytes a)) i = a := by
  have inside : ∀ j, j < 4 → byte (copy p i (addressBytes a)) (i + j) = byte (addressBytes a) j := by
    intro j small
    exact byte_copy_inside (by simpa [addressBytes] using fits) (by simpa [addressBytes] using small)
  have zero := inside 0 (by omega)
  rw [Nat.add_zero] at zero
  unfold addressAt
  rw [zero,inside 1 (by omega),inside 2 (by omega),inside 3 (by omega)]
  rfl

theorem WellFormed.room {p : Packet} (formed : WellFormed p) : 24 ≤ p.length := by
  have := formed.header
  have := formed.ports
  unfold transport at this
  omega

theorem WellFormed.apart {p : Packet} (formed : WellFormed p) : 20 ≤ transport p := by
  have := formed.header
  unfold transport
  omega

theorem tuple_setSourceAddress {p : Packet} (formed : WellFormed p) (a : IPv4) :
    tuple (setSourceAddress p a) = { tuple p with sourceIP := a } := by
  have := formed.room
  have := formed.apart
  unfold tuple setSourceAddress
  rw [transport_copy p _ (by omega),addressAt_copy_inside (by omega) a,
    addressAt_copy_outside p (by simp [addressBytes]),word_copy_outside p (by simp [addressBytes]; omega),
    word_copy_outside p (by simp [addressBytes]; omega)]

theorem tuple_setDestinationAddress {p : Packet} (formed : WellFormed p) (a : IPv4) :
    tuple (setDestinationAddress p a) = { tuple p with destinationIP := a } := by
  have := formed.room
  have := formed.apart
  unfold tuple setDestinationAddress
  rw [transport_copy p _ (by omega),addressAt_copy_inside (by omega) a,
    addressAt_copy_outside p (by simp),word_copy_outside p (by simp [addressBytes]; omega),
    word_copy_outside p (by simp [addressBytes]; omega)]

theorem tuple_setSourcePort {p : Packet} (formed : WellFormed p) (port : UInt16) :
    tuple (setSourcePort p port) = { tuple p with sourcePort := port } := by
  have := formed.ports
  have := formed.apart
  unfold tuple setSourcePort
  rw [transport_copy p _ (by omega),word_copy_inside (by omega) port,addressAt_copy_outside p (by omega),
    addressAt_copy_outside p (by omega),word_copy_outside p (by simp [wordBytes])]

theorem tuple_setDestinationPort {p : Packet} (formed : WellFormed p) (port : UInt16) :
    tuple (setDestinationPort p port) = { tuple p with destinationPort := port } := by
  have := formed.ports
  have := formed.apart
  unfold tuple setDestinationPort
  rw [transport_copy p _ (by omega),word_copy_inside (by omega) port,addressAt_copy_outside p (by omega),
    addressAt_copy_outside p (by omega),word_copy_outside p (by simp)]

theorem WellFormed.setSourceAddress {p : Packet} (formed : WellFormed p) (a : IPv4) : WellFormed (setSourceAddress p a) :=
  formed.copy _ (by omega)

theorem WellFormed.setDestinationAddress {p : Packet} (formed : WellFormed p) (a : IPv4) :
    WellFormed (setDestinationAddress p a) :=
  formed.copy _ (by omega)

theorem WellFormed.setSourcePort {p : Packet} (formed : WellFormed p) (port : UInt16) : WellFormed (setSourcePort p port) :=
  formed.copy _ (by have := formed.apart; omega)

theorem WellFormed.setDestinationPort {p : Packet} (formed : WellFormed p) (port : UInt16) :
    WellFormed (setDestinationPort p port) :=
  formed.copy _ (by omega)

/-- A checksum stored beside the addresses and ports leaves them alone. -/
theorem storeCheckSum_beside {p : Packet} (formed : WellFormed p) {i : Nat}
    (beside : i = 10 ∨ transport p + 4 ≤ i) (checksum : UInt16) :
    WellFormed (storeCheckSum p i checksum) ∧ transport (storeCheckSum p i checksum) = transport p ∧
      tuple (storeCheckSum p i checksum) = tuple p := by
  have apart := formed.apart
  unfold storeCheckSum
  split
  · refine ⟨formed.copy _ (by omega),transport_copy p _ (by omega),?_⟩
    have two : (wordBytes checksum).length = 2 := rfl
    unfold tuple
    rw [transport_copy p _ (by omega),addressAt_copy_outside p (by omega),addressAt_copy_outside p (by omega),
      word_copy_outside p (by omega),word_copy_outside p (by omega)]
  · exact ⟨formed,rfl,rfl⟩

/-- Refreshing the checksums changes neither addresses nor ports. -/
theorem refresh_keeps {p : Packet} (formed : WellFormed p) : WellFormed (refresh p) ∧ tuple (refresh p) = tuple p := by
  have later : ∀ q : Packet, WellFormed q ∧ tuple q = tuple p → ∀ i checksum, transport q + 4 ≤ i →
      WellFormed (storeCheckSum q i checksum) ∧ tuple (storeCheckSum q i checksum) = tuple p := by
    rintro q ⟨formed',same⟩ i checksum behind
    obtain ⟨formed'',_,same'⟩ := storeCheckSum_beside formed' (.inr behind) checksum
    exact ⟨formed'',same'.trans same⟩
  obtain ⟨formed',_,same⟩ :=
    storeCheckSum_beside formed (.inl rfl) (calculateCheckSum p (headerWords p * 2) 0 5 false)
  unfold refresh
  dsimp only
  split
  · exact later _ ⟨formed',same⟩ _ _ (by omega)
  · split
    · exact later _ ⟨formed',same⟩ _ _ (by omega)
    · exact ⟨formed',same⟩

end Packet
end Handover
