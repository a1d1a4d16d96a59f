import Handover.Wire
import Handover.Network

/-!
The messages of the controller as bytes: what the `writeTo` of their classes writes
behind the length that is set from `getLength`, and what the access point and the
gateway read of it through structs that are laid over the buffer of `controller_receive`.
Every message the controller can encode fits the buffer and is read as it was written,
also as one of many on the connection.
-/
namespace Handover

namespace Wire
open Bytes Codec Packet

/-! ### The classes of the controller -/

/-- `getLength`, summed up along the superclasses. -/
def getLength : FromController → Nat
  | .addSTA _ => 4 + 6
  | .lastRecPow _ => 4 + 6
  | .removeSTA _ => 4 + 6
  | .updateSTAAdd _ _ => 4 + 56
  | .natAdd _ _ _ => 4 + 20 + 4

/-- The constant of the class. -/
def vendorSubtype : FromController → UInt32
  | .addSTA _ => 13
  | .lastRecPow _ => 15
  | .removeSTA _ => 18
  | .updateSTAAdd _ _ => 17
  | .natAdd _ _ _ => 20

/-- What `writeTo` writes behind the subtype; `null` rates throw. -/
def writeFields : FromController → Option (List UInt8)
  | .addSTA sta => some sta.bytes
  | .lastRecPow sta => some sta.bytes
  | .removeSTA sta => some sta.bytes
  | .updateSTAAdd sta u => u.supportedRates.map (fun rates =>
      sta.bytes ++ wordBytes u.authAlg ++ wordBytes u.aid ++ wordBytes u.capability ++ wordBytes u.listenInterval ++
        wordBytes 0 ++ rates.toList ++ longBytes u.supportedRatesLen ++ [u.qosinfo] ++ wordBytes 0 ++ [0])
  | .natAdd sta t newPort =>
      some (sta.bytes ++ wordBytes 0 ++ addressBytes t.sourceIP ++ addressBytes t.destinationIP ++
        wordBytes t.sourcePort ++ wordBytes t.destinationPort ++ wordBytes newPort ++ wordBytes 0)

/-- The length that the handlers set: `OFVendor.MINIMUM_LENGTH` and that of the data. -/
def lengthU (msg : FromController) : UInt16 := UInt16.ofNat (12 + getLength msg)

/-- `OFVendor.writeTo`. -/
def writeTo (xid : UInt32) (msg : FromController) : Option (List UInt8) :=
  (writeFields msg).map (fun fields =>
    [1] ++ [4] ++ wordBytes (lengthU msg) ++ longBytes xid ++ longBytes 1 ++ longBytes (vendorSubtype msg) ++ fields)

/-! ### The structs of the receivers -/

def ofpWlanSta (sta : Mac) : List Member := [⟨1,sta.bytes⟩]

def ofpWlanAddUpdateMsg (sta : Mac) (u : UpdateSTA) (rates : Vector UInt8 32) : List Member :=
  [⟨1,sta.bytes⟩,⟨2,wordBytes u.authAlg⟩,⟨2,wordBytes u.aid⟩,⟨2,wordBytes u.capability⟩,⟨2,wordBytes u.listenInterval⟩,
    ⟨1,[0,0]⟩,⟨1,rates.toList⟩,⟨4,longBytes u.supportedRatesLen⟩,⟨1,[u.qosinfo]⟩,⟨1,[0,0,0]⟩]

/-- `struct ofp_wlan_header`. -/
def wlanHeaderShape : Shape := [(1,1),(1,1),(2,2),(4,4),(4,4),(4,4)]

/-- `struct ofp_wlan_sta`. -/
def wlanStaShape : Shape := [(1,6)]

/-- `struct ofp_wlan_add_update_msg`. -/
def wlanAddUpdateShape : Shape := [(1,6),(2,2),(2,2),(2,2),(2,2),(1,2),(1,32),(4,4),(1,1),(1,3)]

/-- `struct ofp_nat_port_entry` of the access point. -/
def natPortEntryShape : Shape := [(1,6),(1,2),(4,4),(4,4),(2,2),(2,2),(2,2),(1,2)]

/-- `struct ofp_nat_entry` of the gateway. -/
def natEntryShape : Shape := [(1,6),(1,2),(4,4),(4,4),(2,2),(2,2)]

def macAt (str : List UInt8) (i : Nat) : Mac :=
  ⟨byte str i,byte str (i+1),byte str (i+2),byte str (i+3),byte str (i+4),byte str (i+5)⟩

theorem macAt_holds {str : List UInt8} {i : Nat} {m : Mac} (holds : Holds str i m.bytes) : macAt str i = m := by
  have at0 : byte str i = m.o0 := holds.byte (j := 0) (by simp)
  have at1 : byte str (i+1) = m.o1 := holds.byte (j := 1) (by simp)
  have at2 : byte str (i+2) = m.o2 := holds.byte (j := 2) (by simp)
  have at3 : byte str (i+3) = m.o3 := holds.byte (j := 3) (by simp)
  have at4 : byte str (i+4) = m.o4 := holds.byte (j := 4) (by simp)
  have at5 : byte str (i+5) = m.o5 := holds.byte (j := 5) (by simp)
  rw [macAt,at0,at1,at2,at3,at4,at5]

theorem addressAt_holds {str : List UInt8} {i : Nat} {a : IPv4} (holds : Holds str i (addressBytes a)) :
    addressAt str i = a := by
  have at0 : byte str i = a.o0 := holds.byte (j := 0) (by simp)
  have at1 : byte str (i+1) = a.o1 := holds.byte (j := 1) (by simp)
  have at2 : byte str (i+2) = a.o2 := holds.byte (j := 2) (by simp)
  have at3 : byte str (i+3) = a.o3 := holds.byte (j := 3) (by simp)
  rw [addressAt,at0,at1,at2,at3]

/-- Where a message's own struct begins. -/
def bodyAt (s : Shape) (i : Nat) : Nat := 16 + offsetOf s i

def readTuple (s : Shape) (str : List UInt8) : FourTuple :=
  ⟨addressAt str (bodyAt s 2),addressAt str (bodyAt s 3),word str (bodyAt s 4),word str (bodyAt s 5)⟩

def readSta (str : List UInt8) : Mac := macAt str (bodyAt wlanStaShape 0)

def readUpdate (str : List UInt8) : UpdateSTA where
  authAlg := word str (bodyAt wlanAddUpdateShape 1)
  aid := word str (bodyAt wlanAddUpdateShape 2)
  capability := word str (bodyAt wlanAddUpdateShape 3)
  listenInterval := word str (bodyAt wlanAddUpdateShape 4)
  supportedRates := some (array 32 str (bodyAt wlanAddUpdateShape 6))
  supportedRatesLen := long str (bodyAt wlanAddUpdateShape 7)
  qosinfo := byte str (bodyAt wlanAddUpdateShape 8)

/-- `controller_receive` where `recv` gives all it is asked for: eight bytes, and as many
    more as they announce. What does not fit `str[100]` would be written beyond it. -/
def controllerReceive (incoming : List UInt8) : Option (List UInt8 × List UInt8) :=
  if incoming.length < 8 then none
  else
    let n := if 8 < (word incoming (offsetOf wlanHeaderShape 2)).toNat then
      (word incoming (offsetOf wlanHeaderShape 2)).toNat else 8
    if n ≤ 100 ∧ n ≤ incoming.length then some (incoming.take n,incoming.drop n) else none

/-- What `handle_vendor` of the access point makes of the buffer. -/
def hostapdVendor (str : List UInt8) : Option FromController :=
  if long str (offsetOf wlanHeaderShape 4) = 1 then
    match (long str (offsetOf wlanHeaderShape 5)).toNat with
    | 13 => some (.addSTA (readSta str))
    | 15 => some (.lastRecPow (readSta str))
    | 17 => some (.updateSTAAdd (macAt str (bodyAt wlanAddUpdateShape 0)) (readUpdate str))
    | 18 => some (.removeSTA (readSta str))
    | 20 => some (.natAdd (macAt str (bodyAt natPortEntryShape 0)) (readTuple natPortEntryShape str)
        (word str (bodyAt natPortEntryShape 6)))
    | _ => none
  else none

/-- What that of the gateway does, which has only NAT entries. -/
def gatewayVendor (str : List UInt8) : Option (Mac × FourTuple) :=
  if long str (offsetOf wlanHeaderShape 4) = 1 ∧ long str (offsetOf wlanHeaderShape 5) = 20 then
    some (macAt str (bodyAt natEntryShape 0),readTuple natEntryShape str)
  else none

/-! ### Written and read -/

/-- Java throws for just those messages that the network does not send. -/
theorem isSome_writeTo (xid : UInt32) (msg : FromController) : (writeTo xid msg).isSome = Net.encodable msg := by
  cases msg <;> simp [writeTo,writeFields,Net.encodable]

theorem length_writeFields {msg : FromController} {fields : List UInt8} (written : writeFields msg = some fields) :
    4 + fields.length = getLength msg := by
  cases msg with
  | updateSTAAdd sta u =>
    obtain ⟨rates,_,rfl⟩ := Option.map_eq_some_iff.mp written
    simp [getLength]
  | _ =>
    cases written
    simp [getLength]

theorem toNat_lengthU (msg : FromController) : (lengthU msg).toNat = 12 + getLength msg := by
  cases msg <;> rfl

/-- The header as the receivers' struct has it, and the fields behind it. -/
theorem writeTo_eq {xid : UInt32} {msg : FromController} {bytes : List UInt8} (written : writeTo xid msg = some bytes) :
    ∃ fields, writeFields msg = some fields ∧
      bytes = struct (ofpWlanHeader (lengthU msg) xid (vendorSubtype msg)) ++ fields := by
  obtain ⟨fields,isFields,rfl⟩ := Option.map_eq_some_iff.mp written
  refine ⟨fields,isFields,?_⟩
  rw [struct_ofpWlanHeader]
  simp only [List.append_assoc]

theorem length_writeTo {xid : UInt32} {msg : FromController} {bytes : List UInt8} (written : writeTo xid msg = some bytes) :
    bytes.length = (lengthU msg).toNat := by
  obtain ⟨fields,isFields,rfl⟩ := writeTo_eq written
  have size := length_writeFields isFields
  rw [toNat_lengthU,struct_ofpWlanHeader]
  simp only [List.length_append,List.length_singleton,length_wordBytes,length_longBytes]
  omega

theorem struct_ofpWlanSta (sta : Mac) : struct (ofpWlanSta sta) = sta.bytes := by
  simp [struct,ofpWlanSta,layOut,padding,trailing]

theorem struct_ofpWlanAddUpdateMsg (sta : Mac) (u : UpdateSTA) (rates : Vector UInt8 32) :
    struct (ofpWlanAddUpdateMsg sta u rates) = sta.bytes ++ (wordBytes u.authAlg ++ (wordBytes u.aid ++
      (wordBytes u.capability ++ (wordBytes u.listenInterval ++ ([0,0] ++ (rates.toList ++
        (longBytes u.supportedRatesLen ++ ([u.qosinfo] ++ [0,0,0])))))))) := by
  simp [struct,ofpWlanAddUpdateMsg,layOut,padding,trailing,Nat.lcm_eq_mul_div]

theorem wordBytes_zero : wordBytes 0 = [0,0] := rfl

/-- The class writes the pads that the struct has. -/
theorem writeFields_updateSTAAdd (sta : Mac) {u : UpdateSTA} {rates : Vector UInt8 32}
    (isRates : u.supportedRates = some rates) :
    writeFields (.updateSTAAdd sta u) = some (struct (ofpWlanAddUpdateMsg sta u rates)) := by
  rw [writeFields,isRates,struct_ofpWlanAddUpdateMsg,wordBytes_zero]
  simp

theorem writeFields_natAdd (sta : Mac) (t : FourTuple) (newPort : UInt16) :
    writeFields (.natAdd sta t newPort) = some (struct (ofpNatPortEntry sta t newPort)) := by
  rw [writeFields,struct_ofpNatPortEntry,wordBytes_zero]
  simp

theorem shape_ofpWlanAddUpdateMsg (sta : Mac) (u : UpdateSTA) (rates : Vector UInt8 32) :
    shape (ofpWlanAddUpdateMsg sta u rates) = wlanAddUpdateShape := by
  simp [shape,ofpWlanAddUpdateMsg,wlanAddUpdateShape]

theorem shape_ofpWlanHeader (length : UInt16) (xid subtype : UInt32) :
    shape (ofpWlanHeader length xid subtype) = wlanHeaderShape := rfl

/-- The header that is laid over the buffer. -/
theorem header_holds {str : List UInt8} {length : UInt16} {xid subtype : UInt32}
    (holds : Holds str 0 (struct (ofpWlanHeader length xid subtype))) :
    word str (offsetOf wlanHeaderShape 2) = length ∧ long str (offsetOf wlanHeaderShape 4) = 1 ∧
      long str (offsetOf wlanHeaderShape 5) = subtype := by
  have at' : ∀ {i : Nat} {m : Member}, (ofpWlanHeader length xid subtype)[i]? = some m →
      Holds str (offsetOf wlanHeaderShape i) m.bytes := by
    intro i m found
    have member := holds.member found
    rwa [shape_ofpWlanHeader,Nat.zero_add] at member
  exact ⟨(at' (i := 2) rfl).word,(at' (i := 4) rfl).long,(at' (i := 5) rfl).long⟩

theorem readSta_holds {str : List UInt8} {sta : Mac} (holds : Holds str 16 sta.bytes) : readSta str = sta := by
  rw [← struct_ofpWlanSta] at holds
  exact macAt_holds (holds.member (i := 0) rfl)

theorem readUpdate_holds {str : List UInt8} {sta : Mac} {u : UpdateSTA} {rates : Vector UInt8 32}
    (isRates : u.supportedRates = some rates) (holds : Holds str 16 (struct (ofpWlanAddUpdateMsg sta u rates))) :
    macAt str (bodyAt wlanAddUpdateShape 0) = sta ∧ readUpdate str = u := by
  have at' : ∀ {i : Nat} {m : Member}, (ofpWlanAddUpdateMsg sta u rates)[i]? = some m →
      Holds str (bodyAt wlanAddUpdateShape i) m.bytes := fun found => shape_ofpWlanAddUpdateMsg sta u rates ▸ holds.member found
  refine ⟨macAt_holds (at' (i := 0) rfl),?_⟩
  have qosinfo : byte str (bodyAt wlanAddUpdateShape 8) = u.qosinfo := (at' (i := 8) rfl).byte (j := 0) (by simp)
  have authAlg := (at' (i := 1) rfl).word
  have aid := (at' (i := 2) rfl).word
  have capability := (at' (i := 3) rfl).word
  have listenInterval := (at' (i := 4) rfl).word
  have supportedRates := (at' (i := 6) rfl).array
  have supportedRatesLen := (at' (i := 7) rfl).long
  rw [readUpdate,authAlg,aid,capability,listenInterval,supportedRates,supportedRatesLen,qosinfo,← isRates]

theorem readEntry_holds {str : List UInt8} {sta : Mac} {t : FourTuple} {newPort : UInt16}
    (holds : Holds str 16 (struct (ofpNatPortEntry sta t newPort))) :
    macAt str (bodyAt natPortEntryShape 0) = sta ∧ readTuple natPortEntryShape str = t ∧
      word str (bodyAt natPortEntryShape 6) = newPort := by
  refine ⟨macAt_holds (holds.member (i := 0) rfl),?_,(holds.member (i := 6) rfl).word⟩
  have sourceIP : addressAt str (bodyAt natPortEntryShape 2) = _ := addressAt_holds (holds.member (i := 2) rfl)
  have destinationIP : addressAt str (bodyAt natPortEntryShape 3) = _ := addressAt_holds (holds.member (i := 3) rfl)
  have sourcePort : word str (bodyAt natPortEntryShape 4) = _ := (holds.member (i := 4) rfl).word
  have destinationPort : word str (bodyAt natPortEntryShape 5) = _ := (holds.member (i := 5) rfl).word
  rw [readTuple,sourceIP,destinationIP,sourcePort,destinationPort]

/-- The gateway's shorter struct has the same members at the same offsets. -/
theorem readTuple_natEntry (str : List UInt8) : readTuple natEntryShape str = readTuple natPortEntryShape str := rfl

theorem lengthU_bounds (msg : FromController) : 8 < (lengthU msg).toNat ∧ (lengthU msg).toNat ≤ 100 := by
  rw [toNat_lengthU]
  cases msg <;> simp [getLength]

/-- What is written lies in the buffer of the receiver, whatever follows it there. -/
theorem writeTo_holds {xid : UInt32} {msg : FromController} {bytes : List UInt8} (written : writeTo xid msg = some bytes)
    (junk : List UInt8) :
    Holds (bytes ++ junk) 0 (struct (ofpWlanHeader (lengthU msg) xid (vendorSubtype msg))) ∧
      ∃ fields, writeFields msg = some fields ∧ Holds (bytes ++ junk) 16 fields := by
  obtain ⟨fields,isFields,rfl⟩ := writeTo_eq written
  have whole : Holds (struct (ofpWlanHeader (lengthU msg) xid (vendorSubtype msg)) ++ fields ++ junk) 0
      (struct (ofpWlanHeader (lengthU msg) xid (vendorSubtype msg)) ++ fields) := ⟨[],junk,rfl,rfl⟩
  refine ⟨whole.left,fields,isFields,?_⟩
  have later := whole.right
  rw [struct_ofpWlanHeader] at later ⊢
  exact later

theorem hostapdVendor_writeTo {xid : UInt32} {msg : FromController} {bytes : List UInt8}
    (written : writeTo xid msg = some bytes) (junk : List UInt8) : hostapdVendor (bytes ++ junk) = some msg := by
  obtain ⟨header,fields,isFields,body⟩ := writeTo_holds written junk
  obtain ⟨_,vendor,subtype⟩ := header_holds header
  rw [hostapdVendor,if_pos vendor,subtype]
  cases msg with
  | addSTA sta =>
    cases isFields
    exact congrArg (fun sta => some (FromController.addSTA sta)) (readSta_holds body)
  | lastRecPow sta =>
    cases isFields
    exact congrArg (fun sta => some (FromController.lastRecPow sta)) (readSta_holds body)
  | removeSTA sta =>
    cases isFields
    exact congrArg (fun sta => some (FromController.removeSTA sta)) (readSta_holds body)
  | updateSTAAdd sta u =>
    obtain ⟨rates,isRates,_⟩ := Option.map_eq_some_iff.mp isFields
    cases (writeFields_updateSTAAdd sta isRates).symm.trans isFields
    obtain ⟨isSta,isUpdate⟩ := readUpdate_holds isRates body
    change some (FromController.updateSTAAdd _ _) = _
    rw [isSta,isUpdate]
  | natAdd sta t newPort =>
    cases (writeFields_natAdd sta t newPort).symm.trans isFields
    obtain ⟨isSta,isTuple,isPort⟩ := readEntry_holds body
    change some (FromController.natAdd _ _ _) = _
    rw [isSta,isTuple,isPort]

theorem gatewayVendor_writeTo {xid : UInt32} {sta : Mac} {t : FourTuple} {newPort : UInt16} {bytes : List UInt8}
    (written : writeTo xid (.natAdd sta t newPort) = some bytes) (junk : List UInt8) :
    gatewayVendor (bytes ++ junk) = some (sta,t) := by
  obtain ⟨header,fields,isFields,body⟩ := writeTo_holds written junk
  obtain ⟨_,vendor,subtype⟩ := header_holds header
  cases (writeFields_natAdd sta t newPort).symm.trans isFields
  obtain ⟨isSta,isTuple,_⟩ := readEntry_holds body
  rw [gatewayVendor,if_pos ⟨vendor,subtype⟩,readTuple_natEntry,isTuple]
  exact congrArg (fun sta => some (sta,t)) isSta

/-- An OpenFlow message: its header announces the bytes that it has. -/
structure Framed (bytes : List UInt8) : Prop where
  header : 8 ≤ bytes.length
  announced : (word bytes (offsetOf wlanHeaderShape 2)).toNat = bytes.length

/-- A message that fits the buffer is taken from the connection as a whole. -/
theorem Framed.received {bytes : List UInt8} (framed : Framed bytes) (fits : bytes.length ≤ 100) (rest : List UInt8) :
    controllerReceive (bytes ++ rest) = some (bytes,rest) := by
  have header := framed.header
  have same : word (bytes ++ rest) (offsetOf wlanHeaderShape 2) = word bytes (offsetOf wlanHeaderShape 2) := by
    have isTwo : offsetOf wlanHeaderShape 2 = 2 := rfl
    rw [isTwo,word_eq_iff]
    exact ⟨byte_append _ _ (by omega),byte_append _ _ (by omega)⟩
  have isLength : (if 8 < bytes.length then bytes.length else 8) = bytes.length := by
    split <;> omega
  rw [controllerReceive,if_neg (by rw [List.length_append]; omega),same,framed.announced]
  simp only [isLength]
  rw [if_pos ⟨fits,by rw [List.length_append]; omega⟩,List.take_left,List.drop_left]

theorem framed_writeTo {xid : UInt32} {msg : FromController} {bytes : List UInt8} (written : writeTo xid msg = some bytes) :
    Framed bytes ∧ bytes.length ≤ 100 := by
  obtain ⟨announced,_⟩ := header_holds (writeTo_holds written []).1
  have size := length_writeTo written
  have bounds := lengthU_bounds msg
  rw [List.append_nil] at announced
  exact ⟨⟨by omega,by rw [announced,size]⟩,by omega⟩

/-- Every message that can be encoded announces the bytes it has, fits the receivers'
    buffer, is taken from the connection as a whole, and is read by the structs of the
    access point, and of the gateway, as it was written. -/
theorem written_reads_back (xid : UInt32) (msg : FromController) (encodable : Net.encodable msg = true) :
    ∃ bytes, writeTo xid msg = some bytes ∧ word bytes (offsetOf wlanHeaderShape 2) = lengthU msg ∧
      (lengthU msg).toNat = bytes.length ∧ bytes.length ≤ 100 ∧
      (∀ rest, controllerReceive (bytes ++ rest) = some (bytes,rest)) ∧
      ∀ junk, hostapdVendor (bytes ++ junk) = some msg ∧
        ∀ sta t newPort, msg = .natAdd sta t newPort → gatewayVendor (bytes ++ junk) = some (sta,t) := by
  obtain ⟨bytes,written⟩ := Option.isSome_iff_exists.mp ((isSome_writeTo xid msg).trans encodable)
  have size := length_writeTo written
  have announced := (header_holds (writeTo_holds written []).1).1
  rw [List.append_nil] at announced
  obtain ⟨framed,fits⟩ := framed_writeTo written
  refine ⟨bytes,written,announced,size.symm,fits,framed.received fits,?_⟩
  intro junk
  refine ⟨hostapdVendor_writeTo written junk,?_⟩
  rintro sta t newPort rfl
  exact gatewayVendor_writeTo written junk

/-- A handover with values that are negative as Java has them. -/
def negativeUpdate : FromController :=
  .updateSTAAdd ⟨0xfe,0xff,0,0,0,1⟩ ⟨0xffff,0xc001,0x8431,0x8000,some (Vector.replicate 32 0x96),32,0xff⟩

theorem negativeUpdate_reads_back : Net.encodable negativeUpdate = true ∧
    ∃ bytes, writeTo 0 negativeUpdate = some bytes ∧ bytes.length = 72 ∧ hostapdVendor bytes = some negativeUpdate := by
  obtain ⟨bytes,written,_,size,_,_,reads⟩ := written_reads_back 0 negativeUpdate rfl
  exact ⟨rfl,bytes,written,size.symm,by simpa using (reads []).1⟩

end Wire
end Handover
