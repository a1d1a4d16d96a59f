import Handover.Overlay

/-!
The vendor-data classes of the controller as objects: what `getLength`, `writeTo` and
`readFrom` of each do along the superclasses, on arrays that may be null. A class is a
codec of its own objects if it writes as many bytes as it says, and a new object reads
them back as they were. Two are not: an association request writes twelve bytes less
than `getLength`, and an update of a station reads into arrays that a new object does
not have.
-/
namespace Handover.Classes
open Bytes Codec

/-- An array, or null. -/
abbrev NullableBytes := Option (List UInt8)

/-- `readBytes` into a new array of the length. -/
def readArray (n : Nat) : Reader (List UInt8) := do
  let bytes ← readBytes n
  return bytes.toList

/-- `readBytes` into an array that is there; null throws. -/
def readInto : NullableBytes → Reader (List UInt8)
  | none => failure
  | some old => readArray old.length

/-! ### The superclasses -/

structure OFWlanHeader where
  subtype : UInt32

namespace OFWlanHeader

def getLength (_this : OFWlanHeader) : Nat := 4

def writeTo (this : OFWlanHeader) : Option (List UInt8) := some (longBytes this.subtype)

def readFrom (_this : OFWlanHeader) : Reader OFWlanHeader := do
  let subtype ← readInt
  return ⟨subtype⟩

end OFWlanHeader

structure OFWlanData extends OFWlanHeader where
  staMacAddress : NullableBytes
  apMacAddress : NullableBytes

namespace OFWlanData

def getLength (this : OFWlanData) : Nat := this.toOFWlanHeader.getLength + 12

def writeTo (this : OFWlanData) : Option (List UInt8) := do
  let header ← this.toOFWlanHeader.writeTo
  let sta ← this.staMacAddress
  let ap ← this.apMacAddress
  return header ++ (sta ++ ap)

def readFrom (this : OFWlanData) : Reader OFWlanData := do
  let header ← this.toOFWlanHeader.readFrom
  let sta ← readArray 6
  let ap ← readArray 6
  return ⟨header,some sta,some ap⟩

end OFWlanData

structure OFWlanAuthentication extends OFWlanData where
  authAlg : UInt16

namespace OFWlanAuthentication

def getLength (this : OFWlanAuthentication) : Nat := this.toOFWlanData.getLength + 2

def writeTo (this : OFWlanAuthentication) : Option (List UInt8) := do
  let data ← this.toOFWlanData.writeTo
  return data ++ wordBytes this.authAlg

def readFrom (this : OFWlanAuthentication) : Reader OFWlanAuthentication := do
  let data ← this.toOFWlanData.readFrom
  let authAlg ← readShort
  return ⟨data,authAlg⟩

end OFWlanAuthentication

structure OFWlanAssociation extends OFWlanData where
  aid : UInt16
  capability : UInt16
  listenInterval : UInt16
  supportedRates : NullableBytes
  supportedRatesLen : UInt32
  qosinfo : UInt8

namespace OFWlanAssociation

def getLength (this : OFWlanAssociation) : Nat := this.toOFWlanData.getLength + 60

def writeTo (this : OFWlanAssociation) : Option (List UInt8) := do
  let data ← this.toOFWlanData.writeTo
  let rates ← this.supportedRates
  return data ++ (wordBytes this.aid ++ (wordBytes this.capability ++ (wordBytes this.listenInterval ++ (wordBytes 0 ++
    (rates ++ (longBytes this.supportedRatesLen ++ ([this.qosinfo] ++ (wordBytes 0 ++ [0]))))))))

def readFrom (this : OFWlanAssociation) : Reader OFWlanAssociation := do
  let data ← this.toOFWlanData.readFrom
  let aid ← readShort
  let capability ← readShort
  let listenInterval ← readShort
  skip 2
  let rates ← readArray 32
  let ratesLen ← readInt
  let qosinfo ← readByte
  skip 3
  return ⟨data,aid,capability,listenInterval,some rates,ratesLen,qosinfo⟩

end OFWlanAssociation

structure OFWlanSTAMessage extends OFWlanHeader where
  staMacAddress : NullableBytes

namespace OFWlanSTAMessage

def getLength (this : OFWlanSTAMessage) : Nat := this.toOFWlanHeader.getLength + 6

def writeTo (this : OFWlanSTAMessage) : Option (List UInt8) := do
  let header ← this.toOFWlanHeader.writeTo
  let sta ← this.staMacAddress
  return header ++ sta

def readFrom (this : OFWlanSTAMessage) : Reader OFWlanSTAMessage := do
  let header ← this.toOFWlanHeader.readFrom
  let sta ← readArray 6
  return ⟨header,some sta⟩

end OFWlanSTAMessage

structure OFWlanRSSI extends OFWlanHeader where
  staMacAddress : NullableBytes
  apMacAddress : NullableBytes
  rssi : UInt8

namespace OFWlanRSSI

def getLength (this : OFWlanRSSI) : Nat := this.toOFWlanHeader.getLength + 13

def writeTo (this : OFWlanRSSI) : Option (List UInt8) := do
  let header ← this.toOFWlanHeader.writeTo
  let sta ← this.staMacAddress
  let ap ← this.apMacAddress
  return header ++ (sta ++ (ap ++ [this.rssi]))

def readFrom (this : OFWlanRSSI) : Reader OFWlanRSSI := do
  let header ← this.toOFWlanHeader.readFrom
  let sta ← readArray 6
  let ap ← readArray 6
  let rssi ← readByte
  return ⟨header,some sta,some ap,rssi⟩

end OFWlanRSSI

structure OFNATMessage extends OFWlanHeader where
  staMacAddress : NullableBytes
  sourceIP : UInt32
  destinationIP : UInt32
  sourcePort : UInt16
  destinationPort : UInt16

namespace OFNATMessage

def getLength (this : OFNATMessage) : Nat := this.toOFWlanHeader.getLength + 20

def writeTo (this : OFNATMessage) : Option (List UInt8) := do
  let header ← this.toOFWlanHeader.writeTo
  let sta ← this.staMacAddress
  return header ++ (sta ++ (wordBytes 0 ++ (longBytes this.sourceIP ++ (longBytes this.destinationIP ++
    (wordBytes this.sourcePort ++ wordBytes this.destinationPort)))))

def readFrom (this : OFNATMessage) : Reader OFNATMessage := do
  let header ← this.toOFWlanHeader.readFrom
  let sta ← readArray 6
  skip 2
  let sourceIP ← readInt
  let destinationIP ← readInt
  let sourcePort ← readShort
  let destinationPort ← readShort
  return ⟨header,some sta,sourceIP,destinationIP,sourcePort,destinationPort⟩

end OFNATMessage

structure OFNATMessageExt extends OFNATMessage where
  newPort : UInt16

namespace OFNATMessageExt

def getLength (this : OFNATMessageExt) : Nat := this.toOFNATMessage.getLength + 4

def writeTo (this : OFNATMessageExt) : Option (List UInt8) := do
  let message ← this.toOFNATMessage.writeTo
  return message ++ (wordBytes this.newPort ++ wordBytes 0)

def readFrom (this : OFNATMessageExt) : Reader OFNATMessageExt := do
  let message ← this.toOFNATMessage.readFrom
  let newPort ← readShort
  skip 2
  return ⟨message,newPort⟩

end OFNATMessageExt

structure OFWlanUpdateSTA extends OFWlanHeader where
  staMacAddress : NullableBytes
  authAlg : UInt16
  aid : UInt16
  capability : UInt16
  listenInterval : UInt16
  supportedRates : NullableBytes
  supportedRatesLen : UInt32
  qosinfo : UInt8

namespace OFWlanUpdateSTA

def getLength (this : OFWlanUpdateSTA) : Nat := this.toOFWlanHeader.getLength + 56

def writeTo (this : OFWlanUpdateSTA) : Option (List UInt8) := do
  let header ← this.toOFWlanHeader.writeTo
  let sta ← this.staMacAddress
  let rates ← this.supportedRates
  return header ++ (sta ++ (wordBytes this.authAlg ++ (wordBytes this.aid ++ (wordBytes this.capability ++
    (wordBytes this.listenInterval ++ (wordBytes 0 ++ (rates ++ (longBytes this.supportedRatesLen ++ ([this.qosinfo] ++
      (wordBytes 0 ++ [0]))))))))))

/-- Unlike the others it makes no arrays, and skips no pads. -/
def readFrom (this : OFWlanUpdateSTA) : Reader OFWlanUpdateSTA := do
  let header ← this.toOFWlanHeader.readFrom
  let sta ← readInto this.staMacAddress
  let authAlg ← readShort
  let aid ← readShort
  let capability ← readShort
  let listenInterval ← readShort
  let rates ← readInto this.supportedRates
  let ratesLen ← readInt
  let qosinfo ← readByte
  return ⟨header,some sta,authAlg,aid,capability,listenInterval,some rates,ratesLen,qosinfo⟩

end OFWlanUpdateSTA

/-! ### Classes as codecs -/

/-- A class by its methods, a new object of it, and which objects are well-formed. -/
structure VendorClass where
  Object : Type
  instantiate : Object
  getLength : Object → Nat
  writeTo : Object → Option (List UInt8)
  readFrom : Object → Reader Object
  WellFormed : Object → Prop

/-- What the class writes has the length it says, and a new object reads it back. -/
def VendorClass.SelfConsistent (cls : VendorClass) : Prop :=
  ∀ this, cls.WellFormed this → ∃ bytes, cls.writeTo this = some bytes ∧ bytes.length = cls.getLength this ∧
    Reads (cls.readFrom cls.instantiate) bytes this

/-- An array of the length is there. -/
def Sized (array : NullableBytes) (n : Nat) : Prop := ∃ bytes, array = some bytes ∧ bytes.length = n

def header (subtype : UInt32) : VendorClass where
  Object := OFWlanHeader
  instantiate := ⟨subtype⟩
  getLength := OFWlanHeader.getLength
  writeTo := OFWlanHeader.writeTo
  readFrom := OFWlanHeader.readFrom
  WellFormed _ := True

def wlanData (subtype : UInt32) : VendorClass where
  Object := OFWlanData
  instantiate := ⟨⟨subtype⟩,none,none⟩
  getLength := OFWlanData.getLength
  writeTo := OFWlanData.writeTo
  readFrom := OFWlanData.readFrom
  WellFormed this := Sized this.staMacAddress 6 ∧ Sized this.apMacAddress 6

def authentication (subtype : UInt32) : VendorClass where
  Object := OFWlanAuthentication
  instantiate := ⟨⟨⟨subtype⟩,none,none⟩,0⟩
  getLength := OFWlanAuthentication.getLength
  writeTo := OFWlanAuthentication.writeTo
  readFrom := OFWlanAuthentication.readFrom
  WellFormed this := Sized this.staMacAddress 6 ∧ Sized this.apMacAddress 6

def association (subtype : UInt32) : VendorClass where
  Object := OFWlanAssociation
  instantiate := ⟨⟨⟨subtype⟩,none,none⟩,0,0,0,none,0,0⟩
  getLength := OFWlanAssociation.getLength
  writeTo := OFWlanAssociation.writeTo
  readFrom := OFWlanAssociation.readFrom
  WellFormed this := Sized this.staMacAddress 6 ∧ Sized this.apMacAddress 6 ∧ Sized this.supportedRates 32

def staMessage (subtype : UInt32) : VendorClass where
  Object := OFWlanSTAMessage
  instantiate := ⟨⟨subtype⟩,none⟩
  getLength := OFWlanSTAMessage.getLength
  writeTo := OFWlanSTAMessage.writeTo
  readFrom := OFWlanSTAMessage.readFrom
  WellFormed this := Sized this.staMacAddress 6

def rssi (subtype : UInt32) : VendorClass where
  Object := OFWlanRSSI
  instantiate := ⟨⟨subtype⟩,none,none,0⟩
  getLength := OFWlanRSSI.getLength
  writeTo := OFWlanRSSI.writeTo
  readFrom := OFWlanRSSI.readFrom
  WellFormed this := Sized this.staMacAddress 6 ∧ Sized this.apMacAddress 6

def natMessage (subtype : UInt32) : VendorClass where
  Object := OFNATMessage
  instantiate := ⟨⟨subtype⟩,none,0,0,0,0⟩
  getLength := OFNATMessage.getLength
  writeTo := OFNATMessage.writeTo
  readFrom := OFNATMessage.readFrom
  WellFormed this := Sized this.staMacAddress 6

def natMessageExt (subtype : UInt32) : VendorClass where
  Object := OFNATMessageExt
  instantiate := ⟨⟨⟨subtype⟩,none,0,0,0,0⟩,0⟩
  getLength := OFNATMessageExt.getLength
  writeTo := OFNATMessageExt.writeTo
  readFrom := OFNATMessageExt.readFrom
  WellFormed this := Sized this.staMacAddress 6

def updateSTA (subtype : UInt32) : VendorClass where
  Object := OFWlanUpdateSTA
  instantiate := ⟨⟨subtype⟩,none,0,0,0,0,none,0,0⟩
  getLength := OFWlanUpdateSTA.getLength
  writeTo := OFWlanUpdateSTA.writeTo
  readFrom := OFWlanUpdateSTA.readFrom
  WellFormed this := Sized this.staMacAddress 6 ∧ Sized this.supportedRates 32

/-- The concrete classes of the package. -/
inductive Concrete where
  | probe
  | authRequest
  | assocRequest
  | reassociationRequest
  | disassocRequest
  | deauthRequest
  | addSTA
  | removeSTA
  | lastRSSI
  | dataRSSI
  | apRSSI
  | natUpdate
  | natAdd
  | portTranslation
  | updateSTAAdd
  | gwConnect
deriving DecidableEq

/-- The constant that each passes to its superclass. -/
def Concrete.subtype : Concrete → UInt32
  | .probe => 12
  | .authRequest => 0
  | .assocRequest => 4
  | .reassociationRequest => 7
  | .disassocRequest => 10
  | .deauthRequest => 3
  | .addSTA => 13
  | .removeSTA => 18
  | .lastRSSI => 15
  | .dataRSSI => 14
  | .apRSSI => 16
  | .natUpdate => 19
  | .natAdd => 20
  | .portTranslation => 21
  | .updateSTAAdd => 17
  | .gwConnect => 100

def Concrete.vendorClass (c : Concrete) : VendorClass :=
  match c with
  | .probe => wlanData c.subtype
  | .authRequest => authentication c.subtype
  | .assocRequest => association c.subtype
  | .reassociationRequest => wlanData c.subtype
  | .disassocRequest => wlanData c.subtype
  | .deauthRequest => wlanData c.subtype
  | .addSTA => staMessage c.subtype
  | .removeSTA => staMessage c.subtype
  | .lastRSSI => staMessage c.subtype
  | .dataRSSI => rssi c.subtype
  | .apRSSI => rssi c.subtype
  | .natUpdate => natMessage c.subtype
  | .natAdd => natMessageExt c.subtype
  | .portTranslation => natMessageExt c.subtype
  | .updateSTAAdd => updateSTA c.subtype
  | .gwConnect => header c.subtype

/-! ### Round trips -/

theorem reads_array {bytes : List UInt8} {n : Nat} (size : bytes.length = n) : Reads (readArray n) bytes bytes := by
  have read := reads_bytes (⟨bytes.toArray,by simpa using size⟩ : Vector UInt8 n)
  rw [Vector.toList_mk,List.toList_toArray] at read
  exact read.returns (by simp)

theorem reads_header (this : OFWlanHeader) (subtype : UInt32) : Reads this.readFrom (longBytes subtype) ⟨subtype⟩ :=
  (reads_int subtype).returns rfl

theorem reads_wlanData (this : OFWlanData) (subtype : UInt32) {sta ap : List UInt8} (six : sta.length = 6)
    (six' : ap.length = 6) : Reads this.readFrom (longBytes subtype ++ (sta ++ ap)) ⟨⟨subtype⟩,some sta,some ap⟩ :=
  (reads_header _ subtype).bind ((reads_array six).bind ((reads_array six').returns rfl))

theorem reads_natMessage (this : OFNATMessage) (subtype sourceIP destinationIP : UInt32) (sourcePort destinationPort : UInt16)
    {sta : List UInt8} (six : sta.length = 6) :
    Reads this.readFrom (longBytes subtype ++ (sta ++ (wordBytes 0 ++ (longBytes sourceIP ++ (longBytes destinationIP ++
      (wordBytes sourcePort ++ wordBytes destinationPort))))))
      ⟨⟨subtype⟩,some sta,sourceIP,destinationIP,sourcePort,destinationPort⟩ :=
  (reads_header _ subtype).bind ((reads_array six).bind ((reads_skip (length_wordBytes 0)).bind ((reads_int sourceIP).bind
    ((reads_int destinationIP).bind ((reads_short sourcePort).bind ((reads_short destinationPort).returns rfl))))))

theorem header_consistent (subtype : UInt32) : (header subtype).SelfConsistent := by
  rintro ⟨own⟩ _
  exact ⟨longBytes own,rfl,rfl,reads_header ⟨subtype⟩ own⟩

theorem wlanData_consistent (subtype : UInt32) : (wlanData subtype).SelfConsistent := by
  rintro ⟨⟨own⟩,_,_⟩ ⟨⟨sta,rfl,six⟩,ap,rfl,six'⟩
  refine ⟨_,rfl,?_,reads_wlanData _ own six six'⟩
  simp [six,six',wlanData,OFWlanData.getLength,OFWlanHeader.getLength]

theorem authentication_consistent (subtype : UInt32) : (authentication subtype).SelfConsistent := by
  rintro ⟨⟨⟨own⟩,_,_⟩,authAlg⟩ ⟨⟨sta,rfl,six⟩,ap,rfl,six'⟩
  refine ⟨_,rfl,?_,(reads_wlanData _ own six six').bind ((reads_short authAlg).returns rfl)⟩
  simp [six,six',authentication,OFWlanAuthentication.getLength,OFWlanData.getLength,OFWlanHeader.getLength]

theorem staMessage_consistent (subtype : UInt32) : (staMessage subtype).SelfConsistent := by
  rintro ⟨⟨own⟩,_⟩ ⟨sta,rfl,six⟩
  refine ⟨_,rfl,?_,(reads_header _ own).bind ((reads_array six).returns rfl)⟩
  simp [six,staMessage,OFWlanSTAMessage.getLength,OFWlanHeader.getLength]

theorem rssi_consistent (subtype : UInt32) : (rssi subtype).SelfConsistent := by
  rintro ⟨⟨own⟩,_,_,value⟩ ⟨⟨sta,rfl,six⟩,ap,rfl,six'⟩
  refine ⟨_,rfl,?_,(reads_header _ own).bind ((reads_array six).bind ((reads_array six').bind ((reads_byte value).returns rfl)))⟩
  simp [six,six',rssi,OFWlanRSSI.getLength,OFWlanHeader.getLength]

theorem natMessage_consistent (subtype : UInt32) : (natMessage subtype).SelfConsistent := by
  rintro ⟨⟨own⟩,_,sourceIP,destinationIP,sourcePort,destinationPort⟩ ⟨sta,rfl,six⟩
  refine ⟨_,rfl,?_,reads_natMessage _ own sourceIP destinationIP sourcePort destinationPort six⟩
  simp [six,natMessage,OFNATMessage.getLength,OFWlanHeader.getLength]

theorem natMessageExt_consistent (subtype : UInt32) : (natMessageExt subtype).SelfConsistent := by
  rintro ⟨⟨⟨own⟩,_,sourceIP,destinationIP,sourcePort,destinationPort⟩,newPort⟩ ⟨sta,rfl,six⟩
  refine ⟨_,rfl,?_,(reads_natMessage _ own sourceIP destinationIP sourcePort destinationPort six).bind
    ((reads_short newPort).bind ((reads_skip (length_wordBytes 0)).returns rfl))⟩
  simp [six,natMessageExt,OFNATMessageExt.getLength,OFNATMessage.getLength,OFWlanHeader.getLength]

/-- An association is read back as it was, but written in twelve bytes less than its
    length. -/
theorem association_short (subtype : UInt32) (this : (association subtype).Object)
    (formed : (association subtype).WellFormed this) :
    ∃ bytes, (association subtype).writeTo this = some bytes ∧
      bytes.length + 12 = (association subtype).getLength this ∧
      Reads ((association subtype).readFrom (association subtype).instantiate) bytes this := by
  obtain ⟨⟨⟨own⟩,_,_⟩,aid,capability,listenInterval,_,ratesLen,qosinfo⟩ := this
  obtain ⟨⟨sta,rfl,six⟩,⟨ap,rfl,six'⟩,rates,rfl,size⟩ := formed
  have pad : (wordBytes 0 ++ [(0 : UInt8)]).length = 3 := rfl
  refine ⟨_,rfl,?_,(reads_wlanData _ own six six').bind ((reads_short aid).bind ((reads_short capability).bind
    ((reads_short listenInterval).bind ((reads_skip (length_wordBytes 0)).bind ((reads_array size).bind ((reads_int ratesLen).bind
    ((reads_byte qosinfo).bind ((reads_skip pad).returns rfl))))))))⟩
  simp [six,six',size,association,OFWlanAssociation.getLength,OFWlanData.getLength,OFWlanHeader.getLength]

/-- Without an array to read the address into, nothing is read. -/
theorem OFWlanUpdateSTA.readFrom_null {this : OFWlanUpdateSTA} (isNull : this.staMacAddress = none)
    (data : List UInt8) : this.readFrom data = none := by
  unfold readFrom
  rw [isNull]
  change Option.bind _ _ = none
  cases this.toOFWlanHeader.readFrom data <;> rfl

/-- An update has its length, but a new object reads nothing at all. -/
theorem updateSTA_unread (subtype : UInt32) :
    (∀ this, (updateSTA subtype).WellFormed this →
      ∃ bytes, (updateSTA subtype).writeTo this = some bytes ∧ bytes.length = (updateSTA subtype).getLength this) ∧
    ∀ data, (updateSTA subtype).readFrom (updateSTA subtype).instantiate data = none := by
  refine ⟨?_,fun data => ?_⟩
  · rintro ⟨⟨own⟩,_,authAlg,aid,capability,listenInterval,_,ratesLen,qosinfo⟩ ⟨⟨sta,rfl,six⟩,rates,rfl,size⟩
    refine ⟨_,rfl,?_⟩
    simp [six,size,updateSTA,OFWlanUpdateSTA.getLength,OFWlanHeader.getLength]
  · exact OFWlanUpdateSTA.readFrom_null rfl data

/-! ### What the handlers see of an object -/

/-- The address in the array. -/
def mac (array : NullableBytes) : Mac := Wire.macAt (array.getD []) 0

/-- The address in the `int`. -/
def address (word : UInt32) : IPv4 := Packet.addressAt (longBytes word) 0

def OFNATMessage.tuple (this : OFNATMessage) : FourTuple :=
  ⟨address this.sourceIP,address this.destinationIP,this.sourcePort,this.destinationPort⟩

theorem readMac_eq : Wire.readMac = (do let bytes ← readArray 6; return mac (some bytes)) := by
  funext data
  match data with
  | [] => rfl
  | [_] => rfl
  | [_,_] => rfl
  | [_,_,_] => rfl
  | [_,_,_,_] => rfl
  | [_,_,_,_,_] => rfl
  | _ :: _ :: _ :: _ :: _ :: _ :: _ => rfl

theorem address_long (data : List UInt8) (i : Nat) : address (long data i) = Packet.addressAt data i := by
  rw [address,longBytes_long,wordBytes_word,wordBytes_word]
  rfl

theorem readAddress_eq : Wire.readAddress = (do let word ← readInt; return address word) := by
  funext data
  match data with
  | [] => rfl
  | [_] => rfl
  | [_,_] => rfl
  | [_,_,_] => rfl
  | o0 :: o1 :: o2 :: o3 :: rest =>
    change some (Packet.addressAt [o0,o1,o2,o3] 0,rest) = some (address (long [o0,o1,o2,o3] 0),rest)
    rw [address_long]

/-- The rates in the array. -/
def rates (array : NullableBytes) : Vector UInt8 32 := Codec.array 32 (array.getD []) 0

@[simp] theorem rates_toList (v : Vector UInt8 32) : rates (some v.toList) = v := by
  refine Vector.ext (fun i inside => ?_)
  simp [rates,array,byte]

/-- What the handler of a message takes from its object, for the classes that the
    factory knows. -/
def Concrete.view (c : Concrete) : Option (c.vendorClass.Object → ToController × Option UInt16) :=
  match c with
  | .probe => some fun this : OFWlanData => (.probe (mac this.staMacAddress) (mac this.apMacAddress),none)
  | .authRequest => some fun this : OFWlanAuthentication =>
      (.authReq (mac this.staMacAddress) (mac this.apMacAddress) this.authAlg,none)
  | .assocRequest => some fun this : OFWlanAssociation =>
      (.assocReq (mac this.staMacAddress) (mac this.apMacAddress) ⟨this.aid,this.capability,this.listenInterval,
        rates this.supportedRates,this.supportedRatesLen,this.qosinfo⟩,none)
  | .reassociationRequest => some fun this : OFWlanData =>
      (.reassocReq (mac this.staMacAddress) (mac this.apMacAddress),none)
  | .disassocRequest => some fun this : OFWlanData =>
      (.disassocReq (mac this.staMacAddress) (mac this.apMacAddress),none)
  | .deauthRequest => some fun this : OFWlanData => (.deauthReq (mac this.staMacAddress) (mac this.apMacAddress),none)
  | .dataRSSI => some fun this : OFWlanRSSI => (.recPow (mac this.staMacAddress) (mac this.apMacAddress) this.rssi,none)
  | .apRSSI => some fun this : OFWlanRSSI => (.apRecPow (mac this.staMacAddress) (mac this.apMacAddress) this.rssi,none)
  | .natUpdate => some fun this : OFNATMessage => (.natUpdate (mac this.staMacAddress) this.tuple,none)
  | .portTranslation => some fun this : OFNATMessageExt =>
      (.portTranslation (mac this.staMacAddress) this.tuple,some this.newPort)
  | .gwConnect => some fun _ : OFWlanHeader => (.gwConnect,none)
  | .addSTA | .removeSTA | .lastRSSI | .natAdd | .updateSTAAdd => none

theorem ofWlanData_eq (make : Mac → Mac → ToController) (this : OFWlanData) :
    Wire.ofWlanData make = (do
      let read ← this.readFrom
      return (make (mac read.staMacAddress) (mac read.apMacAddress),none)) := by
  simp only [Wire.ofWlanData,OFWlanData.readFrom,OFWlanHeader.readFrom,readMac_eq,bind_assoc,pure_bind]

theorem ofWlanRSSI_eq (make : Mac → Mac → UInt8 → ToController) (this : OFWlanRSSI) :
    Wire.ofWlanRSSI make = (do
      let read ← this.readFrom
      return (make (mac read.staMacAddress) (mac read.apMacAddress) read.rssi,none)) := by
  simp only [Wire.ofWlanRSSI,OFWlanRSSI.readFrom,OFWlanHeader.readFrom,readMac_eq,bind_assoc,pure_bind]

theorem ofNATMessage_eq (this : OFNATMessage) :
    Wire.ofNATMessage = (do
      let read ← this.readFrom
      return (mac read.staMacAddress,read.tuple)) := by
  simp only [Wire.ofNATMessage,OFNATMessage.readFrom,OFWlanHeader.readFrom,OFNATMessage.tuple,readMac_eq,readAddress_eq,
    bind_assoc,pure_bind]

/-- What the factory parses is what a new object of the class reads. -/
theorem readFrom_registered (c : Concrete) :
    Wire.readFrom c.subtype = c.view.map (fun view => do
      let this ← c.vendorClass.readFrom c.vendorClass.instantiate
      return view this) := by
  cases c with
  | probe => exact congrArg some (ofWlanData_eq .probe _)
  | reassociationRequest => exact congrArg some (ofWlanData_eq .reassocReq _)
  | disassocRequest => exact congrArg some (ofWlanData_eq .disassocReq _)
  | deauthRequest => exact congrArg some (ofWlanData_eq .deauthReq _)
  | dataRSSI => exact congrArg some (ofWlanRSSI_eq .recPow _)
  | apRSSI => exact congrArg some (ofWlanRSSI_eq .apRecPow _)
  | authRequest =>
    refine congrArg some ?_
    simp only [Wire.ofWlanAuthentication,Concrete.vendorClass,authentication,OFWlanAuthentication.readFrom,
      OFWlanData.readFrom,OFWlanHeader.readFrom,readMac_eq,bind_assoc,pure_bind]
  | assocRequest =>
    refine congrArg some ?_
    simp only [Wire.ofWlanAssociation,Concrete.vendorClass,association,OFWlanAssociation.readFrom,
      OFWlanData.readFrom,OFWlanHeader.readFrom,readArray,rates_toList,readMac_eq,bind_assoc,pure_bind]
  | natUpdate =>
    refine congrArg some ?_
    simp only [Wire.ofNATUpdate,ofNATMessage_eq (natMessage 19).instantiate,bind_assoc,pure_bind]
    rfl
  | portTranslation =>
    refine congrArg some ?_
    simp only [Wire.ofPortTranslation,ofNATMessage_eq (natMessage 21).instantiate,Concrete.vendorClass,natMessageExt,
      OFNATMessageExt.readFrom,bind_assoc,pure_bind]
    rfl
  | gwConnect =>
    refine congrArg some ?_
    simp only [Wire.gwConnect,Concrete.vendorClass,header,OFWlanHeader.readFrom,bind_assoc,pure_bind]
  | addSTA => rfl
  | removeSTA => rfl
  | lastRSSI => rfl
  | natAdd => rfl
  | updateSTAAdd => rfl

/-- The class of a message that the controller sends. -/
def concrete : FromController → Concrete
  | .addSTA _ => .addSTA
  | .lastRecPow _ => .lastRSSI
  | .removeSTA _ => .removeSTA
  | .updateSTAAdd _ _ => .updateSTAAdd
  | .natAdd _ _ _ => .natAdd

/-- The `int` of an address. -/
def toInt (a : IPv4) : UInt32 := long (Packet.addressBytes a) 0

theorem longBytes_toInt (a : IPv4) : longBytes (toInt a) = Packet.addressBytes a := by
  rw [toInt,longBytes_long,wordBytes_word,wordBytes_word]
  rfl

/-- The object that the controller makes for a message. -/
def object : (msg : FromController) → (concrete msg).vendorClass.Object
  | .addSTA sta => (⟨⟨13⟩,some sta.bytes⟩ : OFWlanSTAMessage)
  | .lastRecPow sta => (⟨⟨15⟩,some sta.bytes⟩ : OFWlanSTAMessage)
  | .removeSTA sta => (⟨⟨18⟩,some sta.bytes⟩ : OFWlanSTAMessage)
  | .updateSTAAdd sta u => (⟨⟨17⟩,some sta.bytes,u.authAlg,u.aid,u.capability,u.listenInterval,
      u.supportedRates.map Vector.toList,u.supportedRatesLen,u.qosinfo⟩ : OFWlanUpdateSTA)
  | .natAdd sta t newPort => (⟨⟨⟨20⟩,some sta.bytes,toInt t.sourceIP,toInt t.destinationIP,t.sourcePort,
      t.destinationPort⟩,newPort⟩ : OFNATMessageExt)

/-- What the controller sends is what the object writes, and the length that it
    announces the object's. -/
theorem writeTo_object (msg : FromController) :
    (concrete msg).vendorClass.writeTo (object msg) =
        (Wire.writeFields msg).map (longBytes (Wire.vendorSubtype msg) ++ ·) ∧
      (concrete msg).vendorClass.getLength (object msg) = Wire.getLength msg := by
  refine ⟨?_,by cases msg <;> rfl⟩
  cases msg with
  | addSTA sta => rfl
  | lastRecPow sta => rfl
  | removeSTA sta => rfl
  | updateSTAAdd sta u =>
    obtain ⟨authAlg,aid,capability,listenInterval,supportedRates,ratesLen,qosinfo⟩ := u
    cases supportedRates with
    | none => rfl
    | some v =>
      change some _ = some _
      simp only [object,List.append_assoc]
      rfl
  | natAdd sta t newPort =>
    change some _ = some _
    simp only [object,longBytes_toInt,List.append_assoc]
    rfl

/-! ### Which classes are codecs -/

/-- A station that asks to be associated. -/
def asking : OFWlanAssociation :=
  ⟨⟨⟨4⟩,some [2,0,0,0,0,1],some [2,0,0,0,0,16]⟩,1,0x431,10,some (List.replicate 32 0),8,0⟩

/-- Its update after a handover. -/
def handed : OFWlanUpdateSTA := ⟨⟨17⟩,some [2,0,0,0,0,1],0,1,0x431,10,some (List.replicate 32 0),8,0⟩

theorem asking_formed : (association 4).WellFormed asking := ⟨⟨_,rfl,rfl⟩,⟨_,rfl,rfl⟩,_,rfl,by decide⟩

theorem handed_formed : (updateSTA 17).WellFormed handed := ⟨⟨_,rfl,rfl⟩,_,rfl,by decide⟩

/-- Every class writes what it says and is read back by a new object, but for the two. -/
theorem selfConsistent_iff (c : Concrete) : c.vendorClass.SelfConsistent ↔ c ≠ .assocRequest ∧ c ≠ .updateSTAAdd := by
  cases c with
  | probe => simp [Concrete.vendorClass,wlanData_consistent]
  | authRequest => simp [Concrete.vendorClass,authentication_consistent]
  | reassociationRequest => simp [Concrete.vendorClass,wlanData_consistent]
  | disassocRequest => simp [Concrete.vendorClass,wlanData_consistent]
  | deauthRequest => simp [Concrete.vendorClass,wlanData_consistent]
  | addSTA => simp [Concrete.vendorClass,staMessage_consistent]
  | removeSTA => simp [Concrete.vendorClass,staMessage_consistent]
  | lastRSSI => simp [Concrete.vendorClass,staMessage_consistent]
  | dataRSSI => simp [Concrete.vendorClass,rssi_consistent]
  | apRSSI => simp [Concrete.vendorClass,rssi_consistent]
  | natUpdate => simp [Concrete.vendorClass,natMessage_consistent]
  | natAdd => simp [Concrete.vendorClass,natMessageExt_consistent]
  | portTranslation => simp [Concrete.vendorClass,natMessageExt_consistent]
  | gwConnect => simp [Concrete.vendorClass,header_consistent]
  | assocRequest =>
    refine iff_of_false (fun consistent => ?_) (fun h => h.1 rfl)
    obtain ⟨bytes,written,size,_⟩ := consistent asking asking_formed
    obtain ⟨bytes',written',size',_⟩ := association_short 4 asking asking_formed
    cases written.symm.trans written'
    have sizes : bytes.length + 12 = bytes.length := size'.trans size.symm
    omega
  | updateSTAAdd =>
    refine iff_of_false (fun consistent => ?_) (fun h => h.2 rfl)
    obtain ⟨bytes,_,_,read⟩ := consistent handed handed_formed
    cases (read []).symm.trans ((updateSTA_unread 17).2 _)

/-- The two on their own objects: 64 bytes where the length is 76, and bytes that no new
    object reads. -/
theorem association_and_update_inconsistent :
    Concrete.assocRequest.vendorClass.WellFormed asking ∧
    (Concrete.assocRequest.vendorClass.writeTo asking).map List.length = some 64 ∧
    Concrete.assocRequest.vendorClass.getLength asking = 76 ∧
    Concrete.updateSTAAdd.vendorClass.WellFormed handed ∧
    (Concrete.updateSTAAdd.vendorClass.writeTo handed).isSome ∧
    (Concrete.updateSTAAdd.vendorClass.writeTo handed).bind (Concrete.updateSTAAdd.vendorClass.readFrom
      Concrete.updateSTAAdd.vendorClass.instantiate) = none :=
  ⟨asking_formed,rfl,rfl,handed_formed,rfl,rfl⟩

end Handover.Classes
