import Handover.Codec
import Handover.Packets
import Handover.Messages

/-!
The messages of an access point as bytes: the structs that `controller_interface.c`
fills and sends, and the classes by which the controller's `BasicFactory` reads them
off the stream. The factory goes on where a class's `readFrom` has stopped, whatever
length the header has announced. A reassociation request and a NAT update are sent in
longer structs than they are read by, and nothing behind one of them is read aright;
all other messages come through.
-/
namespace Handover

def Mac.bytes (m : Mac) : List UInt8 := [m.o0,m.o1,m.o2,m.o3,m.o4,m.o5]

@[simp] theorem Mac.length_bytes (m : Mac) : m.bytes.length = 6 := rfl

@[simp] theorem Packet.length_addressBytes (a : IPv4) : (Packet.addressBytes a).length = 4 := rfl

namespace Wire
open Bytes Codec Packet

/-! ### The structs of the access point -/

/-- `struct ofp_header`, of version `OFP_VERSION` and type `OFPT_VENDOR`. -/
def ofpHeader (length : UInt16) (xid : UInt32) : List Member :=
  [⟨1,[1]⟩,⟨1,[4]⟩,⟨2,wordBytes length⟩,⟨4,longBytes xid⟩]

/-- `struct ofp_wlan_header`, with `AP_EXPERIMENTER_ID`. -/
def ofpWlanHeader (length : UInt16) (xid subtype : UInt32) : List Member :=
  ofpHeader length xid ++ [⟨4,longBytes 1⟩,⟨4,longBytes subtype⟩]

def ofpWlanMsg (sta ap : Mac) : List Member := [⟨1,sta.bytes⟩,⟨1,ap.bytes⟩]

def ofpWlanAuthMsg (sta ap : Mac) (authAlg : UInt16) : List Member :=
  [⟨1,sta.bytes⟩,⟨1,ap.bytes⟩,⟨2,wordBytes authAlg⟩]

def ofpWlanAssocMsg (sta ap : Mac) (a : Association) : List Member :=
  [⟨1,sta.bytes⟩,⟨1,ap.bytes⟩,⟨2,wordBytes a.aid⟩,⟨2,wordBytes a.capability⟩,⟨2,wordBytes a.listenInterval⟩,⟨1,[0,0]⟩,
    ⟨1,a.supportedRates.toList⟩,⟨4,longBytes a.supportedRatesLen⟩,⟨1,[a.qosinfo]⟩,⟨1,[0,0,0]⟩]

def ofpWlanRssi (sta ap : Mac) (rssi : UInt8) : List Member := [⟨1,sta.bytes⟩,⟨1,ap.bytes⟩,⟨1,[rssi]⟩]

def ofpNatPortEntry (sta : Mac) (t : FourTuple) (newPort : UInt16) : List Member :=
  [⟨1,sta.bytes⟩,⟨1,[0,0]⟩,⟨4,addressBytes t.sourceIP⟩,⟨4,addressBytes t.destinationIP⟩,⟨2,wordBytes t.sourcePort⟩,
    ⟨2,wordBytes t.destinationPort⟩,⟨2,wordBytes newPort⟩,⟨1,[0,0]⟩]

/-- The vendor messages of an access point, with all that it puts into them. -/
inductive APMessage where
  | probe (sta ap : Mac)
  | authReq (sta ap : Mac) (authAlg : UInt16)
  | assocReq (sta ap : Mac) (association : Association)
  | reassocReq (sta ap : Mac) (association : Association)
  | disassocReq (sta ap : Mac)
  | deauthReq (sta ap : Mac)
  | recPow (sta ap : Mac) (rssi : UInt8)
  | apRecPow (sta ap : Mac) (rssi : UInt8)
  | natUpdate (sta : Mac) (tuple : FourTuple)
  | portTranslation (sta : Mac) (tuple : FourTuple)
deriving DecidableEq

namespace APMessage

/-- Its constant of `enum exp_type`. -/
def subtype : APMessage → UInt32
  | probe .. => 12
  | authReq .. => 0
  | assocReq .. => 4
  | reassocReq .. => 7
  | disassocReq .. => 10
  | deauthReq .. => 3
  | recPow .. => 14
  | apRecPow .. => 16
  | natUpdate .. => 19
  | portTranslation .. => 21

/-- The struct behind the header. `send_nat_entry` takes `struct ofp_nat_port_entry`
    too, and neither sender of it sets `tp_new`. -/
def body : APMessage → List Member
  | probe sta ap => ofpWlanMsg sta ap
  | authReq sta ap authAlg => ofpWlanAuthMsg sta ap authAlg
  | assocReq sta ap association => ofpWlanAssocMsg sta ap association
  | reassocReq sta ap association => ofpWlanAssocMsg sta ap association
  | disassocReq sta ap => ofpWlanMsg sta ap
  | deauthReq sta ap => ofpWlanMsg sta ap
  | recPow sta ap rssi => ofpWlanRssi sta ap rssi
  | apRecPow sta ap rssi => ofpWlanRssi sta ap rssi
  | natUpdate sta tuple => ofpNatPortEntry sta tuple 0
  | portTranslation sta tuple => ofpNatPortEntry sta tuple 0

/-- The size that `create_ofp_msg` is given. -/
def size (m : APMessage) : Nat := 16 + (struct m.body).length

/-- What is sent of the message. -/
def bytes (xid : UInt32) (m : APMessage) : List UInt8 :=
  struct (ofpWlanHeader (UInt16.ofNat m.size) xid m.subtype) ++ struct m.body

/-- What its class in the controller has fields for. -/
def decoded : APMessage → ToController
  | probe sta ap => .probe sta ap
  | authReq sta ap authAlg => .authReq sta ap authAlg
  | assocReq sta ap association => .assocReq sta ap association
  | reassocReq sta ap _ => .reassocReq sta ap
  | disassocReq sta ap => .disassocReq sta ap
  | deauthReq sta ap => .deauthReq sta ap
  | recPow sta ap rssi => .recPow sta ap rssi
  | apRecPow sta ap rssi => .apRecPow sta ap rssi
  | natUpdate sta tuple => .natUpdate sta tuple
  | portTranslation sta tuple => .portTranslation sta tuple

/-- The `tp_new` that only `OFPortTranslation` reads. -/
def newPort : APMessage → Option UInt16
  | portTranslation .. => some 0
  | _ => none

/-- Sent in a longer struct than its class reads. -/
def ReadShort : APMessage → Prop
  | reassocReq .. => True
  | natUpdate .. => True
  | _ => False

instance : DecidablePred ReadShort := fun m => by
  cases m <;> unfold ReadShort <;> infer_instance

end APMessage

/-! ### The classes of the controller -/

/-- A message as it was parsed; `newPort` is there for an `OFNATMessageExt`. -/
inductive Parsed where
  | wlan (xid : UInt32) (msg : ToController) (newPort : Option UInt16)
  | other
deriving DecidableEq

/-- The readers of what else the factory knows: the classes of the other OpenFlow
    types, and the vendor data of Nicira. -/
structure OtherReaders where
  message : UInt8 → Reader Unit
  nicira : Int → Reader Unit

def readMac : Reader Mac := do
  let o0 ← readByte
  let o1 ← readByte
  let o2 ← readByte
  let o3 ← readByte
  let o4 ← readByte
  let o5 ← readByte
  return ⟨o0,o1,o2,o3,o4,o5⟩

def readAddress : Reader IPv4 := do
  let o0 ← readByte
  let o1 ← readByte
  let o2 ← readByte
  let o3 ← readByte
  return ⟨o0,o1,o2,o3⟩

/-- `OFWlanData`, whose value the class's constructor makes of it. -/
def ofWlanData (make : Mac → Mac → ToController) : Reader (ToController × Option UInt16) := do
  let _subtype ← readInt
  let sta ← readMac
  let ap ← readMac
  return (make sta ap,none)

def ofWlanAuthentication : Reader (ToController × Option UInt16) := do
  let _subtype ← readInt
  let sta ← readMac
  let ap ← readMac
  let authAlg ← readShort
  return (.authReq sta ap authAlg,none)

def ofWlanAssociation : Reader (ToController × Option UInt16) := do
  let _subtype ← readInt
  let sta ← readMac
  let ap ← readMac
  let aid ← readShort
  let capability ← readShort
  let listenInterval ← readShort
  skip 2
  let supportedRates ← readBytes 32
  let supportedRatesLen ← readInt
  let qosinfo ← readByte
  skip 3
  return (.assocReq sta ap ⟨aid,capability,listenInterval,supportedRates,supportedRatesLen,qosinfo⟩,none)

def ofWlanRSSI (make : Mac → Mac → UInt8 → ToController) : Reader (ToController × Option UInt16) := do
  let _subtype ← readInt
  let sta ← readMac
  let ap ← readMac
  let rssi ← readByte
  return (make sta ap rssi,none)

/-- The fields of `OFNATMessage`. -/
def ofNATMessage : Reader (Mac × FourTuple) := do
  let _subtype ← readInt
  let sta ← readMac
  skip 2
  let sourceIP ← readAddress
  let destinationIP ← readAddress
  let sourcePort ← readShort
  let destinationPort ← readShort
  return (sta,⟨sourceIP,destinationIP,sourcePort,destinationPort⟩)

def ofNATUpdate : Reader (ToController × Option UInt16) := do
  let (sta,tuple) ← ofNATMessage
  return (.natUpdate sta tuple,none)

def ofPortTranslation : Reader (ToController × Option UInt16) := do
  let (sta,tuple) ← ofNATMessage
  let newPort ← readShort
  skip 2
  return (.portTranslation sta tuple,some newPort)

def gwConnect : Reader (ToController × Option UInt16) := do
  let _subtype ← readInt
  return (.gwConnect,none)

/-- The `readFrom` of the class that is registered for the subtype. -/
def readFrom (subtype : UInt32) : Option (Reader (ToController × Option UInt16)) :=
  match subtype.toNat with
  | 0 => some ofWlanAuthentication
  | 3 => some (ofWlanData .deauthReq)
  | 4 => some ofWlanAssociation
  | 7 => some (ofWlanData .reassocReq)
  | 10 => some (ofWlanData .disassocReq)
  | 12 => some (ofWlanData .probe)
  | 14 => some (ofWlanRSSI .recPow)
  | 16 => some (ofWlanRSSI .apRecPow)
  | 19 => some ofNATUpdate
  | 21 => some ofPortTranslation
  | 100 => some gwConnect
  | _ => none

/-- `OFByteArrayVendorData`; an array of a negative length throws. -/
def ofByteArrayVendorData (length : Int) : Reader Unit :=
  if length < 0 then failure else skip length.toNat

/-- `parseVendorData`: the type is looked at first, and then read once more. -/
def parseVendorData (others : OtherReaders) (xid vendor : UInt32) (length : Int) : Reader Parsed := fun data =>
  let array := (ofByteArrayVendorData length data).map (fun (_,rest) => (Parsed.other,rest))
  if vendor = 1 then
    if length = 0 ∨ 4 ≤ length then
      (readInt data).bind (fun (subtype,_) =>
        match readFrom subtype with
        | some read => (read data).map (fun ((msg,newPort),rest) => (.wlan xid msg newPort,rest))
        | none => array)
    else array
  else if vendor = 0x2320 then (others.nicira length data).map (fun (_,rest) => (.other,rest))
  else array

/-- The fields of `OFMessage`. -/
structure Header where
  version : UInt8
  type : UInt8
  length : UInt16
  xid : UInt32

def readHeader : Reader Header := do
  let version ← readByte
  let type ← readByte
  let length ← readShort
  let xid ← readInt
  return ⟨version,type,length,xid⟩

/-- `OFVendor`. -/
def ofVendor (others : OtherReaders) : Reader Parsed := do
  let header ← readHeader
  let vendor ← readInt
  parseVendorData others header.xid vendor (header.length.toNat - 12)

/-- Why there is no list of messages. -/
inductive Failure where
  | exception
  | outOfFuel
deriving DecidableEq

/-- `parseMessageOne`; a message that is not there as a whole is left for later, and
    a type beyond the table of types throws even so. -/
def parseMessageOne (others : OtherReaders) (data : List UInt8) : Except Failure (Option (Parsed × List UInt8)) :=
  if data.length < 8 then .ok none
  else
    match readHeader data with
    | none => .error .exception
    | some (header,_) =>
      if 32 ≤ header.type.toNat then .error .exception
      else if data.length < header.length.toNat then .ok none
      else
        let read := if header.type = 4 then ofVendor others data
          else (others.message header.type data).map (fun (_,rest) => (.other,rest))
        match read with
        | none => .error .exception
        | some (parsed,rest) => .ok (some (parsed,rest))

/-- `parseMessage`, which may not come to an end on a message that takes no bytes. -/
def parseMessage (others : OtherReaders) : Nat → List UInt8 → Except Failure (List Parsed × List UInt8)
  | 0, _ => .error .outOfFuel
  | fuel+1, data =>
    match parseMessageOne others data with
    | .error failure => .error failure
    | .ok none => .ok ([],data)
    | .ok (some (parsed,rest)) =>
      match parseMessage others fuel rest with
      | .error failure => .error failure
      | .ok (more,left) => .ok (parsed :: more,left)

/-- The decoder on a stream that comes in pieces: what is left of one goes before the
    next. -/
def receive (others : OtherReaders) (fuel : Nat) : List UInt8 → List (List UInt8) → Except Failure (List Parsed × List UInt8)
  | left, [] => .ok ([],left)
  | left, piece :: pieces =>
    match parseMessage others fuel (left ++ piece) with
    | .error failure => .error failure
    | .ok (parsed,left) =>
      match receive others fuel left pieces with
      | .error failure => .error failure
      | .ok (more,left) => .ok (parsed ++ more,left)

/-! ### Struct and class -/

-- The pads are members of the structs, and C adds none.
theorem struct_ofpWlanHeader (length : UInt16) (xid subtype : UInt32) :
    struct (ofpWlanHeader length xid subtype) =
      [1] ++ ([4] ++ (wordBytes length ++ (longBytes xid ++ (longBytes 1 ++ longBytes subtype)))) := by
  simp [struct,ofpWlanHeader,ofpHeader,layOut,padding,trailing,Nat.lcm_eq_mul_div]

theorem struct_ofpWlanMsg (sta ap : Mac) : struct (ofpWlanMsg sta ap) = sta.bytes ++ ap.bytes := by
  simp [struct,ofpWlanMsg,layOut,padding,trailing]

theorem struct_ofpWlanAuthMsg (sta ap : Mac) (authAlg : UInt16) :
    struct (ofpWlanAuthMsg sta ap authAlg) = sta.bytes ++ (ap.bytes ++ wordBytes authAlg) := by
  simp [struct,ofpWlanAuthMsg,layOut,padding,trailing,Nat.lcm_eq_mul_div]

theorem struct_ofpWlanAssocMsg (sta ap : Mac) (a : Association) :
    struct (ofpWlanAssocMsg sta ap a) = sta.bytes ++ (ap.bytes ++ (wordBytes a.aid ++ (wordBytes a.capability ++
      (wordBytes a.listenInterval ++ ([0,0] ++ (a.supportedRates.toList ++ (longBytes a.supportedRatesLen ++
        ([a.qosinfo] ++ [0,0,0])))))))) := by
  simp [struct,ofpWlanAssocMsg,layOut,padding,trailing,Nat.lcm_eq_mul_div]

theorem struct_ofpWlanRssi (sta ap : Mac) (rssi : UInt8) :
    struct (ofpWlanRssi sta ap rssi) = sta.bytes ++ (ap.bytes ++ [rssi]) := by
  simp [struct,ofpWlanRssi,layOut,padding,trailing]

theorem struct_ofpNatPortEntry (sta : Mac) (t : FourTuple) (newPort : UInt16) :
    struct (ofpNatPortEntry sta t newPort) = sta.bytes ++ ([0,0] ++ (addressBytes t.sourceIP ++
      (addressBytes t.destinationIP ++ (wordBytes t.sourcePort ++ (wordBytes t.destinationPort ++
        (wordBytes newPort ++ [0,0])))))) := by
  simp [struct,ofpNatPortEntry,layOut,padding,trailing,Nat.lcm_eq_mul_div]

theorem reads_pad : Reads (skip 2) [0,0] () := reads_skip rfl

theorem reads_mac (m : Mac) : Reads readMac m.bytes m := fun _ => rfl

theorem reads_address (a : IPv4) : Reads readAddress (addressBytes a) a := fun _ => rfl

theorem reads_ofWlanData (make : Mac → Mac → ToController) (subtype : UInt32) (sta ap : Mac) :
    Reads (ofWlanData make) (longBytes subtype ++ struct (ofpWlanMsg sta ap)) (make sta ap,none) := by
  rw [struct_ofpWlanMsg]
  exact (reads_int _).bind ((reads_mac _).bind ((reads_mac _).returns rfl))

theorem reads_ofWlanAuthentication (subtype : UInt32) (sta ap : Mac) (authAlg : UInt16) :
    Reads ofWlanAuthentication (longBytes subtype ++ struct (ofpWlanAuthMsg sta ap authAlg))
      (.authReq sta ap authAlg,none) := by
  rw [struct_ofpWlanAuthMsg]
  exact (reads_int _).bind ((reads_mac _).bind ((reads_mac _).bind ((reads_short _).returns rfl)))

theorem reads_ofWlanAssociation (subtype : UInt32) (sta ap : Mac) (a : Association) :
    Reads ofWlanAssociation (longBytes subtype ++ struct (ofpWlanAssocMsg sta ap a)) (.assocReq sta ap a,none) := by
  rw [struct_ofpWlanAssocMsg]
  exact (reads_int _).bind ((reads_mac _).bind ((reads_mac _).bind ((reads_short _).bind ((reads_short _).bind
    ((reads_short _).bind (reads_pad.bind ((reads_bytes _).bind ((reads_int _).bind ((reads_byte _).bind
      (Reads.returns (reads_skip (show [0,0,0].length = 3 from rfl)) rfl))))))))))

theorem reads_ofWlanRSSI (make : Mac → Mac → UInt8 → ToController) (subtype : UInt32) (sta ap : Mac) (rssi : UInt8) :
    Reads (ofWlanRSSI make) (longBytes subtype ++ struct (ofpWlanRssi sta ap rssi)) (make sta ap rssi,none) := by
  rw [struct_ofpWlanRssi]
  exact (reads_int _).bind ((reads_mac _).bind ((reads_mac _).bind ((reads_byte _).returns rfl)))

/-- The first 20 bytes of `struct ofp_nat_port_entry`. -/
theorem reads_ofNATMessage (subtype : UInt32) (sta : Mac) (t : FourTuple) :
    Reads ofNATMessage (longBytes subtype ++ (sta.bytes ++ ([0,0] ++ (addressBytes t.sourceIP ++
      (addressBytes t.destinationIP ++ (wordBytes t.sourcePort ++ wordBytes t.destinationPort)))))) (sta,t) :=
  (reads_int _).bind ((reads_mac _).bind (reads_pad.bind ((reads_address _).bind ((reads_address _).bind
    ((reads_short _).bind ((reads_short _).returns rfl))))))

theorem reads_ofPortTranslation (subtype : UInt32) (sta : Mac) (t : FourTuple) (newPort : UInt16) :
    Reads ofPortTranslation (longBytes subtype ++ struct (ofpNatPortEntry sta t newPort))
      (.portTranslation sta t,some newPort) := by
  have read : Reads ofPortTranslation _ _ :=
    (reads_ofNATMessage subtype sta t).bind ((reads_short newPort).bind (reads_pad.returns rfl))
  rw [struct_ofpNatPortEntry]
  simpa only [List.append_assoc] using read

/-- Each struct is read by the class of its subtype, but for the two. -/
theorem reads_message {m : APMessage} (whole : ¬ m.ReadShort) :
    ∃ read, readFrom m.subtype = some read ∧ Reads read (longBytes m.subtype ++ struct m.body) (m.decoded,m.newPort) := by
  cases m with
  | probe sta ap => exact ⟨_,rfl,reads_ofWlanData _ _ sta ap⟩
  | authReq sta ap authAlg => exact ⟨_,rfl,reads_ofWlanAuthentication _ sta ap authAlg⟩
  | assocReq sta ap association => exact ⟨_,rfl,reads_ofWlanAssociation _ sta ap association⟩
  | disassocReq sta ap => exact ⟨_,rfl,reads_ofWlanData _ _ sta ap⟩
  | deauthReq sta ap => exact ⟨_,rfl,reads_ofWlanData _ _ sta ap⟩
  | recPow sta ap rssi => exact ⟨_,rfl,reads_ofWlanRSSI _ _ sta ap rssi⟩
  | apRecPow sta ap rssi => exact ⟨_,rfl,reads_ofWlanRSSI _ _ sta ap rssi⟩
  | portTranslation sta tuple => exact ⟨_,rfl,reads_ofPortTranslation _ sta tuple 0⟩
  | reassocReq sta ap association => exact absurd trivial whole
  | natUpdate sta tuple => exact absurd trivial whole

/-! ### How much a class takes -/

/-- The bytes that reading a message takes, header and vendor included. -/
def consumed : ToController → Nat
  | .probe .. => 28
  | .authReq .. => 30
  | .assocReq .. => 76
  | .reassocReq .. => 28
  | .disassocReq .. => 28
  | .deauthReq .. => 28
  | .recPow .. => 29
  | .apRecPow .. => 29
  | .natUpdate .. => 36
  | .portTranslation .. => 40
  | .gwConnect => 16

theorem consumes_mac : Consumes readMac 6 :=
  consumes_byte.bind (fun _ => consumes_byte.bind (fun _ => consumes_byte.bind (fun _ => consumes_byte.bind (fun _ =>
    consumes_byte.bind (fun _ => consumes_byte.bind (fun _ => consumes_pure _))))))

theorem consumes_address : Consumes readAddress 4 :=
  consumes_byte.bind (fun _ => consumes_byte.bind (fun _ => consumes_byte.bind (fun _ => consumes_byte.bind (fun _ =>
    consumes_pure _))))

/-- The reader takes for each message what `consumed` says, less the 12 bytes before. -/
def TakesBody (read : Reader (ToController × Option UInt16)) : Prop :=
  ∃ n, Consumes read n ∧ Yields read (fun v => consumed v.1 = 12 + n)

theorem takesBody_ofWlanData {make : Mac → Mac → ToController} (size : ∀ sta ap, consumed (make sta ap) = 28) :
    TakesBody (ofWlanData make) := by
  refine ⟨_,consumes_int.bind (fun _ => consumes_mac.bind (fun _ => consumes_mac.bind (fun _ => consumes_pure _))),?_⟩
  exact .bind (fun _ => .bind (fun sta => .bind (fun ap => yields_pure (size sta ap))))

theorem takesBody_ofWlanAuthentication : TakesBody ofWlanAuthentication := by
  refine ⟨_,consumes_int.bind (fun _ => consumes_mac.bind (fun _ => consumes_mac.bind (fun _ =>
    consumes_short.bind (fun _ => consumes_pure _)))),?_⟩
  exact .bind (fun _ => .bind (fun _ => .bind (fun _ => .bind (fun _ => yields_pure rfl))))

theorem takesBody_ofWlanAssociation : TakesBody ofWlanAssociation := by
  refine ⟨_,consumes_int.bind (fun _ => consumes_mac.bind (fun _ => consumes_mac.bind (fun _ =>
    consumes_short.bind (fun _ => consumes_short.bind (fun _ => consumes_short.bind (fun _ =>
      (consumes_skip 2).bind (fun _ => (consumes_bytes 32).bind (fun _ => consumes_int.bind (fun _ =>
        consumes_byte.bind (fun _ => (consumes_skip 3).bind (fun _ => consumes_pure _))))))))))),?_⟩
  exact .bind (fun _ => .bind (fun _ => .bind (fun _ => .bind (fun _ => .bind (fun _ => .bind (fun _ =>
    .bind (fun _ => .bind (fun _ => .bind (fun _ => .bind (fun _ => .bind (fun _ => yields_pure rfl)))))))))))

theorem takesBody_ofWlanRSSI {make : Mac → Mac → UInt8 → ToController}
    (size : ∀ sta ap rssi, consumed (make sta ap rssi) = 29) : TakesBody (ofWlanRSSI make) := by
  refine ⟨_,consumes_int.bind (fun _ => consumes_mac.bind (fun _ => consumes_mac.bind (fun _ =>
    consumes_byte.bind (fun _ => consumes_pure _)))),?_⟩
  exact .bind (fun _ => .bind (fun sta => .bind (fun ap => .bind (fun rssi => yields_pure (size sta ap rssi)))))

theorem consumes_ofNATMessage : Consumes ofNATMessage 24 :=
  consumes_int.bind (fun _ => consumes_mac.bind (fun _ => (consumes_skip 2).bind (fun _ => consumes_address.bind (fun _ =>
    consumes_address.bind (fun _ => consumes_short.bind (fun _ => consumes_short.bind (fun _ => consumes_pure _)))))))

theorem takesBody_ofNATUpdate : TakesBody ofNATUpdate :=
  ⟨_,consumes_ofNATMessage.bind (fun _ => consumes_pure _),.bind (fun _ => yields_pure rfl)⟩

theorem takesBody_ofPortTranslation : TakesBody ofPortTranslation := by
  refine ⟨_,consumes_ofNATMessage.bind (fun _ => consumes_short.bind (fun _ => (consumes_skip 2).bind (fun _ =>
    consumes_pure _))),?_⟩
  exact .bind (fun _ => .bind (fun _ => .bind (fun _ => yields_pure rfl)))

theorem takesBody_gwConnect : TakesBody gwConnect :=
  ⟨_,consumes_int.bind (fun _ => consumes_pure _),.bind (fun _ => yields_pure rfl)⟩

theorem takesBody_readFrom {subtype : UInt32} {read : Reader (ToController × Option UInt16)}
    (registered : readFrom subtype = some read) : TakesBody read := by
  unfold readFrom at registered
  split at registered <;> cases registered
  · exact takesBody_ofWlanAuthentication
  · exact takesBody_ofWlanData (fun _ _ => rfl)
  · exact takesBody_ofWlanAssociation
  · exact takesBody_ofWlanData (fun _ _ => rfl)
  · exact takesBody_ofWlanData (fun _ _ => rfl)
  · exact takesBody_ofWlanData (fun _ _ => rfl)
  · exact takesBody_ofWlanRSSI (fun _ _ _ => rfl)
  · exact takesBody_ofWlanRSSI (fun _ _ _ => rfl)
  · exact takesBody_ofNATUpdate
  · exact takesBody_ofPortTranslation
  · exact takesBody_gwConnect

/-! ### One message -/

theorem APMessage.size_bounds (m : APMessage) : 8 ≤ m.size ∧ m.size < 65536 := by
  cases m <;> simp [size,body,struct_ofpWlanMsg,struct_ofpWlanAuthMsg,struct_ofpWlanAssocMsg,struct_ofpWlanRssi,
    struct_ofpNatPortEntry]

theorem APMessage.length_bytes (xid : UInt32) (m : APMessage) : (m.bytes xid).length = m.size := by
  simp only [bytes,size,struct_ofpWlanHeader,List.length_append,List.length_singleton,length_wordBytes,length_longBytes]

/-- A class never takes more than was sent, and less of the two only. -/
theorem consumed_decoded (m : APMessage) :
    (m.ReadShort → consumed m.decoded < m.size) ∧ (¬ m.ReadShort → consumed m.decoded = m.size) := by
  cases m <;> simp [APMessage.ReadShort,APMessage.size,APMessage.body,APMessage.decoded,consumed,struct_ofpWlanMsg,
    struct_ofpWlanAuthMsg,struct_ofpWlanAssocMsg,struct_ofpWlanRssi,struct_ofpNatPortEntry]

/-- The first eight bytes of the message. -/
def headerBytes (length : UInt16) (xid : UInt32) : List UInt8 := [1] ++ ([4] ++ (wordBytes length ++ longBytes xid))

theorem reads_header (length : UInt16) (xid : UInt32) : Reads readHeader (headerBytes length xid) ⟨1,4,length,xid⟩ :=
  (reads_byte _).bind ((reads_byte _).bind ((reads_short _).bind ((reads_int _).returns rfl)))

theorem APMessage.bytes_eq (xid : UInt32) (m : APMessage) :
    m.bytes xid = headerBytes (UInt16.ofNat m.size) xid ++ (longBytes 1 ++ (longBytes m.subtype ++ struct m.body)) := by
  rw [bytes,struct_ofpWlanHeader]
  simp only [headerBytes,List.append_assoc]

theorem APMessage.toNat_size (m : APMessage) : (UInt16.ofNat m.size).toNat = m.size :=
  UInt16.toNat_ofNat_of_lt' m.size_bounds.2

theorem reads_ofVendor (others : OtherReaders) (xid : UInt32) {m : APMessage} (whole : ¬ m.ReadShort) :
    Reads (ofVendor others) (m.bytes xid) (.wlan xid m.decoded m.newPort) := by
  obtain ⟨read,registered,reads⟩ := reads_message whole
  rw [m.bytes_eq]
  refine (reads_header _ _).bind ((reads_int 1).bind (fun rest => ?_))
  have subtype := (reads_int m.subtype) (struct m.body ++ rest)
  rw [← List.append_assoc] at subtype
  have long : (4 : Int) ≤ ((UInt16.ofNat m.size).toNat : Int) - 12 := by
    rw [m.toNat_size]
    simp only [APMessage.size]
    omega
  rw [parseVendorData,if_pos rfl,if_pos (Or.inr long),subtype]
  simp only [Option.bind_some,registered,reads rest,Option.map_some]

/-- A message that is there as a whole is parsed, whatever follows it. -/
theorem parseMessageOne_bytes (others : OtherReaders) (xid : UInt32) {m : APMessage} (whole : ¬ m.ReadShort)
    (rest : List UInt8) :
    parseMessageOne others (m.bytes xid ++ rest) = .ok (some (.wlan xid m.decoded m.newPort,rest)) := by
  have size : (m.bytes xid ++ rest).length = m.size + rest.length := by rw [List.length_append,m.length_bytes]
  have bounds := m.size_bounds
  obtain ⟨after,header⟩ : ∃ after, readHeader (m.bytes xid ++ rest) = some (⟨1,4,UInt16.ofNat m.size,xid⟩,after) := by
    rw [m.bytes_eq,List.append_assoc]
    exact ⟨_,reads_header _ _ _⟩
  rw [parseMessageOne,if_neg (by omega),header]
  simp only [m.toNat_size,size]
  rw [if_neg (by decide),if_neg (by omega),if_pos trivial,reads_ofVendor others xid whole rest]

/-- A message that is not is left. -/
theorem parseMessageOne_waits (others : OtherReaders) {xid : UInt32} {m : APMessage} {data more rest : List UInt8}
    (start : data ++ more = m.bytes xid ++ rest) (short : data.length < m.size) :
    parseMessageOne others data = .ok none := by
  by_cases tiny : data.length < 8
  · rw [parseMessageOne,if_pos tiny]
  · rw [m.bytes_eq,List.append_assoc] at start
    have first : headerBytes (UInt16.ofNat m.size) xid <+: data :=
      List.prefix_of_prefix_length_le (List.prefix_append _ _) (start ▸ List.prefix_append data more)
        (by simpa [headerBytes] using tiny)
    obtain ⟨after,rfl⟩ := first
    rw [parseMessageOne,if_neg tiny,reads_header]
    simp only [m.toNat_size]
    rw [if_neg (by decide),if_pos short]

theorem parseVendorData_consumes {others : OtherReaders} {xid xid' vendor : UInt32} {length : Int} {data rest : List UInt8}
    {msg : ToController} {newPort : Option UInt16}
    (parsed : parseVendorData others xid vendor length data = some (.wlan xid' msg newPort,rest)) :
    12 + data.length = consumed msg + rest.length := by
  -- Only the readers of registered classes give such a message.
  have array : ∀ r : Option (Unit × List UInt8), r.map (fun v => (Parsed.other,v.2)) ≠ some (.wlan xid' msg newPort,rest) := by
    intro r
    cases r <;> simp
  unfold parseVendorData at parsed
  split at parsed
  · split at parsed
    · obtain ⟨⟨subtype,after⟩,_,parsed⟩ := Option.bind_eq_some_iff.mp parsed
      dsimp only at parsed
      split at parsed
      · rename_i read registered
        obtain ⟨⟨value,left⟩,isRead,isParsed⟩ := Option.map_eq_some_iff.mp parsed
        cases isParsed
        obtain ⟨n,consumes,yields⟩ := takesBody_readFrom registered
        have taken := consumes data value left isRead
        have size := yields data value left isRead
        dsimp only
        omega
      · exact absurd parsed (array _)
    · exact absurd parsed (array _)
  · split at parsed
    · exact absurd parsed (array _)
    · exact absurd parsed (array _)

theorem consumes_header : Consumes readHeader 8 :=
  consumes_byte.bind (fun _ => consumes_byte.bind (fun _ => consumes_short.bind (fun _ => consumes_int.bind (fun _ =>
    consumes_pure _))))

/-- However it was made of the buffer, a message of a class has taken what the class
    takes. -/
theorem parseMessageOne_consumes {others : OtherReaders} {data rest : List UInt8} {xid : UInt32} {msg : ToController}
    {newPort : Option UInt16} (parsed : parseMessageOne others data = .ok (some (.wlan xid msg newPort,rest))) :
    data.length = consumed msg + rest.length := by
  have vendor : ofVendor others data = some (.wlan xid msg newPort,rest) := by
    unfold parseMessageOne at parsed
    split at parsed
    · cases parsed
    · split at parsed
      · cases parsed
      · rename_i header after isHeader
        split at parsed
        · cases parsed
        · split at parsed
          · cases parsed
          · dsimp only at parsed
            split at parsed
            · cases parsed
            · rename_i isRead
              cases parsed
              split at isRead
              · exact isRead
              · obtain ⟨_,_,isOther⟩ := Option.map_eq_some_iff.mp isRead
                cases isOther
  obtain ⟨⟨header,after⟩,isHeader,vendor⟩ := Option.bind_eq_some_iff.mp (show (readHeader data).bind _ = _ from vendor)
  obtain ⟨⟨id,body⟩,isVendor,isBody⟩ := Option.bind_eq_some_iff.mp (show (readInt after).bind _ = _ from vendor)
  have first := consumes_header data header after isHeader
  have second := consumes_int after id body isVendor
  have third := parseVendorData_consumes isBody
  omega

/-! ### The stream -/

/-- What the controller makes of the message. -/
def parsedAs (sent : UInt32 × APMessage) : Parsed := .wlan sent.1 sent.2.decoded sent.2.newPort

/-- The messages as the access point sends them, one after the other. -/
def stream (sent : List (UInt32 × APMessage)) : List UInt8 := (sent.map (fun m => m.2.bytes m.1)).flatten

theorem stream_cons (m : UInt32 × APMessage) (sent : List (UInt32 × APMessage)) :
    stream (m :: sent) = m.2.bytes m.1 ++ stream sent := rfl

theorem length_stream (sent : List (UInt32 × APMessage)) : (stream sent).length = (sent.map (fun m => m.2.size)).sum := by
  simp [stream,Function.comp_def,APMessage.length_bytes]

/-- However the stream is cut into pieces, the controller recovers exactly the
    messages, and no bytes are left. -/
def Recovered (others : OtherReaders) (sent : List (UInt32 × APMessage)) : Prop :=
  ∀ pieces : List (List UInt8), pieces.flatten = stream sent →
    ∃ fuel, receive others fuel [] pieces = .ok (sent.map parsedAs,[])

/-- The bytes are those of the messages, and not those of the first as a whole. -/
def Waiting (left : List UInt8) : List (UInt32 × APMessage) → Prop
  | [] => left = []
  | m :: _ => left.length < m.2.size

/-- From the start of a stream, the messages that are there as a whole are parsed. -/
theorem parseMessage_start (others : OtherReaders) {sent : List (UInt32 × APMessage)}
    (whole : ∀ m ∈ sent, ¬ m.2.ReadShort) {data more : List UInt8} (start : data ++ more = stream sent) {fuel : Nat}
    (enough : sent.length < fuel) :
    ∃ done todo left, sent = done ++ todo ∧ parseMessage others fuel data = .ok (done.map parsedAs,left) ∧
      left ++ more = stream todo ∧ Waiting left todo := by
  -- On the messages of the stream: the first is there, or nothing is parsed.
  induction sent generalizing data fuel with
  | nil =>
    obtain ⟨rfl,rfl⟩ := List.append_eq_nil_iff.mp start
    obtain ⟨fuel,rfl⟩ := Nat.exists_eq_add_of_lt enough
    exact ⟨[],[],[],rfl,rfl,rfl,rfl⟩
  | cons m sent ih =>
    obtain ⟨fuel,rfl⟩ : ∃ k, fuel = k + 1 := ⟨fuel - 1,by omega⟩
    rw [stream_cons] at start
    by_cases there : m.2.size ≤ data.length
    · obtain ⟨data',rfl⟩ : m.2.bytes m.1 <+: data :=
        List.prefix_of_prefix_length_le (List.prefix_append _ _) (start ▸ List.prefix_append data more)
          (by rwa [m.2.length_bytes])
      rw [List.append_assoc] at start
      obtain ⟨done,todo,left,rfl,parsed,later,waiting⟩ :=
        ih (fun m' member => whole m' (List.mem_cons_of_mem _ member)) (List.append_cancel_left start)
          (Nat.lt_of_succ_lt_succ enough)
      refine ⟨m :: done,todo,left,rfl,?_,later,waiting⟩
      rw [parseMessage,parseMessageOne_bytes others m.1 (whole m List.mem_cons_self)]
      simp only [parsed]
      rfl
    · refine ⟨[],m :: sent,data,rfl,?_,start,Nat.lt_of_not_le there⟩
      rw [parseMessage,parseMessageOne_waits others start (Nat.lt_of_not_le there)]
      rfl

/-- The pieces of a stream of which no message is read short. -/
theorem receive_stream (others : OtherReaders) {pieces : List (List UInt8)} {sent : List (UInt32 × APMessage)}
    (whole : ∀ m ∈ sent, ¬ m.2.ReadShort) {left : List UInt8} (start : left ++ pieces.flatten = stream sent)
    (waiting : Waiting left sent) {fuel : Nat} (enough : sent.length < fuel) :
    receive others fuel left pieces = .ok (sent.map parsedAs,[]) := by
  induction pieces generalizing left sent with
  | nil =>
    cases sent with
    | nil =>
      cases waiting
      rfl
    | cons m sent =>
      -- A message is missing, and nothing is to come.
      have length := congrArg List.length start
      rw [stream_cons] at length
      simp only [List.flatten_nil,List.append_nil,List.length_append,m.2.length_bytes] at length
      exact absurd (show left.length < m.2.size from waiting) (by omega)
  | cons piece pieces ih =>
    rw [List.flatten_cons,← List.append_assoc] at start
    obtain ⟨done,todo,left',rfl,parsed,later,waiting'⟩ := parseMessage_start others whole start enough
    have rest := ih (fun m member => whole m (List.mem_append_right _ member)) later waiting'
      (lt_of_le_of_lt (by simp) enough)
    rw [receive,parsed]
    simp only [rest,List.map_append]

/-- What the messages have taken of the buffer. -/
theorem parseMessage_consumes {others : OtherReaders} {fuel : Nat} {data left : List UInt8} {parsed : List Parsed}
    {sent : List (UInt32 × APMessage)} (ran : parseMessage others fuel data = .ok (parsed,left))
    (same : parsed = sent.map parsedAs) :
    data.length = (sent.map (fun m => consumed m.2.decoded)).sum + left.length := by
  induction fuel generalizing data parsed sent with
  | zero => cases ran
  | succ fuel ih =>
    unfold parseMessage at ran
    split at ran
    · cases ran
    · cases ran
      rw [List.map_eq_nil_iff.mp same.symm]
      simp
    · rename_i first rest isFirst
      split at ran
      · cases ran
      · rename_i more left' isMore
        cases ran
        obtain ⟨m,sent',rfl,rfl,rfl⟩ := List.map_eq_cons_iff.mp same.symm
        have taken := parseMessageOne_consumes isFirst
        have later := ih isMore rfl
        simp only [List.map_cons,List.sum_cons]
        omega

theorem receive_consumes {others : OtherReaders} {fuel : Nat} {pieces : List (List UInt8)} {left left' : List UInt8}
    {parsed : List Parsed} {sent : List (UInt32 × APMessage)} (ran : receive others fuel left pieces = .ok (parsed,left'))
    (same : parsed = sent.map parsedAs) :
    left.length + pieces.flatten.length = (sent.map (fun m => consumed m.2.decoded)).sum + left'.length := by
  induction pieces generalizing left parsed sent with
  | nil =>
    cases ran
    rw [List.map_eq_nil_iff.mp same.symm]
    simp
  | cons piece pieces ih =>
    unfold receive at ran
    split at ran
    · cases ran
    · rename_i first middle isFirst
      split at ran
      · cases ran
      · rename_i more left'' isMore
        cases ran
        obtain ⟨done,todo,rfl,rfl,rfl⟩ := List.map_eq_append_iff.mp same.symm
        have taken := parseMessage_consumes isFirst rfl
        have later := ih isMore rfl
        simp only [List.length_append] at taken
        simp only [List.flatten_cons,List.length_append,List.map_append,List.sum_append]
        omega

/-- A message that is read short leaves bytes over, whatever is made of them. -/
theorem sum_consumed_lt {sent : List (UInt32 × APMessage)} {m : UInt32 × APMessage} (member : m ∈ sent)
    (short : m.2.ReadShort) : (sent.map (fun m => consumed m.2.decoded)).sum < (stream sent).length := by
  rw [length_stream]
  refine List.sum_lt_sum _ _ (fun m' _ => ?_) ⟨m,member,(consumed_decoded m.2).1 short⟩
  by_cases isShort : m'.2.ReadShort
  · exact ((consumed_decoded m'.2).1 isShort).le
  · exact ((consumed_decoded m'.2).2 isShort).le

theorem not_recovered {others : OtherReaders} {sent : List (UInt32 × APMessage)} {m : UInt32 × APMessage} (member : m ∈ sent)
    (short : m.2.ReadShort) : ¬ Recovered others sent := by
  intro recovered
  obtain ⟨fuel,ran⟩ := recovered [stream sent] (by simp)
  have taken := receive_consumes ran rfl
  have fewer := sum_consumed_lt member short
  simp only [List.length_nil,List.flatten_cons,List.flatten_nil,List.append_nil] at taken
  omega

theorem recovered_of_whole (others : OtherReaders) {sent : List (UInt32 × APMessage)} (whole : ∀ m ∈ sent, ¬ m.2.ReadShort) :
    Recovered others sent := by
  intro pieces cut
  refine ⟨sent.length + 1,receive_stream others whole (by rwa [List.nil_append]) ?_ (Nat.lt_succ_self _)⟩
  cases sent with
  | nil => rfl
  | cons m sent =>
    have bounds := m.2.size_bounds
    exact show 0 < m.2.size by omega

/-- The controller recovers what an access point sends, however it is cut, just where
    there is no reassociation request and no NAT update in it. -/
theorem recovered_iff (others : OtherReaders) (sent : List (UInt32 × APMessage)) :
    Recovered others sent ↔ ∀ m ∈ sent, ¬ m.2.ReadShort := by
  constructor
  · intro recovered m member short
    exact not_recovered member short recovered
  · exact recovered_of_whole others

/-- A factory that throws on all other messages. -/
def noOthers : OtherReaders := ⟨fun _ => failure,fun _ => failure⟩

/-- A station reassociates, with a capability field as stations have it, and another
    one probes. -/
def reassociates : List (UInt32 × APMessage) :=
  [(7,.reassocReq ⟨2,0,0,0,0,1⟩ ⟨2,0,0,0,0,9⟩ ⟨1,0x0431,10,Vector.replicate 32 0,8,0⟩),
    (8,.probe ⟨2,0,0,0,0,2⟩ ⟨2,0,0,0,0,9⟩)]

/-- The capability is taken for the length of a next message, for which the parser
    waits; the probe request stays in the buffer. -/
theorem reassociation_stalls_stream :
    (∃ left, receive noOthers 3 [] [stream reassociates] =
      .ok ([.wlan 7 (.reassocReq ⟨2,0,0,0,0,1⟩ ⟨2,0,0,0,0,9⟩) none],left) ∧ left.length = 76) ∧
    ¬ Recovered noOthers reassociates :=
  ⟨⟨(stream reassociates).drop 28,by decide +kernel,by decide +kernel⟩,not_recovered List.mem_cons_self trivial⟩

end Wire
end Handover
