import Mathlib.Tactic

/-!
The addresses, flows and vendor messages that the controller, the access points
and the gateway exchange. Java's `int`, `short` and `byte` and C's network-order
fields hold the same bits, so one unsigned type stands for both; where Java
compares a byte as a signed number the controller converts it.
-/
namespace Handover

/-- A MAC address, octet by octet. -/
structure Mac where
  o0 : UInt8
  o1 : UInt8
  o2 : UInt8
  o3 : UInt8
  o4 : UInt8
  o5 : UInt8
deriving DecidableEq

/-- An IPv4 address, octet by octet. -/
structure IPv4 where
  o0 : UInt8
  o1 : UInt8
  o2 : UInt8
  o3 : UInt8
deriving DecidableEq

/-- A destination of flows: the key of the controller's `portMap`. -/
structure PortPair where
  destinationIP : IPv4
  destinationPort : UInt16
deriving DecidableEq

/-- The 4-tuple that identifies a flow of one station. -/
structure FourTuple where
  sourceIP : IPv4
  destinationIP : IPv4
  sourcePort : UInt16
  destinationPort : UInt16
deriving DecidableEq

/-- Where the flow goes to. -/
def FourTuple.destination (t : FourTuple) : PortPair := ⟨t.destinationIP,t.destinationPort⟩

/-- The 4-tuple of an answer. -/
def FourTuple.reversed (t : FourTuple) : FourTuple := ⟨t.destinationIP,t.sourceIP,t.destinationPort,t.sourcePort⟩

/-- A flow with its translated source port: the class `NATMap` of the controller
    and `struct natMap` of the access point. -/
structure NATMap extends FourTuple where
  newPort : UInt16
deriving DecidableEq

/-- The admission states of a station at an access point, on both sides. -/
inductive STAStatus where
  | selected
  | notAuthenticated
  | authenticated
  | associated
deriving DecidableEq

/-- A connection as the controller sees it; `id` is the identity of the switch
    object, `remoteAddress` the peer address of its channel. -/
structure IOFSwitch where
  id : Nat
  remoteAddress : IPv4
deriving DecidableEq

/-- What an association request reports of the station. -/
structure Association where
  aid : UInt16
  capability : UInt16
  listenInterval : UInt16
  supportedRates : Vector UInt8 32
  supportedRatesLen : UInt32
  qosinfo : UInt8
deriving DecidableEq

/-- What a handover tells the new access point; `supportedRates` may still be
    Java's `null`. -/
structure UpdateSTA where
  authAlg : UInt16
  aid : UInt16
  capability : UInt16
  listenInterval : UInt16
  supportedRates : Option (Vector UInt8 32)
  supportedRatesLen : UInt32
  qosinfo : UInt8
deriving DecidableEq

/-- The vendor messages that the controller receives. -/
inductive ToController where
  | probe (sta ap : Mac)
  | authReq (sta ap : Mac) (authAlg : UInt16)
  | assocReq (sta ap : Mac) (association : Association)
  | reassocReq (sta ap : Mac)
  | disassocReq (sta ap : Mac)
  | deauthReq (sta ap : Mac)
  | recPow (sta ap : Mac) (rssi : UInt8)
  | apRecPow (sta ap : Mac) (rssi : UInt8)
  | natUpdate (sta : Mac) (tuple : FourTuple)
  | portTranslation (sta : Mac) (tuple : FourTuple)
  | gwConnect
deriving DecidableEq

/-- The vendor messages that the controller sends. -/
inductive FromController where
  | addSTA (sta : Mac)
  | lastRecPow (sta : Mac)
  | removeSTA (sta : Mac)
  | updateSTAAdd (sta : Mac) (update : UpdateSTA)
  | natAdd (sta : Mac) (tuple : FourTuple) (newPort : UInt16)
deriving DecidableEq

/-! ### What messages say -/

/-- The station, the access point and the status that a message reports. -/
def ToController.report : ToController → Option (Mac × Mac × STAStatus)
  | .authReq sta ap _ => some (sta,ap,.authenticated)
  | .assocReq sta ap _ => some (sta,ap,.associated)
  | .reassocReq sta ap => some (sta,ap,.associated)
  | .disassocReq sta ap => some (sta,ap,.authenticated)
  | .deauthReq sta ap => some (sta,ap,.notAuthenticated)
  | _ => none

/-- The station whose status a message of the controller sets. -/
def FromController.station : FromController → Option Mac
  | .addSTA sta => some sta
  | .updateSTAAdd sta _ => some sta
  | .removeSTA sta => some sta
  | _ => none

/-- The status that the message makes of the station's; only `WLAN_ADD_STA` lists
    a station that is not. -/
def FromController.apply : FromController → Option STAStatus → Option STAStatus
  | .addSTA _, _ => some .selected
  | .updateSTAAdd _ _, s => s.map (fun _ => .associated)
  | .removeSTA _, s => s.map (fun _ => .notAuthenticated)
  | _, s => s

/-- The access point that a message names. -/
def ToController.sender : ToController → Option Mac
  | .probe _ ap => some ap
  | .authReq _ ap _ => some ap
  | .assocReq _ ap _ => some ap
  | .reassocReq _ ap => some ap
  | .disassocReq _ ap => some ap
  | .deauthReq _ ap => some ap
  | .recPow _ ap _ => some ap
  | .apRecPow _ ap _ => some ap
  | _ => none

/-- Access points send all but signal strengths from detached threads. -/
def ToController.threaded : ToController → Bool
  | .recPow _ _ _ => false
  | .apRecPow _ _ _ => false
  | _ => true

/-- The class of the message reads as much as is sent. A reassociation request and a NAT
    update are sent in longer structs than they are read by. -/
def ToController.readWhole : ToController → Bool
  | .reassocReq _ _ => false
  | .natUpdate _ _ => false
  | _ => true

theorem ToController.threaded_of_report {msg : ToController} {report : Mac × Mac × STAStatus}
    (reports : msg.report = some report) : msg.threaded = true := by
  cases msg <;> simp_all [ToController.report,threaded]

theorem ToController.sender_of_report {msg : ToController} {sta ap : Mac} {s : STAStatus}
    (reports : msg.report = some (sta,ap,s)) : msg.sender = some ap := by
  cases msg <;> simp_all [report,sender]

end Handover
