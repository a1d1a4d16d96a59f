import Handover.Messages
import Handover.Tables

/-!
The controller module `OFSwitchAP`: its tables and the handlers of its vendor
messages. A handler returns the controller afterwards and the messages that it
wrote. `failing` holds the positions, among the writes that the handler tries,
of those that throw `IOException`.
-/
namespace Handover

/-- What the controller knows of a station at an access point. -/
structure STAAPInfo where
  staMacAddress : Mac
  apMACAddress : Mac
  status : STAStatus
  isHomeAP : Bool
  sw : IOFSwitch
  authAlg : UInt16
  aid : UInt16
  capability : UInt16
  listenInterval : UInt16
  supportedRates : Option (Vector UInt8 32)
  supportedRatesLen : UInt32
  qosinfo : UInt8
deriving DecidableEq

/-- A new entry; Java's defaults fill the association fields. The source passes
    a null status, which the same synchronized handler overwrites. -/
def STAAPInfo.create (sta ap : Mac) (status : STAStatus) (isHomeAP : Bool) (sw : IOFSwitch) : STAAPInfo :=
  ⟨sta,ap,status,isHomeAP,sw,0,0,0,0,none,0,0⟩

structure STAAPPair where
  staMACAddress : Mac
  apMACAddress : Mac
deriving DecidableEq

/-- The strongest alternative access point that was reported for a station. -/
structure APInfo where
  apMACAddress : Mac
  rssi : Int8
  isSent : Bool
  sw : IOFSwitch
deriving DecidableEq

/-- A message and the switch that it is written to. -/
structure Write where
  sw : IOFSwitch
  msg : FromController
deriving DecidableEq

/-- What was written to a switch. -/
def messagesTo (sw : IOFSwitch) (writes : List Write) : List FromController :=
  (writes.filter (fun w => w.sw = sw)).map (·.msg)

structure Controller where
  staAPList : Map STAAPPair STAAPInfo
  staAPRSSIList : Map Mac APInfo
  natTable : Map Mac (List NATMap)
  gwSwitch : Option IOFSwitch
  portMap : Map PortPair UInt16

namespace Controller

/-- The tables that `init` creates. -/
def init : Controller := ⟨∅,∅,∅,none,∅⟩

/-- What goes through of the writes that are tried, counted from position `i`. -/
def writeAll {Attempt : Type} (failing : List Nat) : Nat → List Attempt → List Attempt
  | _, [] => []
  | i, w :: rest => if i ∈ failing then writeAll failing (i+1) rest else w :: writeAll failing (i+1) rest

/-! ### Searching the tables -/

/-- Some other access point has the station in its `SELECTED` state. -/
def findSTAAPPair (c : Controller) (sta ap : Mac) : Bool :=
  c.staAPList.entries.any (fun entry =>
    entry.1.staMACAddress = sta ∧ entry.1.apMACAddress ≠ ap ∧ entry.2.status = .selected)

def lookupSenderSTAAP (c : Controller) (sta ap : Mac) : Option STAAPInfo :=
  c.staAPList.lookup ⟨sta,ap⟩

/-- The first entry of the station, in iteration order, that is associated. -/
def findSTAAPInfo (c : Controller) (sta : Mac) : Option STAAPInfo :=
  (c.staAPList.entries.find? (fun entry => entry.1.staMACAddress = sta ∧ entry.2.status = .associated)).map (·.2)

/-! ### Admission -/

/-- Assigning the fields of an entry that the table already holds. -/
def putEntry (c : Controller) (sta ap : Mac) (entry : STAAPInfo) : Controller :=
  { c with staAPList := c.staAPList.insert ⟨sta,ap⟩ entry }

/-- The end of `handleProbeReq`: the station is offered to the access point. -/
def select (c : Controller) (sw : IOFSwitch) (sta ap : Mac) (staAP : STAAPInfo) (failing : List Nat) :
    Controller × List Write :=
  (c.putEntry sta ap { staAP with status := .selected, isHomeAP := true },
    writeAll failing 0 [⟨sw,.addSTA sta⟩])

def handleProbeReq (c : Controller) (sw : IOFSwitch) (sta ap : Mac) (failing : List Nat) :
    Controller × List Write :=
  if c.findSTAAPPair sta ap then (c,[])
  else if (c.findSTAAPInfo sta).isSome then (c,[])
  else match c.lookupSenderSTAAP sta ap with
    | none => c.select sw sta ap (.create sta ap .selected false sw) failing
    | some staAP => if staAP.status = .notAuthenticated then c.select sw sta ap staAP failing else (c,[])

/-- The handlers that only change the entry of the pair, if there is one. -/
def changeEntry (c : Controller) (sta ap : Mac) (change : STAAPInfo → STAAPInfo) : Controller :=
  match c.lookupSenderSTAAP sta ap with
  | none => c
  | some staAP => c.putEntry sta ap (change staAP)

def handleAuthReq (c : Controller) (sta ap : Mac) (authAlg : UInt16) : Controller :=
  c.changeEntry sta ap (fun staAP => { staAP with status := .authenticated, authAlg := authAlg })

/-- The source copies every reported field but `qosinfo`. -/
def handleAssocReq (c : Controller) (sta ap : Mac) (association : Association) : Controller :=
  c.changeEntry sta ap (fun staAP =>
    { staAP with
      status := .associated
      aid := association.aid
      capability := association.capability
      listenInterval := association.listenInterval
      supportedRatesLen := association.supportedRatesLen
      supportedRates := some association.supportedRates })

def handleReassocReq (c : Controller) (sta ap : Mac) : Controller :=
  c.changeEntry sta ap (fun staAP => { staAP with status := .associated })

/-- Unlike the other handlers this one also forgets the alternative access
    point, but only when the pair has an entry. -/
def handleDisassocReq (c : Controller) (sta ap : Mac) : Controller :=
  match c.lookupSenderSTAAP sta ap with
  | none => c
  | some staAP =>
    { c.putEntry sta ap { staAP with status := .authenticated } with
      staAPRSSIList := c.staAPRSSIList.erase sta }

def handleDeauthReq (c : Controller) (sta ap : Mac) : Controller :=
  c.changeEntry sta ap (fun staAP => { staAP with status := .notAuthenticated })

/-! ### Signal strength and handover -/

def putBest (c : Controller) (sta : Mac) (best : APInfo) : Controller :=
  { c with staAPRSSIList := c.staAPRSSIList.insert sta best }

/-- The alternative access point after a report; Java compares signed bytes. -/
def strongest (previous : Option APInfo) (sw : IOFSwitch) (ap : Mac) (rssi : Int8) : APInfo :=
  match previous with
  | none => ⟨ap,rssi,false,sw⟩
  | some best => if best.rssi < rssi then { best with apMACAddress := ap, rssi := rssi, sw := sw } else best

def handleLastRSSI (c : Controller) (sw : IOFSwitch) (sta ap : Mac) (rssi : UInt8) (failing : List Nat) :
    Controller × List Write :=
  let best := strongest (c.staAPRSSIList.lookup sta) sw ap rssi.toInt8
  if best.isSent then (c.putBest sta best,[])
  else match c.findSTAAPInfo sta with
    | none => (c.putBest sta best,[])
    | some staAP =>
      (c.putBest sta { best with isSent := decide (0 ∉ failing) },
        writeAll failing 0 [⟨staAP.sw,.lastRecPow sta⟩])

/-- The entry at the new access point, with what a handover copies into it. -/
def handoverEntry (c : Controller) (sta : Mac) (staAP : STAAPInfo) (best : APInfo) : STAAPInfo :=
  let staAPNew := (c.lookupSenderSTAAP sta best.apMACAddress).getD
    (.create sta best.apMACAddress .associated false best.sw)
  { staAPNew with
    status := .associated
    authAlg := staAP.authAlg
    aid := staAP.aid
    capability := staAP.capability
    listenInterval := staAP.listenInterval
    supportedRatesLen := staAP.supportedRatesLen
    supportedRates := staAP.supportedRates }

/-- The tables after a handover. Where the new access point is the reporting one
    both entries are one object, and the later assignment of its status stays. -/
def handoverTables (c : Controller) (sw : IOFSwitch) (sta ap : Mac) (staAP : STAAPInfo) (best : APInfo) : Controller :=
  { c with
    staAPRSSIList := c.staAPRSSIList.insert sta ⟨ap,-128,false,sw⟩
    staAPList := (c.staAPList.insert ⟨sta,ap⟩ { staAP with status := .notAuthenticated }).insert
      ⟨sta,best.apMACAddress⟩ (c.handoverEntry sta staAP best) }

/-- The messages that a handover tries to write, in order: the flows to the new
    access point, the removal at the old one and, unless that write fails, the
    station to the new one and the flows to the gateway. -/
def handoverWrites (c : Controller) (sw : IOFSwitch) (sta : Mac) (staAP : STAAPInfo) (best : APInfo)
    (failing : List Nat) : List Write :=
  let newSw := (c.handoverEntry sta staAP best).sw
  let entries := c.natTable.lookup sta
  let flows := (entries.getD []).map (fun entry => (⟨newSw,.natAdd sta entry.toFourTuple entry.newPort⟩ : Write))
  let removal : Write := ⟨sw,.removeSTA sta⟩
  let update : Write := ⟨newSw,.updateSTAAdd sta ⟨staAP.authAlg,staAP.aid,staAP.capability,staAP.listenInterval,
    staAP.supportedRates,staAP.supportedRatesLen,staAP.qosinfo⟩⟩
  let gateway := match c.gwSwitch with
    | none => []
    | some gw => (entries.getD []).map (fun entry =>
        (⟨gw,.natAdd sta { entry.toFourTuple with sourceIP := newSw.remoteAddress } entry.newPort⟩ : Write))
  if flows.length ∈ failing then flows ++ [removal] else flows ++ removal :: update :: gateway

def handleAPRSSI (c : Controller) (sw : IOFSwitch) (sta ap : Mac) (rssi : UInt8) (failing : List Nat) :
    Controller × List Write :=
  match c.staAPRSSIList.lookup sta with
  | none => (c,[])
  | some best =>
    match c.lookupSenderSTAAP sta ap with
    | none => (c.putBest sta { best with isSent := false },[])
    | some staAP =>
      if rssi.toInt8 < best.rssi then
        (c.handoverTables sw sta ap staAP best,writeAll failing 0 (c.handoverWrites sw sta staAP best failing))
      else (c.putBest sta { best with isSent := false },[])

/-! ### Flows -/

def handleNATUpdate (c : Controller) (sta : Mac) (tuple : FourTuple) : Controller :=
  { c with natTable := c.natTable.insert sta ((c.natTable.lookup sta).getD [] ++ [⟨tuple,tuple.sourcePort⟩]) }

/-- The port that a new flow to the destination gets: a Java `short`, counted up
    from 49151 and wrapping around. -/
def nextPort (c : Controller) (destination : PortPair) : UInt16 :=
  (c.portMap.lookup destination).getD 49151 + 1

def handlePortTranslation (c : Controller) (sw : IOFSwitch) (sta : Mac) (tuple : FourTuple) (failing : List Nat) :
    Controller × List Write :=
  let entries := (c.natTable.lookup sta).getD []
  match entries.find? (fun entry => entry.toFourTuple = tuple) with
  | some entry => (c,writeAll failing 0 [⟨sw,.natAdd sta entry.toFourTuple entry.newPort⟩])
  | none =>
    let newPort := c.nextPort tuple.destination
    ({ c with
        portMap := c.portMap.insert tuple.destination newPort
        natTable := c.natTable.insert sta (entries ++ [⟨tuple,newPort⟩]) },
      writeAll failing 0 [⟨sw,.natAdd sta tuple newPort⟩])

/-! ### Messages and switches -/

/-- The dispatch of a vendor message. -/
def receive (c : Controller) (sw : IOFSwitch) (failing : List Nat) : ToController → Controller × List Write
  | .probe sta ap => c.handleProbeReq sw sta ap failing
  | .authReq sta ap authAlg => (c.handleAuthReq sta ap authAlg,[])
  | .assocReq sta ap association => (c.handleAssocReq sta ap association,[])
  | .reassocReq sta ap => (c.handleReassocReq sta ap,[])
  | .disassocReq sta ap => (c.handleDisassocReq sta ap,[])
  | .deauthReq sta ap => (c.handleDeauthReq sta ap,[])
  | .recPow sta ap rssi => c.handleLastRSSI sw sta ap rssi failing
  | .apRecPow sta ap rssi => c.handleAPRSSI sw sta ap rssi failing
  | .natUpdate sta tuple => (c.handleNATUpdate sta tuple,[])
  | .portTranslation sta tuple => c.handlePortTranslation sw sta tuple failing
  | .gwConnect => ({ c with gwSwitch := some sw },[])

/-- The gateway is only forgotten; an access point loses all its entries. -/
def removedSwitch (c : Controller) (sw : IOFSwitch) : Controller :=
  if c.gwSwitch = some sw then { c with gwSwitch := none }
  else
    { c with
      staAPList := c.staAPList.keep (fun staAP => staAP.sw ≠ sw)
      staAPRSSIList := c.staAPRSSIList.keep (fun best => best.sw ≠ sw) }

/-- `ConcurrentHashMap` promises no iteration order, so the entries may be met
    in any order. -/
def rehash (c : Controller) (order : Map STAAPPair STAAPInfo) : Controller :=
  if order.entries.Perm c.staAPList.entries then { c with staAPList := order } else c

inductive Event where
  | receive (sw : IOFSwitch) (msg : ToController) (failing : List Nat)
  | removedSwitch (sw : IOFSwitch)
  | rehash (order : Map STAAPPair STAAPInfo)
deriving DecidableEq

def step (c : Controller) : Event → Controller × List Write
  | .receive sw msg failing => c.receive sw failing msg
  | .removedSwitch sw => (c.removedSwitch sw,[])
  | .rehash order => (c.rehash order,[])

end Controller
end Handover
