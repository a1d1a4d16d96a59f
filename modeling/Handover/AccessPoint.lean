import Handover.Packets
import Handover.Tables

/-!
An access point: the controller interface of `hostapd`, with the status guards
of its frame handlers and the NAT data path. Every handler is one atomic step,
and `none` is a fault: a bucket outside its table, a null pointer read, a buffer
overrun. Detached threads wait in lists until they run. An intercepted packet is
its own bytes, as if zeros followed it, which is so of the copy of a packet that
waits; `handleUplinkIn` and `handleDownlinkIn` have whatever follows it in the
buffer.
-/
namespace Handover

/-- `struct infoSTA`, without what only tunnels use. -/
structure InfoSTA where
  address : Mac
  status : STAStatus
  lastReceivedSignalStrength : UInt8
  authAlg : UInt16
  aid : UInt16
  capability : UInt16
  listenInterval : UInt16
  supportedRates : Vector UInt8 32
  supportedRatesLen : UInt32
  qosinfo : UInt8
deriving DecidableEq

/-- A record from `calloc`; the status that reads zero is `SELECTED`. -/
def InfoSTA.create (address : Mac) : InfoSTA := ⟨address,.selected,0,0,0,0,0,Vector.replicate 32 0,0,0⟩

/-- A packet that waits for the port of its flow. -/
structure PortData where
  packetId : Nat
  packet : Packet
deriving DecidableEq

/-- The packet that leaves a queue under its id. -/
structure Verdict where
  packetId : Nat
  payload : Packet
deriving DecidableEq

/-- A detached thread that reports to the controller. A reassociation also holds
    what it copies into the station's record, which its message does not carry. -/
inductive Sender where
  | message (msg : ToController)
  | reassoc (sta : Mac) (association : Association)
deriving DecidableEq

/-- What an access point is configured with. -/
structure APConfig where
  mac : Mac
  ifIP : IPv4
  subnet : IPv4
  maxNumSta : Nat

structure AccessPoint where
  numSta : Nat
  staList : Buckets InfoSTA
  entryList : Buckets NATMap
  portQueue : Buckets PortData
  sending : List Sender
  reinjecting : List FourTuple
  timers : List Mac
deriving DecidableEq

/-! ### The NAT table -/

def lookupPortMapQ0 (table : Buckets NATMap) (tuple : FourTuple) : Option (Option NATMap) :=
  table.find tuple.destinationIP.o3.toNat (fun nMap => nMap.toFourTuple = tuple)

def lookupPortMapQ1 (table : Buckets NATMap) (newPort : UInt16) (dstAddr : IPv4) (dstPort : UInt16) :
    Option (Option NATMap) :=
  table.find dstAddr.o3.toNat
    (fun nMap => nMap.destinationIP = dstAddr ∧ nMap.newPort = newPort ∧ nMap.destinationPort = dstPort)

/-- The port of a new entry is zero until it is assigned. -/
def addEntry (table : Buckets NATMap) (tuple : FourTuple) : Option (Buckets NATMap) :=
  (lookupPortMapQ0 table tuple).bind (fun nMap =>
    if nMap.isSome then some table else table.push tuple.destinationIP.o3.toNat ⟨tuple,0⟩)

/-- The `WLAN_NAT_ADD` case of `handle_vendor`: the entry of the 4-tuple, added
    if need be, gets the new port. -/
def natAdd (table : Buckets NATMap) (tuple : FourTuple) (newPort : UInt16) : Option (Buckets NATMap) :=
  (lookupPortMapQ0 table tuple).bind (fun nMap =>
    (if nMap.isSome then some table else addEntry table tuple).bind (fun table =>
      table.update tuple.destinationIP.o3.toNat (fun nMap => nMap.toFourTuple = tuple)
        (fun nMap => { nMap with newPort := newPort })))

namespace AccessPoint

/-- The tables that `controller_conn_init` allocates. -/
def init (cfg : APConfig) : AccessPoint := ⟨0,.empty cfg.maxNumSta,.empty 255,.empty 255,[],[],[]⟩

/-! ### The station list -/

def lookupSenderSTA (ap : AccessPoint) (address : Mac) : Option (Option InfoSTA) :=
  ap.staList.find address.o3.toNat (fun sta => sta.address = address)

/-- The access point and whether the station is now listed. -/
def addSTA (cfg : APConfig) (ap : AccessPoint) (address : Mac) : Option (AccessPoint × Bool) :=
  (ap.lookupSenderSTA address).bind (fun sta =>
    if sta.isSome then some (ap,true)
    else if cfg.maxNumSta ≤ ap.numSta then some (ap,false)
    else (ap.staList.push address.o3.toNat (.create address)).map (fun staList =>
      ({ ap with numSta := ap.numSta + 1, staList := staList },true)))

/-- Assigning fields of a station's record; its pointer must not be null. -/
def changeSTA (ap : AccessPoint) (address : Mac) (change : InfoSTA → InfoSTA) : Option AccessPoint :=
  (ap.lookupSenderSTA address).join.bind (fun _ =>
    (ap.staList.update address.o3.toNat (fun sta => sta.address = address) change).map (fun staList =>
      { ap with staList := staList }))

def changeStatus (ap : AccessPoint) (address : Mac) (status : STAStatus) : Option AccessPoint :=
  ap.changeSTA address (fun sta =>
    { sta with
      status := status
      lastReceivedSignalStrength := if status = .notAuthenticated then 0 else sta.lastReceivedSignalStrength })

def changeRSSI (ap : AccessPoint) (address : Mac) (rssi : UInt8) : Option AccessPoint :=
  ap.changeSTA address (fun sta => { sta with lastReceivedSignalStrength := rssi })

/-- `memcpy` of the first `len` rates over a record's 32. -/
def copyRates (old new : Vector UInt8 32) (len : UInt32) : Vector UInt8 32 :=
  Vector.ofFn (fun i => if i.val < len.toNat then new[i] else old[i])

/-! ### Frames and timers -/

/-- What the radio and the timers bring; a frame that fails a check of `hostapd`
    itself changes nothing here. `timer` says whether the station's inactivity
    timer is in a phase in which disassociation starts another timer. -/
inductive Radio where
  | probe (sta : Mac)
  | auth (sta : Mac) (authAlg : UInt16)
  | assoc (sta : Mac) (association : Association)
  | reassoc (sta : Mac) (association : Association)
  | disassoc (sta : Mac) (timer : Bool)
  | deauth (sta : Mac)
  | timeout (i : Nat)
  | data (sta : Mac) (rssi : UInt8)

def spawn (ap : AccessPoint) (thread : Sender) : AccessPoint := { ap with sending := ap.sending ++ [thread] }

/-- The frame handlers: from one status to another, with a thread that reports
    it; in any other status the frame is ignored. -/
def transition (ap : AccessPoint) (sta : Mac) (guard target : STAStatus) (thread : Sender) : Option AccessPoint :=
  (ap.lookupSenderSTA sta).bind (fun info =>
    if info.any (fun info => info.status = guard) then (ap.changeStatus sta target).map (·.spawn thread) else some ap)

def handleAuth (cfg : APConfig) (ap : AccessPoint) (sta : Mac) (authAlg : UInt16) : Option AccessPoint :=
  ap.transition sta .selected .authenticated (.message (.authReq sta cfg.mac authAlg))

/-- The report has the association as it was when the frame was handled; the source
    reads it through the pointer to `sta_info` when the thread runs. -/
def handleAssoc (cfg : APConfig) (ap : AccessPoint) (sta : Mac) (association : Association) : Option AccessPoint :=
  ap.transition sta .authenticated .associated (.message (.assocReq sta cfg.mac association))

def handleReassoc (ap : AccessPoint) (sta : Mac) (association : Association) : Option AccessPoint :=
  ap.transition sta .authenticated .associated (.reassoc sta association)

def handleDeauth (cfg : APConfig) (ap : AccessPoint) (sta : Mac) : Option AccessPoint :=
  ap.transition sta .associated .notAuthenticated (.message (.deauthReq sta cfg.mac))

def handleDisassoc (cfg : APConfig) (ap : AccessPoint) (sta : Mac) (timer : Bool) : Option AccessPoint :=
  (ap.lookupSenderSTA sta).bind (fun info =>
    if info.any (fun info => info.status = .associated) then
      (ap.changeStatus sta .authenticated).map (fun ap =>
        { ap.spawn (.message (.disassocReq sta cfg.mac)) with timers := if timer then ap.timers ++ [sta] else ap.timers })
    else some ap)

def notifyControllerDisassoc (cfg : APConfig) (ap : AccessPoint) (sta : Mac) : Option AccessPoint :=
  ap.transition sta .authenticated .notAuthenticated (.message (.deauthReq sta cfg.mac))

/-- The access point and what it sends, after a data frame was heard. -/
def processStaData (cfg : APConfig) (ap : AccessPoint) (sta : Mac) (rssi : UInt8) :
    Option (AccessPoint × List ToController) :=
  (ap.lookupSenderSTA sta).bind (fun info =>
    if info.any (fun info => info.status = .associated) then (ap.changeRSSI sta rssi).map (·,[])
    else
      (if info.isSome then some (ap,true)
        else (ap.addSTA cfg sta).bind (fun (ap,added) =>
          if added then (ap.changeStatus sta .notAuthenticated).map (·,true) else some (ap,false))).bind
      (fun (ap,listed) =>
        if listed then
          (ap.lookupSenderSTA sta).join.bind (fun info =>
            if info.lastReceivedSignalStrength < rssi then
              (ap.changeRSSI sta rssi).map (·,[.recPow sta cfg.mac rssi])
            else some (ap,[]))
        else some (ap,[])))

def react (cfg : APConfig) (ap : AccessPoint) : Radio → Option (AccessPoint × List ToController)
  | .probe sta => some (ap.spawn (.message (.probe sta cfg.mac)),[])
  | .auth sta authAlg => (ap.handleAuth cfg sta authAlg).map (·,[])
  | .assoc sta association => (ap.handleAssoc cfg sta association).map (·,[])
  | .reassoc sta association => (ap.handleReassoc sta association).map (·,[])
  | .disassoc sta timer => (ap.handleDisassoc cfg sta timer).map (·,[])
  | .deauth sta => (ap.handleDeauth cfg sta).map (·,[])
  | .timeout i => ap.timers[i]?.bind (fun sta =>
      ({ ap with timers := ap.timers.eraseIdx i }.notifyControllerDisassoc cfg sta).map (·,[]))
  | .data sta rssi => ap.processStaData cfg sta rssi

/-! ### Threads that report -/

/-- `htons` on a little-endian access point. -/
def htons (w : UInt16) : UInt16 := UInt16.ofNat (w.toNat % 256 * 256 + w.toNat / 256)

/-- `handle_assoc_req` copies what it reports into the station's record. -/
def fillAssociation (ap : AccessPoint) (sta : Mac) (association : Association) : Option AccessPoint :=
  if association.supportedRatesLen.toNat ≤ 32 then
    ap.changeSTA sta (fun info =>
      { info with
        aid := association.aid
        capability := association.capability
        listenInterval := association.listenInterval
        qosinfo := association.qosinfo
        supportedRates := copyRates info.supportedRates association.supportedRates association.supportedRatesLen
        supportedRatesLen := association.supportedRatesLen })
  else none

/-- The run of a thread, up to the message that it sends. -/
def process (cfg : APConfig) (ap : AccessPoint) : Sender → Option (AccessPoint × ToController)
  | .message (.authReq sta mac authAlg) =>
    (ap.changeSTA sta (fun info => { info with authAlg := htons authAlg })).map (·,.authReq sta mac authAlg)
  | .message (.assocReq sta mac association) =>
    (ap.fillAssociation sta association).map (·,.assocReq sta mac association)
  | .reassoc sta association => (ap.fillAssociation sta association).map (·,.reassocReq sta cfg.mac)
  | .message msg => some (ap,msg)

/-- The `i`-th thread runs. -/
def sendThread (cfg : APConfig) (ap : AccessPoint) (i : Nat) : Option (AccessPoint × ToController) :=
  ap.sending[i]?.bind (fun thread => { ap with sending := ap.sending.eraseIdx i }.process cfg thread)

/-! ### Messages of the controller -/

/-- `WLAN_UPDATE_STA_ADD` for a listed station; only rates that are there can be
    on the wire. -/
def updateSTA (ap : AccessPoint) (sta : Mac) (update : UpdateSTA) : Option AccessPoint :=
  update.supportedRates.bind (fun rates =>
    if update.supportedRatesLen.toNat ≤ 32 then
      (ap.changeStatus sta .associated).bind (fun ap => ap.changeSTA sta (fun info =>
        { info with
          authAlg := update.authAlg
          aid := update.aid
          capability := update.capability
          listenInterval := update.listenInterval
          qosinfo := update.qosinfo
          supportedRatesLen := update.supportedRatesLen
          supportedRates := copyRates info.supportedRates rates update.supportedRatesLen }))
    else none)

/-- The access point and what it sends, after a message of the controller. -/
def handleVendor (cfg : APConfig) (ap : AccessPoint) : FromController → Option (AccessPoint × List ToController)
  | .addSTA sta => (ap.addSTA cfg sta).bind (fun (ap,listed) =>
      if listed then (ap.changeStatus sta .selected).map (·,[]) else some (ap,[]))
  | .lastRecPow sta => (ap.lookupSenderSTA sta).join.map (fun info =>
      (ap,[.apRecPow info.address cfg.mac info.lastReceivedSignalStrength]))
  | .updateSTAAdd sta update => (ap.lookupSenderSTA sta).bind (fun info =>
      if info.isSome then (ap.updateSTA sta update).map (·,[]) else some (ap,[]))
  | .removeSTA sta => (ap.lookupSenderSTA sta).bind (fun info =>
      if info.isSome then (ap.changeStatus sta .notAuthenticated).map (·,[]) else some (ap,[]))
  | .natAdd _ tuple newPort => (natAdd ap.entryList tuple newPort).map (fun entryList =>
      ({ ap with entryList := entryList, reinjecting := ap.reinjecting ++ [tuple] },[]))

/-! ### Packets -/

/-- An uplink packet rewritten for its NAT entry. -/
def outbound (cfg : APConfig) (nMap : NATMap) (data : Packet) : Packet :=
  ((data.setSourcePort nMap.newPort).setSourceAddress cfg.ifIP).refresh

/-- Queue 0 of `handle_pkt`: a packet of the subnet leaves rewritten, or waits
    while a thread asks for its port. -/
def handleUplink (cfg : APConfig) (ap : AccessPoint) (packetId : Nat) (hwAddr : Mac) (data : Packet) :
    Option (AccessPoint × Option Verdict) :=
  if Packet.inSubnet cfg.subnet data.tuple.sourceIP then
    (lookupPortMapQ0 ap.entryList data.tuple).bind (fun nMap =>
      match nMap with
      | some nMap => some (ap,some ⟨packetId,outbound cfg nMap data⟩)
      | none => (ap.portQueue.push data.tuple.destinationIP.o3.toNat ⟨packetId,data⟩).map (fun portQueue =>
          ({ ap with portQueue := portQueue }.spawn (.message (.portTranslation hwAddr data.tuple)),none)))
  else some (ap,some ⟨packetId,data⟩)

/-- Queue 1 of `handle_pkt`: the packet that leaves it. -/
def handleDownlink (cfg : APConfig) (ap : AccessPoint) (data : Packet) : Option Packet :=
  if data.tuple.destinationIP = cfg.ifIP then
    (lookupPortMapQ1 ap.entryList data.tuple.destinationPort data.tuple.sourceIP data.tuple.sourcePort).map (fun nMap =>
      match nMap with
      | some nMap => ((data.setDestinationPort nMap.sourcePort).setDestinationAddress nMap.sourceIP).refresh
      | none => data)
  else some data

/-- Queue 0 of `handle_pkt` with what follows the packet in the buffer: there the
    ports are read, and of what is written as many bytes leave as came in. -/
def handleUplinkIn (cfg : APConfig) (ap : AccessPoint) (packetId : Nat) (hwAddr : Mac) (data behind : Packet) :
    Option (AccessPoint × Option Verdict) :=
  let buffer : Packet := data ++ behind
  if Packet.inSubnet cfg.subnet buffer.tuple.sourceIP then
    (lookupPortMapQ0 ap.entryList buffer.tuple).bind (fun nMap =>
      match nMap with
      | some nMap => some (ap,some ⟨packetId,(outbound cfg nMap buffer).take data.length⟩)
      | none => (ap.portQueue.push buffer.tuple.destinationIP.o3.toNat ⟨packetId,data⟩).map (fun portQueue =>
          ({ ap with portQueue := portQueue }.spawn (.message (.portTranslation hwAddr buffer.tuple)),none)))
  else some (ap,some ⟨packetId,data⟩)

/-- So in queue 1. -/
def handleDownlinkIn (cfg : APConfig) (ap : AccessPoint) (data behind : Packet) : Option Packet :=
  let buffer : Packet := data ++ behind
  if buffer.tuple.destinationIP = cfg.ifIP then
    (lookupPortMapQ1 ap.entryList buffer.tuple.destinationPort buffer.tuple.sourceIP buffer.tuple.sourcePort).map
      (fun nMap => match nMap with
        | some nMap =>
          (((buffer.setDestinationPort nMap.sourcePort).setDestinationAddress nMap.sourceIP).refresh).take data.length
        | none => data)
  else some data

/-- The loop of `reinject_pkt` over a bucket: the packets that leave and those
    that stay. -/
def reinjectChain (cfg : APConfig) (nMap : NATMap) : List PortData → List Verdict × List PortData
  | [] => ([],[])
  | temp :: rest =>
    let (verdicts,kept) := reinjectChain cfg nMap rest
    if temp.packet.tuple = nMap.toFourTuple then (⟨temp.packetId,outbound cfg nMap temp.packet⟩ :: verdicts,kept)
    else (verdicts,temp :: kept)

/-- The `i`-th `reinject_pkt` thread runs. -/
def reinjectPkt (cfg : APConfig) (ap : AccessPoint) (i : Nat) : Option (AccessPoint × List Verdict) :=
  ap.reinjecting[i]?.bind (fun tuple =>
    (lookupPortMapQ0 ap.entryList tuple).join.bind (fun nMap =>
      (ap.portQueue.bucket tuple.destinationIP.o3.toNat).map (fun chain =>
        let (verdicts,kept) := reinjectChain cfg nMap chain
        ({ ap with
            portQueue := ap.portQueue.set tuple.destinationIP.o3.toNat kept
            reinjecting := ap.reinjecting.eraseIdx i },verdicts))))

end AccessPoint
end Handover
