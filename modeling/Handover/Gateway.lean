import Handover.ControllerSpec
import Handover.Packets

/-!
The gateway's NAT. Its table is keyed by the source port, which in
port-translation mode is the port that the controller chose, and by the
destination; the data path and the `WLAN_NAT_ADD` messages of a handover both
write the access point's address into it.
-/
namespace Handover

/-- The gateway's `struct natMap`; its field `port` is never used. -/
structure GatewayMap where
  srcAddr : IPv4
  dstAddr : IPv4
  srcPort : UInt16
  dstPort : UInt16
deriving DecidableEq

/-- What an entry is looked up by. -/
structure GatewayKey where
  srcPort : UInt16
  dstAddr : IPv4
  dstPort : UInt16
deriving DecidableEq

def GatewayMap.key (nMap : GatewayMap) : GatewayKey := ⟨nMap.srcPort,nMap.dstAddr,nMap.dstPort⟩

structure GatewayConfig where
  ifIP : IPv4
  subnet : IPv4

namespace Gateway

def init : Buckets GatewayMap := .empty 255

def lookupNatMap (table : Buckets GatewayMap) (k : GatewayKey) : Option (Option GatewayMap) :=
  table.find k.dstAddr.o3.toNat (fun nMap => nMap.key = k)

def addEntry (table : Buckets GatewayMap) (k : GatewayKey) : Option (Buckets GatewayMap) :=
  (lookupNatMap table k).bind (fun nMap =>
    if nMap.isSome then some table else table.push k.dstAddr.o3.toNat ⟨⟨0,0,0,0⟩,k.dstAddr,k.srcPort,k.dstPort⟩)

/-- The entry under the key, added if need be, gets the source address. -/
def assign (table : Buckets GatewayMap) (k : GatewayKey) (srcAddr : IPv4) : Option (Buckets GatewayMap) :=
  (lookupNatMap table k).bind (fun nMap =>
    (if nMap.isSome then some table else addEntry table k).bind (fun table =>
      table.update k.dstAddr.o3.toNat (fun nMap => nMap.key = k) (fun nMap => { nMap with srcAddr := srcAddr })))

/-- Queue 0 of `handle_pkt`: the table afterwards and the packet that leaves. -/
def handleUplink (cfg : GatewayConfig) (table : Buckets GatewayMap) (data : Packet) :
    Option (Buckets GatewayMap × Packet) :=
  if Packet.inSubnet cfg.subnet data.tuple.sourceIP then
    (assign table ⟨data.tuple.sourcePort,data.tuple.destinationIP,data.tuple.destinationPort⟩ data.tuple.sourceIP).map
      (·,(data.setSourceAddress cfg.ifIP).refresh)
  else some (table,data)

/-- The entry that queue 1 of `handle_pkt` rewrites a packet for, if any. -/
def route (cfg : GatewayConfig) (table : Buckets GatewayMap) (data : Packet) : Option (Option GatewayMap) :=
  if data.tuple.destinationIP = cfg.ifIP then
    lookupNatMap table ⟨data.tuple.destinationPort,data.tuple.sourceIP,data.tuple.sourcePort⟩
  else some none

/-- Queue 1 of `handle_pkt`: the packet that leaves it, with its port kept. -/
def handleDownlink (cfg : GatewayConfig) (table : Buckets GatewayMap) (data : Packet) : Option Packet :=
  (route cfg table data).map (fun nMap =>
    match nMap with
    | some nMap => (data.setDestinationAddress nMap.srcAddr).refresh
    | none => data)

/-- `handle_vendor`: a flow is filed with its source port in the place of the
    destination port, and the new port is not read. -/
def handleVendor (table : Buckets GatewayMap) : FromController → Option (Buckets GatewayMap)
  | .natAdd _ tuple _ => assign table ⟨tuple.sourcePort,tuple.destinationIP,tuple.sourcePort⟩ tuple.sourceIP
  | _ => some table

/-- The messages handled one after the other. -/
def handleAll (table : Buckets GatewayMap) (msgs : List FromController) : Option (Buckets GatewayMap) :=
  msgs.foldlM handleVendor table

/-! ### What the table holds -/

/-- The address that packets of the key are sent back to. -/
def sourceOf (table : Buckets GatewayMap) (k : GatewayKey) : Option IPv4 := (lookupNatMap table k).join.map (·.srcAddr)

theorem assign_eq_put (table : Buckets GatewayMap) (k : GatewayKey) (srcAddr : IPv4) :
    assign table k srcAddr = table.put (fun k => k.dstAddr.o3.toNat) GatewayMap.key k
      ⟨⟨0,0,0,0⟩,k.dstAddr,k.srcPort,k.dstPort⟩ (fun nMap => { nMap with srcAddr := srcAddr }) := by
  unfold assign Buckets.put
  show (lookupNatMap table k).bind _ = (lookupNatMap table k).bind _
  cases found : lookupNatMap table k with
  | none => rfl
  | some nMap => cases nMap <;> simp [addEntry,found]

theorem sourceOf_assign {table table' : Buckets GatewayMap} {k : GatewayKey} {srcAddr : IPv4}
    (assigned : assign table k srcAddr = some table') (k' : GatewayKey) :
    sourceOf table' k' = if k' = k then some srcAddr else sourceOf table k' := by
  rw [assign_eq_put] at assigned
  have found := Buckets.get_put (by rfl) (by intro nMap; rfl) assigned k'
  unfold sourceOf
  rw [show lookupNatMap table' k' = _ from found]
  by_cases same : k' = k
  · simp [same]
  · simp only [same,if_false]
    rfl

theorem lookupNatMap_init (k : GatewayKey) :
    lookupNatMap init k = if k.dstAddr.o3.toNat < 255 then some none else none :=
  Buckets.get_empty (fun k : GatewayKey => k.dstAddr.o3.toNat) GatewayMap.key 255 k

/-- The packet is rewritten to the address in queue 1. -/
def RewritesTo (cfg : GatewayConfig) (table : Buckets GatewayMap) (data : Packet) (a : IPv4) : Prop :=
  ∃ nMap, route cfg table data = some (some nMap) ∧ nMap.srcAddr = a

theorem rewritesTo_iff {cfg : GatewayConfig} {table : Buckets GatewayMap} {data : Packet}
    (addressed : data.tuple.destinationIP = cfg.ifIP) (a : IPv4) :
    RewritesTo cfg table data a ↔
      sourceOf table ⟨data.tuple.destinationPort,data.tuple.sourceIP,data.tuple.sourcePort⟩ = some a := by
  simp only [RewritesTo,route,addressed,if_true,sourceOf,Option.map_eq_some_iff,Option.join_eq_some_iff]

theorem RewritesTo.unique {cfg : GatewayConfig} {table : Buckets GatewayMap} {data : Packet} {a b : IPv4}
    (one : RewritesTo cfg table data a) (two : RewritesTo cfg table data b) : a = b := by
  obtain ⟨nMap,found,rfl⟩ := one
  obtain ⟨nMap',found',rfl⟩ := two
  rw [found] at found'
  cases found'
  rfl

theorem RewritesTo.packet {cfg : GatewayConfig} {table : Buckets GatewayMap} {data : Packet} {a : IPv4}
    (rewrites : RewritesTo cfg table data a) :
    handleDownlink cfg table data = some (data.setDestinationAddress a).refresh := by
  obtain ⟨nMap,found,rfl⟩ := rewrites
  simp [handleDownlink,found]

/-- Where the data path files a packet. -/
def keyOf (data : Packet) : GatewayKey := ⟨data.tuple.sourcePort,data.tuple.destinationIP,data.tuple.destinationPort⟩

/-- An uplink packet of the gateway's subnet is filed with its source and leaves with
    the gateway's address. -/
theorem handleUplink_spec {cfg : GatewayConfig} {table table' : Buckets GatewayMap} {data out : Packet}
    (formed : data.WellFormed) (inside : Packet.inSubnet cfg.subnet data.tuple.sourceIP = true)
    (handled : handleUplink cfg table data = some (table',out)) :
    (∀ k, sourceOf table' k = if k = keyOf data then some data.tuple.sourceIP else sourceOf table k) ∧
      out.WellFormed ∧ out.tuple = { data.tuple with sourceIP := cfg.ifIP } := by
  rw [handleUplink,if_pos inside] at handled
  obtain ⟨middle,assigned,same⟩ := Option.map_eq_some_iff.mp handled
  cases same
  obtain ⟨formed',same⟩ := Packet.refresh_keeps (formed.setSourceAddress cfg.ifIP)
  exact ⟨sourceOf_assign assigned,formed',by rw [same,Packet.tuple_setSourceAddress formed]⟩

/-! ### After a handover -/

/-- Where `handle_vendor` files a flow. -/
def filedUnder (entry : NATMap) : GatewayKey := ⟨entry.sourcePort,entry.destinationIP,entry.sourcePort⟩

/-- Where the data path looks a translated flow up. -/
def soughtUnder (entry : NATMap) : GatewayKey := ⟨entry.newPort,entry.destinationIP,entry.destinationPort⟩

theorem sourceOf_handleAll {newSw gw : IOFSwitch} {sta : Mac} {entries : List NATMap} {table table' : Buckets GatewayMap}
    (handled : handleAll table (entries.map (fun entry => (Controller.redirect gw newSw sta entry).msg)) = some table')
    (k : GatewayKey) :
    sourceOf table' k =
      if ∃ entry ∈ entries, filedUnder entry = k then some newSw.remoteAddress else sourceOf table k := by
  induction entries generalizing table with
  | nil =>
    simp only [handleAll,List.map_nil,List.foldlM_nil,Option.pure_def,Option.some.injEq] at handled
    simp [handled]
  | cons entry rest ih =>
    simp only [handleAll,List.map_cons,List.foldlM_cons,Option.bind_eq_bind] at handled
    obtain ⟨middle,first,later⟩ := Option.bind_eq_some_iff.mp handled
    rw [ih later,sourceOf_assign (show assign table (filedUnder entry) newSw.remoteAddress = some middle from first)]
    by_cases inRest : ∃ entry ∈ rest, filedUnder entry = k
    · have some_ : ∃ entry' ∈ entry :: rest, filedUnder entry' = k := by
        obtain ⟨entry',member,same⟩ := inRest
        exact ⟨entry',List.mem_cons_of_mem _ member,same⟩
      rw [if_pos inRest,if_pos some_]
    · by_cases same : filedUnder entry = k
      · have some_ : ∃ entry' ∈ entry :: rest, filedUnder entry' = k := ⟨entry,by simp,same⟩
        rw [if_neg inRest,if_pos same.symm,if_pos some_]
      · have none_ : ¬ ∃ entry' ∈ entry :: rest, filedUnder entry' = k := by
          rintro ⟨entry',member,equal⟩
          rcases List.mem_cons.mp member with rfl | later
          · exact same equal
          · exact inRest ⟨entry',later,equal⟩
        rw [if_neg inRest,if_neg (Ne.symm same),if_neg none_]

/-- Of the messages of a handover only the redirected flows change the table. -/
theorem handleAll_handover {c : Controller} {sw gw : IOFSwitch} {sta : Mac} {staAP : STAAPInfo} {best : APInfo}
    (connected : c.gwSwitch = some gw) (apart : (c.handoverEntry sta staAP best).sw ≠ gw) (failing : List Nat)
    (table : Buckets GatewayMap) :
    handleAll table (messagesTo gw (Controller.writeAll failing 0 (c.handoverWrites sw sta staAP best failing))) =
      handleAll table (((if (c.flows sta).length ∈ failing then []
        else Controller.writeAll failing ((c.flows sta).length + 2) (c.flows sta))).map (fun entry =>
          (Controller.redirect gw (c.handoverEntry sta staAP best).sw sta entry).msg)) := by
  have transfers : ∀ entries : List NATMap,
      (entries.map (Controller.transfer (c.handoverEntry sta staAP best).sw sta)).filter (fun w => w.sw = gw) = [] := by
    intro entries
    simp [Controller.transfer,apart]
  have redirects : ∀ entries : List NATMap,
      (entries.map (Controller.redirect gw (c.handoverEntry sta staAP best).sw sta)).filter (fun w => w.sw = gw) =
        entries.map (Controller.redirect gw (c.handoverEntry sta staAP best).sw sta) := by
    intro entries
    simp [Controller.redirect]
  have update : ∀ (i : Nat) (msg : FromController),
      (Controller.writeAll failing i [(⟨(c.handoverEntry sta staAP best).sw,msg⟩ : Write)]).filter
        (fun w => w.sw = gw) = [] := by
    intro i msg
    rw [List.filter_eq_nil_iff]
    intro w member
    have isUpdate := Controller.mem_of_mem_writeAll member
    simp only [List.mem_singleton] at isUpdate
    simp [isUpdate,apart]
  rw [Controller.writeAll_handoverWrites,connected,messagesTo,List.filter_append,transfers,List.nil_append]
  by_cases fails : (c.flows sta).length ∈ failing
  · simp [fails]
  · simp only [fails,if_false,List.filter_cons,List.filter_append,update,redirects,List.nil_append]
    by_cases same : sw = gw
    · simp only [same,decide_true,if_true,List.map_cons,List.map_map]
      rfl
    · simp only [same,decide_false,Bool.false_eq_true,if_false,List.map_map]
      rfl

/-- After a handover the gateway sends the replies of a flow to the new access
    point exactly when some flow of the station, reported to the gateway, has the
    same destination address and a source port that is both the new port and the
    destination port of this one, or when the table said so before. -/
theorem handover_redirects_iff (cfg : GatewayConfig) {c : Controller} {sw gw : IOFSwitch} {sta ap : Mac} {rssi : UInt8}
    {staAP : STAAPInfo} {best : APInfo} (moves : c.Moves sta ap rssi staAP best) (connected : c.gwSwitch = some gw)
    (apart : (c.handoverEntry sta staAP best).sw ≠ gw) (failing : List Nat) {table table' : Buckets GatewayMap}
    (handled : handleAll table (messagesTo gw (c.handleAPRSSI sw sta ap rssi failing).2) = some table')
    {entry : NATMap} {reply : Packet}
    (answers : reply.tuple = ⟨entry.destinationIP,cfg.ifIP,entry.destinationPort,entry.newPort⟩) :
    RewritesTo cfg table' reply (c.handoverEntry sta staAP best).sw.remoteAddress ↔
      ((c.flows sta).length ∉ failing ∧
        ∃ other ∈ Controller.writeAll failing ((c.flows sta).length + 2) (c.flows sta),
          other.destinationIP = entry.destinationIP ∧ other.sourcePort = entry.newPort ∧
            other.sourcePort = entry.destinationPort) ∨
        sourceOf table (soughtUnder entry) = some (c.handoverEntry sta staAP best).sw.remoteAddress := by
  rw [Controller.handleAPRSSI_moves moves,handleAll_handover connected apart] at handled
  have filed : ∀ other : NATMap, filedUnder other = soughtUnder entry ↔
      other.destinationIP = entry.destinationIP ∧ other.sourcePort = entry.newPort ∧
        other.sourcePort = entry.destinationPort := by
    intro other
    simp only [filedUnder,soughtUnder,GatewayKey.mk.injEq]
    tauto
  rw [rewritesTo_iff (by rw [answers]),answers]
  show sourceOf table' (soughtUnder entry) = _ ↔ _
  rw [sourceOf_handleAll handled]
  by_cases fails : (c.flows sta).length ∈ failing
  · simp [fails]
  · simp only [fails,if_false,filed,not_false_eq_true,true_and]
    by_cases inside : ∃ other ∈ Controller.writeAll failing ((c.flows sta).length + 2) (c.flows sta),
        other.destinationIP = entry.destinationIP ∧ other.sourcePort = entry.newPort ∧
          other.sourcePort = entry.destinationPort
    · simp only [inside,if_true,true_or]
    · simp only [inside,if_false,false_or]

/-! ### A handover that the gateway misses -/

def siteConfig : GatewayConfig := ⟨⟨203,0,113,1⟩,⟨10,0,0,0⟩⟩

def gatewaySwitch : IOFSwitch := ⟨0,⟨10,0,0,254⟩⟩
def oldSwitch : IOFSwitch := ⟨1,⟨10,0,0,1⟩⟩
def newSwitch : IOFSwitch := ⟨2,⟨10,0,0,2⟩⟩
def walker : Mac := ⟨2,0,0,0,0,1⟩
def oldMac : Mac := ⟨4,0,0,0,0,1⟩
def newMac : Mac := ⟨4,0,0,0,0,2⟩

/-- A station associates, opens a flow from the source port to a web server, and
    is heard at a second access point. -/
def heardElsewhere (sourcePort destinationPort : UInt16) : List Controller.Event :=
  [.receive gatewaySwitch .gwConnect [],
    .receive oldSwitch (.probe walker oldMac) [],
    .receive oldSwitch (.authReq walker oldMac 0) [],
    .receive oldSwitch (.assocReq walker oldMac ⟨1,0,0,Vector.replicate 32 0,0,0⟩) [],
    .receive oldSwitch (.portTranslation walker
      ⟨⟨192,168,5,2⟩,⟨93,184,216,34⟩,sourcePort,destinationPort⟩) [],
    .receive newSwitch (.recPow walker newMac 100) []]

/-- The controller then. -/
def heard (sourcePort destinationPort : UInt16) : Controller :=
  (heardElsewhere sourcePort destinationPort).foldl (fun c e => (c.step e).1) .init

/-- A UDP packet of 28 bytes without checksums. -/
def datagram (t : FourTuple) : Packet :=
  [69,0,0,28,0,0,0,0,64,17,0,0] ++ Packet.addressBytes t.sourceIP ++ Packet.addressBytes t.destinationIP ++
    Bytes.wordBytes t.sourcePort ++ Bytes.wordBytes t.destinationPort ++ [0,8,0,0]

/-- The packet of the flow that leaves the first access point. -/
def translated (destinationPort : UInt16) : Packet :=
  datagram ⟨⟨10,0,0,1⟩,⟨93,184,216,34⟩,49152,destinationPort⟩

/-- The answer of the web server. -/
def answer (destinationPort : UInt16) : Packet :=
  datagram ⟨⟨93,184,216,34⟩,⟨203,0,113,1⟩,destinationPort,49152⟩

/-- The flow is filed under `(5000,5000)` and sought under `(49152,80)`: the
    gateway goes on sending its replies to the access point that was left. -/
theorem replies_follow_old_ap :
    Run.run Controller.next .init (heardElsewhere 5000 80) = some (heard 5000 80) ∧
      ((heard 5000 80).handleAPRSSI oldSwitch walker oldMac 50 []).1.status walker newMac = some .associated ∧
      ∃ table table' left, handleUplink siteConfig init (translated 80) = some (table,left) ∧
        handleAll table (messagesTo gatewaySwitch
          ((heard 5000 80).handleAPRSSI oldSwitch walker oldMac 50 []).2) = some table' ∧
        RewritesTo siteConfig table' (answer 80) oldSwitch.remoteAddress ∧
        ¬ RewritesTo siteConfig table' (answer 80) newSwitch.remoteAddress := by
  refine ⟨Controller.run_next _ _,rfl,_,_,_,rfl,rfl,⟨_,rfl,rfl⟩,fun follows => ?_⟩
  exact absurd (follows.unique ⟨_,rfl,rfl⟩) (by decide)

/-- A flow whose three ports are equal is found where it was filed. -/
theorem equal_ports_redirected :
    ∃ table', handleAll init (messagesTo gatewaySwitch
        ((heard 49152 49152).handleAPRSSI oldSwitch walker oldMac 50 []).2) = some table' ∧
      RewritesTo siteConfig table' (answer 49152) newSwitch.remoteAddress := by
  let flow : NATMap := ⟨⟨⟨192,168,5,2⟩,⟨93,184,216,34⟩,49152,49152⟩,49152⟩
  have moves : (heard 49152 49152).Moves walker oldMac 50
      ⟨walker,oldMac,.associated,true,oldSwitch,0,1,0,0,some (Vector.replicate 32 0),0,0⟩
      ⟨newMac,100,true,newSwitch⟩ := ⟨rfl,rfl,by decide⟩
  have answers : (answer 49152).tuple =
      ⟨flow.destinationIP,siteConfig.ifIP,flow.destinationPort,flow.newPort⟩ := rfl
  obtain ⟨table',handled⟩ := Option.isSome_iff_exists.mp (show (handleAll init (messagesTo gatewaySwitch
    ((heard 49152 49152).handleAPRSSI oldSwitch walker oldMac 50 []).2)).isSome = true by decide +kernel)
  refine ⟨table',handled,?_⟩
  refine (handover_redirects_iff siteConfig moves rfl (by decide) [] handled answers).mpr ?_
  exact .inl ⟨by simp,flow,List.mem_cons_self,rfl,rfl,rfl⟩

end Gateway
end Handover
