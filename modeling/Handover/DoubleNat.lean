import Handover.Translation

/-!
Both NATs together, while no station is handed over. A packet is rewritten by the
access point that it arrives at and again by the gateway; what leads its replies
back are the ports, which the controller keeps distinct for each destination,
the table of the access point and the last packet that the gateway filed.
-/
namespace Handover
namespace Net
open Controller NatTable Ports Allocation
variable {AP : Type}

/-- A private address behind an access point belongs to one station. -/
def Owned (owner : AP → IPv4 → Mac) (a : AP) (sta : Mac) (tuple : FourTuple) : Prop := sta = owner a tuple.sourceIP

/-- Packets are whole, come from the subnet of their access point and from the owner
    of their address, and no message hands a station over. -/
def Plain (cfg : Config AP) (owner : AP → IPv4 → Mac) (net : Net AP) : Event AP → Prop
  | .uplink a hwAddr data => data.WellFormed ∧ Packet.inSubnet (cfg.ap a).subnet data.tuple.sourceIP = true ∧
      Owned owner a hwAddr data.tuple
  | .handle sw _ => ∀ sta ap rssi rest, net.up sw = .apRecPow sta ap rssi :: rest →
      ¬ ∃ staAP best, Moves net.controller sta ap rssi staAP best
  | _ => True

theorem Plain.within {cfg : Config AP} {owner : AP → IPv4 → Mac} {net : Net AP} {e : Event AP}
    (plain : Plain cfg owner net e) : Within (Owned owner) net e := by
  cases e with
  | uplink a hwAddr data => exact plain.2.2
  | handle sw failing =>
    intro sta ap rssi rest staAP best waiting moves
    exact absurd ⟨staAP,best,moves⟩ (plain sta ap rssi rest waiting)
  | _ => trivial

/-- The packet is one that arrived, with the port of its flow at its access point
    and another source address. -/
def Carried (net : Net AP) (source : AP → IPv4) (v : Verdict) : Prop :=
  ∃ arrival newPort, net.arrivals[v.packetId]? = some arrival ∧
    portOf (net.ap arrival.ap).entryList arrival.data.tuple = some newPort ∧ v.payload.WellFormed ∧
    v.payload.tuple = { arrival.data.tuple with sourceIP := source arrival.ap, sourcePort := newPort }

theorem carried_outbound {cfg : Config AP} {net : Net AP} {a : AP} {hwAddr : Mac} {packetId : Nat} {data : Packet}
    {nMap : NATMap} (isArrival : net.arrivals[packetId]? = some ⟨a,hwAddr,data⟩) (formed : data.WellFormed)
    (held : portOf (net.ap a).entryList data.tuple = some nMap.newPort) :
    Carried net (fun a => (cfg.ap a).ifIP) ⟨packetId,AccessPoint.outbound (cfg.ap a) nMap data⟩ := by
  obtain ⟨formed',tuple⟩ := AccessPoint.outbound_spec (cfg.ap a) nMap formed
  generalize AccessPoint.outbound (cfg.ap a) nMap data = payload at formed' tuple
  exact ⟨_,_,isArrival,held,formed',tuple⟩

/-- The access point's address of the newest packet that left under the key. -/
def newestSource (cfg : Config AP) (net : Net AP) (k : GatewayKey) : Option IPv4 :=
  ((net.emitted.find? (fun v => Gateway.keyOf v.payload = k)).bind (fun v => net.arrivals[v.packetId]?)).map
    (fun arrival => (cfg.ap arrival.ap).ifIP)

/-- Where packets are on their way. The gateway is told nothing, and files the newest
    packet of each key. -/
structure Forwarding (cfg : Config AP) (owner : AP → IPv4 → Mac) (net : Net AP) : Prop where
  arrivals : ∀ arrival ∈ net.arrivals, arrival.data.WellFormed ∧ Owned owner arrival.ap arrival.hwAddr arrival.data.tuple
  silent : ∀ sw, ∀ msg ∈ net.down sw, ∃ a, net.peer sw = some (some a)
  queue : ∀ a, (net.ap a).portQueue.All (fun temp => ∃ hwAddr, net.arrivals[temp.packetId]? = some ⟨a,hwAddr,temp.packet⟩)
  transit : ∀ v ∈ net.transit, Carried net (fun a => (cfg.ap a).ifIP) v
  emitted : ∀ v ∈ net.emitted, Carried net (fun _ => cfg.gateway.ifIP) v
  gateway : ∀ k, Gateway.sourceOf net.gateway k = newestSource cfg net k

/-- What is known of packets and flows stays known. -/
structure Extends (net net' : Net AP) : Prop where
  flows : ∀ sta, net.controller.flows sta ⊆ net'.controller.flows sta
  arrivals : ∀ (i : Nat) arrival, net.arrivals[i]? = some arrival → net'.arrivals[i]? = some arrival
  ports : ∀ a tuple newPort, portOf (net.ap a).entryList tuple = some newPort →
    portOf (net'.ap a).entryList tuple = some newPort

theorem Extends.trans {net net' net'' : Net AP} (one : Extends net net') (two : Extends net' net'') : Extends net net'' where
  flows := fun sta => List.Subset.trans (one.flows sta) (two.flows sta)
  arrivals := fun i arrival known => two.arrivals i arrival (one.arrivals i arrival known)
  ports := fun a tuple newPort held => two.ports a tuple newPort (one.ports a tuple newPort held)

theorem Carried.extend {net net' : Net AP} (grows : Extends net net') {source : AP → IPv4} {v : Verdict}
    (carried : Carried net source v) : Carried net' source v := by
  obtain ⟨arrival,newPort,isArrival,held,formed,tuple⟩ := carried
  exact ⟨arrival,newPort,grows.arrivals _ _ isArrival,grows.ports _ _ _ held,formed,tuple⟩

theorem forwarding_init (cfg : Config AP) (owner : AP → IPv4 → Mac) : Forwarding cfg owner (init cfg) where
  arrivals := by intro arrival member; simp [init] at member
  silent := by intro sw msg member; simp [init] at member
  queue := fun a => Buckets.all_empty _ 255
  transit := by intro v member; simp [init] at member
  emitted := by intro v member; simp [init] at member
  gateway := by
    intro k
    rw [show newestSource cfg (init cfg) k = none from rfl]
    unfold Gateway.sourceOf
    rw [show (init cfg).gateway = Gateway.init from rfl,Gateway.lookupNatMap_init]
    split <;> rfl

section
variable {cfg : Config AP} {owner : AP → IPv4 → Mac} {net net' : Net AP}

/-- The source of a key depends on the packets that left only. -/
theorem newestSource_extend (forwarding : Forwarding cfg owner net) (grows : Extends net net')
    (emitted : net'.emitted = net.emitted) (k : GatewayKey) : newestSource cfg net' k = newestSource cfg net k := by
  unfold newestSource
  rw [emitted]
  cases found : net.emitted.find? (fun v => Gateway.keyOf v.payload = k) with
  | none => rfl
  | some v =>
    obtain ⟨arrival,_,isArrival,_⟩ := forwarding.emitted v (List.mem_of_find?_eq_some found)
    simp [isArrival,grows.arrivals _ _ isArrival]

/-- A step that moves no packet through the gateway. -/
theorem Forwarding.extend (forwarding : Forwarding cfg owner net) (grows : Extends net net')
    (arrivals : ∀ arrival ∈ net'.arrivals, arrival ∈ net.arrivals ∨
      arrival.data.WellFormed ∧ Owned owner arrival.ap arrival.hwAddr arrival.data.tuple)
    (silent : ∀ sw, ∀ msg ∈ net'.down sw, ∃ a, net'.peer sw = some (some a))
    (queue : ∀ a, (net'.ap a).portQueue.All (fun temp =>
      ∃ hwAddr, net'.arrivals[temp.packetId]? = some ⟨a,hwAddr,temp.packet⟩))
    (transit : ∀ v ∈ net'.transit, v ∈ net.transit ∨ Carried net' (fun a => (cfg.ap a).ifIP) v)
    (emitted : net'.emitted = net.emitted) (gateway : net'.gateway = net.gateway) : Forwarding cfg owner net' where
  arrivals := by
    intro arrival member
    rcases arrivals arrival member with old | new
    · exact forwarding.arrivals arrival old
    · exact new
  silent := silent
  queue := queue
  transit := by
    intro v member
    rcases transit v member with old | new
    · exact (forwarding.transit v old).extend grows
    · exact new
  emitted := by
    intro v member
    exact (forwarding.emitted v (emitted ▸ member)).extend grows
  gateway := by
    intro k
    rw [gateway,newestSource_extend forwarding grows emitted]
    exact forwarding.gateway k

/-- The packets that wait still wait after more have arrived. -/
theorem Forwarding.queue_extend (forwarding : Forwarding cfg owner net) (grows : Extends net net') (a : AP) :
    (net.ap a).portQueue.All (fun temp => ∃ hwAddr, net'.arrivals[temp.packetId]? = some ⟨a,hwAddr,temp.packet⟩) := by
  refine (forwarding.queue a).mono (fun temp => ?_)
  rintro ⟨hwAddr,isArrival⟩
  exact ⟨hwAddr,grows.arrivals _ _ isArrival⟩

/-- Without a handover the gateway is told of no flow. -/
theorem silent_controls (linked : Linked cfg net) (forwarding : Forwarding cfg owner net) {given : Controller.Event}
    (controls : Controls net net' given)
    (honest : ∀ sw msg failing, given = .receive sw msg failing → msg ∈ net.up sw)
    (noHandover : ∀ sw sta ap rssi failing, given = .receive sw (.apRecPow sta ap rssi) failing →
      ¬ ∃ staAP best, Moves net.controller sta ap rssi staAP best) :
    ∀ sw, ∀ msg ∈ net'.down sw, ∃ a, net'.peer sw = some (some a) := by
  intro sw msg member
  rw [peer_congr controls.opened]
  rcases controls.mem_down member with old | new
  · exact forwarding.silent sw msg old
  · rcases linked.writes honest new with isAP | ⟨_,sta,tuple,newPort,rfl⟩
    · exact isAP
    · rcases (net.controller.does_step given).natAdd new rfl with ⟨_,failing,isEvent⟩ |
        ⟨sw',ap,rssi,failing,staAP,best,isEvent,moves,_⟩
      · obtain ⟨party,isPeer,isHonest⟩ := linked.up sw _ (honest sw _ failing isEvent)
        cases party with
        | none => cases isHonest
        | some a => exact ⟨a,isPeer⟩
      · exact absurd ⟨staAP,best,moves⟩ (noHandover sw' sta ap rssi failing isEvent)

/-- A step at an access point that touches no packet. -/
theorem Forwarding.local (forwarding : Forwarding cfg owner net) (grows : Extends net net') {a : AP}
    {msgs : List ToController} (here : Local net net' a msgs) (down : ∀ sw, ∀ msg ∈ net'.down sw, msg ∈ net.down sw)
    (arrivals : net'.arrivals = net.arrivals) (queue : (net'.ap a).portQueue = (net.ap a).portQueue)
    (transit : net'.transit = net.transit) : Forwarding cfg owner net' := by
  refine forwarding.extend grows (fun arrival member => .inl (arrivals ▸ member)) (fun sw msg member => ?_)
    (fun b => ?_) (fun v member => .inl (transit ▸ member)) here.emitted here.gateway
  · rw [peer_congr here.opened]
    exact forwarding.silent sw msg (down sw msg member)
  · by_cases same : b = a
    · subst same
      rw [queue]
      exact forwarding.queue_extend grows b
    · rw [here.others b same]
      exact forwarding.queue_extend grows b

end

section
variable [DecidableEq AP] {cfg : Config AP} {owner : AP → IPv4 → Mac} {net net' : Net AP} {e : Event AP}

/-- The port of a flow at an access point does not change: replies for the 4-tuple
    are for its owner, whose flow is recorded once. -/
theorem port_step (linked : Linked cfg net) (serving : Serving cfg (Owned owner) net)
    (numbered : Numbered net) (stepped : step cfg net e = some net') {a : AP} {tuple : FourTuple}
    {newPort : UInt16} (held : portOf (net.ap a).entryList tuple = some newPort) :
    portOf (net'.ap a).entryList tuple = some newPort := by
  rcases entryList_step stepped a with same | ⟨sw,sta,tuple',newPort',rest,_,connected,waiting,added⟩
  · rw [same]
    exact held
  · rw [portOf_natAdd added]
    split
    · rename_i same
      subst same
      obtain ⟨sta',rfl,recorded'⟩ := serving.table a tuple newPort held
      obtain ⟨rfl,recorded⟩ := serving.down sw a (linked.sock a sw connected) sta tuple newPort'
        (by rw [waiting]; exact List.mem_cons_self)
      cases numbered.once recorded recorded' rfl
      rfl
    · exact held

theorem arrivals_step (stepped : step cfg net e = some net') :
    net'.arrivals = net.arrivals ∨ ∃ a hwAddr data, e = .uplink a hwAddr data ∧
      net'.arrivals = net.arrivals ++ [⟨a,hwAddr,data⟩] := by
  cases kind_step stepped with
  | connects free isNext => exact .inl (by rw [isNext])
  | disconnects isNext => exact .inl (by rw [isNext])
  | acts acts =>
    rcases acts.packets with ⟨same,_⟩ | ⟨hwAddr,data,isEvent,more⟩ | ⟨_,_,same⟩
    · exact .inl same
    · exact .inr ⟨_,hwAddr,data,isEvent,more⟩
    · exact .inl same
  | controls isGiven controls received up closed removed => exact .inl controls.arrivals
  | gateway isGateway noGiven gateway => exact .inl gateway.arrivals

theorem extends_step (linked : Linked cfg net) (serving : Serving cfg (Owned owner) net)
    (numbered : Numbered net) (stepped : step cfg net e = some net') : Extends net net' where
  flows := by
    intro sta
    rcases step_controller stepped with ⟨given,isGiven,isNext⟩ | ⟨_,isNext⟩
    · rw [isNext]
      refine (net.controller.does_step given).flows_subset (fun sw sta' tuple failing isUpdate => ?_) sta
      have translating := translating_of_controlled linked isGiven
      rw [isUpdate] at translating
      exact translating
    · rw [isNext]
      exact List.Subset.refl _
  arrivals := by
    intro i arrival known
    rcases arrivals_step stepped with same | ⟨a,hwAddr,data,_,more⟩
    · rw [same]
      exact known
    · rw [more,List.getElem?_append_left (List.getElem?_eq_some_iff.mp known).1]
      exact known
  ports := fun _ _ _ held => port_step linked serving numbered stepped held

/-- A packet that arrives waits, or leaves with the port of its flow. -/
theorem forwarding_uplink {a : AP} {hwAddr : Mac} {data : Packet} (plain : Plain cfg owner net (.uplink a hwAddr data))
    (forwarding : Forwarding cfg owner net) (grows : Extends net net')
    (stepped : step cfg net (.uplink a hwAddr data) = some net') : Forwarding cfg owner net' := by
  obtain ⟨formed,inside,owned⟩ := plain
  obtain ⟨verdict,handled,here,down,arrivals,transit⟩ := step_uplink stepped
  have isArrival : net'.arrivals[net.arrivals.length]? = some ⟨a,hwAddr,data⟩ := by
    rw [arrivals]
    exact List.getElem?_concat_length
  have silent : ∀ sw, ∀ msg ∈ net'.down sw, ∃ b, net'.peer sw = some (some b) := by
    intro sw msg member
    rw [peer_congr here.opened]
    exact forwarding.silent sw msg (down ▸ member)
  have queue : (net'.ap a).portQueue.All (fun temp =>
      ∃ hwAddr, net'.arrivals[temp.packetId]? = some ⟨a,hwAddr,temp.packet⟩) →
      ∀ b, (net'.ap b).portQueue.All (fun temp =>
        ∃ hwAddr, net'.arrivals[temp.packetId]? = some ⟨b,hwAddr,temp.packet⟩) := by
    intro itself b
    by_cases same : b = a
    · exact same ▸ itself
    · rw [here.others b same]
      exact forwarding.queue_extend grows b
  have arrived : ∀ arrival ∈ net'.arrivals, arrival ∈ net.arrivals ∨
      arrival.data.WellFormed ∧ Owned owner arrival.ap arrival.hwAddr arrival.data.tuple := by
    intro arrival member
    rw [arrivals] at member
    rcases List.mem_append.mp member with old | new
    · exact .inl old
    · rw [List.mem_singleton.mp new]
      exact .inr ⟨formed,owned⟩
  rcases AccessPoint.handleUplink_spec handled with ⟨outside,_⟩ | ⟨nMap,found,isNext,rfl⟩ | ⟨portQueue,pushed,isNext,rfl⟩
  · rw [inside] at outside
    cases outside
  · refine forwarding.extend grows arrived silent (queue ?_) (fun v member => ?_) here.emitted here.gateway
    · rw [isNext]
      exact forwarding.queue_extend grows a
    · rw [transit] at member
      rcases List.mem_append.mp member with old | new
      · exact .inl old
      · rw [List.mem_singleton.mp new]
        exact .inr (carried_outbound isArrival formed (by rw [isNext,portOf,found]; rfl))
  · refine forwarding.extend grows arrived silent (queue ?_) (fun v member => ?_) here.emitted here.gateway
    · rw [isNext]
      exact (forwarding.queue_extend grows a).push ⟨hwAddr,isArrival⟩ pushed
    · rw [transit] at member
      exact .inl (by simpa using member)

/-- Packets that waited leave with the port of their flow. -/
theorem forwarding_reinject {a : AP} {i : Nat} (forwarding : Forwarding cfg owner net) (grows : Extends net net')
    (stepped : step cfg net (.reinject a i) = some net') : Forwarding cfg owner net' := by
  obtain ⟨verdicts,ran,here,down,arrivals,transit⟩ := step_reinject stepped
  obtain ⟨tuple,nMap,chain,_,found,at_d,rfl,isNext⟩ := AccessPoint.reinjectPkt_spec ran
  obtain ⟨leave,stay⟩ := AccessPoint.mem_reinjectChain (cfg.ap a) nMap chain
  have isTuple : nMap.toFourTuple = tuple :=
    Buckets.key_of_get (fun tuple : FourTuple => tuple.destinationIP.o3.toNat) NATMap.toFourTuple found
  refine forwarding.extend grows (fun arrival member => .inl (arrivals ▸ member)) (fun sw msg member => ?_)
    (fun b => ?_) (fun v member => ?_) here.emitted here.gateway
  · rw [peer_congr here.opened]
    exact forwarding.silent sw msg (down ▸ member)
  · by_cases same : b = a
    · subst same
      rw [isNext]
      exact (forwarding.queue_extend grows b).set (fun temp member =>
        forwarding.queue_extend grows b _ chain at_d temp (stay temp member).1)
    · rw [here.others b same]
      exact forwarding.queue_extend grows b
  · rw [transit] at member
    rcases List.mem_append.mp member with old | new
    · exact .inl old
    · obtain ⟨temp,inChain,same,rfl⟩ := (leave v).mp new
      obtain ⟨hwAddr,isArrival⟩ := forwarding.queue a _ chain at_d temp inChain
      have formed := (forwarding.arrivals _ (List.mem_of_getElem? isArrival)).1
      refine .inr (carried_outbound (grows.arrivals _ _ isArrival) formed ?_)
      rw [isNext,same,isTuple,portOf,found]
      rfl

/-- A packet that leaves the gateway is the newest under its key. -/
theorem forwarding_gwForward {i : Nat} (subnet : ∀ a, Packet.inSubnet cfg.gateway.subnet (cfg.ap a).ifIP = true)
    (forwarding : Forwarding cfg owner net) (stepped : step cfg net (.gwForward i) = some net') :
    Forwarding cfg owner net' := by
  obtain ⟨v,gateway,data,isVerdict,handled,isNext⟩ := step_gwForward stepped
  obtain ⟨arrival,newPort,isArrival,held,formed,tuple⟩ := forwarding.transit v (List.mem_of_getElem? isVerdict)
  have inside : Packet.inSubnet cfg.gateway.subnet v.payload.tuple.sourceIP = true := by
    rw [tuple]
    exact subnet arrival.ap
  obtain ⟨filed,formed',tuple'⟩ := Gateway.handleUplink_spec formed inside handled
  have sameKey : Gateway.keyOf data = Gateway.keyOf v.payload := by
    unfold Gateway.keyOf
    rw [tuple']
  rw [isNext]
  refine ⟨forwarding.arrivals,forwarding.silent,forwarding.queue,?_,?_,?_⟩
  · exact fun v' member => forwarding.transit v' (List.mem_of_mem_eraseIdx member)
  · intro v' member
    rcases List.mem_cons.mp member with rfl | old
    · exact ⟨arrival,newPort,isArrival,held,formed',by rw [tuple',tuple]⟩
    · exact forwarding.emitted v' old
  · intro k
    show Gateway.sourceOf gateway k = _
    rw [filed]
    unfold newestSource
    by_cases same : k = Gateway.keyOf v.payload
    · simp [same,sameKey,isArrival,tuple]
    · have other : Gateway.keyOf v.payload ≠ k := Ne.symm same
      rw [if_neg same,forwarding.gateway k]
      simp [newestSource,sameKey,other]

/-- Every plain event carries packets on. -/
theorem forwarding_step (subnet : ∀ a, Packet.inSubnet cfg.gateway.subnet (cfg.ap a).ifIP = true)
    (plain : Plain cfg owner net e) (linked : Linked cfg net) (forwarding : Forwarding cfg owner net)
    (grows : Extends net net') (stepped : step cfg net e = some net') : Forwarding cfg owner net' := by
  have connects : AtGateway net net' → net'.transit = net.transit → net'.emitted = net.emitted →
      net'.gateway = net.gateway → Forwarding cfg owner net' := by
    intro gateway transit emitted same
    obtain ⟨peer,_⟩ := @Linked.grow _ _ _ linked net' (gateway.opened.imp_right (fun ⟨address,more⟩ => ⟨_,more⟩))
    refine forwarding.extend grows (fun arrival member => .inl (gateway.arrivals ▸ member)) (fun sw msg member => ?_)
      (fun a => ?_) (fun v member => .inl (transit ▸ member)) emitted same
    · obtain ⟨a,isPeer⟩ := forwarding.silent sw msg (gateway.down sw msg member)
      exact ⟨a,peer _ _ isPeer⟩
    · rw [gateway.ap]
      exact forwarding.queue_extend grows a
  cases kind_step stepped with
  | @connects b address free isNext =>
    obtain ⟨peer,_⟩ := @Linked.grow _ _ _ linked net' (.inr ⟨(some b,address),by rw [isNext]⟩)
    refine forwarding.extend grows (fun arrival member => .inl (by rw [isNext] at member; exact member))
      (fun sw msg member => ?_) (fun a => ?_) (fun v member => .inl (by rw [isNext] at member; exact member))
      (by rw [isNext]) (by rw [isNext])
    · obtain ⟨a,isPeer⟩ := forwarding.silent sw msg (by rw [isNext] at member; exact member)
      exact ⟨a,peer _ _ isPeer⟩
    · rw [show net'.ap = net.ap by rw [isNext]]
      exact forwarding.queue_extend grows a
  | disconnects isNext =>
    rw [isNext]
    exact ⟨forwarding.arrivals,forwarding.silent,forwarding.queue,forwarding.transit,forwarding.emitted,
      forwarding.gateway⟩
  | acts acts =>
    rcases acts.packets with ⟨arrivals,queue,transit⟩ | ⟨_,_,rfl,_⟩ | ⟨_,rfl,_⟩
    · exact forwarding.local grows acts.here acts.down arrivals queue transit
    · exact forwarding_uplink plain forwarding grows stepped
    · exact forwarding_reinject forwarding grows stepped
  | controls isGiven controls received up closed removed =>
    refine forwarding.extend grows (fun arrival member => .inl (controls.arrivals ▸ member))
      (silent_controls linked forwarding controls (controlled_waiting isGiven) ?_) (fun a => ?_)
      (fun v member => .inl (controls.transit ▸ member)) controls.emitted controls.gateway
    · rintro sw sta ap rssi failing rfl
      obtain ⟨rfl,rest,waiting⟩ := controlled_receive isGiven
      exact plain sta ap rssi rest waiting
    · rw [controls.ap]
      exact forwarding.queue_extend grows a
  | gateway isGateway noGiven gateway =>
    cases e with
    | gwConnect address =>
      have isNext := step_gwConnect stepped
      exact connects gateway (by rw [isNext]) (by rw [isNext]) (by rw [isNext])
    | gwDisconnect =>
      have isNext := step_gwDisconnect stepped
      exact connects gateway (by rw [isNext]) (by rw [isNext]) (by rw [isNext])
    | gwAnnounce =>
      obtain ⟨sw,_,isNext⟩ := step_gwAnnounce stepped
      exact connects gateway (by rw [isNext]) (by rw [isNext]) (by rw [isNext])
    | gwDeliver =>
      -- no flow is ever told to the gateway here
      obtain ⟨sw,msg,rest,_,connected,waiting,_⟩ := step_gwDeliver stepped
      obtain ⟨a,isPeer⟩ := forwarding.silent sw msg (by rw [waiting]; exact List.mem_cons_self)
      rw [linked.gwSock sw connected] at isPeer
      cases isPeer
    | gwForward i => exact forwarding_gwForward subnet forwarding stepped
    | _ => cases isGateway

end

/-- Connections, flows and packets are in order. -/
structure InOrder (cfg : Config AP) (owner : AP → IPv4 → Mac) (net : Net AP) : Prop where
  linked : Linked cfg net
  numbered : Numbered net
  serving : Serving cfg (Owned owner) net
  forwarding : Forwarding cfg owner net

theorem inOrder_init (cfg : Config AP) (owner : AP → IPv4 → Mac) : InOrder cfg owner (init cfg) :=
  ⟨linked_init cfg,numbered_init cfg,serving_init cfg _,forwarding_init cfg owner⟩

section
variable {cfg : Config AP} {owner : AP → IPv4 → Mac} {net : Net AP}

/-! ### Replies -/

/-- Where ports are distinct, packets of different flows leave the gateway under
    different keys. -/
theorem InOrder.flow_of_key (inOrder : InOrder cfg owner net) (distinct : DistinctPorts net.controller)
    {v v' : Verdict} {arrival arrival' : Arrival AP} (sent : v ∈ net.emitted) (sent' : v' ∈ net.emitted)
    (isArrival : net.arrivals[v.packetId]? = some arrival) (isArrival' : net.arrivals[v'.packetId]? = some arrival')
    (same : Gateway.keyOf v'.payload = Gateway.keyOf v.payload) :
    (arrival'.hwAddr,arrival'.data.tuple) = (arrival.hwAddr,arrival.data.tuple) := by
  obtain ⟨one,newPort,isOne,held,_,tuple⟩ := inOrder.forwarding.emitted v sent
  obtain ⟨two,newPort',isTwo,held',_,tuple'⟩ := inOrder.forwarding.emitted v' sent'
  cases isOne.symm.trans isArrival
  cases isTwo.symm.trans isArrival'
  have owned := (inOrder.forwarding.arrivals arrival (List.mem_of_getElem? isArrival)).2
  have owned' := (inOrder.forwarding.arrivals arrival' (List.mem_of_getElem? isArrival')).2
  obtain ⟨sta,isOwner,recorded⟩ := inOrder.serving.table _ _ _ held
  obtain ⟨sta',isOwner',recorded'⟩ := inOrder.serving.table _ _ _ held'
  rw [owned,owned',← isOwner,← isOwner']
  simp only [Gateway.keyOf,tuple,tuple',GatewayKey.mk.injEq] at same
  obtain ⟨samePort,sameIP,sameDestination⟩ := same
  by_contra different
  refine distinct sta' sta _ _ recorded' recorded ?_ different samePort
  simp only [FourTuple.destination,sameIP,sameDestination]

/-- The gateway sends the reply to the newest packet of a flow back to the access
    point that forwarded the packet. -/
theorem InOrder.gateway_reply (inOrder : InOrder cfg owner net) (distinct : DistinctPorts net.controller)
    {newer older : List Verdict} {v : Verdict} {arrival : Arrival AP} (sent : net.emitted = newer ++ v :: older)
    (isArrival : net.arrivals[v.packetId]? = some arrival)
    (newest : ∀ v' ∈ newer, ∀ arrival', net.arrivals[v'.packetId]? = some arrival' →
      (arrival'.hwAddr,arrival'.data.tuple) ≠ (arrival.hwAddr,arrival.data.tuple))
    {reply : Packet} (answers : reply.tuple = v.payload.tuple.reversed) :
    Gateway.RewritesTo cfg.gateway net.gateway reply (cfg.ap arrival.ap).ifIP := by
  have inEmitted : v ∈ net.emitted := by simp [sent]
  obtain ⟨one,newPort,isOne,_,_,tuple⟩ := inOrder.forwarding.emitted v inEmitted
  refine (Gateway.rewritesTo_iff (by rw [answers,tuple]; rfl) _).mpr ?_
  have first : net.emitted.find? (fun v' => Gateway.keyOf v'.payload = Gateway.keyOf v.payload) = some v := by
    rw [sent,List.find?_append,List.find?_eq_none.mpr]
    · simp
    · intro v' inNewer
      simp only [decide_eq_true_eq]
      intro same
      have inEmitted' : v' ∈ net.emitted := by simp [sent,inNewer]
      obtain ⟨arrival',_,isArrival',_⟩ := inOrder.forwarding.emitted v' inEmitted'
      exact newest v' inNewer arrival' isArrival' (inOrder.flow_of_key distinct inEmitted inEmitted' isArrival isArrival' same)
  rw [answers,show (⟨v.payload.tuple.reversed.destinationPort,v.payload.tuple.reversed.sourceIP,
    v.payload.tuple.reversed.sourcePort⟩ : GatewayKey) = Gateway.keyOf v.payload from rfl,
    inOrder.forwarding.gateway,newestSource,first]
  simp [isArrival]

/-- The access point sends a reply to the port of a flow to the flow's private
    endpoint. -/
theorem InOrder.accessPoint_reply (inOrder : InOrder cfg owner net) (distinct : DistinctPorts net.controller) {a : AP}
    {tuple : FourTuple} {newPort : UInt16} (held : portOf (net.ap a).entryList tuple = some newPort) {back : Packet}
    (formed : back.WellFormed)
    (isBack : back.tuple = { tuple.reversed with destinationIP := (cfg.ap a).ifIP, destinationPort := newPort }) :
    ∃ delivered, (net.ap a).handleDownlink (cfg.ap a) back = some delivered ∧ delivered.tuple = tuple.reversed := by
  obtain ⟨sta,_,recorded⟩ := inOrder.serving.table a tuple newPort held
  have endpoint := endpointOf_eq distinct (inOrder.serving.kept a) (fun tuple' newPort' held' => by
    obtain ⟨sta',_,recorded'⟩ := inOrder.serving.table a tuple' newPort' held'
    exact ⟨sta',recorded'⟩) recorded
  rw [if_pos held] at endpoint
  obtain ⟨nMap,found,isEndpoint⟩ := Option.map_eq_some_iff.mp endpoint
  obtain ⟨sameIP,samePort⟩ := Prod.mk.inj isEndpoint
  obtain ⟨delivered,handled,isDelivered⟩ := @AccessPoint.handleDownlink_spec (cfg.ap a) (net.ap a) back nMap formed
    (by rw [isBack]) (by rw [isBack]; exact Option.join_eq_some_iff.mp found)
  refine ⟨delivered,handled,?_⟩
  rw [isDelivered,isBack,sameIP,samePort]
  rfl

end

/-! ### Runs -/

variable [DecidableEq AP]

theorem inOrder_step {cfg : Config AP} {owner : AP → IPv4 → Mac} {net net' : Net AP} {e : Event AP}
    (subnet : ∀ a, Packet.inSubnet cfg.gateway.subnet (cfg.ap a).ifIP = true)
    (plain : Plain cfg owner net e) (inOrder : InOrder cfg owner net) (stepped : step cfg net e = some net') :
    InOrder cfg owner net' ∧ Extends net net' := by
  have grows := extends_step inOrder.linked inOrder.serving inOrder.numbered stepped
  refine ⟨⟨?_,?_,?_,?_⟩,grows⟩
  · exact linked_step cfg net e net' inOrder.linked stepped
  · exact numbered_step inOrder.linked inOrder.numbered stepped
  · exact serving_step plain.within inOrder.linked inOrder.serving stepped
  · exact forwarding_step subnet plain inOrder.linked inOrder.forwarding grows stepped

theorem inOrder_run {cfg : Config AP} {owner : AP → IPv4 → Mac} {net : Net AP}
    (subnet : ∀ a, Packet.inSubnet cfg.gateway.subnet (cfg.ap a).ifIP = true)
    {events : List (Event AP)} (plain : Run.Steps (step cfg) (Plain cfg owner) net events)
    (inOrder : InOrder cfg owner net) {final : Net AP} (ran : Run.run (step cfg) net events = some final) :
    InOrder cfg owner final ∧ Extends net final := by
  refine @Run.run_preserves _ _ _ _ (fun later => InOrder cfg owner later ∧ Extends net later) ?_ _ _ _ plain
    ⟨inOrder,⟨fun _ => List.Subset.refl _,fun _ _ => id,fun _ _ _ => id⟩⟩ ran
  intro later e next isPlain both stepped
  obtain ⟨inOrder',grows⟩ := inOrder_step subnet isPlain both.1 stepped
  exact ⟨inOrder',both.2.trans grows⟩

/-- Double NAT without handover: the reply to the newest packet of a flow reaches,
    through the gateway and then the access point that forwarded the packet, the
    private address and port that sent it. -/
theorem reply_reaches_sender (cfg : Config AP) (owner : AP → IPv4 → Mac)
    (addresses : ∀ a b, (cfg.ap a).ifIP = (cfg.ap b).ifIP → a = b)
    (subnet : ∀ a, Packet.inSubnet cfg.gateway.subnet (cfg.ap a).ifIP = true) {before after : List (Event AP)}
    {net final : Net AP} (ran : Run.run (step cfg) (init cfg) before = some net)
    (later : Run.run (step cfg) net after = some final)
    (plain : Run.Steps (step cfg) (Plain cfg owner) (init cfg) (before ++ after))
    (few : ∀ d, ((requests (given cfg (init cfg) (before ++ after))).filter (fun flow => destination flow = d)).dedup.length <
      16384)
    {newer older : List Verdict} {v : Verdict} {arrival : Arrival AP} (sent : net.emitted = newer ++ v :: older)
    (isArrival : net.arrivals[v.packetId]? = some arrival)
    (newest : ∀ v' ∈ newer, ∀ arrival', net.arrivals[v'.packetId]? = some arrival' →
      (arrival'.hwAddr,arrival'.data.tuple) ≠ (arrival.hwAddr,arrival.data.tuple))
    {reply : Packet} (formed : reply.WellFormed) (answers : reply.tuple = v.payload.tuple.reversed) :
    ∃ back delivered, Gateway.handleDownlink cfg.gateway net.gateway reply = some back ∧
      (∀ b, back.tuple.destinationIP = (cfg.ap b).ifIP ↔ b = arrival.ap) ∧
      (final.ap arrival.ap).handleDownlink (cfg.ap arrival.ap) back = some delivered ∧
      delivered.tuple = arrival.data.tuple.reversed := by
  obtain ⟨early,late⟩ := Run.steps_append plain ran
  obtain ⟨inOrder,_⟩ := inOrder_run subnet early (inOrder_init cfg owner) ran
  obtain ⟨inOrder',grows⟩ := inOrder_run subnet late inOrder later
  have distinct' : DistinctPorts final.controller := by
    refine distinctPorts_of_few (represents_site ((Run.run_append _ _ before after).mpr ⟨net,ran,later⟩)) (fun d => ?_)
    rw [length_members_arrivals]
    exact (few d).le.trans (by omega)
  have distinct := distinct'.mono grows.flows
  obtain ⟨one,newPort,isOne,held,_,tuple⟩ := inOrder.forwarding.emitted v (by simp [sent])
  cases isOne.symm.trans isArrival
  have rewrites := (inOrder.gateway_reply distinct sent isArrival newest answers).packet
  obtain ⟨formed',same⟩ := Packet.refresh_keeps (formed.setDestinationAddress (cfg.ap arrival.ap).ifIP)
  rw [Packet.tuple_setDestinationAddress formed,answers,tuple] at same
  generalize (reply.setDestinationAddress (cfg.ap arrival.ap).ifIP).refresh = back at rewrites formed' same
  obtain ⟨delivered,handled,isDelivered⟩ :=
    inOrder'.accessPoint_reply distinct' (grows.ports _ _ _ held) formed' same
  refine ⟨back,delivered,rewrites,fun b => ?_,handled,isDelivered⟩
  rw [same]
  exact ⟨fun equal => (addresses _ _ equal).symm,fun equal => by rw [equal]⟩

/-- The steps that `Plain` allows, as a check. -/
def plainly (cfg : Config AP) (owner : AP → IPv4 → Mac) (net : Net AP) : Event AP → Bool
  | .uplink a hwAddr data => decide (data.WellFormed ∧ Packet.inSubnet (cfg.ap a).subnet data.tuple.sourceIP = true ∧
      hwAddr = owner a data.tuple.sourceIP)
  | .handle sw _ => match net.up sw with
    | .apRecPow _ _ _ :: _ => false
    | _ => true
  | _ => true

omit [DecidableEq AP] in
theorem plain_of_plainly {cfg : Config AP} {owner : AP → IPv4 → Mac} {net : Net AP} {e : Event AP}
    (passes : plainly cfg owner net e = true) : Plain cfg owner net e := by
  cases e with
  | uplink a hwAddr data =>
    simp only [plainly,decide_eq_true_eq] at passes
    exact passes
  | handle sw failing =>
    intro sta ap rssi rest waiting
    simp [plainly,waiting] at passes
  | _ => trivial

/-- The first packet of a flow waits for a port and leaves. -/
def firstPacket : List (Event Site) :=
  bothConnect ++ [.uplink .left visitor (Gateway.datagram visit),.thread .left 0,.handle Site.left.switch [],
    .deliver .left,.reinject .left 0,.gwForward 0]

theorem first_reply_reaches_visitor : ∃ net back delivered, Run.run (step site) (init site) firstPacket = some net ∧
    Gateway.handleDownlink site.gateway net.gateway
      (Gateway.datagram ⟨⟨93,184,216,34⟩,⟨203,0,113,1⟩,80,49152⟩) = some back ∧
    (net.ap .left).handleDownlink (site.ap .left) back = some delivered ∧ delivered.tuple = visit.reversed := by
  obtain ⟨net,ran,arrived,one,all⟩ : ∃ net, Run.run (step site) (init site) firstPacket = some net ∧
      net.arrivals = [⟨.left,visitor,Gateway.datagram visit⟩] ∧ net.emitted.length = 1 ∧
      ∀ v ∈ net.emitted, v.packetId = 0 ∧ v.payload.tuple = ⟨⟨203,0,113,1⟩,⟨93,184,216,34⟩,49152,80⟩ :=
    Run.exists_run (by decide +kernel)
  obtain ⟨v,sent⟩ := List.length_eq_one_iff.mp one
  obtain ⟨isFirst,tuple⟩ := all v (by simp [sent])
  have plain : Run.Steps (step site) (Plain site (fun _ _ => visitor)) (init site) (firstPacket ++ []) :=
    Run.steps_of_check (fun _ _ => plain_of_plainly) (by decide +kernel)
  have short : (requests (given site (init site) (firstPacket ++ []))).length ≤ 16383 := by decide +kernel
  obtain ⟨back,delivered,first,_,second,isDelivered⟩ := reply_reaches_sender site (fun _ _ => visitor)
    (by intro a b same; cases a <;> cases b <;> first | rfl | cases same) (by intro a; cases a <;> decide) ran
    (Run.run_nil net) plain (fun d => Nat.lt_succ_of_le (few_of_short short d))
    (show net.emitted = [] ++ v :: [] from sent) (show net.arrivals[v.packetId]? = some _ by rw [arrived,isFirst]; rfl)
    (by simp) (show (Gateway.datagram ⟨⟨93,184,216,34⟩,⟨203,0,113,1⟩,80,49152⟩).WellFormed by decide) (by rw [tuple]; decide)
  exact ⟨net,back,delivered,ran,first,second,isDelivered⟩

end Net
end Handover
