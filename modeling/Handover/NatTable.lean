import Handover.AccessPoint
import Handover.Ports

/-!
The NAT table of an access point as a finite map from 4-tuples to ports, and what
one `WLAN_NAT_ADD` does to the flows that the table already serves. The
controller files a flow under the station and its 4-tuple, the access point under
the 4-tuple alone, and every access point leases the same private addresses: two
stations at one access point may own one 4-tuple.
-/
namespace Handover.NatTable
open Controller Allocation Run Ports

/-- Every entry is in the bucket of its destination, and the only one of its
    4-tuple. -/
abbrev Kept (table : Buckets NATMap) : Prop :=
  table.Kept (fun tuple : FourTuple => tuple.destinationIP.o3.toNat) NATMap.toFourTuple

/-- The port that uplink packets of the 4-tuple get. -/
def portOf (table : Buckets NATMap) (tuple : FourTuple) : Option UInt16 :=
  (lookupPortMapQ0 table tuple).join.map (·.newPort)

/-- The private endpoint that downlink packets to the port are mapped to. -/
def endpointOf (table : Buckets NATMap) (newPort : UInt16) (d : PortPair) : Option (IPv4 × UInt16) :=
  (lookupPortMapQ1 table newPort d.destinationIP d.destinationPort).join.map (fun nMap => (nMap.sourceIP,nMap.sourcePort))

/-! ### One message -/

theorem natAdd_eq_put (table : Buckets NATMap) (tuple : FourTuple) (newPort : UInt16) :
    natAdd table tuple newPort = table.put (fun tuple : FourTuple => tuple.destinationIP.o3.toNat) NATMap.toFourTuple
      tuple ⟨tuple,0⟩ (fun nMap => { nMap with newPort := newPort }) := by
  unfold natAdd Buckets.put
  show (lookupPortMapQ0 table tuple).bind _ = (lookupPortMapQ0 table tuple).bind _
  cases found : lookupPortMapQ0 table tuple with
  | none => rfl
  | some nMap => cases nMap <;> simp [addEntry,found]

theorem kept_empty : Kept (Buckets.empty 255) := Buckets.kept_empty 255

theorem Kept.natAdd {table table' : Buckets NATMap} (kept : Kept table) {tuple : FourTuple} {newPort : UInt16}
    (added : natAdd table tuple newPort = some table') : Kept table' := by
  rw [natAdd_eq_put] at added
  exact Buckets.Kept.put kept (by rfl) (by intro nMap; rfl) added

/-- The message sets the port of its own 4-tuple and of no other. -/
theorem portOf_natAdd {table table' : Buckets NATMap} {tuple : FourTuple} {newPort : UInt16}
    (added : natAdd table tuple newPort = some table') (tuple' : FourTuple) :
    portOf table' tuple' = if tuple' = tuple then some newPort else portOf table tuple' := by
  rw [natAdd_eq_put] at added
  have found := Buckets.get_put (by rfl) (by intro nMap; rfl) added tuple'
  unfold portOf
  rw [show lookupPortMapQ0 table' tuple' = _ from found]
  by_cases same : tuple' = tuple
  · simp [same]
  · simp only [same,if_false]
    rfl

/-- A new entry has the port zero. -/
theorem portOf_addEntry {table table' : Buckets NATMap} {tuple : FourTuple} (absent : portOf table tuple = none)
    (added : addEntry table tuple = some table') (tuple' : FourTuple) :
    portOf table' tuple' = if tuple' = tuple then some 0 else portOf table tuple' := by
  obtain ⟨nMap,found,pushed⟩ := Option.bind_eq_some_iff.mp added
  cases nMap with
  | some nMap => simp [portOf,found] at absent
  | none =>
    have got := Buckets.get_push (fun tuple : FourTuple => tuple.destinationIP.o3.toNat) NATMap.toFourTuple (by rfl) pushed
      tuple'
    unfold portOf
    rw [show lookupPortMapQ0 table' tuple' = _ from got]
    by_cases same : tuple' = tuple
    · simp [same]
    · simp only [same,if_false]
      rfl

theorem portOf_assign {table table' : Buckets NATMap} {tuple : FourTuple} {newPort : UInt16}
    (assigned : table.update tuple.destinationIP.o3.toNat (fun nMap => nMap.toFourTuple = tuple)
      (fun nMap => { nMap with newPort := newPort }) = some table') (tuple' : FourTuple) :
    portOf table' tuple' = if tuple' = tuple then (portOf table tuple).map (fun _ => newPort) else portOf table tuple' := by
  have got := Buckets.get_update (fun tuple : FourTuple => tuple.destinationIP.o3.toNat) NATMap.toFourTuple
    (by intro nMap; rfl) assigned tuple'
  unfold portOf
  rw [show lookupPortMapQ0 table' tuple' = _ from got]
  by_cases same : tuple' = tuple
  · simp only [same,if_true]
    show ((lookupPortMapQ0 table tuple).map _).join.map _ = _
    cases lookupPortMapQ0 table tuple with
    | none => rfl
    | some nMap => cases nMap <;> rfl
  · simp only [same,if_false]
    rfl

theorem portOf_empty (tuple : FourTuple) : portOf (Buckets.empty 255) tuple = none := by
  have found := Buckets.get_empty (fun tuple : FourTuple => tuple.destinationIP.o3.toNat) NATMap.toFourTuple 255 tuple
  unfold portOf
  rw [show lookupPortMapQ0 (Buckets.empty 255) tuple = _ from found]
  split <;> rfl

/-- A downlink packet is mapped to an endpoint exactly when an entry with that
    endpoint holds the port, and the first such entry decides. -/
theorem endpointOf_some {table : Buckets NATMap} (kept : Kept table) {newPort : UInt16} {d : PortPair}
    {endpoint : IPv4 × UInt16} (found : endpointOf table newPort d = some endpoint) :
    portOf table ⟨endpoint.1,d.destinationIP,endpoint.2,d.destinationPort⟩ = some newPort := by
  obtain ⟨nMap,isFound,rfl⟩ := Option.map_eq_some_iff.mp found
  obtain ⟨chain,at_d,first⟩ := Option.map_eq_some_iff.mp (Option.join_eq_some_iff.mp isFound)
  have passes := List.find?_some first
  simp only [decide_eq_true_eq] at passes
  obtain ⟨sameIP,samePort,sameDestination⟩ := passes
  have itself : lookupPortMapQ0 table nMap.toFourTuple = some (some nMap) :=
    Buckets.Kept.get_eq kept at_d (List.mem_of_find?_eq_some first)
  have tuple : (⟨nMap.sourceIP,d.destinationIP,nMap.sourcePort,d.destinationPort⟩ : FourTuple) = nMap.toFourTuple := by
    rw [← sameIP,← sameDestination]
  rw [tuple,portOf,itself]
  simp [samePort]

theorem endpointOf_isSome {table : Buckets NATMap} {newPort : UInt16} {tuple : FourTuple}
    (held : portOf table tuple = some newPort) : ∃ endpoint, endpointOf table newPort tuple.destination = some endpoint := by
  obtain ⟨nMap,found,rfl⟩ := Option.map_eq_some_iff.mp held
  obtain ⟨chain,at_d,first⟩ := Option.map_eq_some_iff.mp (Option.join_eq_some_iff.mp found)
  have isTuple : nMap.toFourTuple = tuple := by simpa using List.find?_some first
  cases sought : chain.find? (fun other => other.destinationIP = tuple.destinationIP ∧ other.newPort = nMap.newPort ∧
      other.destinationPort = tuple.destinationPort) with
  | none =>
    rw [List.find?_eq_none] at sought
    have hidden := sought nMap (List.mem_of_find?_eq_some first)
    simp [← isTuple] at hidden
  | some other =>
    have found' : lookupPortMapQ1 table nMap.newPort tuple.destinationIP tuple.destinationPort = some (some other) :=
      Option.map_eq_some_iff.mpr ⟨chain,at_d,sought⟩
    exact ⟨(other.sourceIP,other.sourcePort),by simp [endpointOf,FourTuple.destination,found']⟩

/-! ### Messages of one controller

The messages are those that a controller in port-translation mode has written to
access points, each for a station and its flow, in any order. -/

/-- The table is kept, holds nothing but flows of the list, and has a port for
    every 4-tuple of the list. -/
structure Serves (flows : List (Mac × NATMap)) (table : Buckets NATMap) : Prop where
  kept : Kept table
  sound : ∀ tuple newPort, portOf table tuple = some newPort → ∃ sta, (sta,(⟨tuple,newPort⟩ : NATMap)) ∈ flows
  complete : ∀ flow ∈ flows, portOf table flow.2.toFourTuple ≠ none

theorem Serves.natAdd {flows : List (Mac × NATMap)} {table table' : Buckets NATMap} (serves : Serves flows table)
    {flow : Mac × NATMap} (added : natAdd table flow.2.toFourTuple flow.2.newPort = some table') :
    Serves (flows ++ [flow]) table' where
  kept := serves.kept.natAdd added
  sound := by
    intro tuple newPort held
    rw [portOf_natAdd added] at held
    by_cases same : tuple = flow.2.toFourTuple
    · simp only [same,if_true,Option.some.injEq] at held
      exact ⟨flow.1,by simp [same,← held]⟩
    · simp only [same,if_false] at held
      obtain ⟨sta,member⟩ := serves.sound tuple newPort held
      exact ⟨sta,List.mem_append_left _ member⟩
  complete := by
    intro other member
    rw [portOf_natAdd added]
    by_cases same : other.2.toFourTuple = flow.2.toFourTuple
    · simp [same]
    · rw [if_neg same]
      rcases List.mem_append.mp member with old | new
      · exact serves.complete other old
      · rw [List.mem_singleton] at new
        exact absurd (by rw [new]) same

/-- Where ports are distinct, a port leads back to the flow that owns it, as long
    as the table holds that port for the flow. -/
theorem endpointOf_eq {c : Controller} (distinct : DistinctPorts c) {table : Buckets NATMap} (kept : Kept table)
    (sound : ∀ tuple newPort, portOf table tuple = some newPort → ∃ sta, (⟨tuple,newPort⟩ : NATMap) ∈ c.flows sta)
    {sta : Mac} {entry : NATMap} (flow : entry ∈ c.flows sta) :
    endpointOf table entry.newPort entry.destination =
      if portOf table entry.toFourTuple = some entry.newPort then some (entry.sourceIP,entry.sourcePort) else none := by
  have owner : ∀ endpoint, endpointOf table entry.newPort entry.destination = some endpoint →
      endpoint = (entry.sourceIP,entry.sourcePort) ∧ portOf table entry.toFourTuple = some entry.newPort := by
    intro endpoint found
    have held := endpointOf_some kept found
    obtain ⟨sta',recorded⟩ := sound _ _ held
    by_cases same : (sta',(⟨endpoint.1,entry.destinationIP,endpoint.2,entry.destinationPort⟩ : FourTuple)) =
        (sta,entry.toFourTuple)
    · have tuple := congrArg Prod.snd same
      simp only at tuple
      refine ⟨?_,tuple ▸ held⟩
      rw [← tuple]
    · exact absurd rfl (distinct sta' sta
        ⟨⟨endpoint.1,entry.destinationIP,endpoint.2,entry.destinationPort⟩,entry.newPort⟩ entry
        recorded flow rfl same)
  by_cases held : portOf table entry.toFourTuple = some entry.newPort
  · obtain ⟨endpoint,found⟩ := endpointOf_isSome held
    rw [if_pos held,show entry.destination = entry.toFourTuple.destination from rfl,found,
      (owner endpoint found).1]
  · rw [if_neg held]
    cases found : endpointOf table entry.newPort entry.destination with
    | none => rfl
    | some endpoint => exact absurd (owner endpoint found).2 held

def homeSwitch : IOFSwitch := ⟨0,⟨10,0,0,1⟩⟩
def awaySwitch : IOFSwitch := ⟨1,⟨10,0,0,2⟩⟩
def homeMac : Mac := ⟨4,0,0,0,0,1⟩
def awayMac : Mac := ⟨4,0,0,0,0,2⟩
def resident : Mac := ⟨2,0,0,0,0,1⟩
def visitor : Mac := ⟨2,0,0,0,0,2⟩

/-- The 4-tuple of both stations: each access point has leased the same private
    address. -/
def sharedTuple : FourTuple := ⟨⟨192,168,5,2⟩,⟨93,184,216,34⟩,5000,80⟩

/-- A station associates and asks for the port of the shared 4-tuple. -/
def settles (sw : IOFSwitch) (sta ap : Mac) : List Event :=
  [.receive sw (.probe sta ap) [],.receive sw (.authReq sta ap 0) [],
    .receive sw (.assocReq sta ap ⟨1,0,0,Vector.replicate 32 0,0,0⟩) [],.receive sw (.portTranslation sta sharedTuple) []]

/-- Both stations settle, each at its access point, and the visitor is handed
    over to the access point of the resident. -/
def visits : List Event :=
  settles homeSwitch resident homeMac ++ settles awaySwitch visitor awayMac ++
    [.receive homeSwitch (.recPow visitor homeMac 100) [],.receive awaySwitch (.apRecPow visitor awayMac 50) []]

end Handover.NatTable
