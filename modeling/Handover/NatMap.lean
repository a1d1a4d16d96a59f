import Handover.Gateway
import Handover.NatTable
import Handover.TableMap

/-!
The NAT tables of the access point and of the gateway as finite maps. Both allocate 255
buckets and choose one by the last octet of the destination address, which has 256
values: calls for an address that ends in 255 leave the table, all others implement the
map.
-/
namespace Handover
open Buckets Function

/-! ### The access point -/

/-- Used where ports are not translated. -/
def lookupNatMap (table : Buckets NATMap) (srcPort : UInt16) (dstAddr : IPv4) (dstPort : UInt16) : Option (Option NATMap) :=
  table.find dstAddr.o3.toNat
    (fun nMap => nMap.destinationIP = dstAddr ∧ nMap.sourcePort = srcPort ∧ nMap.destinationPort = dstPort)

namespace NatTable

/-- The calls on the table; `assign` is the assignment of `new_port` to the entry that a
    lookup has found. -/
inductive Call where
  | addEntry (tuple : FourTuple)
  | assign (tuple : FourTuple) (newPort : UInt16)
  | lookupPortMapQ0 (tuple : FourTuple)
  | lookupPortMapQ1 (newPort : UInt16) (dstAddr : IPv4) (dstPort : UInt16)
  | lookupNatMap (srcPort : UInt16) (dstAddr : IPv4) (dstPort : UInt16)

/-- The address whose bucket the call goes to. -/
def Call.dstAddr : Call → IPv4
  | .addEntry tuple => tuple.destinationIP
  | .assign tuple _ => tuple.destinationIP
  | .lookupPortMapQ0 tuple => tuple.destinationIP
  | .lookupPortMapQ1 _ dstAddr _ => dstAddr
  | .lookupNatMap _ dstAddr _ => dstAddr

/-- The table after a call, and what the call returns; `none` is the null pointer. -/
def call (table : Buckets NATMap) : Call → Option (Buckets NATMap × Option NATMap)
  | .addEntry tuple => (addEntry table tuple).bind (fun table => (lookupPortMapQ0 table tuple).map (table,·))
  | .assign tuple newPort => (lookupPortMapQ0 table tuple).bind (fun _ =>
      (table.update tuple.destinationIP.o3.toNat (fun nMap => nMap.toFourTuple = tuple)
        (fun nMap => { nMap with newPort := newPort })).map (·,none))
  | .lookupPortMapQ0 tuple => (lookupPortMapQ0 table tuple).map (table,·)
  | .lookupPortMapQ1 newPort dstAddr dstPort => (lookupPortMapQ1 table newPort dstAddr dstPort).map (table,·)
  | .lookupNatMap srcPort dstAddr dstPort => (lookupNatMap table srcPort dstAddr dstPort).map (table,·)

/-- A search in the map: what it returns is an entry that passes, and it returns one if
    there is one. -/
def Finds (ports : FourTuple → Option UInt16) (passes : NATMap → Prop) (found : Option NATMap) : Prop :=
  (∀ nMap, found = some nMap → passes nMap ∧ ports nMap.toFourTuple = some nMap.newPort) ∧
    (found = none → ∀ nMap : NATMap, ports nMap.toFourTuple = some nMap.newPort → ¬ passes nMap)

/-- What the calls do to a map from 4-tuples to ports. -/
inductive Answers (ports : FourTuple → Option UInt16) : Call → Option NATMap → (FourTuple → Option UInt16) → Prop where
  | addEntry (tuple : FourTuple) : Answers ports (.addEntry tuple) (some ⟨tuple,(ports tuple).getD 0⟩)
      (update ports tuple (some ((ports tuple).getD 0)))
  | assign (tuple : FourTuple) (newPort : UInt16) :
      Answers ports (.assign tuple newPort) none (update ports tuple ((ports tuple).map (fun _ => newPort)))
  | lookupPortMapQ0 (tuple : FourTuple) :
      Answers ports (.lookupPortMapQ0 tuple) ((ports tuple).map (fun newPort => ⟨tuple,newPort⟩)) ports
  | lookupPortMapQ1 {newPort : UInt16} {dstAddr : IPv4} {dstPort : UInt16} {found : Option NATMap}
      (finds : Finds ports (fun nMap => nMap.destinationIP = dstAddr ∧ nMap.newPort = newPort ∧
        nMap.destinationPort = dstPort) found) : Answers ports (.lookupPortMapQ1 newPort dstAddr dstPort) found ports
  | lookupNatMap {srcPort : UInt16} {dstAddr : IPv4} {dstPort : UInt16} {found : Option NATMap}
      (finds : Finds ports (fun nMap => nMap.destinationIP = dstAddr ∧ nMap.sourcePort = srcPort ∧
        nMap.destinationPort = dstPort) found) : Answers ports (.lookupNatMap srcPort dstAddr dstPort) found ports

/-- The entries of a map. -/
def entries (ports : FourTuple → Option UInt16) (tuple : FourTuple) : Option NATMap :=
  (ports tuple).map (fun newPort => ⟨tuple,newPort⟩)

/-- The table has one entry for every 4-tuple of the map and no others, each in its bucket. -/
abbrev Holds (ports : FourTuple → Option UInt16) (table : Buckets NATMap) : Prop :=
  Represents (fun tuple : FourTuple => tuple.destinationIP.o3.toNat) NATMap.toFourTuple 255 (entries ports) table

section
variable {ports : FourTuple → Option UInt16} {table : Buckets NATMap}

theorem entries_some {nMap : NATMap} : entries ports nMap.toFourTuple = some nMap ↔ ports nMap.toFourTuple = some nMap.newPort := by
  obtain ⟨tuple,newPort⟩ := nMap
  simp [entries]

theorem Holds.lookupPortMapQ0 (holds : Holds ports table) {tuple : FourTuple} (inside : tuple.destinationIP.o3.toNat < 255) :
    lookupPortMapQ0 table tuple = some (entries ports tuple) :=
  Represents.get_inside holds inside

theorem Holds.finds (holds : Holds ports table) (test : NATMap → Bool) {dstAddr : IPv4} (inside : dstAddr.o3.toNat < 255)
    (bucket : ∀ nMap, test nMap = true → nMap.destinationIP = dstAddr) :
    ∃ found, table.find dstAddr.o3.toNat test = some found ∧ Finds ports (fun nMap => test nMap = true) found := by
  obtain ⟨found,isFound,sound,complete⟩ := Represents.search holds test (k := ⟨dstAddr,dstAddr,0,0⟩) inside
    (fun nMap passes => by rw [bucket nMap passes])
  refine ⟨found,isFound,fun nMap is => ?_,fun isNone nMap isEntry passes => ?_⟩
  · exact ⟨(sound nMap is).1,entries_some.mp (sound nMap is).2⟩
  · exact Bool.false_ne_true ((complete isNone nMap (entries_some.mpr isEntry)).symm.trans passes)

theorem Holds.addEntry (holds : Holds ports table) {tuple : FourTuple} (inside : tuple.destinationIP.o3.toNat < 255) :
    ∃ table', addEntry table tuple = some table' ∧ Holds (update ports tuple (some ((ports tuple).getD 0))) table' :=
  Represents.insert holds 0 rfl inside

theorem Holds.assign (holds : Holds ports table) {tuple : FourTuple} (newPort : UInt16)
    (inside : tuple.destinationIP.o3.toNat < 255) :
    ∃ table', table.update tuple.destinationIP.o3.toNat (fun nMap => nMap.toFourTuple = tuple)
        (fun nMap => { nMap with newPort := newPort }) = some table' ∧
      Holds (update ports tuple ((ports tuple).map (fun _ => newPort))) table' :=
  Represents.assign holds (fun nMap => { nMap with newPort := newPort }) (fun _ => rfl) (fun _ => rfl) inside

theorem Holds.lookupPortMapQ1 (holds : Holds ports table) (newPort : UInt16) {dstAddr : IPv4} (dstPort : UInt16)
    (inside : dstAddr.o3.toNat < 255) :
    ∃ found, lookupPortMapQ1 table newPort dstAddr dstPort = some found ∧
      Finds ports (fun nMap => nMap.destinationIP = dstAddr ∧ nMap.newPort = newPort ∧ nMap.destinationPort = dstPort) found := by
  obtain ⟨found,isFound,finds⟩ := holds.finds
    (fun nMap => nMap.destinationIP = dstAddr ∧ nMap.newPort = newPort ∧ nMap.destinationPort = dstPort) inside
    (fun nMap passes => (of_decide_eq_true passes).1)
  simp only [decide_eq_true_eq] at finds
  exact ⟨found,isFound,finds⟩

theorem Holds.lookupNatMap (holds : Holds ports table) (srcPort : UInt16) {dstAddr : IPv4} (dstPort : UInt16)
    (inside : dstAddr.o3.toNat < 255) :
    ∃ found, lookupNatMap table srcPort dstAddr dstPort = some found ∧
      Finds ports (fun nMap => nMap.destinationIP = dstAddr ∧ nMap.sourcePort = srcPort ∧ nMap.destinationPort = dstPort) found := by
  obtain ⟨found,isFound,finds⟩ := holds.finds
    (fun nMap => nMap.destinationIP = dstAddr ∧ nMap.sourcePort = srcPort ∧ nMap.destinationPort = dstPort) inside
    (fun nMap passes => (of_decide_eq_true passes).1)
  simp only [decide_eq_true_eq] at finds
  exact ⟨found,isFound,finds⟩

/-- Inside the table a call answers what the map says. -/
theorem call_returns (ports : FourTuple → Option UInt16) (table : Buckets NATMap) (c : Call) (holds : Holds ports table)
    (inside : c.dstAddr.o3.toNat < 255) :
    ∃ table' result ports', call table c = some (table',result) ∧ Answers ports c result ports' ∧ Holds ports' table' := by
  cases c with
  | addEntry tuple =>
    obtain ⟨table',added,holds'⟩ := holds.addEntry inside
    refine ⟨table',_,_,?_,.addEntry tuple,holds'⟩
    rw [call,added,Option.bind_some,holds'.lookupPortMapQ0 inside,entries,update_self]
    rfl
  | assign tuple newPort =>
    obtain ⟨table',assigned,holds'⟩ := holds.assign newPort inside
    refine ⟨table',_,_,?_,.assign tuple newPort,holds'⟩
    rw [call,holds.lookupPortMapQ0 inside,Option.bind_some,assigned]
    rfl
  | lookupPortMapQ0 tuple =>
    refine ⟨table,_,_,?_,.lookupPortMapQ0 tuple,holds⟩
    rw [call,holds.lookupPortMapQ0 inside]
    rfl
  | lookupPortMapQ1 newPort dstAddr dstPort =>
    have inside : dstAddr.o3.toNat < 255 := inside
    obtain ⟨found,isFound,finds⟩ := holds.lookupPortMapQ1 newPort dstPort inside
    refine ⟨table,found,_,?_,.lookupPortMapQ1 finds,holds⟩
    rw [call,isFound]
    rfl
  | lookupNatMap srcPort dstAddr dstPort =>
    have inside : dstAddr.o3.toNat < 255 := inside
    obtain ⟨found,isFound,finds⟩ := holds.lookupNatMap srcPort dstPort inside
    refine ⟨table,found,_,?_,.lookupNatMap finds,holds⟩
    rw [call,isFound]
    rfl

/-- Outside of it every call faults. -/
theorem call_faults (ports : FourTuple → Option UInt16) (table : Buckets NATMap) (c : Call) (holds : Holds ports table)
    (outside : ¬ c.dstAddr.o3.toNat < 255) : call table c = none := by
  have absent : table.bucket c.dstAddr.o3.toNat = none :=
    Represents.bucket_outside holds (k := ⟨c.dstAddr,c.dstAddr,0,0⟩) outside
  cases c <;>
    simp_all [call,Call.dstAddr,Handover.addEntry,Handover.lookupPortMapQ0,Handover.lookupPortMapQ1,Handover.lookupNatMap,find]

theorem refines_calls_iff (calls : List Call) :
    Refines call Answers Holds (fun _ => none) (.empty 255) calls ↔ ∀ c ∈ calls, c.dstAddr.o3.toNat < 255 :=
  refines_iff call_returns call_faults (represents_empty 255) calls

end
end NatTable

/-! ### The gateway -/

namespace Gateway

inductive Call where
  | addEntry (k : GatewayKey)
  | assign (k : GatewayKey) (srcAddr : IPv4)
  | lookupNatMap (k : GatewayKey)

/-- What the call is about. -/
def Call.key : Call → GatewayKey
  | .addEntry k => k
  | .assign k _ => k
  | .lookupNatMap k => k

/-- As for the access point; `assign` is the assignment of `src_addr`. -/
def call (table : Buckets GatewayMap) : Call → Option (Buckets GatewayMap × Option GatewayMap)
  | .addEntry k => (addEntry table k).bind (fun table => (lookupNatMap table k).map (table,·))
  | .assign k srcAddr => (lookupNatMap table k).bind (fun _ =>
      (table.update k.dstAddr.o3.toNat (fun nMap => nMap.key = k) (fun nMap => { nMap with srcAddr := srcAddr })).map (·,none))
  | .lookupNatMap k => (lookupNatMap table k).map (table,·)

/-- The entry of a key with the source. -/
def entry (k : GatewayKey) (srcAddr : IPv4) : GatewayMap := ⟨srcAddr,k.dstAddr,k.srcPort,k.dstPort⟩

/-- What the calls do to a map from keys to source addresses; a new entry has none yet. -/
inductive Answers (sources : GatewayKey → Option IPv4) : Call → Option GatewayMap → (GatewayKey → Option IPv4) → Prop where
  | addEntry (k : GatewayKey) : Answers sources (.addEntry k) (some (entry k ((sources k).getD ⟨0,0,0,0⟩)))
      (update sources k (some ((sources k).getD ⟨0,0,0,0⟩)))
  | assign (k : GatewayKey) (srcAddr : IPv4) :
      Answers sources (.assign k srcAddr) none (update sources k ((sources k).map (fun _ => srcAddr)))
  | lookupNatMap (k : GatewayKey) : Answers sources (.lookupNatMap k) ((sources k).map (entry k)) sources

/-- The table has one entry for every key of the map and no others, each in its bucket. -/
abbrev Holds (sources : GatewayKey → Option IPv4) (table : Buckets GatewayMap) : Prop :=
  Represents (fun k : GatewayKey => k.dstAddr.o3.toNat) GatewayMap.key 255 (fun k => (sources k).map (entry k)) table

section
variable {sources : GatewayKey → Option IPv4} {table : Buckets GatewayMap}

theorem Holds.lookupNatMap (holds : Holds sources table) {k : GatewayKey} (inside : k.dstAddr.o3.toNat < 255) :
    lookupNatMap table k = some ((sources k).map (entry k)) :=
  Represents.get_inside holds inside

theorem Holds.addEntry (holds : Holds sources table) {k : GatewayKey} (inside : k.dstAddr.o3.toNat < 255) :
    ∃ table', addEntry table k = some table' ∧ Holds (update sources k (some ((sources k).getD ⟨0,0,0,0⟩))) table' :=
  Represents.insert holds ⟨0,0,0,0⟩ rfl inside

theorem Holds.assign (holds : Holds sources table) {k : GatewayKey} (srcAddr : IPv4) (inside : k.dstAddr.o3.toNat < 255) :
    ∃ table', table.update k.dstAddr.o3.toNat (fun nMap => nMap.key = k) (fun nMap => { nMap with srcAddr := srcAddr }) =
        some table' ∧ Holds (update sources k ((sources k).map (fun _ => srcAddr))) table' :=
  Represents.assign holds (fun nMap => { nMap with srcAddr := srcAddr }) (fun _ => rfl) (fun _ => rfl) inside

theorem call_returns (sources : GatewayKey → Option IPv4) (table : Buckets GatewayMap) (c : Call)
    (holds : Holds sources table) (inside : c.key.dstAddr.o3.toNat < 255) :
    ∃ table' result sources', call table c = some (table',result) ∧ Answers sources c result sources' ∧
      Holds sources' table' := by
  cases c with
  | addEntry k =>
    have inside : k.dstAddr.o3.toNat < 255 := inside
    obtain ⟨table',added,holds'⟩ := holds.addEntry inside
    refine ⟨table',_,_,?_,.addEntry k,holds'⟩
    rw [call,added,Option.bind_some,holds'.lookupNatMap inside,update_self]
    rfl
  | assign k srcAddr =>
    have inside : k.dstAddr.o3.toNat < 255 := inside
    obtain ⟨table',assigned,holds'⟩ := holds.assign srcAddr inside
    refine ⟨table',_,_,?_,.assign k srcAddr,holds'⟩
    rw [call,holds.lookupNatMap inside,Option.bind_some,assigned]
    rfl
  | lookupNatMap k =>
    have inside : k.dstAddr.o3.toNat < 255 := inside
    refine ⟨table,_,_,?_,.lookupNatMap k,holds⟩
    rw [call,holds.lookupNatMap inside]
    rfl

theorem call_faults (sources : GatewayKey → Option IPv4) (table : Buckets GatewayMap) (c : Call)
    (holds : Holds sources table) (outside : ¬ c.key.dstAddr.o3.toNat < 255) : call table c = none := by
  have absent : lookupNatMap table c.key = none := Represents.get_outside holds outside
  cases c <;> simp_all [call,Call.key,addEntry]

theorem refines_calls_iff (calls : List Call) :
    Refines call Answers Holds (fun _ => none) init calls ↔ ∀ c ∈ calls, c.key.dstAddr.o3.toNat < 255 :=
  refines_iff call_returns call_faults (represents_empty 255) calls

end
end Gateway

/-- Both NAT tables implement their maps exactly as long as no address ends in 255. -/
theorem natTables_refine_iff (calls : List NatTable.Call) (gatewayCalls : List Gateway.Call) :
    (Refines NatTable.call NatTable.Answers NatTable.Holds (fun _ => none) (.empty 255) calls ↔
      ∀ c ∈ calls, c.dstAddr.o3 ≠ 255) ∧
    (Refines Gateway.call Gateway.Answers Gateway.Holds (fun _ => none) Gateway.init gatewayCalls ↔
      ∀ c ∈ gatewayCalls, c.key.dstAddr.o3 ≠ 255) := by
  have last : ∀ octet : UInt8, octet.toNat < 255 ↔ octet ≠ 255 := by
    intro octet
    have := octet.toNat_lt
    rw [Ne,← UInt8.toNat_inj]
    show octet.toNat < 255 ↔ ¬ octet.toNat = 255
    omega
  constructor
  · rw [NatTable.refines_calls_iff]
    simp only [last]
  · rw [Gateway.refines_calls_iff]
    simp only [last]

/-- A flow to an address that ends in 255. -/
theorem last_octet_outside : NatTable.call (.empty 255) (.lookupPortMapQ0 ⟨⟨192,168,5,2⟩,⟨203,0,113,255⟩,5000,443⟩) = none ∧
    NatTable.call (.empty 255) (.addEntry ⟨⟨192,168,5,2⟩,⟨203,0,113,255⟩,5000,443⟩) = none ∧
    Gateway.call Gateway.init (.lookupNatMap ⟨49152,⟨203,0,113,255⟩,443⟩) = none ∧
    Gateway.call Gateway.init (.addEntry ⟨49152,⟨203,0,113,255⟩,443⟩) = none := by
  decide

end Handover
