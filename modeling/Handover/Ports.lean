import Handover.Allocation
import Handover.ControllerSpec
import Handover.Run

/-!
The ports that the controller hands out to flows. Whole runs of the controller
refine the allocator of `Handover.Allocation`, which numbers the flows to each
destination from 49152 on: `Represents` ties the tables to it. The counter is
16 bits wide and is never checked, so ports stay in the dynamic range exactly as
long as no destination has more than 16384 flows.
-/
namespace Handover.Ports
open Controller Allocation Run

/-- A flow as the controller files it: the station and the 4-tuple. -/
abbrev Flow := Mac × FourTuple

def destination (flow : Flow) : PortPair := flow.2.destination

/-- The port of a flow, once the flows have arrived in the given order. -/
def port (order : List Flow) (flow : Flow) : UInt16 := UInt16.ofNat (49152 + rank destination order flow)

/-- The flow that an event asks a port for. -/
def request : Event → Option Flow
  | .receive _ (.portTranslation sta tuple) _ => some (sta,tuple)
  | _ => none

/-- The flows asked for in a run, with repetitions. -/
def requests (events : List Event) : List Flow := events.filterMap request

/-- Not a `WLAN_NAT_UPDATE`: access points in port-translation mode send none. -/
def Translating : Event → Prop
  | .receive _ (.natUpdate _ _) _ => False
  | _ => True

/-- The controller and everything that it has written. -/
structure Trace where
  controller : Controller
  log : List Write

def Trace.start : Trace := ⟨.init,[]⟩

def Trace.step (t : Trace) (e : Event) : Option Trace :=
  some ⟨(t.controller.step e).1,t.log ++ (t.controller.step e).2⟩

/-- The tables record exactly the flows that arrived, each with its port, and
    count them for every destination. -/
structure Represents (c : Controller) (order : List Flow) : Prop where
  distinct : order.Nodup
  recorded : ∀ sta (entry : NATMap), entry ∈ c.flows sta ↔
    (sta,entry.toFourTuple) ∈ order ∧ entry.newPort = port order (sta,entry.toFourTuple)
  once : ∀ sta, ((c.flows sta).map (·.toFourTuple)).Nodup
  counter : ∀ d, c.portMap.lookup d = if (members destination order d).length = 0 then none
    else some (UInt16.ofNat (49151 + (members destination order d).length))

theorem represents_init : Represents .init [] where
  distinct := List.nodup_nil
  recorded := by
    intro sta entry
    constructor
    · intro inside; simp [flows,init] at inside
    · intro inside; simp at inside
  once := by intro sta; simp [flows,init]
  counter := by intro d; simp [init,members]

theorem represents_congr {c other : Controller} {order : List Flow} (same : Represents c order)
    (natTable : other.natTable = c.natTable) (portMap : other.portMap = c.portMap) : Represents other order where
  distinct := same.distinct
  recorded := by simpa only [flows,natTable] using same.recorded
  once := by simpa only [flows,natTable] using same.once
  counter := by simpa only [portMap] using same.counter

theorem nextPort_eq {c : Controller} {order : List Flow} (represents : Represents c order) (d : PortPair) :
    c.nextPort d = UInt16.ofNat (49152 + (members destination order d).length) := by
  unfold nextPort
  rw [represents.counter d]
  by_cases none : (members destination order d).length = 0
  · simp only [none,if_true,Option.getD_none]
    rfl
  · simp only [none,if_false,Option.getD_some]
    apply UInt16.toNat_inj.mp
    simp only [UInt16.toNat_add,UInt16.toNat_ofNat',UInt16.reduceToNat]
    omega

/-- A flow is recorded exactly when it has arrived. -/
theorem find_none_iff {c : Controller} {order : List Flow} (represents : Represents c order) (sta : Mac)
    (tuple : FourTuple) :
    (c.flows sta).find? (fun entry => entry.toFourTuple = tuple) = none ↔ (sta,tuple) ∉ order := by
  simp only [List.find?_eq_none,decide_eq_true_eq]
  constructor
  · intro none inside
    exact none ⟨tuple,port order (sta,tuple)⟩ ((represents.recorded sta _).mpr ⟨inside,rfl⟩) rfl
  · rintro absent entry inside rfl
    exact absent ((represents.recorded sta entry).mp inside).1

/-- A request for a new flow is recorded behind the others. -/
theorem represents_new {c : Controller} {order : List Flow} (represents : Represents c order) {sta : Mac}
    {tuple : FourTuple} (absent : (sta,tuple) ∉ order) :
    Represents (c.record sta tuple) (order ++ [(sta,tuple)]) := by
  have newPort : c.nextPort tuple.destination = port (order ++ [(sta,tuple)]) (sta,tuple) := by
    rw [nextPort_eq represents,port,rank_append_new absent]
    rfl
  have oldPort : ∀ flow ∈ order, port (order ++ [(sta,tuple)]) flow = port order flow := by
    intro flow inside
    rw [port,rank_append_old inside,port]
  refine ⟨?_,?_,?_,?_⟩
  · simpa [arrive,absent] using nodup_arrive represents.distinct (sta,tuple)
  · intro sta' entry
    rw [flows_record]
    by_cases same : sta' = sta
    · subst same
      simp only [if_true,List.mem_append,List.mem_singleton]
      constructor
      · rintro (old | rfl)
        · obtain ⟨inside,isPort⟩ := (represents.recorded sta' entry).mp old
          exact ⟨.inl inside,by rw [oldPort _ inside,isPort]⟩
        · exact ⟨.inr rfl,newPort⟩
      · rintro ⟨inside | isNew,isPort⟩
        · exact .inl ((represents.recorded sta' entry).mpr ⟨inside,by rw [isPort,oldPort _ inside]⟩)
        · right
          cases entry
          cases isNew
          rw [newPort,← isPort]
    · have other : (sta',entry.toFourTuple) ≠ (sta,tuple) := fun equal => same (congrArg Prod.fst equal)
      simp only [same,if_false,List.mem_append,List.mem_singleton,other,or_false]
      rw [represents.recorded sta' entry]
      exact and_congr_right (fun inside => by rw [oldPort _ inside])
  · intro sta'
    rw [flows_record]
    by_cases same : sta' = sta
    · subst same
      have fresh : tuple ∉ (c.flows sta').map (·.toFourTuple) := by
        rw [List.mem_map]
        rintro ⟨entry,inside,rfl⟩
        exact absent ((represents.recorded sta' entry).mp inside).1
      simp only [if_true,List.map_append,List.map_cons,List.map_nil]
      rw [List.nodup_append]
      refine ⟨represents.once sta',by simp,?_⟩
      intro one inside two isNew equal
      rw [List.mem_singleton] at isNew
      exact fresh (isNew ▸ equal ▸ inside)
    · simp only [same,if_false]
      exact represents.once sta'
  · intro d
    rw [portMap_record]
    by_cases same : d = tuple.destination
    · subst same
      have grown := members_append_same destination order (sta,tuple)
      simp only [destination] at grown
      rw [if_pos rfl,nextPort_eq represents]
      simp only [grown,List.length_append,List.length_singleton,Nat.add_eq_zero_iff,Nat.succ_ne_self,and_false,if_false]
      congr 2
      omega
    · have other : destination (sta,tuple) ≠ d := fun equal => same equal.symm
      rw [if_neg same,members_append_other order other]
      exact represents.counter d

theorem request_eq_some {e : Event} {flow : Flow} (asks : request e = some flow) :
    ∃ sw failing, e = .receive sw (.portTranslation flow.1 flow.2) failing := by
  unfold request at asks
  split at asks
  · cases asks
    exact ⟨_,_,rfl⟩
  · cases asks

/-- One event of a translating run. -/
theorem represents_step {c : Controller} {order : List Flow} (represents : Represents c order) {e : Event}
    (translating : Translating e) :
    Represents (c.step e).1 (((request e).map (arrive order)).getD order) := by
  have noUpdate : ∀ sw sta tuple failing, e ≠ .receive sw (.natUpdate sta tuple) failing := by
    rintro sw sta tuple failing rfl
    exact translating
  by_cases asks : ∃ sw sta tuple failing, e = .receive sw (.portTranslation sta tuple) failing
  · obtain ⟨sw,sta,tuple,failing,rfl⟩ := asks
    show Represents (c.handlePortTranslation sw sta tuple failing).1 (arrive order (sta,tuple))
    by_cases inside : (sta,tuple) ∈ order
    · have known := mt (find_none_iff represents sta tuple).mp (not_not.mpr inside)
      obtain ⟨entry,found⟩ := Option.ne_none_iff_exists'.mp known
      rw [handlePortTranslation_known found,arrive,if_pos inside]
      exact represents
    · rw [handlePortTranslation_new ((find_none_iff represents sta tuple).mpr inside),arrive,if_neg inside]
      exact represents_new represents inside
  · push Not at asks
    have noRequest : request e = none := by
      cases isRequest : request e with
      | none => rfl
      | some flow =>
        obtain ⟨sw,failing,isEvent⟩ := request_eq_some isRequest
        exact absurd isEvent (asks sw flow.1 flow.2 failing)
    obtain ⟨natTable,portMap⟩ := (c.does_step e).flows_frame noUpdate asks
    rw [noRequest]
    exact represents_congr represents natTable portMap

/-- The controller refines the allocator along every translating run. -/
theorem represents_run {t final : Trace} {order : List Flow} (represents : Represents t.controller order)
    {events : List Event} (translating : ∀ e ∈ events, Translating e) (ran : run Trace.step t events = some final) :
    Represents final.controller ((requests events).foldl arrive order) := by
  induction events generalizing t order with
  | nil =>
    simp only [run_nil,Option.some.injEq] at ran
    exact ran ▸ represents
  | cons e rest ih =>
    obtain ⟨next,stepped,onward⟩ := (run_cons t final e rest).mp ran
    simp only [Trace.step,Option.some.injEq] at stepped
    subst stepped
    have one := represents_step represents (translating e (by simp))
    have later := ih one (fun e' inside => translating e' (by simp [inside])) onward
    cases asks : request e with
    | none => simpa [requests,asks] using later
    | some flow => simpa [requests,asks] using later

theorem represents_arrivals {final : Trace} {events : List Event} (translating : ∀ e ∈ events, Translating e)
    (ran : run Trace.step .start events = some final) :
    Represents final.controller (arrivals (requests events)) :=
  represents_run represents_init translating ran

/-! ### Distinct ports in the dynamic range -/

/-- Distinct flows to one destination have distinct ports. -/
def DistinctPorts (c : Controller) : Prop :=
  ∀ sta sta' (entry entry' : NATMap), entry ∈ c.flows sta → entry' ∈ c.flows sta' →
    entry.destination = entry'.destination → (sta,entry.toFourTuple) ≠ (sta',entry'.toFourTuple) →
    entry.newPort ≠ entry'.newPort

theorem DistinctPorts.mono {c c' : Controller} (distinct : DistinctPorts c') (grows : ∀ sta, c.flows sta ⊆ c'.flows sta) :
    DistinctPorts c :=
  fun sta sta' entry entry' recorded recorded' => distinct sta sta' entry entry' (grows sta recorded) (grows sta' recorded')

/-- Every recorded port, as an unsigned number, is a dynamic one. -/
def DynamicPorts (c : Controller) : Prop :=
  ∀ sta (entry : NATMap), entry ∈ c.flows sta → 49152 ≤ entry.newPort.toNat ∧ entry.newPort.toNat ≤ 65535

theorem port_toNat (order : List Flow) (flow : Flow) :
    (port order flow).toNat = (49152 + rank destination order flow) % 65536 := by
  simp [port,UInt16.toNat_ofNat']

/-- Up to 65536 flows to a destination the wrapping counter does not come back. -/
theorem distinctPorts_of_few {c : Controller} {order : List Flow} (represents : Represents c order)
    (few : ∀ d, (members destination order d).length ≤ 65536) : DistinctPorts c := by
  intro sta sta' entry entry' recorded recorded' sameDestination different samePort
  obtain ⟨inside,isPort⟩ := (represents.recorded sta entry).mp recorded
  obtain ⟨inside',isPort'⟩ := (represents.recorded sta' entry').mp recorded'
  have sameClass : destination (sta,entry.toFourTuple) = destination (sta',entry'.toFourTuple) := sameDestination
  have equal : port order (sta,entry.toFourTuple) = port order (sta',entry'.toFourTuple) := by
    rw [← isPort,← isPort',samePort]
  have numbers := congrArg UInt16.toNat equal
  rw [port_toNat,port_toNat] at numbers
  have low := rank_lt destination inside
  have low' := rank_lt destination inside'
  have bound := few (destination (sta,entry.toFourTuple))
  rw [← sameClass] at low'
  refine different (rank_injective inside sameClass ?_)
  omega

/-- The 16385th flow to a destination leaves the dynamic range. -/
theorem dynamicPorts_iff {c : Controller} {order : List Flow} (represents : Represents c order) :
    DynamicPorts c ↔ ∀ d, (members destination order d).length ≤ 16384 := by
  constructor
  · intro dynamic d
    by_contra many
    obtain ⟨⟨sta,tuple⟩,inside,_,isRank⟩ :=
      exists_rank destination represents.distinct (show 16384 < (members destination order d).length by omega)
    have recorded : (⟨tuple,port order (sta,tuple)⟩ : NATMap) ∈ c.flows sta :=
      (represents.recorded sta _).mpr ⟨inside,rfl⟩
    have range := dynamic sta _ recorded
    simp only [port_toNat,isRank] at range
    omega
  · intro few sta entry recorded
    obtain ⟨inside,isPort⟩ := (represents.recorded sta entry).mp recorded
    have low := rank_lt destination inside
    have bound := few (destination (sta,entry.toFourTuple))
    rw [isPort,port_toNat]
    omega

/-- After any translating run, ports are distinct and dynamic exactly when no
    destination was asked for by more than 16384 flows. -/
theorem ports_distinct_dynamic_iff (events : List Event) (final : Trace) (translating : ∀ e ∈ events, Translating e)
    (ran : run Trace.step .start events = some final) :
    DistinctPorts final.controller ∧ DynamicPorts final.controller ↔
      ∀ d, ((requests events).filter (fun flow => destination flow = d)).dedup.length ≤ 16384 := by
  have represents := represents_arrivals translating ran
  simp only [← length_members_arrivals]
  constructor
  · rintro ⟨_,dynamic⟩
    exact (dynamicPorts_iff represents).mp dynamic
  · intro few
    exact ⟨distinctPorts_of_few represents (fun d => (few d).trans (by omega)),(dynamicPorts_iff represents).mpr few⟩

/-- The request, over the `k`-th connection, for a station's `i`-th flow to one
    web server. -/
def askFrom (k i : Nat) : Event :=
  .receive ⟨k,⟨10,0,0,1⟩⟩ (.portTranslation ⟨2,0,0,0,0,1⟩ ⟨⟨192,168,5,2⟩,⟨93,184,216,34⟩,UInt16.ofNat i,80⟩) []

/-- No destination is asked for by more flows than there are requests. -/
theorem few_of_short {events : List Event} {n : Nat} (short : (requests events).length ≤ n) (d : PortPair) :
    ((requests events).filter (fun flow => destination flow = d)).dedup.length ≤ n :=
  calc ((requests events).filter (fun flow => destination flow = d)).dedup.length
      ≤ ((requests events).filter (fun flow => destination flow = d)).length := (List.dedup_sublist _).length_le
    _ ≤ (requests events).length := List.length_filter_le _ _
    _ ≤ n := short

theorem two_flows_distinct_dynamic :
    ∃ final, run Trace.step .start [askFrom 0 0,askFrom 0 1] = some final ∧ DistinctPorts final.controller ∧
      DynamicPorts final.controller := by
  refine ⟨_,rfl,(ports_distinct_dynamic_iff [askFrom 0 0,askFrom 0 1] _ (by simp [askFrom,Translating]) rfl).mpr ?_⟩
  exact few_of_short (by decide)

theorem run_total (t : Trace) (events : List Event) : ∃ final, run Trace.step t events = some final := by
  induction events generalizing t with
  | nil => exact ⟨t,rfl⟩
  | cons e rest ih =>
    obtain ⟨final,ran⟩ := ih ⟨(t.controller.step e).1,t.log ++ (t.controller.step e).2⟩
    exact ⟨final,(run_cons t final e rest).mpr ⟨_,rfl,ran⟩⟩

/-- The 16385th flow of one station to one web server gets port 0. -/
theorem popular_destination_leaves_range :
    ∃ final, run Trace.step .start ((List.range 16385).map (askFrom 0)) = some final ∧ ¬ DynamicPorts final.controller := by
  have translating : ∀ e ∈ (List.range 16385).map (askFrom 0), Translating e := by
    intro e inside
    obtain ⟨i,_,rfl⟩ := List.mem_map.mp inside
    trivial
  obtain ⟨final,ran⟩ := run_total .start ((List.range 16385).map (askFrom 0))
  refine ⟨final,ran,fun dynamic => ?_⟩
  have few := (dynamicPorts_iff (represents_arrivals translating ran)).mp dynamic ⟨⟨93,184,216,34⟩,80⟩
  have asked : requests ((List.range 16385).map (askFrom 0)) = (List.range 16385).map (fun i =>
      ((⟨2,0,0,0,0,1⟩,⟨⟨192,168,5,2⟩,⟨93,184,216,34⟩,UInt16.ofNat i,80⟩) : Flow)) := by
    rw [requests,List.filterMap_map]
    exact List.filterMap_eq_map' ▸ rfl
  rw [length_members_arrivals,asked,List.filter_eq_self.mpr,List.dedup_eq_self.mpr] at few
  · simp at few
  · refine List.Nodup.map_on ?_ List.nodup_range
    intro i low j low' same
    simp only [Prod.mk.injEq,FourTuple.mk.injEq,true_and,and_true] at same
    have numbers := congrArg UInt16.toNat same
    rw [List.mem_range] at low low'
    simp only [UInt16.toNat_ofNat'] at numbers
    omega
  · intro flow inside
    obtain ⟨i,_,rfl⟩ := List.mem_map.mp inside
    rfl

/-! ### A port for life -/

/-- The switch has announced itself as the gateway in the run; the other
    switches are access points. -/
def Gateway (events : List Event) (sw : IOFSwitch) : Prop := ∃ failing, Event.receive sw .gwConnect failing ∈ events

end Handover.Ports
