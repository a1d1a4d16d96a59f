import Handover.Interleaving
import Handover.NatTable

/-!
The port of a new flow at an access point, step by step. The `WLAN_NAT_ADD` case searches
the NAT table, inserts the entry that it does not find, and assigns its port only then,
outside the lock; the thread of queue 0 searches the table and reads the port in a later
step. Every rewritten packet carries a port that was received for its 4-tuple, unless it
is accepted between the insertion of the entry and the assignment.
-/
namespace Handover.PortAssignment
open NatTable (portOf portOf_addEntry portOf_assign portOf_empty)
open AccessPoint

/-- Where the thread of the connection is in the `WLAN_NAT_ADD` case: the search has missed
    the entry or found it, the entry was inserted, or it has its port and `reinject_pkt` is
    still to be started. -/
inductive Adding where
  | idle
  | missed (tuple : FourTuple) (tpNew : UInt16)
  | found (tuple : FourTuple) (tpNew : UInt16)
  | inserted (tuple : FourTuple) (tpNew : UInt16)
  | assigned (tuple : FourTuple)
deriving DecidableEq

/-- A packet that was accepted after rewriting: as it came, the port that was written into
    it and as it left. -/
structure Accepted where
  packet : Packet
  port : UInt16
  payload : Packet
deriving DecidableEq

/-- A packet of the entry's flow is rewritten. -/
def rewrite (cfg : APConfig) (nMap : NATMap) (data : Packet) : Accepted := ⟨data,nMap.newPort,outbound cfg nMap data⟩

/-- The threads over one access point. `received` are the messages of which the handling
    has begun, and `nextId` the packets so far. -/
structure State where
  ap : AccessPoint
  uplink : Uplink
  adding : Adding
  nextId : Nat
  received : List (FourTuple × UInt16)
  accepted : List Accepted

def start (cfg : APConfig) : State := ⟨.init cfg,.waiting,.idle,0,[],[]⟩

/-- A step of one of the threads: of queue 0 its search, its rewriting, the queueing of a
    packet and the request for its port; of the connection its search, the insertion, the
    assignment and the start of a thread; and such a thread. -/
inductive Event where
  | intercept (hwAddr : Mac) (data : Packet)
  | accept
  | addPortData
  | request
  | receive (tuple : FourTuple) (tpNew : UInt16)
  | addEntry
  | assign
  | create
  | reinject (i : Nat)
deriving DecidableEq

/-- What becomes of the packets that the `i`-th thread releases. -/
def released (cfg : APConfig) (ap : AccessPoint) (i : Nat) : List Accepted :=
  (ap.reinjecting[i]?.bind (fun tuple =>
    (lookupPortMapQ0 ap.entryList tuple).join.bind (fun nMap =>
      (ap.portQueue.bucket tuple.destinationIP.o3.toNat).map (fun chain =>
        (chain.filter (fun temp => temp.packet.tuple = nMap.toFourTuple)).map (fun temp =>
          rewrite cfg nMap temp.packet))))).getD []

def step (cfg : APConfig) (s : State) : Event → Option State
  | .intercept hwAddr data =>
    match s.uplink with
    | .waiting =>
      if Packet.inSubnet cfg.subnet data.tuple.sourceIP then
        (lookupPortMapQ0 s.ap.entryList data.tuple).map (fun nMap =>
          { s with
            uplink := if nMap.isSome then .found s.nextId data else .missed s.nextId hwAddr data
            nextId := s.nextId + 1 })
      else some { s with nextId := s.nextId + 1 }
    | _ => none
  | .accept =>
    match s.uplink with
    | .found _ data => (lookupPortMapQ0 s.ap.entryList data.tuple).join.map (fun nMap =>
        { s with uplink := .waiting, accepted := s.accepted ++ [rewrite cfg nMap data] })
    | _ => none
  | .addPortData =>
    match s.uplink with
    | .missed packetId hwAddr data =>
      (s.ap.portQueue.push data.tuple.destinationIP.o3.toNat ⟨packetId,data⟩).map (fun portQueue =>
        { s with ap := { s.ap with portQueue := portQueue }, uplink := .queued hwAddr data.tuple })
    | _ => none
  | .request =>
    match s.uplink with
    | .queued hwAddr tuple =>
      some { s with ap := s.ap.spawn (.message (.portTranslation hwAddr tuple)), uplink := .waiting }
    | _ => none
  | .receive tuple tpNew =>
    match s.adding with
    | .idle => (lookupPortMapQ0 s.ap.entryList tuple).map (fun nMap =>
        { s with
          adding := if nMap.isSome then .found tuple tpNew else .missed tuple tpNew
          received := s.received ++ [(tuple,tpNew)] })
    | _ => none
  | .addEntry =>
    match s.adding with
    | .missed tuple tpNew => (Handover.addEntry s.ap.entryList tuple).map (fun entryList =>
        { s with ap := { s.ap with entryList := entryList }, adding := .inserted tuple tpNew })
    | _ => none
  | .assign =>
    match s.adding with
    | .found tuple tpNew | .inserted tuple tpNew =>
      (s.ap.entryList.update tuple.destinationIP.o3.toNat (fun nMap => nMap.toFourTuple = tuple)
        (fun nMap => { nMap with newPort := tpNew })).map (fun entryList =>
          { s with ap := { s.ap with entryList := entryList }, adding := .assigned tuple })
    | _ => none
  | .create =>
    match s.adding with
    | .assigned tuple =>
      some { s with ap := { s.ap with reinjecting := s.ap.reinjecting ++ [tuple] }, adding := .idle }
    | _ => none
  | .reinject i => (s.ap.reinjectPkt cfg i).map (fun (ap,_) =>
      { s with ap := ap, accepted := s.accepted ++ released cfg s.ap i })

/-- Every packet that has left after rewriting carries a port that was received for its
    4-tuple. -/
def Assigned (s : State) : Prop := ∀ accepted ∈ s.accepted, (accepted.packet.tuple,accepted.port) ∈ s.received

/-- No packet is accepted between the insertion of its entry and the assignment, unless the
    port that comes is zero. -/
def settled (s : State) (e : Event) : Bool :=
  match e, s.uplink, s.adding with
  | .accept, .found _ data, .inserted tuple tpNew => data.tuple ≠ tuple || tpNew = 0
  | _, _, _ => true

/-! ### What a step can do -/

/-- The steps, by what they do to the table, the messages and the packets. -/
inductive Does (cfg : APConfig) (s : State) : Event → State → Prop where
  | other {e : Event} {next : State} (noAccept : e ≠ .accept) (entryList : next.ap.entryList = s.ap.entryList)
    (reinjecting : next.ap.reinjecting = s.ap.reinjecting) (adding : next.adding = s.adding)
    (received : next.received = s.received) (accepted : next.accepted = s.accepted) : Does cfg s e next
  | accepted {packetId : Nat} {data : Packet} {nMap : NATMap} (isStage : s.uplink = .found packetId data)
    (isPort : portOf s.ap.entryList data.tuple = some nMap.newPort) :
    Does cfg s .accept
      { s with uplink := .waiting, accepted := s.accepted ++ [rewrite cfg nMap data] }
  | received {tuple : FourTuple} {tpNew : UInt16} (idle : s.adding = .idle) {adding : Adding}
    (isStage : adding = .found tuple tpNew ∧ portOf s.ap.entryList tuple ≠ none ∨
      adding = .missed tuple tpNew ∧ portOf s.ap.entryList tuple = none) :
    Does cfg s (.receive tuple tpNew) { s with adding := adding, received := s.received ++ [(tuple,tpNew)] }
  | inserted {tuple : FourTuple} {tpNew : UInt16} {entryList : Buckets NATMap} (isStage : s.adding = .missed tuple tpNew)
    (added : Handover.addEntry s.ap.entryList tuple = some entryList) :
    Does cfg s .addEntry { s with ap := { s.ap with entryList := entryList }, adding := .inserted tuple tpNew }
  | assigned {tuple : FourTuple} {tpNew : UInt16} {entryList : Buckets NATMap}
    (isStage : s.adding = .found tuple tpNew ∨ s.adding = .inserted tuple tpNew)
    (assigned : s.ap.entryList.update tuple.destinationIP.o3.toNat (fun nMap => nMap.toFourTuple = tuple)
      (fun nMap => { nMap with newPort := tpNew }) = some entryList) :
    Does cfg s .assign { s with ap := { s.ap with entryList := entryList }, adding := .assigned tuple }
  | created {tuple : FourTuple} (isStage : s.adding = .assigned tuple) :
    Does cfg s .create { s with ap := { s.ap with reinjecting := s.ap.reinjecting ++ [tuple] }, adding := .idle }
  | reinjected {i : Nat} {tuple : FourTuple} {nMap : NATMap} {packets : List Packet} {ap : AccessPoint}
    (isThread : s.ap.reinjecting[i]? = some tuple) (isPort : portOf s.ap.entryList tuple = some nMap.newPort)
    (isKey : nMap.toFourTuple = tuple) (entryList : ap.entryList = s.ap.entryList)
    (reinjecting : ap.reinjecting = s.ap.reinjecting.eraseIdx i) (same : ∀ data ∈ packets, data.tuple = tuple) :
    Does cfg s (.reinject i) { s with ap := ap, accepted := s.accepted ++ packets.map (rewrite cfg nMap) }

section
variable {cfg : APConfig} {s next : State} {e : Event}

theorem portOf_of_found {table : Buckets NATMap} {tuple : FourTuple} {nMap : NATMap}
    (found : lookupPortMapQ0 table tuple = some (some nMap)) : portOf table tuple = some nMap.newPort := by
  rw [portOf,found]
  rfl

theorem released_eq (cfg : APConfig) {ap : AccessPoint} {i : Nat} {tuple : FourTuple} {nMap : NATMap}
    {chain : List PortData} (isThread : ap.reinjecting[i]? = some tuple)
    (found : lookupPortMapQ0 ap.entryList tuple = some (some nMap))
    (held : ap.portQueue.bucket tuple.destinationIP.o3.toNat = some chain) : released cfg ap i =
      ((chain.filter (fun temp => temp.packet.tuple = nMap.toFourTuple)).map (·.packet)).map (rewrite cfg nMap) := by
  simp [released,isThread,found,held]

theorem step_does (stepped : step cfg s e = some next) : Does cfg s e next := by
  cases e with
  | intercept hwAddr data =>
    simp only [step] at stepped
    split at stepped
    · split at stepped
      · obtain ⟨nMap,_,rfl⟩ := Option.map_eq_some_iff.mp stepped
        exact .other Event.noConfusion rfl rfl rfl rfl rfl
      · cases stepped
        exact .other Event.noConfusion rfl rfl rfl rfl rfl
    · cases stepped
  | accept =>
    simp only [step] at stepped
    split at stepped
    · rename_i isStage
      obtain ⟨nMap,found,rfl⟩ := Option.map_eq_some_iff.mp stepped
      exact .accepted isStage (portOf_of_found (Option.join_eq_some_iff.mp found))
    · cases stepped
  | addPortData =>
    simp only [step] at stepped
    split at stepped
    · obtain ⟨portQueue,_,rfl⟩ := Option.map_eq_some_iff.mp stepped
      exact .other Event.noConfusion rfl rfl rfl rfl rfl
    · cases stepped
  | request =>
    simp only [step] at stepped
    split at stepped
    · cases stepped
      exact .other Event.noConfusion rfl rfl rfl rfl rfl
    · cases stepped
  | receive tuple tpNew =>
    simp only [step] at stepped
    split at stepped
    · rename_i idle
      obtain ⟨nMap,found,rfl⟩ := Option.map_eq_some_iff.mp stepped
      refine .received idle ?_
      cases nMap with
      | some nMap => exact .inl ⟨rfl,by simp [portOf_of_found found]⟩
      | none => exact .inr ⟨rfl,by simp [portOf,found]⟩
    · cases stepped
  | addEntry =>
    simp only [step] at stepped
    split at stepped
    · rename_i isStage
      obtain ⟨entryList,added,rfl⟩ := Option.map_eq_some_iff.mp stepped
      exact .inserted isStage added
    · cases stepped
  | assign =>
    simp only [step] at stepped
    split at stepped
    · rename_i isStage
      obtain ⟨entryList,assigned,rfl⟩ := Option.map_eq_some_iff.mp stepped
      exact .assigned (.inl isStage) assigned
    · rename_i isStage
      obtain ⟨entryList,assigned,rfl⟩ := Option.map_eq_some_iff.mp stepped
      exact .assigned (.inr isStage) assigned
    · cases stepped
  | create =>
    simp only [step] at stepped
    split at stepped
    · rename_i isStage
      cases stepped
      exact .created isStage
    · cases stepped
  | reinject i =>
    obtain ⟨⟨ap,verdicts⟩,ran,rfl⟩ := Option.map_eq_some_iff.mp stepped
    obtain ⟨tuple,nMap,chain,isThread,found,held,_,rfl⟩ := reinjectPkt_spec ran
    have isKey : nMap.toFourTuple = tuple :=
      Buckets.key_of_get (fun tuple : FourTuple => tuple.destinationIP.o3.toNat) NATMap.toFourTuple found
    rw [released_eq cfg isThread found held]
    refine .reinjected isThread (portOf_of_found found) isKey rfl rfl (fun data member => ?_)
    obtain ⟨temp,isTemp,rfl⟩ := List.mem_map.mp member
    exact (of_decide_eq_true (List.mem_filter.mp isTemp).2).trans isKey

/-- The packets that are logged are those that `reinject_pkt` lets go. -/
theorem released_payloads {ap ap' : AccessPoint} {i : Nat} {verdicts : List Verdict}
    (ran : ap.reinjectPkt cfg i = some (ap',verdicts)) :
    (released cfg ap i).map (·.payload) = verdicts.map (·.payload) := by
  obtain ⟨tuple,nMap,chain,isThread,found,held,rfl,_⟩ := reinjectPkt_spec ran
  rw [released_eq cfg isThread found held,reinjectChain_eq]
  simp [rewrite]

/-- Without interruption the steps of a packet are queue 0 of `handle_pkt`; what is logged
    is its verdict. -/
theorem uplink_run {hwAddr : Mac} {data : Packet} {ap : AccessPoint} {verdict : Option Verdict}
    (waiting : s.uplink = .waiting) (handled : s.ap.handleUplink cfg s.nextId hwAddr data = some (ap,verdict)) :
    ∃ events log, Run.run (step cfg) s events = some
      { s with ap := ap, nextId := s.nextId + 1, accepted := s.accepted ++ log } ∧
      ∀ accepted ∈ log, verdict = some ⟨s.nextId,accepted.payload⟩ := by
  obtain ⟨before,uplink,adding,nextId,received,accepted⟩ := s
  cases waiting
  unfold handleUplink at handled
  split at handled
  · rename_i inside
    obtain ⟨nMap,found,rest⟩ := Option.bind_eq_some_iff.mp handled
    cases nMap with
    | some nMap =>
      cases rest
      refine ⟨[.intercept hwAddr data,.accept],[rewrite cfg nMap data],?_,by simp [rewrite]⟩
      dsimp only at found
      simp [Run.run,step,inside,found]
    | none =>
      obtain ⟨portQueue,pushed,same⟩ := Option.map_eq_some_iff.mp rest
      cases same
      refine ⟨[.intercept hwAddr data,.addPortData,.request],[],?_,by simp⟩
      dsimp only at found pushed
      simp [Run.run,step,inside,found,pushed]
  · rename_i outside
    cases handled
    refine ⟨[.intercept hwAddr data],[],?_,by simp⟩
    simp [Run.run,step,outside]

/-- Without interruption the steps of a message are the `WLAN_NAT_ADD` case as a whole. -/
theorem natAdd_run {tuple : FourTuple} {tpNew : UInt16} {entryList : Buckets NATMap} (idle : s.adding = .idle)
    (added : natAdd s.ap.entryList tuple tpNew = some entryList) :
    ∃ events, Run.run (step cfg) s events = some
      { s with
        ap := { s.ap with entryList := entryList, reinjecting := s.ap.reinjecting ++ [tuple] }
        received := s.received ++ [(tuple,tpNew)] } := by
  obtain ⟨ap,uplink,adding,nextId,received,accepted⟩ := s
  cases idle
  obtain ⟨nMap,found,added⟩ := Option.bind_eq_some_iff.mp added
  obtain ⟨table,present,updated⟩ := Option.bind_eq_some_iff.mp added
  cases nMap with
  | some nMap =>
    cases present
    refine ⟨[.receive tuple tpNew,.assign,.create],?_⟩
    dsimp only at found updated
    simp [Run.run,step,found,updated]
  | none =>
    simp only [Option.isSome_none,Bool.false_eq_true,if_false] at present
    refine ⟨[.receive tuple tpNew,.addEntry,.assign,.create],?_⟩
    simp [Run.run,step,found,present,updated]

/-! ### What becomes of a flow -/

/-- The flow whose message is at work. -/
def Adding.tuple : Adding → Option FourTuple
  | .idle => none
  | .missed tuple _ => some tuple
  | .found tuple _ => some tuple
  | .inserted tuple _ => some tuple
  | .assigned tuple => some tuple

/-- Where the thread of the connection is with the flow. -/
def Adding.about (adding : Adding) (tuple : FourTuple) : Adding := if adding.tuple = some tuple then adding else .idle

/-- A flow is not heard of; its first message has missed its entry, or has inserted it with
    the port zero; or its entry has a port that was received. -/
inductive Flow (s : State) (tuple : FourTuple) : Prop where
  | unknown (entry : portOf s.ap.entryList tuple = none) (silent : ∀ port, (tuple,port) ∉ s.received)
    (stage : s.adding.about tuple = .idle) (noThread : tuple ∉ s.ap.reinjecting)
  | missed {tpNew : UInt16} (entry : portOf s.ap.entryList tuple = none)
    (only : ∀ port, (tuple,port) ∈ s.received ↔ port = tpNew) (stage : s.adding.about tuple = .missed tuple tpNew)
    (noThread : tuple ∉ s.ap.reinjecting)
  | inserted {tpNew : UInt16} (entry : portOf s.ap.entryList tuple = some 0)
    (only : ∀ port, (tuple,port) ∈ s.received ↔ port = tpNew) (stage : s.adding.about tuple = .inserted tuple tpNew)
    (noThread : tuple ∉ s.ap.reinjecting)
  | known {port : UInt16} (entry : portOf s.ap.entryList tuple = some port) (received : (tuple,port) ∈ s.received)
    (stage : s.adding.about tuple = .idle ∨ s.adding.about tuple = .assigned tuple ∨
      ∃ tpNew, s.adding.about tuple = .found tuple tpNew ∧ (tuple,tpNew) ∈ s.received)

theorem about_self {adding : Adding} {tuple : FourTuple} (same : adding.tuple = some tuple) :
    adding.about tuple = adding :=
  if_pos same

theorem about_other {adding : Adding} {tuple tuple' : FourTuple} (isTuple : adding.tuple = some tuple')
    (other : tuple ≠ tuple') : adding.about tuple = .idle :=
  if_neg (fun same => other (Option.some.inj (same.symm.trans isTuple)))

/-- A step that is not about the flow leaves it as it is. -/
theorem Flow.frame {tuple : FourTuple} (flow : Flow s tuple)
    (entry : portOf next.ap.entryList tuple = portOf s.ap.entryList tuple)
    (received : ∀ port, (tuple,port) ∈ next.received ↔ (tuple,port) ∈ s.received)
    (stage : next.adding.about tuple = s.adding.about tuple)
    (threads : tuple ∈ next.ap.reinjecting → tuple ∈ s.ap.reinjecting) : Flow next tuple := by
  cases flow with
  | unknown isNone silent idle noThread =>
    exact .unknown (entry.trans isNone) (fun port member => silent port ((received port).mp member)) (stage.trans idle)
      (fun thread => noThread (threads thread))
  | missed isNone only isStage noThread =>
    exact .missed (entry.trans isNone) (fun port => (received port).trans (only port)) (stage.trans isStage)
      (fun thread => noThread (threads thread))
  | inserted isZero only isStage noThread =>
    exact .inserted (entry.trans isZero) (fun port => (received port).trans (only port)) (stage.trans isStage)
      (fun thread => noThread (threads thread))
  | known isPort member isStage =>
    refine .known (entry.trans isPort) ((received _).mpr member) ?_
    simpa only [stage,received] using isStage

theorem flow_start (cfg : APConfig) (tuple : FourTuple) : Flow (start cfg) tuple :=
  .unknown (portOf_empty tuple) (by simp [start]) rfl (by simp [start,AccessPoint.init])

/-- An entry is missed or found when its message is received. -/
theorem Flow.receives {tuple : FourTuple} {tpNew : UInt16} {adding : Adding} (flow : Flow s tuple)
    (idle : s.adding = .idle) (isStage : adding = .found tuple tpNew ∧ portOf s.ap.entryList tuple ≠ none ∨
      adding = .missed tuple tpNew ∧ portOf s.ap.entryList tuple = none) :
    Flow { s with adding := adding, received := s.received ++ [(tuple,tpNew)] } tuple := by
  have here : s.adding.about tuple = .idle := by rw [idle]; rfl
  rcases isStage with ⟨rfl,present⟩ | ⟨rfl,absent⟩
  · cases flow with
    | known entry received =>
      exact .known entry (List.mem_append_left _ received) (.inr (.inr ⟨tpNew,about_self rfl,by simp⟩))
    | unknown entry => exact absurd entry present
    | missed entry => exact absurd entry present
    | inserted _ _ isStage => cases here.symm.trans isStage
  · cases flow with
    | unknown entry silent _ noThread =>
      refine .missed entry (fun port => ?_) (about_self rfl) noThread
      simp [silent port]
    | known entry => cases absent.symm.trans entry
    | missed _ _ isStage => cases here.symm.trans isStage
    | inserted _ _ isStage => cases here.symm.trans isStage

theorem Flow.inserts {tuple : FourTuple} {tpNew : UInt16} {entryList : Buckets NATMap} (flow : Flow s tuple)
    (isStage : s.adding = .missed tuple tpNew) (added : Handover.addEntry s.ap.entryList tuple = some entryList) :
    portOf s.ap.entryList tuple = none ∧
      Flow { s with ap := { s.ap with entryList := entryList }, adding := .inserted tuple tpNew } tuple := by
  have here : s.adding.about tuple = .missed tuple tpNew := by rw [isStage,about_self rfl]
  cases flow with
  | missed entry only isStage noThread =>
    cases here.symm.trans isStage
    refine ⟨entry,.inserted ?_ only (about_self rfl) noThread⟩
    rw [portOf_addEntry entry added,if_pos rfl]
  | unknown _ _ isStage => cases here.symm.trans isStage
  | inserted _ _ isStage => cases here.symm.trans isStage
  | known _ _ isStage =>
    rw [here] at isStage
    simp at isStage

theorem Flow.assigns {tuple : FourTuple} {tpNew : UInt16} {entryList : Buckets NATMap} (flow : Flow s tuple)
    (isStage : s.adding = .found tuple tpNew ∨ s.adding = .inserted tuple tpNew)
    (assigned : s.ap.entryList.update tuple.destinationIP.o3.toNat (fun nMap => nMap.toFourTuple = tuple)
      (fun nMap => { nMap with newPort := tpNew }) = some entryList) :
    Flow { s with ap := { s.ap with entryList := entryList }, adding := .assigned tuple } tuple := by
  have here : s.adding.about tuple = .found tuple tpNew ∨ s.adding.about tuple = .inserted tuple tpNew := by
    rcases isStage with isStage | isStage
    · exact .inl (by rw [isStage,about_self rfl])
    · exact .inr (by rw [isStage,about_self rfl])
  have port : ∀ {old}, portOf s.ap.entryList tuple = some old → portOf entryList tuple = some tpNew := by
    intro old held
    rw [portOf_assign assigned,if_pos rfl,held]
    rfl
  cases flow with
  | known entry received isStage =>
    rcases isStage with idle | started | ⟨tpNew',isFound,member⟩
    · simp [idle] at here
    · simp [started] at here
    · obtain rfl : tpNew' = tpNew := by simpa [isFound] using here
      exact .known (port entry) member (.inr (.inl (about_self rfl)))
  | @inserted tpNew' entry only isStage =>
    obtain rfl : tpNew' = tpNew := by simpa [isStage] using here
    exact .known (port entry) ((only _).mpr rfl) (.inr (.inl (about_self rfl)))
  | unknown _ _ isStage => simp [isStage] at here
  | missed _ _ isStage => simp [isStage] at here

theorem Flow.creates {tuple : FourTuple} (flow : Flow s tuple) (isStage : s.adding = .assigned tuple) :
    Flow { s with ap := { s.ap with reinjecting := s.ap.reinjecting ++ [tuple] }, adding := .idle } tuple := by
  have here : s.adding.about tuple = .assigned tuple := by rw [isStage,about_self rfl]
  cases flow with
  | known entry received => exact .known entry received (.inl rfl)
  | unknown _ _ isStage => cases here.symm.trans isStage
  | missed _ _ isStage => cases here.symm.trans isStage
  | inserted _ _ isStage => cases here.symm.trans isStage

/-- The threads that release packets are of flows that are known. -/
theorem Flow.thread {tuple : FourTuple} (flow : Flow s tuple) (started : tuple ∈ s.ap.reinjecting) {port : UInt16}
    (entry : portOf s.ap.entryList tuple = some port) : (tuple,port) ∈ s.received := by
  cases flow with
  | known entry' received =>
    cases entry.symm.trans entry'
    exact received
  | unknown _ _ _ noThread => exact absurd started noThread
  | missed _ _ _ noThread => exact absurd started noThread
  | inserted _ _ _ noThread => exact absurd started noThread

/-- A packet gets a port that was received, unless the flow is between insertion and
    assignment. -/
theorem Flow.received_iff {tuple : FourTuple} (flow : Flow s tuple) {port : UInt16}
    (entry : portOf s.ap.entryList tuple = some port) :
    (tuple,port) ∈ s.received ↔ ∀ tpNew, s.adding = .inserted tuple tpNew → tpNew = 0 := by
  have here : ∀ {tpNew}, s.adding = .inserted tuple tpNew → s.adding.about tuple = .inserted tuple tpNew :=
    fun isStage => by rw [isStage,about_self rfl]
  cases flow with
  | known entry' received isStage =>
    cases entry.symm.trans entry'
    refine iff_of_true received (fun tpNew inserted => ?_)
    rw [here inserted] at isStage
    simp at isStage
  | @inserted tpNew entry' only isStage =>
    cases entry.symm.trans entry'
    have isAdding : s.adding = .inserted tuple tpNew := by
      unfold Adding.about at isStage
      split at isStage
      · exact isStage
      · cases isStage
    rw [only]
    constructor
    · rintro rfl tpNew' isAdding'
      cases isAdding.symm.trans isAdding'
      rfl
    · intro all
      exact (all tpNew isAdding).symm
  | unknown entry' => cases entry.symm.trans entry'
  | missed entry' => cases entry.symm.trans entry'

theorem flow_step (flows : ∀ tuple, Flow s tuple) (does : Does cfg s e next) (tuple : FourTuple) : Flow next tuple := by
  cases does with
  | other _ entryList reinjecting adding received accepted =>
    exact (flows tuple).frame (by rw [entryList]) (by simp [received]) (by rw [adding]) (by rw [reinjecting]; exact id)
  | accepted => exact (flows tuple).frame rfl (fun _ => Iff.rfl) rfl id
  | @received tuple' tpNew idle adding isStage =>
    by_cases same : tuple = tuple'
    · subst same
      exact (flows tuple).receives idle isStage
    · have isTuple : adding.tuple = some tuple' := by rcases isStage with ⟨rfl,_⟩ | ⟨rfl,_⟩ <;> rfl
      refine (flows tuple).frame rfl (by simp [same]) ?_ id
      rw [idle]
      exact about_other isTuple same
  | @inserted tuple' tpNew entryList isStage added =>
    obtain ⟨absent,inserted⟩ := (flows tuple').inserts isStage added
    by_cases same : tuple = tuple'
    · subst same
      exact inserted
    · refine (flows tuple).frame ?_ (fun _ => Iff.rfl) ?_ id
      · exact (portOf_addEntry absent added tuple).trans (if_neg same)
      · rw [isStage]
        exact (about_other rfl same).trans (about_other rfl same).symm
  | @assigned tuple' tpNew entryList isStage assigned =>
    by_cases same : tuple = tuple'
    · subst same
      exact (flows tuple).assigns isStage assigned
    · have isTuple : s.adding.tuple = some tuple' := by rcases isStage with isStage | isStage <;> rw [isStage] <;> rfl
      refine (flows tuple).frame ?_ (fun _ => Iff.rfl) ?_ id
      · exact (portOf_assign assigned tuple).trans (if_neg same)
      · exact (about_other rfl same).trans (about_other isTuple same).symm
  | @created tuple' isStage =>
    by_cases same : tuple = tuple'
    · subst same
      exact (flows tuple).creates isStage
    · refine (flows tuple).frame rfl (fun _ => Iff.rfl) ?_ (by simp [same])
      rw [isStage]
      exact (about_other rfl same).symm
  | @reinjected i _ _ _ ap _ _ _ entryList reinjecting _ =>
    refine (flows tuple).frame (by rw [entryList]) (fun _ => Iff.rfl) rfl ?_
    rw [reinjecting]
    exact fun member => (List.eraseIdx_sublist _ _).mem member

/-! ### The ports of the packets -/

theorem assigned_append {accepted : List Accepted} (assigned : Assigned s) (same : next.received = s.received)
    (isNext : next.accepted = s.accepted ++ accepted) :
    Assigned next ↔ ∀ packet ∈ accepted, (packet.packet.tuple,packet.port) ∈ s.received := by
  unfold Assigned
  rw [isNext,same]
  simp only [List.mem_append]
  constructor
  · exact fun all packet member => all packet (.inr member)
  · exact fun all packet member => member.elim (assigned packet) (all packet)

theorem settled_accept {packetId : Nat} {data : Packet} (isStage : s.uplink = .found packetId data) :
    settled s .accept = true ↔ ∀ tpNew, s.adding = .inserted data.tuple tpNew → tpNew = 0 := by
  simp only [settled,isStage]
  cases s.adding with
  | inserted tuple tpNew =>
    simp only [Bool.or_eq_true,decide_eq_true_eq,Adding.inserted.injEq]
    constructor
    · rintro (other | zero) tpNew' ⟨same,rfl⟩
      · exact absurd same.symm other
      · exact zero
    · intro all
      by_cases same : data.tuple = tuple
      · exact .inr (all tpNew ⟨same.symm,rfl⟩)
      · exact .inl same
  | _ => simp

/-- A step keeps the ports assigned exactly if it is settled. -/
theorem assigned_step (flows : ∀ tuple, Flow s tuple) (assigned : Assigned s) (does : Does cfg s e next) :
    Assigned next ↔ settled s e = true := by
  cases does with
  | @other e _ noAccept _ _ _ received accepted =>
    have isSettled : settled s e = true := by cases e <;> first | rfl | exact absurd rfl noAccept
    refine iff_of_true ?_ isSettled
    unfold Assigned
    rw [received,accepted]
    exact assigned
  | @accepted packetId data nMap isStage isPort =>
    refine Iff.trans (assigned_append assigned rfl rfl) ?_
    simp only [List.mem_singleton,forall_eq]
    exact ((flows data.tuple).received_iff isPort).trans (settled_accept isStage).symm
  | received idle isStage =>
    refine iff_of_true (fun packet member => ?_) rfl
    exact List.mem_append_left _ (assigned packet member)
  | inserted isStage added => exact iff_of_true assigned rfl
  | assigned isStage updated => exact iff_of_true assigned rfl
  | created isStage => exact iff_of_true assigned rfl
  | @reinjected i tuple nMap packets ap isThread isPort isKey _ _ same =>
    refine iff_of_true (Iff.mpr (assigned_append assigned rfl rfl) ?_) rfl
    intro packet member
    obtain ⟨data,isData,rfl⟩ := List.mem_map.mp member
    have received := (flows tuple).thread (List.mem_of_getElem? isThread) isPort
    rw [rewrite,same data isData]
    exact received

/-- What is logged is what the rewriting makes of the packet. -/
def Rewritten (cfg : APConfig) (accepted : Accepted) : Prop :=
  accepted.payload = outbound cfg ⟨accepted.packet.tuple,accepted.port⟩ accepted.packet

theorem outbound_port (cfg : APConfig) {nMap nMap' : NATMap} (same : nMap.newPort = nMap'.newPort) (data : Packet) :
    outbound cfg nMap data = outbound cfg nMap' data := by
  rw [outbound,outbound,same]

theorem rewritten_rewrite (cfg : APConfig) (nMap : NATMap) (data : Packet) : Rewritten cfg (rewrite cfg nMap data) := by
  simp only [Rewritten,rewrite]
  exact outbound_port cfg rfl data

theorem rewritten_step (rewritten : ∀ accepted ∈ s.accepted, Rewritten cfg accepted) (does : Does cfg s e next) :
    ∀ accepted ∈ next.accepted, Rewritten cfg accepted := by
  have more : ∀ (nMap : NATMap) (packets : List Packet),
      ∀ accepted ∈ s.accepted ++ packets.map (rewrite cfg nMap), Rewritten cfg accepted := by
    intro nMap packets accepted member
    rcases List.mem_append.mp member with old | new
    · exact rewritten accepted old
    · obtain ⟨data,_,rfl⟩ := List.mem_map.mp new
      exact rewritten_rewrite cfg nMap data
  cases does with
  | other _ _ _ _ _ accepted => rwa [accepted]
  | @accepted _ data nMap _ _ => exact more nMap [data]
  | @reinjected _ _ nMap packets => exact more nMap packets
  | received => exact rewritten
  | inserted => exact rewritten
  | assigned => exact rewritten
  | created => exact rewritten

structure Sound (s : State) : Prop where
  flows : ∀ tuple, Flow s tuple
  assigned : Assigned s

/-- Along every interleaving, every rewritten packet carries a port that was received for
    its 4-tuple, exactly if no packet is accepted between the insertion of its entry and the
    assignment of a port other than zero. The port is the source port of the packet that
    leaves, if it is well formed. -/
theorem ports_assigned_iff {events : List Event} (ran : Run.run (step cfg) (start cfg) events = some s) :
    (Run.Always (step cfg) Assigned (start cfg) events ↔
      Run.Steps (step cfg) (fun s e => settled s e = true) (start cfg) events) ∧
    ∀ accepted ∈ s.accepted, accepted.packet.WellFormed → accepted.payload.tuple.sourcePort = accepted.port := by
  constructor
  · refine Run.always_iff_steps_of (fun s (sound : Sound s) => sound.assigned) ?_ ?_ ran
    · intro s e next sound stepped
      have does := step_does stepped
      have one := assigned_step sound.flows sound.assigned does
      exact ⟨one,fun settled => ⟨flow_step sound.flows does,one.mpr settled⟩⟩
    · exact ⟨flow_start cfg,fun _ member => by cases member⟩
  · have rewritten : ∀ accepted ∈ s.accepted, Rewritten cfg accepted := by
      refine Run.run_invariant (fun _ _ _ before stepped => rewritten_step before (step_does stepped)) ?_ ran
      exact fun _ member => by cases member
    intro accepted member formed
    rw [rewritten accepted member,(outbound_spec cfg _ formed).2]

end

open Net (Site site visitor visit)

/-- The first packet of a flow is held until its port is there. -/
def held : List Event :=
  [.intercept visitor (Gateway.datagram visit),.addPortData,.request,.receive visit 49152,.addEntry,.assign,.create,
    .reinject 0,.intercept visitor (Gateway.datagram visit),.accept]

theorem held_assigned : ∃ s, Run.run (step (site.ap .left)) (start (site.ap .left)) held = some s ∧
    s.accepted.map (·.payload.tuple.sourcePort) = [49152,49152] ∧ Assigned s := by
  obtain ⟨s,ran,ports⟩ : ∃ s, Run.run (step (site.ap .left)) (start (site.ap .left)) held = some s ∧
      s.accepted.map (·.payload.tuple.sourcePort) = [49152,49152] := Run.exists_run (by decide +kernel)
  have steps : Run.Steps (step (site.ap .left)) (fun s e => settled s e = true) (start (site.ap .left)) held :=
    Run.steps_of_check (fun _ _ => id) (by decide +kernel)
  exact ⟨s,ran,ports,Run.always_final ((ports_assigned_iff ran).1.mpr steps) ran⟩

/-- The second packet comes between the insertion and the assignment. -/
def early : List Event :=
  [.intercept visitor (Gateway.datagram visit),.addPortData,.request,.receive visit 49152,.addEntry,
    .intercept visitor (Gateway.datagram visit),.accept]

/-- It leaves with the source port zero, which nobody has received. -/
theorem early_unassigned : ∃ s, Run.run (step (site.ap .left)) (start (site.ap .left)) early = some s ∧
    s.received = [(visit,49152)] ∧ s.accepted.map (·.payload.tuple) =
      [⟨(site.ap .left).ifIP,visit.destinationIP,0,visit.destinationPort⟩] ∧ ¬ Assigned s := by
  obtain ⟨s,ran,received,left,logged⟩ :
      ∃ s, Run.run (step (site.ap .left)) (start (site.ap .left)) early = some s ∧
      s.received = [(visit,49152)] ∧ s.accepted.map (·.payload.tuple) =
        [⟨(site.ap .left).ifIP,visit.destinationIP,0,visit.destinationPort⟩] ∧
      s.accepted.map (fun accepted => (accepted.packet.tuple,accepted.port)) = [(visit,0)] :=
    Run.exists_run (by decide +kernel)
  refine ⟨s,ran,received,left,fun assigned => ?_⟩
  have mem : (visit,(0 : UInt16)) ∈ s.accepted.map (fun accepted => (accepted.packet.tuple,accepted.port)) := by
    rw [logged]
    exact List.mem_singleton_self _
  obtain ⟨accepted,member,same⟩ := List.mem_map.mp mem
  have isReceived := assigned accepted member
  rw [same,received] at isReceived
  exact absurd isReceived (by decide)

end Handover.PortAssignment
