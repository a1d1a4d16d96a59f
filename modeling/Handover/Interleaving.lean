import Handover.Links

/-!
The packets of an access point, thread by thread. In `handle_pkt` the search of the NAT
table, the queueing of the packet and the start of the thread that asks for a port are
three steps, and so are the parts of the `WLAN_NAT_ADD` case of `handle_vendor`; a
`reinject_pkt` thread holds the lock of the queue from end to end. In every interleaving
a step gives a packet at most one verdict, and where the connections lose nothing it
leaves something pending for the 4-tuple of each queued packet that will release it.
-/
namespace Handover

/-- Only three events touch the packets. -/
theorem Net.packets_step {AP : Type} [DecidableEq AP] {cfg : Config AP} {net net' : Net AP} {e : Event AP}
    (stepped : step cfg net e = some net') (noUplink : ∀ a hwAddr data, e ≠ .uplink a hwAddr data)
    (noReinject : ∀ a i, e ≠ .reinject a i) (noForward : ∀ i, e ≠ .gwForward i) :
    net'.arrivals = net.arrivals ∧ net'.transit = net.transit ∧ net'.emitted = net.emitted ∧
      ∀ a, (net'.ap a).portQueue = (net.ap a).portQueue := by
  cases kind_step stepped with
  | connects free isNext => exact ⟨by rw [isNext],by rw [isNext],by rw [isNext],fun _ => by rw [isNext]⟩
  | disconnects isNext => exact ⟨by rw [isNext],by rw [isNext],by rw [isNext],fun _ => by rw [isNext]⟩
  | @acts _ a msgs acts =>
    rcases acts.packets with ⟨arrivals,queue,transit⟩ | ⟨hwAddr,data,isUplink,_⟩ | ⟨i,isReinject,_⟩
    · refine ⟨arrivals,transit,acts.here.emitted,fun b => ?_⟩
      by_cases same : b = a
      · exact same ▸ queue
      · rw [acts.here.others b same]
    · exact absurd isUplink (noUplink _ _ _)
    · exact absurd isReinject (noReinject _ _)
  | controls isGiven controls => exact ⟨controls.arrivals,controls.transit,controls.emitted,fun _ => by rw [controls.ap]⟩
  | gateway isGateway noGiven gateway =>
    cases e with
    | gwConnect address => rw [step_gwConnect stepped]; exact ⟨rfl,rfl,rfl,fun _ => rfl⟩
    | gwDisconnect => rw [step_gwDisconnect stepped]; exact ⟨rfl,rfl,rfl,fun _ => rfl⟩
    | gwAnnounce =>
      obtain ⟨_,_,rfl⟩ := step_gwAnnounce stepped
      exact ⟨rfl,rfl,rfl,fun _ => rfl⟩
    | gwDeliver =>
      obtain ⟨_,_,_,_,_,_,_,rfl⟩ := step_gwDeliver stepped
      exact ⟨rfl,rfl,rfl,fun _ => rfl⟩
    | gwForward i => exact absurd rfl (noForward i)
    | _ => cases isGateway

/-- Where the thread of queue 0 is in `handle_pkt`. -/
inductive Uplink where
  | waiting
  | found (packetId : Nat) (data : Packet)
  | missed (packetId : Nat) (hwAddr : Mac) (data : Packet)
  | queued (hwAddr : Mac) (tuple : FourTuple)
deriving DecidableEq

/-- The packet that the thread holds and that is not queued. -/
def Uplink.ids : Uplink → List Nat
  | .found packetId _ => [packetId]
  | .missed packetId _ _ => [packetId]
  | _ => []

/-- Where the thread of the connection is in the `WLAN_NAT_ADD` case. -/
inductive Vendor where
  | waiting
  | absent (tuple : FourTuple) (newPort : UInt16)
  | entered (tuple : FourTuple) (newPort : UInt16)
  | assigned (tuple : FourTuple)
deriving DecidableEq

/-- The flow that the thread adds. -/
def Vendor.tuple : Vendor → Option FourTuple
  | .waiting => none
  | .absent tuple _ => some tuple
  | .entered tuple _ => some tuple
  | .assigned tuple => some tuple

def FromController.isNatAdd : FromController → Bool
  | .natAdd _ _ _ => true
  | _ => false

def Sender.asksPort : Sender → Bool
  | .message (.portTranslation _ _) => true
  | _ => false

/-- The site, and where the two threads of each access point are. -/
structure Threads (AP : Type) where
  net : Net AP
  uplink : AP → Uplink
  vendor : AP → Vendor

namespace Threads
variable {AP : Type}

/-- The threads wait. -/
def resting (net : Net AP) : Threads AP := ⟨net,fun _ => .waiting,fun _ => .waiting⟩

/-- One step of one thread; those that are not taken apart are events of the site. -/
inductive Action (AP : Type) where
  | other (e : Net.Event AP)
  | intercept (a : AP) (hwAddr : Mac) (data : Packet)
  | accept (a : AP)
  | addPortData (a : AP)
  | request (a : AP)
  | receiveNatAdd (a : AP)
  | addEntry (a : AP)
  | assignPort (a : AP)
  | reinject (a : AP)

/-- The event is not one that is taken apart; the thread of a connection handles one
    message at a time. -/
def admits (s : Threads AP) : Net.Event AP → Bool
  | .uplink _ _ _ => false
  | .deliver a => s.vendor a = .waiting && !(s.net.inbox a).head?.any FromController.isNatAdd
  | _ => true

/-- The message is taken from the connection. -/
def take (s : Threads AP) (sw : IOFSwitch) (rest : List FromController) : Threads AP :=
  { s with net := { s.net with down := Function.update s.net.down sw rest } }

variable [DecidableEq AP]

/-- A step at one access point, with the packets that it takes in and gives a verdict. -/
def act (s : Threads AP) (a : AP) (ap : AccessPoint) (uplink : Uplink) (vendor : Vendor) (fresh : List (Arrival AP))
    (verdicts : List Verdict) : Threads AP where
  net := { s.net.setAP a ap with arrivals := s.net.arrivals ++ fresh, transit := s.net.transit ++ verdicts }
  uplink := Function.update s.uplink a uplink
  vendor := Function.update s.vendor a vendor

def step (cfg : Config AP) (s : Threads AP) : Action AP → Option (Threads AP)
  | .other e => if s.admits e then (Net.step cfg s.net e).map (fun net => { s with net := net }) else none
  | .intercept a hwAddr data =>
    match s.uplink a with
    | .waiting =>
      if Packet.inSubnet (cfg.ap a).subnet data.tuple.sourceIP then
        (lookupPortMapQ0 (s.net.ap a).entryList data.tuple).map (fun nMap =>
          s.act a (s.net.ap a)
            (if nMap.isSome then .found s.net.arrivals.length data else .missed s.net.arrivals.length hwAddr data)
            (s.vendor a) [⟨a,hwAddr,data⟩] [])
      else some (s.act a (s.net.ap a) .waiting (s.vendor a) [⟨a,hwAddr,data⟩] [⟨s.net.arrivals.length,data⟩])
    | _ => none
  | .accept a =>
    match s.uplink a with
    | .found packetId data => (lookupPortMapQ0 (s.net.ap a).entryList data.tuple).join.map (fun nMap =>
        s.act a (s.net.ap a) .waiting (s.vendor a) [] [⟨packetId,AccessPoint.outbound (cfg.ap a) nMap data⟩])
    | _ => none
  | .addPortData a =>
    match s.uplink a with
    | .missed packetId hwAddr data =>
      ((s.net.ap a).portQueue.push data.tuple.destinationIP.o3.toNat ⟨packetId,data⟩).map (fun portQueue =>
        s.act a { s.net.ap a with portQueue := portQueue } (.queued hwAddr data.tuple) (s.vendor a) [] [])
    | _ => none
  | .request a =>
    match s.uplink a with
    | .queued hwAddr tuple =>
      some (s.act a ((s.net.ap a).spawn (.message (.portTranslation hwAddr tuple))) .waiting (s.vendor a) [] [])
    | _ => none
  | .receiveNatAdd a =>
    match s.vendor a, s.net.sock a with
    | .waiting, some sw =>
      match s.net.down sw with
      | .natAdd _ tuple newPort :: rest => (lookupPortMapQ0 (s.net.ap a).entryList tuple).map (fun nMap =>
          (s.take sw rest).act a (s.net.ap a) (s.uplink a)
            (if nMap.isSome then .entered tuple newPort else .absent tuple newPort) [] [])
      | _ => none
    | _, _ => none
  | .addEntry a =>
    match s.vendor a with
    | .absent tuple newPort => (addEntry (s.net.ap a).entryList tuple).map (fun entryList =>
        s.act a { s.net.ap a with entryList := entryList } (s.uplink a) (.entered tuple newPort) [] [])
    | _ => none
  | .assignPort a =>
    match s.vendor a with
    | .entered tuple newPort =>
      ((s.net.ap a).entryList.update tuple.destinationIP.o3.toNat (fun nMap => nMap.toFourTuple = tuple)
        (fun nMap => { nMap with newPort := newPort })).map (fun entryList =>
          s.act a { s.net.ap a with entryList := entryList } (s.uplink a) (.assigned tuple) [] [])
    | _ => none
  | .reinject a =>
    match s.vendor a with
    | .assigned tuple =>
      some (s.act a { s.net.ap a with reinjecting := (s.net.ap a).reinjecting ++ [tuple] } (s.uplink a) .waiting [] [])
    | _ => none

/-! ### What a step can do -/

/-- The steps of the threads that are taken apart. -/
inductive Acts (cfg : Config AP) (s : Threads AP) (a : AP) : Threads AP → Prop where
  | passed {hwAddr : Mac} {data : Packet} (idle : s.uplink a = .waiting) :
    Acts cfg s a (s.act a (s.net.ap a) .waiting (s.vendor a) [⟨a,hwAddr,data⟩] [⟨s.net.arrivals.length,data⟩])
  | found {hwAddr : Mac} {data : Packet} (idle : s.uplink a = .waiting) :
    Acts cfg s a (s.act a (s.net.ap a) (.found s.net.arrivals.length data) (s.vendor a) [⟨a,hwAddr,data⟩] [])
  | missed {hwAddr : Mac} {data : Packet} (idle : s.uplink a = .waiting) :
    Acts cfg s a (s.act a (s.net.ap a) (.missed s.net.arrivals.length hwAddr data) (s.vendor a) [⟨a,hwAddr,data⟩] [])
  | accepted {packetId : Nat} {data payload : Packet} (isStage : s.uplink a = .found packetId data) :
    Acts cfg s a (s.act a (s.net.ap a) .waiting (s.vendor a) [] [⟨packetId,payload⟩])
  | queued {packetId : Nat} {hwAddr : Mac} {data : Packet} {portQueue : Buckets PortData}
    (isStage : s.uplink a = .missed packetId hwAddr data)
    (pushed : (s.net.ap a).portQueue.push data.tuple.destinationIP.o3.toNat ⟨packetId,data⟩ = some portQueue) :
    Acts cfg s a (s.act a { s.net.ap a with portQueue := portQueue } (.queued hwAddr data.tuple) (s.vendor a) [] [])
  | requested {hwAddr : Mac} {tuple : FourTuple} (isStage : s.uplink a = .queued hwAddr tuple) :
    Acts cfg s a (s.act a ((s.net.ap a).spawn (.message (.portTranslation hwAddr tuple))) .waiting (s.vendor a) [] [])
  | received {sw : IOFSwitch} {sta : Mac} {tuple : FourTuple} {newPort : UInt16} {rest : List FromController}
    {vendor : Vendor} (idle : s.vendor a = .waiting) (connected : s.net.sock a = some sw)
    (waiting : s.net.down sw = .natAdd sta tuple newPort :: rest) (isTuple : vendor.tuple = some tuple) :
    Acts cfg s a ((s.take sw rest).act a (s.net.ap a) (s.uplink a) vendor [] [])
  | entered {entryList : Buckets NATMap} {vendor : Vendor} (isTuple : vendor.tuple = (s.vendor a).tuple) :
    Acts cfg s a (s.act a { s.net.ap a with entryList := entryList } (s.uplink a) vendor [] [])
  | started {tuple : FourTuple} (isStage : s.vendor a = .assigned tuple) :
    Acts cfg s a
      (s.act a { s.net.ap a with reinjecting := (s.net.ap a).reinjecting ++ [tuple] } (s.uplink a) .waiting [] [])

theorem step_other {cfg : Config AP} {s s' : Threads AP} {e : Net.Event AP} (stepped : step cfg s (.other e) = some s') :
    s.admits e = true ∧ Net.step cfg s.net e = some s'.net ∧ s'.uplink = s.uplink ∧ s'.vendor = s.vendor := by
  simp only [step] at stepped
  split at stepped
  · obtain ⟨net,isNet,rfl⟩ := Option.map_eq_some_iff.mp stepped
    exact ⟨‹_›,isNet,rfl,rfl⟩
  · cases stepped

theorem acts_step {cfg : Config AP} {s s' : Threads AP} {action : Action AP} (stepped : step cfg s action = some s') :
    (∃ e, action = .other e) ∨ ∃ a, Acts cfg s a s' := by
  cases action with
  | other e => exact .inl ⟨e,rfl⟩
  | intercept a hwAddr data =>
    refine .inr ⟨a,?_⟩
    simp only [step] at stepped
    split at stepped
    · rename_i idle
      split at stepped
      · obtain ⟨nMap,_,rfl⟩ := Option.map_eq_some_iff.mp stepped
        split
        · exact .found idle
        · exact .missed idle
      · cases stepped
        exact .passed idle
    · cases stepped
  | accept a =>
    refine .inr ⟨a,?_⟩
    simp only [step] at stepped
    split at stepped
    · rename_i isStage
      obtain ⟨nMap,_,rfl⟩ := Option.map_eq_some_iff.mp stepped
      exact .accepted isStage
    · cases stepped
  | addPortData a =>
    refine .inr ⟨a,?_⟩
    simp only [step] at stepped
    split at stepped
    · rename_i isStage
      obtain ⟨portQueue,pushed,rfl⟩ := Option.map_eq_some_iff.mp stepped
      exact .queued isStage pushed
    · cases stepped
  | request a =>
    refine .inr ⟨a,?_⟩
    simp only [step] at stepped
    split at stepped
    · rename_i isStage
      cases stepped
      exact .requested isStage
    · cases stepped
  | receiveNatAdd a =>
    refine .inr ⟨a,?_⟩
    simp only [step] at stepped
    split at stepped
    · rename_i idle connected
      split at stepped
      · rename_i waiting
        obtain ⟨nMap,_,rfl⟩ := Option.map_eq_some_iff.mp stepped
        refine .received idle connected waiting ?_
        split <;> rfl
      · cases stepped
    · cases stepped
  | addEntry a =>
    refine .inr ⟨a,?_⟩
    simp only [step] at stepped
    split at stepped
    · rename_i isStage
      obtain ⟨entryList,_,rfl⟩ := Option.map_eq_some_iff.mp stepped
      exact .entered (by rw [isStage]; rfl)
    · cases stepped
  | assignPort a =>
    refine .inr ⟨a,?_⟩
    simp only [step] at stepped
    split at stepped
    · rename_i isStage
      obtain ⟨entryList,_,rfl⟩ := Option.map_eq_some_iff.mp stepped
      exact .entered (by rw [isStage]; rfl)
    · cases stepped
  | reinject a =>
    refine .inr ⟨a,?_⟩
    simp only [step] at stepped
    split at stepped
    · rename_i isStage
      cases stepped
      exact .started isStage
    · cases stepped

section act
variable (s : Threads AP) (a : AP) (ap : AccessPoint) (uplink : Uplink) (vendor : Vendor) (fresh : List (Arrival AP))
  (verdicts : List Verdict)

theorem local_act : Net.Local s.net (s.act a ap uplink vendor fresh verdicts).net a [] :=
  ⟨rfl,fun _ other => Function.update_of_ne other _ _,rfl,rfl,rfl,rfl,rfl,rfl,fun _ => by simp [act,Net.setAP]⟩

@[simp] theorem ap_act : (s.act a ap uplink vendor fresh verdicts).net.ap a = ap := Function.update_self _ _ _

@[simp] theorem uplink_act : (s.act a ap uplink vendor fresh verdicts).uplink a = uplink := Function.update_self _ _ _

@[simp] theorem vendor_act : (s.act a ap uplink vendor fresh verdicts).vendor a = vendor := Function.update_self _ _ _

@[simp] theorem inbox_act (b : AP) : (s.act a ap uplink vendor fresh verdicts).net.inbox b = s.net.inbox b := rfl

@[simp] theorem outbox_act (b : AP) : (s.act a ap uplink vendor fresh verdicts).net.outbox b = s.net.outbox b := rfl

end act

/-! ### The steps in a row -/

theorem act_act (s : Threads AP) (a : AP) (ap ap' : AccessPoint) (uplink uplink' : Uplink) (vendor vendor' : Vendor)
    (fresh fresh' : List (Arrival AP)) (verdicts verdicts' : List Verdict) :
    (s.act a ap uplink vendor fresh verdicts).act a ap' uplink' vendor' fresh' verdicts' =
      s.act a ap' uplink' vendor' (fresh ++ fresh') (verdicts ++ verdicts') := by
  simp [act,Net.setAP,Function.update_idem]

theorem resting_act (net : Net AP) (a : AP) (ap : AccessPoint) (fresh : List (Arrival AP)) (verdicts : List Verdict) :
    (resting net).act a ap .waiting .waiting fresh verdicts =
      resting { net.setAP a ap with arrivals := net.arrivals ++ fresh, transit := net.transit ++ verdicts } := by
  simp [act,resting]

omit [DecidableEq AP] in
theorem send_nil (net : Net AP) (a : AP) : net.send a [] = net := by
  unfold Net.send
  split <;> simp

/-- An uplink packet as one event is the steps of its thread without interruption. -/
theorem resting_uplink {cfg : Config AP} {net net' : Net AP} {a : AP} {hwAddr : Mac} {data : Packet}
    (stepped : Net.step cfg net (.uplink a hwAddr data) = some net') :
    ∃ actions, Run.run (step cfg) (resting net) actions = some (resting net') := by
  obtain ⟨⟨ap,verdict⟩,handled,rfl⟩ := Option.map_eq_some_iff.mp stepped
  unfold AccessPoint.handleUplink at handled
  split at handled
  · rename_i inside
    obtain ⟨nMap,found,rest⟩ := Option.bind_eq_some_iff.mp handled
    cases nMap with
    | some nMap =>
      cases rest
      have intercepted : step cfg (resting net) (.intercept a hwAddr data) = some ((resting net).act a (net.ap a)
          (.found net.arrivals.length data) .waiting [⟨a,hwAddr,data⟩] []) := by simp [step,resting,inside,found]
      refine ⟨[.intercept a hwAddr data,.accept a],?_⟩
      rw [Run.run,intercepted,Option.bind_some,Run.run]
      simp [step,found,act_act,resting_act]
    | none =>
      obtain ⟨portQueue,pushed,same⟩ := Option.map_eq_some_iff.mp rest
      cases same
      have intercepted : step cfg (resting net) (.intercept a hwAddr data) = some ((resting net).act a (net.ap a)
          (.missed net.arrivals.length hwAddr data) .waiting [⟨a,hwAddr,data⟩] []) := by simp [step,resting,inside,found]
      have queued : step cfg ((resting net).act a (net.ap a) (.missed net.arrivals.length hwAddr data) .waiting
          [⟨a,hwAddr,data⟩] []) (.addPortData a) = some ((resting net).act a { net.ap a with portQueue := portQueue }
          (.queued hwAddr data.tuple) .waiting [⟨a,hwAddr,data⟩] []) := by simp [step,pushed,act_act]
      refine ⟨[.intercept a hwAddr data,.addPortData a,.request a],?_⟩
      rw [Run.run,intercepted,Option.bind_some,Run.run,queued,Option.bind_some,Run.run]
      simp [step,act_act,resting_act]
  · rename_i outside
    cases handled
    refine ⟨[.intercept a hwAddr data],?_⟩
    have passed : step cfg (resting net) (.intercept a hwAddr data) = some ((resting net).act a (net.ap a) .waiting
        .waiting [⟨a,hwAddr,data⟩] [⟨net.arrivals.length,data⟩]) := by simp [step,resting,outside]
    rw [Run.run,passed,resting_act]
    rfl

/-- So is a new flow as one event. -/
theorem resting_natAdd {cfg : Config AP} {net net' : Net AP} {a : AP} {sw : IOFSwitch} {sta : Mac} {tuple : FourTuple}
    {newPort : UInt16} {rest : List FromController} (connected : net.sock a = some sw)
    (waiting : net.down sw = .natAdd sta tuple newPort :: rest) (stepped : Net.step cfg net (.deliver a) = some net') :
    ∃ actions, Run.run (step cfg) (resting net) actions = some (resting net') := by
  simp only [Net.step,connected,waiting,Option.bind_some,AccessPoint.handleVendor,Option.map_map] at stepped
  obtain ⟨entryList,added,rfl⟩ := Option.map_eq_some_iff.mp stepped
  obtain ⟨nMap,found,added⟩ := Option.bind_eq_some_iff.mp added
  obtain ⟨table,present,updated⟩ := Option.bind_eq_some_iff.mp added
  -- once the entry is there the port is assigned and the thread started
  have assigned : step cfg (((resting net).take sw rest).act a { net.ap a with entryList := table } .waiting
      (.entered tuple newPort) [] []) (.assignPort a) = some (((resting net).take sw rest).act a
      { net.ap a with entryList := entryList } .waiting (.assigned tuple) [] []) := by simp [step,updated,act_act]
  have started : step cfg (((resting net).take sw rest).act a { net.ap a with entryList := entryList } .waiting
      (.assigned tuple) [] []) (.reinject a) = some (((resting net).take sw rest).act a
      { net.ap a with entryList := entryList, reinjecting := (net.ap a).reinjecting ++ [tuple] } .waiting .waiting [] []) := by
    simp [step,act_act]
  have isFinal : ((resting net).take sw rest).act a
      { net.ap a with entryList := entryList, reinjecting := (net.ap a).reinjecting ++ [tuple] } .waiting .waiting [] [] =
      resting (({ net with down := Function.update net.down sw rest }.setAP a
        { net.ap a with entryList := entryList, reinjecting := (net.ap a).reinjecting ++ [tuple] }).send a []) := by
    rw [send_nil,show (resting net).take sw rest = resting { net with down := Function.update net.down sw rest } from rfl,
      resting_act]
    simp [Net.setAP]
  cases nMap with
  | some nMap =>
    cases present
    have received : step cfg (resting net) (.receiveNatAdd a) = some (((resting net).take sw rest).act a (net.ap a) .waiting
        (.entered tuple newPort) [] []) := by simp [step,resting,connected,waiting,found]
    refine ⟨[.receiveNatAdd a,.assignPort a,.reinject a],?_⟩
    rw [Run.run,received,Option.bind_some,Run.run,assigned,Option.bind_some,Run.run,started,isFinal]
    rfl
  | none =>
    have received : step cfg (resting net) (.receiveNatAdd a) = some (((resting net).take sw rest).act a (net.ap a) .waiting
        (.absent tuple newPort) [] []) := by simp [step,resting,connected,waiting,found]
    have entered : step cfg (((resting net).take sw rest).act a (net.ap a) .waiting (.absent tuple newPort) [] [])
        (.addEntry a) = some (((resting net).take sw rest).act a { net.ap a with entryList := table } .waiting
        (.entered tuple newPort) [] []) := by
      simp only [Option.isSome_none,Bool.false_eq_true,if_false] at present
      simp [step,present,act_act]
    refine ⟨[.receiveNatAdd a,.addEntry a,.assignPort a,.reinject a],?_⟩
    rw [Run.run,received,Option.bind_some,Run.run,entered,Option.bind_some,Run.run,assigned,Option.bind_some,Run.run,started,
      isFinal]
    rfl

/-- Every event of the site is a run of the threads. -/
theorem resting_step {cfg : Config AP} {net net' : Net AP} {e : Net.Event AP} (stepped : Net.step cfg net e = some net') :
    ∃ actions, Run.run (step cfg) (resting net) actions = some (resting net') := by
  have whole : (resting net).admits e = true → ∃ actions, Run.run (step cfg) (resting net) actions = some (resting net') := by
    intro isAdmitted
    refine ⟨[.other e],?_⟩
    have once : step cfg (resting net) (.other e) = some (resting net') := by
      rw [step,if_pos isAdmitted,show (resting net).net = net from rfl,stepped]
      rfl
    rw [Run.run,once]
    rfl
  cases e with
  | uplink a hwAddr data => exact resting_uplink stepped
  | deliver a =>
    obtain ⟨sw,msg,rest,_,connected,waiting,_⟩ := Net.step_deliver stepped
    cases msg with
    | natAdd sta tuple newPort => exact resting_natAdd connected waiting stepped
    | _ => exact whole (by simp [admits,resting,Net.inbox,connected,waiting,FromController.isNatAdd])
  | _ => exact whole rfl

/-- So is every run of the site. -/
theorem resting_run {cfg : Config AP} {net net' : Net AP} {events : List (Net.Event AP)}
    (ran : Run.run (Net.step cfg) net events = some net') :
    ∃ actions, Run.run (step cfg) (resting net) actions = some (resting net') := by
  induction events generalizing net with
  | nil =>
    cases ran
    exact ⟨[],rfl⟩
  | cons e rest ih =>
    obtain ⟨next,stepped,onward⟩ := (Run.run_cons net net' e rest).mp ran
    obtain ⟨first,ranFirst⟩ := resting_step stepped
    obtain ⟨second,ranSecond⟩ := ih onward
    exact ⟨first ++ second,(Run.run_append _ _ first second).mpr ⟨_,ranFirst,ranSecond⟩⟩

/-- The access point and its threads are the same. -/
structure Same (s s' : Threads AP) (a : AP) : Prop where
  ap : s'.net.ap a = s.net.ap a
  uplink : s'.uplink a = s.uplink a
  vendor : s'.vendor a = s.vendor a
  inbox : s'.net.inbox a = s.net.inbox a
  outbox : s'.net.outbox a = s.net.outbox a

theorem inbox_take {cfg : Config AP} {s : Threads AP} (linked : Net.Linked cfg s.net) {a : AP} {sw : IOFSwitch}
    (connected : s.net.sock a = some sw) (rest : List FromController) (b : AP) :
    (s.take sw rest).net.inbox b = if b = a then rest else s.net.inbox b := by
  split
  · rename_i same
    subst same
    simp [take,Net.inbox,connected]
  · rename_i other
    cases connected' : s.net.sock b with
    | none => simp [take,Net.inbox,connected']
    | some sw' =>
      have different : sw' ≠ sw := by
        rintro rfl
        exact linked.apart other connected connected'
      simp [take,Net.inbox,connected',Function.update_of_ne different]

theorem same_act (s : Threads AP) {a b : AP} (other : b ≠ a) (ap : AccessPoint) (uplink : Uplink) (vendor : Vendor)
    (fresh : List (Arrival AP)) (verdicts : List Verdict) : Same s (s.act a ap uplink vendor fresh verdicts) b :=
  ⟨Function.update_of_ne other _ _,Function.update_of_ne other _ _,Function.update_of_ne other _ _,rfl,rfl⟩

/-- What the threads of one access point do is no concern of the others. -/
theorem Acts.elsewhere {cfg : Config AP} {s s' : Threads AP} {a b : AP} (linked : Net.Linked cfg s.net)
    (acts : Acts cfg s a s') (other : b ≠ a) : Same s s' b := by
  cases acts with
  | @received sw sta tuple newPort rest vendor idle connected waiting isTuple =>
    have same := same_act (s.take sw rest) other (s.net.ap a) (s.uplink a) vendor [] []
    exact ⟨same.ap,same.uplink,same.vendor,by rw [same.inbox,inbox_take linked connected,if_neg other],same.outbox⟩
  | _ => exact same_act s other _ _ _ _ _

theorem Acts.linked {cfg : Config AP} {s s' : Threads AP} {a : AP} (linked : Net.Linked cfg s.net)
    (acts : Acts cfg s a s') : Net.Linked cfg s'.net := by
  have quiet : ∀ {ap : AccessPoint} {uplink : Uplink} {vendor : Vendor} {fresh : List (Arrival AP)} {verdicts : List Verdict},
      ap.sending = (s.net.ap a).sending → Net.Linked cfg (s.act a ap uplink vendor fresh verdicts).net := by
    intro ap uplink vendor fresh verdicts sending
    refine linked.local (local_act s a _ _ _ _ _) (fun thread member => .inl ?_) (by simp) (fun _ _ => id)
    rwa [ap_act,sending] at member
  cases acts with
  | requested isStage =>
    refine linked.local (local_act s a _ _ _ _ _) (fun thread member => ?_) (by simp) (fun _ _ => id)
    rw [ap_act,AccessPoint.spawn,List.mem_append,List.mem_singleton] at member
    refine member.imp_right (fun isNew => ?_)
    rw [isNew]
    exact ⟨.inr ⟨_,_,rfl⟩,rfl⟩
  | @received sw sta tuple newPort rest vendor idle connected waiting isTuple =>
    obtain ⟨controller,others,sock,gwSock,opened,closed,gateway,emitted,up⟩ :=
      local_act (s.take sw rest) a (s.net.ap a) (s.uplink a) vendor [] []
    refine linked.local ⟨controller,others,sock,gwSock,opened,closed,gateway,emitted,up⟩ (fun thread member => .inl ?_)
      (by simp) (fun sw' msg member => Net.mem_of_mem_dequeue waiting member)
    rwa [ap_act] at member
  | _ => exact quiet rfl

theorem linked_step {cfg : Config AP} {s s' : Threads AP} {action : Action AP} (linked : Net.Linked cfg s.net)
    (stepped : step cfg s action = some s') : Net.Linked cfg s'.net := by
  rcases acts_step stepped with ⟨e,rfl⟩ | ⟨a,acts⟩
  · exact Net.linked_step cfg _ e _ linked (step_other stepped).2.1
  · exact acts.linked linked

/-! ### Verdicts -/

/-- The packets that have had a verdict, whether or not the gateway has forwarded them. -/
def verdicts (s : Threads AP) : List Nat := (s.net.transit ++ s.net.emitted).map (·.packetId)

/-- The packets that the access point holds back. -/
def held (s : Threads AP) (a : AP) : List Nat := (s.net.ap a).portQueue.contents.map (·.packetId) ++ (s.uplink a).ids

/-- Every packet that has come has had one verdict at most, or is held once where it
    came. -/
structure Counted (s : Threads AP) : Prop where
  once : s.verdicts.Nodup
  held : ∀ a, (s.held a).Nodup
  owned : ∀ a, ∀ packetId ∈ s.held a, packetId ∉ s.verdicts ∧
    ∃ arrival, s.net.arrivals[packetId]? = some arrival ∧ arrival.ap = a
  known : ∀ packetId ∈ s.verdicts, packetId < s.net.arrivals.length

omit [DecidableEq AP] in
theorem counted_resting (cfg : Config AP) : Counted (resting (Net.init cfg)) := by
  have none_ : ∀ a, (resting (Net.init cfg)).held a = [] := by
    intro a
    simp [Threads.held,resting,Net.init,AccessPoint.init,Buckets.contents_empty,Uplink.ids]
  refine ⟨by simp [verdicts,resting,Net.init],fun a => by rw [none_]; exact List.nodup_nil,fun a packetId member => ?_,?_⟩
  · rw [none_] at member
    cases member
  · simp [verdicts,resting,Net.init]

omit [DecidableEq AP] in
/-- Packets come to one access point, or leave it with a verdict. -/
theorem Counted.moves {s s' : Threads AP} (counted : Counted s) {a : AP} {fresh : List (Arrival AP)} {out : List Nat}
    (arrivals : s'.net.arrivals = s.net.arrivals ++ fresh) (here : ∀ arrival ∈ fresh, arrival.ap = a)
    (others : ∀ b, b ≠ a → s'.held b = s.held b) (verdicts : s'.verdicts.Perm (s.verdicts ++ out))
    (held : (out ++ s'.held a).Perm (s.held a ++ List.range' s.net.arrivals.length fresh.length)) : Counted s' := by
  have inside : ∀ {b packetId}, packetId ∈ s.held b → packetId < s.net.arrivals.length := by
    intro b packetId member
    obtain ⟨_,arrival,found,_⟩ := counted.owned b packetId member
    exact (List.getElem?_eq_some_iff.mp found).1
  -- all that there was and that comes is one list without repetition, which the step permutes
  have total : (s.verdicts ++ (s.held a ++ List.range' s.net.arrivals.length fresh.length)).Nodup := by
    refine List.nodup_append.mpr ⟨counted.once,List.nodup_append.mpr ⟨counted.held a,List.nodup_range',?_⟩,?_⟩
    · intro one isHeld two isNew same
      have := inside isHeld
      have := (List.mem_range'_1.mp isNew).1
      omega
    · intro one isVerdict two later same
      subst same
      rcases List.mem_append.mp later with isHeld | isNew
      · exact (counted.owned a one isHeld).1 isVerdict
      · have := counted.known one isVerdict
        have := (List.mem_range'_1.mp isNew).1
        omega
  have permuted : (s'.verdicts ++ s'.held a).Perm
      (s.verdicts ++ (s.held a ++ List.range' s.net.arrivals.length fresh.length)) :=
    (verdicts.append_right _).trans (by rw [List.append_assoc]; exact held.append_left _)
  have total' := permuted.nodup_iff.mpr total
  have arrived : ∀ {b packetId}, packetId ∈ s.held b → ∃ arrival, s'.net.arrivals[packetId]? = some arrival ∧ arrival.ap = b := by
    intro b packetId member
    obtain ⟨_,arrival,found,isAP⟩ := counted.owned b packetId member
    exact ⟨arrival,by rw [arrivals,List.getElem?_append_left (inside member)]; exact found,isAP⟩
  refine ⟨(List.nodup_append.mp total').1,fun b => ?_,fun b packetId member => ?_,fun packetId member => ?_⟩
  · by_cases same : b = a
    · exact same ▸ (List.nodup_append.mp total').2.1
    · rw [others b same]
      exact counted.held b
  · by_cases same : b = a
    · subst same
      refine ⟨fun isVerdict => (List.nodup_append.mp total').2.2 _ isVerdict _ member rfl,?_⟩
      rcases List.mem_append.mp (held.subset (List.mem_append_right _ member)) with isHeld | isNew
      · exact arrived isHeld
      · obtain ⟨low,high⟩ := List.mem_range'_1.mp isNew
        have bound : packetId - s.net.arrivals.length < fresh.length := by omega
        refine ⟨fresh[packetId - s.net.arrivals.length],?_,here _ (List.getElem_mem _)⟩
        rw [arrivals,List.getElem?_append_right low,List.getElem?_eq_getElem bound]
    · rw [others b same] at member
      refine ⟨fun isVerdict => ?_,arrived member⟩
      rcases List.mem_append.mp (verdicts.subset isVerdict) with old | isOut
      · exact (counted.owned b packetId member).1 old
      · rcases List.mem_append.mp (held.subset (List.mem_append_left _ isOut)) with isHeld | isNew
        · obtain ⟨_,arrival,found,isHere⟩ := counted.owned a packetId isHeld
          obtain ⟨_,arrival',found',isThere⟩ := counted.owned b packetId member
          cases found.symm.trans found'
          exact same (isThere.symm.trans isHere)
        · have := inside member
          have := (List.mem_range'_1.mp isNew).1
          omega
  · rw [arrivals,List.length_append]
    rcases List.mem_append.mp (verdicts.subset member) with old | isOut
    · have := counted.known packetId old
      omega
    · rcases List.mem_append.mp (held.subset (List.mem_append_left _ isOut)) with isHeld | isNew
      · have := inside isHeld
        omega
      · exact (List.mem_range'_1.mp isNew).2

omit [DecidableEq AP] in
/-- Neither packets nor queues change. -/
theorem Counted.still {s s' : Threads AP} (counted : Counted s) (arrivals : s'.net.arrivals = s.net.arrivals)
    (transit : s'.net.transit = s.net.transit) (emitted : s'.net.emitted = s.net.emitted)
    (queues : ∀ a, (s'.net.ap a).portQueue = (s.net.ap a).portQueue) (uplink : s'.uplink = s.uplink) : Counted s' := by
  have sameVerdicts : s'.verdicts = s.verdicts := by rw [verdicts,transit,emitted,verdicts]
  have sameHeld : ∀ a, s'.held a = s.held a := fun a => by rw [Threads.held,queues,uplink,Threads.held]
  exact ⟨sameVerdicts ▸ counted.once,fun a => sameHeld a ▸ counted.held a,
    fun a => by rw [sameHeld,sameVerdicts,arrivals]; exact counted.owned a,by rw [sameVerdicts,arrivals]; exact counted.known⟩

omit [DecidableEq AP] in
theorem perm_verdicts {s s' : Threads AP} {verdicts : List Verdict} (transit : s'.net.transit = s.net.transit ++ verdicts)
    (emitted : s'.net.emitted = s.net.emitted) :
    s'.verdicts.Perm (s.verdicts ++ verdicts.map (·.packetId)) := by
  rw [Threads.verdicts,transit,emitted,Threads.verdicts]
  simp only [List.map_append,List.append_assoc]
  exact List.perm_append_comm.append_left _

/-- A step of the threads of an access point, by what it holds afterwards. -/
theorem Counted.act {s : Threads AP} (counted : Counted s) {a : AP} {ap : AccessPoint} {uplink : Uplink} {vendor : Vendor}
    {fresh : List (Arrival AP)} {verdicts : List Verdict} (here : ∀ arrival ∈ fresh, arrival.ap = a)
    (held : (verdicts.map (·.packetId) ++ (ap.portQueue.contents.map (·.packetId) ++ uplink.ids)).Perm
      (s.held a ++ List.range' s.net.arrivals.length fresh.length)) :
    Counted (s.act a ap uplink vendor fresh verdicts) := by
  refine @Counted.moves _ s _ counted a fresh (verdicts.map (·.packetId)) rfl here (fun b other => ?_)
    (@perm_verdicts _ s (s.act a ap uplink vendor fresh verdicts) verdicts rfl rfl) ?_
  · have same := same_act s other ap uplink vendor fresh verdicts
    rw [Threads.held,same.ap,same.uplink,Threads.held]
  · simpa [Threads.held] using held

theorem Acts.counted {cfg : Config AP} {s s' : Threads AP} {a : AP} (counted : Counted s) (acts : Acts cfg s a s') :
    Counted s' := by
  cases acts with
  | passed idle =>
    refine counted.act (by simp) ?_
    simpa [Threads.held,idle,Uplink.ids] using (List.perm_append_singleton _ _).symm
  | found idle => exact counted.act (by simp) (by simp [Threads.held,idle,Uplink.ids])
  | missed idle => exact counted.act (by simp) (by simp [Threads.held,idle,Uplink.ids])
  | accepted isStage =>
    refine counted.act (by simp) ?_
    simpa [Threads.held,isStage,Uplink.ids] using (List.perm_append_singleton _ _).symm
  | queued isStage pushed =>
    refine counted.act (by simp) ?_
    have queue := (Buckets.contents_push pushed).map (·.packetId)
    simpa [Threads.held,isStage,Uplink.ids] using queue.trans (List.perm_append_singleton _ _).symm
  | requested isStage => exact counted.act (by simp) (by simp [Threads.held,isStage,Uplink.ids,AccessPoint.spawn])
  | @received sw sta tuple newPort rest vendor idle connected waiting isTuple =>
    have taken : Counted (s.take sw rest) := counted.still rfl rfl rfl (fun _ => rfl) rfl
    exact taken.act (by simp) (by simp [Threads.held,take])
  | entered isTuple => exact counted.act (by simp) (by simp [Threads.held])
  | started isStage => exact counted.act (by simp) (by simp [Threads.held])

/-- A reinjection gives verdicts to packets that it takes from the queue. -/
theorem Counted.reinjects {cfg : Config AP} {s s' : Threads AP} (counted : Counted s) {a : AP} {i : Nat}
    (isNet : Net.step cfg s.net (.reinject a i) = some s'.net) (uplink : s'.uplink = s.uplink) : Counted s' := by
  obtain ⟨verdicts,ran,here,_,arrivals,transit⟩ := Net.step_reinject isNet
  obtain ⟨tuple,nMap,chain,_,_,at_d,rfl,isNext⟩ := AccessPoint.reinjectPkt_spec ran
  refine @Counted.moves _ s _ counted a [] ((AccessPoint.reinjectChain (cfg.ap a) nMap chain).1.map (·.packetId))
    (by rw [arrivals,List.append_nil]) (by simp) (fun b other => ?_) (perm_verdicts transit here.emitted) ?_
  · rw [Threads.held,here.others b other,uplink,Threads.held]
  · have split := AccessPoint.perm_reinjectChain (cfg.ap a) nMap chain
    have changed := (Buckets.contents_set at_d (AccessPoint.reinjectChain (cfg.ap a) nMap chain).2).map (·.packetId)
    simp only [List.map_append] at changed
    -- the bucket's packets are those that leave and those that stay, and the latter cancel
    have whole := (((List.perm_append_comm.trans split).append_right _).trans changed)
    rw [List.append_assoc] at whole
    have left := (List.perm_append_left_iff _).mp whole
    simpa [Threads.held,isNext,uplink] using left.append_right (s.uplink a).ids

omit [DecidableEq AP] in
/-- The gateway forwards packets that have had their verdict. -/
theorem Counted.forwards {s s' : Threads AP} (counted : Counted s) {i : Nat} {verdict : Verdict} {data : Packet}
    (isVerdict : s.net.transit[i]? = some verdict) (transit : s'.net.transit = s.net.transit.eraseIdx i)
    (emitted : s'.net.emitted = ⟨verdict.packetId,data⟩ :: s.net.emitted) (arrivals : s'.net.arrivals = s.net.arrivals)
    (ap : s'.net.ap = s.net.ap) (uplink : s'.uplink = s.uplink) : Counted s' := by
  have same : s'.verdicts.Perm s.verdicts := by
    obtain ⟨bound,rfl⟩ := List.getElem?_eq_some_iff.mp isVerdict
    have erased := (List.getElem_cons_eraseIdx_perm bound).map (·.packetId)
    rw [verdicts,transit,emitted,verdicts]
    simpa using List.perm_middle.trans (erased.append_right _)
  have sameHeld : ∀ a, s'.held a = s.held a := fun a => by rw [Threads.held,ap,uplink,Threads.held]
  refine ⟨same.nodup_iff.mpr counted.once,fun a => sameHeld a ▸ counted.held a,fun a packetId member => ?_,
    fun packetId member => ?_⟩
  · rw [sameHeld] at member
    obtain ⟨noVerdict,arrived⟩ := counted.owned a packetId member
    exact ⟨fun isVerdict => noVerdict (same.subset isVerdict),arrivals ▸ arrived⟩
  · rw [arrivals]
    exact counted.known packetId (same.subset member)

theorem counted_step {cfg : Config AP} {s s' : Threads AP} {action : Action AP} (counted : Counted s)
    (stepped : step cfg s action = some s') : Counted s' := by
  rcases acts_step stepped with ⟨e,rfl⟩ | ⟨a,acts⟩
  · obtain ⟨isAdmitted,isNet,uplink,_⟩ := step_other stepped
    cases e with
    | uplink a hwAddr data => cases isAdmitted
    | reinject a i => exact counted.reinjects isNet uplink
    | gwForward i =>
      obtain ⟨verdict,gateway,data,isVerdict,_,isNext⟩ := Net.step_gwForward isNet
      exact counted.forwards isVerdict (by rw [isNext]) (by rw [isNext]) (by rw [isNext]) (by rw [isNext]) uplink
    | _ =>
      obtain ⟨arrivals,transit,emitted,queues⟩ := Net.packets_step isNet (by simp) (by simp) (by simp)
      exact counted.still arrivals transit emitted queues uplink
  · exact acts.counted counted

/-! ### What is pending -/

/-- What will release the queued packets of the flow: a request that is still to be
    sent or to be answered, an answer on its way or being handled, or a reinjection. -/
inductive Pending (s : Threads AP) (a : AP) (tuple : FourTuple) : Prop where
  | requested {hwAddr : Mac} (isStage : s.uplink a = .queued hwAddr tuple) : Pending s a tuple
  | asking {sta : Mac} (isThread : .message (.portTranslation sta tuple) ∈ (s.net.ap a).sending) : Pending s a tuple
  | asked {sta : Mac} (waiting : .portTranslation sta tuple ∈ s.net.outbox a) : Pending s a tuple
  | answered {sta : Mac} {newPort : UInt16} (waiting : .natAdd sta tuple newPort ∈ s.net.inbox a) : Pending s a tuple
  | adding (isStage : (s.vendor a).tuple = some tuple) : Pending s a tuple
  | reinjecting (isThread : tuple ∈ (s.net.ap a).reinjecting) : Pending s a tuple

/-- Every queued packet is in the bucket of its destination and has something pending. -/
def Covered (s : Threads AP) (a : AP) : Prop :=
  ∀ i chain, (s.net.ap a).portQueue.bucket i = some chain → ∀ temp ∈ chain,
    temp.packet.tuple.destinationIP.o3.toNat = i ∧ Pending s a temp.packet.tuple

/-- The connections lose nothing and no write fails, and ports are asked for over a
    connection. -/
def Dependable (s : Threads AP) : Action AP → Prop
  | .other (.thread a i) => (s.net.ap a).sending[i]?.any Sender.asksPort = true → (s.net.sock a).isSome = true
  | .other e => Net.Lossless s.net e
  | _ => True

omit [DecidableEq AP] in
theorem Dependable.lossless {s : Threads AP} {e : Net.Event AP} (dependable : Dependable s (.other e)) :
    Net.Lossless s.net e := by
  cases e <;> trivial

instance (s : Threads AP) (action : Action AP) : Decidable (Dependable s action) := by
  unfold Dependable
  split <;> infer_instance

omit [DecidableEq AP] in
theorem covered_resting (cfg : Config AP) (a : AP) : Covered (resting (Net.init cfg)) a := by
  intro i chain at_i temp member
  have empty : (Buckets.empty 255 : Buckets PortData).bucket i = some chain := at_i
  rw [Buckets.bucket_empty] at empty
  split at empty
  · cases empty
    cases member
  · cases empty

omit [DecidableEq AP] in
/-- Where the queue stays, it is enough that all that is pending is so afterwards. -/
theorem Covered.still {s s' : Threads AP} {a : AP} (covered : Covered s a)
    (queue : (s'.net.ap a).portQueue = (s.net.ap a).portQueue)
    (pending : ∀ tuple, Pending s a tuple → Pending s' a tuple) : Covered s' a := by
  intro i chain at_i temp member
  rw [queue] at at_i
  exact (covered i chain at_i temp member).imp_right (pending _)

omit [DecidableEq AP] in
/-- One more packet is queued, with something pending for it. -/
theorem Covered.push {s s' : Threads AP} {a : AP} (covered : Covered s a) {temp : PortData}
    (pushed : (s.net.ap a).portQueue.push temp.packet.tuple.destinationIP.o3.toNat temp = some (s'.net.ap a).portQueue)
    (pending : ∀ tuple, Pending s a tuple → Pending s' a tuple) (new : Pending s' a temp.packet.tuple) : Covered s' a := by
  obtain ⟨chain,at_d,isQueue⟩ := Option.map_eq_some_iff.mp pushed
  intro i chain' at_i temp' member
  rw [← isQueue,Buckets.bucket_set] at at_i
  split at at_i
  · rename_i same
    subst same
    obtain ⟨_,_,rfl⟩ := Option.map_eq_some_iff.mp at_i
    rcases List.mem_cons.mp member with rfl | later
    · exact ⟨rfl,new⟩
    · exact (covered _ chain at_d temp' later).imp_right (pending _)
  · exact (covered i chain' at_i temp' member).imp_right (pending _)

omit [DecidableEq AP] in
/-- Where the two threads stay, by what becomes of the rest. -/
theorem Pending.mono {s s' : Threads AP} {a : AP} {tuple : FourTuple} (pending : Pending s a tuple)
    (uplink : s'.uplink a = s.uplink a) (vendor : s'.vendor a = s.vendor a)
    (asking : ∀ sta, .message (.portTranslation sta tuple) ∈ (s.net.ap a).sending → Pending s' a tuple)
    (asked : ∀ sta, .portTranslation sta tuple ∈ s.net.outbox a → Pending s' a tuple)
    (answered : ∀ sta newPort, .natAdd sta tuple newPort ∈ s.net.inbox a → Pending s' a tuple)
    (reinjecting : tuple ∈ (s.net.ap a).reinjecting → Pending s' a tuple) : Pending s' a tuple := by
  cases pending with
  | requested isStage => exact .requested (uplink.trans isStage)
  | asking isThread => exact asking _ isThread
  | asked waiting => exact asked _ waiting
  | answered waiting => exact answered _ _ waiting
  | adding isStage => exact .adding (vendor ▸ isStage)
  | reinjecting isThread => exact reinjecting isThread

omit [DecidableEq AP] in
theorem Covered.same {s s' : Threads AP} {a : AP} (same : Same s s' a) (covered : Covered s a) : Covered s' a := by
  refine covered.still (by rw [same.ap]) (fun tuple pending => pending.mono same.uplink same.vendor ?_ ?_ ?_ ?_)
  · exact fun sta isThread => .asking (same.ap ▸ isThread)
  · exact fun sta waiting => .asked (same.outbox ▸ waiting)
  · exact fun sta newPort waiting => .answered (same.inbox ▸ waiting)
  · exact fun isThread => .reinjecting (same.ap ▸ isThread)

/-- A step of the uplink thread that does not leave a request behind. -/
theorem Pending.uplink {s : Threads AP} {a : AP} {tuple : FourTuple} (pending : Pending s a tuple)
    (noRequest : ∀ hwAddr, s.uplink a ≠ .queued hwAddr tuple) {ap : AccessPoint} (sending : (s.net.ap a).sending ⊆ ap.sending)
    (threads : ap.reinjecting = (s.net.ap a).reinjecting) (uplink : Uplink) (fresh : List (Arrival AP))
    (verdicts : List Verdict) : Pending (s.act a ap uplink (s.vendor a) fresh verdicts) a tuple := by
  cases pending with
  | requested isStage => exact absurd isStage (noRequest _)
  | asking isThread => exact .asking (by rw [ap_act]; exact sending isThread)
  | asked waiting => exact .asked waiting
  | answered waiting => exact .answered waiting
  | adding isStage => exact .adding (by rw [vendor_act]; exact isStage)
  | reinjecting isThread => exact .reinjecting (by rw [ap_act,threads]; exact isThread)

/-- A step of the connection's thread that goes on with the same flow. -/
theorem Pending.vendor {s : Threads AP} {a : AP} {tuple : FourTuple} (pending : Pending s a tuple) {ap : AccessPoint}
    (sending : ap.sending = (s.net.ap a).sending) (threads : (s.net.ap a).reinjecting ⊆ ap.reinjecting) {vendor : Vendor}
    (keeps : (s.vendor a).tuple = some tuple → vendor.tuple = some tuple ∨ tuple ∈ ap.reinjecting) :
    Pending (s.act a ap (s.uplink a) vendor [] []) a tuple := by
  cases pending with
  | requested isStage => exact .requested (by rw [uplink_act]; exact isStage)
  | asking isThread => exact .asking (by rw [ap_act,sending]; exact isThread)
  | asked waiting => exact .asked waiting
  | answered waiting => exact .answered waiting
  | adding isStage =>
    rcases keeps isStage with isStage' | isThread
    · exact .adding (by rw [vendor_act]; exact isStage')
    · exact .reinjecting (by rw [ap_act]; exact isThread)
  | reinjecting isThread => exact .reinjecting (by rw [ap_act]; exact threads isThread)

theorem Acts.covered {cfg : Config AP} {s s' : Threads AP} {a : AP} (linked : Net.Linked cfg s.net) (covered : Covered s a)
    (acts : Acts cfg s a s') : Covered s' a := by
  have searched : ∀ (uplink : Uplink) (fresh : List (Arrival AP)) (verdicts : List Verdict),
      (∀ hwAddr tuple, s.uplink a ≠ .queued hwAddr tuple) →
      Covered (s.act a (s.net.ap a) uplink (s.vendor a) fresh verdicts) a := by
    intro uplink fresh verdicts noRequest
    refine covered.still (by rw [ap_act]) (fun tuple pending => ?_)
    exact pending.uplink (fun _ => noRequest _ _) (List.Subset.refl _) rfl _ _ _
  cases acts with
  | passed idle => exact searched _ _ _ (by simp [idle])
  | found idle => exact searched _ _ _ (by simp [idle])
  | missed idle => exact searched _ _ _ (by simp [idle])
  | accepted isStage => exact searched _ _ _ (by simp [isStage])
  | @queued packetId hwAddr data portQueue isStage pushed =>
    refine @Covered.push _ s _ a covered ⟨packetId,data⟩ (by rw [ap_act]; exact pushed) (fun tuple' pending => ?_)
      (.requested (uplink_act ..))
    refine pending.uplink (by simp [isStage]) ?_ ?_ _ _ _
    · exact List.Subset.refl _
    · rfl
  | @requested hwAddr tuple isStage =>
    refine covered.still (by rw [ap_act]; rfl) (fun tuple' pending => ?_)
    by_cases same : tuple' = tuple
    · subst same
      exact .asking (by rw [ap_act]; exact List.mem_append_right _ List.mem_cons_self)
    · refine pending.uplink (by simp [isStage,Ne.symm same]) ?_ ?_ _ _ _
      · exact List.subset_append_left _ _
      · rfl
  | @received sw sta tuple newPort rest vendor idle connected waiting isTuple =>
    refine covered.still (by rw [ap_act]) (fun tuple' pending => ?_)
    cases pending with
    | requested isStage => exact .requested (by rw [uplink_act]; exact isStage)
    | asking isThread => exact .asking (by rw [ap_act]; exact isThread)
    | asked waiting => exact .asked waiting
    | @answered sta' newPort' waiting' =>
      have isInbox : s.net.inbox a = .natAdd sta tuple newPort :: rest := by simp [Net.inbox,connected,waiting]
      rw [isInbox] at waiting'
      rcases List.mem_cons.mp waiting' with taken | later
      · cases taken
        exact .adding (by rw [vendor_act]; exact isTuple)
      · exact .answered (by rw [inbox_act,inbox_take linked connected,if_pos rfl]; exact later)
    | adding isStage =>
      rw [idle] at isStage
      cases isStage
    | reinjecting isThread => exact .reinjecting (by rw [ap_act]; exact isThread)
  | entered isTuple =>
    refine covered.still (by rw [ap_act]) (fun tuple' pending => ?_)
    refine pending.vendor ?_ ?_ (fun isStage => .inl (isTuple ▸ isStage))
    · rfl
    · exact List.Subset.refl _
  | @started tuple isStage =>
    refine covered.still (by rw [ap_act]) (fun tuple' pending => ?_)
    refine pending.vendor ?_ ?_ (fun isStage' => .inr ?_)
    · rfl
    · exact List.subset_append_left _ _
    · rw [isStage] at isStage'
      cases isStage'
      exact List.mem_append_right _ List.mem_cons_self

omit [DecidableEq AP] in
/-- A reinjection ends after it has released all packets of its flow. -/
theorem Covered.reinjects {cfg : APConfig} {s s' : Threads AP} {a : AP} {i : Nat} {verdicts : List Verdict}
    (covered : Covered s a) (ran : (s.net.ap a).reinjectPkt cfg i = some (s'.net.ap a,verdicts))
    (uplink : s'.uplink a = s.uplink a) (vendor : s'.vendor a = s.vendor a) (inbox : s'.net.inbox a = s.net.inbox a)
    (outbox : s'.net.outbox a = s.net.outbox a) : Covered s' a := by
  obtain ⟨tuple,nMap,chain,isThread,found,at_d,_,isNext⟩ := AccessPoint.reinjectPkt_spec ran
  have isTuple : nMap.toFourTuple = tuple := by
    obtain ⟨_,_,first⟩ := Option.map_eq_some_iff.mp found
    simpa using List.find?_some first
  have goesOn : ∀ other, other ≠ tuple → Pending s a other → Pending s' a other := by
    intro other different pending
    have sending : (s'.net.ap a).sending = (s.net.ap a).sending := by rw [isNext]
    refine pending.mono uplink vendor (fun sta isThread' => .asking (sending ▸ isThread'))
      (fun sta waiting => .asked (outbox ▸ waiting)) (fun sta newPort waiting => .answered (inbox ▸ waiting))
      (fun isThread' => .reinjecting ?_)
    · rw [isNext]
      obtain ⟨j,isOther⟩ := List.mem_iff_getElem?.mp isThread'
      refine List.mem_eraseIdx_iff_getElem?.mpr ⟨j,?_,isOther⟩
      rintro rfl
      exact different (Option.some.inj (isOther.symm.trans isThread))
  intro j chain' at_j temp member
  rw [isNext,Buckets.bucket_set] at at_j
  split at at_j
  · rename_i same
    subst same
    obtain ⟨_,_,rfl⟩ := Option.map_eq_some_iff.mp at_j
    obtain ⟨before,different⟩ := (AccessPoint.mem_reinjectChain cfg nMap chain).2 temp member
    exact (covered _ chain at_d temp before).imp_right (goesOn _ (isTuple ▸ different))
  · rename_i elsewhere
    obtain ⟨isPlace,pending⟩ := covered j chain' at_j temp member
    refine ⟨isPlace,goesOn _ ?_ pending⟩
    rintro same
    rw [same] at isPlace
    exact elsewhere isPlace.symm

omit [DecidableEq AP] in
/-- A request that is handled is answered over its connection. -/
theorem answer_sent {net : Net AP} {a : AP} {sw : IOFSwitch} (connected : net.sock a = some sw) (sta : Mac)
    (tuple : FourTuple) : ∃ newPort, .natAdd sta tuple newPort ∈ net.sentTo (.receive sw (.portTranslation sta tuple) []) a := by
  have does := net.controller.does_step (.receive sw (.portTranslation sta tuple) [])
  suffices written : ∃ newPort, ⟨sw,.natAdd sta tuple newPort⟩ ∈
      (net.controller.step (.receive sw (.portTranslation sta tuple) [])).2 by
    obtain ⟨newPort,member⟩ := written
    exact ⟨newPort,Net.sentTo_of_mem connected member rfl⟩
  generalize (net.controller.step _).1 = c', (net.controller.step _).2 = writes at does ⊢
  cases does with
  | reported reports => cases reports
  | told found => exact ⟨_,by rw [Controller.writeAll_none]; exact List.mem_cons_self⟩
  | recorded fresh => exact ⟨_,by rw [Controller.writeAll_none]; exact List.mem_cons_self⟩

/-- The events that are not taken apart keep something pending for every packet. -/
theorem Covered.other {cfg : Config AP} {s s' : Threads AP} {a : AP} {e : Net.Event AP} (linked : Net.Linked cfg s.net)
    (dependable : Dependable s (.other e)) (isAdmitted : s.admits e = true)
    (isNet : Net.step cfg s.net e = some s'.net) (uplink : s'.uplink a = s.uplink a) (vendor : s'.vendor a = s.vendor a)
    (covered : Covered s a) : Covered s' a := by
  cases Net.sees_step linked dependable.lossless isNet a with
  | radio reacts controller inbox outbox =>
    obtain ⟨nat,sending⟩ := AccessPoint.react_nat reacts
    refine covered.still nat.portQueue (fun tuple pending => pending.mono uplink vendor (fun sta isThread => ?_)
      (fun sta waiting => ?_) (fun sta newPort waiting => ?_) (fun isThread => ?_))
    · exact .asking (sending isThread)
    · exact .asked (by rw [outbox]; exact List.mem_append_left _ waiting)
    · exact .answered (inbox ▸ waiting)
    · exact .reinjecting (nat.reinjecting ▸ isThread)
  | @thread i msg ran controller inbox outbox =>
    obtain ⟨thread,isThread,isMsg,sending,nat,_⟩ := AccessPoint.sendThread_spec ran
    refine covered.still nat.portQueue (fun tuple pending => pending.mono uplink vendor (fun sta isAsking => ?_)
      (fun sta waiting => ?_) (fun sta newPort waiting => ?_) (fun isThread => ?_))
    · by_cases same : thread = .message (.portTranslation sta tuple)
      · subst same
        have connected := dependable (by simp [isThread,Sender.asksPort])
        refine @Pending.asked _ s' a tuple sta ?_
        rw [outbox,Net.takes,if_pos connected,isMsg]
        exact List.mem_append_right _ List.mem_cons_self
      · obtain ⟨j,isAsking⟩ := List.mem_iff_getElem?.mp isAsking
        refine @Pending.asking _ s' a tuple sta ?_
        rw [sending]
        refine List.mem_eraseIdx_iff_getElem?.mpr ⟨j,?_,isAsking⟩
        rintro rfl
        exact same (Option.some.inj (isThread.symm.trans isAsking))
    · exact .asked (by rw [outbox]; exact List.mem_append_left _ waiting)
    · exact .answered (inbox ▸ waiting)
    · exact .reinjecting (nat.reinjecting ▸ isThread)
  | @deliver msg msgs handled controller inbox outbox =>
    have noAdd : msg.isNatAdd = false := by
      simp only [admits,Bool.and_eq_true,Bool.not_eq_true'] at isAdmitted
      simpa [inbox] using isAdmitted.2
    obtain ⟨sending,_⟩ := AccessPoint.handleVendor_sends handled
    rcases AccessPoint.handleVendor_nat handled with nat | ⟨_,_,_,rfl,_⟩
    · refine covered.still nat.portQueue (fun tuple pending => pending.mono uplink vendor (fun sta isThread => ?_)
        (fun sta waiting => ?_) (fun sta newPort waiting => ?_) (fun isThread => ?_))
      · exact .asking (sending ▸ isThread)
      · exact .asked (by rw [outbox]; exact List.mem_append_left _ waiting)
      · rw [inbox] at waiting
        rcases List.mem_cons.mp waiting with rfl | later
        · cases noAdd
        · exact .answered later
      · exact .reinjecting (nat.reinjecting ▸ isThread)
    · cases noAdd
  | uplink handled => cases isAdmitted
  | reinject ran controller inbox outbox => exact covered.reinjects ran uplink vendor inbox outbox
  | elsewhere noGiven ap controller inbox outbox => exact covered.same ⟨ap,uplink,vendor,inbox,outbox⟩
  | controls isGiven ap controller inbox outbox =>
    refine covered.still (by rw [ap]) (fun tuple pending => pending.mono uplink vendor (fun sta isThread => ?_)
      (fun sta waiting => ?_) (fun sta newPort waiting => ?_) (fun isThread => ?_))
    · exact .asking (ap ▸ isThread)
    · rw [outbox] at waiting
      rcases List.mem_append.mp waiting with handled | later
      · unfold Net.handledOf at handled
        split at handled
        · split at handled
          · rename_i sw msg failing connected
            cases List.mem_singleton.mp handled
            obtain ⟨rfl,_⟩ := Net.controlled_receive isGiven
            obtain ⟨newPort,sent⟩ := answer_sent connected sta tuple
            have noFailure : failing = [] := dependable.lossless
            subst noFailure
            exact .answered (by rw [inbox]; exact List.mem_append_right _ sent)
          · cases handled
        · cases handled
      · exact .asked later
    · exact .answered (by rw [inbox]; exact List.mem_append_left _ waiting)
    · exact .reinjecting (ap ▸ isThread)

theorem Acts.covers {cfg : Config AP} {s s' : Threads AP} {b : AP} (linked : Net.Linked cfg s.net)
    (covered : ∀ a, Covered s a) (acts : Acts cfg s b s') (a : AP) : Covered s' a := by
  by_cases same : a = b
  · subst same
    exact acts.covered linked (covered a)
  · exact (covered a).same (acts.elsewhere linked same)

theorem covered_step {cfg : Config AP} {s s' : Threads AP} {action : Action AP} (dependable : Dependable s action)
    (linked : Net.Linked cfg s.net) (covered : ∀ a, Covered s a) (stepped : step cfg s action = some s') (a : AP) :
    Covered s' a := by
  rcases acts_step stepped with ⟨e,rfl⟩ | ⟨b,acts⟩
  · obtain ⟨isAdmitted,isNet,uplink,vendor⟩ := step_other stepped
    exact (covered a).other linked dependable isAdmitted isNet (by rw [uplink]) (by rw [vendor])
  · exact acts.covers linked covered a

end Threads
end Handover
