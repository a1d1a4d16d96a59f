import Handover.Interleaving
import Handover.Streams

/-!
The uplink packets of an access point in the buffer that they are received in. The
thread of queue 0 reads the ports of a packet where a transport header would have them,
also where the packet has ended, and asks for the 4-tuple that it has read. The copy in
the queue has zeros there, and a reinjection compares the copy. A packet whose ports
are inside it gets at most one verdict, and has something pending for its own 4-tuple
as long as it is queued, in every interleaving of the threads.
-/
namespace Handover

/-- The ports of a packet that has them are read from it. -/
theorem Packet.WellFormed.tuple_append {p : Packet} (formed : p.WellFormed) (behind : Packet) :
    Packet.tuple (p ++ behind) = p.tuple := by
  obtain ⟨header,ports⟩ := formed
  have long : 20 ≤ p.transport := by unfold Packet.transport; omega
  have same : ∀ i, i < p.length → Bytes.byte (p ++ behind) i = Bytes.byte p i := fun i => Bytes.byte_append p behind
  have start : Packet.transport (p ++ behind) = p.transport := by
    rw [Packet.transport,Packet.headerWords,same 0 (by omega),Packet.transport,Packet.headerWords]
  have words : ∀ i, i + 1 < p.length → Bytes.word (p ++ behind) i = Bytes.word p i := fun i inside =>
    (Bytes.word_eq_iff _ _ i).mpr ⟨same i (by omega),same (i+1) inside⟩
  unfold Packet.tuple Packet.addressAt
  rw [start,words _ (by omega),words _ (by omega),same 12 (by omega),same 13 (by omega),same 14 (by omega),
    same 15 (by omega),same 16 (by omega),same 17 (by omega),same 18 (by omega),same 19 (by omega)]

/-- The site with its threads, and what follows in its buffer the packet that the uplink
    thread of each access point has. -/
structure Buffered (AP : Type) where
  threads : Threads AP
  behind : AP → List UInt8

namespace Buffered
variable {AP : Type}

def resting (net : Net AP) : Buffered AP := ⟨.resting net,fun _ => []⟩

/-- The steps that read the buffer, and the others. -/
inductive Action (AP : Type) where
  | other (action : Threads.Action AP)
  | intercept (a : AP) (hwAddr : Mac) (data behind : Packet)
  | accept (a : AP)
  | addPortData (a : AP)

/-- The action is one that reads the buffer. -/
def readsBuffer : Threads.Action AP → Bool
  | .intercept _ _ _ => true
  | .accept _ => true
  | .addPortData _ => true
  | _ => false

/-- The 4-tuple that the thread reads. -/
def tuple (s : Buffered AP) (a : AP) (data : Packet) : FourTuple := Packet.tuple (data ++ s.behind a)

variable [DecidableEq AP]

/-- A step of the uplink thread. -/
def act (s : Buffered AP) (a : AP) (ap : AccessPoint) (uplink : Uplink) (fresh : List (Arrival AP))
    (verdicts : List Verdict) : Buffered AP :=
  { s with threads := s.threads.act a ap uplink (s.threads.vendor a) fresh verdicts }

def step (cfg : Config AP) (s : Buffered AP) : Action AP → Option (Buffered AP)
  | .other action =>
    if readsBuffer action then none
    else (s.threads.step cfg action).map (fun threads => { s with threads := threads })
  | .intercept a hwAddr data behind =>
    let s : Buffered AP := { s with behind := Function.update s.behind a behind }
    let packetId := s.threads.net.arrivals.length
    match s.threads.uplink a with
    | .waiting =>
      if Packet.inSubnet (cfg.ap a).subnet (s.tuple a data).sourceIP then
        (lookupPortMapQ0 (s.threads.net.ap a).entryList (s.tuple a data)).map (fun nMap =>
          s.act a (s.threads.net.ap a) (if nMap.isSome then .found packetId data else .missed packetId hwAddr data)
            [⟨a,hwAddr,data⟩] [])
      else some (s.act a (s.threads.net.ap a) .waiting [⟨a,hwAddr,data⟩] [⟨packetId,data⟩])
    | _ => none
  | .accept a =>
    match s.threads.uplink a with
    | .found packetId data =>
      (lookupPortMapQ0 (s.threads.net.ap a).entryList (s.tuple a data)).join.map (fun nMap =>
        s.act a (s.threads.net.ap a) .waiting []
          [⟨packetId,(AccessPoint.outbound (cfg.ap a) nMap (data ++ s.behind a)).take data.length⟩])
    | _ => none
  | .addPortData a =>
    match s.threads.uplink a with
    | .missed packetId hwAddr data =>
      ((s.threads.net.ap a).portQueue.push (s.tuple a data).destinationIP.o3.toNat ⟨packetId,data⟩).map (fun portQueue =>
        s.act a { s.threads.net.ap a with portQueue := portQueue } (.queued hwAddr (s.tuple a data)) [] [])
    | _ => none

/-- The site of the machine. -/
def host (cfg : Config AP) : Host AP (Buffered AP) (Action AP) where
  step := step cfg
  net s := s.threads.net
  setNet s net := { s with threads := { s.threads with net := net } }
  reads
    | .other (.other (.handle sw _)) => some sw
    | _ => none

/-- The connections lose nothing and no write fails. -/
def Dependable (s : Buffered AP) : Action AP → Prop
  | .other action => s.threads.Dependable action
  | _ => True

/-- A packet that is queued has its ports. -/
def PortsInside (s : Buffered AP) : Action AP → Prop
  | .addPortData a =>
    match s.threads.uplink a with
    | .missed _ _ data => data.WellFormed
    | _ => True
  | _ => True

instance (s : Buffered AP) (action : Action AP) : Decidable (Dependable s action) := by
  cases action <;> unfold Dependable <;> infer_instance

instance (s : Buffered AP) (action : Action AP) : Decidable (PortsInside s action) := by
  cases action with
  | addPortData a =>
    unfold PortsInside
    dsimp only
    split <;> infer_instance
  | _ => unfold PortsInside; infer_instance

/-- A step is one that the threads take without a buffer, or does the same to the
    packets. -/
theorem step_threads {cfg : Config AP} {s s' : Buffered AP} {action : Action AP} (dependable : Dependable s action)
    (ports : PortsInside s action) (stepped : step cfg s action = some s') :
    (∃ inner, s.threads.Dependable inner ∧ s.threads.step cfg inner = some s'.threads) ∨
      ∃ a, Threads.Acts cfg s.threads a s'.threads := by
  cases action with
  | other inner =>
    simp only [step] at stepped
    split at stepped
    · cases stepped
    · obtain ⟨threads,isNext,rfl⟩ := Option.map_eq_some_iff.mp stepped
      exact .inl ⟨inner,dependable,isNext⟩
  | intercept a hwAddr data behind =>
    refine .inr ⟨a,?_⟩
    simp only [step] at stepped
    split at stepped
    · rename_i idle
      split at stepped
      · obtain ⟨nMap,_,rfl⟩ := Option.map_eq_some_iff.mp stepped
        cases nMap.isSome
        · exact .missed idle
        · exact .found idle
      · cases stepped
        exact .passed idle
    · cases stepped
  | accept a =>
    refine .inr ⟨a,?_⟩
    simp only [step] at stepped
    split at stepped
    · rename_i isStage
      obtain ⟨nMap,_,rfl⟩ := Option.map_eq_some_iff.mp stepped
      exact .accepted isStage
    · cases stepped
  | addPortData a =>
    refine .inr ⟨a,?_⟩
    simp only [step] at stepped
    split at stepped
    · rename_i packetId hwAddr data isStage
      simp only [PortsInside,isStage] at ports
      have same : s.tuple a data = data.tuple := ports.tuple_append (s.behind a)
      rw [same] at stepped
      obtain ⟨portQueue,pushed,rfl⟩ := Option.map_eq_some_iff.mp stepped
      exact .queued isStage pushed
    · cases stepped

/-- What holds between packets, queues and threads. -/
structure Sound (cfg : Config AP) (s : Threads AP) : Prop where
  linked : Net.Linked cfg s.net
  counted : s.Counted
  covered : ∀ a, s.Covered a

theorem sound_step {cfg : Config AP} {s s' : Buffered AP} {action : Action AP} (dependable : Dependable s action)
    (ports : PortsInside s action) (sound : Sound cfg s.threads) (stepped : step cfg s action = some s') :
    Sound cfg s'.threads := by
  rcases step_threads dependable ports stepped with ⟨inner,dependable,isNext⟩ | ⟨a,acts⟩
  · exact ⟨Threads.linked_step sound.linked isNext,Threads.counted_step sound.counted isNext,
      Threads.covered_step dependable sound.linked sound.covered isNext⟩
  · exact ⟨acts.linked sound.linked,acts.counted sound.counted,acts.covers sound.linked sound.covered⟩

/-- In every interleaving over connections that lose nothing and are read aright, where
    the packets that are queued have their ports, each packet gets at most one verdict,
    and each queued packet has a request, an answer or a reinjection pending for its own
    4-tuple; where nothing is pending, nothing is queued. -/
theorem no_packet_stranded {cfg : Config AP} {events : List (StreamEvent (Action AP))} {s : Threads AP}
    {behind : AP → List UInt8} {astray : List IOFSwitch}
    (ran : Run.run (host cfg).streamStep ⟨resting (Net.init cfg),[]⟩ events = some ⟨⟨s,behind⟩,astray⟩)
    (legible : Run.Steps (host cfg).streamStep (host cfg).Legible ⟨resting (Net.init cfg),[]⟩ events)
    (allowed : Run.Steps (host cfg).streamStep (Host.met (fun s e => Dependable s e ∧ PortsInside s e))
      ⟨resting (Net.init cfg),[]⟩ events) :
    ((s.net.transit ++ s.net.emitted).map (·.packetId)).Nodup ∧
      (∀ a i chain, (s.net.ap a).portQueue.bucket i = some chain → ∀ temp ∈ chain,
        temp.packetId ∉ (s.net.transit ++ s.net.emitted).map (·.packetId) ∧ s.Pending a temp.packet.tuple) ∧
      ∀ a, (∀ tuple, ¬ s.Pending a tuple) → ∀ i chain, (s.net.ap a).portQueue.bucket i = some chain → chain = [] := by
  have sound : Sound cfg s :=
    @Host.stream_preserves _ _ _ (host cfg) _ (fun s => Sound cfg s.threads)
      (fun _ _ _ isAllowed now stepped => sound_step isAllowed.1 isAllowed.2 now stepped) _ _ _ ran legible allowed
      ⟨Net.linked_init cfg,Threads.counted_resting cfg,Threads.covered_resting cfg⟩
  refine ⟨sound.counted.once,fun a i chain at_i temp member => ⟨?_,(sound.covered a i chain at_i temp member).2⟩,
    fun a none_ i chain at_i => ?_⟩
  · refine (sound.counted.owned a temp.packetId (List.mem_append_left _ (List.mem_map_of_mem ?_))).1
    exact List.mem_flatten.mpr ⟨chain,List.mem_of_getElem? at_i,member⟩
  · rw [List.eq_nil_iff_forall_not_mem]
    exact fun temp member => none_ _ (sound.covered a i chain at_i temp member).2

open Net

/-- The second packet of a flow misses the entry that is being added, and is queued when
    the reinjection for the first is over. -/
def overtakenPacket : List (Action Site) :=
  [.other (.other (.connect .left Site.left.switch.remoteAddress)),.intercept .left visitor (Gateway.datagram visit) [1],
    .addPortData .left,.other (.request .left),.other (.other (.thread .left 0)),
    .other (.other (.handle Site.left.switch [])),.intercept .left visitor (Gateway.datagram visit) [],
    .other (.receiveNatAdd .left),.other (.addEntry .left),.other (.assignPort .left),.other (.reinject .left),
    .other (.other (.reinject .left 0)),.addPortData .left,.other (.request .left)]

theorem overtakenPacket_pending : ∃ final temp,
    Run.run (host site).streamStep ⟨resting (Net.init site),[]⟩ (overtakenPacket.map .event) = some final ∧
    final.state.threads.verdicts = [0] ∧ (final.state.threads.net.ap .left).reinjecting = [] ∧
    (final.state.threads.net.ap .left).portQueue.bucket visit.destinationIP.o3.toNat = some [temp] ∧ temp.packetId = 1 ∧
    final.state.threads.Pending .left temp.packet.tuple := by
  obtain ⟨final,ran,once,none_,isQueue⟩ : ∃ final,
      Run.run (host site).streamStep ⟨resting (Net.init site),[]⟩ (overtakenPacket.map .event) = some final ∧
      final.state.threads.verdicts = [0] ∧ (final.state.threads.net.ap .left).reinjecting = [] ∧
      (final.state.threads.net.ap .left).portQueue.bucket visit.destinationIP.o3.toNat =
        some [⟨1,Gateway.datagram visit⟩] := Run.exists_run (by decide +kernel)
  have legible : Run.Steps (host site).streamStep (host site).Legible ⟨resting (Net.init site),[]⟩
      (overtakenPacket.map .event) := Run.steps_of_check (fun _ _ => of_decide_eq_true) (by decide +kernel)
  have allowed : Run.Steps (host site).streamStep (Host.met (fun s e => Dependable s e ∧ PortsInside s e))
      ⟨resting (Net.init site),[]⟩ (overtakenPacket.map .event) := Run.steps_of_check (fun _ _ => of_decide_eq_true) (by decide +kernel)
  exact ⟨final,_,ran,once,none_,isQueue,rfl,
    ((no_packet_stranded ran legible allowed).2.1 .left _ _ isQueue _ List.mem_cons_self).2⟩

/-- An IP header and nothing behind it. -/
def bareHeader : Packet := [69,0,0,20,0,0,0,0,64,255,0,0,192,168,5,2,93,184,216,34]

/-- The packet is read with the ports of an earlier one, a port is asked for, assigned
    and told, and the reinjection runs. -/
def strandedPacket : List (Action Site) :=
  [.other (.other (.connect .left Site.left.switch.remoteAddress)),.intercept .left visitor bareHeader [19,136,0,80],
    .addPortData .left,.other (.request .left),.other (.other (.thread .left 0)),
    .other (.other (.handle Site.left.switch [])),.other (.receiveNatAdd .left),.other (.addEntry .left),
    .other (.assignPort .left),.other (.reinject .left),.other (.other (.reinject .left 0))]

omit [DecidableEq AP] in
/-- Where both threads wait and no other runs, and nothing is on its way, nothing is
    pending. -/
theorem not_pending {s : Threads AP} {a : AP} (uplink : s.uplink a = .waiting) (vendor : s.vendor a = .waiting)
    (sending : (s.net.ap a).sending = []) (outbox : s.net.outbox a = []) (inbox : s.net.inbox a = [])
    (reinjecting : (s.net.ap a).reinjecting = []) (tuple : FourTuple) : ¬ s.Pending a tuple := by
  rintro (isStage | isThread | waiting | waiting | isStage | isThread)
  · rw [uplink] at isStage
    cases isStage
  · rw [sending] at isThread
    cases isThread
  · rw [outbox] at waiting
    cases waiting
  · rw [inbox] at waiting
    cases waiting
  · rw [vendor] at isStage
    cases isStage
  · rw [reinjecting] at isThread
    cases isThread

/-- It stays in the queue with nothing pending. -/
theorem bareHeader_stranded : ∃ final,
    Run.run (host site).streamStep ⟨resting (Net.init site),[]⟩ (strandedPacket.map .event) = some final ∧
    Run.allSteps (host site).streamStep (fun s e => decide ((host site).Legible s e ∧ Host.met Dependable s e))
      ⟨resting (Net.init site),[]⟩ (strandedPacket.map .event) = true ∧
    (final.state.threads.net.ap .left).portQueue.bucket visit.destinationIP.o3.toNat = some [⟨0,bareHeader⟩] ∧
    ∀ tuple, ¬ final.state.threads.Pending .left tuple := by
  obtain ⟨final,ran,isQueue,uplink,vendor,sending,outbox,inbox,reinjecting⟩ : ∃ final,
      Run.run (host site).streamStep ⟨resting (Net.init site),[]⟩ (strandedPacket.map .event) = some final ∧
      (final.state.threads.net.ap .left).portQueue.bucket visit.destinationIP.o3.toNat = some [⟨0,bareHeader⟩] ∧
      final.state.threads.uplink .left = .waiting ∧ final.state.threads.vendor .left = .waiting ∧
      (final.state.threads.net.ap .left).sending = [] ∧ final.state.threads.net.outbox .left = [] ∧
      final.state.threads.net.inbox .left = [] ∧ (final.state.threads.net.ap .left).reinjecting = [] :=
    Run.exists_run (by decide +kernel)
  exact ⟨final,ran,by decide +kernel,isQueue,not_pending uplink vendor sending outbox inbox reinjecting⟩

end Buffered
end Handover
