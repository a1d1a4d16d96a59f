import Handover.Interleaving
import Handover.Lane

/-!
The order of the verdicts that an access point gives to the packets of a flow. A packet
that misses the entry is put at the head of its bucket, a reinjection goes through the
bucket from its head, and a packet that finds the entry does not look at the bucket. So
a flow's packets leave in the order of their arrival exactly if none is queued or
accepted while another of the flow is held.
-/
namespace Handover

/-- The packet that the thread of queue 0 has in hand. -/
def Uplink.packet : Uplink → Option PortData
  | .found packetId data => some ⟨packetId,data⟩
  | .missed packetId _ data => some ⟨packetId,data⟩
  | _ => none

/-- The packets of the flow in its bucket, from the head on. -/
def heldOf (queue : Buckets PortData) (tuple : FourTuple) : List Nat :=
  (((queue.bucket tuple.destinationIP.o3.toNat).getD []).filter (fun temp => temp.packet.tuple = tuple)).map (·.packetId)

theorem heldOf_push {queue queue' : Buckets PortData} {temp : PortData}
    (pushed : queue.push temp.packet.tuple.destinationIP.o3.toNat temp = some queue') (tuple : FourTuple) :
    heldOf queue' tuple = if temp.packet.tuple = tuple then temp.packetId :: heldOf queue tuple else heldOf queue tuple := by
  obtain ⟨chain,held,rfl⟩ := Option.map_eq_some_iff.mp pushed
  unfold heldOf
  rw [Buckets.bucket_set]
  by_cases same : temp.packet.tuple = tuple
  · subst same
    simp [held]
  · by_cases hash : tuple.destinationIP.o3.toNat = temp.packet.tuple.destinationIP.o3.toNat
    · simp [hash,held,same]
    · simp [hash,same]

/-- The packets of one flow are taken out. -/
theorem heldOf_release {queue : Buckets PortData} {tuple : FourTuple} {chain : List PortData}
    (held : queue.bucket tuple.destinationIP.o3.toNat = some chain) (other : FourTuple) :
    heldOf (queue.set tuple.destinationIP.o3.toNat (chain.filter (fun temp => !decide (temp.packet.tuple = tuple)))) other =
      if other = tuple then [] else heldOf queue other := by
  unfold heldOf
  rw [Buckets.bucket_set]
  by_cases same : other = tuple
  · subst same
    simp [held,List.filter_filter]
  · by_cases hash : other.destinationIP.o3.toNat = tuple.destinationIP.o3.toNat
    · simp only [hash,if_true,held,Option.map_some,Option.getD_some,List.filter_filter,same,if_false]
      congr 1
      refine List.filter_congr (fun temp _ => ?_)
      by_cases isOther : temp.packet.tuple = other
      · simp [isOther,same]
      · simp [isOther]
    · simp [hash,same]

namespace Threads
variable {AP : Type} [DecidableEq AP]

/-- The packets of the flow that the access point holds, in the order in which they
    would leave. -/
def waiting (s : Threads AP) (a : AP) (tuple : FourTuple) : List Nat := heldOf (s.net.ap a).portQueue tuple

/-- The packet came to the access point and is of the flow. -/
def ofFlow (s : Threads AP) (a : AP) (tuple : FourTuple) (packetId : Nat) : Bool :=
  s.net.arrivals[packetId]?.any (fun arrival => arrival.ap = a ∧ arrival.data.tuple = tuple)

/-- The packets that get a verdict in a step. -/
def issued (s s' : Threads AP) : List Nat := (s'.net.transit.drop s.net.transit.length).map (·.packetId)

/-- The threads with a log of the verdicts. -/
def logged (cfg : Config AP) (state : Threads AP × List Nat) (action : Action AP) : Option (Threads AP × List Nat) :=
  (step cfg state.1 action).map (fun s => (s,state.2 ++ issued state.1 s))

/-- The flow whose packet gets a verdict, or is queued, at the hands of the thread of
    queue 0. -/
def placed (cfg : Config AP) (s : Threads AP) : Action AP → Option (AP × FourTuple)
  | .intercept a _ data =>
    if Packet.inSubnet (cfg.ap a).subnet data.tuple.sourceIP then none else some (a,data.tuple)
  | .accept a => (s.uplink a).packet.map (fun temp => (a,temp.packet.tuple))
  | .addPortData a => (s.uplink a).packet.map (fun temp => (a,temp.packet.tuple))
  | _ => none

/-- No packet of the flow is placed while another is held. -/
def InTurn (cfg : Config AP) (a : AP) (tuple : FourTuple) (state : Threads AP × List Nat) (action : Action AP) : Prop :=
  placed cfg state.1 action = some (a,tuple) → state.1.waiting a tuple = []

instance (cfg : Config AP) (a : AP) (tuple : FourTuple) (state : Threads AP × List Nat) (action : Action AP) :
    Decidable (InTurn cfg a tuple state action) := by
  unfold InTurn
  infer_instance

/-! ### What a step does to packets -/

/-- Beside the access point nothing happens to packets. -/
structure Effect (s s' : Threads AP) (a : AP) (fresh : List (Arrival AP)) (out : List Nat) : Prop where
  arrivals : s'.net.arrivals = s.net.arrivals ++ fresh
  issued : issued s s' = out
  queues : ∀ b, b ≠ a → (s'.net.ap b).portQueue = (s.net.ap b).portQueue
  uplinks : ∀ b, b ≠ a → s'.uplink b = s.uplink b

/-- The steps by what they do to packets. -/
inductive Handles (s s' : Threads AP) : Option (AP × FourTuple) → Prop where
  | still {a : AP} (effect : Effect s s' a [] []) (queue : (s'.net.ap a).portQueue = (s.net.ap a).portQueue)
    (packet : (s'.uplink a).packet = (s.uplink a).packet) : Handles s s' none
  | passes {a : AP} {hwAddr : Mac} {data : Packet}
    (effect : Effect s s' a [⟨a,hwAddr,data⟩] [s.net.arrivals.length])
    (queue : (s'.net.ap a).portQueue = (s.net.ap a).portQueue) (free : (s.uplink a).packet = none)
    (packet : (s'.uplink a).packet = none) : Handles s s' (some (a,data.tuple))
  | takes {a : AP} {hwAddr : Mac} {data : Packet} (effect : Effect s s' a [⟨a,hwAddr,data⟩] [])
    (queue : (s'.net.ap a).portQueue = (s.net.ap a).portQueue) (free : (s.uplink a).packet = none)
    (packet : (s'.uplink a).packet = some ⟨s.net.arrivals.length,data⟩) : Handles s s' none
  | accepts {a : AP} {temp : PortData} (effect : Effect s s' a [] [temp.packetId])
    (queue : (s'.net.ap a).portQueue = (s.net.ap a).portQueue) (inHand : (s.uplink a).packet = some temp)
    (packet : (s'.uplink a).packet = none) : Handles s s' (some (a,temp.packet.tuple))
  | queues {a : AP} {temp : PortData} (effect : Effect s s' a [] [])
    (pushed : (s.net.ap a).portQueue.push temp.packet.tuple.destinationIP.o3.toNat temp = some (s'.net.ap a).portQueue)
    (inHand : (s.uplink a).packet = some temp) (packet : (s'.uplink a).packet = none) :
    Handles s s' (some (a,temp.packet.tuple))
  | reinjects {a : AP} {tuple : FourTuple} {chain : List PortData}
    (effect : Effect s s' a [] ((chain.filter (fun temp => temp.packet.tuple = tuple)).map (·.packetId)))
    (held : (s.net.ap a).portQueue.bucket tuple.destinationIP.o3.toNat = some chain)
    (queue : (s'.net.ap a).portQueue = (s.net.ap a).portQueue.set tuple.destinationIP.o3.toNat
      (chain.filter (fun temp => !decide (temp.packet.tuple = tuple))))
    (packet : s'.uplink a = s.uplink a) : Handles s s' none

omit [DecidableEq AP] in
theorem issued_of_transit {s s' : Threads AP} {verdicts : List Verdict}
    (transit : s'.net.transit = s.net.transit ++ verdicts) : issued s s' = verdicts.map (·.packetId) := by
  rw [issued,transit,List.drop_left]

theorem effect_act (s : Threads AP) (a : AP) (ap : AccessPoint) (uplink : Uplink) (vendor : Vendor)
    (fresh : List (Arrival AP)) (verdicts : List Verdict) :
    Effect s (s.act a ap uplink vendor fresh verdicts) a fresh (verdicts.map (·.packetId)) := by
  refine ⟨rfl,issued_of_transit rfl,fun b other => ?_,fun b other => ?_⟩
  · rw [(same_act s other ap uplink vendor fresh verdicts).ap]
  · rw [(same_act s other ap uplink vendor fresh verdicts).uplink]

/-- A step of the threads of an access point that leaves the packets alone. -/
theorem still_act (s : Threads AP) {a : AP} {ap : AccessPoint} {uplink : Uplink} (vendor : Vendor)
    (queue : ap.portQueue = (s.net.ap a).portQueue) (packet : uplink.packet = (s.uplink a).packet) :
    Handles s (s.act a ap uplink vendor [] []) none :=
  .still (effect_act s a ap uplink vendor [] []) (by rw [ap_act,queue]) (by rw [uplink_act,packet])

theorem still_take (s : Threads AP) {a : AP} (sw : IOFSwitch) (rest : List FromController) (vendor : Vendor) :
    Handles s ((s.take sw rest).act a (s.net.ap a) (s.uplink a) vendor [] []) none := by
  have taken := effect_act (s.take sw rest) a (s.net.ap a) (s.uplink a) vendor [] []
  exact .still ⟨taken.arrivals,taken.issued,taken.queues,taken.uplinks⟩ (by rw [ap_act]) (by rw [uplink_act])

theorem handles_other {cfg : Config AP} {s s' : Threads AP} {e : Net.Event AP} (a : AP)
    (stepped : step cfg s (.other e) = some s') : Handles s s' none := by
  obtain ⟨isAdmitted,isNet,uplink,_⟩ := step_other stepped
  cases e with
  | uplink b hwAddr data => cases isAdmitted
  | reinject b i =>
    obtain ⟨verdicts,ran,here,_,arrivals,transit⟩ := Net.step_reinject isNet
    obtain ⟨tuple,nMap,chain,_,found,held,rfl,isNext⟩ := AccessPoint.reinjectPkt_spec ran
    have isKey : nMap.toFourTuple = tuple :=
      Buckets.key_of_get (fun t : FourTuple => t.destinationIP.o3.toNat) NATMap.toFourTuple found
    rw [AccessPoint.reinjectChain_eq,isKey] at isNext transit
    refine .reinjects ⟨by rw [arrivals,List.append_nil],?_,fun c other => by rw [here.others c other],
      fun c _ => by rw [uplink]⟩ held (by rw [isNext]) (by rw [uplink])
    rw [issued_of_transit transit,List.map_map]
    rfl
  | gwForward i =>
    obtain ⟨verdict,gateway,data,isVerdict,_,isNext⟩ := Net.step_gwForward isNet
    refine .still (a := a) ⟨by rw [isNext,List.append_nil],?_,fun b _ => by rw [isNext],fun b _ => by rw [uplink]⟩
      (by rw [isNext]) (by rw [uplink])
    rw [issued,isNext,List.drop_eq_nil_of_le (List.length_eraseIdx_le _ i)]
    rfl
  | _ =>
    obtain ⟨arrivals,transit,_,queues⟩ := Net.packets_step isNet (by simp) (by simp) (by simp)
    refine .still (a := a) ⟨by rw [arrivals,List.append_nil],?_,fun b _ => queues b,fun b _ => by rw [uplink]⟩
      (queues a) (by rw [uplink])
    rw [issued_of_transit (by rw [transit,List.append_nil] : s'.net.transit = s.net.transit ++ [])]
    rfl

theorem handles_step {cfg : Config AP} {s s' : Threads AP} {action : Action AP} (a : AP)
    (stepped : step cfg s action = some s') : Handles s s' (placed cfg s action) := by
  cases action with
  | other e => exact handles_other a stepped
  | intercept a hwAddr data =>
    simp only [step] at stepped
    split at stepped
    · rename_i idle
      have free : (s.uplink a).packet = none := by rw [idle]; rfl
      split at stepped
      · rename_i inside
        rw [placed,if_pos inside]
        obtain ⟨nMap,_,rfl⟩ := Option.map_eq_some_iff.mp stepped
        refine .takes (effect_act s a _ _ _ _ []) (by rw [ap_act]) free ?_
        rw [uplink_act]
        split <;> rfl
      · rename_i outside
        rw [placed,if_neg outside]
        cases stepped
        exact .passes (effect_act s a _ _ _ _ _) (by rw [ap_act]) free (by rw [uplink_act]; rfl)
    · cases stepped
  | accept a =>
    simp only [step] at stepped
    split at stepped
    · rename_i packetId data isStage
      obtain ⟨nMap,_,rfl⟩ := Option.map_eq_some_iff.mp stepped
      have inHand : (s.uplink a).packet = some ⟨packetId,data⟩ := by rw [isStage]; rfl
      rw [placed,inHand]
      exact .accepts (effect_act s a _ _ _ _ _) (by rw [ap_act]) inHand (by rw [uplink_act]; rfl)
    · cases stepped
  | addPortData a =>
    simp only [step] at stepped
    split at stepped
    · rename_i packetId hwAddr data isStage
      obtain ⟨portQueue,pushed,rfl⟩ := Option.map_eq_some_iff.mp stepped
      have inHand : (s.uplink a).packet = some ⟨packetId,data⟩ := by rw [isStage]; rfl
      rw [placed,inHand]
      exact .queues (effect_act s a _ _ _ _ []) (by rw [ap_act]; exact pushed) inHand (by rw [uplink_act]; rfl)
    · cases stepped
  | request a =>
    simp only [step] at stepped
    split at stepped
    · rename_i isStage
      cases stepped
      exact still_act s _ rfl (by rw [isStage]; rfl)
    · cases stepped
  | receiveNatAdd a =>
    simp only [step] at stepped
    split at stepped
    · split at stepped
      · obtain ⟨nMap,_,rfl⟩ := Option.map_eq_some_iff.mp stepped
        exact still_take s _ _ _
      · cases stepped
    · cases stepped
  | addEntry a =>
    simp only [step] at stepped
    split at stepped
    · obtain ⟨entryList,_,rfl⟩ := Option.map_eq_some_iff.mp stepped
      exact still_act s _ rfl rfl
    · cases stepped
  | assignPort a =>
    simp only [step] at stepped
    split at stepped
    · obtain ⟨entryList,_,rfl⟩ := Option.map_eq_some_iff.mp stepped
      exact still_act s _ rfl rfl
    · cases stepped
  | reinject a =>
    simp only [step] at stepped
    split at stepped
    · cases stepped
      exact still_act s _ rfl rfl
    · cases stepped

/-! ### The lane of a flow -/

omit [DecidableEq AP] in
/-- The packet came as it is. -/
def Arrived (s : Threads AP) (a : AP) (temp : PortData) : Prop :=
  ∃ hwAddr, s.net.arrivals[temp.packetId]? = some ⟨a,hwAddr,temp.packet⟩

/-- The packets in the log, in the queues and in hand have come. -/
structure Known (s : Threads AP) (log : List Nat) : Prop where
  logged : ∀ packetId ∈ log, packetId < s.net.arrivals.length
  queued : ∀ a, (s.net.ap a).portQueue.All (Arrived s a)
  inHand : ∀ a temp, (s.uplink a).packet = some temp → Arrived s a temp

/-- The flow's packets, with verdicts, held and in hand. -/
def lane (s : Threads AP) (log : List Nat) (a : AP) (tuple : FourTuple) : Lane Nat where
  left := log.filter (s.ofFlow a tuple)
  stack := s.waiting a tuple
  inHand := ((s.uplink a).packet.filter (fun temp => temp.packet.tuple = tuple)).map (·.packetId)

theorem ofFlow_arrived {s : Threads AP} {b : AP} {temp : PortData} (arrived : Arrived s b temp) (a : AP) (tuple : FourTuple) :
    s.ofFlow a tuple temp.packetId = decide (b = a ∧ temp.packet.tuple = tuple) := by
  obtain ⟨hwAddr,found⟩ := arrived
  simp [ofFlow,found]

omit [DecidableEq AP] in
theorem Arrived.lt {s : Threads AP} {a : AP} {temp : PortData} (arrived : Arrived s a temp) :
    temp.packetId < s.net.arrivals.length := by
  obtain ⟨_,found⟩ := arrived
  exact (List.getElem?_eq_some_iff.mp found).1

section
variable {s s' : Threads AP} {b : AP} {fresh : List (Arrival AP)} {out log : List Nat}

omit [DecidableEq AP] in
theorem Effect.arrived (effect : Effect s s' b fresh out) {a : AP} {temp : PortData} (arrived : Arrived s a temp) :
    Arrived s' a temp := by
  obtain ⟨hwAddr,found⟩ := arrived
  refine ⟨hwAddr,?_⟩
  rw [effect.arrivals,List.getElem?_append_left (Arrived.lt ⟨hwAddr,found⟩),found]

omit [DecidableEq AP] in
theorem Effect.queued (effect : Effect s s' b fresh out) (known : Known s log)
    (queue : (s'.net.ap b).portQueue = (s.net.ap b).portQueue) : (s'.net.ap b).portQueue.All (Arrived s' b) := by
  rw [queue]
  exact (known.queued b).mono (fun temp => effect.arrived)

theorem Effect.left (effect : Effect s s' b fresh out) (known : Known s log) (a : AP) (tuple : FourTuple) :
    (lane s' (log ++ Threads.issued s s') a tuple).left = (lane s log a tuple).left ++ out.filter (s'.ofFlow a tuple) := by
  unfold lane
  dsimp only
  rw [effect.issued,List.filter_append]
  congr 1
  refine List.filter_congr (fun packetId member => ?_)
  rw [ofFlow,effect.arrivals,List.getElem?_append_left (known.logged packetId member),ofFlow]

/-- Where neither the queue nor the packet in hand changes as to the flow, and no packet
    of it gets a verdict, its lane is as it was. -/
theorem Effect.lane_eq (effect : Effect s s' b fresh out) (known : Known s log) {a : AP} {tuple : FourTuple}
    (ids : ∀ packetId ∈ out, s'.ofFlow a tuple packetId = false)
    (queue : a = b → heldOf (s'.net.ap b).portQueue tuple = heldOf (s.net.ap b).portQueue tuple)
    (packet : a = b → (s'.uplink b).packet.filter (fun temp => temp.packet.tuple = tuple) =
      (s.uplink b).packet.filter (fun temp => temp.packet.tuple = tuple)) :
    lane s' (log ++ Threads.issued s s') a tuple = lane s log a tuple := by
  have left := effect.left known a tuple
  rw [List.filter_eq_nil_iff.mpr (fun packetId member => by simp [ids packetId member]),List.append_nil] at left
  by_cases same : a = b
  · subst same
    exact Lane.ext left (queue rfl) (congrArg (Option.map PortData.packetId) (packet rfl))
  · refine Lane.ext left ?_ ?_
    · show heldOf _ tuple = heldOf _ tuple
      rw [effect.queues a same]
    · show Option.map _ _ = Option.map _ _
      rw [effect.uplinks a same]

end

theorem Known.line_lt {s : Threads AP} {log : List Nat} (known : Known s log) (a : AP) (tuple : FourTuple) :
    ∀ packetId ∈ (lane s log a tuple).line, packetId < s.net.arrivals.length := by
  intro packetId member
  rcases List.mem_append.mp member with isLogged | isHeld
  · exact known.logged packetId (List.mem_of_mem_filter isLogged)
  · obtain ⟨temp,isFlow,rfl⟩ := List.mem_map.mp isHeld
    have inChain := List.mem_of_mem_filter isFlow
    cases held : (s.net.ap a).portQueue.bucket tuple.destinationIP.o3.toNat with
    | none => simp [held] at inChain
    | some chain =>
      rw [held] at inChain
      exact (known.queued a _ chain held temp inChain).lt

theorem Handles.known {s s' : Threads AP} {log : List Nat} {place : Option (AP × FourTuple)} (handles : Handles s s' place)
    (known : Known s log) : Known s' (log ++ Threads.issued s s') := by
  -- what one access point does to its queue and to the packet in hand is all that there is to show
  have from_effect : ∀ {b : AP} {fresh : List (Arrival AP)} {out : List Nat} (effect : Effect s s' b fresh out),
      (∀ packetId ∈ out, packetId < s'.net.arrivals.length) → (s'.net.ap b).portQueue.All (Arrived s' b) →
      (∀ temp, (s'.uplink b).packet = some temp → Arrived s' b temp) → Known s' (log ++ Threads.issued s s') := by
    intro b fresh out effect ids queue packet
    refine ⟨fun packetId member => ?_,fun a => ?_,fun a temp inHand => ?_⟩
    · rw [effect.issued] at member
      rcases List.mem_append.mp member with old | new
      · have := known.logged packetId old
        rw [effect.arrivals,List.length_append]
        omega
      · exact ids packetId new
    · by_cases same : a = b
      · exact same ▸ queue
      · rw [effect.queues a same]
        exact (known.queued a).mono (fun temp => effect.arrived)
    · by_cases same : a = b
      · subst same
        exact packet temp inHand
      · rw [effect.uplinks a same] at inHand
        exact effect.arrived (known.inHand a temp inHand)
  cases handles with
  | @still a effect queue packet =>
    exact from_effect effect (by simp) (effect.queued known queue)
      (fun temp inHand => effect.arrived (known.inHand a temp (packet ▸ inHand)))
  | @passes a hwAddr data effect queue free packet =>
    exact from_effect effect (by simp [effect.arrivals]) (effect.queued known queue)
      (fun temp inHand => absurd (packet.symm.trans inHand) (by simp))
  | @takes a hwAddr data effect queue free packet =>
    refine from_effect effect (by simp) (effect.queued known queue) (fun temp inHand => ?_)
    cases packet.symm.trans inHand
    exact ⟨hwAddr,by simp [effect.arrivals]⟩
  | @accepts a temp effect queue inHand packet =>
    refine from_effect effect ?_ (effect.queued known queue) (fun temp inHand => absurd (packet.symm.trans inHand) (by simp))
    simpa using (effect.arrived (known.inHand a temp inHand)).lt
  | @queues a temp effect pushed inHand packet =>
    refine from_effect effect (by simp) ?_ (fun temp inHand => absurd (packet.symm.trans inHand) (by simp))
    exact ((known.queued a).mono (fun temp => effect.arrived)).push (effect.arrived (known.inHand a temp inHand)) pushed
  | @reinjects a tuple chain effect held queue packet =>
    have arrived : ∀ temp ∈ chain, Arrived s' a temp :=
      fun temp member => effect.arrived (known.queued a _ chain held temp member)
    refine from_effect effect (fun packetId member => ?_) ?_
      (fun temp inHand => effect.arrived (known.inHand a temp (packet ▸ inHand)))
    · obtain ⟨temp,isHeld,rfl⟩ := List.mem_map.mp member
      exact (arrived temp (List.mem_of_mem_filter isHeld)).lt
    · rw [queue]
      exact ((known.queued a).mono (fun temp => effect.arrived)).set
        (fun temp member => arrived temp (List.mem_of_mem_filter member))

section
variable {s s' : Threads AP} {log : List Nat} {b : AP}

/-- The lane of the packet's own flow, where a packet passes. -/
theorem lane_passes {hwAddr : Mac} {data : Packet} (known : Known s log)
    (effect : Effect s s' b [⟨b,hwAddr,data⟩] [s.net.arrivals.length])
    (queue : (s'.net.ap b).portQueue = (s.net.ap b).portQueue) (free : (s.uplink b).packet = none)
    (packet : (s'.uplink b).packet = none) :
    (lane s log b data.tuple).Moves true (lane s' (log ++ Threads.issued s s') b data.tuple) := by
  have arrived : Arrived s' b ⟨s.net.arrivals.length,data⟩ := ⟨hwAddr,by simp [effect.arrivals]⟩
  have next : lane s' (log ++ Threads.issued s s') b data.tuple =
      { lane s log b data.tuple with left := (lane s log b data.tuple).left ++ [s.net.arrivals.length] } := by
    refine Lane.ext ?_ ?_ ?_
    · rw [effect.left known]
      simp [ofFlow_arrived arrived]
    · simp [lane,waiting,queue]
    · simp [lane,packet,free]
  rw [next]
  exact .passes (by simp [lane,free]) (known.line_lt b data.tuple)

theorem lane_takes {hwAddr : Mac} {data : Packet} (known : Known s log) (effect : Effect s s' b [⟨b,hwAddr,data⟩] [])
    (queue : (s'.net.ap b).portQueue = (s.net.ap b).portQueue) (free : (s.uplink b).packet = none)
    (packet : (s'.uplink b).packet = some ⟨s.net.arrivals.length,data⟩) :
    (lane s log b data.tuple).Moves false (lane s' (log ++ Threads.issued s s') b data.tuple) := by
  have next : lane s' (log ++ Threads.issued s s') b data.tuple =
      { lane s log b data.tuple with inHand := some s.net.arrivals.length } := by
    refine Lane.ext ?_ ?_ ?_
    · rw [effect.left known]
      simp
    · simp [lane,waiting,queue]
    · simp [lane,packet]
  rw [next]
  exact .takes (by simp [lane,free]) (known.line_lt b data.tuple)

theorem lane_accepts {temp : PortData} (known : Known s log) (effect : Effect s s' b [] [temp.packetId])
    (queue : (s'.net.ap b).portQueue = (s.net.ap b).portQueue) (inHand : (s.uplink b).packet = some temp)
    (packet : (s'.uplink b).packet = none) :
    (lane s log b temp.packet.tuple).Moves true (lane s' (log ++ Threads.issued s s') b temp.packet.tuple) := by
  have next : lane s' (log ++ Threads.issued s s') b temp.packet.tuple =
      { lane s log b temp.packet.tuple with
        left := (lane s log b temp.packet.tuple).left ++ [temp.packetId], inHand := none } := by
    refine Lane.ext ?_ ?_ ?_
    · rw [effect.left known]
      simp [ofFlow_arrived (effect.arrived (known.inHand b temp inHand))]
    · simp [lane,waiting,queue]
    · simp [lane,packet]
  rw [next]
  exact .leaves (by simp [lane,inHand])

theorem lane_queues {temp : PortData} (known : Known s log) (effect : Effect s s' b [] [])
    (pushed : (s.net.ap b).portQueue.push temp.packet.tuple.destinationIP.o3.toNat temp = some (s'.net.ap b).portQueue)
    (inHand : (s.uplink b).packet = some temp) (packet : (s'.uplink b).packet = none) :
    (lane s log b temp.packet.tuple).Moves true (lane s' (log ++ Threads.issued s s') b temp.packet.tuple) := by
  have next : lane s' (log ++ Threads.issued s s') b temp.packet.tuple =
      { lane s log b temp.packet.tuple with
        stack := temp.packetId :: (lane s log b temp.packet.tuple).stack, inHand := none } := by
    refine Lane.ext ?_ ?_ ?_
    · rw [effect.left known]
      simp
    · simp [lane,waiting,heldOf_push pushed]
    · simp [lane,packet]
  rw [next]
  exact .waits (by simp [lane,inHand])

theorem lane_reinjects {tuple : FourTuple} {chain : List PortData} (known : Known s log)
    (effect : Effect s s' b [] ((chain.filter (fun temp => temp.packet.tuple = tuple)).map (·.packetId)))
    (held : (s.net.ap b).portQueue.bucket tuple.destinationIP.o3.toNat = some chain)
    (queue : (s'.net.ap b).portQueue = (s.net.ap b).portQueue.set tuple.destinationIP.o3.toNat
      (chain.filter (fun temp => !decide (temp.packet.tuple = tuple))))
    (packet : s'.uplink b = s.uplink b) :
    (lane s log b tuple).Moves false (lane s' (log ++ Threads.issued s s') b tuple) := by
  have all : ∀ packetId ∈ (chain.filter (fun temp => temp.packet.tuple = tuple)).map (·.packetId),
      s'.ofFlow b tuple packetId = true := by
    intro packetId member
    obtain ⟨temp,isHeld,rfl⟩ := List.mem_map.mp member
    obtain ⟨inChain,isTuple⟩ := List.mem_filter.mp isHeld
    rw [ofFlow_arrived (effect.arrived (known.queued b _ chain held temp inChain))]
    simpa using isTuple
  have next : lane s' (log ++ Threads.issued s s') b tuple =
      { lane s log b tuple with left := (lane s log b tuple).left ++ (lane s log b tuple).stack, stack := [] } := by
    refine Lane.ext ?_ ?_ ?_
    · rw [effect.left known,List.filter_eq_self.mpr all]
      simp [lane,waiting,heldOf,held]
    · simp [lane,waiting,queue,heldOf_release held]
    · simp [lane,packet]
  rw [next]
  exact .releases

/-- A step moves the lane of a flow, and places a packet on it if it places one of the
    flow. -/
theorem Handles.moves {place : Option (AP × FourTuple)} (handles : Handles s s' place) (known : Known s log) (a : AP)
    (tuple : FourTuple) :
    ∃ isPlaced, (lane s log a tuple).Moves isPlaced (lane s' (log ++ Threads.issued s s') a tuple) ∧
      (isPlaced = true ↔ place = some (a,tuple)) := by
  have stays : lane s' (log ++ Threads.issued s s') a tuple = lane s log a tuple → place ≠ some (a,tuple) →
      ∃ isPlaced, (lane s log a tuple).Moves isPlaced (lane s' (log ++ Threads.issued s s') a tuple) ∧
        (isPlaced = true ↔ place = some (a,tuple)) :=
    fun same others => ⟨false,by rw [same]; exact .stays,by simpa using others⟩
  -- in each case the packet is one of the flow, or the lane is as it was
  cases handles with
  | still effect queue packet =>
    exact stays (effect.lane_eq known (by simp) (fun _ => by rw [queue]) (fun _ => by rw [packet])) (by simp)
  | @passes b hwAddr data effect queue free packet =>
    by_cases mine : b = a ∧ data.tuple = tuple
    · obtain ⟨rfl,rfl⟩ := mine
      exact ⟨true,lane_passes known effect queue free packet,by simp⟩
    · have arrived : Arrived s' b ⟨s.net.arrivals.length,data⟩ := ⟨hwAddr,by simp [effect.arrivals]⟩
      refine stays (effect.lane_eq known ?_ (fun _ => by rw [queue]) (fun _ => by rw [packet,free])) (by simpa using mine)
      simpa [ofFlow_arrived arrived a tuple] using mine
  | @takes b hwAddr data effect queue free packet =>
    by_cases mine : b = a ∧ data.tuple = tuple
    · obtain ⟨rfl,rfl⟩ := mine
      exact ⟨false,lane_takes known effect queue free packet,by simp⟩
    · refine stays (effect.lane_eq known (by simp) (fun _ => by rw [queue]) (fun same => ?_)) (by simp)
      have other : data.tuple ≠ tuple := fun isTuple => mine ⟨same.symm,isTuple⟩
      simp [packet,free,other]
  | @accepts b temp effect queue inHand packet =>
    by_cases mine : b = a ∧ temp.packet.tuple = tuple
    · obtain ⟨rfl,rfl⟩ := mine
      exact ⟨true,lane_accepts known effect queue inHand packet,by simp⟩
    · refine stays (effect.lane_eq known ?_ (fun _ => by rw [queue]) (fun same => ?_)) (by simpa using mine)
      · simpa [ofFlow_arrived (effect.arrived (known.inHand b temp inHand)) a tuple] using mine
      · have other : temp.packet.tuple ≠ tuple := fun isTuple => mine ⟨same.symm,isTuple⟩
        simp [packet,inHand,Option.filter,other]
  | @queues b temp effect pushed inHand packet =>
    by_cases mine : b = a ∧ temp.packet.tuple = tuple
    · obtain ⟨rfl,rfl⟩ := mine
      exact ⟨true,lane_queues known effect pushed inHand packet,by simp⟩
    · refine stays (effect.lane_eq known (by simp) (fun same => ?_) (fun same => ?_)) (by simpa using mine)
      all_goals have other : temp.packet.tuple ≠ tuple := fun isTuple => mine ⟨same.symm,isTuple⟩
      · rw [heldOf_push pushed,if_neg other]
      · simp [packet,inHand,Option.filter,other]
  | @reinjects b tuple' chain effect held queue packet =>
    by_cases mine : b = a ∧ tuple' = tuple
    · obtain ⟨rfl,rfl⟩ := mine
      exact ⟨false,lane_reinjects known effect held queue packet,by simp⟩
    · refine stays (effect.lane_eq known (fun packetId member => ?_) (fun same => ?_) (fun _ => by rw [packet])) (by simp)
      · obtain ⟨temp,isHeld,rfl⟩ := List.mem_map.mp member
        obtain ⟨inChain,isTuple⟩ := List.mem_filter.mp isHeld
        rw [ofFlow_arrived (effect.arrived (known.queued b _ chain held temp inChain)),
          show temp.packet.tuple = tuple' by simpa using isTuple]
        simpa using mine
      · rw [queue,heldOf_release held,if_neg (fun isTuple => mine ⟨same.symm,isTuple.symm⟩)]

end

/-! ### Whole runs -/

/-- What holds of the threads, the log and the lane of a flow in every run. -/
structure Following (a : AP) (tuple : FourTuple) (state : Threads AP × List Nat) : Prop where
  known : Known state.1 state.2
  valid : (lane state.1 state.2 a tuple).Valid

theorem lane_resting (cfg : Config AP) (a : AP) (tuple : FourTuple) :
    lane (resting (Net.init cfg)) [] a tuple = ⟨[],[],none⟩ := by
  simp only [lane,waiting,heldOf,resting,Net.init,AccessPoint.init,Buckets.bucket_empty]
  split <;> rfl

theorem following_resting (cfg : Config AP) (a : AP) (tuple : FourTuple) :
    Following a tuple (resting (Net.init cfg),[]) := by
  refine ⟨⟨by simp,fun _ => Buckets.all_empty _ _,fun _ temp inHand => ?_⟩,fun i isHand => ?_⟩
  · cases inHand
  · rw [lane_resting] at isHand
    cases isHand

theorem logged_step {cfg : Config AP} {a : AP} {tuple : FourTuple} {state state' : Threads AP × List Nat}
    {action : Action AP} (following : Following a tuple state) (stepped : logged cfg state action = some state') :
    Following a tuple state' ∧ ((lane state'.1 state'.2 a tuple).InOrder ↔
      (lane state.1 state.2 a tuple).InOrder ∧ InTurn cfg a tuple state action) := by
  obtain ⟨s',isStep,rfl⟩ := Option.map_eq_some_iff.mp stepped
  have handles := handles_step a isStep
  obtain ⟨isPlaced,moves,same⟩ := handles.moves following.known a tuple
  refine ⟨⟨handles.known following.known,moves.valid following.valid⟩,?_⟩
  rw [moves.inOrder_iff following.valid,same]
  rfl

/-- Verdicts on the packets of a flow come in the order of arrival if every packet is
    placed while none is held; and once none is held, only then. -/
theorem verdicts_in_order_iff {cfg : Config AP} {actions : List (Action AP)} {s : Threads AP} {log : List Nat}
    (ran : Run.run (logged cfg) (resting (Net.init cfg),[]) actions = some (s,log)) (a : AP) (tuple : FourTuple) :
    (Run.Steps (logged cfg) (InTurn cfg a tuple) (resting (Net.init cfg),[]) actions →
        (log.filter (s.ofFlow a tuple)).Pairwise (· < ·)) ∧
      (s.waiting a tuple = [] → ((log.filter (s.ofFlow a tuple)).Pairwise (· < ·) ↔
        Run.Steps (logged cfg) (InTurn cfg a tuple) (resting (Net.init cfg),[]) actions)) := by
  have start : (lane (resting (Net.init cfg)) [] a tuple).InOrder := by
    rw [lane_resting]
    exact .nil
  have whole := Run.final_iff_steps (fun state action state' => logged_step) (following_resting cfg a tuple) ran
  rw [and_iff_right start] at whole
  refine ⟨fun steps => (List.pairwise_append.mp (whole.mpr steps)).1,fun none_ => ?_⟩
  rw [← whole]
  show _ ↔ List.Pairwise _ (log.filter (s.ofFlow a tuple) ++ s.waiting a tuple)
  rw [none_,List.append_nil]

open Net in
/-- A packet waits for the port of its flow and leaves, and the next one finds the
    entry. -/
def oneAfterTheOther : List (Action Site) :=
  [.other (.connect .left Site.left.switch.remoteAddress),.intercept .left visitor (Gateway.datagram visit),
    .addPortData .left,.request .left,.other (.thread .left 0),.other (.handle Site.left.switch []),
    .receiveNatAdd .left,.addEntry .left,.assignPort .left,.reinject .left,.other (.reinject .left 0),
    .intercept .left visitor (Gateway.datagram visit),.accept .left]

open Net in
theorem oneAfterTheOther_in_order : ∃ s log, Run.run (logged site) (resting (Net.init site),[]) oneAfterTheOther = some (s,log) ∧
    log = [0,1] ∧ (log.filter (s.ofFlow .left visit)).Pairwise (· < ·) := by
  obtain ⟨⟨s,log⟩,ran,isLog⟩ : ∃ state, Run.run (logged site) (resting (Net.init site),[]) oneAfterTheOther = some state ∧
      state.2 = [0,1] := Run.exists_run (by decide +kernel)
  have inTurn : Run.Steps (logged site) (InTurn site .left visit) (resting (Net.init site),[]) oneAfterTheOther :=
    Run.steps_of_check (fun _ _ => of_decide_eq_true) (by decide +kernel)
  exact ⟨s,log,ran,isLog,(verdicts_in_order_iff ran .left visit).1 inTurn⟩

open Net in
/-- Two packets of a flow wait for its port. -/
def bothHeld : List (Action Site) :=
  [.other (.connect .left Site.left.switch.remoteAddress),.intercept .left visitor (Gateway.datagram visit),
    .addPortData .left,.request .left,.other (.thread .left 0),.other (.handle Site.left.switch []),
    .intercept .left visitor (Gateway.datagram visit),.addPortData .left,.request .left,
    .receiveNatAdd .left,.addEntry .left,.assignPort .left,.reinject .left,.other (.reinject .left 0)]

open Net in
/-- The second one leaves first. -/
theorem bothHeld_reversed : ∃ s log, Run.run (logged site) (resting (Net.init site),[]) bothHeld = some (s,log) ∧
    log = [1,0] ∧ s.waiting .left visit = [] ∧ ¬ (log.filter (s.ofFlow .left visit)).Pairwise (· < ·) := by
  obtain ⟨⟨s,log⟩,ran,isLog,none_,isFlow⟩ : ∃ state,
      Run.run (logged site) (resting (Net.init site),[]) bothHeld = some state ∧ state.2 = [1,0] ∧
      state.1.waiting .left visit = [] ∧ state.2.filter (state.1.ofFlow .left visit) = [1,0] :=
    Run.exists_run (by decide +kernel)
  refine ⟨s,log,ran,isLog,none_,?_⟩
  rw [isFlow]
  decide

end Threads
end Handover
