import Handover.AccessPointSpec
import Handover.Gateway

/-!
The whole site: one controller, any number of access points, the gateway, and the
connections between them, which are FIFO and lose nothing while they are open. An
event is one atomic step of one party; `none` means that it cannot happen, or
that it is a fault of the access point or the gateway it happens at. Messages come out
of a connection as they went into it. For what the controller reads this fails behind a
reassociation request or a NAT update (`Wire.recovered_iff`), of which `Streams` has
the consequences.
-/
namespace Handover
open Controller

/-- What the parties are configured with; permanent MAC addresses are distinct. -/
structure Config (AP : Type) where
  ap : AP → APConfig
  gateway : GatewayConfig
  macs : ∀ a b, (ap a).mac = (ap b).mac → a = b

/-- An uplink packet as a station sent it. -/
structure Arrival (AP : Type) where
  ap : AP
  hwAddr : Mac
  data : Packet
deriving DecidableEq

/-- The site. `opened` lists who opened the connections, the gateway as `none`,
    and from which address; the place in it is the identity of the controller's
    switch object. `closed` lists the switches that the controller has removed.
    The last three fields follow the packets: as they were sent, on their way to
    the gateway, and as they left it, the newest first. -/
structure Net (AP : Type) where
  controller : Controller
  ap : AP → AccessPoint
  gateway : Buckets GatewayMap
  sock : AP → Option IOFSwitch
  gwSock : Option IOFSwitch
  opened : List (Option AP × IPv4)
  closed : List IOFSwitch
  up : IOFSwitch → List ToController
  down : IOFSwitch → List FromController
  arrivals : List (Arrival AP)
  transit : List Verdict
  emitted : List Verdict

namespace Net
variable {AP : Type} [DecidableEq AP]

/-- Nothing is connected and all tables are empty. -/
def init (cfg : Config AP) : Net AP :=
  ⟨.init,fun a => .init (cfg.ap a),Gateway.init,fun _ => none,none,[],[],fun _ => [],fun _ => [],[],[],[]⟩

inductive Event (AP : Type) where
  | connect (a : AP) (address : IPv4)
  | disconnect (a : AP)
  | radio (a : AP) (input : AccessPoint.Radio)
  | thread (a : AP) (i : Nat)
  | deliver (a : AP)
  | handle (sw : IOFSwitch) (failing : List Nat)
  | removed (sw : IOFSwitch)
  | rehash (order : Map STAAPPair STAAPInfo)
  | uplink (a : AP) (hwAddr : Mac) (data : Packet)
  | reinject (a : AP) (i : Nat)
  | gwConnect (address : IPv4)
  | gwDisconnect
  | gwAnnounce
  | gwDeliver
  | gwForward (i : Nat)

def setAP (net : Net AP) (a : AP) (ap : AccessPoint) : Net AP := { net with ap := Function.update net.ap a ap }

/-- `controller_send`: without a connection the messages are dropped. -/
def send (net : Net AP) (a : AP) (msgs : List ToController) : Net AP :=
  match net.sock a with
  | none => net
  | some sw => { net with up := Function.update net.up sw (net.up sw ++ msgs) }

/-- Java's encoder throws on `null` rates, and the message is not sent. -/
def encodable : FromController → Bool
  | .updateSTAAdd _ update => update.supportedRates.isSome
  | _ => true

def post (net : Net AP) (writes : List Write) : Net AP :=
  { net with down := fun sw => net.down sw ++ messagesTo sw (writes.filter (fun w => encodable w.msg)) }

/-- The controller handles an event of its own. -/
def control (net : Net AP) (e : Controller.Event) : Net AP :=
  { net with controller := (net.controller.step e).1 }.post (net.controller.step e).2

def step (cfg : Config AP) (net : Net AP) : Event AP → Option (Net AP)
  | .connect a address =>
    if (net.sock a).isNone then
      some { net with
        sock := Function.update net.sock a (some ⟨net.opened.length,address⟩)
        opened := net.opened ++ [(some a,address)] }
    else none
  | .disconnect a => if (net.sock a).isSome then some { net with sock := Function.update net.sock a none } else none
  | .radio a input => ((net.ap a).react (cfg.ap a) input).map (fun (ap,msgs) => (net.setAP a ap).send a msgs)
  | .thread a i => ((net.ap a).sendThread (cfg.ap a) i).map (fun (ap,msg) => (net.setAP a ap).send a [msg])
  | .deliver a => (net.sock a).bind (fun sw =>
      match net.down sw with
      | [] => none
      | msg :: rest => ((net.ap a).handleVendor (cfg.ap a) msg).map (fun (ap,msgs) =>
          ({ net with down := Function.update net.down sw rest }.setAP a ap).send a msgs))
  | .handle sw failing =>
    if sw ∈ net.closed then none
    else match net.up sw with
      | [] => none
      | msg :: rest => some ({ net with up := Function.update net.up sw rest }.control (.receive sw msg failing))
  | .removed sw =>
    if sw ∈ net.closed then none
    else some ({ net with closed := sw :: net.closed }.control (.removedSwitch sw))
  | .rehash order => some (net.control (.rehash order))
  | .uplink a hwAddr data =>
    ((net.ap a).handleUplink (cfg.ap a) net.arrivals.length hwAddr data).map (fun (ap,verdict) =>
      { net.setAP a ap with arrivals := net.arrivals ++ [⟨a,hwAddr,data⟩], transit := net.transit ++ verdict.toList })
  | .reinject a i => ((net.ap a).reinjectPkt (cfg.ap a) i).map (fun (ap,verdicts) =>
      { net.setAP a ap with transit := net.transit ++ verdicts })
  | .gwConnect address =>
    if net.gwSock.isNone then
      some { net with gwSock := some ⟨net.opened.length,address⟩, opened := net.opened ++ [(none,address)] }
    else none
  | .gwDisconnect => if net.gwSock.isSome then some { net with gwSock := none } else none
  | .gwAnnounce => net.gwSock.map (fun sw => { net with up := Function.update net.up sw (net.up sw ++ [.gwConnect]) })
  | .gwDeliver => net.gwSock.bind (fun sw =>
      match net.down sw with
      | [] => none
      | msg :: rest => (Gateway.handleVendor net.gateway msg).map (fun gateway =>
          { net with gateway := gateway, down := Function.update net.down sw rest }))
  | .gwForward i => net.transit[i]?.bind (fun verdict =>
      (Gateway.handleUplink cfg.gateway net.gateway verdict.payload).map (fun (gateway,data) =>
        { net with
          gateway := gateway
          transit := net.transit.eraseIdx i
          emitted := ⟨verdict.packetId,data⟩ :: net.emitted }))

/-! ### What a step can do -/

/-- What remains of the queues when the head of one is taken was there before. -/
theorem mem_of_mem_dequeue {Message : Type} {queue : IOFSwitch → List Message} {sw sw' : IOFSwitch} {head msg : Message}
    {rest : List Message} (waiting : queue sw = head :: rest) (member : msg ∈ Function.update queue sw rest sw') :
    msg ∈ queue sw' := by
  by_cases same : sw' = sw
  · subst same
    rw [Function.update_self] at member
    rw [waiting]
    exact List.mem_cons_of_mem _ member
  · rwa [Function.update_of_ne same] at member

/-- A step at one access point, which sends the messages; the access point itself,
    the packets and what it has read of its connection aside. -/
structure Local (net net' : Net AP) (a : AP) (msgs : List ToController) : Prop where
  controller : net'.controller = net.controller
  others : ∀ b, b ≠ a → net'.ap b = net.ap b
  sock : net'.sock = net.sock
  gwSock : net'.gwSock = net.gwSock
  opened : net'.opened = net.opened
  closed : net'.closed = net.closed
  gateway : net'.gateway = net.gateway
  emitted : net'.emitted = net.emitted
  up : ∀ sw, net'.up sw = if net.sock a = some sw then net.up sw ++ msgs else net.up sw

/-- A step of the controller, which writes the messages. -/
structure Controls (net net' : Net AP) (e : Controller.Event) : Prop where
  controller : net'.controller = (net.controller.step e).1
  ap : net'.ap = net.ap
  sock : net'.sock = net.sock
  gwSock : net'.gwSock = net.gwSock
  opened : net'.opened = net.opened
  gateway : net'.gateway = net.gateway
  arrivals : net'.arrivals = net.arrivals
  transit : net'.transit = net.transit
  emitted : net'.emitted = net.emitted
  down : ∀ sw, net'.down sw =
    net.down sw ++ messagesTo sw ((net.controller.step e).2.filter (fun w => encodable w.msg))

theorem local_setAP_send (net : Net AP) (a : AP) (ap : AccessPoint) (msgs : List ToController) :
    Local net ((net.setAP a ap).send a msgs) a msgs ∧ ((net.setAP a ap).send a msgs).ap a = ap ∧
      ((net.setAP a ap).send a msgs).down = net.down ∧ ((net.setAP a ap).send a msgs).arrivals = net.arrivals ∧
      ((net.setAP a ap).send a msgs).transit = net.transit := by
  have others : ∀ b, b ≠ a → (net.setAP a ap).ap b = net.ap b := fun b other => Function.update_of_ne other _ _
  have itself : (net.setAP a ap).ap a = ap := Function.update_self _ _ _
  unfold send
  split
  · rename_i lost
    exact ⟨⟨rfl,others,rfl,rfl,rfl,rfl,rfl,rfl,fun sw => by rw [if_neg (by rw [show net.sock a = none from lost]; simp)]; rfl⟩,
      itself,rfl,rfl,rfl⟩
  · rename_i sw connected
    refine ⟨⟨rfl,others,rfl,rfl,rfl,rfl,rfl,rfl,fun sw' => ?_⟩,itself,rfl,rfl,rfl⟩
    rw [show net.sock a = some sw from connected]
    by_cases same : sw' = sw
    · subst same
      simp [setAP]
    · simp [setAP,same,Ne.symm same]

theorem step_radio {cfg : Config AP} {net net' : Net AP} {a : AP} {input : AccessPoint.Radio}
    (stepped : step cfg net (.radio a input) = some net') :
    ∃ msgs, (net.ap a).react (cfg.ap a) input = some (net'.ap a,msgs) ∧ Local net net' a msgs ∧
      net'.down = net.down ∧ net'.arrivals = net.arrivals ∧ net'.transit = net.transit := by
  obtain ⟨⟨ap,msgs⟩,reacts,rfl⟩ := Option.map_eq_some_iff.mp stepped
  obtain ⟨here,itself,rest⟩ := local_setAP_send net a ap msgs
  exact ⟨msgs,by rw [itself]; exact reacts,here,rest⟩

theorem step_thread {cfg : Config AP} {net net' : Net AP} {a : AP} {i : Nat}
    (stepped : step cfg net (.thread a i) = some net') :
    ∃ msg, (net.ap a).sendThread (cfg.ap a) i = some (net'.ap a,msg) ∧ Local net net' a [msg] ∧
      net'.down = net.down ∧ net'.arrivals = net.arrivals ∧ net'.transit = net.transit := by
  obtain ⟨⟨ap,msg⟩,ran,rfl⟩ := Option.map_eq_some_iff.mp stepped
  obtain ⟨here,itself,rest⟩ := local_setAP_send net a ap [msg]
  exact ⟨msg,by rw [itself]; exact ran,here,rest⟩

theorem step_deliver {cfg : Config AP} {net net' : Net AP} {a : AP}
    (stepped : step cfg net (.deliver a) = some net') :
    ∃ sw msg rest msgs, net.sock a = some sw ∧ net.down sw = msg :: rest ∧
      (net.ap a).handleVendor (cfg.ap a) msg = some (net'.ap a,msgs) ∧ Local net net' a msgs ∧
      net'.down = Function.update net.down sw rest ∧ net'.arrivals = net.arrivals ∧ net'.transit = net.transit := by
  obtain ⟨sw,connected,rest⟩ := Option.bind_eq_some_iff.mp stepped
  split at rest
  · cases rest
  · rename_i msg rest' waiting
    obtain ⟨⟨ap,msgs⟩,handled,rfl⟩ := Option.map_eq_some_iff.mp rest
    obtain ⟨here,itself,down,arrivals,transit⟩ :=
      local_setAP_send ({ net with down := Function.update net.down sw rest' } : Net AP) a ap msgs
    refine ⟨sw,msg,rest',msgs,connected,waiting,by rw [itself]; exact handled,?_,down,arrivals,transit⟩
    exact ⟨here.controller,here.others,here.sock,here.gwSock,here.opened,here.closed,here.gateway,here.emitted,here.up⟩

theorem step_uplink {cfg : Config AP} {net net' : Net AP} {a : AP} {hwAddr : Mac} {data : Packet}
    (stepped : step cfg net (.uplink a hwAddr data) = some net') :
    ∃ verdict, (net.ap a).handleUplink (cfg.ap a) net.arrivals.length hwAddr data = some (net'.ap a,verdict) ∧
      Local net net' a [] ∧ net'.down = net.down ∧ net'.arrivals = net.arrivals ++ [⟨a,hwAddr,data⟩] ∧
      net'.transit = net.transit ++ verdict.toList := by
  obtain ⟨⟨ap,verdict⟩,handled,rfl⟩ := Option.map_eq_some_iff.mp stepped
  have itself : (net.setAP a ap).ap a = ap := Function.update_self _ _ _
  refine ⟨verdict,?_,⟨rfl,?_,rfl,rfl,rfl,rfl,rfl,rfl,?_⟩,rfl,rfl,rfl⟩
  · rw [show (_ : AccessPoint) = ap from itself]
    exact handled
  · exact fun b other => Function.update_of_ne other _ _
  · intro sw
    simp [setAP]

theorem step_reinject {cfg : Config AP} {net net' : Net AP} {a : AP} {i : Nat}
    (stepped : step cfg net (.reinject a i) = some net') :
    ∃ verdicts, (net.ap a).reinjectPkt (cfg.ap a) i = some (net'.ap a,verdicts) ∧ Local net net' a [] ∧
      net'.down = net.down ∧ net'.arrivals = net.arrivals ∧ net'.transit = net.transit ++ verdicts := by
  obtain ⟨⟨ap,verdicts⟩,handled,rfl⟩ := Option.map_eq_some_iff.mp stepped
  have itself : (net.setAP a ap).ap a = ap := Function.update_self _ _ _
  refine ⟨verdicts,?_,⟨rfl,?_,rfl,rfl,rfl,rfl,rfl,rfl,?_⟩,rfl,rfl,rfl⟩
  · rw [show (_ : AccessPoint) = ap from itself]
    exact handled
  · exact fun b other => Function.update_of_ne other _ _
  · intro sw
    simp [setAP]

theorem step_handle {cfg : Config AP} {net net' : Net AP} {sw : IOFSwitch} {failing : List Nat}
    (stepped : step cfg net (.handle sw failing) = some net') :
    ∃ msg rest, sw ∉ net.closed ∧ net.up sw = msg :: rest ∧ Controls net net' (.receive sw msg failing) ∧
      net'.up = Function.update net.up sw rest ∧ net'.closed = net.closed := by
  simp only [step] at stepped
  split at stepped
  · cases stepped
  · rename_i isOpen
    split at stepped
    · cases stepped
    · rename_i msg rest waiting
      cases stepped
      exact ⟨msg,rest,isOpen,waiting,⟨rfl,rfl,rfl,rfl,rfl,rfl,rfl,rfl,rfl,fun _ => rfl⟩,rfl,rfl⟩

theorem step_removed {cfg : Config AP} {net net' : Net AP} {sw : IOFSwitch}
    (stepped : step cfg net (.removed sw) = some net') :
    sw ∉ net.closed ∧ Controls net net' (.removedSwitch sw) ∧ net'.up = net.up ∧ net'.closed = sw :: net.closed := by
  simp only [step] at stepped
  split at stepped
  · cases stepped
  · rename_i isOpen
    cases stepped
    exact ⟨isOpen,⟨rfl,rfl,rfl,rfl,rfl,rfl,rfl,rfl,rfl,fun _ => rfl⟩,rfl,rfl⟩

theorem step_rehash {cfg : Config AP} {net net' : Net AP} {order : Map STAAPPair STAAPInfo}
    (stepped : step cfg net (.rehash order) = some net') :
    Controls net net' (.rehash order) ∧ net'.up = net.up ∧ net'.closed = net.closed := by
  cases stepped
  exact ⟨⟨rfl,rfl,rfl,rfl,rfl,rfl,rfl,rfl,rfl,fun _ => rfl⟩,rfl,rfl⟩

theorem step_connect {cfg : Config AP} {net net' : Net AP} {a : AP} {address : IPv4}
    (stepped : step cfg net (.connect a address) = some net') :
    net.sock a = none ∧ net' = { net with
      sock := Function.update net.sock a (some ⟨net.opened.length,address⟩)
      opened := net.opened ++ [(some a,address)] } := by
  simp only [step] at stepped
  split at stepped
  · rename_i free
    exact ⟨Option.isNone_iff_eq_none.mp free,(Option.some.inj stepped).symm⟩
  · cases stepped

theorem step_disconnect {cfg : Config AP} {net net' : Net AP} {a : AP}
    (stepped : step cfg net (.disconnect a) = some net') :
    net' = { net with sock := Function.update net.sock a none } := by
  simp only [step] at stepped
  split at stepped
  · exact (Option.some.inj stepped).symm
  · cases stepped

theorem step_gwConnect {cfg : Config AP} {net net' : Net AP} {address : IPv4}
    (stepped : step cfg net (.gwConnect address) = some net') :
    net' = { net with gwSock := some ⟨net.opened.length,address⟩, opened := net.opened ++ [(none,address)] } := by
  simp only [step] at stepped
  split at stepped
  · exact (Option.some.inj stepped).symm
  · cases stepped

theorem step_gwDisconnect {cfg : Config AP} {net net' : Net AP} (stepped : step cfg net .gwDisconnect = some net') :
    net' = { net with gwSock := none } := by
  simp only [step] at stepped
  split at stepped
  · exact (Option.some.inj stepped).symm
  · cases stepped

theorem step_gwAnnounce {cfg : Config AP} {net net' : Net AP} (stepped : step cfg net .gwAnnounce = some net') :
    ∃ sw, net.gwSock = some sw ∧ net' = { net with up := Function.update net.up sw (net.up sw ++ [.gwConnect]) } := by
  obtain ⟨sw,connected,isNext⟩ := Option.map_eq_some_iff.mp stepped
  exact ⟨sw,connected,isNext.symm⟩

theorem step_gwDeliver {cfg : Config AP} {net net' : Net AP} (stepped : step cfg net .gwDeliver = some net') :
    ∃ sw msg rest gateway, net.gwSock = some sw ∧ net.down sw = msg :: rest ∧
      Gateway.handleVendor net.gateway msg = some gateway ∧
      net' = { net with gateway := gateway, down := Function.update net.down sw rest } := by
  obtain ⟨sw,connected,rest⟩ := Option.bind_eq_some_iff.mp stepped
  split at rest
  · cases rest
  · rename_i msg rest' waiting
    obtain ⟨gateway,handled,isNext⟩ := Option.map_eq_some_iff.mp rest
    exact ⟨sw,msg,rest',gateway,connected,waiting,handled,isNext.symm⟩

theorem step_gwForward {cfg : Config AP} {net net' : Net AP} {i : Nat}
    (stepped : step cfg net (.gwForward i) = some net') :
    ∃ verdict gateway data, net.transit[i]? = some verdict ∧
      Gateway.handleUplink cfg.gateway net.gateway verdict.payload = some (gateway,data) ∧
      net' = { net with
        gateway := gateway
        transit := net.transit.eraseIdx i
        emitted := ⟨verdict.packetId,data⟩ :: net.emitted } := by
  obtain ⟨verdict,isVerdict,rest⟩ := Option.bind_eq_some_iff.mp stepped
  obtain ⟨⟨gateway,data⟩,handled,isNext⟩ := Option.map_eq_some_iff.mp rest
  exact ⟨verdict,gateway,data,isVerdict,handled,isNext.symm⟩

/-- The event is one of the gateway. -/
def Event.atGateway : Event AP → Bool
  | .gwConnect _ | .gwDisconnect | .gwAnnounce | .gwDeliver | .gwForward _ => true
  | _ => false

/-- A step of the gateway, its table and the packets aside. -/
structure AtGateway (net net' : Net AP) : Prop where
  controller : net'.controller = net.controller
  ap : net'.ap = net.ap
  sock : net'.sock = net.sock
  closed : net'.closed = net.closed
  arrivals : net'.arrivals = net.arrivals
  opened : net'.opened = net.opened ∨ ∃ address, net'.opened = net.opened ++ [(none,address)]
  gwSock : ∀ sw, net'.gwSock = some sw → net.gwSock = some sw ∨
    ∃ address, sw = ⟨net.opened.length,address⟩ ∧ net'.opened = net.opened ++ [(none,address)]
  up : ∀ sw, net'.up sw = net.up sw ∨ net.gwSock = some sw ∧ net'.up sw = net.up sw ++ [.gwConnect]
  down : ∀ sw, ∀ msg ∈ net'.down sw, msg ∈ net.down sw
  otherDown : ∀ sw, net.gwSock ≠ some sw → net'.down sw = net.down sw

theorem step_gateway {cfg : Config AP} {net net' : Net AP} {e : Event AP} (isGateway : e.atGateway = true)
    (stepped : step cfg net e = some net') : AtGateway net net' := by
  cases e with
  | gwConnect address =>
    rw [step_gwConnect stepped]
    refine ⟨rfl,rfl,rfl,rfl,rfl,.inr ⟨address,rfl⟩,fun sw connected => .inr ⟨address,?_,rfl⟩,fun _ => .inl rfl,
      fun _ _ => id,fun _ _ => rfl⟩
    exact (Option.some.inj connected).symm
  | gwDisconnect =>
    rw [step_gwDisconnect stepped]
    exact ⟨rfl,rfl,rfl,rfl,rfl,.inl rfl,fun sw connected => (nomatch connected),fun _ => .inl rfl,fun _ _ => id,
      fun _ _ => rfl⟩
  | gwAnnounce =>
    obtain ⟨sw,connected,rfl⟩ := step_gwAnnounce stepped
    refine ⟨rfl,rfl,rfl,rfl,rfl,.inl rfl,fun _ => .inl,fun sw' => ?_,fun _ _ => id,fun _ _ => rfl⟩
    by_cases same : sw' = sw
    · subst same
      exact .inr ⟨connected,Function.update_self _ _ _⟩
    · exact .inl (Function.update_of_ne same _ _)
  | gwDeliver =>
    obtain ⟨sw,msg,rest,gateway,connected,waiting,_,rfl⟩ := step_gwDeliver stepped
    refine ⟨rfl,rfl,rfl,rfl,rfl,.inl rfl,fun _ => .inl,fun _ => .inl rfl,
      fun _ _ member => mem_of_mem_dequeue waiting member,fun sw' other => ?_⟩
    have different : sw' ≠ sw := fun same => other (same ▸ connected)
    exact Function.update_of_ne different _ _
  | gwForward i =>
    obtain ⟨verdict,gateway,data,_,_,rfl⟩ := step_gwForward stepped
    exact ⟨rfl,rfl,rfl,rfl,rfl,.inl rfl,fun _ => .inl,fun _ => .inl rfl,fun _ _ => id,fun _ _ => rfl⟩
  | _ => cases isGateway

/-- What the controller is given in a step, if anything. -/
def controlled (net : Net AP) : Event AP → Option Controller.Event
  | .handle sw failing => (net.up sw).head?.map (fun msg => .receive sw msg failing)
  | .removed sw => some (.removedSwitch sw)
  | .rehash order => some (.rehash order)
  | _ => none

omit [DecidableEq AP] in
theorem controlled_receive {net : Net AP} {e : Event AP} {sw : IOFSwitch} {msg : ToController} {failing : List Nat}
    (isGiven : net.controlled e = some (.receive sw msg failing)) :
    e = .handle sw failing ∧ ∃ rest, net.up sw = msg :: rest := by
  cases e with
  | handle sw' failing' =>
    obtain ⟨msg',isHead,same⟩ := Option.map_eq_some_iff.mp isGiven
    cases same
    exact ⟨rfl,List.head?_eq_some_iff.mp isHead⟩
  | removed sw' => cases isGiven
  | rehash order => cases isGiven
  | _ => cases isGiven

omit [DecidableEq AP] in
/-- What the controller receives was waiting. -/
theorem controlled_waiting {net : Net AP} {e : Event AP} {given : Controller.Event}
    (isGiven : net.controlled e = some given) (sw : IOFSwitch) (msg : ToController) (failing : List Nat)
    (isReceived : given = .receive sw msg failing) : msg ∈ net.up sw := by
  subst isReceived
  obtain ⟨_,rest,waiting⟩ := controlled_receive isGiven
  rw [waiting]
  exact List.mem_cons_self

/-! ### The kinds of steps -/

/-- The threads that an access point starts: they report on a station, ask for its
    admission, or ask for the port of the packet that has come. -/
inductive Starts (cfg : APConfig) (a : AP) (e : Event AP) (thread : Sender) : Prop where
  | report {sta : Mac} {s : STAStatus} (reports : (thread.msg cfg).report = some (sta,cfg.mac,s))
  | probe {sta : Mac} (isProbe : thread = .message (.probe sta cfg.mac))
  | request {hwAddr : Mac} {data : Packet} (isEvent : e = .uplink a hwAddr data)
    (isRequest : thread = .message (.portTranslation hwAddr data.tuple))

/-- The messages that an access point sends: a signal strength, one that it was asked
    for, or what a thread had to send. -/
inductive Sends (cfg : APConfig) (net : Net AP) (a : AP) (msg : ToController) : Prop where
  | strength {sta : Mac} {rssi : UInt8} (isStrength : msg = .recPow sta cfg.mac rssi)
  | answer {sta : Mac} {rssi : UInt8} {sw : IOFSwitch} (isAnswer : msg = .apRecPow sta cfg.mac rssi)
    (connected : net.sock a = some sw) (asked : .lastRecPow sta ∈ net.down sw)
  | thread {thread : Sender} (isThread : thread ∈ (net.ap a).sending) (isMsg : msg = thread.msg cfg)

/-- What the access points have in common in what they do. -/
structure Acts (cfg : Config AP) (net : Net AP) (e : Event AP) (net' : Net AP) (a : AP) (msgs : List ToController) :
    Prop where
  here : Local net net' a msgs
  noGiven : net.controlled e = none
  down : ∀ sw, ∀ msg ∈ net'.down sw, msg ∈ net.down sw
  threads : ∀ thread ∈ (net'.ap a).sending, thread ∈ (net.ap a).sending ∨ Starts (cfg.ap a) a e thread
  sends : ∀ msg ∈ msgs, Sends (cfg.ap a) net a msg
  entryList : (net'.ap a).entryList = (net.ap a).entryList ∨ ∃ sw sta tuple newPort rest, e = .deliver a ∧
    net.sock a = some sw ∧ net.down sw = .natAdd sta tuple newPort :: rest ∧
    natAdd (net.ap a).entryList tuple newPort = some (net'.ap a).entryList
  packets : (net'.arrivals = net.arrivals ∧ (net'.ap a).portQueue = (net.ap a).portQueue ∧ net'.transit = net.transit) ∨
    (∃ hwAddr data, e = .uplink a hwAddr data ∧ net'.arrivals = net.arrivals ++ [⟨a,hwAddr,data⟩]) ∨
    ∃ i, e = .reinject a i ∧ net'.arrivals = net.arrivals

theorem acts_radio {cfg : Config AP} {net net' : Net AP} {a : AP} {input : AccessPoint.Radio}
    (stepped : step cfg net (.radio a input) = some net') : ∃ msgs, Acts cfg net (.radio a input) net' a msgs := by
  obtain ⟨msgs,reacts,here,down,arrivals,transit⟩ := step_radio stepped
  have same : ∀ sw, ∀ msg ∈ net'.down sw, msg ∈ net.down sw := fun sw msg member => down ▸ member
  refine ⟨msgs,?_⟩
  rcases AccessPoint.react_spec reacts with ⟨sta,target,_,changed,rfl⟩ | ⟨_,quiet,⟨sta,sending,rfl⟩ | ⟨sending,reports⟩⟩
  · obtain ⟨thread,sending,isReport⟩ := changed.reports
    refine ⟨here,rfl,same,fun other member => ?_,by simp,.inl changed.nat.entryList,
      .inl ⟨arrivals,changed.nat.portQueue,transit⟩⟩
    rw [sending,List.mem_append,List.mem_singleton] at member
    exact member.imp_right (fun isNew => .report (isNew ▸ isReport))
  · refine ⟨here,rfl,same,fun other member => ?_,by simp,.inl quiet.nat.entryList,
      .inl ⟨arrivals,quiet.nat.portQueue,transit⟩⟩
    rw [sending,List.mem_append,List.mem_singleton] at member
    exact member.imp_right .probe
  · refine ⟨here,rfl,same,fun other member => .inl (sending ▸ member),fun msg member => ?_,.inl quiet.nat.entryList,
      .inl ⟨arrivals,quiet.nat.portQueue,transit⟩⟩
    obtain ⟨_,_,isStrength,_⟩ := reports msg member
    exact .strength isStrength

theorem acts_thread {cfg : Config AP} {net net' : Net AP} {a : AP} {i : Nat}
    (stepped : step cfg net (.thread a i) = some net') : ∃ msgs, Acts cfg net (.thread a i) net' a msgs := by
  obtain ⟨msg,ran,here,down,arrivals,transit⟩ := step_thread stepped
  obtain ⟨thread,isThread,isMsg,sending,nat,_⟩ := AccessPoint.sendThread_spec ran
  refine ⟨[msg],here,rfl,fun sw msg member => down ▸ member,fun other member => .inl ?_,fun sent member => ?_,
    .inl nat.entryList,.inl ⟨arrivals,nat.portQueue,transit⟩⟩
  · rw [sending] at member
    exact List.mem_of_mem_eraseIdx member
  · rw [List.mem_singleton.mp member]
    exact .thread (List.mem_of_getElem? isThread) isMsg

theorem acts_deliver {cfg : Config AP} {net net' : Net AP} {a : AP}
    (stepped : step cfg net (.deliver a) = some net') : ∃ msgs, Acts cfg net (.deliver a) net' a msgs := by
  obtain ⟨sw,msg,rest,msgs,connected,waiting,handled,here,down,arrivals,transit⟩ := step_deliver stepped
  obtain ⟨sending,answers⟩ := AccessPoint.handleVendor_sends handled
  have same : ∀ sw, ∀ msg ∈ net'.down sw, msg ∈ net.down sw :=
    fun sw msg member => mem_of_mem_dequeue waiting (down ▸ member)
  have sends : ∀ m ∈ msgs, Sends (cfg.ap a) net a m := by
    intro m member
    obtain ⟨sta,rssi,isQuery,isAnswer,_⟩ := answers m member
    exact .answer isAnswer connected (by rw [waiting,isQuery]; exact List.mem_cons_self)
  have threads : ∀ thread ∈ (net'.ap a).sending, thread ∈ (net.ap a).sending ∨ Starts (cfg.ap a) a (.deliver a) thread :=
    fun thread member => .inl (sending ▸ member)
  rcases AccessPoint.handleVendor_nat handled with nat | ⟨sta,tuple,newPort,rfl,added,queue,_⟩
  · exact ⟨msgs,here,rfl,same,threads,sends,.inl nat.entryList,.inl ⟨arrivals,nat.portQueue,transit⟩⟩
  · exact ⟨msgs,here,rfl,same,threads,sends,.inr ⟨sw,sta,tuple,newPort,rest,rfl,connected,waiting,added⟩,
      .inl ⟨arrivals,queue,transit⟩⟩

theorem acts_uplink {cfg : Config AP} {net net' : Net AP} {a : AP} {hwAddr : Mac} {data : Packet}
    (stepped : step cfg net (.uplink a hwAddr data) = some net') : ∃ msgs, Acts cfg net (.uplink a hwAddr data) net' a msgs := by
  obtain ⟨verdict,handled,here,down,arrivals,_⟩ := step_uplink stepped
  have same : ∀ sw, ∀ msg ∈ net'.down sw, msg ∈ net.down sw := fun sw msg member => down ▸ member
  refine ⟨[],here,rfl,same,fun thread member => ?_,by simp,.inl ?_,.inr (.inl ⟨hwAddr,data,rfl,arrivals⟩)⟩
  · rcases AccessPoint.handleUplink_spec handled with ⟨_,isNext,_⟩ | ⟨_,_,isNext,_⟩ | ⟨_,_,isNext,_⟩
    · exact .inl (isNext ▸ member)
    · exact .inl (isNext ▸ member)
    · rw [isNext,List.mem_append,List.mem_singleton] at member
      exact member.imp_right (.request rfl)
  · rcases AccessPoint.handleUplink_spec handled with ⟨_,isNext,_⟩ | ⟨_,_,isNext,_⟩ | ⟨_,_,isNext,_⟩ <;> rw [isNext]

theorem acts_reinject {cfg : Config AP} {net net' : Net AP} {a : AP} {i : Nat}
    (stepped : step cfg net (.reinject a i) = some net') : ∃ msgs, Acts cfg net (.reinject a i) net' a msgs := by
  obtain ⟨verdicts,ran,here,down,arrivals,_⟩ := step_reinject stepped
  obtain ⟨_,_,_,_,_,_,_,isNext⟩ := AccessPoint.reinjectPkt_spec ran
  refine ⟨[],here,rfl,fun sw msg member => down ▸ member,fun thread member => .inl ?_,by simp,.inl (by rw [isNext]),
    .inr (.inr ⟨i,rfl,arrivals⟩)⟩
  rwa [isNext] at member

/-- What a step can be. -/
inductive Kind (cfg : Config AP) (net net' : Net AP) : Event AP → Prop where
  | connects {a : AP} {address : IPv4} (free : net.sock a = none)
    (isNext : net' = { net with
      sock := Function.update net.sock a (some ⟨net.opened.length,address⟩)
      opened := net.opened ++ [(some a,address)] }) : Kind cfg net net' (.connect a address)
  | disconnects {a : AP} (isNext : net' = { net with sock := Function.update net.sock a none }) :
    Kind cfg net net' (.disconnect a)
  | acts {e : Event AP} {a : AP} {msgs : List ToController} (acts : Acts cfg net e net' a msgs) : Kind cfg net net' e
  | controls {e : Event AP} {given : Controller.Event} (isGiven : net.controlled e = some given)
    (controls : Controls net net' given)
    (received : ∀ sw msg failing, given = .receive sw msg failing →
      ∃ rest, net.up sw = msg :: rest ∧ net'.up = Function.update net.up sw rest)
    (up : ∀ sw, ∀ msg ∈ net'.up sw, msg ∈ net.up sw) (closed : ∀ sw, sw ∈ net.closed → sw ∈ net'.closed)
    (removed : ∀ sw, given = .removedSwitch sw → sw ∈ net'.closed) : Kind cfg net net' e
  | gateway {e : Event AP} (isGateway : e.atGateway = true) (noGiven : net.controlled e = none)
    (gateway : AtGateway net net') : Kind cfg net net' e

theorem kind_step {cfg : Config AP} {net net' : Net AP} {e : Event AP} (stepped : step cfg net e = some net') :
    Kind cfg net net' e := by
  cases e with
  | connect a address =>
    obtain ⟨free,isNext⟩ := step_connect stepped
    exact .connects free isNext
  | disconnect a => exact .disconnects (step_disconnect stepped)
  | radio a input =>
    obtain ⟨_,acts⟩ := acts_radio stepped
    exact .acts acts
  | thread a i =>
    obtain ⟨_,acts⟩ := acts_thread stepped
    exact .acts acts
  | deliver a =>
    obtain ⟨_,acts⟩ := acts_deliver stepped
    exact .acts acts
  | handle sw failing =>
    obtain ⟨msg,rest,_,waiting,controls,up,closed⟩ := step_handle stepped
    refine .controls (by simp [controlled,waiting]) controls ?_ ?_ (fun sw' => closed ▸ id) (by simp)
    · intro sw' msg' failing' same
      cases same
      exact ⟨rest,waiting,up⟩
    · exact fun sw' msg' member => mem_of_mem_dequeue waiting (up ▸ member)
  | removed sw =>
    obtain ⟨_,controls,up,closed⟩ := step_removed stepped
    refine .controls rfl controls (by simp) (by rw [up]; exact fun _ _ => id) ?_ ?_
    · rw [closed]
      exact fun sw' => List.mem_cons_of_mem sw
    · intro sw' same
      cases same
      rw [closed]
      exact List.mem_cons_self
  | rehash order =>
    obtain ⟨controls,up,closed⟩ := step_rehash stepped
    exact .controls rfl controls (by simp) (by rw [up]; exact fun _ _ => id) (fun sw' => closed ▸ id) (by simp)
  | uplink a hwAddr data =>
    obtain ⟨_,acts⟩ := acts_uplink stepped
    exact .acts acts
  | reinject a i =>
    obtain ⟨_,acts⟩ := acts_reinject stepped
    exact .acts acts
  | gwConnect address => exact .gateway rfl rfl (step_gateway rfl stepped)
  | gwDisconnect => exact .gateway rfl rfl (step_gateway rfl stepped)
  | gwAnnounce => exact .gateway rfl rfl (step_gateway rfl stepped)
  | gwDeliver => exact .gateway rfl rfl (step_gateway rfl stepped)
  | gwForward i => exact .gateway rfl rfl (step_gateway rfl stepped)

/-- The controller of the site takes its own steps and no others. -/
theorem step_controller {cfg : Config AP} {net net' : Net AP} {e : Event AP} (stepped : step cfg net e = some net') :
    (∃ given, net.controlled e = some given ∧ net'.controller = (net.controller.step given).1) ∨
      net.controlled e = none ∧ net'.controller = net.controller := by
  cases kind_step stepped with
  | connects free isNext => exact .inr ⟨rfl,by rw [isNext]⟩
  | disconnects isNext => exact .inr ⟨rfl,by rw [isNext]⟩
  | acts acts => exact .inr ⟨acts.noGiven,acts.here.controller⟩
  | controls isGiven controls received up closed removed => exact .inl ⟨_,isGiven,controls.controller⟩
  | gateway isGateway noGiven gateway => exact .inr ⟨noGiven,gateway.controller⟩

/-! ### A site with two access points -/

inductive Site where
  | left
  | right
deriving DecidableEq

def site : Config Site where
  ap
    | .left => ⟨⟨4,0,0,0,0,1⟩,⟨10,0,0,1⟩,⟨192,168,5,0⟩,255⟩
    | .right => ⟨⟨4,0,0,0,0,2⟩,⟨10,0,0,2⟩,⟨192,168,5,0⟩,255⟩
  gateway := Gateway.siteConfig
  macs := by
    intro a b same
    cases a <;> cases b <;> first | rfl | cases same

def visitor : Mac := ⟨2,0,0,0,0,1⟩

/-- The flow of a visitor to a web server. -/
def visit : FourTuple := ⟨⟨192,168,5,2⟩,⟨93,184,216,34⟩,5000,80⟩

/-- The connection of the access point, where the left one connects first. -/
def Site.switch : Site → IOFSwitch
  | .left => ⟨0,⟨10,0,0,1⟩⟩
  | .right => ⟨1,⟨10,0,0,2⟩⟩

def bothConnect : List (Event Site) :=
  [.connect .left Site.left.switch.remoteAddress,.connect .right Site.right.switch.remoteAddress]

/-- A frame is heard, reported and handled. -/
def reportFrame (a : Site) (frame : AccessPoint.Radio) : List (Event Site) :=
  [.radio a frame,.thread a 0,.handle a.switch []]

/-- The visitor asks for admission and is offered it. -/
def probeAt (a : Site) : List (Event Site) := reportFrame a (.probe visitor) ++ [.deliver a]

def authAt (a : Site) : List (Event Site) := reportFrame a (.auth visitor 0)

def assocAt (a : Site) : List (Event Site) :=
  reportFrame a (.assoc visitor ⟨1,0,0,Vector.replicate 32 0,0,0⟩)

def admitAt (a : Site) : List (Event Site) := probeAt a ++ authAt a ++ assocAt a

/-- The visitor, associated at the left access point, is heard at the right one and
    handed over. -/
def handOver : List (Event Site) :=
  [.radio .right (.data visitor 100),.handle Site.right.switch [],.deliver .left,.handle Site.left.switch []]

end Net
end Handover
