import Handover.OpenFlow
import Handover.Controller

/-!
The switches of the controller: the registry of Floodlight's `Controller`, in which the
threads of the connections meet, its queue of updates, the thread of the `RoleChanger`,
and the calls that `OFSwitchAP` gets from all of them. Netty handles the messages of a
connection one after the other. It calls `channelDisconnected` between two of them, or
else from a write or the closing of the channel while the thread of the connection is at
work. The listener lock is one for each switch, and the thread of the updates takes none,
so calls of `OFSwitchAP` overlap; a call is listed here when its handler begins, with the
lock of `OFSwitchAP` if it needs that. What the handlers write and when is left open, and
one that throws ends its channel (`breaks`). Messages are taken as read off the stream.
-/
namespace Handover.OpenFlow

/-- Who opens the connections, one after the other, and the configuration. -/
structure Setup where
  peer : Nat → Peer
  role : Option Role
  alwaysClearFlowsOnSwAdd : Bool

/-- The switch object of a connection. -/
def Setup.sw (setup : Setup) (i : Nat) : IOFSwitch := ⟨i,(setup.peer i).remoteAddress⟩

inductive Update where
  | added (i : Nat)
  | removed (i : Nat)
deriving DecidableEq

/-- A task of the `RoleChanger`, of the type `REQUEST` or `TIMEOUT`. -/
structure RoleChangeTask where
  switches : List Nat
  role : Role
  isTimeout : Bool
  deadline : Int
deriving DecidableEq

/-- The controller with its connections. `lock` is who is in `synchronized(roleChanger)`
    for more than one step, `worker` the task of the role changer's thread with the
    switches that it has still to visit, and `told` lists the calls of `OFSwitchAP` in the
    order in which they begin. -/
structure Core where
  count : Nat
  conn : Nat → Conn
  activeSwitches : UInt64 → Option Nat
  connectedSwitches : List Nat
  updates : List Update
  role : Option Role
  lock : Option Nat
  pendingTasks : List RoleChangeTask
  lastSubmitTime : Int
  worker : Option (RoleChangeTask × List Nat)
  told : List Controller.Event

namespace Core

def init (setup : Setup) : Core where
  count := 0
  conn := fun _ => .create
  activeSwitches := fun _ => none
  connectedSwitches := []
  updates := []
  role := setup.role
  lock := none
  pendingTasks := []
  lastSubmitTime := 0
  worker := none
  told := []

def setConn (core : Core) (i : Nat) (c : Conn) : Core := { core with conn := Function.update core.conn i c }

/-- The thread of the connection goes on to its next step. -/
def goTo (core : Core) (i : Nat) (thread : Thread) : Core := core.setConn i { core.conn i with thread := thread }

/-- `OFSwitchAP` is called. -/
def tell (core : Core) (e : Controller.Event) : Core := { core with told := core.told ++ [e] }

/-- `submitRequest` at the time `now`, in nanoseconds. -/
def submitRequest (core : Core) (switches : List Nat) (role : Role) (now : Int) : Core :=
  let deadline := if now - core.lastSubmitTime < 10000000 then core.lastSubmitTime + 10000000 else now
  { core with pendingTasks := core.pendingTasks ++ [⟨switches,role,false,deadline⟩], lastSubmitTime := deadline }

/-- The end of `addSwitch`. -/
def finish (core : Core) (i : Nat) (locked : Bool) : Core :=
  { core.goTo i .idle with lock := if locked then none else core.lock }

/-- Where `removeSwitch` returns to. -/
def afterRemoval (disconnecting : Bool) : Thread := if disconnecting then .leaving else .idle

/-- What `handleRoleReplyMessage` does after it has looked into `activeSwitches`. -/
def roleChanged (setup : Setup) (c : Conn) (isActive : Bool) : Thread :=
  if isActive = false ∧ c.role ≠ some .slave then
    if c.firstRoleReplyReceived = false ∨ setup.alwaysClearFlowsOnSwAdd = true then .clearing false else .putting false
  else if isActive = true ∧ c.role = some .slave then .removing false
  else .idle

/-- The next step of the thread of a connection; `none` means that it waits for a message
    or for the lock. `getId` throws before the first features reply. -/
def perform (setup : Setup) (core : Core) (i : Nat) (now : Int) (failing : List Nat) : Option Core :=
  let c := core.conn i
  match c.thread with
  | .idle => none
  | .dispatching msg =>
    if c.listens then some ((core.goTo i .idle).tell (.receive (setup.sw i) msg failing))
    else some (core.goTo i .idle)
  | .entering =>
    if core.lock = none then
      match core.role with
      | some role =>
        some ({ core.goTo i .idle with connectedSwitches := core.connectedSwitches.insert i }.submitRequest [i] role now)
      | none =>
        some { core.setConn i { c with firstRoleReplyReceived := true, thread := .clearing true } with
          connectedSwitches := core.connectedSwitches.insert i
          lock := some i }
    else none
  | .clearing locked => some (core.setConn i { c.write [.flowModDelete] with thread := .putting locked })
  | .putting locked =>
    match c.datapathId with
    | none => some ((core.setConn i c.close).finish i locked)
    | some dpid =>
      match core.activeSwitches dpid with
      | none =>
        some { core.goTo i (.adding locked) with activeSwitches := Function.update core.activeSwitches dpid (some i) }
      | some old =>
        if old = i then some (core.finish i locked)
        else some { core.goTo i (.evicting old locked) with
          activeSwitches := Function.update core.activeSwitches dpid (some i) }
  | .evicting old locked =>
    some (((core.setConn old { core.conn old with connected := false }).goTo i (.closing old locked)).tell
      (.removedSwitch (setup.sw old)))
  | .closing old locked => some ((core.setConn old (core.conn old).close).goTo i (.adding locked))
  | .adding locked => some { core.finish i locked with updates := core.updates ++ [.added i] }
  | .considering =>
    match c.datapathId with
    | none => some (core.setConn i { c.close with thread := .idle })
    | some dpid =>
      some (core.setConn i { c with
        firstRoleReplyReceived := true
        thread := roleChanged setup c (core.activeSwitches dpid).isSome })
  | .unsupported =>
    if core.lock = none then
      if core.role = some .slave then some (core.setConn i { c.close with thread := .idle })
      else some { core.goTo i (.clearing true) with lock := some i }
    else none
  | .removing disconnecting =>
    match c.datapathId with
    | none => some (core.setConn i { c.close with thread := .idle })
    | some dpid =>
      if core.activeSwitches dpid = some i then
        some { core.goTo i (.reporting disconnecting) with
          activeSwitches := Function.update core.activeSwitches dpid none }
      else some (core.goTo i (afterRemoval disconnecting))
  | .reporting disconnecting =>
    if c.connected then
      some { core.goTo i (afterRemoval disconnecting) with updates := core.updates ++ [.removed i] }
    else some (core.goTo i (afterRemoval disconnecting))
  | .leaving =>
    if core.lock = none then
      some { core.goTo i .disconnecting with connectedSwitches := core.connectedSwitches.erase i }
    else none
  | .disconnecting => some (core.setConn i { c with connected := false, thread := .idle })

/-- The main loop dispatches an update; `addedSwitch` of `OFSwitchAP` does nothing. -/
def dispatchUpdate (setup : Setup) (core : Core) : Option Core :=
  match core.updates with
  | [] => none
  | .added _ :: rest => some { core with updates := rest }
  | .removed i :: rest => some ({ core with updates := rest }.tell (.removedSwitch (setup.sw i)))

/-- `setRole`; without a change of the role nothing is submitted. -/
def setRole (core : Core) (role : Role) (now : Int) : Option Core :=
  if core.lock = none then
    if core.role = some role then some core
    else some ({ core with role := some role }.submitRequest core.connectedSwitches role now)
  else none

/-- The delay of a `TIMEOUT` task, 15 seconds. -/
def timeout : Int := 15000000000

/-- The worker takes a task. The queue orders them by what is left of their time, but
    `compareTo` reads the clock for each of the two that it compares, and so a task may be
    taken before one that is due a little earlier. -/
def takeTask (core : Core) (k : Nat) : Option Core :=
  match core.worker,core.pendingTasks[k]? with
  | none,some task =>
    some { core with worker := some (task,task.switches), pendingTasks := core.pendingTasks.eraseIdx k }
  | _,_ => none

/-- `sendRoleRequest` or `verifyRoleReplyReceived`, one switch after the other; a request
    is then queued once more to be verified. -/
def work (core : Core) : Option Core :=
  match core.worker with
  | none => none
  | some (task,[]) =>
    if task.isTimeout then some { core with worker := none }
    else some { core with
      worker := none
      pendingTasks := core.pendingTasks ++ [{ task with isTimeout := true, deadline := task.deadline + timeout }] }
  | some (task,i :: rest) =>
    let c := core.conn i
    if task.isTimeout then
      if c.checkFirstPendingRoleRequestCookie task.deadline then
        some { core.setConn i c.close with worker := some (task,rest) }
      else some { core with worker := some (task,rest) }
    else if c.supportsNxRole = some false then
      if task.role = .slave then
        some { core.setConn i c.close with worker := some ({ task with switches := task.switches.erase i },rest) }
      else some { core with worker := some (task,rest) }
    else some { core.setConn i (c.sendNxRoleRequest task.role task.deadline) with worker := some (task,rest) }

/-- `channelDisconnected` while the thread of the connection is at work. It takes several
    steps in the source, too, of which here is made one. -/
def interrupt (core : Core) (i : Nat) : Core :=
  let c := core.conn i
  match c.datapathId with
  | none => core.setConn i { c with disconnected := true }
  | some dpid =>
    if c.hsState = .ready then
      { core.setConn i { c with disconnected := true, connected := false } with
        activeSwitches := if core.activeSwitches dpid = some i then Function.update core.activeSwitches dpid none
          else core.activeSwitches
        updates := if core.activeSwitches dpid = some i ∧ c.connected = true then core.updates ++ [.removed i]
          else core.updates
        connectedSwitches := core.connectedSwitches.erase i }
    else core.setConn i { c with disconnected := true }

end Core

/-- One atomic step of one party. `sends` is a thread of an access point, `injects` a
    switch that is none of ours, `posts` a write of a handler of `OFSwitchAP`, `breaks` the
    end of a channel for whatever reason; `interrupts` is `channelDisconnected` while the
    thread of the connection is at work. -/
inductive Event where
  | connect
  | agent (i : Nat)
  | sends (i : Nat) (msg : ToController)
  | injects (i : Nat) (reply : Reply)
  | receive (i : Nat)
  | thread (i : Nat) (now : Int) (failing : List Nat)
  | posts (i : Nat) (msg : FromController)
  | channelIdle (i : Nat)
  | breaks (i : Nat)
  | channelDisconnected (i : Nat)
  | interrupts (i : Nat)
  | update
  | setRole (role : Role) (now : Int)
  | takeTask (k : Nat)
  | work
  | rehash (order : Map STAAPPair STAAPInfo)

/-- The connection an event is about. -/
def Event.about : Event → Option Nat
  | .agent i => some i
  | .sends i _ => some i
  | .injects i _ => some i
  | .receive i => some i
  | .thread i _ _ => some i
  | .channelIdle i => some i
  | .breaks i => some i
  | .posts i _ => some i
  | .channelDisconnected i => some i
  | .interrupts i => some i
  | _ => none

namespace Core

/-- The agent of the connection handles the oldest request. -/
def agent (setup : Setup) (core : Core) (i : Nat) : Option Core :=
  let c := core.conn i
  match c.down with
  | [] => none
  | request :: rest =>
    let (missSendLen,replies) := (setup.peer i).processControllerMsg c.missSendLen request
    some (core.setConn i { c with missSendLen := missSendLen, down := rest, up := c.up ++ replies })

def step (setup : Setup) (core : Core) (e : Event) : Option Core :=
  if e.about.all (fun i => decide (i < core.count)) then
    match e with
    | .connect => some { core with count := core.count + 1 }
    | .agent i => core.agent setup i
    | .sends i msg =>
      if (setup.peer i).gateway = false ∧ msg ≠ .gwConnect then
        some (core.setConn i { core.conn i with up := (core.conn i).up ++ [.wlan msg] })
      else none
    | .injects i reply => some (core.setConn i { core.conn i with up := (core.conn i).up ++ [reply] })
    | .receive i =>
      match (core.conn i).thread,(core.conn i).up with
      | .idle,reply :: rest => some (core.setConn i ({ core.conn i with up := rest }.processOFMessage reply))
      | _,_ => none
    | .thread i now failing => core.perform setup i now failing
    | .posts i msg => some (core.setConn i ((core.conn i).write [.wlan msg]))
    | .channelIdle i => some (core.setConn i ((core.conn i).write [.echoRequest]))
    | .breaks i => some (core.setConn i (core.conn i).close)
    | .channelDisconnected i =>
      if (core.conn i).channelOpen = false ∧ (core.conn i).disconnected = false ∧ (core.conn i).thread = .idle then
        some (core.setConn i (core.conn i).channelDisconnected)
      else none
    | .interrupts i =>
      if (core.conn i).channelOpen = false ∧ (core.conn i).disconnected = false ∧ (core.conn i).thread ≠ .idle ∧
          (core.lock = none ∨ core.lock = some i) then
        some (core.interrupt i)
      else none
    | .update => core.dispatchUpdate setup
    | .setRole role now => core.setRole role now
    | .takeTask k => core.takeTask k
    | .work => core.work
    | .rehash order => some (core.tell (.rehash order))
  else none

/-! ### What a step can do -/

/-- The steps that concern one connection only, and what they make of it. -/
inductive Changes (setup : Setup) (core : Core) : Event → Nat → Conn → Prop where
  | answered {i : Nat} {request : Request} {rest : List Request} (waiting : (core.conn i).down = request :: rest) :
    Changes setup core (.agent i) i { core.conn i with
      missSendLen := ((setup.peer i).processControllerMsg (core.conn i).missSendLen request).1
      down := rest
      up := (core.conn i).up ++ ((setup.peer i).processControllerMsg (core.conn i).missSendLen request).2 }
  | sent {i : Nat} {msg : ToController} (isAP : (setup.peer i).gateway = false) (own : msg ≠ .gwConnect) :
    Changes setup core (.sends i msg) i { core.conn i with up := (core.conn i).up ++ [.wlan msg] }
  | injected {i : Nat} {reply : Reply} :
    Changes setup core (.injects i reply) i { core.conn i with up := (core.conn i).up ++ [reply] }
  | received {i : Nat} {reply : Reply} {rest : List Reply} (isIdle : (core.conn i).thread = .idle)
    (waiting : (core.conn i).up = reply :: rest) :
    Changes setup core (.receive i) i ({ core.conn i with up := rest }.processOFMessage reply)
  | probed {i : Nat} : Changes setup core (.channelIdle i) i ((core.conn i).write [.echoRequest])
  | broken {i : Nat} : Changes setup core (.breaks i) i (core.conn i).close
  | disconnected {i : Nat} (isClosed : (core.conn i).channelOpen = false) (first : (core.conn i).disconnected = false)
    (isIdle : (core.conn i).thread = .idle) :
    Changes setup core (.channelDisconnected i) i (core.conn i).channelDisconnected
  | interrupted {i : Nat} (isClosed : (core.conn i).channelOpen = false) (first : (core.conn i).disconnected = false)
    (atWork : (core.conn i).thread ≠ .idle) (early : (core.conn i).datapathId = none ∨ (core.conn i).hsState ≠ .ready) :
    Changes setup core (.interrupts i) i { core.conn i with disconnected := true }
  | ignored {i : Nat} {now : Int} {failing : List Nat} {msg : ToController}
    (isThread : (core.conn i).thread = .dispatching msg) (deaf : (core.conn i).listens = false) :
    Changes setup core (.thread i now failing) i { core.conn i with thread := .idle }
  | cleared {i : Nat} {now : Int} {failing : List Nat} {locked : Bool}
    (isThread : (core.conn i).thread = .clearing locked) :
    Changes setup core (.thread i now failing) i { (core.conn i).write [.flowModDelete] with thread := .putting locked }
  | considered {i : Nat} {now : Int} {failing : List Nat} {dpid : UInt64} (isThread : (core.conn i).thread = .considering)
    (isId : (core.conn i).datapathId = some dpid) :
    Changes setup core (.thread i now failing) i { core.conn i with
      firstRoleReplyReceived := true
      thread := roleChanged setup (core.conn i) (core.activeSwitches dpid).isSome }
  | refused {i : Nat} {now : Int} {failing : List Nat} (isThread : (core.conn i).thread = .unsupported)
    (isSlave : core.role = some .slave) :
    Changes setup core (.thread i now failing) i { (core.conn i).close with thread := .idle }
  | thrown {i : Nat} {now : Int} {failing : List Nat}
    (isThread : (core.conn i).thread = .considering ∨ ∃ disconnecting, (core.conn i).thread = .removing disconnecting)
    (noId : (core.conn i).datapathId = none) :
    Changes setup core (.thread i now failing) i { (core.conn i).close with thread := .idle }
  | notFound {i : Nat} {now : Int} {failing : List Nat} {disconnecting : Bool} {dpid : UInt64}
    (isThread : (core.conn i).thread = .removing disconnecting) (isId : (core.conn i).datapathId = some dpid)
    (other : core.activeSwitches dpid ≠ some i) :
    Changes setup core (.thread i now failing) i { core.conn i with thread := afterRemoval disconnecting }
  | unreported {i : Nat} {now : Int} {failing : List Nat} {disconnecting : Bool}
    (isThread : (core.conn i).thread = .reporting disconnecting) (evicted : (core.conn i).connected = false) :
    Changes setup core (.thread i now failing) i { core.conn i with thread := afterRemoval disconnecting }
  | ended {i : Nat} {now : Int} {failing : List Nat} (isThread : (core.conn i).thread = .disconnecting) :
    Changes setup core (.thread i now failing) i { core.conn i with connected := false, thread := .idle }

/-- What the role changer's thread makes of the switch that it visits, and of its task. -/
inductive Visits (task : RoleChangeTask) (c : Conn) (i : Nat) : RoleChangeTask → Conn → Prop where
  | requested (isRequest : task.isTimeout = false) (supported : c.supportsNxRole ≠ some false) :
    Visits task c i task (c.sendNxRoleRequest task.role task.deadline)
  | dismissed (isRequest : task.isTimeout = false) (unsupported : c.supportsNxRole = some false)
    (isSlave : task.role = .slave) : Visits task c i { task with switches := task.switches.erase i } c.close
  | passed (isRequest : task.isTimeout = false) (unsupported : c.supportsNxRole = some false) : Visits task c i task c
  | expired (isTimeout : task.isTimeout = true) (pending : c.checkFirstPendingRoleRequestCookie task.deadline = true) :
    Visits task c i task c.close
  | verified (isTimeout : task.isTimeout = true) : Visits task c i task c

/-- Everything that a step can do. -/
inductive Does (setup : Setup) (core : Core) : Event → Core → Prop where
  | connected : Does setup core .connect { core with count := core.count + 1 }
  | changed {e : Event} {i : Nat} {c : Conn} (inside : i < core.count) (changes : Changes setup core e i c) :
    Does setup core e (core.setConn i c)
  | dispatched {i : Nat} {now : Int} {failing : List Nat} {msg : ToController} (inside : i < core.count)
    (isThread : (core.conn i).thread = .dispatching msg) (listens : (core.conn i).listens = true) :
    Does setup core (.thread i now failing) ((core.goTo i .idle).tell (.receive (setup.sw i) msg failing))
  | submitted {i : Nat} {now : Int} {failing : List Nat} {role : Role} (inside : i < core.count)
    (isThread : (core.conn i).thread = .entering) (isFree : core.lock = none) (isRole : core.role = some role) :
    Does setup core (.thread i now failing)
      ({ core.goTo i .idle with connectedSwitches := core.connectedSwitches.insert i }.submitRequest [i] role now)
  | entered {i : Nat} {now : Int} {failing : List Nat} (inside : i < core.count)
    (isThread : (core.conn i).thread = .entering) (isFree : core.lock = none) (noRole : core.role = none) :
    Does setup core (.thread i now failing)
      { core.setConn i { core.conn i with firstRoleReplyReceived := true, thread := .clearing true } with
        connectedSwitches := core.connectedSwitches.insert i
        lock := some i }
  | failed {i : Nat} {now : Int} {failing : List Nat} {locked : Bool} (inside : i < core.count)
    (isThread : (core.conn i).thread = .putting locked) (noId : (core.conn i).datapathId = none) :
    Does setup core (.thread i now failing) ((core.setConn i (core.conn i).close).finish i locked)
  | put {i : Nat} {now : Int} {failing : List Nat} {locked : Bool} {dpid : UInt64} (inside : i < core.count)
    (isThread : (core.conn i).thread = .putting locked) (isId : (core.conn i).datapathId = some dpid)
    (isNew : core.activeSwitches dpid = none) :
    Does setup core (.thread i now failing)
      { core.goTo i (.adding locked) with activeSwitches := Function.update core.activeSwitches dpid (some i) }
  | putAgain {i : Nat} {now : Int} {failing : List Nat} {locked : Bool} {dpid : UInt64} (inside : i < core.count)
    (isThread : (core.conn i).thread = .putting locked) (isId : (core.conn i).datapathId = some dpid)
    (isActive : core.activeSwitches dpid = some i) :
    Does setup core (.thread i now failing) (core.finish i locked)
  | replaced {i : Nat} {now : Int} {failing : List Nat} {locked : Bool} {dpid : UInt64} {old : Nat}
    (inside : i < core.count) (isThread : (core.conn i).thread = .putting locked)
    (isId : (core.conn i).datapathId = some dpid) (isActive : core.activeSwitches dpid = some old) (other : old ≠ i) :
    Does setup core (.thread i now failing)
      { core.goTo i (.evicting old locked) with activeSwitches := Function.update core.activeSwitches dpid (some i) }
  | evicted {i : Nat} {now : Int} {failing : List Nat} {old : Nat} {locked : Bool} (inside : i < core.count)
    (isThread : (core.conn i).thread = .evicting old locked) :
    Does setup core (.thread i now failing)
      (((core.setConn old { core.conn old with connected := false }).goTo i (.closing old locked)).tell
        (.removedSwitch (setup.sw old)))
  | closed {i : Nat} {now : Int} {failing : List Nat} {old : Nat} {locked : Bool} (inside : i < core.count)
    (isThread : (core.conn i).thread = .closing old locked) :
    Does setup core (.thread i now failing) ((core.setConn old (core.conn old).close).goTo i (.adding locked))
  | added {i : Nat} {now : Int} {failing : List Nat} {locked : Bool} (inside : i < core.count)
    (isThread : (core.conn i).thread = .adding locked) :
    Does setup core (.thread i now failing) { core.finish i locked with updates := core.updates ++ [.added i] }
  | tolerated {i : Nat} {now : Int} {failing : List Nat} (inside : i < core.count)
    (isThread : (core.conn i).thread = .unsupported) (isFree : core.lock = none) (notSlave : core.role ≠ some .slave) :
    Does setup core (.thread i now failing) { core.goTo i (.clearing true) with lock := some i }
  | removed {i : Nat} {now : Int} {failing : List Nat} {disconnecting : Bool} {dpid : UInt64} (inside : i < core.count)
    (isThread : (core.conn i).thread = .removing disconnecting) (isId : (core.conn i).datapathId = some dpid)
    (isActive : core.activeSwitches dpid = some i) :
    Does setup core (.thread i now failing)
      { core.goTo i (.reporting disconnecting) with activeSwitches := Function.update core.activeSwitches dpid none }
  | reported {i : Nat} {now : Int} {failing : List Nat} {disconnecting : Bool} (inside : i < core.count)
    (isThread : (core.conn i).thread = .reporting disconnecting) (isConnected : (core.conn i).connected = true) :
    Does setup core (.thread i now failing)
      { core.goTo i (afterRemoval disconnecting) with updates := core.updates ++ [.removed i] }
  | left {i : Nat} {now : Int} {failing : List Nat} (inside : i < core.count)
    (isThread : (core.conn i).thread = .leaving) (isFree : core.lock = none) :
    Does setup core (.thread i now failing)
      { core.goTo i .disconnecting with connectedSwitches := core.connectedSwitches.erase i }
  | posted {i : Nat} {msg : FromController} (inside : i < core.count) :
    Does setup core (.posts i msg) (core.setConn i ((core.conn i).write [.wlan msg]))
  | interrupted {i : Nat} {dpid : UInt64} (inside : i < core.count) (isClosed : (core.conn i).channelOpen = false)
    (first : (core.conn i).disconnected = false) (atWork : (core.conn i).thread ≠ .idle)
    (isReady : (core.conn i).hsState = .ready) (isId : (core.conn i).datapathId = some dpid) :
    Does setup core (.interrupts i)
      { core.setConn i { core.conn i with disconnected := true, connected := false } with
        activeSwitches := if core.activeSwitches dpid = some i then Function.update core.activeSwitches dpid none
          else core.activeSwitches
        updates := if core.activeSwitches dpid = some i ∧ (core.conn i).connected = true then core.updates ++ [.removed i]
          else core.updates
        connectedSwitches := core.connectedSwitches.erase i }
  | toldAdded {i : Nat} {rest : List Update} (isNext : core.updates = .added i :: rest) :
    Does setup core .update { core with updates := rest }
  | toldRemoved {i : Nat} {rest : List Update} (isNext : core.updates = .removed i :: rest) :
    Does setup core .update ({ core with updates := rest }.tell (.removedSwitch (setup.sw i)))
  | kept {role : Role} {now : Int} (same : core.role = some role) : Does setup core (.setRole role now) core
  | roleSet {role : Role} {now : Int} (isFree : core.lock = none) (other : core.role ≠ some role) :
    Does setup core (.setRole role now)
      ({ core with role := some role }.submitRequest core.connectedSwitches role now)
  | taken {k : Nat} {task : RoleChangeTask} (isFree : core.worker = none) (isTask : core.pendingTasks[k]? = some task) :
    Does setup core (.takeTask k)
      { core with worker := some (task,task.switches), pendingTasks := core.pendingTasks.eraseIdx k }
  | visited {task task' : RoleChangeTask} {i : Nat} {rest : List Nat} {c : Conn}
    (isTask : core.worker = some (task,i :: rest)) (visits : Visits task (core.conn i) i task' c) :
    Does setup core .work { core.setConn i c with worker := some (task',rest) }
  | worked {task : RoleChangeTask} (isTask : core.worker = some (task,[])) (isTimeout : task.isTimeout = true) :
    Does setup core .work { core with worker := none }
  | scheduled {task : RoleChangeTask} (isTask : core.worker = some (task,[])) (isRequest : task.isTimeout = false) :
    Does setup core .work { core with
      worker := none
      pendingTasks := core.pendingTasks ++ [{ task with isTimeout := true, deadline := task.deadline + timeout }] }
  | rehashed {order : Map STAAPPair STAAPInfo} : Does setup core (.rehash order) (core.tell (.rehash order))

theorem setConn_self (core : Core) (i : Nat) : core.setConn i (core.conn i) = core := by
  rw [setConn,Function.update_eq_self]

theorem does_perform {setup : Setup} {core core' : Core} {i : Nat} {now : Int} {failing : List Nat}
    (inside : i < core.count) (performed : core.perform setup i now failing = some core') :
    Does setup core (.thread i now failing) core' := by
  unfold perform at performed
  dsimp only at performed
  split at performed
  · cases performed
  · rename_i msg isThread
    split at performed
    · rename_i listens
      cases performed
      exact .dispatched inside isThread listens
    · rename_i deaf
      cases performed
      exact .changed inside (.ignored isThread (by simpa using deaf))
  · rename_i isThread
    split at performed
    · rename_i isFree
      split at performed
      · rename_i role isRole
        cases performed
        exact .submitted inside isThread isFree isRole
      · rename_i noRole
        cases performed
        exact .entered inside isThread isFree noRole
    · cases performed
  · rename_i locked isThread
    cases performed
    exact .changed inside (.cleared isThread)
  · rename_i locked isThread
    split at performed
    · rename_i noId
      cases performed
      exact .failed inside isThread noId
    · rename_i dpid isId
      split at performed
      · rename_i isNew
        cases performed
        exact .put inside isThread isId isNew
      · rename_i old isActive
        split at performed
        · rename_i same
          cases performed
          exact .putAgain inside isThread isId (same ▸ isActive)
        · rename_i other
          cases performed
          exact .replaced inside isThread isId isActive other
  · rename_i old locked isThread
    cases performed
    exact .evicted inside isThread
  · rename_i old locked isThread
    cases performed
    exact .closed inside isThread
  · rename_i locked isThread
    cases performed
    exact .added inside isThread
  · rename_i isThread
    split at performed
    · rename_i noId
      cases performed
      exact .changed inside (.thrown (.inl isThread) noId)
    · rename_i dpid isId
      cases performed
      exact .changed inside (.considered isThread isId)
  · rename_i isThread
    split at performed
    · rename_i isFree
      split at performed
      · rename_i isSlave
        cases performed
        exact .changed inside (.refused isThread isSlave)
      · rename_i notSlave
        cases performed
        exact .tolerated inside isThread isFree notSlave
    · cases performed
  · rename_i disconnecting isThread
    split at performed
    · rename_i noId
      cases performed
      exact .changed inside (.thrown (.inr ⟨_,isThread⟩) noId)
    · rename_i dpid isId
      split at performed
      · rename_i isActive
        cases performed
        exact .removed inside isThread isId isActive
      · rename_i other
        cases performed
        exact .changed inside (.notFound isThread isId other)
  · rename_i disconnecting isThread
    split at performed
    · rename_i isConnected
      cases performed
      exact .reported inside isThread isConnected
    · rename_i evicted
      cases performed
      exact .changed inside (.unreported isThread (by simpa using evicted))
  · rename_i isThread
    split at performed
    · rename_i isFree
      cases performed
      exact .left inside isThread isFree
    · cases performed
  · rename_i isThread
    cases performed
    exact .changed inside (.ended isThread)

theorem does_work {setup : Setup} {core core' : Core} (worked : core.work = some core') :
    Does setup core .work core' := by
  have stay : ∀ {task : RoleChangeTask} {i : Nat} {rest : List Nat}, core.worker = some (task,i :: rest) →
      Visits task (core.conn i) i task (core.conn i) → Does setup core .work { core with worker := some (task,rest) } := by
    intro task i rest isTask visits
    have does : Does setup core .work _ := .visited isTask visits
    rwa [setConn_self] at does
  unfold work at worked
  split at worked
  · cases worked
  · rename_i task isTask
    split at worked
    · rename_i isTimeout
      cases worked
      exact .worked isTask isTimeout
    · rename_i isRequest
      cases worked
      exact .scheduled isTask (by simpa using isRequest)
  · rename_i task i rest isTask
    dsimp only at worked
    split at worked
    · rename_i isTimeout
      split at worked
      · rename_i pending
        cases worked
        exact .visited isTask (.expired isTimeout pending)
      · cases worked
        exact stay isTask (.verified isTimeout)
    · rename_i isRequest
      have isRequest : task.isTimeout = false := by simpa using isRequest
      split at worked
      · rename_i unsupported
        split at worked
        · rename_i isSlave
          cases worked
          exact .visited isTask (.dismissed isRequest unsupported isSlave)
        · cases worked
          exact stay isTask (.passed isRequest unsupported)
      · rename_i supported
        cases worked
        exact .visited isTask (.requested isRequest supported)

theorem does_interrupt {setup : Setup} {core : Core} {i : Nat} (inside : i < core.count)
    (isClosed : (core.conn i).channelOpen = false) (first : (core.conn i).disconnected = false)
    (atWork : (core.conn i).thread ≠ .idle) : Does setup core (.interrupts i) (core.interrupt i) := by
  unfold interrupt
  dsimp only
  split
  · rename_i noId
    exact .changed inside (.interrupted isClosed first atWork (.inl noId))
  · rename_i dpid isId
    split
    · rename_i isReady
      exact .interrupted inside isClosed first atWork isReady isId
    · rename_i early
      exact .changed inside (.interrupted isClosed first atWork (.inr early))

theorem does_step {setup : Setup} {core core' : Core} {e : Event} (stepped : step setup core e = some core') :
    Does setup core e core' := by
  unfold step at stepped
  split at stepped
  case isFalse => cases stepped
  rename_i inside
  cases e with
  | connect =>
    cases stepped
    exact .connected
  | agent i =>
    dsimp only [agent] at stepped
    split at stepped
    · cases stepped
    · rename_i request rest waiting
      cases stepped
      exact .changed (by simpa [Event.about] using inside) (.answered waiting)
  | sends i msg =>
    dsimp only at stepped
    split at stepped
    · rename_i own
      cases stepped
      exact .changed (by simpa [Event.about] using inside) (.sent own.1 own.2)
    · cases stepped
  | injects i reply =>
    cases stepped
    exact .changed (by simpa [Event.about] using inside) .injected
  | receive i =>
    dsimp only at stepped
    split at stepped
    · rename_i reply rest isIdle waiting
      cases stepped
      exact .changed (by simpa [Event.about] using inside) (.received isIdle waiting)
    · cases stepped
  | thread i now failing => exact does_perform (by simpa [Event.about] using inside) stepped
  | posts i msg =>
    cases stepped
    exact .posted (by simpa [Event.about] using inside)
  | channelIdle i =>
    cases stepped
    exact .changed (by simpa [Event.about] using inside) .probed
  | breaks i =>
    cases stepped
    exact .changed (by simpa [Event.about] using inside) .broken
  | channelDisconnected i =>
    dsimp only at stepped
    split at stepped
    · rename_i ends
      cases stepped
      exact .changed (by simpa [Event.about] using inside) (.disconnected ends.1 ends.2.1 ends.2.2)
    · cases stepped
  | interrupts i =>
    dsimp only at stepped
    split at stepped
    · rename_i ends
      cases stepped
      exact does_interrupt (by simpa [Event.about] using inside) ends.1 ends.2.1 ends.2.2.1
    · cases stepped
  | update =>
    dsimp only [dispatchUpdate] at stepped
    split at stepped
    · cases stepped
    · rename_i i rest isNext
      cases stepped
      exact .toldAdded isNext
    · rename_i i rest isNext
      cases stepped
      exact .toldRemoved isNext
  | setRole role now =>
    dsimp only [setRole] at stepped
    split at stepped
    · rename_i isFree
      split at stepped
      · rename_i same
        cases stepped
        exact .kept same
      · rename_i other
        cases stepped
        exact .roleSet isFree other
    · cases stepped
  | takeTask k =>
    dsimp only [takeTask] at stepped
    split at stepped
    · rename_i task isFree isTask
      cases stepped
      exact .taken isFree isTask
    · cases stepped
  | work => exact does_work stepped
  | rehash order =>
    cases stepped
    exact .rehashed

/-! ### What becomes of one connection -/

/-- The steps of a thread that leave the rest of its connection as it is. -/
inductive Goes : Thread → Thread → Prop where
  | dispatched (msg : ToController) : Goes (.dispatching msg) .idle
  | submitted : Goes .entering .idle
  | put (locked : Bool) : Goes (.putting locked) (.adding locked)
  | putAgain (locked : Bool) : Goes (.putting locked) .idle
  | replaced (old : Nat) (locked : Bool) : Goes (.putting locked) (.evicting old locked)
  | evicted (old : Nat) (locked : Bool) : Goes (.evicting old locked) (.closing old locked)
  | closed (old : Nat) (locked : Bool) : Goes (.closing old locked) (.adding locked)
  | added (locked : Bool) : Goes (.adding locked) .idle
  | tolerated : Goes .unsupported (.clearing true)
  | removed (disconnecting : Bool) : Goes (.removing disconnecting) (.reporting disconnecting)
  | reported (disconnecting : Bool) : Goes (.reporting disconnecting) (afterRemoval disconnecting)
  | left : Goes .leaving .disconnecting

/-- What a step makes of one connection, but for what `OFSwitchAP` writes to it. -/
inductive Moves (setup : Setup) (core : Core) (e : Event) (j : Nat) : Conn → Prop where
  | stays : Moves setup core e j (core.conn j)
  | changed {c : Conn} (changes : Changes setup core e j c) : Moves setup core e j c
  | goes {next : Thread} (goes : Goes (core.conn j).thread next) :
    Moves setup core e j { core.conn j with thread := next }
  | entered (isThread : (core.conn j).thread = .entering) :
    Moves setup core e j { core.conn j with firstRoleReplyReceived := true, thread := .clearing true }
  | failed {locked : Bool} (isThread : (core.conn j).thread = .putting locked) (noId : (core.conn j).datapathId = none) :
    Moves setup core e j { (core.conn j).close with thread := .idle }
  | evicted {i : Nat} {locked : Bool} {next : Thread} (isThread : (core.conn i).thread = .evicting j locked)
    (goes : next = (core.conn j).thread ∨ Goes (core.conn j).thread next) :
    Moves setup core e j { core.conn j with connected := false, thread := next }
  | closed {i : Nat} {locked : Bool} {next : Thread} (isThread : (core.conn i).thread = .closing j locked)
    (goes : next = (core.conn j).thread ∨ (core.conn j).thread = .closing j locked ∧ next = .adding locked) :
    Moves setup core e j { (core.conn j).close with thread := next }
  | interrupted (isEvent : e = .interrupts j) (isClosed : (core.conn j).channelOpen = false)
    (atWork : (core.conn j).thread ≠ .idle) (isReady : (core.conn j).hsState = .ready) :
    Moves setup core e j { core.conn j with disconnected := true, connected := false }
  | visited {task task' : RoleChangeTask} {rest : List Nat} {c : Conn} (isTask : core.worker = some (task,j :: rest))
    (visits : Visits task (core.conn j) j task' c) : Moves setup core e j c

@[simp] theorem conn_setConn (core : Core) (i j : Nat) (c : Conn) :
    (core.setConn i c).conn j = if j = i then c else core.conn j := Function.update_apply ..

theorem conn_goTo (core : Core) (i j : Nat) (thread : Thread) :
    (core.goTo i thread).conn j = if j = i then { core.conn i with thread := thread } else core.conn j := conn_setConn ..

/-- What is read off a connection where this or another one is set. -/
theorem field_setConn {α : Type} (field : Conn → α) {core : Core} {i j : Nat} {c : Conn} {value : α}
    (before : field (core.conn j) = value) (after : i = j → field c = value) : field ((core.setConn i c).conn j) = value := by
  rw [conn_setConn]
  split
  · rename_i same
    exact after same.symm
  · exact before

theorem Conn.write_nil (c : Conn) : c.write [] = c := by
  simp [Conn.write]

section
variable {setup : Setup} {core core' : Core} {e : Event} {i : Nat}

theorem moves_setConn {c : Conn} (moves : Moves setup core e i c) (j : Nat) :
    Moves setup core e j ((core.setConn i c).conn j) := by
  rw [conn_setConn]
  split
  · rename_i same
    exact same ▸ moves
  · exact .stays

theorem moves_goTo {thread next : Thread} (isThread : (core.conn i).thread = thread) (goes : Goes thread next) (j : Nat) :
    Moves setup core e j ((core.goTo i next).conn j) :=
  moves_setConn (.goes (isThread ▸ goes)) j

/-- Each connection makes its own move, and may be written to. -/
theorem Does.moves (does : Does setup core e core') (j : Nat) :
    ∃ c, ∃ posts : List FromController, Moves setup core e j c ∧ core'.conn j = c.write (posts.map .wlan) := by
  have alone : ∀ {c : Conn}, Moves setup core e j c →
      ∃ c', ∃ posts : List FromController, Moves setup core e j c' ∧ c = c'.write (posts.map .wlan) :=
    fun moves => ⟨_,[],moves,(Conn.write_nil _).symm⟩
  cases does with
  | changed inside changes => exact alone (moves_setConn (.changed changes) j)
  | dispatched inside isThread listens => exact alone (moves_goTo isThread (.dispatched _) j)
  | submitted inside isThread isFree isRole => exact alone (moves_goTo isThread .submitted j)
  | entered inside isThread isFree noRole => exact alone (moves_setConn (.entered isThread) j)
  | @failed i now failing locked inside isThread noId =>
    refine alone ?_
    rw [show ((core.setConn i (core.conn i).close).finish i locked).conn j =
      (core.setConn i { (core.conn i).close with thread := .idle }).conn j by simp [finish,conn_goTo]; split <;> rfl]
    exact moves_setConn (.failed isThread noId) j
  | put inside isThread isId isNew => exact alone (moves_goTo isThread (.put _) j)
  | putAgain inside isThread isId isActive => exact alone (moves_goTo isThread (.putAgain _) j)
  | replaced inside isThread isId isActive other => exact alone (moves_goTo isThread (.replaced _ _) j)
  | @evicted i now failing old locked inside isThread =>
    refine alone ?_
    change Moves setup core _ j (((core.setConn old _).goTo i _).conn j)
    rw [conn_goTo,conn_setConn,conn_setConn]
    split
    · rename_i same
      subst same
      split
      · rename_i itself
        subst itself
        exact .evicted isThread (.inr (isThread ▸ .evicted _ _))
      · exact .goes (isThread ▸ .evicted _ _)
    · split
      · rename_i isOld
        subst isOld
        exact .evicted isThread (.inl rfl)
      · exact .stays
  | @closed i now failing old locked inside isThread =>
    refine alone ?_
    rw [conn_goTo,conn_setConn,conn_setConn]
    split
    · rename_i same
      subst same
      split
      · rename_i itself
        subst itself
        exact .closed isThread (.inr ⟨isThread,rfl⟩)
      · exact .goes (isThread ▸ .closed _ _)
    · split
      · rename_i isOld
        subst isOld
        exact .closed isThread (.inl rfl)
      · exact .stays
  | added inside isThread => exact alone (moves_goTo isThread (.added _) j)
  | tolerated inside isThread isFree notSlave => exact alone (moves_goTo isThread .tolerated j)
  | removed inside isThread isId isActive => exact alone (moves_goTo isThread (.removed _) j)
  | reported inside isThread isConnected => exact alone (moves_goTo isThread (.reported _) j)
  | left inside isThread isFree => exact alone (moves_goTo isThread .left j)
  | @posted i msg inside =>
    refine ⟨core.conn j,if j = i then [msg] else [],.stays,?_⟩
    rw [conn_setConn]
    split
    · rename_i same
      rw [same]
      rfl
    · exact (Conn.write_nil _).symm
  | interrupted inside isClosed first atWork isReady isId =>
    exact alone (moves_setConn (.interrupted rfl isClosed atWork isReady) j)
  | @visited task task' i rest c isTask visits => exact alone (moves_setConn (.visited isTask visits) j)
  | _ => exact alone .stays

/-- The thread of a connection goes on by its own steps, and is set to work by a message or
    by the end of the channel. -/
theorem Does.thread_eq (does : Does setup core e core') {j : Nat} (apart : ∀ now failing, e ≠ .thread j now failing)
    (busy : e.about = some j → (core.conn j).thread ≠ .idle) : (core'.conn j).thread = (core.conn j).thread := by
  have goes : ∀ {i : Nat} {c : Conn}, (i = j → c.thread = (core.conn j).thread) →
      ((core.setConn i c).conn j).thread = (core.conn j).thread := field_setConn Conn.thread rfl
  have waits : ∀ {i : Nat} {c : Conn}, c.thread = (core.conn i).thread →
      ((core.setConn i c).conn j).thread = (core.conn j).thread := fun same => goes fun isHere => isHere ▸ same
  have own : ∀ {i : Nat} {now : Int} {failing : List Nat} {P : Prop}, e = .thread i now failing → i = j → P := by
    rintro i now failing P isOwn rfl
    exact (apart _ _ isOwn).elim
  cases does with
  | changed inside changes =>
    cases changes with
    | received isIdle waiting => exact goes fun isHere => absurd (isHere ▸ isIdle) (busy (isHere ▸ rfl))
    | disconnected isClosed first isIdle => exact goes fun isHere => absurd (isHere ▸ isIdle) (busy (isHere ▸ rfl))
    | ignored | cleared | considered | refused | thrown | notFound | unreported | ended =>
      exact goes (own rfl)
    | _ => exact waits rfl
  | failed | evicted | closed => exact field_setConn Conn.thread (waits rfl) (own rfl)
  | dispatched | submitted | entered | put | putAgain | replaced | added | tolerated | removed | reported | left =>
    exact goes (own rfl)
  | posted inside => exact waits rfl
  | interrupted inside isClosed first atWork isReady isId => exact waits rfl
  | visited isTask visits => cases visits <;> exact waits rfl
  | _ => rfl

end

end Core
end Handover.OpenFlow
