import Handover.Controller

/-!
The OpenFlow side of a connection: the agent of an access point or of the gateway, which
answers requests, and the controller's `OFChannelHandler` with its `OFSwitchImpl`, which
leads the handshake. A message is handled by `processOFMessage` as far as the handler is
concerned with its own connection; for what it shares with others it leaves the thread
of the connection at the next step that it has to take.
-/
namespace Handover.OpenFlow

inductive Role where
  | equal
  | master
  | slave
deriving DecidableEq

/-- The constants of `OFRoleVendorData`. -/
def Role.nxRole : Role → UInt32
  | .equal => 0
  | .master => 1
  | .slave => 2

def Role.ofNxRole (nxRole : UInt32) : Option Role :=
  if nxRole = 0 then some .equal else if nxRole = 1 then some .master else if nxRole = 2 then some .slave else none

@[simp] theorem Role.ofNxRole_nxRole (role : Role) : ofNxRole role.nxRole = some role := by
  cases role <;> rfl

/-- What the controller sends to a switch; the flow mod is that of `clearAllFlowMods`. -/
inductive Request where
  | hello
  | echoRequest
  | echoReply (xid : UInt32)
  | featuresRequest
  | setConfig (missSendLength : UInt16)
  | getConfigRequest
  | statsRequest (xid : UInt32)
  | flowModDelete
  | roleRequest (xid nxRole : UInt32)
  | wlan (msg : FromController)
deriving DecidableEq

/-- What a switch sends; `other` is all that `OFSwitchAP` does not listen to and the
    handler keeps nothing of. -/
inductive Reply where
  | hello
  | echoRequest (xid : UInt32)
  | echoReply
  | featuresReply (datapathId : UInt64)
  | getConfigReply (missSendLength : UInt16)
  | statsReply (xid : UInt32)
  | roleReply (xid nxRole : UInt32)
  | error (xid : UInt32) (badRequest : Bool)
  | wlan (msg : ToController)
  | other
deriving DecidableEq

/-! ### The agents -/

/-- Who opens a connection: the gateway or an access point, with its `dpid`, and the
    address that it connects from. -/
structure Peer where
  gateway : Bool
  dpid : UInt64
  remoteAddress : IPv4
deriving DecidableEq

/-- `process_controller_msg` on a request, with the `miss_send_len` of the agent: what it
    stores and what it sends at once. Only `handle_flow_mod` of the gateway sends
    something; what an access point has to say of a station, also when it is asked for
    the power it was last received with, it sends in a step of its own. -/
def Peer.processControllerMsg (peer : Peer) (missSendLen : UInt16) : Request → UInt16 × List Reply
  | .hello => (missSendLen,[.hello])
  | .echoRequest => (missSendLen,[.echoReply])
  | .echoReply _ => (missSendLen,[])
  | .featuresRequest => (missSendLen,[.featuresReply peer.dpid])
  | .setConfig missSendLength => (missSendLength,[])
  | .getConfigRequest => (missSendLen,[.getConfigReply missSendLen])
  | .statsRequest xid => (missSendLen,[.statsReply xid])
  | .flowModDelete => (missSendLen,if peer.gateway then [.wlan .gwConnect] else [])
  | .roleRequest xid nxRole => (missSendLen,[.roleReply xid nxRole])
  | .wlan _ => (missSendLen,[])

/-! ### The handler of a connection -/

inductive HandshakeState where
  | start
  | hello
  | featuresReply
  | ready
deriving DecidableEq

structure PendingRoleRequestEntry where
  xid : UInt32
  role : Role
  cookie : Int
deriving DecidableEq

/-- Where the thread of a connection is, between two messages or in the handler of one.
    In `addSwitch` it may be inside `synchronized(roleChanger)`, and `removeSwitch` may be
    called by `channelDisconnected`. -/
inductive Thread where
  | idle
  | dispatching (msg : ToController)
  | entering
  | clearing (locked : Bool)
  | putting (locked : Bool)
  | evicting (old : Nat) (locked : Bool)
  | closing (old : Nat) (locked : Bool)
  | adding (locked : Bool)
  | considering
  | unsupported
  | removing (disconnecting : Bool)
  | reporting (disconnecting : Bool)
  | leaving
  | disconnecting
deriving DecidableEq

/-- A connection: the `miss_send_len` of the agent, the messages on their way, the
    `OFChannelState` and the `OFSwitchImpl` of the controller. `datapathId` is unknown
    until the first features reply, and `disconnected` tells that `channelDisconnected`
    has been called. -/
structure Conn where
  missSendLen : UInt16
  up : List Reply
  down : List Request
  channelOpen : Bool
  disconnected : Bool
  hsState : HandshakeState
  hasGetConfigReply : Bool
  hasDescription : Bool
  firstRoleReplyReceived : Bool
  descriptionFuture : Bool
  datapathId : Option UInt64
  transactionIdSource : UInt32
  connected : Bool
  role : Option Role
  supportsNxRole : Option Bool
  pendingRoleRequests : List PendingRoleRequestEntry
  thread : Thread
deriving DecidableEq

namespace Conn

/-- A new connection; `channelConnected` has written its `HELLO`. -/
def create : Conn where
  missSendLen := 0
  up := []
  down := [.hello]
  channelOpen := true
  disconnected := false
  hsState := .start
  hasGetConfigReply := false
  hasDescription := false
  firstRoleReplyReceived := false
  descriptionFuture := false
  datapathId := none
  transactionIdSource := 0
  connected := true
  role := none
  supportsNxRole := none
  pendingRoleRequests := []
  thread := .idle

/-- What is written to a closed channel is lost. -/
def write (c : Conn) (requests : List Request) : Conn :=
  { c with down := if c.channelOpen then c.down ++ requests else c.down }

/-- `getChannel().close()`, to which also an exception of the handler leads. -/
def close (c : Conn) : Conn := { c with channelOpen := false }

/-- The part of `checkSwitchReady` before its `synchronized` block. -/
def checkSwitchReady (c : Conn) : Conn :=
  if c.hsState = .featuresReply ∧ c.hasDescription = true ∧ c.hasGetConfigReply = true then
    { c with hsState := .ready, thread := .entering }
  else c

def sendFeatureReplyConfiguration (c : Conn) : Conn :=
  { c with transactionIdSource := c.transactionIdSource + 1, descriptionFuture := true }.write
    [.setConfig 0xffff,.getConfigRequest,.statsRequest (c.transactionIdSource + 1)]

/-- The future is asked for its value without waiting, and whether or not it has one the
    description is taken for received. -/
def processSwitchDescReply (c : Conn) : Conn :=
  { c with descriptionFuture := false, hasDescription := true }.checkSwitchReady

def sendNxRoleRequest (c : Conn) (role : Role) (cookie : Int) : Conn :=
  let xid := c.transactionIdSource + 1
  let c := { c with transactionIdSource := xid }.write [.roleRequest xid role.nxRole]
  { c with pendingRoleRequests := c.pendingRoleRequests ++ [⟨xid,role,cookie⟩] }

/-- The head of the queue is taken off, whether or not the reply is the one to it. -/
def deliverRoleReply (c : Conn) (xid : UInt32) (role : Role) : Conn :=
  match c.pendingRoleRequests with
  | [] => c.close
  | head :: rest =>
    let c := { c with pendingRoleRequests := rest }
    if head.xid ≠ xid then c.close
    else if head.role ≠ role then c.close
    else
      { c with
        supportsNxRole := if c.role = none ∧ c.supportsNxRole = none then some true else c.supportsNxRole
        role := some role }

def checkFirstPendingRoleRequestXid (c : Conn) (xid : UInt32) : Bool :=
  match c.pendingRoleRequests with
  | [] => false
  | head :: _ => head.xid = xid

def checkFirstPendingRoleRequestCookie (c : Conn) (cookie : Int) : Bool :=
  match c.pendingRoleRequests with
  | [] => false
  | head :: _ => head.cookie = cookie

def deliverRoleRequestNotSupported (c : Conn) (xid : UInt32) : Conn :=
  match c.pendingRoleRequests with
  | [] => { c with role := none }.close
  | head :: rest =>
    let c := { c with pendingRoleRequests := rest, role := none }
    if head.xid = xid then { c with supportsNxRole := some false } else c.close

/-- The part of `handleRoleReplyMessage` before it looks into `activeSwitches`. -/
def handleRoleReplyMessage (c : Conn) (xid nxRole : UInt32) : Conn :=
  match Role.ofNxRole nxRole with
  | none => c.close
  | some role => { c.deliverRoleReply xid role with thread := .considering }

/-- The case of `ERROR`; an error that belongs to no role request is only logged. -/
def handleError (c : Conn) (xid : UInt32) (badRequest : Bool) : Conn :=
  if c.checkFirstPendingRoleRequestXid xid then
    if badRequest then
      { { c with firstRoleReplyReceived := true }.deliverRoleRequestNotSupported xid with thread := .unsupported }
    else c.close
  else c

/-- `processOFMessage`, which a `SwitchStateException` ends by closing the channel. -/
def processOFMessage (c : Conn) : Reply → Conn
  | .hello => if c.hsState = .start then { c with hsState := .hello }.write [.featuresRequest] else c.close
  | .echoRequest xid => c.write [.echoReply xid]
  | .echoReply => c
  | .featuresReply datapathId =>
    let c := { c with datapathId := some datapathId }
    if c.hsState = .hello then { c.sendFeatureReplyConfiguration with hsState := .featuresReply } else c
  | .getConfigReply _ =>
    if c.hsState = .featuresReply then { c with hasGetConfigReply := true }.checkSwitchReady else c.close
  | .statsReply _ =>
    if c.hsState = .start ∨ c.hsState = .hello then c.close
    else if c.descriptionFuture then c.processSwitchDescReply
    else c
  | .roleReply xid nxRole => c.handleRoleReplyMessage xid nxRole
  | .error xid badRequest => c.handleError xid badRequest
  | .wlan msg => { c with thread := .dispatching msg }
  | .other => c

/-- What `processOFMessage` asks before it calls the listeners of a message. -/
def listens (c : Conn) : Bool := c.connected && decide (c.hsState = .ready) && decide (c.role ≠ some .slave)

/-- The beginning of `channelDisconnected`. -/
def channelDisconnected (c : Conn) : Conn :=
  { c with disconnected := true, thread := if c.hsState = .ready then .removing true else c.thread }

/-! ### What the handler can do -/

/-- The replies on which the channel is closed at once. -/
def Unexpected (c : Conn) : Reply → Prop
  | .hello => c.hsState ≠ .start
  | .getConfigReply _ => c.hsState ≠ .featuresReply
  | .statsReply _ => c.hsState = .start ∨ c.hsState = .hello
  | .roleReply _ nxRole => Role.ofNxRole nxRole = none
  | .error xid badRequest => c.checkFirstPendingRoleRequestXid xid = true ∧ badRequest = false
  | _ => False

/-- Everything that `processOFMessage` can make of a connection. -/
inductive Processes (c : Conn) : Reply → Conn → Prop where
  | refused {reply : Reply} (unexpected : c.Unexpected reply) : Processes c reply c.close
  | greeted (isStart : c.hsState = .start) : Processes c .hello ({ c with hsState := .hello }.write [.featuresRequest])
  | echoed {xid : UInt32} : Processes c (.echoRequest xid) (c.write [.echoReply xid])
  | noticed : Processes c .echoReply c
  | identified {dpid : UInt64} (isHello : c.hsState = .hello) :
    Processes c (.featuresReply dpid)
      { { c with datapathId := some dpid }.sendFeatureReplyConfiguration with hsState := .featuresReply }
  | renamed {dpid : UInt64} (notHello : c.hsState ≠ .hello) :
    Processes c (.featuresReply dpid) { c with datapathId := some dpid }
  | configured {missSendLength : UInt16} (isFeatures : c.hsState = .featuresReply) (missing : c.hasDescription = false) :
    Processes c (.getConfigReply missSendLength) { c with hasGetConfigReply := true }
  | completed {missSendLength : UInt16} (isFeatures : c.hsState = .featuresReply) (complete : c.hasDescription = true) :
    Processes c (.getConfigReply missSendLength)
      { c with hasGetConfigReply := true, hsState := .ready, thread := .entering }
  | repeated {xid : UInt32} (known : c.descriptionFuture = false) : Processes c (.statsReply xid) c
  | described {xid : UInt32} (expected : c.descriptionFuture = true)
    (missing : c.hsState ≠ .featuresReply ∨ c.hasGetConfigReply = false) :
    Processes c (.statsReply xid) { c with descriptionFuture := false, hasDescription := true }
  | finished {xid : UInt32} (expected : c.descriptionFuture = true) (isFeatures : c.hsState = .featuresReply)
    (complete : c.hasGetConfigReply = true) :
    Processes c (.statsReply xid)
      { c with descriptionFuture := false, hasDescription := true, hsState := .ready, thread := .entering }
  | unasked {xid nxRole : UInt32} (noneIs : c.pendingRoleRequests = []) :
    Processes c (.roleReply xid nxRole) { c.close with thread := .considering }
  | mismatched {xid nxRole : UInt32} {role : Role} {head : PendingRoleRequestEntry} {rest : List PendingRoleRequestEntry}
    (isRole : Role.ofNxRole nxRole = some role) (waiting : c.pendingRoleRequests = head :: rest)
    (other : ¬ (head.xid = xid ∧ head.role = role)) :
    Processes c (.roleReply xid nxRole)
      { { c with pendingRoleRequests := rest }.close with thread := .considering }
  | agreed {xid nxRole : UInt32} {role : Role} {head : PendingRoleRequestEntry} {rest : List PendingRoleRequestEntry}
    (isRole : Role.ofNxRole nxRole = some role) (waiting : c.pendingRoleRequests = head :: rest)
    (same : head.xid = xid ∧ head.role = role) :
    Processes c (.roleReply xid nxRole)
      { c with
        pendingRoleRequests := rest
        supportsNxRole := if c.role = none ∧ c.supportsNxRole = none then some true else c.supportsNxRole
        role := some role
        thread := .considering }
  | logged {xid : UInt32} {badRequest : Bool} (other : c.checkFirstPendingRoleRequestXid xid = false) :
    Processes c (.error xid badRequest) c
  | declined {xid : UInt32} {head : PendingRoleRequestEntry} {rest : List PendingRoleRequestEntry}
    (waiting : c.pendingRoleRequests = head :: rest) :
    Processes c (.error xid true)
      { c with
        firstRoleReplyReceived := true
        pendingRoleRequests := rest
        role := none
        supportsNxRole := some false
        thread := .unsupported }
  | taken {msg : ToController} : Processes c (.wlan msg) { c with thread := .dispatching msg }
  | passed : Processes c .other c

theorem processes_roleReply (c : Conn) (xid nxRole : UInt32) :
    Processes c (.roleReply xid nxRole) (c.handleRoleReplyMessage xid nxRole) := by
  unfold handleRoleReplyMessage
  split
  · rename_i isRole
    exact .refused isRole
  · rename_i role isRole
    unfold deliverRoleReply
    split
    · rename_i noneIs
      exact .unasked noneIs
    · rename_i head rest waiting
      dsimp only
      split
      · rename_i otherXid
        exact .mismatched isRole waiting (fun same => otherXid same.1)
      · rename_i sameXid
        split
        · rename_i otherRole
          exact .mismatched isRole waiting (fun same => otherRole same.2)
        · rename_i sameRole
          exact .agreed isRole waiting ⟨not_not.mp sameXid,not_not.mp sameRole⟩

theorem processes_error (c : Conn) (xid : UInt32) (badRequest : Bool) :
    Processes c (.error xid badRequest) (c.handleError xid badRequest) := by
  unfold handleError
  split
  · rename_i isFirst
    split
    · rename_i isBad
      subst isBad
      unfold checkFirstPendingRoleRequestXid at isFirst
      unfold deliverRoleRequestNotSupported
      dsimp only
      split at isFirst
      · cases isFirst
      · rename_i head rest waiting
        simp only [of_decide_eq_true isFirst]
        exact .declined waiting
    · rename_i notBad
      exact .refused ⟨isFirst,by simpa using notBad⟩
  · rename_i other
    exact .logged (by simpa using other)

theorem processes (c : Conn) (reply : Reply) : Processes c reply (c.processOFMessage reply) := by
  cases reply with
  | hello =>
    simp only [processOFMessage]
    split
    · rename_i isStart
      exact .greeted isStart
    · rename_i notStart
      exact .refused notStart
  | echoRequest xid => exact .echoed
  | echoReply => exact .noticed
  | featuresReply datapathId =>
    simp only [processOFMessage]
    split
    · rename_i isHello
      exact .identified isHello
    · rename_i notHello
      exact .renamed notHello
  | getConfigReply missSendLength =>
    simp only [processOFMessage,checkSwitchReady]
    split
    · rename_i isFeatures
      split
      · rename_i complete
        exact .completed isFeatures complete.2.1
      · rename_i missing
        exact .configured isFeatures (by simpa [isFeatures] using missing)
    · rename_i notFeatures
      exact .refused notFeatures
  | statsReply xid =>
    simp only [processOFMessage,processSwitchDescReply,checkSwitchReady]
    split
    · rename_i early
      exact .refused early
    · split
      · rename_i expected
        split
        · rename_i complete
          exact .finished expected complete.1 complete.2.2
        · rename_i missing
          refine .described expected ?_
          by_cases isFeatures : c.hsState = .featuresReply
          · exact .inr (by simpa [isFeatures] using missing)
          · exact .inl isFeatures
      · rename_i known
        exact .repeated (by simpa using known)
  | roleReply xid nxRole => exact processes_roleReply c xid nxRole
  | error xid badRequest => exact processes_error c xid badRequest
  | wlan msg => exact .taken
  | other => exact .passed

end Conn
end Handover.OpenFlow
