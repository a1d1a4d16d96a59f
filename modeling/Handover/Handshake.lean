import Handover.Registry

/-!
The handshake between the controller and the agents of the access points and the
gateway. What an agent has still to answer and what its answers have still to be received
is at every moment just what the handler of the connection waits for, in this order; so no
message of an agent is unexpected, and a connection on which nothing is on its way has
come through. Where the controller has no role, the active switches are then exactly the
open connections, and each switch that is lost is removed once.
-/
namespace Handover.OpenFlow

/-! ### The conversation -/

/-- What a request asks for and a reply is about, where the handler waits for it. -/
inductive Topic where
  | hello
  | features
  | config
  | stats
  | role (xid nxRole : UInt32)
deriving DecidableEq

def Reply.topic : Reply → Option Topic
  | .hello => some .hello
  | .featuresReply _ => some .features
  | .getConfigReply _ => some .config
  | .statsReply _ => some .stats
  | .roleReply xid nxRole => some (.role xid nxRole)
  | _ => none

def Request.topic : Request → Option Topic
  | .hello => some .hello
  | .featuresRequest => some .features
  | .getConfigRequest => some .config
  | .statsRequest _ => some .stats
  | .roleRequest xid nxRole => some (.role xid nxRole)
  | _ => none

/-- An agent answers what it is asked. -/
theorem topics_agent (peer : Peer) (missSendLen : UInt16) (request : Request) :
    (peer.processControllerMsg missSendLen request).2.filterMap Reply.topic = request.topic.toList := by
  cases request with
  | flowModDelete =>
    simp only [Peer.processControllerMsg]
    split <;> rfl
  | _ => rfl

/-- The thread does more than dispatch a message. -/
def Thread.handles : Thread → Bool
  | .idle => false
  | .dispatching _ => false
  | _ => true

namespace Conn

/-- What is on its way, in the order in which the handler will hear of it. -/
def topics (c : Conn) : List Topic := c.up.filterMap Reply.topic ++ c.down.filterMap Request.topic

/-- What the handler waits for. -/
def expected (c : Conn) : List Topic :=
  match c.hsState with
  | .start => [.hello]
  | .hello => [.features]
  | .featuresReply => if c.hasGetConfigReply then [.stats] else [.config,.stats]
  | .ready => c.pendingRoleRequests.map (fun entry => .role entry.xid entry.role.nxRole)

/-- The early states of the handshake. -/
def early (c : Conn) : Bool := decide (c.hsState = .start ∨ c.hsState = .hello)

/-- A connection with one of our agents. Requests that are written to a closed channel
    are never answered, and the last things waited for are then missing. -/
structure Talks (dpid : UInt64) (c : Conn) : Prop where
  topics : c.topics <+: c.expected
  whole : c.channelOpen = true → c.topics = c.expected
  ids : ∀ datapathId, .featuresReply datapathId ∈ c.up → datapathId = dpid
  noErrors : ∀ xid badRequest, .error xid badRequest ∉ c.up
  id : c.datapathId = if c.early then none else some dpid
  future : c.descriptionFuture = decide (c.hsState = .featuresReply)
  config : c.early = true → c.hasGetConfigReply = false
  description : c.hsState ≠ .ready → c.hasDescription = false
  waits : c.hsState ≠ .ready → c.pendingRoleRequests = [] ∧ (c.thread = .idle ∨ ∃ msg, c.thread = .dispatching msg)
  supports : c.supportsNxRole ≠ some false
  thread : c.thread ≠ .unsupported

theorem talks_create (dpid : UInt64) : Talks dpid .create where
  topics := ⟨[],rfl⟩
  whole _ := rfl
  ids := by simp [create]
  noErrors := by simp [create]
  id := rfl
  future := rfl
  config _ := rfl
  description _ := rfl
  waits _ := ⟨rfl,.inl rfl⟩
  supports := by simp [create]
  thread := by simp [create]

theorem topics_write (c : Conn) (requests : List Request) :
    (c.write requests).topics = c.topics ++ if c.channelOpen then requests.filterMap Request.topic else [] := by
  unfold topics write
  dsimp only
  split
  · rw [List.filterMap_append,List.append_assoc]
  · rw [List.append_nil]

/-- What is asked once nothing else is on its way. -/
theorem topics_asked {c : Conn} (nothing : c.topics = []) (requests : List Request) :
    (c.write requests).topics <+: requests.filterMap Request.topic ∧
      (c.channelOpen = true → (c.write requests).topics = requests.filterMap Request.topic) := by
  rw [topics_write,nothing,List.nil_append]
  refine ⟨?_,fun isOpen => if_pos isOpen⟩
  split
  · exact List.prefix_rfl
  · exact List.nil_prefix

/-- Requests that no reply is waited for. -/
theorem Talks.write {dpid : UInt64} {c : Conn} (talks : Talks dpid c) {requests : List Request}
    (free : requests.filterMap Request.topic = []) : Talks dpid (c.write requests) := by
  have same : (c.write requests).topics = c.topics := by
    rw [topics_write,free,ite_self,List.append_nil]
  exact {
    topics := same ▸ talks.topics
    whole := fun isOpen => same.trans (talks.whole isOpen)
    ids := talks.ids
    noErrors := talks.noErrors
    id := talks.id
    future := talks.future
    config := talks.config
    description := talks.description
    waits := talks.waits
    supports := talks.supports
    thread := talks.thread }

theorem topics_posts (posts : List FromController) : (posts.map Request.wlan).filterMap Request.topic = [] := by
  simp [List.filterMap_eq_nil_iff,Request.topic]

/-- What the handler waits for next tells how far it is. -/
theorem expected_cons {c : Conn} {topic : Topic} {later : List Topic} (first : topic :: later <+: c.expected) :
    match topic with
    | .hello => c.hsState = .start ∧ later = []
    | .features => c.hsState = .hello ∧ later = []
    | .config => c.hsState = .featuresReply ∧ c.hasGetConfigReply = false ∧ later <+: [.stats]
    | .stats => c.hsState = .featuresReply ∧ c.hasGetConfigReply = true ∧ later = []
    | .role xid nxRole => c.hsState = .ready ∧ ∃ head rest, c.pendingRoleRequests = head :: rest ∧ head.xid = xid ∧
        head.role.nxRole = nxRole ∧ later <+: rest.map (fun entry => .role entry.xid entry.role.nxRole) := by
  unfold expected at first
  split at first
  · rename_i isStart
    obtain ⟨rfl,rest⟩ := List.cons_prefix_cons.mp first
    exact ⟨isStart,List.prefix_nil.mp rest⟩
  · rename_i isHello
    obtain ⟨rfl,rest⟩ := List.cons_prefix_cons.mp first
    exact ⟨isHello,List.prefix_nil.mp rest⟩
  · rename_i isFeatures
    split at first
    · rename_i configured
      obtain ⟨rfl,rest⟩ := List.cons_prefix_cons.mp first
      exact ⟨isFeatures,configured,List.prefix_nil.mp rest⟩
    · rename_i missing
      obtain ⟨rfl,rest⟩ := List.cons_prefix_cons.mp first
      exact ⟨isFeatures,by simpa using missing,rest⟩
  · rename_i isReady
    cases pending : c.pendingRoleRequests with
    | nil =>
      rw [pending] at first
      exact absurd (List.prefix_nil.mp first) (by simp)
    | cons head rest =>
      rw [pending] at first
      obtain ⟨rfl,rest'⟩ := List.cons_prefix_cons.mp first
      exact ⟨isReady,head,rest,rfl,rfl,rfl,rest'⟩

/-- A connection whose thread goes on. -/
theorem Talks.goes {dpid : UInt64} {c : Conn} (talks : Talks dpid c) (thread : Thread)
    (ready : c.hsState = .ready ∨ thread = .idle ∨ ∃ msg, thread = .dispatching msg) (supported : thread ≠ .unsupported) :
    Talks dpid { c with thread := thread } :=
  { talks with
    waits := fun notReady => ⟨(talks.waits notReady).1,ready.resolve_left notReady⟩
    thread := supported }

/-- A reply is taken off that no one waits for. -/
theorem Talks.skip {dpid : UInt64} {c : Conn} {reply : Reply} {rest : List Reply} (talks : Talks dpid c)
    (waiting : c.up = reply :: rest) (free : reply.topic = none) : Talks dpid { c with up := rest } := by
  have same : c.topics = ({ c with up := rest } : Conn).topics := by
    simp [Conn.topics,waiting,free]
  have before : ∀ {sent : Reply}, sent ∈ rest → sent ∈ c.up := fun member => waiting ▸ List.mem_cons_of_mem _ member
  exact { talks with
    topics := same ▸ talks.topics
    whole := fun isOpen => same ▸ talks.whole isOpen
    ids := fun datapathId member => talks.ids datapathId (before member)
    noErrors := fun xid badRequest member => talks.noErrors xid badRequest (before member) }

section
variable {dpid : UInt64} {c c' : Conn} {reply : Reply} {rest : List Reply}
  (talks : Talks dpid c)
include talks

/-- What is left of the replies. -/
theorem Talks.rest_ids (waiting : c.up = reply :: rest) (datapathId : UInt64) (member : .featuresReply datapathId ∈ rest) :
    datapathId = dpid :=
  talks.ids datapathId (waiting ▸ List.mem_cons_of_mem _ member)

theorem Talks.rest_noErrors (waiting : c.up = reply :: rest) (xid : UInt32) (badRequest : Bool) :
    .error xid badRequest ∉ rest :=
  fun member => talks.noErrors xid badRequest (waiting ▸ List.mem_cons_of_mem _ member)

/-- The topic of the reply is the first that is waited for. -/
theorem Talks.first (waiting : c.up = reply :: rest) {topic : Topic} (isTopic : reply.topic = some topic) :
    topic :: ({ c with up := rest } : Conn).topics <+: c.expected ∧
      (c.channelOpen = true → topic :: ({ c with up := rest } : Conn).topics = c.expected) := by
  have isTopics : c.topics = topic :: ({ c with up := rest } : Conn).topics := by
    simp [Conn.topics,waiting,isTopic]
  exact ⟨isTopics ▸ talks.topics,fun isOpen => isTopics ▸ talks.whole isOpen⟩

/-- No reply of an agent is unexpected. -/
theorem Talks.not_unexpected (waiting : c.up = reply :: rest) :
    ¬ ({ c with up := rest } : Conn).Unexpected reply := by
  intro unexpected
  cases reply with
  | hello => exact unexpected (expected_cons (talks.first waiting rfl).1).1
  | getConfigReply missSendLength => exact unexpected (expected_cons (talks.first waiting rfl).1).1
  | statsReply xid =>
    have isFeatures := (expected_cons (talks.first waiting rfl).1).1
    rcases unexpected with isStart | isHello
    · exact absurd (isFeatures.symm.trans isStart) (by simp)
    · exact absurd (isFeatures.symm.trans isHello) (by simp)
  | roleReply xid nxRole =>
    obtain ⟨_,head,_,_,_,isRole,_⟩ := expected_cons (talks.first waiting rfl).1
    subst isRole
    simp [Unexpected] at unexpected
  | error xid badRequest => exact talks.noErrors xid badRequest (waiting ▸ List.mem_cons_self)
  | _ => exact unexpected

theorem Talks.greet (waiting : c.up = .hello :: rest) :
    Talks dpid (({ c with up := rest, hsState := .hello } : Conn).write [.featuresRequest]) := by
  obtain ⟨isStart,nothing⟩ := expected_cons (talks.first waiting rfl).1
  obtain ⟨topics,whole⟩ := topics_asked (c := { c with up := rest, hsState := .hello }) nothing [.featuresRequest]
  have early : c.early = true := by simp [Conn.early,isStart]
  have notReady : c.hsState ≠ .ready := by simp [isStart]
  have isId := talks.id
  have future := talks.future
  rw [early] at isId
  rw [isStart] at future
  exact {
    topics := topics
    whole := whole
    ids := talks.rest_ids waiting
    noErrors := talks.rest_noErrors waiting
    id := isId
    future := future
    config := fun _ => talks.config early
    description := fun _ => talks.description notReady
    waits := fun _ => talks.waits notReady
    supports := talks.supports
    thread := talks.thread }

theorem Talks.identify {datapathId : UInt64} (waiting : c.up = .featuresReply datapathId :: rest) :
    Talks dpid { ({ c with up := rest, datapathId := some datapathId } : Conn).sendFeatureReplyConfiguration with
      hsState := .featuresReply } := by
  obtain ⟨isHello,nothing⟩ := expected_cons (talks.first waiting rfl).1
  have early : c.early = true := by simp [Conn.early,isHello]
  have notReady : c.hsState ≠ .ready := by simp [isHello]
  have unconfigured := talks.config early
  have same := talks.ids datapathId (waiting ▸ List.mem_cons_self)
  obtain ⟨topics,whole⟩ := topics_asked (c := { c with up := rest }) nothing
    [.setConfig 0xffff,.getConfigRequest,.statsRequest (c.transactionIdSource + 1)]
  have waits : [Topic.config,.stats] = if c.hasGetConfigReply then [.stats] else [.config,.stats] := by
    rw [unconfigured]
    rfl
  rw [show List.filterMap Request.topic [.setConfig 0xffff,.getConfigRequest,.statsRequest (c.transactionIdSource + 1)] =
    [.config,.stats] from rfl,waits] at topics whole
  exact {
    topics := topics
    whole := whole
    ids := talks.rest_ids waiting
    noErrors := talks.rest_noErrors waiting
    id := congrArg some same
    future := rfl
    config := fun late => by simp [Conn.early] at late
    description := fun _ => talks.description notReady
    waits := fun _ => talks.waits notReady
    supports := talks.supports
    thread := talks.thread }

theorem Talks.configure {missSendLength : UInt16} (waiting : c.up = .getConfigReply missSendLength :: rest) :
    Talks dpid { c with up := rest, hasGetConfigReply := true } := by
  obtain ⟨first,whole⟩ := talks.first waiting rfl
  obtain ⟨isFeatures,unconfigured,left⟩ := expected_cons first
  have notReady : c.hsState ≠ .ready := by simp [isFeatures]
  have before : c.expected = [.config,.stats] := by simp [expected,isFeatures,unconfigured]
  have after : ({ c with up := rest, hasGetConfigReply := true } : Conn).expected = [.stats] := by simp [expected,isFeatures]
  exact {
    topics := after ▸ left
    whole := fun isOpen => by
      rw [after]
      exact (List.cons.inj ((whole isOpen).trans before)).2
    ids := talks.rest_ids waiting
    noErrors := talks.rest_noErrors waiting
    id := talks.id
    future := talks.future
    config := fun early => by simp [Conn.early,isFeatures] at early
    description := talks.description
    waits := talks.waits
    supports := talks.supports
    thread := talks.thread }

theorem Talks.finish {xid : UInt32} (waiting : c.up = .statsReply xid :: rest) :
    Talks dpid { c with
      up := rest
      descriptionFuture := false
      hasDescription := true
      hsState := .ready
      thread := .entering } := by
  obtain ⟨isFeatures,_,nothing⟩ := expected_cons (talks.first waiting rfl).1
  have noRoles := (talks.waits (by simp [isFeatures])).1
  have after : ({ c with
      up := rest
      descriptionFuture := false
      hasDescription := true
      hsState := .ready
      thread := .entering } : Conn).expected = [] := by simp [expected,noRoles]
  have isId := talks.id
  rw [show c.early = false by simp [Conn.early,isFeatures]] at isId
  exact {
    topics := by rw [after]; exact List.prefix_nil.mpr nothing
    whole := fun _ => by rw [after]; exact nothing
    ids := talks.rest_ids waiting
    noErrors := talks.rest_noErrors waiting
    id := isId
    future := rfl
    config := fun early => by simp [Conn.early] at early
    description := fun notReady => absurd rfl notReady
    waits := fun notReady => absurd rfl notReady
    supports := talks.supports
    thread := by simp }

theorem Talks.agree {xid nxRole : UInt32} {role : Role} {head : PendingRoleRequestEntry}
    {later : List PendingRoleRequestEntry} (waiting : c.up = .roleReply xid nxRole :: rest)
    (pending : c.pendingRoleRequests = head :: later) :
    Talks dpid { c with
      up := rest
      pendingRoleRequests := later
      supportsNxRole := if c.role = none ∧ c.supportsNxRole = none then some true else c.supportsNxRole
      role := some role
      thread := .considering } := by
  obtain ⟨first,whole⟩ := talks.first waiting rfl
  obtain ⟨isReady,head',later',pending',_,_,left⟩ := expected_cons first
  rw [pending] at pending'
  cases pending'
  have before : c.expected = .role head.xid head.role.nxRole :: later.map (fun entry => .role entry.xid entry.role.nxRole) := by
    simp [expected,isReady,pending]
  have after : ({ c with
      up := rest
      pendingRoleRequests := later
      supportsNxRole := if c.role = none ∧ c.supportsNxRole = none then some true else c.supportsNxRole
      role := some role
      thread := .considering } : Conn).expected = later.map (fun entry => .role entry.xid entry.role.nxRole) := by
    simp [expected,isReady]
  have notReady : ∀ {p : Prop}, c.hsState ≠ .ready → p := fun notReady => absurd isReady notReady
  exact {
    topics := after ▸ left
    whole := fun isOpen => by
      rw [after]
      exact (List.cons.inj ((whole isOpen).trans before)).2
    ids := talks.rest_ids waiting
    noErrors := talks.rest_noErrors waiting
    id := talks.id
    future := talks.future
    config := talks.config
    description := notReady
    waits := notReady
    supports := by
      dsimp only
      split
      · simp
      · exact talks.supports
    thread := by simp }

/-- The handler accepts every reply of an agent, and goes on waiting for the others. -/
theorem Talks.process (waiting : c.up = reply :: rest) (processes : ({ c with up := rest } : Conn).Processes reply c') :
    c'.channelOpen = c.channelOpen ∧ Talks dpid c' := by
  cases processes with
  | refused unexpected => exact absurd unexpected (talks.not_unexpected waiting)
  | greeted isStart => exact ⟨rfl,talks.greet waiting⟩
  | echoed => exact ⟨rfl,(talks.skip waiting rfl).write rfl⟩
  | noticed => exact ⟨rfl,talks.skip waiting rfl⟩
  | identified isHello => exact ⟨rfl,talks.identify waiting⟩
  | renamed notHello => exact absurd (expected_cons (talks.first waiting rfl).1).1 notHello
  | configured isFeatures missing => exact ⟨rfl,talks.configure waiting⟩
  | completed isFeatures complete =>
    have isFeatures : c.hsState = .featuresReply := isFeatures
    have missing := talks.description (by rw [isFeatures]; simp)
    exact absurd (complete : c.hasDescription = true) (by rw [missing]; simp)
  | repeated known =>
    have isFeatures := (expected_cons (talks.first waiting rfl).1).1
    have future := talks.future
    rw [isFeatures,show c.descriptionFuture = false from known] at future
    simp at future
  | described expected missing =>
    obtain ⟨isFeatures,configured,_⟩ := expected_cons (talks.first waiting rfl).1
    rcases missing with otherState | missing
    · exact absurd isFeatures otherState
    · exact absurd (missing : c.hasGetConfigReply = false) (by rw [configured]; simp)
  | finished expected isFeatures complete => exact ⟨rfl,talks.finish waiting⟩
  | unasked noneIs =>
    obtain ⟨_,head,_,pending,_⟩ := expected_cons (talks.first waiting rfl).1
    rw [show c.pendingRoleRequests = [] from noneIs] at pending
    cases pending
  | mismatched isRole waits apart =>
    obtain ⟨_,head,_,pending,isXid,isNx,_⟩ := expected_cons (talks.first waiting rfl).1
    rw [show c.pendingRoleRequests = _ from waits] at pending
    cases pending
    refine absurd ⟨isXid,?_⟩ apart
    rw [← isNx,Role.ofNxRole_nxRole] at isRole
    exact Option.some.inj isRole
  | agreed isRole waits same => exact ⟨rfl,talks.agree waiting waits⟩
  | logged unrelated => exact absurd (waiting ▸ List.mem_cons_self) (talks.noErrors _ _)
  | declined waits => exact absurd (waiting ▸ List.mem_cons_self) (talks.noErrors _ _)
  | taken => exact ⟨rfl,(talks.skip waiting rfl).goes _ (.inr (.inr ⟨_,rfl⟩)) (by simp)⟩
  | passed => exact ⟨rfl,talks.skip waiting rfl⟩

end

/-! ### The other steps of a connection -/

section
variable {dpid : UInt64} {c : Conn} (talks : Talks dpid c)
include talks

/-- Only the thread of a connection that is ready does more than dispatch. -/
theorem Talks.ready {thread : Thread} (isThread : c.thread = thread) (handles : thread.handles = true) : c.hsState = .ready := by
  by_contra notReady
  rcases (talks.waits notReady).2 with isIdle | ⟨msg,isDispatching⟩
  · cases isThread.symm.trans isIdle
    cases handles
  · cases isThread.symm.trans isDispatching
    cases handles

theorem Talks.isId (isReady : c.hsState = .ready) : c.datapathId = some dpid := by
  have isId := talks.id
  rwa [show c.early = false by simp [Conn.early,isReady]] at isId

/-- On an open channel the handshake stops only where nothing is left of it. -/
theorem Talks.settled (isOpen : c.channelOpen = true) (noReply : c.up = []) (noRequest : c.down = []) :
    c.hsState = .ready ∧ c.pendingRoleRequests = [] := by
  have nothing : c.expected = [] := by rw [← talks.whole isOpen,Conn.topics,noReply,noRequest]; rfl
  unfold expected at nothing
  split at nothing
  · cases nothing
  · cases nothing
  · split at nothing <;> cases nothing
  · rename_i isReady
    exact ⟨isReady,List.map_eq_nil_iff.mp nothing⟩

theorem Talks.close : Talks dpid c.close :=
  { talks with whole := fun isOpen => by simp [Conn.close] at isOpen }

theorem Talks.send (msg : ToController) : Talks dpid { c with up := c.up ++ [.wlan msg] } := by
  have same : ({ c with up := c.up ++ [.wlan msg] } : Conn).topics = c.topics := by
    simp [Conn.topics,Reply.topic]
  exact { talks with
    topics := same ▸ talks.topics
    whole := fun isOpen => same.trans (talks.whole isOpen)
    ids := fun datapathId member => talks.ids datapathId (by simpa using member)
    noErrors := fun xid badRequest member => talks.noErrors xid badRequest (by simpa using member) }

/-- The agent answers: what is on its way turns from a request into a reply. -/
theorem Talks.answer {peer : Peer} (isPeer : peer.dpid = dpid) {request : Request} {rest : List Request}
    (waiting : c.down = request :: rest) :
    Talks dpid { c with
      missSendLen := (peer.processControllerMsg c.missSendLen request).1
      down := rest
      up := c.up ++ (peer.processControllerMsg c.missSendLen request).2 } := by
  have same : ({ c with
      missSendLen := (peer.processControllerMsg c.missSendLen request).1
      down := rest
      up := c.up ++ (peer.processControllerMsg c.missSendLen request).2 } : Conn).topics = c.topics := by
    simp only [Conn.topics,waiting,List.filterMap_append,topics_agent,List.append_assoc,List.filterMap_cons]
    cases request.topic <;> rfl
  refine { talks with
    topics := same ▸ talks.topics
    whole := fun isOpen => same.trans (talks.whole isOpen)
    ids := fun datapathId member => ?_
    noErrors := fun xid badRequest member => ?_ }
  · rcases List.mem_append.mp member with before | isNew
    · exact talks.ids datapathId before
    · subst isPeer
      cases request with
      | featuresRequest => simpa [Peer.processControllerMsg] using isNew
      | flowModDelete =>
        simp only [Peer.processControllerMsg] at isNew
        split at isNew <;> simp at isNew
      | _ => simp [Peer.processControllerMsg] at isNew
  · rcases List.mem_append.mp member with before | isNew
    · exact talks.noErrors xid badRequest before
    · cases request with
      | flowModDelete =>
        simp only [Peer.processControllerMsg] at isNew
        split at isNew <;> simp at isNew
      | _ => simp [Peer.processControllerMsg] at isNew

theorem Talks.sendNxRoleRequest (isReady : c.hsState = .ready) (role : Role) (cookie : Int) :
    Talks dpid (c.sendNxRoleRequest role cookie) := by
  have before : c.expected = c.pendingRoleRequests.map (fun entry => .role entry.xid entry.role.nxRole) := by
    simp [expected,isReady]
  have after : (c.sendNxRoleRequest role cookie).expected =
      c.expected ++ [.role (c.transactionIdSource + 1) role.nxRole] := by
    simp [expected,Conn.sendNxRoleRequest,Conn.write,isReady]
  have isTopics : (c.sendNxRoleRequest role cookie).topics =
      c.topics ++ if c.channelOpen then [.role (c.transactionIdSource + 1) role.nxRole] else [] :=
    topics_write { c with transactionIdSource := c.transactionIdSource + 1 } _
  have notReady : ∀ {p : Prop}, c.hsState ≠ .ready → p := fun notReady => absurd isReady notReady
  exact {
    topics := by
      rw [isTopics,after]
      split
      · rename_i isOpen
        rw [talks.whole isOpen]
      · rw [List.append_nil]
        exact talks.topics.trans (List.prefix_append _ _)
    whole := fun isOpen => by
      rw [isTopics,after,if_pos (show c.channelOpen = true from isOpen),talks.whole isOpen]
    ids := talks.ids
    noErrors := talks.noErrors
    id := talks.id
    future := talks.future
    config := talks.config
    description := notReady
    waits := notReady
    supports := talks.supports
    thread := talks.thread }

end

end Conn

namespace Core
variable {setup : Setup} {core core' : Core} {e : Event}

/-- All switches are agents of ours, and send only what is read as it is sent. -/
def Honest : Event → Prop
  | .sends _ msg => msg.readWhole = true
  | .injects _ _ => False
  | _ => True

instance : DecidablePred Honest := fun e => by
  cases e <;> unfold Honest <;> infer_instance

theorem roleChanged_supported (setup : Setup) (c : Conn) (isActive : Bool) : roleChanged setup c isActive ≠ .unsupported := by
  unfold roleChanged
  split
  · split <;> simp
  · split <;> simp

theorem afterRemoval_supported (disconnecting : Bool) : afterRemoval disconnecting ≠ .unsupported := by
  cases disconnecting <;> simp [afterRemoval]

theorem Changes.talks {j : Nat} {c : Conn} (changes : Changes setup core e j c) (honest : Honest e)
    (talks : (core.conn j).Talks (setup.peer j).dpid) : c.Talks (setup.peer j).dpid := by
  cases changes with
  | answered waiting => exact talks.answer rfl waiting
  | sent isAP own => exact talks.send _
  | injected => exact honest.elim
  | received isIdle waiting => exact (talks.process waiting (Conn.processes _ _)).2
  | probed => exact talks.write rfl
  | broken => exact talks.close
  | disconnected isClosed first isIdle =>
    by_cases isReady : (core.conn j).hsState = .ready
    · have goes := talks.goes (.removing true) (.inl isReady) (by simp)
      rw [Conn.channelDisconnected,if_pos isReady]
      exact { goes with }
    · rw [Conn.channelDisconnected,if_neg isReady]
      exact { talks with }
  | interrupted isClosed first atWork early => exact { talks with }
  | ignored isThread deaf => exact talks.goes _ (.inr (.inl rfl)) (by simp)
  | cleared isThread =>
    exact (talks.write rfl).goes _ (.inl (talks.ready isThread rfl)) (by simp)
  | considered isThread isId =>
    have isReady := talks.ready isThread rfl
    exact { talks.goes _ (.inl isReady) (roleChanged_supported setup (core.conn j) _) with }
  | refused isThread isSlave => exact absurd isThread talks.thread
  | thrown isThread noId =>
    have isReady : (core.conn j).hsState = .ready := by
      rcases isThread with isThread | ⟨_,isThread⟩ <;> exact talks.ready isThread rfl
    exact absurd ((talks.isId isReady).symm.trans noId) (by simp)
  | notFound isThread isId apart =>
    have isReady := talks.ready isThread rfl
    exact talks.goes _ (.inl isReady) (afterRemoval_supported _)
  | unreported isThread evicted =>
    have isReady := talks.ready isThread rfl
    exact talks.goes _ (.inl isReady) (afterRemoval_supported _)
  | ended isThread =>
    have goes := talks.goes .idle (.inr (.inl rfl)) (by simp)
    exact { goes with }

theorem Goes.from_unready {thread next : Thread} (goes : Goes thread next)
    (waits : thread = .idle ∨ ∃ msg, thread = .dispatching msg) : next = .idle := by
  rcases waits with rfl | ⟨msg,rfl⟩ <;> cases goes
  rfl

theorem Goes.supported {thread next : Thread} (goes : Goes thread next) : next ≠ .unsupported := by
  cases goes with
  | reported disconnecting => exact afterRemoval_supported disconnecting
  | _ => simp

theorem Goes.talks {c : Conn} {dpid : UInt64} {next : Thread} (goes : Goes c.thread next) (talks : c.Talks dpid) :
    ({ c with thread := next } : Conn).Talks dpid := by
  refine talks.goes next ?_ goes.supported
  by_cases isReady : c.hsState = .ready
  · exact .inl isReady
  · exact .inr (.inl (goes.from_unready (talks.waits isReady).2))

/-- The switches that the role changer has to do with are ready. -/
structure Talking (setup : Setup) (core : Core) : Prop where
  conns : ∀ i, (core.conn i).Talks (setup.peer i).dpid
  connected : ∀ i ∈ core.connectedSwitches, (core.conn i).hsState = .ready
  tasks : ∀ task ∈ core.pendingTasks, ∀ i ∈ task.switches, (core.conn i).hsState = .ready
  worker : ∀ task rest, core.worker = some (task,rest) → ∀ i, i ∈ rest ∨ i ∈ task.switches → (core.conn i).hsState = .ready

theorem Moves.talks {j : Nat} {c : Conn} (moves : Moves setup core e j c) (honest : Honest e)
    (talking : Talking setup core) : c.Talks (setup.peer j).dpid := by
  have talks := talking.conns j
  cases moves with
  | stays => exact talks
  | changed changes => exact changes.talks honest talks
  | goes goes => exact goes.talks talks
  | entered isThread =>
    have isReady := talks.ready isThread rfl
    have goes := talks.goes (.clearing true) (.inl isReady) (by simp)
    exact { goes with }
  | failed isThread noId =>
    have isReady := talks.ready isThread rfl
    exact absurd ((talks.isId isReady).symm.trans noId) (by simp)
  | evicted isThread goes =>
    rcases goes with rfl | goes
    · exact { talks with }
    · exact { goes.talks talks with }
  | closed isThread goes =>
    rcases goes with rfl | ⟨isClosing,rfl⟩
    · exact talks.close
    · have isReady := talks.ready isClosing rfl
      exact talks.close.goes (.adding _) (.inl isReady) (by simp)
  | interrupted isEvent isClosed atWork isReady => exact { talks with }
  | visited isTask visits =>
    cases visits with
    | requested isRequest supported =>
      exact talks.sendNxRoleRequest (talking.worker _ _ isTask j (.inl List.mem_cons_self)) _ _
    | dismissed isRequest unsupported isSlave => exact absurd unsupported talks.supports
    | passed isRequest unsupported => exact talks
    | expired isTimeout pending => exact talks.close
    | verified isTimeout => exact talks

/-! ### Ready connections -/

theorem ready_process {c c' : Conn} {reply : Reply} (processes : c.Processes reply c') (isReady : c.hsState = .ready) :
    c'.hsState = .ready := by
  cases processes with
  | greeted isStart => rw [isReady] at isStart; cases isStart
  | identified isHello => rw [isReady] at isHello; cases isHello
  | completed => rfl
  | finished => rfl
  | _ => exact isReady

theorem Moves.ready {j : Nat} {c : Conn} (moves : Moves setup core e j c) (isReady : (core.conn j).hsState = .ready) :
    c.hsState = .ready := by
  cases moves with
  | changed changes =>
    cases changes with
    | received isIdle waiting => exact ready_process (Conn.processes _ _) isReady
    | _ => exact isReady
  | visited isTask visits => cases visits <;> exact isReady
  | _ => exact isReady

/-- A connection that is ready stays so. -/
theorem Does.ready (does : Does setup core e core') {j : Nat} (isReady : (core.conn j).hsState = .ready) :
    (core'.conn j).hsState = .ready := by
  obtain ⟨c,posts,moves,isConn⟩ := does.moves j
  rw [isConn]
  exact moves.ready isReady

theorem Visits.switches {task task' : RoleChangeTask} {c c' : Conn} {i j : Nat} (visits : Visits task c i task' c')
    (member : j ∈ task'.switches) : j ∈ task.switches := by
  cases visits with
  | dismissed => exact List.mem_of_mem_erase member
  | _ => exact member

theorem Talking.step (talking : Talking setup core) (does : Does setup core e core') (honest : Honest e) :
    Talking setup core' := by
  have conns : ∀ i, (core'.conn i).Talks (setup.peer i).dpid := by
    intro i
    obtain ⟨c,posts,moves,isConn⟩ := does.moves i
    rw [isConn]
    exact (moves.talks honest talking).write (Conn.topics_posts posts)
  have entering : ∀ {i : Nat}, (core.conn i).thread = .entering → (core'.conn i).hsState = .ready := by
    intro i isThread
    exact does.ready ((talking.conns i).ready isThread rfl)
  have connected : ∀ i ∈ core.connectedSwitches, (core'.conn i).hsState = .ready :=
    fun i member => does.ready (talking.connected i member)
  have tasks : ∀ task ∈ core.pendingTasks, ∀ i ∈ task.switches, (core'.conn i).hsState = .ready :=
    fun task isTask i member => does.ready (talking.tasks task isTask i member)
  have worker : ∀ task rest, core.worker = some (task,rest) → ∀ i, i ∈ rest ∨ i ∈ task.switches →
      (core'.conn i).hsState = .ready :=
    fun task rest isTask i member => does.ready (talking.worker task rest isTask i member)
  have joined : ∀ {i : Nat}, (core.conn i).thread = .entering → ∀ j ∈ core.connectedSwitches.insert i,
      (core'.conn j).hsState = .ready := by
    intro i isThread j member
    rcases List.mem_insert_iff.mp member with rfl | before
    · exact entering isThread
    · exact connected j before
  have submitted : ∀ {switches : List Nat} {role : Role} {deadline : Int}, (∀ i ∈ switches, (core'.conn i).hsState = .ready) →
      ∀ task ∈ core.pendingTasks ++ [⟨switches,role,false,deadline⟩], ∀ i ∈ task.switches, (core'.conn i).hsState = .ready := by
    intro switches role deadline ready task isTask
    rcases List.mem_append.mp isTask with before | isNew
    · exact tasks task before
    · cases List.mem_singleton.mp isNew
      exact ready
  cases does with
  | submitted inside isThread isFree isRole =>
    refine ⟨conns,joined isThread,submitted ?_,worker⟩
    intro i member
    cases List.mem_singleton.mp member
    exact entering isThread
  | entered inside isThread isFree noRole => exact ⟨conns,joined isThread,tasks,worker⟩
  | left inside isThread isFree => exact ⟨conns,fun i member => connected i (List.mem_of_mem_erase member),tasks,worker⟩
  | interrupted inside isClosed first atWork isReady isId =>
    exact ⟨conns,fun i member => connected i (List.mem_of_mem_erase member),tasks,worker⟩
  | roleSet isFree apart => exact ⟨conns,connected,submitted connected,worker⟩
  | @taken k task isFree isTask =>
    have isMember := List.mem_of_getElem? isTask
    refine ⟨conns,connected,fun task' isTask' => tasks task' (List.mem_of_mem_eraseIdx isTask'),?_⟩
    rintro task' rest ⟨⟩ i member
    exact tasks _ isMember i (or_self_iff.mp member)
  | visited isTask visits =>
    refine ⟨conns,connected,tasks,?_⟩
    rintro task' rest ⟨⟩ i member
    rcases member with later | isSwitch
    · exact worker _ _ isTask i (.inl (List.mem_cons_of_mem _ later))
    · exact worker _ _ isTask i (.inr (visits.switches isSwitch))
  | worked isTask isTimeout => exact ⟨conns,connected,tasks,fun _ _ isTask => nomatch isTask⟩
  | @scheduled task isTask isRequest =>
    refine ⟨conns,connected,fun task' isTask' => ?_,fun _ _ isTask => nomatch isTask⟩
    rcases List.mem_append.mp isTask' with before | isNew
    · exact tasks task' before
    · cases List.mem_singleton.mp isNew
      exact fun i member => worker _ _ isTask i (.inr member)
  | _ => exact ⟨conns,connected,tasks,worker⟩

theorem talking_init : Talking setup (init setup) :=
  ⟨fun _ => Conn.talks_create _,by simp [init],by simp [init],by simp [init]⟩

end Core

/-! ### Handling a message closes no channel -/

/-- The thread is about to evict the connection. -/
def Thread.evicts (i : Nat) : Thread → Bool
  | .evicting old _ => old = i
  | .closing old _ => old = i
  | _ => false

namespace Core
variable {setup : Setup} {core core' : Core} {e : Event} {i : Nat}

theorem evicts_process {c c' : Conn} {reply : Reply} (processes : c.Processes reply c') (isIdle : c.thread = .idle) :
    c'.thread.evicts i = false := by
  have stays : c.thread.evicts i = false := by rw [isIdle]; rfl
  cases processes <;> first | rfl | exact stays

theorem evicts_afterRemoval (disconnecting : Bool) : (afterRemoval disconnecting).evicts i = false := by
  cases disconnecting <;> rfl

theorem evicts_roleChanged (setup : Setup) (c : Conn) (isActive : Bool) : (roleChanged setup c isActive).evicts i = false := by
  unfold roleChanged
  split
  · split <;> rfl
  · split <;> rfl

theorem Changes.spares {c : Conn} (changes : Changes setup core e i c) (spares : (core.conn i).thread.evicts i = false) :
    c.thread.evicts i = false := by
  cases changes with
  | received isIdle waiting => exact evicts_process (Conn.processes _ _) isIdle
  | disconnected isClosed first isIdle =>
    unfold Conn.channelDisconnected
    dsimp only
    split
    · rfl
    · exact spares
  | ignored isThread deaf => rfl
  | cleared isThread => rfl
  | considered isThread isId => exact evicts_roleChanged _ _ _
  | refused isThread isSlave => rfl
  | thrown isThread noId => rfl
  | notFound isThread isId apart => exact evicts_afterRemoval _
  | unreported isThread evicted => exact evicts_afterRemoval _
  | ended isThread => rfl
  | _ => exact spares

/-- A thread does not come to evict its own connection. -/
theorem Does.spares (does : Does setup core e core') (spares : (core.conn i).thread.evicts i = false) :
    (core'.conn i).thread.evicts i = false := by
  have goes : ∀ {j : Nat} {c : Conn}, (j = i → c.thread.evicts i = false) →
      ((core.setConn j c).conn i).thread.evicts i = false := field_setConn (·.thread.evicts i) spares
  have waits : ∀ {j : Nat} {c : Conn}, c.thread = (core.conn j).thread →
      ((core.setConn j c).conn i).thread.evicts i = false := by
    intro j c same
    refine goes ?_
    rintro rfl
    rw [same]
    exact spares
  cases does with
  | changed inside changes =>
    refine goes ?_
    rintro rfl
    exact changes.spares spares
  | failed inside isThread noId => exact field_setConn (·.thread.evicts i) (waits rfl) fun _ => rfl
  | replaced inside isThread isId isActive other =>
    refine goes ?_
    rintro rfl
    exact decide_eq_false other
  | evicted inside isThread =>
    refine field_setConn (·.thread.evicts i) (waits rfl) ?_
    rintro rfl
    rw [isThread] at spares
    exact spares
  | closed inside isThread => exact field_setConn (·.thread.evicts i) (waits rfl) fun _ => rfl
  | reported inside isThread isConnected => exact goes fun _ => evicts_afterRemoval _
  | visited isTask visits => cases visits <;> exact waits rfl
  | posted | interrupted => exact waits rfl
  | dispatched | submitted | entered | put | putAgain | added | tolerated | removed | left => exact goes fun _ => rfl
  | _ => exact spares

end Core

/-! ### The handshake can always be completed -/

/-- How many messages the agent answers the request with. -/
def Peer.answers (peer : Peer) (request : Request) : Nat := (peer.processControllerMsg 0 request).2.length

theorem Peer.length_replies (peer : Peer) (missSendLen : UInt16) (request : Request) :
    (peer.processControllerMsg missSendLen request).2.length = peer.answers request := by
  cases request <;> rfl

namespace Conn

/-- The replies after which the handler asks for more. -/
def stage (c : Conn) : Nat :=
  match c.hsState with
  | .start => 2
  | .hello => 1
  | _ => 0

/-- The messages that the handler is still to be given, also those that the agent has not
    yet sent; one in the thread counts half. -/
def work (peer : Peer) (c : Conn) : Nat :=
  2 * (c.up.length + (c.down.map peer.answers).sum) + if c.thread = .idle then 0 else 1

/-- What is left to do for the connection. -/
def rank (peer : Peer) (c : Conn) : ℕ ×ₗ ℕ ×ₗ ℕ := toLex (c.stage,toLex (c.work peer,c.down.length))

theorem rank_lt_iff {peer : Peer} {c c' : Conn} : c'.rank peer < c.rank peer ↔
    c'.stage < c.stage ∨ c'.stage = c.stage ∧ (c'.work peer < c.work peer ∨
      c'.work peer = c.work peer ∧ c'.down.length < c.down.length) := by
  simp only [rank,Prod.Lex.toLex_lt_toLex]

theorem work_write (peer : Peer) (c : Conn) {requests : List Request} (unanswered : ∀ r ∈ requests, peer.answers r = 0) :
    (c.write requests).work peer = c.work peer := by
  have none_ : (requests.map peer.answers).sum = 0 := by
    rw [List.sum_eq_zero_iff]
    simpa using unanswered
  unfold work write
  dsimp only
  split <;> simp [none_]

/-- An accepted reply is progress. -/
theorem rank_process {peer : Peer} {dpid : UInt64} {c c' : Conn} {reply : Reply} {rest : List Reply}
    (talks : c.Talks dpid) (isOpen : c.channelOpen = true) (isIdle : c.thread = .idle) (waiting : c.up = reply :: rest)
    (processes : ({ c with up := rest } : Conn).Processes reply c') : c'.hsState = .ready ∨ c'.rank peer < c.rank peer := by
  have accepted := (talks.process waiting processes).1.trans isOpen
  have before : c.work peer = 2 * (rest.length + 1 + (c.down.map peer.answers).sum) := by
    simp [work,waiting,isIdle]
  -- One reply less and at most a message in the thread.
  have less : ∀ {c' : Conn}, c'.stage = c.stage → c'.up = rest → c'.down = c.down → c'.rank peer < c.rank peer := by
    intro c' sameStage isRest sameDown
    refine rank_lt_iff.mpr (.inr ⟨sameStage,.inl ?_⟩)
    rw [before,work,isRest,sameDown]
    split <;> omega
  cases processes with
  | refused unexpected => cases accepted
  | greeted isStart =>
    refine .inr (rank_lt_iff.mpr (.inl ?_))
    simp [stage,write,show c.hsState = .start from isStart]
  | identified isHello =>
    refine .inr (rank_lt_iff.mpr (.inl ?_))
    simp [stage,show c.hsState = .hello from isHello]
  | echoed =>
    refine .inr (rank_lt_iff.mpr (.inr ⟨rfl,.inl ?_⟩))
    rw [work_write peer _ (by simp [Peer.answers,Peer.processControllerMsg]),before,work]
    simp [isIdle]
  | renamed notHello => exact absurd (expected_cons (talks.first waiting rfl).1).1 notHello
  | completed => exact .inl rfl
  | finished => exact .inl rfl
  | unasked => cases accepted
  | mismatched => cases accepted
  | _ => exact .inr (less rfl rfl rfl)

end Conn

namespace Core
variable {setup : Setup} {core core' : Core} {e : Event}

theorem Does.count (does : Does setup core e core') : core.count ≤ core'.count := by
  cases does with
  | connected => exact Nat.le_succ _
  | _ => exact le_rfl

/-- A step of the connection alone. -/
def Own (i : Nat) (e : Event) : Prop := e = .agent i ∨ e = .receive i ∨ e = .thread i 0 []

theorem Own.honest {i : Nat} (own : Own i e) : Honest e := by
  rcases own with rfl | rfl | rfl <;> trivial

/-- A connection that is open and talks. -/
structure Alive (setup : Setup) (i : Nat) (core : Core) : Prop where
  talking : Talking setup core
  inside : i < core.count
  isOpen : (core.conn i).channelOpen = true

section
variable {i : Nat} (alive : Alive setup i core)
include alive

theorem Alive.step (own : Own i e) (stepped : step setup core e = some core') (isOpen : (core'.conn i).channelOpen = true) :
    Alive setup i core' :=
  ⟨alive.talking.step (does_step stepped) own.honest,alive.inside.trans_le (does_step stepped).count,isOpen⟩

theorem Alive.agent {request : Request} {rest : List Request} (waiting : (core.conn i).down = request :: rest) :
    ∃ next, Core.step setup core (.agent i) = some next ∧ (next.conn i).channelOpen = true ∧
      (next.conn i).rank (setup.peer i) < (core.conn i).rank (setup.peer i) := by
  have stepped : Core.step setup core (.agent i) = some (core.setConn i { core.conn i with
      missSendLen := ((setup.peer i).processControllerMsg (core.conn i).missSendLen request).1
      down := rest
      up := (core.conn i).up ++ ((setup.peer i).processControllerMsg (core.conn i).missSendLen request).2 }) := by
    simp [Core.step,Event.about,alive.inside,Core.agent,waiting]
  refine ⟨_,stepped,by simpa using alive.isOpen,Conn.rank_lt_iff.mpr ?_⟩
  rw [conn_setConn,if_pos rfl]
  refine .inr ⟨rfl,.inr ⟨?_,by simp [waiting]⟩⟩
  simp only [Conn.work,waiting,List.length_append,Peer.length_replies,List.map_cons,List.sum_cons]
  omega

theorem Alive.receive {reply : Reply} {rest : List Reply} (isIdle : (core.conn i).thread = .idle)
    (waiting : (core.conn i).up = reply :: rest) :
    ∃ next, Core.step setup core (.receive i) = some next ∧ (next.conn i).channelOpen = true ∧
      ((next.conn i).hsState = .ready ∨ (next.conn i).rank (setup.peer i) < (core.conn i).rank (setup.peer i)) := by
  have talks := alive.talking.conns i
  have processes := Conn.processes { core.conn i with up := rest } reply
  have stepped : Core.step setup core (.receive i) = some (core.setConn i ({ core.conn i with up := rest }.processOFMessage reply)) := by
    simp [Core.step,Event.about,alive.inside,isIdle,waiting]
  refine ⟨_,stepped,?_⟩
  rw [conn_setConn,if_pos rfl]
  exact ⟨(talks.process waiting processes).1.trans alive.isOpen,Conn.rank_process talks alive.isOpen isIdle waiting processes⟩

end

end Core
end Handover.OpenFlow
