import Handover.Handshake
import Handover.Register

/-!
The active switches of a controller without a role. Each connection is in one place: not
yet added, active under the `dpid` of its agent, held by the thread that evicts it or by
its own that removes it, in the queue of updates, or told to `OFSwitchAP`. Steps move it
from place to place, and once nothing is left to do the active switches are exactly the
open connections.
-/
namespace Handover.OpenFlow

/-- The key of a connection: the `dpid` of its agent. -/
def Setup.key (setup : Setup) (i : Nat) : UInt64 := (setup.peer i).dpid

/-- What the thread of a connection holds: its own registration that is still to be made,
    that of a switch it evicts, or its own that it removes. -/
inductive Mark where
  | fresh
  | evicts (old : Nat)
  | reports
  | plain
deriving DecidableEq

/-- The switch that is evicted. -/
def Mark.old : Mark → Option Nat
  | .evicts old => some old
  | _ => none

def Thread.mark : Thread → Mark
  | .entering => .fresh
  | .clearing _ => .fresh
  | .putting _ => .fresh
  | .evicting old _ => .evicts old
  | .reporting _ => .reports
  | _ => .plain

def Conn.mark (c : Conn) : Mark := if c.hsState = .ready then c.thread.mark else .fresh

/-- Steps that a controller without a role does not come to, with agents of ours. -/
def Thread.strange : Thread → Bool
  | .considering => true
  | .unsupported => true
  | .clearing locked => !locked
  | .putting locked => !locked
  | .evicting _ locked => !locked
  | .closing _ locked => !locked
  | .adding locked => !locked
  | .removing ending => !ending
  | .reporting ending => !ending
  | _ => false

/-- The steps inside `synchronized(roleChanger)`. -/
def Thread.locks : Thread → Bool
  | .clearing _ => true
  | .putting _ => true
  | .evicting _ _ => true
  | .closing _ _ => true
  | .adding _ => true
  | _ => false

/-- The steps of `channelDisconnected`. -/
def Thread.closes : Thread → Bool
  | .removing _ => true
  | .reporting _ => true
  | .leaving => true
  | .disconnecting => true
  | _ => false

namespace Core
variable {setup : Setup} {core core' : Core} {e : Event}

/-- The events of a site without roles and with agents of ours only, whose messages are
    all read as they are sent, and where `channelDisconnected` is not called while the
    thread of the connection is at work. -/
def plain : Event → Bool
  | .sends _ msg => msg.readWhole
  | .injects _ _ => false
  | .setRole _ _ => false
  | .interrupts _ => false
  | _ => true

theorem honest_of_plain (isPlain : plain e = true) : Honest e := by
  cases e with
  | sends i msg => exact isPlain
  | injects i reply => cases isPlain
  | _ => trivial

theorem notSet_of_plain (isPlain : plain e = true) (role : Role) (now : Int) : e ≠ .setRole role now := by
  rintro rfl
  cases isPlain

/-! ### The threads -/

/-- The threads of a controller without a role: one is in the lock at a time, and
    `channelDisconnected` is called of closed channels. -/
structure Calm (core : Core) : Prop where
  usual : ∀ i, (core.conn i).thread.strange = false
  locks : ∀ i, (core.conn i).thread.locks = true → core.lock = some i
  closes : ∀ i, (core.conn i).thread.closes = true → (core.conn i).channelOpen = false ∧ (core.conn i).disconnected = true

theorem calm_init : Calm (init setup) :=
  ⟨fun _ => rfl,fun _ locks => by simp [init,Conn.create,Thread.locks] at locks,
    fun _ closes => by simp [init,Conn.create,Thread.closes] at closes⟩

/-- Of a connection without roles no role reply is on its way. -/
theorem not_roleReply {dpid : UInt64} {c : Conn} {reply : Reply} {rest : List Reply} (talks : c.Talks dpid)
    (roleless : Roleless c) (waiting : c.up = reply :: rest) (xid nxRole : UInt32) : reply ≠ .roleReply xid nxRole := by
  rintro rfl
  obtain ⟨_,head,_,pending,_⟩ := Conn.expected_cons (talks.first waiting rfl).1
  rw [roleless.pending] at pending
  cases pending

theorem Goes.usual {thread next : Thread} (goes : Goes thread next) (usual : thread.strange = false) :
    next.strange = false := by
  cases goes with
  | tolerated => cases usual
  | reported disconnecting => cases disconnecting <;> rfl
  | _ => first | rfl | exact usual

theorem Goes.closes {thread next : Thread} (goes : Goes thread next) (closes : next.closes = true) :
    thread.closes = true := by
  cases goes <;> first | rfl | cases closes

/-- What a step of the connection alone leaves as it is: the thread may go on, but holds
    what it held. -/
structure Kept (c c' : Conn) : Prop where
  usual : c'.thread.strange = false
  locks : c'.thread.locks = true → c.thread.locks = true
  closes : c'.thread.closes = true → c'.channelOpen = false ∧ c'.disconnected = true
  mark : c'.mark = c.mark

theorem mark_of_thread {c : Conn} {thread : Thread} (same : thread.mark = c.thread.mark) :
    ({ c with thread := thread } : Conn).mark = c.mark := by
  simp [Conn.mark,same]

theorem mark_unready {c : Conn} (notReady : c.hsState ≠ .ready) : c.mark = .fresh := if_neg notReady

theorem kept_process {dpid : UInt64} {c c' : Conn} {reply : Reply} {rest : List Reply} (talks : c.Talks dpid)
    (roleless : Roleless c) (isIdle : c.thread = .idle) (waiting : c.up = reply :: rest)
    (processes : ({ c with up := rest } : Conn).Processes reply c') : Kept c c' := by
  have noRole := not_roleReply talks roleless waiting
  -- The thread stays idle but for the last reply of the handshake and a message of a station.
  have same : ∀ {c' : Conn}, c'.thread = c.thread → c'.mark = c.mark → Kept c c' := by
    intro c' isThread isMark
    refine ⟨by rw [isThread,isIdle]; rfl,fun locks => isThread ▸ locks,fun closes => ?_,isMark⟩
    rw [isThread,isIdle] at closes
    cases closes
  have enters : ∀ {c' : Conn}, c'.thread = .entering → c'.hsState = .ready → c.hsState = .featuresReply → Kept c c' := by
    intro c' isThread isReady isFeatures
    refine ⟨by rw [isThread]; rfl,fun locks => ?_,fun closes => ?_,?_⟩
    · rw [isThread] at locks
      cases locks
    · rw [isThread] at closes
      cases closes
    · rw [mark_unready (c := c) (by simp [isFeatures]),Conn.mark,if_pos isReady,isThread]
      rfl
  cases processes with
  | refused unexpected => exact absurd unexpected (talks.not_unexpected waiting)
  | greeted isStart =>
    refine same rfl ?_
    rw [mark_unready (c := c) (by simp [show c.hsState = .start from isStart])]
    exact mark_unready (by simp [Conn.write])
  | identified isHello =>
    refine same rfl ?_
    rw [mark_unready (c := c) (by simp [show c.hsState = .hello from isHello])]
    exact mark_unready (by simp)
  | completed isFeatures => exact enters rfl rfl isFeatures
  | finished expected isFeatures => exact enters rfl rfl isFeatures
  | unasked => exact absurd rfl (noRole _ _)
  | mismatched => exact absurd rfl (noRole _ _)
  | agreed => exact absurd rfl (noRole _ _)
  | declined => exact absurd (waiting ▸ List.mem_cons_self) (talks.noErrors _ _)
  | taken =>
    exact ⟨rfl,fun locks => by simp [Thread.locks] at locks,fun closes => by simp [Thread.closes] at closes,
      mark_of_thread (c := { c with up := rest }) (by rw [isIdle]; rfl)⟩
  | _ => exact same rfl rfl

/-- The changes of a connection that is reported only while it is connected. -/
theorem Changes.kept {j : Nat} {c : Conn} (changes : Changes setup core e j c) (isPlain : plain e = true) (calm : Calm core)
    (talking : Talking setup core) (noRoles : NoRoles core)
    (reported : (core.conn j).mark = .reports → (core.conn j).connected = true) : Kept (core.conn j) c := by
  have talks := talking.conns j
  have usual := calm.usual j
  have closes := calm.closes j
  cases changes with
  | injected => cases isPlain
  | interrupted => cases isPlain
  | received isIdle waiting => exact kept_process talks (noRoles.conns j) isIdle waiting (Conn.processes _ _)
  | broken => exact ⟨usual,id,fun ends => ⟨rfl,(closes ends).2⟩,rfl⟩
  | disconnected isClosed first isIdle =>
    by_cases isReady : (core.conn j).hsState = .ready
    · rw [Conn.channelDisconnected,if_pos isReady]
      exact ⟨rfl,fun locks => by simp [Thread.locks] at locks,fun _ => ⟨isClosed,rfl⟩,
        by simp [Conn.mark,isReady,isIdle,Thread.mark]⟩
    · rw [Conn.channelDisconnected,if_neg isReady]
      exact ⟨usual,id,fun ends => ⟨isClosed,rfl⟩,rfl⟩
  | ignored isThread deaf =>
    exact ⟨rfl,fun locks => by simp [Thread.locks] at locks,fun ends => by simp [Thread.closes] at ends,
      mark_of_thread (by rw [isThread]; rfl)⟩
  | cleared isThread =>
    rw [isThread] at usual
    exact ⟨usual,fun _ => by rw [isThread]; rfl,fun ends => by simp [Thread.closes] at ends,
      mark_of_thread (c := (core.conn j).write _) (by rw [show ((core.conn j).write _).thread = _ from isThread]; rfl)⟩
  | considered isThread isId => rw [isThread] at usual; cases usual
  | refused isThread isSlave => rw [isThread] at usual; cases usual
  | thrown isThread noId =>
    have isReady : (core.conn j).hsState = .ready := by
      rcases isThread with isThread | ⟨_,isThread⟩ <;>
        exact talks.ready isThread rfl
    exact absurd ((talks.isId isReady).symm.trans noId) (by simp)
  | @notFound _ _ _ disconnecting dpid isThread isId apart =>
    rw [isThread] at usual
    cases disconnecting with
    | false => cases usual
    | true =>
      exact ⟨rfl,fun locks => by simp [afterRemoval,Thread.locks] at locks,fun _ => closes (by rw [isThread]; rfl),
        mark_of_thread (by rw [isThread]; rfl)⟩
  | unreported isThread evicted =>
    have isReady := talks.ready isThread rfl
    have isConnected := reported (by simp [Conn.mark,isReady,isThread,Thread.mark])
    exact absurd (isConnected.symm.trans evicted) (by simp)
  | ended isThread =>
    exact ⟨rfl,fun locks => by simp [Thread.locks] at locks,fun ends => by simp [Thread.closes] at ends,
      mark_of_thread (c := { core.conn j with connected := false }) (by rw [isThread]; rfl)⟩
  | _ => exact ⟨usual,id,closes,rfl⟩

/-! ### The register -/

def Update.removedId : Update → Option Nat
  | .removed i => some i
  | .added _ => none

def removedId : Controller.Event → Option Nat
  | .removedSwitch sw => some sw.id
  | _ => none

/-- The registrations, as the threads, the queue and `OFSwitchAP` have them. -/
def register (core : Core) : Register UInt64 Nat where
  fresh i := decide ((core.conn i).mark = .fresh)
  active := core.activeSwitches
  replaced := core.lock.bind (fun h => (core.conn h).mark.old)
  leaving i := decide ((core.conn i).mark = .reports)
  queued := core.updates.filterMap Update.removedId
  told := core.told.filterMap removedId

/-- A step that moves no registration. -/
theorem register_congr (marks : ∀ j, (core'.conn j).mark = (core.conn j).mark)
    (active : core'.activeSwitches = core.activeSwitches)
    (replaced : core'.lock = core.lock ∨ core'.register.replaced = none ∧ core.register.replaced = none)
    (queued : core'.register.queued = core.register.queued) (told : core'.register.told = core.register.told) :
    core'.register = core.register := by
  refine Register.ext ?_ active ?_ ?_ queued told
  · funext j
    simp [register,marks]
  · rcases replaced with same | ⟨after,before⟩
    · simp only [register,same,marks]
    · rw [after,before]
  · funext j
    simp [register,marks]

/-- What the thread of one connection holds has changed. -/
structure Turned (core core' : Core) (i : Nat) (mark : Mark) : Prop where
  here : (core'.conn i).mark = mark
  others : ∀ j, j ≠ i → (core'.conn j).mark = (core.conn j).mark

theorem turned_goTo {i : Nat} {thread : Thread} (isReady : (core.conn i).hsState = .ready) (conns : core'.conn = (core.goTo i thread).conn) :
    Turned core core' i thread.mark := by
  refine ⟨?_,fun j other => ?_⟩
  · rw [conns,conn_goTo,if_pos rfl,Conn.mark,if_pos isReady]
  · rw [conns,conn_goTo,if_neg other]

theorem Turned.fresh {i : Nat} {mark : Mark} (turned : Turned core core' i mark) :
    core'.register.fresh = Function.update core.register.fresh i (decide (mark = .fresh)) := by
  funext j
  by_cases same : j = i
  · subst same
    simp [register,turned.here]
  · simp [register,same,turned.others j same]

theorem Turned.leaving {i : Nat} {mark : Mark} (turned : Turned core core' i mark) :
    core'.register.leaving = Function.update core.register.leaving i (decide (mark = .reports)) := by
  funext j
  by_cases same : j = i
  · subst same
    simp [register,turned.here]
  · simp [register,same,turned.others j same]

/-- A thread that neither evicts nor goes on to evict changes nothing about who is replaced. -/
theorem Turned.replaced {i : Nat} {mark : Mark} (turned : Turned core core' i mark) (lock : core'.lock = core.lock)
    (before : (core.conn i).mark.old = none) (after : mark.old = none) :
    core'.register.replaced = core.register.replaced := by
  change core'.lock.bind _ = core.lock.bind _
  rw [lock]
  cases core.lock with
  | none => rfl
  | some h =>
    by_cases same : h = i
    · subst same
      rw [Option.bind_some,Option.bind_some,turned.here,before,after]
    · rw [Option.bind_some,Option.bind_some,turned.others h same]

theorem mark_posted (c : Conn) (requests : List Request) : (c.write requests).mark = c.mark := rfl

theorem mark_setConn {i : Nat} {c : Conn} (same : c.mark = (core.conn i).mark) (j : Nat) :
    ((core.setConn i c).conn j).mark = (core.conn j).mark := field_setConn Conn.mark rfl fun isHere => isHere ▸ same

/-- The thread goes on and holds what it held. -/
theorem mark_goTo {i : Nat} {thread : Thread} (same : thread.mark = (core.conn i).thread.mark) (j : Nat) :
    ((core.goTo i thread).conn j).mark = (core.conn j).mark := mark_setConn (mark_of_thread same) j

/-- The entries of a thread that holds no registration of its own afterwards, or before. -/
theorem Turned.same_leaving {i : Nat} {mark : Mark} (turned : Turned core core' i mark) (before : (core.conn i).mark ≠ .reports)
    (after : mark ≠ .reports) : core'.register.leaving = core.register.leaving := by
  rw [turned.leaving,Function.update_eq_self_iff]
  simp [register,before,after]

theorem Turned.same_fresh {i : Nat} {mark : Mark} (turned : Turned core core' i mark) (before : (core.conn i).mark ≠ .fresh)
    (after : mark ≠ .fresh) : core'.register.fresh = core.register.fresh := by
  rw [turned.fresh,Function.update_eq_self_iff]
  simp [register,before,after]

section
variable {i : Nat} {thread : Thread} (isThread : (core.conn i).thread = thread) (isReady : (core.conn i).hsState = .ready)
include isThread isReady

theorem mark_ready : (core.conn i).mark = thread.mark := by
  rw [Conn.mark,if_pos isReady,isThread]

theorem register_put (isFresh : thread.mark = .fresh) (isNew : core.activeSwitches (setup.key i) = none) (next : Thread)
    (isPlain : next.mark = .plain) :
    Register.Step setup.key core.register ({ core.goTo i next with
      activeSwitches := Function.update core.activeSwitches (setup.key i) (some i) } : Core).register := by
  have isMark := mark_ready isThread isReady
  rw [isFresh] at isMark
  have turned : Turned core ({ core.goTo i next with
      activeSwitches := Function.update core.activeSwitches (setup.key i) (some i) } : Core) i next.mark :=
    turned_goTo isReady rfl
  rw [isPlain] at turned
  have steps : Register.Step setup.key core.register _ := .put (i := i) (by simp [register,isMark]) isNew
  convert steps using 1
  exact Register.ext turned.fresh rfl (turned.replaced rfl (by rw [isMark]; rfl) rfl)
    (turned.same_leaving (by simp [isMark]) (by simp)) rfl rfl

theorem register_replace (isFresh : thread.mark = .fresh) (isLock : core.lock = some i) {old : Nat}
    (isActive : core.activeSwitches (setup.key i) = some old) (next : Thread) (evicts : next.mark = .evicts old) :
    Register.Step setup.key core.register ({ core.goTo i next with
      activeSwitches := Function.update core.activeSwitches (setup.key i) (some i) } : Core).register := by
  have isMark := mark_ready isThread isReady
  rw [isFresh] at isMark
  have turned : Turned core ({ core.goTo i next with
      activeSwitches := Function.update core.activeSwitches (setup.key i) (some i) } : Core) i next.mark :=
    turned_goTo isReady rfl
  rw [evicts] at turned
  have none_ : core.register.replaced = none := by
    simp [register,isLock,isMark,Mark.old]
  have steps : Register.Step setup.key core.register _ := .replace (i := i) (by simp [register,isMark])
    isActive none_
  convert steps using 1
  refine Register.ext turned.fresh rfl ?_ (turned.same_leaving (by simp [isMark]) (by simp)) rfl rfl
  change core.lock.bind _ = some old
  rw [isLock,Option.bind_some,turned.here]
  rfl

theorem register_remove (isPlain : thread.mark = .plain) (isActive : core.activeSwitches (setup.key i) = some i)
    (next : Thread) (reports : next.mark = .reports) :
    Register.Step setup.key core.register ({ core.goTo i next with
      activeSwitches := Function.update core.activeSwitches (setup.key i) none } : Core).register := by
  have isMark := mark_ready isThread isReady
  rw [isPlain] at isMark
  have turned : Turned core ({ core.goTo i next with
      activeSwitches := Function.update core.activeSwitches (setup.key i) none } : Core) i next.mark :=
    turned_goTo isReady rfl
  rw [reports] at turned
  have steps : Register.Step setup.key core.register _ := .remove (i := i) isActive
  convert steps using 1
  exact Register.ext (turned.same_fresh (by simp [isMark]) (by simp)) rfl (turned.replaced rfl (by rw [isMark]; rfl) rfl)
    turned.leaving rfl rfl

theorem register_report (reports : thread.mark = .reports) (next : Thread) (isPlain : next.mark = .plain) :
    Register.Step setup.key core.register ({ core.goTo i next with
      updates := core.updates ++ [.removed i] } : Core).register := by
  have isMark := mark_ready isThread isReady
  rw [reports] at isMark
  have turned : Turned core ({ core.goTo i next with updates := core.updates ++ [.removed i] } : Core) i next.mark :=
    turned_goTo isReady rfl
  rw [isPlain] at turned
  have steps : Register.Step setup.key core.register _ := .report (i := i) (by simp [register,isMark])
  convert steps using 1
  refine Register.ext (turned.same_fresh (by simp [isMark]) (by simp)) rfl (turned.replaced rfl (by rw [isMark]; rfl) rfl)
    turned.leaving ?_ rfl
  simp [register,Update.removedId]

theorem register_evict {old : Nat} (evicts : thread.mark = .evicts old) (isLock : core.lock = some i) (next : Thread)
    (isPlain : next.mark = .plain) :
    Register.Step setup.key core.register
      (((core.setConn old { core.conn old with connected := false }).goTo i next).tell
        (.removedSwitch (setup.sw old))).register := by
  have isMark := mark_ready isThread isReady
  rw [evicts] at isMark
  have turned : Turned core (((core.setConn old { core.conn old with connected := false }).goTo i next).tell
      (.removedSwitch (setup.sw old))) i .plain := by
    refine ⟨?_,fun j apart => ?_⟩
    · change (((core.setConn old _).goTo i next).conn i).mark = _
      rw [conn_goTo,if_pos rfl,← isPlain,Conn.mark,if_pos]
      rw [conn_setConn]
      split
      · rename_i same
        subst same
        exact isReady
      · exact isReady
    · change (((core.setConn old _).goTo i next).conn j).mark = _
      rw [conn_goTo,if_neg apart]
      exact mark_setConn (c := { core.conn old with connected := false }) rfl j
  have steps : Register.Step setup.key core.register _ := .evict
    (show core.register.replaced = some old by simp [register,isLock,isMark,Mark.old])
  convert steps using 1
  refine Register.ext (turned.same_fresh (by simp [isMark]) (by simp)) rfl ?_
    (turned.same_leaving (by simp [isMark]) (by simp)) rfl ?_
  · change core.lock.bind _ = none
    rw [isLock,Option.bind_some,turned.here]
    rfl
  · simp [register,tell,goTo,setConn,removedId,Setup.sw]

end

/-- Every step of the controller is a step of its register, or none. -/
theorem Does.register (does : Does setup core e core') (isPlain : plain e = true)
    (calm : Calm core) (talking : Talking setup core) (noRoles : NoRoles core) (exactly : core.register.Exact setup.key)
    (reported : ∀ i, (core.conn i).mark = .reports → (core.conn i).connected = true) :
    core'.register = core.register ∨ Register.Step setup.key core.register core'.register := by
  have ready : ∀ {i : Nat} {thread : Thread}, (core.conn i).thread = thread → thread.handles = true →
      (core.conn i).hsState = .ready := (talking.conns _).ready
  have isKey : ∀ {i : Nat} {dpid : UInt64}, (core.conn i).hsState = .ready → (core.conn i).datapathId = some dpid →
      dpid = setup.key i := fun isReady isId => Option.some.inj (isId.symm.trans ((talking.conns _).isId isReady))
  have lockedBy : ∀ {i : Nat} {thread : Thread}, (core.conn i).thread = thread → thread.locks = true → core.lock = some i :=
    fun isThread locks => calm.locks _ (by rw [isThread]; exact locks)
  have usual : ∀ {i : Nat} {thread : Thread}, (core.conn i).thread = thread → thread.strange = false :=
    fun isThread => isThread ▸ calm.usual _
  cases does with
  | connected => exact .inl rfl
  | @changed _ i c inside changes =>
    exact .inl (register_congr (mark_setConn (changes.kept isPlain calm talking noRoles (reported i)).mark) rfl (.inl rfl) rfl
      rfl)
  | dispatched inside isThread listens =>
    refine .inl (register_congr (mark_goTo (by rw [isThread]; rfl)) rfl (.inl rfl) rfl ?_)
    simp [Core.register,tell,goTo,setConn,removedId]
  | submitted inside isThread isFree isRole => rw [noRoles.role] at isRole; cases isRole
  | @entered i now failing inside isThread isFree noRole =>
    have isReady := ready isThread rfl
    refine .inl (register_congr (fun j => ?_) rfl (.inr ⟨?_,?_⟩) rfl rfl)
    · change ((core.setConn i _).conn j).mark = _
      rw [conn_setConn]
      split
      · rename_i same
        subst same
        exact mark_of_thread (c := { core.conn j with firstRoleReplyReceived := true }) (by rw [isThread]; rfl)
      · rfl
    · change (((core.setConn i _).conn i).mark).old = none
      rw [conn_setConn,if_pos rfl,Conn.mark,if_pos isReady]
      rfl
    · change core.lock.bind _ = none
      rw [isFree]
      rfl
  | failed inside isThread noId =>
    exact absurd (((talking.conns _).isId (ready isThread rfl)).symm.trans noId) (by simp)
  | put inside isThread isId isNew =>
    have isReady := ready isThread rfl
    cases isKey isReady isId
    exact .inr (register_put isThread isReady rfl isNew _ rfl)
  | @putAgain i _ _ _ _ inside isThread isId isActive =>
    have isReady := ready isThread rfl
    cases isKey isReady isId
    have isFresh : core.register.fresh i = true := by
      simp [Core.register,mark_ready isThread isReady,Thread.mark]
    exact absurd isActive (exactly.of_fresh isFresh).1
  | replaced inside isThread isId isActive apart =>
    have isReady := ready isThread rfl
    cases isKey isReady isId
    exact .inr (register_replace isThread isReady rfl (lockedBy isThread rfl) isActive _ rfl)
  | evicted inside isThread =>
    exact .inr (register_evict isThread (ready isThread rfl) rfl (lockedBy isThread rfl) _ rfl)
  | @closed i now failing old locked inside isThread =>
    refine .inl (register_congr (fun j => ?_) rfl (.inl rfl) rfl rfl)
    have same : ((core.setConn old (core.conn old).close).conn i).thread = (core.conn i).thread := by
      rw [conn_setConn]
      split
      · rename_i itself
        subst itself
        rfl
      · rfl
    exact (mark_goTo (by rw [same,isThread]; rfl) j).trans (mark_setConn (c := (core.conn old).close) rfl j)
  | @posted i msg inside =>
    exact .inl (register_congr (mark_setConn (mark_posted (core.conn i) _)) rfl (.inl rfl) rfl rfl)
  | interrupted => cases isPlain
  | @added i now failing locked inside isThread =>
    have isReady := ready isThread rfl
    have isLock := lockedBy isThread rfl
    have isLocked : locked = true := by simpa [Thread.strange] using usual isThread
    subst isLocked
    refine .inl (register_congr (mark_goTo (by rw [isThread]; rfl)) rfl (.inr ⟨rfl,?_⟩) ?_ rfl)
    · simp [Core.register,isLock,mark_ready isThread isReady,Thread.mark,Mark.old]
    · simp [Core.register,finish,goTo,setConn,Update.removedId]
  | tolerated inside isThread isFree notSlave => exact absurd (usual isThread) (by simp [Thread.strange])
  | removed inside isThread isId isActive =>
    have isReady := ready isThread rfl
    cases isKey isReady isId
    exact .inr (register_remove isThread isReady rfl isActive _ rfl)
  | @reported i now failing disconnecting inside isThread isConnected =>
    have isReady := ready isThread rfl
    exact .inr (register_report isThread isReady rfl _ (by cases disconnecting <;> rfl))
  | left inside isThread isFree =>
    exact .inl (register_congr (mark_goTo (by rw [isThread]; rfl)) rfl (.inl rfl) rfl rfl)
  | toldAdded isNext =>
    refine .inl (register_congr (fun j => rfl) rfl (.inl rfl) ?_ rfl)
    simp only [Core.register,isNext]
    rfl
  | @toldRemoved i rest isNext =>
    have steps : Register.Step setup.key core.register _ :=
      .tell (show core.register.queued = i :: rest.filterMap Update.removedId by
        simp [Core.register,isNext,Update.removedId])
    refine .inr ?_
    convert steps using 1
    refine Register.ext rfl rfl rfl rfl rfl ?_
    simp [Core.register,tell,removedId,Setup.sw]
  | kept same => cases isPlain
  | roleSet isFree apart => cases isPlain
  | taken isFree isTask => rw [noRoles.tasks] at isTask; simp at isTask
  | visited isTask visits => rw [noRoles.worker] at isTask; cases isTask
  | worked isTask isTimeout => rw [noRoles.worker] at isTask; cases isTask
  | scheduled isTask isRequest => rw [noRoles.worker] at isTask; cases isTask
  | rehashed => exact .inl (register_congr (fun j => rfl) rfl (.inl rfl) rfl (by simp [Core.register,tell,removedId]))

/-! ### Steps of the whole controller -/

theorem open_process {c c' : Conn} {reply : Reply} (processes : c.Processes reply c') (isOpen : c'.channelOpen = true) :
    c.channelOpen = true := by
  cases processes with
  | refused => cases isOpen
  | unasked => cases isOpen
  | mismatched => cases isOpen
  | _ => exact isOpen

theorem closes_process {c c' : Conn} {reply : Reply} (isIdle : c.thread = .idle) (processes : c.Processes reply c') :
    c'.thread.closes = false := by
  have stays : c.thread.closes = false := by rw [isIdle]; rfl
  cases processes <;> first | rfl | exact stays

/-- A closed channel stays closed. -/
theorem Does.opens (does : Does setup core e core') {j : Nat} (isOpen : (core'.conn j).channelOpen = true) :
    (core.conn j).channelOpen = true := by
  obtain ⟨c,posts,moves,isConn⟩ := does.moves j
  rw [isConn] at isOpen
  cases moves with
  | changed changes =>
    cases changes with
    | @received _ reply rest isIdle waiting =>
      have before : ({ core.conn j with up := rest } : Conn).channelOpen = true := open_process (Conn.processes _ reply) isOpen
      exact before
    | broken => cases isOpen
    | refused => cases isOpen
    | thrown => cases isOpen
    | _ => exact isOpen
  | failed isThread noId => cases isOpen
  | closed isThread goes => cases isOpen
  | visited isTask visits =>
    cases visits with
    | dismissed => cases isOpen
    | expired => cases isOpen
    | _ => exact isOpen
  | _ => exact isOpen

/-- A controller without a role whose switches are agents of ours. -/
structure Steady (setup : Setup) (core : Core) : Prop where
  noRoles : NoRoles core
  talking : Talking setup core
  calm : Calm core
  exactly : core.register.Exact setup.key
  departed : ∀ i, Silent (core.conn i) → core.register.Departed setup.key i
  closed : ∀ i, i ∈ core.register.queued ∨ i ∈ core.register.told →
    (core.conn i).channelOpen = false ∨ ∃ h locked, (core.conn h).thread = .closing i locked

theorem steady_init (noRole : setup.role = none) : Steady setup (init setup) where
  noRoles := noRoles_init noRole
  talking := talking_init
  calm := calm_init
  exactly := ⟨by simp [init,register],fun i => by simp [init,register,Register.places,Conn.mark,Conn.create]⟩
  departed i silent := by simp [init,Silent,Conn.create] at silent
  closed i gone := by simp [init,register] at gone

section
variable (steady : Steady setup core)
include steady

theorem Steady.reported (i : Nat) (reports : (core.conn i).mark = .reports) : (core.conn i).connected = true := by
  by_contra lost
  have departed := steady.departed i (.inl (by simpa using lost))
  have stays := departed.leaving
  simp [register,reports] at stays

theorem Steady.kept {j : Nat} {c : Conn} (changes : Changes setup core e j c) (isPlain : plain e = true) : Kept (core.conn j) c :=
  changes.kept isPlain steady.calm steady.talking steady.noRoles (steady.reported j)

theorem Steady.usual (does : Does setup core e core') (isPlain : plain e = true) (j : Nat) :
    (core'.conn j).thread.strange = false := by
  have usual := steady.calm.usual j
  obtain ⟨c,posts,moves,isConn⟩ := does.moves j
  rw [isConn]
  change c.thread.strange = false
  cases moves with
  | stays => exact usual
  | changed changes => exact (steady.kept changes isPlain).usual
  | goes goes => exact goes.usual usual
  | entered isThread => rfl
  | failed isThread noId => rfl
  | evicted isThread goes =>
    rcases goes with rfl | goes
    · exact usual
    · exact goes.usual usual
  | closed isThread goes =>
    rcases goes with rfl | ⟨isClosing,rfl⟩
    · exact usual
    · rwa [isClosing] at usual
  | interrupted isEvent => rw [isEvent] at isPlain; cases isPlain
  | visited isTask visits => rw [steady.noRoles.worker] at isTask; cases isTask

theorem Steady.closes (does : Does setup core e core') (isPlain : plain e = true) (j : Nat)
    (closes : (core'.conn j).thread.closes = true) :
    (core'.conn j).channelOpen = false ∧ (core'.conn j).disconnected = true := by
  have before := steady.calm.closes j
  obtain ⟨c,posts,moves,isConn⟩ := does.moves j
  rw [isConn] at closes ⊢
  change c.channelOpen = false ∧ c.disconnected = true
  cases moves with
  | stays => exact before closes
  | changed changes => exact (steady.kept changes isPlain).closes closes
  | goes goes => exact before (goes.closes closes)
  | entered isThread => cases closes
  | failed isThread noId => cases closes
  | evicted isThread goes =>
    rcases goes with rfl | goes
    · exact before closes
    · exact before (goes.closes closes)
  | closed isThread goes =>
    rcases goes with rfl | ⟨_,rfl⟩
    · exact ⟨rfl,(before closes).2⟩
    · cases closes
  | interrupted isEvent => rw [isEvent] at isPlain; cases isPlain
  | visited isTask visits => rw [steady.noRoles.worker] at isTask; cases isTask

/-- One thread at a time is in the lock. -/
theorem Steady.locks (does : Does setup core e core') (isPlain : plain e = true)
    (j : Nat) (locks : (core'.conn j).thread.locks = true) : core'.lock = some j := by
  have before := steady.calm.locks
  have goes : ∀ {i : Nat} {thread : Thread}, ((core.goTo i thread).conn j).thread.locks = true →
      (thread.locks = true → (core.conn i).thread.locks = true) → core.lock = some j := by
    intro i thread locks stays
    rw [conn_goTo] at locks
    split at locks
    · rename_i same
      subst same
      exact before j (stays locks)
    · exact before j locks
  have free : ∀ {i : Nat}, core.lock = some i → ((core.goTo i .idle).conn j).thread.locks = true → False := by
    intro i isLock locks
    rw [conn_goTo] at locks
    split at locks
    · cases locks
    · rename_i apart
      exact apart (Option.some.inj ((before j locks).symm.trans isLock))
  have lockedBy : ∀ {i : Nat} {thread : Thread}, (core.conn i).thread = thread → thread.locks = true → core.lock = some i :=
    fun isThread locks => before _ (by rw [isThread]; exact locks)
  have always : ∀ {i : Nat} {thread : Thread} {locked : Bool}, (core.conn i).thread = thread →
      thread = .adding locked ∨ thread = .putting locked → locked = true := by
    intro i thread locked isThread kinds
    have usual := steady.calm.usual i
    rw [isThread] at usual
    rcases kinds with rfl | rfl <;> simpa [Thread.strange] using usual
  cases does with
  | @changed _ i c inside changes =>
    rw [conn_setConn] at locks
    split at locks
    · rename_i same
      subst same
      exact before j ((steady.kept changes isPlain).locks locks)
    · exact before j locks
  | dispatched inside isThread listens => exact goes locks (by simp [Thread.locks])
  | submitted inside isThread isFree isRole => exact goes locks (by simp [Thread.locks])
  | @entered i now failing inside isThread isFree noRole =>
    change ((core.setConn i _).conn j).thread.locks = true at locks
    rw [conn_setConn] at locks
    split at locks
    · rename_i same
      subst same
      rfl
    · exact absurd (before j locks) (by simp [isFree])
  | failed inside isThread noId =>
    have isReady := (steady.talking.conns _).ready isThread rfl
    exact absurd (((steady.talking.conns _).isId isReady).symm.trans noId) (by simp)
  | put inside isThread isId isNew => exact goes locks (fun _ => by rw [isThread]; rfl)
  | putAgain inside isThread isId isActive => exact (free (lockedBy isThread rfl) locks).elim
  | replaced inside isThread isId isActive apart => exact goes locks (fun _ => by rw [isThread]; rfl)
  | @evicted i now failing old locked inside isThread =>
    change ((((core.setConn old _).goTo i _).conn j).thread).locks = true at locks
    rw [conn_goTo,conn_setConn,conn_setConn] at locks
    split at locks
    · rename_i same
      subst same
      exact lockedBy isThread rfl
    · split at locks
      · rename_i same
        subst same
        exact before j locks
      · exact before j locks
  | @closed i now failing old locked inside isThread =>
    rw [conn_goTo,conn_setConn,conn_setConn] at locks
    split at locks
    · rename_i same
      subst same
      exact lockedBy isThread rfl
    · split at locks
      · rename_i same
        subst same
        exact before j locks
      · exact before j locks
  | @posted i msg inside =>
    rw [conn_setConn] at locks
    split at locks
    · rename_i same
      subst same
      exact before j locks
    · exact before j locks
  | interrupted => cases isPlain
  | added inside isThread => exact (free (lockedBy isThread rfl) locks).elim
  | tolerated inside isThread isFree notSlave =>
    exact absurd (steady.calm.usual _) (by rw [isThread]; simp [Thread.strange])
  | removed inside isThread isId isActive => exact goes locks (by simp [Thread.locks])
  | @reported i now failing disconnecting inside isThread isConnected =>
    exact goes locks (by cases disconnecting <;> simp [afterRemoval,Thread.locks])
  | left inside isThread isFree => exact goes locks (by simp [Thread.locks])
  | kept same => cases isPlain
  | roleSet isFree apart => cases isPlain
  | visited isTask visits => rw [steady.noRoles.worker] at isTask; cases isTask
  | _ => exact before j locks

theorem Steady.register (does : Does setup core e core') (isPlain : plain e = true) :
    core'.register = core.register ∨ Register.Step setup.key core.register core'.register :=
  does.register isPlain steady.calm steady.talking steady.noRoles steady.exactly steady.reported

/-- A connection that is removed, or that another one evicts, has left the register. -/
theorem Steady.silent (does : Does setup core e core') (isPlain : plain e = true)
    (j : Nat) (silent : Silent (core'.conn j)) : core'.register.Departed setup.key j := by
  have registers := steady.register does isPlain
  have carries : core.register.Departed setup.key j → core'.register.Departed setup.key j := by
    intro departed
    rcases registers with same | steps
    · rwa [same]
    · exact departed.step steps
  by_cases before : Silent (core.conn j)
  · exact carries (steady.departed j before)
  have usual := steady.calm.usual j
  have talks := steady.talking.conns j
  have connected : (core.conn j).connected = true := by
    by_contra lost
    exact before (.inl (by simpa using lost))
  obtain ⟨c,posts,moves,isConn⟩ := does.moves j
  rw [isConn] at silent
  change Silent c at silent
  cases moves with
  | stays => exact absurd silent before
  | changed changes =>
    cases changes with
    | injected => cases isPlain
    | interrupted => cases isPlain
    | @received _ reply rest isIdle waiting =>
      rcases silent with lost | isLast
      · exact absurd ((connected_process (Conn.processes _ _)).symm.trans lost) (by simp [connected])
      · have stays := closes_process (c := { core.conn j with up := rest }) isIdle (Conn.processes _ reply)
        rcases isLast with isLast | isLast <;> rw [isLast] at stays <;> cases stays
    | disconnected isClosed first isIdle =>
      rcases silent with lost | isLast
      · exact absurd (.inl lost) before
      · revert isLast
        simp only [Conn.channelDisconnected]
        split <;> simp [isIdle]
    | ignored isThread deaf => exact absurd silent (by simp [Silent,connected])
    | cleared isThread => exact absurd silent (by simp [Silent,connected,Conn.write])
    | considered isThread isId => rw [isThread] at usual; cases usual
    | refused isThread isSlave => rw [isThread] at usual; cases usual
    | thrown isThread noId => exact absurd silent (by simp [Silent,connected,Conn.close])
    | notFound isThread isId other =>
      have isReady := talks.ready isThread rfl
      cases isId.symm.trans (talks.isId isReady)
      refine carries ⟨⟨?_,other⟩,?_⟩ <;> simp [Core.register,mark_ready isThread isReady,Thread.mark]
    | unreported isThread evicted => exact absurd (.inl evicted) before
    | ended isThread => exact absurd (.inr (.inr isThread)) before
    | _ => exact absurd silent before
  | goes goes =>
    have isLast := silent.resolve_left (by simp [connected])
    generalize isThread : (core.conn j).thread = thread at goes
    cases goes with
    | reported ending =>
      have isReady := talks.ready isThread rfl
      have out := steady.exactly.out (show core.register.leaving j = true by
        simp [Core.register,mark_ready isThread isReady,Thread.mark])
      refine ⟨?_,?_⟩
      · rcases registers with same | steps
        · rwa [same]
        · exact out.step steps
      · simp only [Core.register,isConn,mark_posted]
        cases ending <;> simp [Conn.mark,isReady,afterRemoval,Thread.mark]
    | left => exact absurd (.inr (.inl isThread)) before
    | _ => simp at isLast
  | entered isThread => exact absurd silent (by simp [Silent,connected])
  | failed isThread noId => exact absurd silent (by simp [Silent,connected,Conn.close])
  | @evicted i locked next isThread goes =>
    have isReady := (steady.talking.conns i).ready isThread rfl
    have isLock := steady.calm.locks i (by rw [isThread]; rfl)
    refine carries (steady.exactly.departed (.inl ?_))
    simp [Core.register,isLock,mark_ready isThread isReady,Thread.mark,Mark.old]
  | closed isThread goes =>
    rcases goes with rfl | ⟨_,rfl⟩
    · exact absurd silent before
    · exact absurd silent (by simp [Silent,connected,Conn.close])
  | interrupted isEvent => rw [isEvent] at isPlain; cases isPlain
  | visited isTask visits => rw [steady.noRoles.worker] at isTask; cases isTask

end

/-- A switch is reported as gone by the thread of its closed channel, or by the one that
    closes it next. -/
theorem Does.newly_gone (does : Does setup core e core') (isPlain : plain e = true) {i : Nat}
    (gone : i ∈ core'.register.queued ∨ i ∈ core'.register.told) :
    (i ∈ core.register.queued ∨ i ∈ core.register.told) ∨ (∃ ending, (core.conn i).thread = .reporting ending) ∨
      ∃ h locked, (core'.conn h).thread = .closing i locked := by
  cases does with
  | dispatched inside isThread listens =>
    exact .inl (by simpa [Core.register,tell,goTo,setConn,removedId] using gone)
  | @evicted j now failing old locked inside isThread =>
    by_cases isOld : i = old
    · subst isOld
      refine .inr (.inr ⟨j,locked,?_⟩)
      change (((core.setConn i _).goTo j _).conn j).thread = _
      rw [conn_goTo,if_pos rfl]
    · refine .inl ?_
      simpa [Core.register,tell,goTo,setConn,removedId,Setup.sw,isOld] using gone
  | added inside isThread => exact .inl (by simpa [Core.register,finish,goTo,setConn,Update.removedId] using gone)
  | @reported j now failing ending inside isThread isConnected =>
    by_cases isHere : i = j
    · subst isHere
      exact .inr (.inl ⟨ending,isThread⟩)
    · refine .inl ?_
      simpa [Core.register,goTo,setConn,Update.removedId,isHere] using gone
  | interrupted => cases isPlain
  | toldAdded isNext =>
    refine .inl ?_
    simpa [Core.register,isNext,Update.removedId] using gone
  | @toldRemoved j rest isNext =>
    refine .inl ?_
    have same : (i ∈ rest.filterMap Update.removedId ∨ i ∈ core.told.filterMap removedId ∨ i = j) := by
      simpa [Core.register,tell,removedId,Setup.sw] using gone
    simp only [Core.register,isNext,Update.removedId,List.filterMap_cons,List.mem_cons]
    tauto
  | rehashed => exact .inl (by simpa [Core.register,tell,removedId] using gone)
  | _ => exact .inl gone

/-- The step that ends an eviction is the one that closes the channel. -/
theorem Does.closing (does : Does setup core e core') {h old : Nat} {locked : Bool}
    (isThread : (core.conn h).thread = .closing old locked) :
    (core'.conn h).thread = .closing old locked ∨ (core'.conn old).channelOpen = false := by
  by_cases own : ∃ now failing, e = .thread h now failing
  · obtain ⟨now,failing,rfl⟩ := own
    cases does with
    | closed inside wasThread =>
      cases wasThread.symm.trans isThread
      have isClosed : ((core.setConn old (core.conn old).close).conn old).channelOpen = false := by
        rw [conn_setConn,if_pos rfl]
        rfl
      exact .inr (field_setConn Conn.channelOpen isClosed fun isOld => isOld ▸ isClosed)
    | changed inside changes => cases changes <;> simp_all
    | _ => simp_all
  · exact .inl ((does.thread_eq (fun now failing isOwn => own ⟨now,failing,isOwn⟩) (by simp [isThread])).trans isThread)

theorem Steady.step (steady : Steady setup core) (does : Does setup core e core') (isPlain : plain e = true) :
    Steady setup core' where
  noRoles := steady.noRoles.step does (notSet_of_plain isPlain)
  talking := steady.talking.step does (honest_of_plain isPlain)
  calm := ⟨steady.usual does isPlain,steady.locks does isPlain,steady.closes does isPlain⟩
  exactly := by
    rcases steady.register does isPlain with same | steps
    · rw [same]
      exact steady.exactly
    · exact steady.exactly.step steps
  departed := steady.silent does isPlain
  closed i gone := by
    have stays : (core.conn i).channelOpen = false → (core'.conn i).channelOpen = false := by
      intro wasClosed
      by_contra isOpen
      exact absurd (wasClosed.symm.trans (does.opens (by simpa using isOpen))) (by simp)
    rcases does.newly_gone isPlain gone with before | ⟨ending,isThread⟩ | isClosing
    · rcases steady.closed i before with wasClosed | ⟨h,locked,isThread⟩
      · exact .inl (stays wasClosed)
      · exact (does.closing isThread).symm.imp_right (fun isClosing => ⟨h,locked,isClosing⟩)
    · exact .inl (stays (steady.calm.closes i (by rw [isThread]; rfl)).1)
    · exact .inr isClosing

theorem steady_run {events : List Event} (noRole : setup.role = none) (allPlain : ∀ e ∈ events, plain e = true)
    (ran : Run.run (step setup) (init setup) events = some core) : Steady setup core :=
  Run.run_preserves
    (fun s e _ (isPlain : plain e = true) (kept : Steady setup s) stepped =>
      kept.step (does_step stepped) isPlain)
    (Run.steps_of_forall allPlain _) (steady_init noRole) ran

/-! ### Connections that are gone -/

/-- A connection is registered by its own thread. -/
theorem Does.inside_active (does : Does setup core e core') (inside : ∀ d i, core.activeSwitches d = some i → i < core.count)
    (d : UInt64) (i : Nat) (isActive : core'.activeSwitches d = some i) : i < core'.count := by
  have put : ∀ {j : Nat} {dpid : UInt64}, j < core.count → Function.update core.activeSwitches dpid (some j) d = some i →
      i < core.count := by
    intro j dpid isInside isActive
    by_cases isKey : d = dpid
    · subst isKey
      rw [Function.update_self] at isActive
      cases isActive
      exact isInside
    · rw [Function.update_of_ne isKey] at isActive
      exact inside d i isActive
  cases does with
  | connected => exact Nat.lt_succ_of_lt (inside d i isActive)
  | put isInside isThread isId isNew => exact put isInside isActive
  | replaced isInside isThread isId isFound other => exact put isInside isActive
  | @removed j _ _ _ dpid isInside isThread isId isFound =>
    change Function.update core.activeSwitches dpid none d = some i at isActive
    by_cases isKey : d = dpid
    · subst isKey
      rw [Function.update_self] at isActive
      cases isActive
    · rw [Function.update_of_ne isKey] at isActive
      exact inside d i isActive
  | @interrupted j dpid isInside isClosed first atWork isReady isId =>
    dsimp only at isActive
    split at isActive
    · by_cases isKey : d = dpid
      · subst isKey
        rw [Function.update_self] at isActive
        cases isActive
      · rw [Function.update_of_ne isKey] at isActive
        exact inside d i isActive
    · exact inside d i isActive
  | _ => exact inside d i isActive

theorem Does.inside (does : Does setup core e core') {i : Nat} (isAbout : e.about = some i) : i < core.count := by
  cases does with
  | changed inside changes =>
    cases changes <;> (cases isAbout; exact inside)
  | _ => first | (cases isAbout; assumption) | cases isAbout

/-- The connections that do not exist yet have no thread. -/
theorem Does.outside (does : Does setup core e core') {j : Nat} (outside : core.count ≤ j) :
    (core'.conn j).thread = (core.conn j).thread := by
  have apart : e.about ≠ some j := fun isAbout => absurd (does.inside isAbout) (by omega)
  exact does.thread_eq (fun now failing isOwn => apart (isOwn ▸ rfl)) (fun isAbout => absurd isAbout apart)

theorem disconnected_process {c c' : Conn} {reply : Reply} (processes : c.Processes reply c') :
    c'.disconnected = c.disconnected := by
  cases processes <;> rfl

/-- No message of a connection is handled after `channelDisconnected` was called for it,
    and it is not called while the thread of the connection is at work. -/
def timely (core : Core) : Event → Bool
  | .receive i => !(core.conn i).disconnected
  | .interrupts _ => false
  | _ => true

/-- Connections that are there, and connections that are gone: one of those is not
    registered any more, unless its thread is about to remove it. -/
structure Ended (setup : Setup) (core : Core) : Prop where
  inside : ∀ d i, core.activeSwitches d = some i → i < core.count
  outside : ∀ i, core.count ≤ i → (core.conn i).thread = .idle
  ended : ∀ i, (core.conn i).disconnected = true → (core.conn i).hsState ≠ .ready ∨
    (∃ ending, (core.conn i).thread = .removing ending) ∨ core.register.Out setup.key i

theorem ended_init : Ended setup (init setup) :=
  ⟨by simp [init],fun _ _ => rfl,fun i ends => by simp [init,Conn.create] at ends⟩

theorem Steady.ended (steady : Steady setup core) (before : Ended setup core) (does : Does setup core e core')
    (isPlain : plain e = true) (isTimely : timely core e = true) (j : Nat) (ends : (core'.conn j).disconnected = true) :
    (core'.conn j).hsState ≠ .ready ∨ (∃ ending, (core'.conn j).thread = .removing ending) ∨
      core'.register.Out setup.key j := by
  have carries : core.register.Out setup.key j → core'.register.Out setup.key j := by
    intro out
    rcases steady.register does isPlain with same | steps
    · rwa [same]
    · exact out.step steps
  -- A thread that was at something else, of a connection that went on.
  have goesOn : ∀ {hsState : HandshakeState} {thread : Thread}, (core.conn j).disconnected = true →
      hsState = (core.conn j).hsState → (∀ ending, (core.conn j).thread = .removing ending → thread = .removing ending) →
      hsState ≠ .ready ∨ (∃ ending, thread = .removing ending) ∨ core'.register.Out setup.key j := by
    intro hsState thread wasEnded same stays
    rcases before.ended j wasEnded with notReady | ⟨ending,isThread⟩ | out
    · exact .inl (same ▸ notReady)
    · exact .inr (.inl ⟨ending,stays ending isThread⟩)
    · exact .inr (.inr (carries out))
  have talks := steady.talking.conns j
  obtain ⟨c,posts,moves,isConn⟩ := does.moves j
  -- A thread that takes its connection out of the active switches.
  have goesTo : ∀ {next : Thread}, Goes (core.conn j).thread next → (core.conn j).disconnected = true →
      c.hsState = (core.conn j).hsState → c.thread = next →
      c.hsState ≠ .ready ∨ (∃ ending, c.thread = .removing ending) ∨ core'.register.Out setup.key j := by
    intro next goes wasEnded same isNext
    generalize isThread : (core.conn j).thread = thread at goes
    cases goes with
    | removed ending =>
      have isReady := talks.ready isThread rfl
      have isMark : c.mark = .reports := by rw [Conn.mark,if_pos (same.trans isReady),isNext]; rfl
      refine .inr (.inr ((steady.step does isPlain).exactly.out ?_))
      simp [Core.register,isConn,mark_posted,isMark]
    | _ => exact goesOn wasEnded same (by simp [isThread])
  rw [isConn] at ends ⊢
  change c.disconnected = true at ends
  change c.hsState ≠ .ready ∨ (∃ ending, c.thread = .removing ending) ∨ _
  cases moves with
  | stays => exact goesOn ends rfl (fun _ => id)
  | changed changes =>
    cases changes with
    | interrupted => cases isPlain
    | received isIdle waiting =>
      rw [disconnected_process (Conn.processes _ _)] at ends
      have inTime : (!(core.conn j).disconnected) = true := isTimely
      rw [show (core.conn j).disconnected = true from ends] at inTime
      cases inTime
    | disconnected isClosed first isIdle =>
      unfold Conn.channelDisconnected
      split
      · exact .inr (.inl ⟨true,rfl⟩)
      · rename_i notReady
        exact .inl notReady
    | ignored isThread deaf => exact goesOn ends rfl (by simp [isThread])
    | cleared isThread => exact goesOn ends rfl (by simp [isThread])
    | considered isThread isId => exact goesOn ends rfl (by simp [isThread])
    | refused isThread isSlave => exact goesOn ends rfl (by simp [isThread])
    | thrown isThread noId =>
      have isReady : (core.conn j).hsState = .ready := by
        rcases isThread with isThread | ⟨_,isThread⟩ <;>
          exact talks.ready isThread rfl
      exact absurd ((talks.isId isReady).symm.trans noId) (by simp)
    | notFound isThread isId other =>
      have isReady := talks.ready isThread rfl
      cases isId.symm.trans (talks.isId isReady)
      refine .inr (.inr (carries ⟨?_,other⟩))
      simp [Core.register,mark_ready isThread isReady,Thread.mark]
    | unreported isThread evicted => exact goesOn ends rfl (by simp [isThread])
    | ended isThread => exact goesOn ends rfl (by simp [isThread])
    | _ => exact goesOn ends rfl (fun _ => id)
  | goes goes => exact goesTo goes ends rfl rfl
  | entered isThread => exact goesOn ends rfl (by simp [isThread])
  | failed isThread noId => exact goesOn ends rfl (by simp [isThread])
  | evicted isThread goes =>
    rcases goes with rfl | goes
    · exact goesOn ends rfl (fun _ => id)
    · exact goesTo goes ends rfl rfl
  | closed isThread goes =>
    rcases goes with rfl | ⟨isClosing,rfl⟩
    · exact goesOn ends rfl (fun _ => id)
    · exact goesOn ends rfl (by simp [isClosing])
  | interrupted isEvent => rw [isEvent] at isPlain; cases isPlain
  | visited isTask visits => rw [steady.noRoles.worker] at isTask; cases isTask

theorem Ended.step (ended : Ended setup core) (steady : Steady setup core) (does : Does setup core e core')
    (isPlain : plain e = true) (isTimely : timely core e = true) : Ended setup core' where
  inside := does.inside_active ended.inside
  outside i isOutside := by
    have before := does.count.trans isOutside
    exact (does.outside before).trans (ended.outside i before)
  ended := steady.ended ended does isPlain isTimely

theorem ended_run {events : List Event} (noRole : setup.role = none) (allPlain : ∀ e ∈ events, plain e = true)
    (inTime : Run.Steps (step setup) (fun s e => timely s e = true) (init setup) events)
    (ran : Run.run (step setup) (init setup) events = some core) : Steady setup core ∧ Ended setup core :=
  Run.run_preserves
    (fun s e _ (meets : timely s e = true ∧ plain e = true) (kept : Steady setup s ∧ Ended setup s) stepped =>
      ⟨kept.1.step (does_step stepped) meets.2,
        kept.2.step kept.1 (does_step stepped) meets.2 meets.1⟩)
    (Run.steps_and inTime (Run.steps_of_forall allPlain _)) ⟨steady_init noRole,ended_init⟩ ran

/-! ### Nothing is left to do -/

/-- No thread is at work, no message is on its way, and every loss has been noticed. -/
structure Quiet (core : Core) : Prop where
  threads : ∀ i < core.count, (core.conn i).thread = .idle
  received : ∀ i < core.count, (core.conn i).channelOpen = true → (core.conn i).up = [] ∧ (core.conn i).down = []
  noticed : ∀ i < core.count, (core.conn i).channelOpen = false → (core.conn i).disconnected = true
  updates : core.updates = []

theorem quiet_iff : Quiet core ↔ (∀ i < core.count, (core.conn i).thread = .idle) ∧
    (∀ i < core.count, (core.conn i).channelOpen = true → (core.conn i).up = [] ∧ (core.conn i).down = []) ∧
    (∀ i < core.count, (core.conn i).channelOpen = false → (core.conn i).disconnected = true) ∧ core.updates = [] :=
  ⟨fun quiet => ⟨quiet.1,quiet.2,quiet.3,quiet.4⟩,fun ⟨threads,received,noticed,updates⟩ => ⟨threads,received,noticed,updates⟩⟩

instance : DecidablePred Quiet := fun _ => decidable_of_iff' _ quiet_iff

/-- Without threads and updates a connection is still to come, or active, or was told to
    be gone. -/
theorem Steady.idle (steady : Steady setup core) (threads : ∀ i, (core.conn i).thread = .idle) (updates : core.updates = [])
    (i : Nat) : (if (core.conn i).hsState = .ready then 0 else 1) +
      (if core.activeSwitches (setup.key i) = some i then 1 else 0) + (core.told.filterMap removedId).count i = 1 := by
  have isMark : ∀ j, (core.conn j).mark = if (core.conn j).hsState = .ready then .plain else .fresh := by
    intro j
    rw [Conn.mark,threads]
    rfl
  have noneReplaced : core.register.replaced = none := by
    change core.lock.bind _ = none
    cases core.lock with
    | none => rfl
    | some h =>
      rw [Option.bind_some,isMark]
      split <;> rfl
  have stays : core.register.leaving i = false := by
    simp only [Core.register,isMark]
    split <;> rfl
  have isFresh : (core.register.fresh i).toNat = if (core.conn i).hsState = .ready then 0 else 1 := by
    simp only [Core.register,isMark]
    split <;> rfl
  have one := steady.exactly.one i
  rw [Register.places,noneReplaced,stays,isFresh,show core.register.queued = [] by simp [Core.register,updates]] at one
  simp only [Core.register,reduceCtorEq,if_false,Bool.toNat_false,List.count_nil,add_zero] at one
  exact one

/-- The active switches and the reports, once nothing is left to do. -/
theorem Ended.settled (ended : Ended setup core) (steady : Steady setup core) (quiet : Quiet core) :
    (∀ d i, core.activeSwitches d = some i ↔ i < core.count ∧ setup.key i = d ∧ (core.conn i).channelOpen = true) ∧
      ∀ i < core.count, (core.told.filterMap removedId).count i =
        if (core.conn i).hsState = .ready ∧ (core.conn i).channelOpen = false then 1 else 0 := by
  have threads : ∀ i, (core.conn i).thread = .idle := by
    intro i
    by_cases inside : i < core.count
    · exact quiet.threads i inside
    · exact ended.outside i (by omega)
  have one := steady.idle threads quiet.updates
  have opened : ∀ i < core.count, (core.conn i).channelOpen = true →
      (core.conn i).hsState = .ready ∧ (core.told.filterMap removedId).count i = 0 := by
    intro i inside isOpen
    obtain ⟨noReply,noRequest⟩ := quiet.received i inside isOpen
    refine ⟨((steady.talking.conns i).settled isOpen noReply noRequest).1,List.count_eq_zero.mpr fun told => ?_⟩
    rcases steady.closed i (.inr told) with isClosed | ⟨h,locked,isThread⟩
    · exact absurd (isOpen.symm.trans isClosed) (by simp)
    · exact absurd ((threads h).symm.trans isThread) (by simp)
  have lost : ∀ i < core.count, (core.conn i).channelOpen = false → core.activeSwitches (setup.key i) ≠ some i := by
    intro i inside isClosed isActive
    rcases ended.ended i (quiet.noticed i inside isClosed) with notReady | ⟨ending,isThread⟩ | out
    · have := one i
      rw [if_neg notReady,if_pos isActive] at this
      omega
    · exact absurd ((threads i).symm.trans isThread) (by simp)
    · exact out.active isActive
  refine ⟨fun d i => ⟨fun isActive => ?_,?_⟩,fun i inside => ?_⟩
  · have inside := ended.inside d i isActive
    have isKey : setup.key i = d := steady.exactly.own d i isActive
    refine ⟨inside,isKey,?_⟩
    by_contra isClosed
    exact lost i inside (by simpa using isClosed) (isKey ▸ isActive)
  · rintro ⟨inside,rfl,isOpen⟩
    obtain ⟨isReady,notTold⟩ := opened i inside isOpen
    have here := one i
    rw [if_pos isReady,notTold] at here
    by_contra notActive
    rw [if_neg notActive] at here
    omega
  · cases isOpen : (core.conn i).channelOpen with
    | true => rw [(opened i inside isOpen).2,if_neg (by simp)]
    | false =>
      have here := one i
      rw [if_neg (lost i inside isOpen)] at here
      by_cases isReady : (core.conn i).hsState = .ready
      · rw [if_pos isReady] at here
        rw [if_pos ⟨isReady,rfl⟩]
        omega
      · rw [if_neg isReady] at here
        rw [if_neg (fun both => isReady both.1)]
        omega

section
variable {events : List Event} (noRole : setup.role = none) (allPlain : ∀ e ∈ events, plain e = true)
  (ran : Run.run (step setup) (init setup) events = some core)
include noRole allPlain ran

/-- No switch is reported as removed twice, none that is registered, and none whose channel
    is open unless the thread that evicts it closes that next. -/
theorem removed_once : (core.told.filterMap removedId).Nodup ∧ ∀ i ∈ core.told.filterMap removedId,
    ((core.conn i).channelOpen = false ∨ ∃ h locked, (core.conn h).thread = .closing i locked) ∧
      core.activeSwitches (setup.key i) ≠ some i := by
  have steady := steady_run noRole allPlain ran
  refine ⟨(List.nodup_append.mp steady.exactly.nodup).1,fun i told => ?_⟩
  exact ⟨steady.closed i (.inr told),(steady.exactly.departed (.inr (.inr told))).active⟩

/-- Once nothing is left to do, the active switches are the open connections, and of each
    other connection that was ready `OFSwitchAP` was told once that it is gone. -/
theorem active_iff_open (inTime : Run.Steps (step setup) (fun s e => timely s e = true) (init setup) events)
    (quiet : Quiet core) :
    (∀ d i, core.activeSwitches d = some i ↔ i < core.count ∧ setup.key i = d ∧ (core.conn i).channelOpen = true) ∧
      ∀ i < core.count, (core.told.filterMap removedId).count i =
        if (core.conn i).hsState = .ready ∧ (core.conn i).channelOpen = false then 1 else 0 := by
  obtain ⟨steady,ended⟩ := ended_run noRole allPlain inTime ran
  exact ended.settled steady quiet

end

/-- An access point connects anew, loses the new connection as well, and comes back. -/
def lost : List Event :=
  handshake 0 ++ handshake 1 ++ [.thread 1 0 [],.thread 1 0 [],.channelDisconnected 0,.thread 0 0 [],.thread 0 0 [],.thread 0 0 [],.breaks 1,
    .channelDisconnected 1,.thread 1 0 [],.thread 1 0 [],.thread 1 0 [],.thread 1 0 []] ++ handshake 2 ++
    [.agent 0,.agent 1,.agent 2,.update,.update,.update,.update]

theorem lost_removed_once : ∃ core, Run.run (step twice) (init twice) lost = some core ∧
    core.told.filterMap removedId = [0,1] ∧ core.activeSwitches (twice.key 1) ≠ some 1 := by
  obtain ⟨core,ran,removed⟩ : ∃ core, Run.run (step twice) (init twice) lost = some core ∧
      core.told.filterMap removedId = [0,1] := Run.exists_run (by decide +kernel)
  have gone := (removed_once rfl (by decide +kernel) ran).2 1 (by rw [removed]; decide)
  exact ⟨core,ran,removed,gone.2⟩

theorem lost_active : ∃ core, Run.run (step twice) (init twice) lost = some core ∧
    core.activeSwitches 0x020000000001 = some 2 := by
  obtain ⟨core,ran,quiet,three,isOpen⟩ : ∃ core, Run.run (step twice) (init twice) lost = some core ∧
      Quiet core ∧ core.count = 3 ∧ (core.conn 2).channelOpen = true := Run.exists_run (by decide +kernel)
  have inTime : Run.Steps (step twice) (fun s e => timely s e = true) (init twice) lost :=
    Run.steps_of_check (fun _ _ => id) (by decide +kernel)
  have active := (active_iff_open rfl (by decide +kernel) ran inTime quiet).1 0x020000000001 2
  exact ⟨core,ran,active.mpr ⟨by omega,rfl,isOpen⟩⟩

-- A channel that is found lost by the write of `clearAllFlowMods`: `addSwitch` then
-- registers the connection for good.
example : ∃ core, Run.run (step twice) (init twice) ((handshake 0).take 11 ++
    [.breaks 0,.interrupts 0,.thread 0 0 [],.thread 0 0 [],.thread 0 0 [],.update]) = some core ∧
      Quiet core ∧ core.activeSwitches 0x020000000001 = some 0 ∧ (core.conn 0).channelOpen = false :=
  Run.exists_run (by decide +kernel)

end Core
end Handover.OpenFlow
