import Handover.Switches
import Handover.Overlap

/-!
The order in which `OFSwitchAP` hears of a switch. Where the controller has no role, it is
given no message of a switch after it was told that the switch is gone, whatever the
switches send and however their connections are replaced and lost. The order that its
own tables rely on is therefore kept by the layer below it.
-/
namespace Handover.OpenFlow.Core
open Handover.Controller (Overlap)

variable {setup : Setup} {core core' : Core} {e : Event}

theorem sw_inj {i j : Nat} (same : setup.sw i = setup.sw j) : i = j := congrArg IOFSwitch.id same

/-! ### The calls of `OFSwitchAP` -/

/-- Why `OFSwitchAP` is called. -/
inductive Calls (setup : Setup) (core : Core) : Controller.Event → Prop where
  | receive {i : Nat} {msg : ToController} {failing : List Nat} (isThread : (core.conn i).thread = .dispatching msg)
    (listens : (core.conn i).listens = true) : Calls setup core (.receive (setup.sw i) msg failing)
  | evicted {i old : Nat} {locked : Bool} (isThread : (core.conn i).thread = .evicting old locked) :
    Calls setup core (.removedSwitch (setup.sw old))
  | removed {i : Nat} (waiting : .removed i ∈ core.updates) : Calls setup core (.removedSwitch (setup.sw i))
  | rehashed {order : Map STAAPPair STAAPInfo} : Calls setup core (.rehash order)

theorem Does.told (does : Does setup core e core') :
    core'.told = core.told ∨ ∃ call, Calls setup core call ∧ core'.told = core.told ++ [call] := by
  cases does with
  | dispatched inside isThread listens => exact .inr ⟨_,.receive isThread listens,rfl⟩
  | evicted inside isThread => exact .inr ⟨_,.evicted isThread,rfl⟩
  | toldRemoved isNext => exact .inr ⟨_,.removed (isNext ▸ List.mem_cons_self),rfl⟩
  | rehashed => exact .inr ⟨_,.rehashed,rfl⟩
  | _ => exact .inl rfl

/-- A switch that is told to be gone was reported before, or is cut off at once. -/
theorem Does.removed_mem_told (does : Does setup core e core') {i : Nat} (told : .removedSwitch (setup.sw i) ∈ core'.told) :
    .removedSwitch (setup.sw i) ∈ core.told ∨ .removed i ∈ core.updates ∨ (core'.conn i).connected = false := by
  have last : ∀ {call : Controller.Event}, .removedSwitch (setup.sw i) ∈ core.told ++ [call] →
      .removedSwitch (setup.sw i) ∈ core.told ∨ call = .removedSwitch (setup.sw i) := by
    intro call member
    rcases List.mem_append.mp member with before | isNew
    · exact .inl before
    · exact .inr (List.mem_singleton.mp isNew).symm
  cases does with
  | dispatched inside isThread listens =>
    rcases last told with before | isNew
    · exact .inl before
    · cases isNew
  | @evicted j now failing old locked inside isThread =>
    rcases last told with before | isNew
    · exact .inl before
    · cases sw_inj (Controller.Event.removedSwitch.inj isNew)
      refine .inr (.inr ?_)
      change ((((core.setConn i _).goTo j _).conn i).connected) = false
      rw [conn_goTo]
      split
      · rename_i same
        subst same
        simp
      · simp
  | @toldRemoved j rest isNext =>
    rcases last told with before | isNew
    · exact .inl before
    · cases sw_inj (Controller.Event.removedSwitch.inj isNew)
      exact .inr (.inl (isNext ▸ List.mem_cons_self))
  | rehashed =>
    rcases last told with before | isNew
    · exact .inl before
    · cases isNew
  | _ => exact .inl told

/-- A switch is reported as removed by its own thread, or cut off at once. -/
theorem Does.removed_mem_updates (does : Does setup core e core') {i : Nat} (waiting : .removed i ∈ core'.updates) :
    .removed i ∈ core.updates ∨ (∃ disconnecting, (core.conn i).thread = .reporting disconnecting ∧
      (core.conn i).connected = true ∧ (core'.conn i).thread = afterRemoval disconnecting) ∨
        (e = .interrupts i ∧ (core'.conn i).connected = false) := by
  cases does with
  | added inside isThread => exact .inl (by simpa [finish,goTo,setConn] using waiting)
  | reported inside isThread isConnected =>
    rcases List.mem_append.mp waiting with before | isNew
    · exact .inl before
    · cases List.mem_singleton.mp isNew
      exact .inr (.inl ⟨_,isThread,isConnected,by simp [conn_goTo]⟩)
  | @interrupted j dpid inside isClosed first atWork isReady isId =>
    dsimp only at waiting
    split at waiting
    · rcases List.mem_append.mp waiting with before | isNew
      · exact .inl before
      · cases List.mem_singleton.mp isNew
        exact .inr (.inr ⟨rfl,by simp [setConn]⟩)
    · exact .inl waiting
  | toldAdded isNext => exact .inl (isNext ▸ List.mem_cons_of_mem _ waiting)
  | toldRemoved isNext => exact .inl (isNext ▸ List.mem_cons_of_mem _ waiting)
  | _ => exact .inl waiting

/-! ### Connections without roles -/

/-- No role was ever requested on the connection. -/
structure Roleless (c : Conn) : Prop where
  role : c.role = none
  pending : c.pendingRoleRequests = []
  thread : c.thread ≠ .unsupported ∧ c.thread ≠ .removing false ∧ c.thread ≠ .reporting false

theorem Roleless.process {c c' : Conn} {reply : Reply} (roleless : Roleless c) (processes : c.Processes reply c') :
    Roleless c' := by
  obtain ⟨role,pending,thread⟩ := roleless
  cases processes with
  | completed => exact ⟨role,pending,by simp⟩
  | finished => exact ⟨role,pending,by simp⟩
  | unasked => exact ⟨role,pending,by simp⟩
  | mismatched isRole waiting => rw [pending] at waiting; cases waiting
  | agreed isRole waiting => rw [pending] at waiting; cases waiting
  | declined waiting => rw [pending] at waiting; cases waiting
  | taken => exact ⟨role,pending,by simp⟩
  | _ => exact ⟨role,pending,thread⟩

/-- The controller and its connections know of no role. -/
structure NoRoles (core : Core) : Prop where
  role : core.role = none
  tasks : core.pendingTasks = []
  worker : core.worker = none
  conns : ∀ i, Roleless (core.conn i)

theorem noRoles_init (noRole : setup.role = none) : NoRoles (init setup) :=
  ⟨noRole,rfl,rfl,fun _ => ⟨rfl,rfl,by simp [init,Conn.create]⟩⟩

theorem Changes.roleless {j : Nat} {c : Conn} (changes : Changes setup core e j c) (noRoles : NoRoles core) : Roleless c := by
  have here := noRoles.conns j
  obtain ⟨role,pending,thread⟩ := here
  cases changes with
  | received isIdle waiting =>
    refine Roleless.process ?_ (Conn.processes _ _)
    exact ⟨role,pending,thread⟩
  | disconnected isClosed first isIdle =>
    refine ⟨role,pending,?_⟩
    unfold Conn.channelDisconnected
    dsimp only
    split
    · simp
    · exact thread
  | considered isThread isId =>
    refine ⟨role,pending,?_⟩
    dsimp only [roleChanged]
    rw [role]
    split
    · split <;> simp
    · simp
  | notFound isThread isId other =>
    refine ⟨role,pending,?_⟩
    dsimp only [afterRemoval]
    split <;> simp
  | unreported isThread evicted =>
    refine ⟨role,pending,?_⟩
    dsimp only [afterRemoval]
    split <;> simp
  | ignored => exact ⟨role,pending,by simp⟩
  | cleared => exact ⟨role,pending,by simp⟩
  | refused => exact ⟨role,pending,by simp⟩
  | thrown => exact ⟨role,pending,by simp⟩
  | ended => exact ⟨role,pending,by simp⟩
  | _ => exact ⟨role,pending,thread⟩

theorem Goes.roleless {thread next : Thread} (goes : Goes thread next)
    (before : thread ≠ .unsupported ∧ thread ≠ .removing false ∧ thread ≠ .reporting false) :
    next ≠ .unsupported ∧ next ≠ .removing false ∧ next ≠ .reporting false := by
  cases goes with
  | removed disconnecting => cases disconnecting <;> simp_all
  | reported disconnecting => cases disconnecting <;> simp [afterRemoval]
  | _ => simp

theorem Moves.roleless {j : Nat} {c : Conn} (moves : Moves setup core e j c) (noRoles : NoRoles core) : Roleless c := by
  obtain ⟨role,pending,thread⟩ := noRoles.conns j
  cases moves with
  | stays => exact ⟨role,pending,thread⟩
  | changed changes => exact changes.roleless noRoles
  | goes goes => exact ⟨role,pending,goes.roleless thread⟩
  | entered isThread => exact ⟨role,pending,by simp⟩
  | failed isThread noId => exact ⟨role,pending,by simp⟩
  | evicted isThread goes =>
    rcases goes with rfl | goes
    · exact ⟨role,pending,thread⟩
    · exact ⟨role,pending,goes.roleless thread⟩
  | closed isThread goes =>
    rcases goes with rfl | ⟨_,rfl⟩
    · exact ⟨role,pending,thread⟩
    · exact ⟨role,pending,by simp⟩
  | interrupted isEvent isClosed atWork isReady => exact ⟨role,pending,thread⟩
  | visited isTask visits => rw [noRoles.worker] at isTask; cases isTask

theorem NoRoles.step (noRoles : NoRoles core) (does : Does setup core e core') (notSet : ∀ role now, e ≠ .setRole role now) :
    NoRoles core' := by
  have conns : ∀ j, Roleless (core'.conn j) := by
    intro j
    obtain ⟨c,posts,moves,isConn⟩ := does.moves j
    obtain ⟨role,pending,thread⟩ := moves.roleless noRoles
    rw [isConn]
    exact ⟨role,pending,thread⟩
  obtain ⟨role,tasks,worker,_⟩ := noRoles
  cases does with
  | submitted inside isThread isFree isRole => rw [role] at isRole; cases isRole
  | kept same => exact absurd rfl (notSet _ _)
  | roleSet isFree other => exact absurd rfl (notSet _ _)
  | taken isFree isTask => rw [tasks] at isTask; simp at isTask
  | visited isTask visits => rw [worker] at isTask; cases isTask
  | worked isTask isTimeout => rw [worker] at isTask; cases isTask
  | scheduled isTask isRequest => rw [worker] at isTask; cases isTask
  | _ => exact ⟨role,tasks,worker,conns⟩

/-! ### Switches that are gone -/

/-- Nothing of the connection is dispatched any more. -/
def Silent (c : Conn) : Prop := c.connected = false ∨ c.thread = .leaving ∨ c.thread = .disconnecting

/-- `OFSwitchAP` has been told that the switch is gone, or will be. -/
def Retired (setup : Setup) (core : Core) (i : Nat) : Prop :=
  .removed i ∈ core.updates ∨ .removedSwitch (setup.sw i) ∈ core.told

theorem connected_process {c c' : Conn} {reply : Reply} (processes : c.Processes reply c') : c'.connected = c.connected := by
  cases processes <;> rfl

theorem Changes.silent {j : Nat} {c : Conn} (changes : Changes setup core e j c) (silent : Silent (core.conn j)) :
    Silent c := by
  rcases silent with lost | isLast
  · cases changes with
    | received isIdle waiting => exact .inl ((connected_process (Conn.processes _ _)).trans lost)
    | ended isThread => exact .inl rfl
    | _ => exact .inl lost
  · cases changes with
    | ended isThread => exact .inl rfl
    | received isIdle waiting => rw [isIdle] at isLast; simp at isLast
    | disconnected isClosed first isIdle => rw [isIdle] at isLast; simp at isLast
    | ignored isThread deaf => rw [isThread] at isLast; simp at isLast
    | cleared isThread => rw [isThread] at isLast; simp at isLast
    | considered isThread isId => rw [isThread] at isLast; simp at isLast
    | refused isThread isSlave => rw [isThread] at isLast; simp at isLast
    | thrown isThread noId =>
      rcases isThread with isThread | ⟨_,isThread⟩ <;> rw [isThread] at isLast <;> simp at isLast
    | notFound isThread isId other => rw [isThread] at isLast; simp at isLast
    | unreported isThread evicted => rw [isThread] at isLast; simp at isLast
    | _ => exact .inr isLast

theorem Visits.connected {task task' : RoleChangeTask} {c c' : Conn} {i : Nat} (visits : Visits task c i task' c') :
    c'.connected = c.connected ∧ c'.thread = c.thread := by
  cases visits <;> exact ⟨rfl,rfl⟩

theorem Moves.silent {j : Nat} {c : Conn} (moves : Moves setup core e j c) (silent : Silent (core.conn j)) : Silent c := by
  cases moves with
  | stays => exact silent
  | changed changes => exact changes.silent silent
  | goes goes =>
    rcases silent with lost | isLast | isLast
    · exact .inl lost
    · rw [isLast] at goes
      cases goes
      exact .inr (.inr rfl)
    · rw [isLast] at goes
      cases goes
  | entered isThread =>
    rcases silent with lost | isLast
    · exact .inl lost
    · rw [isThread] at isLast; simp at isLast
  | failed isThread noId =>
    rcases silent with lost | isLast
    · exact .inl lost
    · rw [isThread] at isLast; simp at isLast
  | evicted isThread goes => exact .inl rfl
  | closed isThread goes =>
    rcases goes with rfl | ⟨isClosing,rfl⟩
    · exact silent
    · exact .inl (silent.resolve_right (by simp [isClosing]))
  | interrupted isEvent isClosed atWork isReady => exact .inl rfl
  | visited isTask visits =>
    rw [Silent,visits.connected.1,visits.connected.2]
    exact silent

theorem Does.silent (does : Does setup core e core') {j : Nat} (silent : Silent (core.conn j)) : Silent (core'.conn j) := by
  obtain ⟨c,posts,moves,isConn⟩ := does.moves j
  rw [isConn]
  exact moves.silent silent

theorem not_silent_of_listens {c : Conn} {msg : ToController} (isThread : c.thread = .dispatching msg)
    (listens : c.listens = true) : ¬ Silent c := by
  rintro (lost | isLast)
  · simp [Conn.listens,lost] at listens
  · rw [isThread] at isLast
    simp at isLast

/-- What `OFSwitchAP` is told, and who is gone. -/
structure Ordered (setup : Setup) (core : Core) : Prop where
  noRoles : NoRoles core
  silent : ∀ i, Retired setup core i → Silent (core.conn i)
  ends : core.told.Pairwise Controller.Event.Before

theorem ordered_init (noRole : setup.role = none) : Ordered setup (init setup) :=
  ⟨noRoles_init noRole,by rintro i (waiting | told) <;> simp [init] at *,.nil⟩

theorem Ordered.step (ordered : Ordered setup core) (does : Does setup core e core')
    (notSet : ∀ role now, e ≠ .setRole role now) : Ordered setup core' := by
  refine ⟨ordered.noRoles.step does notSet,?_,?_⟩
  · rintro i (waiting | told)
    · rcases does.removed_mem_updates waiting with before | ⟨disconnecting,isThread,_,isNext⟩ | ⟨_,lost⟩
      · exact does.silent (ordered.silent i (.inl before))
      · cases disconnecting with
        | true => exact .inr (.inl isNext)
        | false => exact absurd isThread (ordered.noRoles.conns i).thread.2.2
      · exact .inl lost
    · rcases does.removed_mem_told told with before | waiting | lost
      · exact does.silent (ordered.silent i (.inr before))
      · exact does.silent (ordered.silent i (.inl waiting))
      · exact .inl lost
  · rcases does.told with same | ⟨call,calls,isTold⟩
    · rw [same]
      exact ordered.ends
    · rw [isTold,List.pairwise_append]
      refine ⟨ordered.ends,List.pairwise_singleton _ _,?_⟩
      intro before member call' isCall
      cases List.mem_singleton.mp isCall
      cases before with
      | removedSwitch sw =>
        cases calls with
        | receive isThread listens =>
          rintro rfl
          exact not_silent_of_listens isThread listens (ordered.silent _ (.inr member))
        | _ => trivial
      | _ => trivial

/-! ### The gateway's connection -/

/-- The gateway sends its announcement only, and no one else sends that. -/
def Fits (setup : Setup) (i : Nat) (msg : ToController) : Prop := msg = .gwConnect ↔ (setup.peer i).gateway = true

/-- The events of a site without roles, where all messages are read as they are sent, also
    a foreign switch keeps to what its kind sends, and `channelDisconnected` is not called
    while the thread of the connection is at work. -/
def Fair (setup : Setup) : Event → Prop
  | .sends _ msg => msg.readWhole = true
  | .injects i (.wlan msg) => msg.readWhole = true ∧ Fits setup i msg
  | .setRole _ _ => False
  | .interrupts _ => False
  | _ => True

/-- The messages of the connection fit its peer, on their way and in its thread. -/
structure Proper (setup : Setup) (i : Nat) (c : Conn) : Prop where
  up : ∀ msg, .wlan msg ∈ c.up → Fits setup i msg
  thread : ∀ msg, c.thread = .dispatching msg → Fits setup i msg

theorem fits_agent {i : Nat} {missSendLen : UInt16} {request : Request} {msg : ToController}
    (sent : .wlan msg ∈ ((setup.peer i).processControllerMsg missSendLen request).2) : Fits setup i msg := by
  cases request with
  | flowModDelete =>
    simp only [Peer.processControllerMsg] at sent
    split at sent
    · rename_i isGateway
      simp only [List.mem_singleton,Reply.wlan.injEq] at sent
      exact ⟨fun _ => isGateway,fun _ => sent⟩
    · cases sent
  | _ => simp [Peer.processControllerMsg] at sent

theorem Proper.process {i : Nat} {c c' : Conn} {reply : Reply} (proper : Proper setup i c)
    (fits : ∀ msg, reply = .wlan msg → Fits setup i msg) (processes : c.Processes reply c') : Proper setup i c' := by
  obtain ⟨up,thread⟩ := proper
  cases processes with
  | completed => exact ⟨up,by simp⟩
  | finished => exact ⟨up,by simp⟩
  | unasked => exact ⟨up,by simp⟩
  | mismatched => exact ⟨up,by simp⟩
  | agreed => exact ⟨up,by simp⟩
  | declined => exact ⟨up,by simp⟩
  | taken =>
    refine ⟨up,?_⟩
    intro msg isThread
    cases isThread
    exact fits _ rfl
  | _ => exact ⟨up,thread⟩

theorem Changes.proper {i : Nat} {c : Conn} (changes : Changes setup core e i c) (fair : Fair setup e)
    (proper : Proper setup i (core.conn i)) : Proper setup i c := by
  obtain ⟨up,thread⟩ := proper
  have more : ∀ {replies : List Reply}, (∀ msg, .wlan msg ∈ replies → Fits setup i msg) →
      ∀ msg, .wlan msg ∈ (core.conn i).up ++ replies → Fits setup i msg := by
    intro replies fits msg sent
    rcases List.mem_append.mp sent with before | isNew
    · exact up msg before
    · exact fits msg isNew
  cases changes with
  | answered waiting => exact ⟨more (fun msg => fits_agent),thread⟩
  | sent isAP own =>
    refine ⟨more ?_,thread⟩
    intro msg isMsg
    cases List.mem_singleton.mp isMsg
    exact ⟨fun isConnect => absurd isConnect own,fun isGateway => by rw [isAP] at isGateway; cases isGateway⟩
  | injected =>
    refine ⟨more ?_,thread⟩
    intro msg isMsg
    cases List.mem_singleton.mp isMsg
    exact fair.2
  | received isIdle waiting =>
    refine Proper.process ?_ ?_ (Conn.processes _ _)
    · exact ⟨fun msg sent => up msg (waiting ▸ List.mem_cons_of_mem _ sent),thread⟩
    · rintro msg rfl
      exact up msg (waiting ▸ List.mem_cons_self)
  | disconnected isClosed first isIdle =>
    refine ⟨up,?_⟩
    unfold Conn.channelDisconnected
    dsimp only
    split
    · simp
    · exact thread
  | ignored => exact ⟨up,by simp⟩
  | cleared => exact ⟨up,by simp⟩
  | considered =>
    refine ⟨up,?_⟩
    dsimp only [roleChanged]
    split
    · split <;> simp
    · split <;> simp
  | refused => exact ⟨up,by simp⟩
  | thrown => exact ⟨up,by simp⟩
  | notFound =>
    refine ⟨up,?_⟩
    dsimp only [afterRemoval]
    split <;> simp
  | unreported =>
    refine ⟨up,?_⟩
    dsimp only [afterRemoval]
    split <;> simp
  | ended => exact ⟨up,by simp⟩
  | _ => exact ⟨up,thread⟩

theorem Goes.not_dispatching {thread next : Thread} (goes : Goes thread next) (msg : ToController) :
    next ≠ .dispatching msg := by
  cases goes with
  | reported disconnecting => cases disconnecting <;> simp [afterRemoval]
  | _ => simp

theorem Moves.proper {i : Nat} {c : Conn} (moves : Moves setup core e i c) (fair : Fair setup e)
    (proper : Proper setup i (core.conn i)) : Proper setup i c := by
  obtain ⟨up,thread⟩ := proper
  cases moves with
  | stays => exact ⟨up,thread⟩
  | changed changes => exact changes.proper fair ⟨up,thread⟩
  | goes goes => exact ⟨up,fun msg isThread => absurd isThread (goes.not_dispatching msg)⟩
  | entered isThread => exact ⟨up,by simp⟩
  | failed isThread noId => exact ⟨up,by simp⟩
  | evicted isThread goes =>
    rcases goes with rfl | goes
    · exact ⟨up,thread⟩
    · exact ⟨up,fun msg isThread => absurd isThread (goes.not_dispatching msg)⟩
  | closed isThread goes =>
    rcases goes with rfl | ⟨_,rfl⟩
    · exact ⟨up,thread⟩
    · exact ⟨up,by simp⟩
  | interrupted isEvent isClosed atWork isReady => exact ⟨up,thread⟩
  | visited isTask visits => cases visits <;> exact ⟨up,thread⟩

/-- All messages fit the switches that they are said to come from. -/
structure AllProper (setup : Setup) (core : Core) : Prop where
  conns : ∀ i, Proper setup i (core.conn i)
  told : ∀ sw msg failing, .receive sw msg failing ∈ core.told → Fits setup sw.id msg

theorem allProper_init : AllProper setup (init setup) :=
  ⟨fun i => ⟨by simp [init,Conn.create],by simp [init,Conn.create]⟩,by simp [init]⟩

theorem AllProper.step (proper : AllProper setup core) (does : Does setup core e core') (fair : Fair setup e) :
    AllProper setup core' := by
  refine ⟨fun i => ?_,fun sw msg failing member => ?_⟩
  · obtain ⟨c,posts,moves,isConn⟩ := does.moves i
    obtain ⟨up,thread⟩ := moves.proper fair (proper.conns i)
    rw [isConn]
    exact ⟨up,thread⟩
  · rcases does.told with same | ⟨call,calls,isTold⟩
    · exact proper.told sw msg failing (same ▸ member)
    · rw [isTold] at member
      rcases List.mem_append.mp member with before | isNew
      · exact proper.told sw msg failing before
      · cases List.mem_singleton.mp isNew
        cases calls with
        | receive isThread listens => exact (proper.conns _).thread msg isThread

/-! ### Whole runs -/

theorem Fair.notSet (fair : Fair setup e) (role : Role) (now : Int) : e ≠ .setRole role now := by
  rintro rfl
  exact fair

theorem ordered_run {events : List Event} (noRole : setup.role = none) (fair : ∀ e ∈ events, Fair setup e)
    (ran : Run.run (step setup) (init setup) events = some core) : Ordered setup core ∧ AllProper setup core :=
  Run.run_preserves
    (fun s e _ (isFair : Fair setup e) (kept : Ordered setup s ∧ AllProper setup s) stepped =>
      ⟨kept.1.step (does_step stepped) isFair.notSet,kept.2.step (does_step stepped) isFair⟩)
    (Run.steps_of_forall fair _) ⟨ordered_init noRole,allProper_init⟩ ran

theorem Ordered.orderly (ordered : Ordered setup core) (proper : AllProper setup core) : Controller.Orderly core.told := by
  refine ⟨fun gw failing announced msg failing' sent => ?_,ordered.ends⟩
  have isGateway := (proper.told gw .gwConnect failing announced).mp rfl
  exact (proper.told gw msg failing' sent).mpr isGateway

/-- Without roles `OFSwitchAP` is called in an orderly way: a connection that announces the
    gateway carries nothing else, and nothing is handled of a switch that was removed. So
    however its handlers overlap, none is about to write to a removed switch unless one
    runs during a removal. -/
theorem told_orderly {events : List Event} (noRole : setup.role = none) (fair : ∀ e ∈ events, Fair setup e)
    (ran : Run.run (step setup) (init setup) events = some core) :
    Controller.Orderly core.told ∧ ∀ (actions : List Overlap.Action) (s : Overlap),
      Run.run Overlap.step Overlap.init actions = some s → Run.Steps Overlap.step Overlap.Calm Overlap.init actions →
        s.calls = core.told → ∀ i w handler, s.pending i = some (w,handler) → .removedSwitch w.sw ∉ core.told := by
  obtain ⟨ordered,proper⟩ := ordered_run noRole fair ran
  have orderly := ordered.orderly proper
  refine ⟨orderly,fun actions s handled calm isCalls i w handler isPending => ?_⟩
  rw [← isCalls] at orderly ⊢
  exact (Overlap.sound_run handled calm orderly).pending isPending

/-- An access point that connects twice with one address and `dpid`. -/
def twice : Setup := ⟨fun _ => ⟨false,0x020000000001,⟨10,0,0,1⟩⟩,none,false⟩

/-- The events of a connection until it has been added. -/
def handshake (i : Nat) : List Event :=
  [.connect,.agent i,.receive i,.agent i,.receive i,.agent i,.agent i,.agent i,.receive i,.receive i,.thread i 0 [],
    .thread i 0 [],.thread i 0 [],.thread i 0 []]

def probe : ToController := .probe ⟨2,0,0,0,0,1⟩ ⟨4,0,0,0,0,1⟩

/-- A probe is handled, a second one waits, and then the access point connects anew; over
    the new connection the probe is handled again. -/
def replacement : List Event :=
  handshake 0 ++ [.sends 0 probe,.receive 0,.thread 0 0 [],.posts 0 (.addSTA ⟨2,0,0,0,0,1⟩),.sends 0 probe] ++ handshake 1 ++
    [.thread 1 0 [],.thread 1 0 [],.receive 0,.thread 0 0 [],.sends 1 probe,.receive 1,.thread 1 0 []]

/-- The handler of the first probe has written before the first connection is removed. -/
def replacementCalls : List Overlap.Action :=
  [.call (twice.sw 0) probe [],.write 0,.finish 0,.removedSwitch (twice.sw 0),.remove 0,.call (twice.sw 1) probe []]

theorem replacement_orderly : ∃ core s handler, Run.run (step twice) (init twice) replacement = some core ∧
    Run.run Overlap.step Overlap.init replacementCalls = some s ∧ s.calls = core.told ∧
    s.pending 0 = some (⟨twice.sw 1,.addSTA ⟨2,0,0,0,0,1⟩⟩,handler) ∧ .removedSwitch (twice.sw 1) ∉ core.told := by
  obtain ⟨core,ran,isTold⟩ : ∃ core, Run.run (step twice) (init twice) replacement = some core ∧
      core.told = replacementCalls.filterMap Overlap.Action.event := Run.exists_run (by decide +kernel)
  obtain ⟨s,handled,isPending⟩ : ∃ s, Run.run Overlap.step Overlap.init replacementCalls = some s ∧
      s.pending 0 = some (⟨twice.sw 1,.addSTA ⟨2,0,0,0,0,1⟩⟩,⟨twice.sw 1,true,[],[]⟩) := Run.exists_run (by decide +kernel)
  have isCalls : s.calls = core.told := (Overlap.run_calls handled).trans isTold.symm
  have calm : Run.Steps Overlap.step Overlap.Calm Overlap.init replacementCalls :=
    Run.steps_of_check (fun _ _ => of_decide_eq_true) (by decide +kernel)
  have fair : ∀ e ∈ replacement, Fair twice e := by simp [replacement,handshake,Fair,probe,ToController.readWhole]
  exact ⟨core,s,_,ran,handled,isCalls,isPending,(told_orderly rfl fair ran).2 _ s handled calm isCalls 0 _ _ isPending⟩

end Handover.OpenFlow.Core
