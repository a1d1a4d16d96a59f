import Handover.ActiveSwitches

/-!
The roles of a controller. `setRole` and each new connection submit a request, which the
thread of the `RoleChanger` passes on to the switches, and a switch takes a role when its
reply is handled. Requests of several threads may be on their way to a switch at once;
where the queue hands them on in the order in which they were submitted, all switches
have the role of the controller once nothing is left to do. The timeouts that are meant to find a
switch without a reply compare the wrong times and find none.
-/
namespace Handover.OpenFlow

/-- The role that a request asks the switch for. -/
def RoleChangeTask.requests (task : RoleChangeTask) (i : Nat) : Option Role :=
  if task.isTimeout = false ∧ i ∈ task.switches then some task.role else none

/-- The role that the switch will have after the replies to all requests that were sent. -/
def Conn.destined (c : Conn) : Option Role := (c.pendingRoleRequests.map (·.role)).getLast?.or c.role

@[simp] theorem Conn.destined_write (c : Conn) (requests : List Request) : (c.write requests).destined = c.destined := rfl

@[simp] theorem Conn.destined_send (c : Conn) (role : Role) (cookie : Int) :
    (c.sendNxRoleRequest role cookie).destined = some role := by
  simp [destined,sendNxRoleRequest]

/-- The steps to which `channelDisconnected` leads. -/
def Thread.ends : Thread → Bool
  | .removing ending => ending
  | .reporting ending => ending
  | .leaving => true
  | .disconnecting => true
  | _ => false

namespace Core
variable {setup : Setup} {core core' : Core} {e : Event}

/-- What the role changer's thread has still to send to the switch. -/
def working (core : Core) (i : Nat) : Option Role :=
  match core.worker with
  | none => none
  | some (task,rest) => if task.isTimeout = false ∧ i ∈ rest then some task.role else none

/-- The role that the switch will have after all requests that were submitted. -/
def destined (core : Core) (i : Nat) : Option Role :=
  (core.pendingTasks.filterMap (·.requests i)).getLast?.or ((core.working i).or (core.conn i).destined)

theorem destined_congr (core : Core) {core' : Core} {i : Nat} (tasks : core'.pendingTasks = core.pendingTasks)
    (worker : core'.worker = core.worker) (conn : (core'.conn i).destined = (core.conn i).destined) : core'.destined i = core.destined i := by
  simp only [destined,working,tasks,worker,conn]

/-! ### The connections -/

/-- A reply gives the switch the role that it was to have first. -/
theorem destined_process {dpid : UInt64} {c c' : Conn} {reply : Reply} {rest : List Reply} (talks : c.Talks dpid)
    (waiting : c.up = reply :: rest) (processes : ({ c with up := rest } : Conn).Processes reply c') :
    c'.destined = c.destined := by
  cases processes with
  | unasked noneIs =>
    obtain ⟨_,head,_,pending,_⟩ := Conn.expected_cons (talks.first waiting rfl).1
    rw [show c.pendingRoleRequests = [] from noneIs] at pending
    cases pending
  | mismatched isRole waits apart =>
    obtain ⟨_,head,_,pending,isXid,isNx,_⟩ := Conn.expected_cons (talks.first waiting rfl).1
    rw [show c.pendingRoleRequests = _ from waits] at pending
    cases pending
    rw [← isNx,Role.ofNxRole_nxRole] at isRole
    exact absurd ⟨isXid,Option.some.inj isRole⟩ apart
  | @agreed xid nxRole role head later isRole waits same =>
    have waits : c.pendingRoleRequests = head :: later := waits
    simp only [Conn.destined,waits,List.map_cons,List.getLast?_cons,same.2]
    cases (later.map (·.role)).getLast? <;> rfl
  | declined waits => exact absurd (waiting ▸ List.mem_cons_self) (talks.noErrors _ _)
  | _ => rfl

theorem Changes.destined {i : Nat} {c : Conn} (changes : Changes setup core e i c) (honest : Honest e)
    (talks : (core.conn i).Talks (setup.peer i).dpid) : c.destined = (core.conn i).destined := by
  cases changes with
  | injected => exact honest.elim
  | received isIdle waiting => exact destined_process talks waiting (Conn.processes _ _)
  | _ => rfl

theorem destined_setConn {i : Nat} {c : Conn} (same : c.destined = (core.conn i).destined) (j : Nat) :
    ((core.setConn i c).conn j).destined = (core.conn j).destined :=
  field_setConn Conn.destined rfl fun isHere => isHere ▸ same

theorem destined_goTo (i : Nat) (thread : Thread) (j : Nat) :
    ((core.goTo i thread).conn j).destined = (core.conn j).destined := destined_setConn (by rfl) j

/-- Only the role changer's thread sends requests. -/
theorem Does.destined_conn (does : Does setup core e core') (honest : Honest e) (talking : Talking setup core)
    (notWork : e ≠ .work) (j : Nat) : (core'.conn j).destined = (core.conn j).destined := by
  cases does with
  | changed inside changes => exact destined_setConn (changes.destined honest (talking.conns _)) j
  | dispatched inside isThread listens => exact destined_goTo _ _ j
  | submitted inside isThread isFree isRole => exact destined_goTo _ _ j
  | entered inside isThread isFree noRole => exact destined_setConn (by rfl) j
  | failed inside isThread noId => exact (destined_goTo _ _ j).trans (destined_setConn (by rfl) j)
  | put inside isThread isId isNew => exact destined_goTo _ _ j
  | putAgain inside isThread isId isActive => exact destined_goTo _ _ j
  | replaced inside isThread isId isActive apart => exact destined_goTo _ _ j
  | evicted inside isThread => exact (destined_goTo _ _ j).trans (destined_setConn (by rfl) j)
  | closed inside isThread => exact (destined_goTo _ _ j).trans (destined_setConn (by rfl) j)
  | posted inside => exact destined_setConn (by rfl) j
  | interrupted inside isClosed first atWork isReady isId => exact destined_setConn (by rfl) j
  | added inside isThread => exact destined_goTo _ _ j
  | tolerated inside isThread isFree notSlave => exact destined_goTo _ _ j
  | removed inside isThread isId isActive => exact destined_goTo _ _ j
  | reported inside isThread isConnected => exact destined_goTo _ _ j
  | left inside isThread isFree => exact destined_goTo _ _ j
  | visited isTask visits => exact absurd rfl notWork
  | _ => rfl

/-! ### The queue -/

/-- Requests are queued by their deadlines, and each gets a later one than all before. -/
structure Queued (core : Core) : Prop where
  ordered : core.pendingTasks.Pairwise (fun task later =>
    task.isTimeout = false → later.isTimeout = false → task.deadline < later.deadline)
  bounded : ∀ task ∈ core.pendingTasks, task.isTimeout = false → task.deadline ≤ core.lastSubmitTime

theorem lt_submit (core : Core) (switches : List Nat) (role : Role) (now : Int) :
    core.lastSubmitTime < (core.submitRequest switches role now).lastSubmitTime := by
  simp only [submitRequest]
  split <;> omega

theorem Queued.submit (queued : Queued core) (switches : List Nat) (role : Role) (now : Int) :
    Queued (core.submitRequest switches role now) := by
  have later := lt_submit core switches role now
  refine ⟨List.pairwise_append.mpr ⟨queued.ordered,List.pairwise_singleton _ _,?_⟩,?_⟩
  · intro task member task' isNew isRequest _
    cases List.mem_singleton.mp isNew
    exact (queued.bounded task member isRequest).trans_lt later
  · intro task member isRequest
    rcases List.mem_append.mp member with before | isNew
    · exact (queued.bounded task before isRequest).trans later.le
    · cases List.mem_singleton.mp isNew
      exact le_rfl

theorem Queued.step (queued : Queued core) (does : Does setup core e core') : Queued core' := by
  cases does with
  | @submitted i now failing role inside isThread isFree isRole =>
    have kept : Queued { core.goTo i .idle with connectedSwitches := core.connectedSwitches.insert i } :=
      ⟨queued.ordered,queued.bounded⟩
    exact kept.submit [i] role now
  | @roleSet role now isFree apart =>
    have kept : Queued { core with role := some role } := ⟨queued.ordered,queued.bounded⟩
    exact kept.submit core.connectedSwitches role now
  | taken isFree isTask =>
    exact ⟨queued.ordered.sublist (List.eraseIdx_sublist _ _),
      fun task member => queued.bounded task (List.mem_of_mem_eraseIdx member)⟩
  | scheduled isTask isRequest =>
    refine ⟨List.pairwise_append.mpr ⟨queued.ordered,List.pairwise_singleton _ _,?_⟩,?_⟩
    · intro task member task' isNew _ isRequest'
      cases List.mem_singleton.mp isNew
      cases isRequest'
    · intro task member isRequest'
      rcases List.mem_append.mp member with before | isNew
      · exact queued.bounded task before isRequest'
      · cases List.mem_singleton.mp isNew
        cases isRequest'
  | _ => exact ⟨queued.ordered,queued.bounded⟩

/-- The worker takes the requests by their deadlines. -/
def inOrder (core : Core) : Event → Bool
  | .takeTask k => core.pendingTasks[k]?.all (fun task => task.isTimeout ||
      core.pendingTasks.all (fun other => other.isTimeout || decide (task.deadline ≤ other.deadline)))
  | _ => true

/-- The request that is taken is then the one that was submitted first. -/
theorem Queued.taken (queued : Queued core) {k : Nat} {task : RoleChangeTask} (isTask : core.pendingTasks[k]? = some task)
    (isFirst : inOrder core (.takeTask k) = true) (i : Nat) :
    core.pendingTasks.filterMap (·.requests i) =
      (task.requests i).toList ++ (core.pendingTasks.eraseIdx k).filterMap (·.requests i) := by
  simp only [inOrder,isTask,Option.all_some,Bool.or_eq_true,List.all_eq_true,decide_eq_true_eq] at isFirst
  obtain ⟨inside,isTask⟩ := List.getElem?_eq_some_iff.mp isTask
  have split : core.pendingTasks = core.pendingTasks.take k ++ task :: core.pendingTasks.drop (k + 1) := by
    rw [← isTask,List.getElem_cons_drop,List.take_append_drop]
  have ordered := queued.ordered
  rw [split] at ordered
  have before : task.isTimeout = false → (core.pendingTasks.take k).filterMap (·.requests i) = [] := by
    intro isRequest
    rw [List.filterMap_eq_nil_iff]
    intro other member
    refine if_neg (fun requested => ?_)
    have earlier := (List.pairwise_append.mp ordered).2.2 other member task List.mem_cons_self requested.1 isRequest
    rw [isRequest] at isFirst
    have noLater := isFirst.resolve_left (by simp) other (List.mem_of_mem_take member)
    rw [requested.1] at noLater
    exact absurd (noLater.resolve_left (by simp)) (by omega)
  rw [List.eraseIdx_eq_take_drop_succ]
  nth_rewrite 1 [split]
  rw [List.filterMap_append,List.filterMap_append,List.filterMap_cons]
  cases isTimeout : task.isTimeout with
  | true =>
    have none_ : task.requests i = none := if_neg (by simp [isTimeout])
    simp [none_]
  | false =>
    rw [before isTimeout]
    cases task.requests i <;> rfl

/-! ### Steps of the whole controller -/

theorem destined_submit {i : Nat} {switches : List Nat} {role : Role} {now : Int} :
    (core.submitRequest switches role now).destined i = if i ∈ switches then some role else core.destined i := by
  by_cases member : i ∈ switches
  · simp [destined,submitRequest,RoleChangeTask.requests,member]
  · simp only [destined,submitRequest,working,RoleChangeTask.requests,List.filterMap_append,List.filterMap_cons,
      List.filterMap_nil,member,and_false,if_false,List.append_nil]

/-- A request that the worker passes on is then pending at the switch. -/
theorem destined_visit {task task' : RoleChangeTask} {i : Nat} {rest : List Nat} {c : Conn}
    (isTask : core.worker = some (task,i :: rest)) (supports : (core.conn i).supportsNxRole ≠ some false)
    (visits : Visits task (core.conn i) i task' c) (j : Nat) :
    ({ core.setConn i c with worker := some (task',rest) } : Core).destined j = core.destined j := by
  simp only [destined,working,isTask,conn_setConn]
  congr 1
  cases visits with
  | requested isRequest supported =>
    by_cases same : j = i
    · subst same
      simp only [isRequest,List.mem_cons,true_or,and_self,if_true,Conn.destined_send,Option.some_or]
      split <;> rfl
    · simp [same]
  | dismissed isRequest unsupported isSlave => exact absurd unsupported supports
  | passed isRequest unsupported => exact absurd unsupported supports
  | expired isTimeout pending =>
    simp only [isTimeout,Bool.true_eq_false,false_and,if_false,Option.none_or]
    split
    · rename_i same
      rw [same]
      rfl
    · rfl
  | verified isTimeout =>
    simp only [isTimeout,Bool.true_eq_false,false_and,if_false,Option.none_or]
    split
    · rename_i same
      rw [same]
    · rfl

/-- All requests lead to the role of the controller. -/
structure Agreeing (core : Core) : Prop where
  queued : Queued core
  free : core.role = none → NoRoles core
  latest : ∀ i ∈ core.connectedSwitches, core.destined i = core.role
  joined : ∀ i, (core.conn i).hsState = .ready → (core.conn i).thread ≠ .entering → (core.conn i).channelOpen = true →
    i ∈ core.connectedSwitches
  closed : ∀ i, (core.conn i).thread.ends = true → (core.conn i).channelOpen = false

theorem agreeing_init : Agreeing (init setup) where
  queued := ⟨.nil,by simp [init]⟩
  free := noRoles_init
  latest := by simp [init]
  joined i isReady := by simp [init,Conn.create] at isReady
  closed i ends := by simp [init,Conn.create,Thread.ends] at ends

theorem Agreeing.step_free (agreeing : Agreeing core) (does : Does setup core e core') (noRole : core'.role = none) :
    NoRoles core' := by
  have before : core.role = none ∧ ∀ role now, e ≠ .setRole role now := by
    cases does with
    | changed inside changes => cases changes <;> exact ⟨noRole,by simp⟩
    | kept same => exact absurd (same.symm.trans noRole) (by simp)
    | roleSet isFree apart => cases noRole
    | _ => exact ⟨noRole,by simp⟩
  exact (agreeing.free before.1).step does before.2

theorem Agreeing.step_latest (agreeing : Agreeing core) (does : Does setup core e core') (honest : Honest e)
    (isOrdered : inOrder core e = true) (talking : Talking setup core) (j : Nat) (member : j ∈ core'.connectedSwitches) : core'.destined j = core'.role := by
  have conns := fun notWork => does.destined_conn honest talking notWork j
  have stays : ∀ {next : Core}, next.pendingTasks = core.pendingTasks → next.worker = core.worker → next.conn = core'.conn →
      e ≠ .work → j ∈ core.connectedSwitches → next.destined j = core.role := by
    intro next tasks worker conn notWork member
    exact (destined_congr core tasks worker (by rw [conn]; exact conns notWork)).trans (agreeing.latest j member)
  cases does with
  | changed inside changes =>
    refine stays rfl rfl rfl ?_ member
    rintro rfl
    cases changes
  | @submitted i now failing role inside isThread isFree isRole =>
    rw [destined_submit]
    split
    · exact isRole.symm
    · rename_i apart
      refine stays rfl rfl rfl (by simp) ?_
      exact (List.mem_insert_iff.mp member).resolve_left (fun same => apart (by simp [same]))
  | @entered i now failing inside isThread isFree noRole =>
    have noRoles := agreeing.free noRole
    obtain ⟨role,pending,_⟩ := noRoles.conns j
    refine (destined_congr core (by rfl) (by rfl) (conns (by simp))).trans ?_
    simp [destined,working,Conn.destined,noRoles.tasks,noRoles.worker,role,pending,setConn,noRole]
  | left inside isThread isFree => exact stays rfl rfl rfl (by simp) (List.mem_of_mem_erase member)
  | interrupted inside isClosed first atWork isReady isId =>
    exact stays rfl rfl rfl (by simp) (List.mem_of_mem_erase member)
  | roleSet isFree apart =>
    rw [destined_submit]
    exact if_pos member
  | @taken k task isFree isTask =>
    refine .trans ?_ (agreeing.latest j member)
    simp only [destined,working,isFree,agreeing.queued.taken isTask isOrdered j,List.getLast?_append,Option.or_assoc]
    congr 1
    unfold RoleChangeTask.requests
    split <;> rfl
  | visited isTask visits =>
    rw [destined_visit isTask (talking.conns _).supports visits]
    exact agreeing.latest j member
  | worked isTask isTimeout =>
    refine .trans ?_ (agreeing.latest j member)
    simp [destined,working,isTask]
  | scheduled isTask isRequest =>
    refine .trans ?_ (agreeing.latest j member)
    simp [destined,working,isTask,RoleChangeTask.requests]
  | _ => exact stays rfl rfl rfl (by simp) member

/-! ### Who takes part -/

theorem ends_process {c c' : Conn} {reply : Reply} (isIdle : c.thread = .idle) (processes : c.Processes reply c') :
    c'.thread.ends = false := by
  have stays : c.thread.ends = false := by rw [isIdle]; rfl
  cases processes <;> first | rfl | exact stays

theorem ends_roleChanged (setup : Setup) (c : Conn) (isActive : Bool) : (roleChanged setup c isActive).ends = false := by
  unfold roleChanged
  split
  · split <;> rfl
  · split <;> rfl

theorem Goes.ends {thread next : Thread} (goes : Goes thread next) (ends : next.ends = true) : thread.ends = true := by
  cases goes with
  | removed ending => exact ends
  | reported ending => cases ending <;> first | rfl | cases ends
  | left => rfl
  | _ => cases ends

/-- `channelDisconnected` is called of closed channels. -/
theorem Agreeing.step_closed (agreeing : Agreeing core) (does : Does setup core e core') (j : Nat)
    (ends : (core'.conn j).thread.ends = true) : (core'.conn j).channelOpen = false := by
  have before := agreeing.closed j
  have after : ∀ {ending : Bool}, (core.conn j).thread.ends = ending → (afterRemoval ending).ends = true →
      (core.conn j).channelOpen = false := by
    intro ending isThread ends
    cases ending with
    | false => cases ends
    | true => exact before isThread
  obtain ⟨c,posts,moves,isConn⟩ := does.moves j
  rw [isConn] at ends ⊢
  change c.thread.ends = true at ends
  change c.channelOpen = false
  cases moves with
  | stays => exact before ends
  | changed changes =>
    cases changes with
    | @received _ reply rest isIdle waiting =>
      have stays := ends_process (c := { core.conn j with up := rest }) isIdle (Conn.processes _ reply)
      exact absurd (stays.symm.trans ends) (by simp)
    | broken => rfl
    | disconnected isClosed first isIdle => exact isClosed
    | considered isThread isId => exact absurd ((ends_roleChanged setup _ _).symm.trans ends) (by simp)
    | notFound isThread isId other => exact after (by rw [isThread]; rfl) ends
    | unreported isThread evicted => exact after (by rw [isThread]; rfl) ends
    | _ => first | exact before ends | cases ends
  | goes goes => exact before (goes.ends ends)
  | entered isThread => cases ends
  | failed isThread noId => cases ends
  | evicted isThread goes =>
    rcases goes with rfl | goes
    · exact before ends
    · exact before (goes.ends ends)
  | closed isThread goes => rfl
  | interrupted isEvent isClosed atWork isReady => exact isClosed
  | visited isTask visits => cases visits <;> first | rfl | exact before ends

/-- A thread goes on from the end of the handshake with the switch among the connected ones. -/
theorem Does.inserted (does : Does setup core e core') {j : Nat} (isThread : (core.conn j).thread = .entering)
    (goesOn : (core'.conn j).thread ≠ .entering) : j ∈ core'.connectedSwitches := by
  by_cases own : ∃ now failing, e = .thread j now failing
  · obtain ⟨now,failing,rfl⟩ := own
    cases does with
    | submitted inside wasThread isFree isRole => exact List.mem_insert_self
    | entered inside wasThread isFree noRole => exact List.mem_insert_self
    | changed inside changes => cases changes <;> simp_all
    | _ => simp_all
  · refine absurd ?_ goesOn
    exact (does.thread_eq (fun now failing isOwn => own ⟨now,failing,isOwn⟩) (by simp [isThread])).trans isThread

/-- A switch leaves the connected ones by the last steps of its own thread, or when its
    channel is closed. -/
theorem Does.stays_connected (does : Does setup core e core') {j : Nat} (member : j ∈ core.connectedSwitches) :
    j ∈ core'.connectedSwitches ∨ (core'.conn j).thread = .disconnecting ∨ (core'.conn j).channelOpen = false := by
  cases does with
  | submitted inside wasThread isFree isRole => exact .inl (List.mem_insert_of_mem member)
  | entered inside wasThread isFree noRole => exact .inl (List.mem_insert_of_mem member)
  | @left i now failing inside wasThread isFree =>
    by_cases same : j = i
    · subst same
      refine .inr (.inl ?_)
      change ((core.goTo j _).conn j).thread = .disconnecting
      rw [conn_goTo,if_pos rfl]
    · exact .inl ((List.mem_erase_of_ne same).mpr member)
  | @interrupted i dpid inside isClosed first atWork isReady isId =>
    by_cases same : j = i
    · subst same
      refine .inr (.inr ?_)
      change ((core.setConn j _).conn j).channelOpen = false
      rw [conn_setConn,if_pos rfl]
      exact isClosed
    · exact .inl ((List.mem_erase_of_ne same).mpr member)
  | _ => exact .inl member

theorem ready_of_process {c c' : Conn} {reply : Reply} (processes : c.Processes reply c') (isReady : c'.hsState = .ready)
    (goesOn : c'.thread ≠ .entering) : c.hsState = .ready := by
  cases processes with
  | greeted isStart => cases isReady
  | identified isHello => cases isReady
  | completed isFeatures => exact absurd rfl goesOn
  | finished expected isFeatures => exact absurd rfl goesOn
  | _ => exact isReady

/-- The handshake ends where the thread is about to enter the switch. -/
theorem Moves.ready_before {j : Nat} {c : Conn} (moves : Moves setup core e j c) (isReady : c.hsState = .ready)
    (goesOn : c.thread ≠ .entering) : (core.conn j).hsState = .ready := by
  cases moves with
  | changed changes =>
    cases changes with
    | @received _ reply rest isIdle waiting =>
      exact ready_of_process (c := { core.conn j with up := rest }) (Conn.processes _ reply) isReady goesOn
    | _ => exact isReady
  | visited isTask visits => cases visits <;> exact isReady
  | _ => exact isReady

theorem Agreeing.step_joined (agreeing : Agreeing core) (does : Does setup core e core') (j : Nat)
    (isReady : (core'.conn j).hsState = .ready) (goesOn : (core'.conn j).thread ≠ .entering)
    (isOpen : (core'.conn j).channelOpen = true) : j ∈ core'.connectedSwitches := by
  by_cases isThread : (core.conn j).thread = .entering
  · exact does.inserted isThread goesOn
  · have wasReady : (core.conn j).hsState = .ready := by
      obtain ⟨c,posts,moves,isConn⟩ := does.moves j
      rw [isConn] at isReady goesOn
      exact moves.ready_before isReady goesOn
    rcases does.stays_connected (agreeing.joined j wasReady isThread (does.opens isOpen)) with
      member | isLast | isClosed
    · exact member
    · have isClosed := agreeing.step_closed does j (by rw [isLast]; rfl)
      exact absurd (isClosed.symm.trans isOpen) (by simp)
    · exact absurd (isClosed.symm.trans isOpen) (by simp)

theorem Agreeing.step (agreeing : Agreeing core) (does : Does setup core e core') (honest : Honest e)
    (isOrdered : inOrder core e = true) (talking : Talking setup core) : Agreeing core' where
  queued := agreeing.queued.step does
  free := agreeing.step_free does
  latest := agreeing.step_latest does honest isOrdered talking
  joined := agreeing.step_joined does
  closed := agreeing.step_closed does

theorem agreeing_run {events : List Event} (honest : ∀ e ∈ events, Honest e)
    (ordered : Run.Steps (step setup) (fun s e => inOrder s e = true) (init setup) events)
    (ran : Run.run (step setup) (init setup) events = some core) : Talking setup core ∧ Agreeing core :=
  Run.run_preserves
    (fun s e _ (meets : inOrder s e = true ∧ Honest e) (kept : Talking setup s ∧ Agreeing s) stepped =>
      ⟨kept.1.step (does_step stepped) meets.2,kept.2.step (does_step stepped) meets.2 meets.1 kept.1⟩)
    (Run.steps_and ordered (Run.steps_of_forall honest _)) ⟨talking_init,agreeing_init⟩ ran

theorem Agreeing.settled (agreeing : Agreeing core) (talking : Talking setup core) (isFree : core.worker = none)
    (noRequest : ∀ task ∈ core.pendingTasks, task.isTimeout = true) {i : Nat} (isOpen : (core.conn i).channelOpen = true)
    (isIdle : (core.conn i).thread = .idle) (received : (core.conn i).up = [] ∧ (core.conn i).down = []) :
    (core.conn i).role = core.role := by
  obtain ⟨isReady,noPending⟩ := (talking.conns i).settled isOpen received.1 received.2
  have latest := agreeing.latest i (agreeing.joined i isReady (by simp [isIdle]) isOpen)
  have noTask : core.pendingTasks.filterMap (·.requests i) = [] := by
    rw [List.filterMap_eq_nil_iff]
    intro task member
    exact if_neg (by simp [noRequest task member])
  rw [← latest]
  simp [destined,working,Conn.destined,isFree,noTask,noPending]

/-- Where the worker takes the requests by their deadlines, a switch has the role of the
    controller once all requests were passed on and answered. -/
theorem roles_agree {events : List Event} (honest : ∀ e ∈ events, Honest e)
    (ordered : Run.Steps (step setup) (fun s e => inOrder s e = true) (init setup) events)
    (ran : Run.run (step setup) (init setup) events = some core) (isFree : core.worker = none)
    (noRequest : ∀ task ∈ core.pendingTasks, task.isTimeout = true) {i : Nat} (isOpen : (core.conn i).channelOpen = true)
    (isIdle : (core.conn i).thread = .idle) (received : (core.conn i).up = [] ∧ (core.conn i).down = []) :
    (core.conn i).role = core.role := by
  obtain ⟨talking,agreeing⟩ := agreeing_run honest ordered ran
  exact agreeing.settled talking isFree noRequest isOpen isIdle received

/-- A controller that starts as the master, and an access point. -/
def ruled : Setup := ⟨fun _ => ⟨false,0x020000000001,⟨10,0,0,1⟩⟩,some .master,false⟩

/-- The access point has completed the handshake, and the first request is submitted. -/
def joins : List Event :=
  [.connect,.agent 0,.receive 0,.agent 0,.receive 0,.agent 0,.agent 0,.agent 0,.receive 0,.receive 0,.thread 0 1000000000 []]

/-- The role is changed twice while requests are on their way. -/
def turns : List Event :=
  joins ++ [.setRole .slave 1005000000,.takeTask 0,.setRole .equal 1006000000,.work,.work,.agent 0,.takeTask 0,.work,
    .receive 0,.work,.takeTask 0,.thread 0 0 [],.thread 0 0 [],.thread 0 0 [],.thread 0 0 [],.work,.work,.agent 0,.agent 0,
    .agent 0,.receive 0,.thread 0 0 [],.thread 0 0 [],.thread 0 0 [],.receive 0,.thread 0 0 [],.thread 0 0 [],.thread 0 0 []]

theorem turns_agree : ∃ core, Run.run (step ruled) (init ruled) turns = some core ∧ core.role = some .equal ∧
    (core.conn 0).role = some .equal := by
  obtain ⟨core,ran,isRole,isFree,noRequest,isOpen,isIdle,received⟩ : ∃ core, Run.run (step ruled) (init ruled) turns = some core ∧
      core.role = some .equal ∧ core.worker = none ∧ (∀ task ∈ core.pendingTasks, task.isTimeout = true) ∧
      (core.conn 0).channelOpen = true ∧ (core.conn 0).thread = .idle ∧ (core.conn 0).up = [] ∧ (core.conn 0).down = [] :=
    Run.exists_run (by decide +kernel)
  have ordered : Run.Steps (step ruled) (fun s e => inOrder s e = true) (init ruled) turns :=
    Run.steps_of_check (fun _ _ => id) (by decide +kernel)
  exact ⟨core,ran,isRole,(roles_agree (by decide +kernel) ordered ran isFree noRequest isOpen isIdle received).trans isRole⟩

-- Taken out of order, the older request has the last word.
example : ∃ core, Run.run (step ruled) (init ruled) (joins ++
    [.setRole .slave 1005000000,.takeTask 1,.work,.work,.takeTask 0,.work,.work,.agent 0,.agent 0,.receive 0,
      .thread 0 0 [],.receive 0,.thread 0 0 [],.thread 0 0 [],.thread 0 0 []]) = some core ∧
      core.role = some .slave ∧ (core.conn 0).role = some .master ∧ (core.conn 0).channelOpen = true ∧
      (core.conn 0).thread = .idle ∧ (core.conn 0).up = [] ∧ (core.conn 0).down = [] :=
  Run.exists_run (by decide +kernel)

/-! ### The timeouts -/

/-- When the request of a task was submitted to run. -/
def submitTime (task : RoleChangeTask) : Int := if task.isTimeout then task.deadline - timeout else task.deadline

/-- The deadlines of the requests that are submitted in a run. -/
def deadlines (setup : Setup) : Core → List Event → List Int
  | _,[] => []
  | core,e :: rest =>
    match step setup core e with
    | none => []
    | some next =>
      if next.lastSubmitTime = core.lastSubmitTime then deadlines setup next rest
      else next.lastSubmitTime :: deadlines setup next rest

/-- The times that tasks and cookies carry are those of requests. -/
structure Dated (times : List Int) (core : Core) : Prop where
  tasks : ∀ task ∈ core.pendingTasks, submitTime task ∈ times
  worker : ∀ task rest, core.worker = some (task,rest) → submitTime task ∈ times
  cookies : ∀ i, ∀ entry ∈ (core.conn i).pendingRoleRequests, entry.cookie ∈ times

theorem Dated.mono {times times' : List Int} (dated : Dated times core) (more : times ⊆ times') : Dated times' core :=
  ⟨fun task member => more (dated.tasks task member),fun task rest isTask => more (dated.worker task rest isTask),
    fun i entry member => more (dated.cookies i entry member)⟩

theorem submitTime_visit {task task' : RoleChangeTask} {c c' : Conn} {i : Nat} (visits : Visits task c i task' c') :
    submitTime task' = submitTime task := by
  cases visits <;> rfl

theorem pending_process {c c' : Conn} {reply : Reply} (processes : c.Processes reply c') :
    c'.pendingRoleRequests ⊆ c.pendingRoleRequests := by
  cases processes with
  | mismatched isRole waits apart => rw [waits]; exact List.subset_cons_self _ _
  | agreed isRole waits same => rw [waits]; exact List.subset_cons_self _ _
  | declined waits => rw [waits]; exact List.subset_cons_self _ _
  | _ => exact List.Subset.refl _

/-- A request is sent with the time at which it was submitted. -/
theorem Moves.pending {j : Nat} {c : Conn} (moves : Moves setup core e j c) {entry : PendingRoleRequestEntry}
    (member : entry ∈ c.pendingRoleRequests) : entry ∈ (core.conn j).pendingRoleRequests ∨
      ∃ task rest, core.worker = some (task,rest) ∧ task.isTimeout = false ∧ entry.cookie = task.deadline := by
  cases moves with
  | changed changes =>
    cases changes with
    | @received _ reply rest isIdle waiting =>
      exact .inl (pending_process (c := { core.conn j with up := rest }) (Conn.processes _ reply) member)
    | _ => exact .inl member
  | @visited task task' rest c isTask visits =>
    cases visits with
    | requested isRequest supported =>
      rcases List.mem_append.mp member with before | isNew
      · exact .inl before
      · cases List.mem_singleton.mp isNew
        exact .inr ⟨_,_,isTask,isRequest,rfl⟩
    | _ => exact .inl member
  | _ => exact .inl member

theorem Dated.submit {times : List Int} (dated : Dated times core) (switches : List Nat) (role : Role) (now : Int) :
    Dated ((core.submitRequest switches role now).lastSubmitTime :: times) (core.submitRequest switches role now) := by
  have kept := dated.mono (List.subset_cons_self (core.submitRequest switches role now).lastSubmitTime times)
  refine ⟨fun task member => ?_,kept.worker,kept.cookies⟩
  rcases List.mem_append.mp member with before | isNew
  · exact kept.tasks task before
  · cases List.mem_singleton.mp isNew
    exact List.mem_cons_self

/-- A step submits at most one request, and the time of that is then the last one. -/
theorem Dated.step {times : List Int} (dated : Dated times core) (does : Does setup core e core') :
    Dated (if core'.lastSubmitTime = core.lastSubmitTime then times else core'.lastSubmitTime :: times) core' := by
  have cookies : ∀ i, ∀ entry ∈ (core'.conn i).pendingRoleRequests, entry.cookie ∈ times := by
    intro i entry member
    obtain ⟨c,posts,moves,isConn⟩ := does.moves i
    rw [isConn] at member
    rcases moves.pending member with before | ⟨task,rest,isTask,isRequest,isCookie⟩
    · exact dated.cookies i entry before
    · have worker := dated.worker task rest isTask
      rwa [submitTime,isRequest,← isCookie] at worker
  have unchanged : core'.lastSubmitTime = core.lastSubmitTime → Dated times core' →
      Dated (if core'.lastSubmitTime = core.lastSubmitTime then times else core'.lastSubmitTime :: times) core' :=
    fun same dated => by rwa [if_pos same]
  cases does with
  | @submitted i now failing role inside isThread isFree isRole =>
    have kept : Dated times { core.goTo i .idle with connectedSwitches := core.connectedSwitches.insert i } :=
      ⟨dated.tasks,dated.worker,cookies⟩
    convert kept.submit [i] role now using 1
    exact if_neg (lt_submit _ [i] role now).ne'
  | @roleSet role now isFree apart =>
    have kept : Dated times { core with role := some role } := ⟨dated.tasks,dated.worker,cookies⟩
    convert kept.submit core.connectedSwitches role now using 1
    exact if_neg (lt_submit _ core.connectedSwitches role now).ne'
  | taken isFree isTask =>
    refine unchanged rfl ⟨fun task member => dated.tasks task (List.mem_of_mem_eraseIdx member),?_,cookies⟩
    rintro task rest ⟨⟩
    exact dated.tasks _ (List.mem_of_getElem? isTask)
  | visited isTask visits =>
    refine unchanged rfl ⟨dated.tasks,?_,cookies⟩
    rintro task rest ⟨⟩
    rw [submitTime_visit visits]
    exact dated.worker _ _ isTask
  | worked isTask isTimeout =>
    refine unchanged rfl ⟨dated.tasks,?_,cookies⟩
    rintro task rest ⟨⟩
  | scheduled isTask isRequest =>
    refine unchanged rfl ⟨fun task member => ?_,?_,cookies⟩
    · rcases List.mem_append.mp member with before | isNew
      · exact dated.tasks task before
      · cases List.mem_singleton.mp isNew
        have worker := dated.worker _ _ isTask
        simpa [submitTime,isRequest] using worker
    · rintro task rest ⟨⟩
  | _ => exact unchanged rfl ⟨dated.tasks,dated.worker,cookies⟩

theorem dated_run {times : List Int} {events : List Event} (dated : Dated times core)
    (ran : Run.run (Core.step setup) core events = some core') : Dated (deadlines setup core events ++ times) core' := by
  induction events generalizing core times with
  | nil =>
    cases ran
    exact dated
  | cons e rest ih =>
    obtain ⟨next,stepped,ran⟩ := (Run.run_cons _ _ _ _).mp ran
    have after := ih (dated.step (does_step stepped)) ran
    refine after.mono ?_
    simp only [deadlines,stepped]
    split
    · exact List.Subset.refl _
    · intro time member
      simp only [List.mem_append,List.mem_cons] at member ⊢
      tauto

/-- Where no two requests were submitted to run just 15 seconds apart, verifying the replies
    leaves every channel open, whether or not the switch has replied. -/
theorem verification_void {events : List Event} (ran : Run.run (step setup) (init setup) events = some core)
    (apart : ∀ time ∈ deadlines setup (init setup) events, time + timeout ∉ deadlines setup (init setup) events)
    {task : RoleChangeTask} {i : Nat} {rest : List Nat} (isTask : core.worker = some (task,i :: rest))
    (isTimeout : task.isTimeout = true) : core.work = some { core with worker := some (task,rest) } := by
  have start : Dated [] (init setup) := ⟨by simp [init],by simp [init],by simp [init,Conn.create]⟩
  have dated := dated_run start ran
  rw [List.append_nil] at dated
  have missed : (core.conn i).checkFirstPendingRoleRequestCookie task.deadline = false := by
    unfold Conn.checkFirstPendingRoleRequestCookie
    split
    · rfl
    · rename_i head later pending
      rw [decide_eq_false_iff_not]
      intro isCookie
      have cookie := dated.cookies i head (pending ▸ List.mem_cons_self)
      have worker := dated.worker task _ isTask
      rw [submitTime,if_pos isTimeout] at worker
      refine apart _ worker ?_
      rwa [sub_add_cancel,← isCookie]
  simp [work,isTask,isTimeout,missed]

/-- The access point does not answer, and its time is over. -/
def unanswered : List Event := joins ++ [.takeTask 0,.work,.work,.takeTask 0]

theorem unanswered_stays : ∃ core, Run.run (step ruled) (init ruled) unanswered = some core ∧
    (core.conn 0).pendingRoleRequests.length = 1 ∧ (core.conn 0).channelOpen = true ∧
    core.work = some { core with worker := some (⟨[0],.master,true,16000000000⟩,[]) } := by
  obtain ⟨core,ran,one,isOpen,isTask⟩ : ∃ core, Run.run (step ruled) (init ruled) unanswered = some core ∧
      (core.conn 0).pendingRoleRequests.length = 1 ∧ (core.conn 0).channelOpen = true ∧
      core.worker = some (⟨[0],.master,true,16000000000⟩,[0]) := Run.exists_run (by decide +kernel)
  exact ⟨core,ran,one,isOpen,verification_void ran (by decide +kernel) isTask rfl⟩

end Core
end Handover.OpenFlow
