import Handover.ActiveSwitches

/-!
How the controller finds the gateway. When a switch is added its flows are cleared, and the
gateway takes that as the occasion to announce itself. A gateway may lose its connection
and come back while the old one is still registered, evicted or reported as removed; once
nothing is left to do, `gwSwitch` is the connection of the gateway that is open, and it is
none if there is no such connection.
-/
namespace Handover.OpenFlow

/-- The steps of `addSwitch` and before it. -/
def Thread.adds : Thread → Bool
  | .entering => true
  | .clearing _ => true
  | .putting _ => true
  | .evicting _ _ => true
  | .closing _ _ => true
  | .adding _ => true
  | _ => false

/-- The steps before the flows of a switch are cleared. -/
def Thread.early : Thread → Bool
  | .entering => true
  | .clearing _ => true
  | _ => false

namespace Conn

/-- What the connection sends is taken, and its switch has not been evicted. -/
def Reaches (c : Conn) : Prop := c.channelOpen = true ∧ c.connected = true

/-- How far the announcement of a connection is: nothing is said of it before the flows
    are cleared, and nothing is handled of it before the switch has been added. Of a
    gateway whose channel is open and that is not evicted it is not lost. -/
structure Announcing (gateway announced : Prop) (c : Conn) : Prop where
  unready : c.hsState ≠ .ready →
    .flowModDelete ∉ c.down ∧ .wlan .gwConnect ∉ c.up ∧ c.thread ≠ .dispatching .gwConnect ∧ ¬ announced
  adds : c.thread.adds = true → ¬ announced
  pending : gateway → c.hsState = .ready → c.thread.early = false → c.Reaches →
    .flowModDelete ∈ c.down ∨ .wlan .gwConnect ∈ c.up ∨ c.thread = .dispatching .gwConnect ∨ announced

variable {gateway announced : Prop} {c c' : Conn}

theorem announcing_create : Announcing gateway False .create where
  unready _ := by simp [create]
  adds := by simp [create,Thread.adds]
  pending _ isReady := by simp [create] at isReady

theorem Announcing.write (announcing : Announcing gateway announced c) {requests : List Request}
    (others : .flowModDelete ∉ requests) : Announcing gateway announced (c.write requests) where
  unready notReady := by
    obtain ⟨noClear,noAnnouncement,thread,notYet⟩ := announcing.unready notReady
    refine ⟨?_,noAnnouncement,thread,notYet⟩
    unfold Conn.write
    dsimp only
    split
    · simp [noClear,others]
    · exact noClear
  adds := announcing.adds
  pending isGateway isReady late reaches := by
    rcases announcing.pending isGateway isReady late reaches with clears | later
    · refine .inl ?_
      unfold Conn.write
      dsimp only
      split
      · exact List.mem_append_left _ clears
      · exact clears
    · exact .inr later

/-- The channel is lost. -/
theorem Announcing.close (announcing : Announcing gateway announced c) : Announcing gateway announced c.close where
  unready := announcing.unready
  adds := announcing.adds
  pending _ _ _ reaches := by cases reaches.1

/-- Another connection takes the place of this one. -/
theorem Announcing.evict (announcing : Announcing gateway announced c) :
    Announcing gateway announced { c with connected := false } where
  unready := announcing.unready
  adds := announcing.adds
  pending _ _ _ reaches := by cases reaches.2

/-- The thread goes on. An announcement that it is at is handled by that. -/
theorem Announcing.goTo (announcing : Announcing gateway announced c) {thread : Thread} {announced' : Prop}
    (same : announced' → announced ∨ c.thread = .dispatching .gwConnect) (more : announced → announced')
    (adds : thread.adds = true → c.thread.adds = true) (isOther : thread ≠ .dispatching .gwConnect)
    (late : c.Reaches → c.thread.early = false ∨ thread.early = true)
    (handled : c.Reaches → c.thread = .dispatching .gwConnect → announced') :
    Announcing gateway announced' { c with thread := thread } where
  unready notReady := by
    obtain ⟨noClear,noAnnouncement,wasOther,notYet⟩ := announcing.unready notReady
    exact ⟨noClear,noAnnouncement,isOther,fun isNow => (same isNow).elim notYet wasOther⟩
  adds isAdding isNow := by
    have wasAdding := adds isAdding
    rcases same isNow with before | isThread
    · exact announcing.adds wasAdding before
    · rw [isThread] at wasAdding
      cases wasAdding
  pending isGateway isReady isLate reaches := by
    rcases late reaches with wasLate | isEarly
    · rcases announcing.pending isGateway isReady wasLate reaches with clears | sent | isThread | before
      · exact .inl clears
      · exact .inr (.inl sent)
      · exact .inr (.inr (.inr (handled reaches isThread)))
      · exact .inr (.inr (.inr (more before)))
    · exact absurd (isEarly.symm.trans isLate) (by simp)

/-- A reply is taken off that is no announcement. -/
theorem Announcing.skip {reply : Reply} {rest : List Reply} (announcing : Announcing gateway announced c)
    (waiting : c.up = reply :: rest) (other : reply ≠ .wlan .gwConnect) :
    Announcing gateway announced { c with up := rest } where
  unready notReady := by
    obtain ⟨noClear,noAnnouncement,thread,notYet⟩ := announcing.unready notReady
    exact ⟨noClear,fun sent => noAnnouncement (waiting ▸ List.mem_cons_of_mem _ sent),thread,notYet⟩
  adds := announcing.adds
  pending isGateway isReady late reaches := by
    rcases announcing.pending isGateway isReady late reaches with clears | sent | later
    · exact .inl clears
    · rw [waiting] at sent
      exact .inr (.inl (List.mem_of_ne_of_mem (Ne.symm other) sent))
    · exact .inr (.inr later)

/-- Fields that the announcement does not depend on. -/
theorem Announcing.congr (announcing : Announcing gateway announced c) (up : c'.up = c.up) (down : c'.down = c.down)
    (hsState : c'.hsState = c.hsState) (thread : c'.thread = c.thread) (channelOpen : c'.channelOpen = c.channelOpen)
    (connected : c'.connected = c.connected) : Announcing gateway announced c' := by
  refine ⟨?_,?_,?_⟩
  · rw [hsState,down,up,thread]
    exact announcing.unready
  · rw [thread]
    exact announcing.adds
  · rw [hsState,down,up,thread,Reaches,channelOpen,connected]
    exact announcing.pending

/-- The handshake goes on, up to where the switch is added. -/
theorem Announcing.advance (announcing : Announcing gateway announced c) (notReady : c.hsState ≠ .ready)
    (hsState : HandshakeState) {thread : Thread}
    (next : hsState ≠ .ready ∧ thread = c.thread ∨ thread = .entering) :
    Announcing gateway announced { c with hsState := hsState, thread := thread } := by
  obtain ⟨noClear,noAnnouncement,isOther,notYet⟩ := announcing.unready notReady
  refine ⟨fun _ => ⟨noClear,noAnnouncement,?_,notYet⟩,fun _ => notYet,fun _ isReady late _ => ?_⟩
  · rcases next with ⟨_,rfl⟩ | rfl
    · exact isOther
    · simp
  · rcases next with ⟨stillNot,_⟩ | rfl
    · exact absurd isReady stillNot
    · cases late

theorem Announcing.process {reply : Reply} {rest : List Reply} (announcing : Announcing gateway announced c)
    (isIdle : c.thread = .idle) (waiting : c.up = reply :: rest)
    (processes : ({ c with up := rest } : Conn).Processes reply c') : Announcing gateway announced c' := by
  by_cases isAnnouncement : reply = .wlan .gwConnect
  · subst isAnnouncement
    cases processes with
    | refused unexpected => cases unexpected
    | taken =>
      have isReady : c.hsState = .ready := by
        by_contra notReady
        exact (announcing.unready notReady).2.1 (waiting ▸ List.mem_cons_self)
      refine ⟨fun notReady => absurd isReady notReady,fun adds => ?_,fun _ _ _ _ => .inr (.inr (.inl rfl))⟩
      cases adds
  · have skipped := announcing.skip waiting isAnnouncement
    have goes : ∀ {thread : Thread}, thread.adds = false → thread ≠ .dispatching .gwConnect →
        Announcing gateway announced { ({ c with up := rest } : Conn) with thread := thread } :=
      fun noAdd isOther => skipped.goTo .inl id (fun adds => absurd (noAdd.symm.trans adds) (by simp)) isOther
        (fun _ => .inl (by show c.thread.early = false; rw [isIdle]; rfl))
        (fun _ isThread => absurd (isIdle.symm.trans isThread) (by simp))
    cases processes with
    | refused unexpected => exact skipped.close
    | greeted isStart =>
      have isStart : c.hsState = .start := isStart
      exact (skipped.advance (by simp [isStart]) _ (.inl ⟨by simp,rfl⟩)).write (by simp)
    | echoed => exact skipped.write (by simp)
    | identified isHello =>
      have isHello : c.hsState = .hello := isHello
      have asked : Announcing gateway announced (({ c with up := rest, hsState := .featuresReply } : Conn).write
          [.setConfig 0xffff,.getConfigRequest,.statsRequest (c.transactionIdSource + 1)]) :=
        (skipped.advance (by simp [isHello]) _ (.inl ⟨by simp,rfl⟩)).write (by simp)
      exact asked.congr rfl rfl rfl rfl rfl rfl
    | completed isFeatures complete =>
      have isFeatures : c.hsState = .featuresReply := isFeatures
      exact (skipped.advance (by simp [isFeatures]) .ready (.inr rfl)).congr rfl rfl rfl rfl rfl rfl
    | finished expected isFeatures complete =>
      have isFeatures : c.hsState = .featuresReply := isFeatures
      exact (skipped.advance (by simp [isFeatures]) .ready (.inr rfl)).congr rfl rfl rfl rfl rfl rfl
    | @taken msg => exact goes rfl (fun isThread => isAnnouncement (by rw [Thread.dispatching.inj isThread]))
    | unasked noneIs => exact (goes rfl (by simp)).close.congr rfl rfl rfl rfl rfl rfl
    | mismatched isRole waits apart => exact (goes rfl (by simp)).close.congr rfl rfl rfl rfl rfl rfl
    | agreed isRole waits same => exact (goes rfl (by simp)).congr rfl rfl rfl rfl rfl rfl
    | declined waits => exact (goes rfl (by simp)).congr rfl rfl rfl rfl rfl rfl
    | _ => exact skipped.congr rfl rfl rfl rfl rfl rfl

end Conn

namespace Core
open Handover.Controller (Overlap)

variable {setup : Setup} {core core' : Core} {e : Event}

/-- The announcement of the connection has been handled. -/
def Announced (setup : Setup) (told : List Controller.Event) (i : Nat) : Prop :=
  ∃ failing, .receive (setup.sw i) .gwConnect failing ∈ told

theorem announced_concat {told : List Controller.Event} {call : Controller.Event} {i : Nat} :
    Announced setup (told ++ [call]) i ↔ Announced setup told i ∨ ∃ failing, call = .receive (setup.sw i) .gwConnect failing := by
  constructor
  · rintro ⟨failing,member⟩
    rcases List.mem_append.mp member with before | isCall
    · exact .inl ⟨failing,before⟩
    · exact .inr ⟨failing,(List.mem_singleton.mp isCall).symm⟩
  · rintro (⟨failing,before⟩ | ⟨failing,rfl⟩)
    · exact ⟨failing,List.mem_append_left _ before⟩
    · exact ⟨failing,by simp⟩

theorem announces_agent {i : Nat} {missSendLen : UInt16} {request : Request}
    (sent : .wlan .gwConnect ∈ ((setup.peer i).processControllerMsg missSendLen request).2) : request = .flowModDelete := by
  cases request with
  | flowModDelete => rfl
  | _ => simp [Peer.processControllerMsg] at sent

/-- A step of the connection alone. -/
theorem Changes.announcing {i : Nat} {c : Conn} {announced : Prop} (changes : Changes setup core e i c)
    (isPlain : plain e = true) (steady : Steady setup core) (announcing : (core.conn i).Announcing ((setup.peer i).gateway = true) announced) :
    c.Announcing ((setup.peer i).gateway = true) announced := by
  have talks := steady.talking.conns i
  have usual := steady.calm.usual i
  have closes := steady.calm.closes i
  -- The steps of `channelDisconnected`.
  have leaves : ∀ {thread next : Thread}, (core.conn i).thread = thread → thread.closes = true → next.adds = false →
      next ≠ .dispatching .gwConnect →
      Conn.Announcing ((setup.peer i).gateway = true) announced { core.conn i with thread := next } := by
    intro thread next isThread isClosing noAdd isOther
    have isClosed := (closes (by rw [isThread]; exact isClosing)).1
    exact announcing.goTo .inl id (fun adds => absurd (noAdd.symm.trans adds) (by simp)) isOther
      (fun reaches => absurd (reaches.1.symm.trans isClosed) (by simp))
      (fun reaches => absurd (reaches.1.symm.trans isClosed) (by simp))
  cases changes with
  | @answered _ request rest waiting =>
    refine ⟨fun notReady => ?_,announcing.adds,fun isGateway isReady late reaches => ?_⟩
    · obtain ⟨noClear,noAnnouncement,thread,notYet⟩ := announcing.unready notReady
      refine ⟨fun clears => noClear (waiting ▸ List.mem_cons_of_mem _ clears),fun sent => ?_,thread,notYet⟩
      rcases List.mem_append.mp sent with before | isNew
      · exact noAnnouncement before
      · cases announces_agent isNew
        exact noClear (waiting ▸ List.mem_cons_self)
    · rcases announcing.pending isGateway isReady late reaches with clears | sent | later
      · rw [waiting] at clears
        rcases List.mem_cons.mp clears with rfl | inRest
        · exact .inr (.inl (List.mem_append_right _ (by simp [Peer.processControllerMsg,isGateway])))
        · exact .inl inRest
      · exact .inr (.inl (List.mem_append_left _ sent))
      · exact .inr (.inr later)
  | @sent _ msg isAP own =>
    refine ⟨fun notReady => ?_,announcing.adds,fun isGateway => ?_⟩
    · obtain ⟨noClear,noAnnouncement,thread,notYet⟩ := announcing.unready notReady
      exact ⟨noClear,by simp [noAnnouncement,Ne.symm own],thread,notYet⟩
    · rw [isAP] at isGateway
      cases isGateway
  | injected => cases isPlain
  | interrupted => cases isPlain
  | received isIdle waiting => exact announcing.process isIdle waiting (Conn.processes _ _)
  | probed => exact announcing.write (by simp)
  | broken => exact announcing.close
  | disconnected isClosed first isIdle =>
    have closed : ∀ {p : Prop}, (core.conn i).Reaches → p := fun reaches => absurd (reaches.1.symm.trans isClosed) (by simp)
    unfold Conn.channelDisconnected
    split
    · exact (announcing.goTo .inl id (fun adds => by cases adds) (by simp) closed closed).congr rfl rfl rfl rfl rfl rfl
    · exact announcing.congr rfl rfl rfl rfl rfl rfl
  | @ignored _ _ _ msg isThread deaf =>
    refine announcing.goTo .inl id (fun adds => by cases adds) (by simp) (fun _ => .inl (by rw [isThread]; rfl)) ?_
    intro reaches isAnnouncement
    have isReady : (core.conn i).hsState = .ready := by
      by_contra notReady
      exact (announcing.unready notReady).2.2.1 isAnnouncement
    simp [Conn.listens,isReady,reaches.2,(steady.noRoles.conns i).role] at deaf
  | @cleared _ _ _ locked isThread =>
    have isReady := talks.ready isThread rfl
    refine ⟨fun notReady => absurd isReady notReady,fun _ => announcing.adds (by rw [isThread]; rfl),fun _ _ _ reaches => ?_⟩
    have isOpen : (core.conn i).channelOpen = true := reaches.1
    exact .inl (by simp [Conn.write,isOpen])
  | considered isThread isId => rw [isThread] at usual; cases usual
  | refused isThread isSlave => rw [isThread] at usual; cases usual
  | thrown isThread noId =>
    have isReady : (core.conn i).hsState = .ready := by
      rcases isThread with isThread | ⟨_,isThread⟩ <;>
        exact talks.ready isThread rfl
    exact absurd ((talks.isId isReady).symm.trans noId) (by simp)
  | @notFound _ _ _ ending dpid isThread isId apart =>
    exact leaves isThread rfl (by cases ending <;> rfl) (by cases ending <;> simp [afterRemoval])
  | @unreported _ _ _ ending isThread evicted =>
    exact leaves isThread rfl (by cases ending <;> rfl) (by cases ending <;> simp [afterRemoval])
  | ended isThread =>
    have left : Conn.Announcing _ announced { core.conn i with thread := .idle } := leaves isThread rfl rfl (by simp)
    exact left.evict

/-- How far the announcements are, over all connections. -/
structure Announces (setup : Setup) (core : Core) : Prop where
  conns : ∀ i, (core.conn i).Announcing ((setup.peer i).gateway = true) (Announced setup core.told i)
  heard : ∀ sw msg failing, .receive sw msg failing ∈ core.told →
    sw = setup.sw sw.id ∧ sw.id < core.count ∧ (core.conn sw.id).hsState = .ready
  removed : ∀ sw, .removedSwitch sw ∈ core.told → sw = setup.sw sw.id
  connected : ∀ i, (core.conn i).channelOpen = true →
    (core.conn i).connected = true ∨ ∃ h locked, (core.conn h).thread = .closing i locked
  evicts : ∀ h old locked, (core.conn h).thread = .evicting old locked → core.activeSwitches (setup.key old) = some h
  newest : ∀ i, Announced setup core.told i → core.activeSwitches (setup.key i) = some i →
    (Controller.reached core.told).gwSwitch = some (setup.sw i)

theorem announces_init : Announces setup (init setup) where
  conns i := by
    rw [show Announced setup (init setup).told i ↔ False by simp [Announced,init]]
    exact Conn.announcing_create
  heard := by simp [init]
  removed := by simp [init]
  connected _ _ := .inl rfl
  evicts h old locked isThread := by cases isThread
  newest i announced := by simp [Announced,init] at announced

section
variable (steady : Steady setup core) (announces : Announces setup core)
include steady announces

/-- The connections go on with their announcements. -/
theorem Announces.step_conns (does : Does setup core e core') (isPlain : plain e = true) (j : Nat) :
    (core'.conn j).Announcing ((setup.peer j).gateway = true) (Announced setup core'.told j) := by
  have before := announces.conns
  have goes : ∀ {i : Nat} {thread next : Thread}, (core.conn i).thread = thread →
      (next.adds = true → thread.adds = true) → (∀ msg, next ≠ .dispatching msg) → (∀ msg, thread ≠ .dispatching msg) →
      (thread.early = false ∨ next.early = true) →
      ((core.goTo i next).conn j).Announcing ((setup.peer j).gateway = true) (Announced setup core.told j) := by
    intro i thread next isThread adds isOther wasOther late
    rw [conn_goTo]
    split
    · rename_i same
      subst same
      exact (before j).goTo .inl id (by rwa [isThread]) (isOther _) (fun _ => by rwa [isThread])
        (fun _ isAnnouncement => absurd (isThread.symm.trans isAnnouncement) (wasOther _))
    · exact before j
  -- The thread goes on after it has changed another connection.
  have turns : ∀ {i old : Nat} {c : Conn} {thread next : Thread}, c.thread = (core.conn old).thread →
      c.Announcing ((setup.peer old).gateway = true) (Announced setup core.told old) → (core.conn i).thread = thread →
      (∀ msg, next ≠ .dispatching msg) → (∀ msg, thread ≠ .dispatching msg) → (thread.early = false ∨ next.early = true) →
      (next.adds = true → thread.adds = true) →
      (((core.setConn old c).goTo i next).conn j).Announcing ((setup.peer j).gateway = true) (Announced setup core.told j) := by
    intro i old c thread next same kept isThread isOther wasOther late adds
    have isKept : ((core.setConn old c).conn j).Announcing ((setup.peer j).gateway = true) (Announced setup core.told j) := by
      rw [conn_setConn]
      split
      · rename_i isOld
        subst isOld
        exact kept
      · exact before j
    have stays : ((core.setConn old c).conn i).thread = thread := by
      rw [conn_setConn]
      split
      · rename_i isOld
        subst isOld
        exact same.trans isThread
      · exact isThread
    rw [conn_goTo]
    split
    · rename_i isHere
      subst isHere
      exact isKept.goTo .inl id (by rwa [stays]) (isOther _) (fun _ => by rwa [stays])
        (fun _ isAnnouncement => absurd (stays.symm.trans isAnnouncement) (wasOther _))
    · exact isKept
  have unchanged : ∀ {call : Controller.Event}, (∀ failing, call ≠ .receive (setup.sw j) .gwConnect failing) →
      (Announced setup (core.told ++ [call]) j ↔ Announced setup core.told j) := by
    intro call isOther
    rw [announced_concat]
    exact or_iff_left (fun ⟨failing,isCall⟩ => isOther failing isCall)
  cases does with
  | @changed _ i c inside changes =>
    rw [conn_setConn]
    split
    · rename_i same
      subst same
      exact changes.announcing isPlain steady (before j)
    · exact before j
  | @dispatched i now failing msg inside isThread listens =>
    change ((core.goTo i .idle).conn j).Announcing _ (Announced setup (core.told ++ [_]) j)
    rw [conn_goTo]
    split
    · rename_i same
      subst same
      refine (before j).goTo ?_ ?_ (fun adds => by cases adds) (by simp) (fun _ => .inl (by rw [isThread]; rfl)) ?_
      · intro isNow
        rcases announced_concat.mp isNow with earlier | ⟨failing',isCall⟩
        · exact .inl earlier
        · cases isCall
          exact .inr isThread
      · exact fun earlier => announced_concat.mpr (.inl earlier)
      · intro _ isAnnouncement
        cases isThread.symm.trans isAnnouncement
        exact announced_concat.mpr (.inr ⟨failing,rfl⟩)
    · rename_i apart
      rw [unchanged]
      · exact before j
      · intro failing' isCall
        cases sw_inj (Controller.Event.receive.inj isCall).1
        exact apart rfl
  | submitted inside isThread isFree isRole => rw [steady.noRoles.role] at isRole; cases isRole
  | @entered i now failing inside isThread isFree noRole =>
    change ((core.setConn i _).conn j).Announcing _ _
    rw [conn_setConn]
    split
    · rename_i same
      subst same
      have next : Conn.Announcing _ (Announced setup core.told j) { core.conn j with thread := .clearing true } :=
        (before j).goTo .inl id (fun _ => by rw [isThread]; rfl) (by simp) (fun _ => .inr rfl)
          (fun _ isAnnouncement => by rw [isThread] at isAnnouncement; cases isAnnouncement)
      exact next.congr rfl rfl rfl rfl rfl rfl
    · exact before j
  | failed inside isThread noId =>
    have isReady := (steady.talking.conns _).ready isThread rfl
    exact absurd (((steady.talking.conns _).isId isReady).symm.trans noId) (by simp)
  | put inside isThread isId isNew => exact goes isThread (fun _ => rfl) (by simp) (by simp) (.inl rfl)
  | putAgain inside isThread isId isActive => exact goes isThread (fun _ => rfl) (by simp) (by simp) (.inl rfl)
  | replaced inside isThread isId isActive apart => exact goes isThread (fun _ => rfl) (by simp) (by simp) (.inl rfl)
  | @evicted i now failing old locked inside isThread =>
    change (((core.setConn old _).goTo i _).conn j).Announcing _ (Announced setup (core.told ++ [_]) j)
    rw [unchanged (by simp)]
    exact turns (c := { core.conn old with connected := false }) rfl ((before old).evict) isThread (by simp) (by simp) (.inl rfl)
      (fun _ => rfl)
  | @closed i now failing old locked inside isThread =>
    exact turns (c := (core.conn old).close) rfl (before old).close isThread (by simp) (by simp) (.inl rfl) (fun _ => rfl)
  | @posted i msg inside =>
    rw [conn_setConn]
    split
    · rename_i same
      subst same
      exact (before j).write (by simp)
    · exact before j
  | interrupted => cases isPlain
  | added inside isThread => exact goes isThread (fun _ => rfl) (by simp) (by simp) (.inl rfl)
  | tolerated inside isThread isFree notSlave =>
    exact absurd (steady.calm.usual _) (by rw [isThread]; simp [Thread.strange])
  | removed inside isThread isId isActive => exact goes isThread (fun adds => by cases adds) (by simp) (by simp) (.inl rfl)
  | @reported i now failing ending inside isThread isConnected =>
    exact goes isThread (fun adds => by cases ending <;> cases adds) (by cases ending <;> simp [afterRemoval]) (by simp) (.inl rfl)
  | left inside isThread isFree => exact goes isThread (fun adds => by cases adds) (by simp) (by simp) (.inl rfl)
  | toldRemoved isNext =>
    change (core.conn j).Announcing _ (Announced setup (core.told ++ [_]) j)
    rw [unchanged (by simp)]
    exact before j
  | rehashed =>
    change (core.conn j).Announcing _ (Announced setup (core.told ++ [_]) j)
    rw [unchanged (by simp)]
    exact before j
  | visited isTask visits => rw [steady.noRoles.worker] at isTask; cases isTask
  | _ => exact before j

end

/-! ### Who is registered for the gateway -/

/-- Under a key the thread registers that is at `addSwitch`, and takes the connection out
    whose own thread does it. -/
theorem Does.active (does : Does setup core e core') (isPlain : plain e = true) (d : UInt64) :
    core'.activeSwitches d = core.activeSwitches d ∨
      (∃ i locked, (core.conn i).thread = .putting locked ∧ core'.activeSwitches d = some i) ∨
      ∃ i ending, (core.conn i).thread = .removing ending ∧ core.activeSwitches d = some i ∧ core'.activeSwitches d = none := by
  have put : ∀ {i : Nat} {dpid : UInt64},
      Function.update core.activeSwitches dpid (some i) d = core.activeSwitches d ∨
        Function.update core.activeSwitches dpid (some i) d = some i := by
    intro i dpid
    rw [Function.update_apply]
    split
    · exact .inr rfl
    · exact .inl rfl
  cases does with
  | put inside isThread isId isNew => exact put.imp id (fun isHere => .inl ⟨_,_,isThread,isHere⟩)
  | replaced inside isThread isId isActive other => exact put.imp id (fun isHere => .inl ⟨_,_,isThread,isHere⟩)
  | @removed i now failing ending dpid inside isThread isId isActive =>
    by_cases isKey : d = dpid
    · subst isKey
      exact .inr (.inr ⟨i,ending,isThread,isActive,Function.update_self ..⟩)
    · exact .inl (Function.update_of_ne isKey ..)
  | interrupted => cases isPlain
  | _ => exact .inl rfl

theorem evicting_process {c c' : Conn} {reply : Reply} {old : Nat} {locked : Bool} (processes : c.Processes reply c')
    (isThread : c'.thread = .evicting old locked) : c.thread = .evicting old locked := by
  cases processes <;> first | exact isThread | cases isThread

theorem Changes.evicting {i old : Nat} {c : Conn} {locked : Bool} (changes : Changes setup core e i c)
    (isThread : c.thread = .evicting old locked) : (core.conn i).thread = .evicting old locked := by
  have ends : ∀ {ending : Bool}, afterRemoval ending = .evicting old locked → False := by
    intro ending isNext
    cases ending <;> cases isNext
  cases changes with
  | @received _ reply rest isIdle waiting =>
    have before : ({ core.conn i with up := rest } : Conn).thread = .evicting old locked :=
      evicting_process (Conn.processes _ reply) isThread
    exact before
  | disconnected isClosed first isIdle =>
    simp only [Conn.channelDisconnected] at isThread
    split at isThread
    · cases isThread
    · exact isThread
  | considered wasThread isId =>
    simp only [roleChanged] at isThread
    split at isThread
    · split at isThread <;> cases isThread
    · split at isThread <;> cases isThread
  | notFound wasThread isId other => exact (ends isThread).elim
  | unreported wasThread evicted => exact (ends isThread).elim
  | _ => first | exact isThread | cases isThread

/-- A thread evicts whom it has found under its key. -/
theorem Does.evicting (does : Does setup core e core') {h old : Nat} {locked : Bool}
    (isThread : (core'.conn h).thread = .evicting old locked) :
    (core.conn h).thread = .evicting old locked ∨
      ∃ d, core.activeSwitches d = some old ∧ core'.activeSwitches d = some h := by
  by_contra neither
  rw [not_or] at neither
  have before : decide ((core.conn h).thread = .evicting old locked) = false := decide_eq_false neither.1
  suffices after : decide ((core'.conn h).thread = .evicting old locked) = false from of_decide_eq_false after isThread
  clear isThread
  have goes : ∀ {core' : Core} {i : Nat} {c : Conn}, decide ((core'.conn h).thread = .evicting old locked) = false →
      (i = h → c.thread ≠ .evicting old locked) → decide (((core'.setConn i c).conn h).thread = .evicting old locked) = false :=
    fun earlier next => field_setConn (fun c => decide (c.thread = .evicting old locked)) earlier (fun same => decide_eq_false (next same))
  have waits : ∀ {i : Nat} {c : Conn}, c.thread = (core.conn i).thread →
      decide (((core.setConn i c).conn h).thread = .evicting old locked) = false := by
    intro i c same
    refine goes before ?_
    rintro rfl
    rw [same]
    exact neither.1
  cases does with
  | changed inside changes =>
    refine goes before ?_
    rintro rfl isThread
    exact neither.1 (changes.evicting isThread)
  | replaced inside wasThread isId isActive other =>
    refine goes before ?_
    rintro rfl ⟨⟩
    exact neither.2 ⟨_,isActive,Function.update_self ..⟩
  | failed | evicted | closed => exact goes (waits rfl) (by simp)
  | @reported i now failing ending inside wasThread isConnected =>
    exact goes before (by cases ending <;> simp [afterRemoval])
  | visited isTask visits => exact waits visits.connected.2
  | posted | interrupted => exact waits rfl
  | dispatched | submitted | entered | put | putAgain | added | tolerated | removed | left => exact goes before (by simp)
  | _ => exact before

section
variable (announces : Announces setup core)
include announces

theorem Announces.removed_mem_told {i : Nat} (told : i ∈ core.register.told) : .removedSwitch (setup.sw i) ∈ core.told := by
  obtain ⟨call,member,isId⟩ := List.mem_filterMap.mp told
  cases call with
  | removedSwitch sw =>
    cases isId
    exact announces.removed sw member ▸ member
  | _ => cases isId

/-- A switch that is queued or was told to be gone is retired. -/
theorem Announces.retired {i : Nat} (gone : i ∈ core.register.queued ∨ i ∈ core.register.told) : Retired setup core i := by
  rcases gone with queued | told
  · obtain ⟨update,waiting,isId⟩ := List.mem_filterMap.mp queued
    cases update with
    | added j => cases isId
    | removed j =>
      cases isId
      exact .inl waiting
  · exact .inr (announces.removed_mem_told told)

theorem Announces.step_heard (does : Does setup core e core') (sw : IOFSwitch) (msg : ToController) (failing : List Nat)
    (member : .receive sw msg failing ∈ core'.told) :
    sw = setup.sw sw.id ∧ sw.id < core'.count ∧ (core'.conn sw.id).hsState = .ready := by
  have before : .receive sw msg failing ∈ core.told →
      sw = setup.sw sw.id ∧ sw.id < core'.count ∧ (core'.conn sw.id).hsState = .ready := by
    intro earlier
    obtain ⟨isSwitch,inside,isReady⟩ := announces.heard sw msg failing earlier
    exact ⟨isSwitch,inside.trans_le does.count,does.ready isReady⟩
  have last : ∀ {call : Controller.Event}, .receive sw msg failing ∈ core.told ++ [call] → call ≠ .receive sw msg failing →
      .receive sw msg failing ∈ core.told := by
    intro call member isOther
    rcases List.mem_append.mp member with earlier | isCall
    · exact earlier
    · exact absurd (List.mem_singleton.mp isCall).symm isOther
  have ready := fun j => does.ready (j := j)
  have count := does.count
  cases does with
  | @dispatched i now failing' msg' inside isThread listens =>
    by_cases isCall : Controller.Event.receive (setup.sw i) msg' failing' = .receive sw msg failing
    · cases isCall
      refine ⟨rfl,inside,ready i ?_⟩
      simp only [Conn.listens,Bool.and_eq_true,decide_eq_true_eq] at listens
      exact listens.1.2
    · exact before (last member isCall)
  | evicted inside isThread => exact before (last member (by simp))
  | toldRemoved isNext => exact before (last member (by simp))
  | rehashed => exact before (last member (by simp))
  | _ => exact before member

theorem Announces.step_removed (does : Does setup core e core') (sw : IOFSwitch) (member : .removedSwitch sw ∈ core'.told) :
    sw = setup.sw sw.id := by
  rcases does.told with same | ⟨call,calls,isTold⟩
  · exact announces.removed sw (same ▸ member)
  · rw [isTold] at member
    rcases List.mem_append.mp member with earlier | isCall
    · exact announces.removed sw earlier
    · cases List.mem_singleton.mp isCall
      cases calls with
      | evicted isThread => rfl
      | removed waiting => rfl

variable (steady : Steady setup core)
include steady

theorem Announces.step_evicts (does : Does setup core e core') (isPlain : plain e = true) (h old : Nat) (locked : Bool)
    (isThread : (core'.conn h).thread = .evicting old locked) : core'.activeSwitches (setup.key old) = some h := by
  rcases does.evicting isThread with same | ⟨d,isOld,isHere⟩
  · have isActive := announces.evicts h old locked same
    have isLock := steady.calm.locks h (by rw [same]; rfl)
    rcases does.active isPlain (setup.key old) with unchanged | ⟨i,locked',puts,_⟩ | ⟨i,ending,removes,isOther,_⟩
    · exact unchanged.trans isActive
    · have isLock' := steady.calm.locks i (by rw [puts]; rfl)
      cases isLock.symm.trans isLock'
      exact absurd (same.symm.trans puts) (by simp)
    · cases isActive.symm.trans isOther
      exact absurd (same.symm.trans removes) (by simp)
  · cases steady.exactly.own d old isOld
    exact isHere

/-- A switch is cut off from its open channel only by the thread that closes it next. -/
theorem Announces.step_connected (does : Does setup core e core') (isPlain : plain e = true) (i : Nat)
    (isOpen : (core'.conn i).channelOpen = true) :
    (core'.conn i).connected = true ∨ ∃ h locked, (core'.conn h).thread = .closing i locked := by
  rcases announces.connected i (does.opens isOpen) with isConnected | ⟨h,locked,isThread⟩
  · have same : ∀ {j : Nat} {c : Conn}, c.connected = (core.conn j).connected → ((core.setConn j c).conn i).connected = true := by
      intro j c same
      refine field_setConn Conn.connected isConnected ?_
      rintro rfl
      exact same.trans isConnected
    cases does with
    | @changed _ j c inside changes =>
      cases changes with
      | @received _ reply rest isIdle waiting =>
        exact .inl (same (connected_process (c := { core.conn j with up := rest }) (Conn.processes _ reply)))
      | ended isThread =>
        have isClosed := (steady.calm.closes j (by rw [isThread]; rfl)).1
        by_cases isHere : i = j
        · subst isHere
          rw [conn_setConn,if_pos rfl] at isOpen
          exact absurd (isOpen.symm.trans isClosed) (by simp)
        · rw [conn_setConn,if_neg isHere]
          exact .inl isConnected
      | _ => exact .inl (same rfl)
    | @failed j now failing locked inside isThread noId =>
      have isReady := (steady.talking.conns j).ready isThread rfl
      exact absurd (((steady.talking.conns j).isId isReady).symm.trans noId) (by simp)
    | @evicted j now failing old locked inside isThread =>
      by_cases isOld : i = old
      · subst isOld
        refine .inr ⟨j,locked,?_⟩
        change (((core.setConn i _).goTo j _).conn j).thread = _
        rw [conn_goTo,if_pos rfl]
      · refine .inl ?_
        have kept : ((core.setConn old { core.conn old with connected := false }).conn i).connected = true := by
          rw [conn_setConn,if_neg isOld]
          exact isConnected
        exact field_setConn Conn.connected kept fun isHere => isHere ▸ kept
    | @closed j now failing old locked inside isThread =>
      have kept := same (show (core.conn old).close.connected = (core.conn old).connected from rfl)
      exact .inl (field_setConn Conn.connected kept fun isHere => isHere ▸ kept)
    | dispatched | submitted | entered | put | putAgain | replaced | added | tolerated | removed | reported | left | posted =>
      exact .inl (same rfl)
    | interrupted => cases isPlain
    | visited isTask visits => exact .inl (same visits.connected.1)
    | _ => exact .inl isConnected
  · rcases does.closing isThread with isClosing | isClosed
    · exact .inr ⟨h,locked,isClosing⟩
    · exact absurd (isOpen.symm.trans isClosed) (by simp)

/-- An announcement that is handled comes from the connection that is registered under its
    key, or from one that is being evicted. -/
theorem Announces.dispatched (ordered : Ordered setup core) {i : Nat} (isThread : (core.conn i).thread = .dispatching .gwConnect)
    (listens : (core.conn i).listens = true) : core.activeSwitches (setup.key i) = some i ∨
      ∃ h locked, (core.conn h).thread = .evicting i locked ∧ core.activeSwitches (setup.key i) = some h := by
  have isReady : (core.conn i).hsState = .ready := by
    by_contra notReady
    exact ((announces.conns i).unready notReady).2.2.1 isThread
  have isMark : (core.conn i).mark = .plain := mark_ready isThread isReady
  have remains : ¬ (i ∈ core.register.queued ∨ i ∈ core.register.told) := fun gone =>
    not_silent_of_listens isThread listens (ordered.silent i (announces.retired gone))
  by_cases isReplaced : core.register.replaced = some i
  · obtain ⟨h,isLock,isOld⟩ := Option.bind_eq_some_iff.mp isReplaced
    have evicts : ∃ locked, (core.conn h).thread = .evicting i locked := by
      simp only [Conn.mark] at isOld
      split at isOld
      · cases isEvicting : (core.conn h).thread with
        | evicting old locked =>
          rw [isEvicting] at isOld
          cases isOld
          exact ⟨locked,rfl⟩
        | _ => rw [isEvicting] at isOld; cases isOld
      · cases isOld
    obtain ⟨locked,isEvicting⟩ := evicts
    exact .inr ⟨h,locked,isEvicting,announces.evicts h i locked isEvicting⟩
  · exact .inl (steady.exactly.active (by simp [Core.register,isMark]) isReplaced (by simp [Core.register,isMark])
      (fun queued => remains (.inl queued)) (fun told => remains (.inr told)))

/-- Whoever is registered and has announced itself is the gateway of `OFSwitchAP`. -/
theorem Announces.step_newest (does : Does setup core e core') (isPlain : plain e = true) (ordered : Ordered setup core) (proper : AllProper setup core)
    (single : ∀ i j, (setup.peer i).gateway = true → (setup.peer j).gateway = true → setup.key i = setup.key j)
    (exactly : core'.register.Exact setup.key) (i : Nat) (announced : Announced setup core'.told i)
    (isActive : core'.activeSwitches (setup.key i) = some i) :
    (Controller.reached core'.told).gwSwitch = some (setup.sw i) := by
  have earlier : Announced setup core.told i → (Controller.reached core.told).gwSwitch = some (setup.sw i) ∧
      core.activeSwitches (setup.key i) = some i := by
    intro before
    have wasActive : core.activeSwitches (setup.key i) = some i := by
      rcases does.active isPlain (setup.key i) with same | ⟨j,locked,puts,isHere⟩ | ⟨j,ending,_,_,isNone⟩
      · exact same.symm.trans isActive
      · cases isActive.symm.trans isHere
        exact absurd before ((announces.conns i).adds (by rw [puts]; rfl))
      · exact absurd (isNone.symm.trans isActive) (by simp)
    exact ⟨announces.newest i before wasActive,wasActive⟩
  have stays : ∀ {old : Nat} {gwSwitch : Option IOFSwitch}, .removedSwitch (setup.sw old) ∈ core'.told →
      gwSwitch = some (setup.sw i) → (if gwSwitch = some (setup.sw old) then none else gwSwitch) = some (setup.sw i) := by
    intro old gwSwitch removed isGateway
    rw [if_neg]
    · exact isGateway
    · intro isOld
      cases sw_inj (Option.some.inj (isGateway.symm.trans isOld))
      exact (exactly.of_active isActive).2.2.2.2 (List.mem_filterMap.mpr ⟨_,removed,rfl⟩)
  rcases does.told with same | ⟨call,calls,isTold⟩
  · rw [same] at announced ⊢
    exact (earlier announced).1
  · rw [isTold] at announced ⊢
    rw [Controller.reached_concat,Controller.gwSwitch_step]
    rcases announced_concat.mp announced with before | ⟨failing,rfl⟩
    · obtain ⟨isGateway,wasActive⟩ := earlier before
      cases calls with
      | @receive j msg failing isThread listens =>
        cases msg with
        | gwConnect =>
          -- Both connections are of the gateway, and the other one is about to be evicted at most.
          obtain ⟨failing',member⟩ := before
          have gateway := (proper.told _ _ _ member).mp rfl
          have gateway' := ((proper.conns j).thread _ isThread).mp rfl
          have isKey : setup.key i = setup.key j := single i j gateway gateway'
          rcases announces.dispatched steady ordered isThread listens with isHere | ⟨h,locked,isEvicting,isHere⟩
          · rw [← isKey] at isHere
            cases wasActive.symm.trans isHere
            rfl
          · rw [← isKey] at isHere
            cases wasActive.symm.trans isHere
            exact absurd ⟨failing',member⟩ ((announces.conns i).adds (by rw [isEvicting]; rfl))
        | _ => exact isGateway
      | rehashed => exact isGateway
      | evicted isThread => exact stays (isTold ▸ List.mem_append_right _ List.mem_cons_self) isGateway
      | removed waiting => exact stays (isTold ▸ List.mem_append_right _ List.mem_cons_self) isGateway
    · rfl

end

theorem Announces.step (announces : Announces setup core) (steady : Steady setup core) (ordered : Ordered setup core)
    (proper : AllProper setup core) (does : Does setup core e core') (isPlain : plain e = true)
    (single : ∀ i j, (setup.peer i).gateway = true → (setup.peer j).gateway = true → setup.key i = setup.key j) :
    Announces setup core' where
  conns := announces.step_conns steady does isPlain
  heard := announces.step_heard does
  removed := announces.step_removed does
  connected := announces.step_connected steady does isPlain
  evicts := announces.step_evicts steady does isPlain
  newest := announces.step_newest steady does isPlain ordered proper single (steady.step does isPlain).exactly

/-! ### Whole runs -/

theorem fair_of_plain (isPlain : plain e = true) : Fair setup e := by
  cases e with
  | sends i msg => exact isPlain
  | injects i reply => cases isPlain
  | setRole role now => cases isPlain
  | interrupts i => cases isPlain
  | _ => trivial

section
variable {events : List Event} (noRole : setup.role = none) (allPlain : ∀ e ∈ events, plain e = true)
  (ran : Run.run (step setup) (init setup) events = some core)
  (single : ∀ i j, (setup.peer i).gateway = true → (setup.peer j).gateway = true → setup.key i = setup.key j)
include noRole allPlain ran single

theorem announces_run : Announces setup core := by
  have kept : (Steady setup core ∧ Ordered setup core ∧ AllProper setup core) ∧ Announces setup core :=
    Run.run_preserves
      (fun s e _ (isPlain : plain e = true)
          (kept : (Steady setup s ∧ Ordered setup s ∧ AllProper setup s) ∧ Announces setup s) stepped => by
        obtain ⟨⟨steady,ordered,proper⟩,announces⟩ := kept
        have does := does_step stepped
        exact ⟨⟨steady.step does isPlain,ordered.step does (notSet_of_plain isPlain),
          proper.step does (fair_of_plain isPlain)⟩,announces.step steady ordered proper does isPlain single⟩)
      (Run.steps_of_forall allPlain _) ⟨⟨steady_init noRole,ordered_init noRole,allProper_init⟩,announces_init⟩ ran
  exact kept.2

/-- Once nothing is left to do, the gateway that `OFSwitchAP` knows is the one whose
    connection is open, however often it was lost, replaced and opened anew, and however
    the calls of `OFSwitchAP` overlap unless a handler runs during a removal. -/
theorem gateway_found (inTime : Run.Steps (step setup) (fun s e => timely s e = true) (init setup) events)
    (quiet : Quiet core) {actions : List Overlap.Action} {s : Overlap}
    (handled : Run.run Overlap.step Overlap.init actions = some s)
    (calm : Run.Steps Overlap.step Overlap.Calm Overlap.init actions) (isCalls : s.calls = core.told)
    (returned : s.removing = []) (sw : IOFSwitch) : s.tables.gwSwitch = some sw ↔
      ∃ i < core.count, (setup.peer i).gateway = true ∧ (core.conn i).channelOpen = true ∧ sw = setup.sw i := by
  obtain ⟨steady,ended⟩ := ended_run noRole allPlain inTime ran
  obtain ⟨ordered,proper⟩ := ordered_run noRole (fun e member => fair_of_plain (allPlain e member)) ran
  have announces := announces_run noRole allPlain ran single
  obtain ⟨active,counts⟩ := ended.settled steady quiet
  rw [Overlap.gwSwitch_run handled calm returned,isCalls]
  constructor
  · intro isGateway
    have orderly : Controller.Orderly (core.told ++ []) := by simpa using ordered.orderly proper
    have live := Controller.live_reached orderly
    obtain ⟨remains,failing,announced⟩ := live.gwSwitch sw isGateway
    obtain ⟨isSwitch,inside,isReady⟩ := announces.heard sw .gwConnect failing announced
    refine ⟨sw.id,inside,(proper.told sw .gwConnect failing announced).mp rfl,?_,isSwitch⟩
    by_contra isClosed
    have gone := counts sw.id inside
    rw [if_pos ⟨isReady,by simpa using isClosed⟩] at gone
    have told : sw.id ∈ core.register.told := List.count_pos_iff.mp (gone ▸ Nat.one_pos)
    exact remains (isSwitch ▸ announces.removed_mem_told told)
  · rintro ⟨i,inside,isGateway,isOpen,rfl⟩
    obtain ⟨noReply,noRequest⟩ := quiet.received i inside isOpen
    have isReady := ((steady.talking.conns i).settled isOpen noReply noRequest).1
    have isIdle := quiet.threads i inside
    have isConnected : (core.conn i).connected = true := by
      refine (announces.connected i isOpen).resolve_right ?_
      rintro ⟨h,locked,isThread⟩
      by_cases isHere : h < core.count
      · exact absurd ((quiet.threads h isHere).symm.trans isThread) (by simp)
      · exact absurd ((ended.outside h (by omega)).symm.trans isThread) (by simp)
    refine announces.newest i ?_ ((active _ i).mpr ⟨inside,rfl,isOpen⟩)
    rcases (announces.conns i).pending isGateway isReady (by rw [isIdle]; rfl) ⟨isOpen,isConnected⟩ with
      clears | sent | isThread | announced
    · rw [noRequest] at clears
      cases clears
    · rw [noReply] at sent
      cases sent
    · exact absurd (isIdle.symm.trans isThread) (by simp)
    · exact announced

end

/-- A gateway, which connects twice, and an access point. -/
def site : Setup :=
  ⟨fun i => if i = 1 then ⟨false,0x020000000001,⟨10,0,0,1⟩⟩ else ⟨true,0x0200000000fe,⟨10,0,0,254⟩⟩,none,false⟩

/-- The gateway connects anew, and its first connection announces it only then. -/
def comesBack : List Event :=
  handshake 0 ++ [.agent 0,.receive 0] ++ handshake 1 ++ [.agent 1] ++ (handshake 2).dropLast ++
    [.thread 0 0 [],.thread 2 0 [],.thread 2 0 [],.thread 2 0 [],.channelDisconnected 0,.thread 0 0 [],.thread 0 0 [],
      .thread 0 0 [],.agent 2,.receive 2,.thread 2 0 [],.update,.update,.update]

/-- The calls of `OFSwitchAP` in this, one after the other. -/
def comesBackCalls : List Overlap.Action :=
  [.call (site.sw 0) .gwConnect [],.finish 0,.removedSwitch (site.sw 0),.remove 0,.call (site.sw 2) .gwConnect [],.finish 0]

theorem comesBack_found : ∃ core s, Run.run (step site) (init site) comesBack = some core ∧
    Run.run Overlap.step Overlap.init comesBackCalls = some s ∧ s.calls = core.told ∧
    s.tables.gwSwitch = some (site.sw 2) := by
  obtain ⟨core,ran,quiet,three,isTold,isOpen⟩ : ∃ core, Run.run (step site) (init site) comesBack = some core ∧
      Quiet core ∧ core.count = 3 ∧ core.told = comesBackCalls.filterMap Overlap.Action.event ∧
      (core.conn 2).channelOpen = true := Run.exists_run (by decide +kernel)
  obtain ⟨s,handled,returned⟩ : ∃ s, Run.run Overlap.step Overlap.init comesBackCalls = some s ∧ s.removing = [] :=
    Run.exists_run (by decide +kernel)
  have calm : Run.Steps Overlap.step Overlap.Calm Overlap.init comesBackCalls :=
    Run.steps_of_check (fun _ _ => of_decide_eq_true) (by decide +kernel)
  have isCalls : s.calls = core.told := (Overlap.run_calls handled).trans isTold.symm
  have inTime : Run.Steps (step site) (fun s e => timely s e = true) (init site) comesBack :=
    Run.steps_of_check (fun _ _ => id) (by decide +kernel)
  have single : ∀ i j, (site.peer i).gateway = true → (site.peer j).gateway = true → site.key i = site.key j := by
    intro i j isGateway isGateway'
    have other : ∀ {k : Nat}, (site.peer k).gateway = true → k ≠ 1 := by
      rintro k isGateway rfl
      cases isGateway
    simp only [Setup.key,site,if_neg (other isGateway),if_neg (other isGateway')]
  have found := gateway_found rfl (by decide +kernel) ran single inTime quiet handled calm isCalls returned (site.sw 2)
  exact ⟨core,s,ran,handled,isCalls,found.mpr ⟨2,by omega,rfl,isOpen,rfl⟩⟩

end Core
end Handover.OpenFlow
