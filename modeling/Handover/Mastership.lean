import Handover.Announcement
import Handover.Roles

/-!
Which switches a controller with a role has. After each role reply the thread of the
connection looks whether the switch is among the active ones and adds or removes it, in
steps between which other threads run. For an agent that connects once it is active, once
nothing is left to do, exactly if its connection is open and the controller is not the
slave. An agent that comes back while its old connection is registered is not covered:
its `dpid` is taken for active then, and the new connection is not added.
-/
namespace Handover.OpenFlow
namespace Conn

/-- The thread waits for the next message. -/
def Rests (free active : Prop) (c : Conn) : Prop :=
  if c.disconnected then ¬ active
  else if c.hsState = .ready then (active ↔ c.role ≠ some .slave) ∨ c.role = none ∧ ¬ free
  else ¬ active ∧ c.role = none

/-- Where the registration of a connection stands while its thread is at the step; `free`
    tells that the controller has no role, `active` that the connection is registered. -/
def StandsAt (free active : Prop) (c : Conn) : Thread → Prop
  | .idle => c.Rests free active
  | .dispatching _ => c.Rests free active
  | .entering => ¬ active ∧ c.role = none ∧ c.disconnected = false
  | .clearing _ => ¬ active ∧ c.role ≠ some .slave ∧ c.disconnected = false
  | .putting _ => ¬ active ∧ c.role ≠ some .slave ∧ c.disconnected = false
  | .evicting _ _ => False
  | .closing _ _ => False
  | .adding _ => active ∧ c.role ≠ some .slave ∧ c.disconnected = false
  | .considering => c.disconnected = false
  | .unsupported => False
  | .removing true => c.disconnected = true
  | .removing false => active ∧ c.role = some .slave ∧ c.disconnected = false
  | .reporting true => ¬ active ∧ c.disconnected = true
  | .reporting false => ¬ active ∧ c.role = some .slave ∧ c.disconnected = false
  | .leaving => ¬ active ∧ c.disconnected = true
  | .disconnecting => ¬ active ∧ c.disconnected = true

def Stands (free active : Prop) (c : Conn) : Prop := c.StandsAt free active c.thread

variable {free free' active : Prop} {c c' : Conn}

theorem stands_create (free : Prop) : Stands free False .create := ⟨id,rfl⟩

/-- Only some fields of the connection matter. -/
theorem Stands.congr (stands : Stands free active c) (thread : c'.thread = c.thread) (role : c'.role = c.role)
    (disconnected : c'.disconnected = c.disconnected) (hsState : c'.hsState = c.hsState) : Stands free active c' := by
  have same : Rests free active c' = Rests free active c := by simp only [Rests,role,disconnected,hsState]
  unfold Stands at stands ⊢
  rw [thread]
  generalize c.thread = thread at stands ⊢
  unfold StandsAt at stands ⊢
  rw [same,role,disconnected]
  exact stands

theorem Rests.mono (rests : Rests free active c) (less : free' → free) : Rests free' active c := by
  unfold Rests at rests ⊢
  split
  · rename_i ends
    rwa [if_pos ends] at rests
  · rename_i goesOn
    rw [if_neg goesOn] at rests
    split
    · rename_i isReady
      rw [if_pos isReady] at rests
      exact rests.imp id (fun waits => ⟨waits.1,fun isFree => waits.2 (less isFree)⟩)
    · rename_i notReady
      rwa [if_neg notReady] at rests

/-- The controller is given a role. -/
theorem Stands.mono (stands : Stands free active c) (less : free' → free) : Stands free' active c := by
  unfold Stands at stands ⊢
  generalize c.thread = thread at stands ⊢
  cases thread with
  | idle => exact Rests.mono stands less
  | dispatching msg => exact Rests.mono stands less
  | removing ending => cases ending <;> exact stands
  | reporting ending => cases ending <;> exact stands
  | _ => exact stands

/-- A ready connection that stays is registered or a slave. -/
theorem rests_ready (isReady : c.hsState = .ready) (goesOn : c.disconnected = false) (stays : active ↔ c.role ≠ some .slave) :
    Rests free active c := by
  unfold Rests
  rw [goesOn,if_neg (by simp),if_pos isReady]
  exact .inl stays

/-- `removeSwitch` returns. -/
theorem standsAt_removed {ending : Bool} (stands : StandsAt free active c (.reporting ending)) (isReady : c.hsState = .ready) :
    Stands free active { c with thread := Core.afterRemoval ending } := by
  cases ending with
  | true => exact stands
  | false =>
    obtain ⟨inactive,isSlave,goesOn⟩ := stands
    exact rests_ready isReady goesOn (iff_of_false inactive (fun notSlave => notSlave isSlave))

/-- A message is handled. -/
theorem Stands.process {dpid : UInt64} {reply : Reply} {rest : List Reply} (stands : Stands free active c) (talks : Talks dpid c)
    (isIdle : c.thread = .idle) (goesOn : c.disconnected = false) (waiting : c.up = reply :: rest)
    (processes : ({ c with up := rest } : Conn).Processes reply c') : Stands free active c' := by
  have rests : Rests free active c := by
    unfold Stands at stands
    rwa [isIdle] at stands
  have early : c.hsState ≠ .ready → ¬ active ∧ c.role = none := by
    intro notReady
    unfold Rests at rests
    rwa [goesOn,if_neg (by simp),if_neg notReady] at rests
  have notReady : ∀ {c' : Conn}, c.hsState ≠ .ready → c'.hsState ≠ .ready → c'.thread = c.thread → c'.role = c.role →
      c'.disconnected = c.disconnected → Stands free active c' := by
    intro c' before after isThread isRole ends
    unfold Stands
    rw [isThread,isIdle]
    change Rests free active c'
    unfold Rests
    rw [ends,goesOn,if_neg (by simp),if_neg after,isRole]
    exact early before
  cases processes with
  | greeted isStart =>
    have isStart : c.hsState = .start := isStart
    exact notReady (by simp [isStart]) (by simp [Conn.write]) rfl rfl rfl
  | identified isHello =>
    have isHello : c.hsState = .hello := isHello
    exact notReady (by simp [isHello]) (by simp) rfl rfl rfl
  | completed isFeatures complete =>
    have isFeatures : c.hsState = .featuresReply := isFeatures
    obtain ⟨inactive,noRole⟩ := early (by simp [isFeatures])
    exact ⟨inactive,noRole,goesOn⟩
  | finished expected isFeatures complete =>
    have isFeatures : c.hsState = .featuresReply := isFeatures
    obtain ⟨inactive,noRole⟩ := early (by simp [isFeatures])
    exact ⟨inactive,noRole,goesOn⟩
  | unasked noneIs => exact goesOn
  | mismatched isRole waits apart => exact goesOn
  | agreed isRole waits same => exact goesOn
  | declined waits => exact absurd (waiting ▸ List.mem_cons_self) (talks.noErrors _ _)
  | taken => exact rests
  | _ => exact stands.congr rfl rfl rfl rfl

end Conn

namespace Core
variable {setup : Setup} {core core' : Core} {e : Event}

/-- No other connection has the `dpid`. -/
def Alone (setup : Setup) (core : Core) (i : Nat) : Prop := ∀ j < core.count, setup.key j = setup.key i → j = i

/-- The connections are registered under their keys, and evict each other under them. -/
structure Registered (setup : Setup) (core : Core) : Prop where
  inside : ∀ d i, core.activeSwitches d = some i → i < core.count
  outside : ∀ i, core.count ≤ i → (core.conn i).thread = .idle
  own : ∀ d i, core.activeSwitches d = some i → setup.key i = d
  evicts : ∀ h old locked, (core.conn h).thread = .evicting old locked → setup.key old = setup.key h
  closed : ∀ i, (core.conn i).disconnected = true → (core.conn i).channelOpen = false

theorem registered_init : Registered setup (init setup) where
  inside := by simp [init]
  outside _ _ := rfl
  own := by simp [init]
  evicts h old locked isThread := by cases isThread
  closed i ends := by simp [init,Conn.create] at ends

/-- Whoever stands under the key of a connection that is alone is that connection. -/
theorem Registered.alone (registered : Registered setup core) {i j : Nat} (alone : Alone setup core i)
    (isActive : core.activeSwitches (setup.key i) = some j) : j = i :=
  alone j (registered.inside _ j isActive) (registered.own _ j isActive)

/-- A step of the connection alone. -/
theorem Changes.stands {i : Nat} {c : Conn} (changes : Changes setup core e i c) (honest : Honest e)
    (isTimely : timely core e = true) (talking : Talking setup core) (registered : Registered setup core)
    (alone : Alone setup core i) (stands : (core.conn i).Stands (core.role = none) (core.activeSwitches (setup.key i) = some i)) :
    c.Stands (core.role = none) (core.activeSwitches (setup.key i) = some i) := by
  have talks := talking.conns i
  have at_ : ∀ {thread : Thread}, (core.conn i).thread = thread →
      (core.conn i).StandsAt (core.role = none) (core.activeSwitches (setup.key i) = some i) thread := by
    intro thread isThread
    unfold Conn.Stands at stands
    rwa [isThread] at stands
  have isKey : ∀ {dpid : UInt64}, (core.conn i).hsState = .ready → (core.conn i).datapathId = some dpid → dpid = setup.key i :=
    fun isReady isId => Option.some.inj (isId.symm.trans (talks.isId isReady))
  cases changes with
  | injected => exact honest.elim
  | interrupted => cases isTimely
  | received isIdle waiting =>
    have goesOn : (core.conn i).disconnected = false := by simpa [timely] using isTimely
    exact stands.process talks isIdle goesOn waiting (Conn.processes _ _)
  | disconnected isClosed first isIdle =>
    have rests : Conn.Rests _ _ _ := at_ isIdle
    by_cases isReady : (core.conn i).hsState = .ready
    · rw [Conn.channelDisconnected,if_pos isReady]
      rfl
    · rw [Conn.channelDisconnected,if_neg isReady]
      unfold Conn.Rests at rests
      rw [first,if_neg (by simp),if_neg isReady] at rests
      unfold Conn.Stands
      rw [show (core.conn i).thread = .idle from isIdle]
      exact rests.1
  | ignored isThread deaf => exact at_ isThread
  | cleared isThread => exact at_ isThread
  | @considered _ _ _ dpid isThread isId =>
    have isReady := talks.ready isThread rfl
    cases isKey isReady isId
    have goesOn : (core.conn i).disconnected = false := at_ isThread
    by_cases isActive : core.activeSwitches (setup.key i) = some i
    · by_cases isSlave : (core.conn i).role = some .slave
      · rw [isActive,roleChanged,if_neg (by simp),if_pos ⟨rfl,isSlave⟩]
        exact ⟨rfl,isSlave,goesOn⟩
      · rw [isActive,roleChanged,if_neg (by simp),if_neg (fun both => isSlave both.2)]
        exact Conn.rests_ready isReady goesOn (iff_of_true rfl isSlave)
    · have noneIs : core.activeSwitches (setup.key i) = none := by
        cases found : core.activeSwitches (setup.key i) with
        | none => rfl
        | some j =>
          cases registered.alone alone found
          exact absurd found isActive
      by_cases isSlave : (core.conn i).role = some .slave
      · rw [noneIs,roleChanged,if_neg (fun both => both.2 isSlave),if_neg (by simp)]
        exact Conn.rests_ready isReady goesOn (iff_of_false (by simp) (fun notSlave => notSlave isSlave))
      · rw [noneIs,roleChanged,if_pos ⟨rfl,isSlave⟩]
        split
        · exact ⟨by simp,isSlave,goesOn⟩
        · exact ⟨by simp,isSlave,goesOn⟩
  | refused isThread isSlave => exact absurd isThread talks.thread
  | thrown isThread noId =>
    have isReady : (core.conn i).hsState = .ready := by
      rcases isThread with isThread | ⟨_,isThread⟩ <;> exact talks.ready isThread rfl
    exact absurd ((talks.isId isReady).symm.trans noId) (by simp)
  | @notFound _ _ _ ending dpid isThread isId other =>
    cases isKey (talks.ready isThread rfl) isId
    have before := at_ isThread
    cases ending with
    | true => exact ⟨other,before⟩
    | false => exact absurd before.1 other
  | unreported isThread evicted => exact Conn.standsAt_removed (at_ isThread) (talks.ready isThread rfl)
  | ended isThread =>
    obtain ⟨inactive,ends⟩ := at_ isThread
    change Conn.Rests _ _ _
    unfold Conn.Rests
    rw [if_pos ends]
    exact inactive
  | _ => exact stands.congr rfl rfl rfl rfl

/-! ### Steps of the whole controller -/

theorem disconnected_before {j : Nat} {c : Conn} (moves : Moves setup core e j c) (ends : c.disconnected = true) :
    (core.conn j).disconnected = true ∨ (core.conn j).channelOpen = false := by
  cases moves with
  | changed changes =>
    cases changes with
    | received isIdle waiting =>
      rw [disconnected_process (Conn.processes _ _)] at ends
      exact .inl ends
    | disconnected isClosed first isIdle => exact .inr isClosed
    | interrupted isClosed first atWork early => exact .inr isClosed
    | _ => exact .inl ends
  | interrupted isEvent isClosed atWork isReady => exact .inr isClosed
  | visited isTask visits => cases visits <;> exact .inl ends
  | _ => exact .inl ends

theorem Registered.step (registered : Registered setup core) (does : Does setup core e core') (talking : Talking setup core) :
    Registered setup core' := by
  have own : ∀ d i, core'.activeSwitches d = some i → setup.key i = d := by
    have put : ∀ {j : Nat} {dpid : UInt64} {locked : Bool}, (core.conn j).thread = .putting locked →
        (core.conn j).datapathId = some dpid → ∀ d i, Function.update core.activeSwitches dpid (some j) d = some i →
        setup.key i = d := by
      intro j dpid locked isThread isId d i isActive
      have isReady := (talking.conns j).ready isThread rfl
      cases isId.symm.trans ((talking.conns j).isId isReady)
      by_cases isKey : d = (setup.peer j).dpid
      · subst isKey
        rw [Function.update_self] at isActive
        cases isActive
        rfl
      · rw [Function.update_of_ne isKey] at isActive
        exact registered.own d i isActive
    have cleared : ∀ {dpid : UInt64}, ∀ d i, Function.update core.activeSwitches dpid none d = some i → setup.key i = d := by
      intro dpid d i isActive
      by_cases isKey : d = dpid
      · subst isKey
        rw [Function.update_self] at isActive
        cases isActive
      · rw [Function.update_of_ne isKey] at isActive
        exact registered.own d i isActive
    intro d i isActive
    cases does with
    | put inside isThread isId isNew => exact put isThread isId d i isActive
    | replaced inside isThread isId isFound other => exact put isThread isId d i isActive
    | removed inside isThread isId isFound => exact cleared d i isActive
    | interrupted inside isClosed first atWork isReady isId =>
      dsimp only at isActive
      split at isActive
      · exact cleared d i isActive
      · exact registered.own d i isActive
    | _ => exact registered.own d i isActive
  refine ⟨does.inside_active registered.inside,fun i isOutside => ?_,own,fun h old locked isThread => ?_,fun i ends => ?_⟩
  · have before := does.count.trans isOutside
    exact (does.outside before).trans (registered.outside i before)
  · rcases does.evicting isThread with same | ⟨d,isOld,isHere⟩
    · exact registered.evicts h old locked same
    · exact (registered.own d old isOld).trans (own d h isHere).symm
  · by_contra isOpen
    have wasOpen := does.opens (by simpa using isOpen)
    obtain ⟨c,posts,moves,isConn⟩ := does.moves i
    rw [isConn] at ends
    rcases disconnected_before moves ends with ended | isClosed
    · exact absurd (wasOpen.symm.trans (registered.closed i ended)) (by simp)
    · exact absurd (wasOpen.symm.trans isClosed) (by simp)

/-- The registrations of the connections that are alone stand as their threads tell. -/
structure Mastered (setup : Setup) (core : Core) : Prop where
  registered : Registered setup core
  stands : ∀ i, Alone setup core i →
    (core.conn i).Stands (core.role = none) (core.activeSwitches (setup.key i) = some i)

theorem mastered_init : Mastered setup (init setup) where
  registered := registered_init
  stands i _ := by
    rw [show ((init setup).activeSwitches (setup.key i) = some i) = False by simp [init]]
    exact Conn.stands_create _

theorem Mastered.step_stands (mastered : Mastered setup core) (does : Does setup core e core') (honest : Honest e)
    (isTimely : timely core e = true) (talking : Talking setup core) (i : Nat) (alone' : Alone setup core' i) :
    (core'.conn i).Stands (core'.role = none) (core'.activeSwitches (setup.key i) = some i) := by
  have alone : Alone setup core i := fun j inside => alone' j (inside.trans_le does.count)
  have registered := mastered.registered
  have stands := mastered.stands i alone
  have talks := talking.conns i
  have at_ : ∀ {thread : Thread}, (core.conn i).thread = thread →
      (core.conn i).StandsAt (core.role = none) (core.activeSwitches (setup.key i) = some i) thread := by
    intro thread isThread
    unfold Conn.Stands at stands
    rwa [isThread] at stands
  have ready : ∀ {j : Nat} {thread : Thread}, (core.conn j).thread = thread → thread.handles = true →
      (core.conn j).hsState = .ready := (talking.conns _).ready
  have isKey : ∀ {dpid : UInt64}, (core.conn i).hsState = .ready → (core.conn i).datapathId = some dpid → dpid = setup.key i :=
    fun isReady isId => Option.some.inj (isId.symm.trans (talks.isId isReady))
  -- Another thread leaves the registration and the connection as they are.
  have goes : ∀ {j : Nat} {thread next : Thread}, (core.conn j).thread = thread →
      ((core.conn i).StandsAt (core.role = none) (core.activeSwitches (setup.key i) = some i) thread →
        (core.conn i).thread = thread →
        Conn.Stands (core.role = none) (core.activeSwitches (setup.key i) = some i) { core.conn i with thread := next }) →
      ((core.goTo j next).conn i).Stands (core.role = none) (core.activeSwitches (setup.key i) = some i) := by
    intro j thread next isThread own
    rw [conn_goTo]
    split
    · rename_i same
      subst same
      exact own (at_ isThread) isThread
    · exact stands
  have elsewhere : ∀ {j : Nat} {dpid : UInt64} {thread : Thread} {entry : Option Nat}, j < core.count → i ≠ j →
      (core.conn j).thread = thread → thread.handles = true → (core.conn j).datapathId = some dpid →
      Function.update core.activeSwitches dpid entry (setup.key i) = core.activeSwitches (setup.key i) := by
    intro j dpid thread entry inside apart isThread handles isId
    refine Function.update_of_ne (fun same => apart ?_) ..
    have isKey := (talking.conns j).isId (ready isThread handles)
    rw [isId] at isKey
    exact (alone j inside ((Option.some.inj isKey).symm.trans same.symm)).symm
  cases does with
  | @changed _ j c inside changes =>
    rw [conn_setConn]
    split
    · rename_i same
      subst same
      exact changes.stands honest isTimely talking registered alone stands
    · exact stands
  | @dispatched j now failing msg inside isThread listens =>
    have rests : ((core.goTo j .idle).conn i).Stands (core.role = none) (core.activeSwitches (setup.key i) = some i) :=
      goes isThread (fun before _ => before)
    exact rests.congr rfl rfl rfl rfl
  | @submitted j now failing role inside isThread isFree isRole =>
    refine goes isThread (fun before isHere => ?_)
    obtain ⟨_,noRole,goesOn⟩ := before
    change Conn.Rests _ _ _
    unfold Conn.Rests
    rw [show (core.conn i).disconnected = false from goesOn,if_neg (by simp),if_pos (ready isHere rfl)]
    exact .inr ⟨noRole,by simp [isRole]⟩
  | @entered j now failing inside isThread isFree noRole =>
    change ((core.setConn j _).conn i).Stands _ _
    rw [conn_setConn]
    split
    · rename_i same
      subst same
      obtain ⟨inactive,noRole,goesOn⟩ := at_ isThread
      exact ⟨inactive,by simp [noRole],goesOn⟩
    · exact stands
  | failed inside isThread noId =>
    exact absurd (((talking.conns _).isId (ready isThread rfl)).symm.trans noId) (by simp)
  | @put j now failing locked dpid inside isThread isId isNew =>
    change ((core.goTo j _).conn i).Stands (core.role = none) (Function.update core.activeSwitches dpid _ _ = some i)
    by_cases same : i = j
    · subst same
      obtain ⟨_,notSlave,goesOn⟩ := at_ isThread
      cases isKey (ready isThread rfl) isId
      rw [conn_goTo,if_pos rfl]
      exact ⟨Function.update_self ..,notSlave,goesOn⟩
    · rw [conn_goTo,if_neg same,elsewhere inside same isThread rfl isId]
      exact stands
  | @putAgain j now failing locked dpid inside isThread isId isActive =>
    by_cases same : i = j
    · subst same
      cases isKey (ready isThread rfl) isId
      exact absurd isActive (at_ isThread).1
    · change ((core.goTo j _).conn i).Stands _ _
      rw [conn_goTo,if_neg same]
      exact stands
  | @replaced j now failing locked dpid old inside isThread isId isActive other =>
    change ((core.goTo j _).conn i).Stands (core.role = none) (Function.update core.activeSwitches dpid _ _ = some i)
    by_cases same : i = j
    · subst same
      cases isKey (ready isThread rfl) isId
      exact absurd (registered.alone alone isActive) other
    · rw [conn_goTo,if_neg same,elsewhere inside same isThread rfl isId]
      exact stands
  | @evicted j now failing old locked inside isThread =>
    have apart : i ≠ j := by
      rintro rfl
      exact at_ isThread
    have notOld : i ≠ old := by
      rintro rfl
      exact apart (alone j inside (registered.evicts j i locked isThread).symm).symm
    change Conn.Stands _ _ (((core.setConn old _).goTo j _).conn i)
    rw [conn_goTo,if_neg apart,conn_setConn,if_neg notOld]
    exact stands
  | @closed j now failing old locked inside isThread =>
    have apart : i ≠ j := by
      rintro rfl
      exact at_ isThread
    rw [conn_goTo,if_neg apart,conn_setConn]
    split
    · rename_i isOld
      subst isOld
      exact stands.congr rfl rfl rfl rfl
    · exact stands
  | @posted j msg inside =>
    rw [conn_setConn]
    split
    · rename_i same
      subst same
      exact stands.congr rfl rfl rfl rfl
    · exact stands
  | interrupted => cases isTimely
  | @added j now failing locked inside isThread =>
    refine goes isThread (fun before isHere => ?_)
    obtain ⟨isActive,notSlave,goesOn⟩ := before
    exact Conn.rests_ready (ready isHere rfl) goesOn (iff_of_true isActive notSlave)
  | tolerated inside isThread isFree notSlave => exact absurd isThread (talking.conns _).thread
  | @removed j now failing ending dpid inside isThread isId isActive =>
    change ((core.goTo j _).conn i).Stands (core.role = none) (Function.update core.activeSwitches dpid _ _ = some i)
    by_cases same : i = j
    · subst same
      have before := at_ isThread
      cases isKey (ready isThread rfl) isId
      rw [conn_goTo,if_pos rfl,Function.update_self]
      cases ending with
      | true => exact ⟨by simp,before⟩
      | false => exact ⟨by simp,before.2⟩
    · rw [conn_goTo,if_neg same,elsewhere inside same isThread rfl isId]
      exact stands
  | reported inside isThread isConnected =>
    exact goes isThread (fun before isHere => Conn.standsAt_removed before (ready isHere rfl))
  | left inside isThread isFree => exact goes isThread (fun before _ => before)
  | toldRemoved isNext => exact stands.congr rfl rfl rfl rfl
  | roleSet isFree apart => exact stands.mono (fun isNone => nomatch isNone)
  | @visited task task' j rest c isTask visits =>
    change ((core.setConn j c).conn i).Stands _ _
    rw [conn_setConn]
    split
    · rename_i same
      subst same
      cases visits <;> exact stands.congr rfl rfl rfl rfl
    · exact stands
  | rehashed => exact stands.congr rfl rfl rfl rfl
  | _ => exact stands

theorem Mastered.step (mastered : Mastered setup core) (does : Does setup core e core') (honest : Honest e)
    (isTimely : timely core e = true) (talking : Talking setup core) : Mastered setup core' :=
  ⟨mastered.registered.step does talking,mastered.step_stands does honest isTimely talking⟩

theorem mastered_run {events : List Event} (honest : ∀ e ∈ events, Honest e)
    (inTime : Run.Steps (step setup) (fun s e => timely s e = true) (init setup) events)
    (ran : Run.run (step setup) (init setup) events = some core) : Mastered setup core := by
  have kept : Talking setup core ∧ Mastered setup core :=
    Run.run_preserves
      (fun s e _ (meets : timely s e = true ∧ Honest e) (kept : Talking setup s ∧ Mastered setup s) stepped =>
        ⟨kept.1.step (does_step stepped) meets.2,kept.2.step (does_step stepped) meets.2 meets.1 kept.1⟩)
      (Run.steps_and inTime (Run.steps_of_forall honest _)) ⟨talking_init,mastered_init⟩ ran
  exact kept.2

/-- Once nothing is left to do, a switch whose agent has connected once is active exactly if
    it is connected and the controller is not the slave. -/
theorem active_iff_role {events : List Event} (honest : ∀ e ∈ events, Honest e)
    (inTime : Run.Steps (step setup) (fun s e => timely s e = true) (init setup) events)
    (ordered : Run.Steps (step setup) (fun s e => inOrder s e = true) (init setup) events)
    (ran : Run.run (step setup) (init setup) events = some core) (quiet : Quiet core) (isFree : core.worker = none)
    (noRequest : ∀ task ∈ core.pendingTasks, task.isTimeout = true) {i : Nat} (inside : i < core.count)
    (alone : Alone setup core i) :
    core.activeSwitches (setup.key i) = some i ↔ (core.conn i).channelOpen = true ∧ core.role ≠ some .slave := by
  obtain ⟨talking,agreeing⟩ := agreeing_run honest ordered ran
  have mastered := mastered_run honest inTime ran
  have isIdle := quiet.threads i inside
  have rests : (core.conn i).Rests (core.role = none) (core.activeSwitches (setup.key i) = some i) := by
    have stands := mastered.stands i alone
    unfold Conn.Stands at stands
    rwa [isIdle] at stands
  unfold Conn.Rests at rests
  cases isOpen : (core.conn i).channelOpen with
  | false =>
    rw [if_pos (quiet.noticed i inside isOpen)] at rests
    exact iff_of_false rests (by simp)
  | true =>
    have goesOn : (core.conn i).disconnected = false := by
      by_contra ends
      exact absurd (isOpen.symm.trans (mastered.registered.closed i (by simpa using ends))) (by simp)
    have received := quiet.received i inside isOpen
    have isReady := ((talking.conns i).settled isOpen received.1 received.2).1
    have isRole := agreeing.settled talking isFree noRequest isOpen isIdle received
    rw [goesOn,if_neg (by simp),if_pos isReady,isRole] at rests
    rcases rests with exactly | ⟨noRole,isRuled⟩
    · rw [exactly]
      exact ⟨fun notSlave => ⟨rfl,notSlave⟩,fun both => both.2⟩
    · exact absurd noRole isRuled

/-- The switch is added, removed and added again, and `OFSwitchAP` hears of it. -/
def turned : List Event := turns ++ [.update,.update,.update]

theorem turned_active : ∃ core, Run.run (step ruled) (init ruled) turned = some core ∧ core.role = some .equal ∧
    core.activeSwitches (ruled.key 0) = some 0 := by
  obtain ⟨core,ran,quiet,isRole,isFree,noRequest,one,isOpen⟩ : ∃ core, Run.run (step ruled) (init ruled) turned = some core ∧
      Quiet core ∧ core.role = some .equal ∧ core.worker = none ∧ (∀ task ∈ core.pendingTasks, task.isTimeout = true) ∧
      core.count = 1 ∧ (core.conn 0).channelOpen = true := Run.exists_run (by decide +kernel)
  have inTime : Run.Steps (step ruled) (fun s e => timely s e = true) (init ruled) turned :=
    Run.steps_of_check (fun _ _ => id) (by decide +kernel)
  have ordered : Run.Steps (step ruled) (fun s e => inOrder s e = true) (init ruled) turned :=
    Run.steps_of_check (fun _ _ => id) (by decide +kernel)
  have alone : Alone ruled core 0 := fun j inside _ => by omega
  have active := active_iff_role (by decide +kernel) inTime ordered ran quiet isFree noRequest (by omega) alone
  exact ⟨core,ran,isRole,active.mpr ⟨isOpen,by simp [isRole]⟩⟩

end Core
end Handover.OpenFlow
