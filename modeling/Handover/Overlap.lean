import Handover.Reachable

/-!
Handlers of the controller that take their time. A handler changes the tables and then
writes, message by message; all but those of port translations and announcements are
`synchronized`, and `removedSwitch`, which the thread of the updates calls, is not. So a
switch can be removed while a handler still has to write to it. Where no switch is
removed while a handler runs, nothing is written to a switch after its removal.
-/
namespace Handover

/-- The message has a handler that is `synchronized`. -/
def ToController.synchronized : ToController → Bool
  | .portTranslation _ _ => false
  | .gwConnect => false
  | _ => true

namespace Controller

/-! ### What a handler writes -/

/-- What the handler writes to access points: to switches that it has found in the tables,
    or to the one that it was called for. -/
def directWrites (c : Controller) (sw : IOFSwitch) (failing : List Nat) (msg : ToController) : List Write :=
  ({ c with gwSwitch := none }.receive sw failing msg).2

/-- The messages for the gateway, at the end of a handover; `gwSwitch` is read anew for
    each of them. -/
def redirects (c : Controller) (failing : List Nat) : ToController → List FromController
  | .apRecPow sta ap rssi =>
    match c.staAPRSSIList.lookup sta,c.lookupSenderSTAAP sta ap with
    | some best,some staAP =>
      if rssi.toInt8 < best.rssi ∧ (c.flows sta).length ∉ failing then
        (writeAll failing ((c.flows sta).length + 2) (c.flows sta)).map (fun entry =>
          .natAdd sta { entry.toFourTuple with sourceIP := (c.handoverEntry sta staAP best).sw.remoteAddress } entry.newPort)
      else []
    | _,_ => []
  | _ => []

theorem redirects_moves {c : Controller} {sta ap : Mac} {rssi : UInt8} {staAP : STAAPInfo} {best : APInfo}
    (moves : Moves c sta ap rssi staAP best) (failing : List Nat) :
    c.redirects failing (.apRecPow sta ap rssi) = if (c.flows sta).length ∈ failing then [] else
      (writeAll failing ((c.flows sta).length + 2) (c.flows sta)).map (fun entry =>
        .natAdd sta { entry.toFourTuple with sourceIP := (c.handoverEntry sta staAP best).sw.remoteAddress } entry.newPort) := by
  simp only [redirects,moves.bestIs,moves.entryIs,moves.stronger,true_and,ite_not]

theorem redirects_stays {c : Controller} {sta ap : Mac} {rssi : UInt8}
    (stays : ¬ ∃ staAP best, Moves c sta ap rssi staAP best) (failing : List Nat) :
    c.redirects failing (.apRecPow sta ap rssi) = [] := by
  simp only [redirects]
  split
  · rename_i best staAP bestIs entryIs
    exact if_neg (fun both => stays ⟨staAP,best,bestIs,entryIs,both.1⟩)
  · rfl

/-- Only a handover looks at the gateway. -/
theorem directWrites_elsewhere (c : Controller) (sw : IOFSwitch) (failing : List Nat) {msg : ToController}
    (elsewhere : ∀ sta ap rssi, msg = .apRecPow sta ap rssi → ¬ ∃ staAP best, Moves c sta ap rssi staAP best) :
    c.directWrites sw failing msg = (c.receive sw failing msg).2 := by
  cases msg with
  | probe sta ap =>
    simp only [directWrites,receive]
    by_cases offers : Offers c sta ap
    · obtain ⟨_,_,_,isOffer⟩ := handleProbeReq_offers offers sw failing
      obtain ⟨_,_,_,isOffer'⟩ := handleProbeReq_offers (c := { c with gwSwitch := none }) offers sw failing
      rw [isOffer,isOffer']
    · rw [handleProbeReq_ignores offers,handleProbeReq_ignores (c := { c with gwSwitch := none }) offers]
  | recPow sta ap rssi =>
    have same : ({ c with gwSwitch := none } : Controller).findSTAAPInfo sta = c.findSTAAPInfo sta := rfl
    simp only [directWrites,receive,handleLastRSSI,apply_ite Prod.snd,same]
    cases c.findSTAAPInfo sta <;> rfl
  | apRecPow sta ap rssi =>
    have stays := elsewhere sta ap rssi rfl
    have stays' : ¬ ∃ staAP best, Moves { c with gwSwitch := none } sta ap rssi staAP best := by
      rintro ⟨staAP,best,moves⟩
      exact stays ⟨staAP,best,moves.bestIs,moves.entryIs,moves.stronger⟩
    rw [directWrites,receive,receive,handleAPRSSI_stays stays,handleAPRSSI_stays stays']
  | portTranslation sta tuple =>
    simp only [directWrites,receive,handlePortTranslation]
    split <;> rfl
  | _ => rfl

/-- What a handler writes in one go is what it writes to access points and then, if there
    is a gateway, what it has for that. -/
theorem receive_writes (c : Controller) (sw : IOFSwitch) (failing : List Nat) (msg : ToController) :
    (c.receive sw failing msg).2 = c.directWrites sw failing msg ++
      c.gwSwitch.toList.flatMap (fun gw => (c.redirects failing msg).map (fun msg => (⟨gw,msg⟩ : Write))) := by
  by_cases moving : ∃ sta ap rssi staAP best, msg = .apRecPow sta ap rssi ∧ Moves c sta ap rssi staAP best
  · obtain ⟨sta,ap,rssi,staAP,best,rfl,moves⟩ := moving
    have moves' : Moves { c with gwSwitch := none } sta ap rssi staAP best := ⟨moves.bestIs,moves.entryIs,moves.stronger⟩
    have sameFlows : ({ c with gwSwitch := none } : Controller).flows sta = c.flows sta := rfl
    have sameEntry : ({ c with gwSwitch := none } : Controller).handoverEntry sta staAP best = c.handoverEntry sta staAP best := rfl
    rw [directWrites,receive,receive,handleAPRSSI_moves moves,handleAPRSSI_moves moves',redirects_moves moves]
    simp only [writeAll_handoverWrites,sameFlows,sameEntry]
    by_cases fails : (c.flows sta).length ∈ failing
    · cases c.gwSwitch <;> simp [fails]
    · cases c.gwSwitch <;> simp [fails,redirect]
  · have none_ : c.redirects failing msg = [] := by
      cases msg with
      | apRecPow sta ap rssi =>
        refine redirects_stays ?_ failing
        rintro ⟨staAP,best,moves⟩
        exact moving ⟨sta,ap,rssi,staAP,best,rfl,moves⟩
      | _ => rfl
    have elsewhere : ∀ sta ap rssi, msg = .apRecPow sta ap rssi → ¬ ∃ staAP best, Moves c sta ap rssi staAP best := by
      rintro sta ap rssi isMsg ⟨staAP,best,moves⟩
      exact moving ⟨sta,ap,rssi,staAP,best,isMsg,moves⟩
    rw [directWrites_elsewhere c sw failing elsewhere,none_]
    cases c.gwSwitch <;> simp

theorem mem_receive_of_direct {c : Controller} {sw : IOFSwitch} {failing : List Nat} {msg : ToController} {w : Write}
    (member : w ∈ c.directWrites sw failing msg) : w ∈ (c.step (.receive sw msg failing)).2 := by
  rw [step,receive_writes]
  exact List.mem_append_left _ member

/-! ### The gateway -/

/-- Only an announcement and the removal of the gateway change `gwSwitch`. -/
theorem gwSwitch_step (c : Controller) (e : Event) :
    (c.step e).1.gwSwitch = match e with
      | .receive sw .gwConnect _ => some sw
      | .removedSwitch sw => if c.gwSwitch = some sw then none else c.gwSwitch
      | _ => c.gwSwitch := by
  have does := c.does_step e
  generalize (c.step e).1 = c' at does ⊢
  generalize (c.step e).2 = writes at does
  cases does with
  | @reported sw msg failing sta ap s change bests reports sets keeps fewer =>
    have same : (c.changeEntry sta ap change).gwSwitch = c.gwSwitch := (changeEntry_frame c sta ap change).2.2
    cases msg with
    | gwConnect => cases reports
    | _ => exact same
  | stayed stays =>
    simp only [clearSent]
    split <;> rfl
  | removed =>
    simp only [removedSwitch]
    split <;> rfl
  | rehashed =>
    simp only [rehash]
    split <;> rfl
  | _ => rfl

/-! ### Threads in handlers -/

/-- A handler that the thread of a switch is in, with what it has still to write. -/
structure Handler where
  sw : IOFSwitch
  isSynchronized : Bool
  direct : List Write
  gateway : List FromController
deriving DecidableEq

/-- The next write of a handler; `gwSwitch` is the field as it is now. Without a gateway
    a handler ends, by its test or by an exception. -/
def Handler.next (handler : Handler) (gwSwitch : Option IOFSwitch) : Option (Write × Handler) :=
  match handler.direct,handler.gateway,gwSwitch with
  | w :: rest,_,_ => some (w,{ handler with direct := rest })
  | [],msg :: rest,some gw => some (⟨gw,msg⟩,{ handler with gateway := rest })
  | _,_,_ => none

/-- The controller with the calls that it has had, in the order in which they began, the
    handlers that run, and the calls of `removedSwitch` that have not returned, each with
    the outcome of its test whether the switch is the gateway's. -/
structure Overlap where
  calls : List Event
  tables : Controller
  running : List Handler
  removing : List (IOFSwitch × Bool)

namespace Overlap

def init : Overlap := ⟨[],.init,[],[]⟩

/-- A handler is called, writes or returns, and so is `removedSwitch`. A handler has
    changed the tables as soon as it is called; in the source it reads and changes them one
    by one, and only `removedSwitch`, port translations and announcements come between. -/
inductive Action where
  | call (sw : IOFSwitch) (msg : ToController) (failing : List Nat)
  | write (i : Nat)
  | finish (i : Nat)
  | removedSwitch (sw : IOFSwitch)
  | remove (k : Nat)
  | rehash (order : Map STAAPPair STAAPInfo)

/-- The write that the handler is about to do. -/
def pending (s : Overlap) (i : Nat) : Option (Write × Handler) :=
  s.running[i]?.bind (fun handler => handler.next s.tables.gwSwitch)

/-- A switch has one thread, and one synchronized handler runs at a time. -/
def mayCall (s : Overlap) (sw : IOFSwitch) (msg : ToController) : Bool :=
  s.running.all (fun handler => handler.sw ≠ sw ∧ ¬ (handler.isSynchronized = true ∧ msg.synchronized = true))

/-- What `removedSwitch` does after its test. -/
def removed (c : Controller) (sw : IOFSwitch) (isGateway : Bool) : Controller :=
  if isGateway then { c with gwSwitch := none }
  else
    { c with
      staAPList := c.staAPList.keep (fun staAP => staAP.sw ≠ sw)
      staAPRSSIList := c.staAPRSSIList.keep (fun best => best.sw ≠ sw) }

def step (s : Overlap) : Action → Option Overlap
  | .call sw msg failing =>
    if s.mayCall sw msg then
      some { s with
        calls := s.calls ++ [.receive sw msg failing]
        tables := (s.tables.receive sw failing msg).1
        running := s.running ++ [⟨sw,msg.synchronized,s.tables.directWrites sw failing msg,s.tables.redirects failing msg⟩] }
    else none
  | .write i => (s.pending i).map (fun (_,handler) => { s with running := s.running.set i handler })
  | .finish i =>
    if i < s.running.length ∧ (s.pending i).isNone then some { s with running := s.running.eraseIdx i } else none
  | .removedSwitch sw =>
    some { s with
      calls := s.calls ++ [.removedSwitch sw]
      removing := s.removing ++ [(sw,decide (s.tables.gwSwitch = some sw))] }
  | .remove k => s.removing[k]?.map (fun (sw,isGateway) =>
      { s with tables := removed s.tables sw isGateway, removing := s.removing.eraseIdx k })
  | .rehash order => some { s with calls := s.calls ++ [.rehash order], tables := s.tables.rehash order }

/-- In one go the two steps are the call of the sequential model. -/
theorem removed_test (c : Controller) (sw : IOFSwitch) :
    removed c sw (decide (c.gwSwitch = some sw)) = c.removedSwitch sw := by
  simp [removed,removedSwitch]

/-- No handler runs during a call of `removedSwitch`. -/
def Calm (s : Overlap) : Action → Prop
  | .removedSwitch _ => s.running = []
  | .call _ _ _ => s.removing = []
  | _ => True

instance (s : Overlap) (action : Action) : Decidable (Calm s action) := by
  cases action <;> unfold Calm <;> infer_instance

/-! ### The calls -/

/-- The call of the controller that an action is, if it is one. -/
def Action.event : Action → Option Event
  | .call sw msg failing => some (.receive sw msg failing)
  | .removedSwitch sw => some (.removedSwitch sw)
  | .rehash order => some (.rehash order)
  | _ => none

theorem step_calls {s s' : Overlap} {action : Action} (stepped : step s action = some s') :
    s'.calls = s.calls ++ action.event.toList := by
  cases action with
  | call sw msg failing =>
    simp only [step] at stepped
    split at stepped
    · cases stepped
      rfl
    · cases stepped
  | write i =>
    obtain ⟨_,_,rfl⟩ := Option.map_eq_some_iff.mp stepped
    exact (List.append_nil _).symm
  | finish i =>
    simp only [step] at stepped
    split at stepped
    · cases stepped
      exact (List.append_nil _).symm
    · cases stepped
  | removedSwitch sw =>
    cases stepped
    rfl
  | remove k =>
    obtain ⟨_,_,rfl⟩ := Option.map_eq_some_iff.mp stepped
    exact (List.append_nil _).symm
  | rehash order =>
    cases stepped
    rfl

theorem run_calls {s s' : Overlap} {actions : List Action} (ran : Run.run step s actions = some s') :
    s'.calls = s.calls ++ actions.filterMap Action.event := by
  induction actions generalizing s with
  | nil =>
    cases ran
    exact (List.append_nil _).symm
  | cons action rest ih =>
    obtain ⟨next,stepped,ranOn⟩ := (Run.run_cons s s' action rest).mp ran
    rw [ih ranOn,step_calls stepped]
    cases isEvent : action.event <;> simp [isEvent]

theorem orderly_of_append {events more : List Event} (orderly : Orderly (events ++ more)) : Orderly events where
  gateway gw failing announced msg failing' sent :=
    orderly.gateway gw failing (List.mem_append_left _ announced) msg failing' (List.mem_append_left _ sent)
  ends := (List.pairwise_append.mp orderly.ends).1

/-! ### What the tables refer to -/

/-- The switch has sent something that is no announcement, and if it has been removed, the
    call for that has still to search the tables. -/
def Listed (s : Overlap) (sw : IOFSwitch) : Prop :=
  (∃ msg failing, .receive sw msg failing ∈ s.calls ∧ msg ≠ .gwConnect) ∧
    (.removedSwitch sw ∈ s.calls → (sw,false) ∈ s.removing)

/-- The tables refer to switches that are there or whose removal is under way, handlers do
    not run then, and have otherwise to write to switches that are there. -/
structure Sound (s : Overlap) : Prop where
  entries : ∀ sta ap entry, s.tables.lookupSenderSTAAP sta ap = some entry → Listed s entry.sw
  best : ∀ sta best, s.tables.staAPRSSIList.lookup sta = some best → Listed s best.sw
  gwSwitch : ∀ gw, s.tables.gwSwitch = some gw →
    (∃ failing, .receive gw .gwConnect failing ∈ s.calls) ∧ (.removedSwitch gw ∈ s.calls → (gw,true) ∈ s.removing)
  apart : s.running = [] ∨ s.removing = []
  present : ∀ handler ∈ s.running, ∀ w ∈ handler.direct, .removedSwitch w.sw ∉ s.calls

theorem sound_init : Sound init where
  entries sta ap entry found := by simp [init,Controller.init,lookupSenderSTAAP] at found
  best sta best found := by simp [init,Controller.init] at found
  gwSwitch gw isGateway := by cases isGateway
  apart := .inl rfl
  present handler member := by cases member

theorem mem_eraseIdx_of_ne {α : Type} {l : List α} {k : Nat} {a b : α} (isHere : l[k]? = some a) (member : b ∈ l)
    (apart : b ≠ a) : b ∈ l.eraseIdx k := by
  obtain ⟨i,isThere⟩ := List.mem_iff_getElem?.mp member
  refine List.mem_eraseIdx_iff_getElem?.mpr ⟨i,?_,isThere⟩
  rintro rfl
  exact apart (Option.some.inj (isThere.symm.trans isHere))

section
variable {s : Overlap} (sound : Sound s)
include sound

/-- Between removals the tables are live. -/
theorem Sound.live (quiet : s.removing = []) : Live s.calls s.tables := by
  have serves : ∀ {sw : IOFSwitch}, Listed s sw → Serves s.calls sw := by
    rintro sw ⟨sent,removal⟩
    refine ⟨fun removed => ?_,sent⟩
    rw [quiet] at removal
    cases removal removed
  refine ⟨fun sta ap entry found => serves (sound.entries sta ap entry found),
    fun sta best found => serves (sound.best sta best found),fun gw isGateway => ?_⟩
  obtain ⟨announced,removal⟩ := sound.gwSwitch gw isGateway
  refine ⟨fun removed => ?_,announced⟩
  rw [quiet] at removal
  cases removal removed

theorem Sound.call {sw : IOFSwitch} {msg : ToController} {failing : List Nat} {handler : Handler}
    (quiet : s.removing = []) (orderly : Orderly (s.calls ++ [.receive sw msg failing]))
    (isDirect : handler.direct = s.tables.directWrites sw failing msg) :
    Sound { s with
      calls := s.calls ++ [.receive sw msg failing]
      tables := (s.tables.receive sw failing msg).1
      running := s.running ++ [handler] } := by
  have live := sound.live quiet
  have next : Live (s.calls ++ [.receive sw msg failing]) (s.tables.receive sw failing msg).1 := live.step orderly
  refine ⟨fun sta ap entry found => ?_,fun sta best found => ?_,fun gw isGateway => ?_,.inr quiet,?_⟩
  · obtain ⟨present,sent⟩ := next.entries sta ap entry found
    exact ⟨sent,fun removed => absurd removed present⟩
  · obtain ⟨present,sent⟩ := next.best sta best found
    exact ⟨sent,fun removed => absurd removed present⟩
  · obtain ⟨present,announced⟩ := next.gwSwitch gw isGateway
    exact ⟨announced,fun removed => absurd removed present⟩
  · intro handler' member w isWrite removed
    have before : .removedSwitch w.sw ∈ s.calls := by simpa using removed
    rcases List.mem_append.mp member with old | isNew
    · exact sound.present handler' old w isWrite before
    · rw [List.mem_singleton.mp isNew,isDirect] at isWrite
      exact live.written orderly (mem_receive_of_direct isWrite) before

/-- The switch of the call becomes one whose removal is under way; it is the gateway's
    just where none of the tables refers to it. -/
theorem Sound.begin {sw : IOFSwitch} (idle : s.running = []) (orderly : Orderly s.calls) :
    Sound { s with
      calls := s.calls ++ [.removedSwitch sw]
      removing := s.removing ++ [(sw,decide (s.tables.gwSwitch = some sw))] } := by
  have listed : ∀ {sw' : IOFSwitch}, Listed s sw' → Listed { s with
      calls := s.calls ++ [.removedSwitch sw]
      removing := s.removing ++ [(sw,decide (s.tables.gwSwitch = some sw))] } sw' := by
    rintro sw' ⟨⟨msg,failing,sent,notGateway⟩,removal⟩
    refine ⟨⟨msg,failing,List.mem_append_left _ sent,notGateway⟩,fun removed => ?_⟩
    rcases List.mem_append.mp removed with before | isNew
    · exact List.mem_append_left _ (removal before)
    · obtain rfl : sw' = sw := by simpa using isNew
      have other : s.tables.gwSwitch ≠ some sw' := by
        intro isGateway
        obtain ⟨⟨failing',announced⟩,_⟩ := sound.gwSwitch sw' isGateway
        exact notGateway (orderly.gateway sw' failing' announced msg failing sent)
      exact List.mem_append_right _ (by simp [other])
  refine ⟨fun sta ap entry found => listed (sound.entries sta ap entry found),
    fun sta best found => listed (sound.best sta best found),fun gw isGateway => ?_,.inl idle,?_⟩
  · obtain ⟨⟨failing,announced⟩,removal⟩ := sound.gwSwitch gw isGateway
    refine ⟨⟨failing,List.mem_append_left _ announced⟩,fun removed => ?_⟩
    rcases List.mem_append.mp removed with before | isNew
    · exact List.mem_append_left _ (removal before)
    · obtain rfl : gw = sw := by simpa using isNew
      have test : s.tables.gwSwitch = some gw := isGateway
      exact List.mem_append_right _ (by simp [test])
  · intro handler member
    rw [show s.running = [] from idle] at member
    cases member

/-- What a removal leaves in the tables is of other switches. -/
theorem Sound.remove {k : Nat} {sw : IOFSwitch} {isGateway : Bool} (isRemoval : s.removing[k]? = some (sw,isGateway)) :
    Sound { s with tables := removed s.tables sw isGateway, removing := s.removing.eraseIdx k } := by
  have stays : ∀ {other : IOFSwitch × Bool}, other ∈ s.removing → other ≠ (sw,isGateway) → other ∈ s.removing.eraseIdx k :=
    fun member apart => mem_eraseIdx_of_ne isRemoval member apart
  have apart : s.running = [] ∨ s.removing.eraseIdx k = [] := by
    rcases sound.apart with idle | quiet
    · exact .inl idle
    · exact .inr (by rw [quiet]; rfl)
  cases isGateway with
  | true =>
    have listed : ∀ {sw' : IOFSwitch}, Listed s sw' →
        Listed { s with tables := removed s.tables sw true, removing := s.removing.eraseIdx k } sw' :=
      fun isListed => ⟨isListed.1,fun removed => stays (isListed.2 removed) (by simp)⟩
    refine ⟨fun sta ap entry found => listed (sound.entries sta ap entry found),
      fun sta best found => listed (sound.best sta best found),fun gw isGateway => ?_,apart,sound.present⟩
    cases isGateway
  | false =>
    have listed : ∀ {sw' : IOFSwitch}, Listed s sw' → sw' ≠ sw →
        Listed { s with tables := removed s.tables sw false, removing := s.removing.eraseIdx k } sw' :=
      fun isListed other => ⟨isListed.1,fun removed => stays (isListed.2 removed) (by simp [other])⟩
    refine ⟨fun sta ap entry found => ?_,fun sta best found => ?_,fun gw isGateway => ?_,apart,sound.present⟩
    · simp only [removed,Bool.false_eq_true,if_false,lookupSenderSTAAP,Map.lookup_keep,Option.filter_eq_some_iff,
        decide_eq_true_eq] at found
      exact listed (sound.entries sta ap entry found.1) found.2
    · simp only [removed,Bool.false_eq_true,if_false,Map.lookup_keep,Option.filter_eq_some_iff,decide_eq_true_eq] at found
      exact listed (sound.best sta best found.1) found.2
    · obtain ⟨announced,removal⟩ := sound.gwSwitch gw isGateway
      exact ⟨announced,fun removed => stays (removal removed) (by simp)⟩

theorem Sound.rehash (order : Map STAAPPair STAAPInfo) :
    Sound { s with calls := s.calls ++ [.rehash order], tables := s.tables.rehash order } := by
  have listed : ∀ {sw : IOFSwitch}, Listed s sw →
      Listed { s with calls := s.calls ++ [.rehash order], tables := s.tables.rehash order } sw := by
    rintro sw ⟨⟨msg,failing,sent,notGateway⟩,removal⟩
    exact ⟨⟨msg,failing,List.mem_append_left _ sent,notGateway⟩,fun removed => removal (by simpa using removed)⟩
  have same : (s.tables.rehash order).staAPRSSIList = s.tables.staAPRSSIList ∧
      (s.tables.rehash order).gwSwitch = s.tables.gwSwitch := by
    unfold Controller.rehash
    split <;> exact ⟨rfl,rfl⟩
  refine ⟨fun sta ap entry found => ?_,fun sta best found => ?_,fun gw isGateway => ?_,sound.apart,?_⟩
  · exact listed (sound.entries sta ap entry ((lookup_rehash s.tables order sta ap).symm.trans found))
  · exact listed (sound.best sta best (same.1 ▸ found))
  · obtain ⟨⟨failing,announced⟩,removal⟩ := sound.gwSwitch gw (same.2 ▸ isGateway)
    exact ⟨⟨failing,List.mem_append_left _ announced⟩,fun removed => removal (by simpa using removed)⟩
  · intro handler member w isWrite removed
    exact sound.present handler member w isWrite (by simpa using removed)

/-- Handlers that go on have less to write. -/
theorem Sound.running {running : List Handler}
    (fewer : ∀ handler ∈ running, ∀ w ∈ handler.direct, ∃ before ∈ s.running, w ∈ before.direct)
    (none_ : s.running = [] → running = []) : Sound { s with running := running } := by
  refine ⟨sound.entries,sound.best,sound.gwSwitch,sound.apart.imp_left none_,fun handler member w isWrite => ?_⟩
  obtain ⟨before,wasRunning,wasWrite⟩ := fewer handler member w isWrite
  exact sound.present before wasRunning w wasWrite

end

theorem next_direct {handler handler' : Handler} {gwSwitch : Option IOFSwitch} {w : Write}
    (isNext : handler.next gwSwitch = some (w,handler')) :
    (∀ w' ∈ handler'.direct, w' ∈ handler.direct) ∧ (w ∈ handler.direct ∨ gwSwitch = some w.sw) := by
  unfold Handler.next at isNext
  split at isNext
  · rename_i first rest isDirect
    cases isNext
    rw [isDirect]
    exact ⟨fun w' later => List.mem_cons_of_mem _ later,.inl List.mem_cons_self⟩
  · cases isNext
    exact ⟨fun w' => id,.inr rfl⟩
  · cases isNext

theorem Sound.step {s s' : Overlap} {action : Action} (sound : Sound s) (calm : Calm s action) (orderly : Orderly s'.calls)
    (stepped : step s action = some s') : Sound s' := by
  have before : Orderly s.calls := orderly_of_append (step_calls stepped ▸ orderly)
  cases action with
  | call sw msg failing =>
    simp only [Overlap.step] at stepped
    split at stepped
    · cases stepped
      exact sound.call calm orderly rfl
    · cases stepped
  | write i =>
    obtain ⟨⟨w,handler⟩,isPending,rfl⟩ := Option.map_eq_some_iff.mp stepped
    obtain ⟨earlier,isRunning,isNext⟩ := Option.bind_eq_some_iff.mp isPending
    refine sound.running (fun handler' member w' isWrite => ?_) (fun none_ => by rw [none_]; rfl)
    rcases List.mem_or_eq_of_mem_set member with old | rfl
    · exact ⟨handler',old,isWrite⟩
    · exact ⟨earlier,List.mem_of_getElem? isRunning,(next_direct isNext).1 w' isWrite⟩
  | finish i =>
    simp only [Overlap.step] at stepped
    split at stepped
    · cases stepped
      exact sound.running (fun handler member w isWrite => ⟨handler,List.mem_of_mem_eraseIdx member,isWrite⟩)
        (fun none_ => by rw [none_]; rfl)
    · cases stepped
  | removedSwitch sw =>
    cases stepped
    exact sound.begin calm before
  | remove k =>
    obtain ⟨⟨sw,isGateway⟩,isRemoval,rfl⟩ := Option.map_eq_some_iff.mp stepped
    exact sound.remove isRemoval
  | rehash order =>
    cases stepped
    exact sound.rehash order

/-- A handler that is about to write does so to a switch that is there. -/
theorem Sound.pending {s : Overlap} (sound : Sound s) {i : Nat} {w : Write} {handler : Handler}
    (isPending : s.pending i = some (w,handler)) : .removedSwitch w.sw ∉ s.calls := by
  obtain ⟨before,isRunning,isNext⟩ := Option.bind_eq_some_iff.mp isPending
  have member := List.mem_of_getElem? isRunning
  rcases (next_direct isNext).2 with isDirect | isGateway
  · exact sound.present before member w isDirect
  · rcases sound.apart with idle | quiet
    · rw [idle] at member
      cases member
    · exact ((sound.live quiet).gwSwitch w.sw isGateway).1

theorem sound_run {actions : List Action} {s : Overlap} (ran : Run.run step init actions = some s)
    (calm : Run.Steps step Calm init actions) (orderly : Orderly s.calls) : Sound s := by
  have kept : Orderly s.calls → Sound s := by
    refine @Run.run_preserves _ _ _ _ (fun s => Orderly s.calls → Sound s) ?_ _ _ _ calm (fun _ => sound_init) ran
    intro s action s' isCalm before stepped orderly'
    exact (before (orderly_of_append (step_calls stepped ▸ orderly'))).step isCalm orderly' stepped
  exact kept orderly

/-- Where the gateway's connections carry announcements only, a removed switch is heard of
    no more and no handler runs during `removedSwitch`, no handler is about to write to a
    switch that has been removed. -/
theorem no_write_after_removal {actions : List Action} {s : Overlap} (ran : Run.run step init actions = some s)
    (calm : Run.Steps step Calm init actions) (orderly : Orderly s.calls) (i : Nat) (w : Write) (handler : Handler)
    (isPending : s.pending i = some (w,handler)) : .removedSwitch w.sw ∉ s.calls :=
  (sound_run ran calm orderly).pending isPending

/-! ### The gateway's switch -/

/-- The gateway's switch is the one of the calls so far, unless a removal has still to
    forget it. -/
structure Tracks (s : Overlap) : Prop where
  forgets : ∀ sw, (sw,true) ∈ s.removing → (reached s.calls).gwSwitch = none
  same : s.tables.gwSwitch = (reached s.calls).gwSwitch ∨ ∃ sw, s.tables.gwSwitch = some sw ∧ (sw,true) ∈ s.removing

theorem Tracks.settled {s : Overlap} (tracks : Tracks s) (returned : s.removing = []) :
    s.tables.gwSwitch = (reached s.calls).gwSwitch := by
  refine tracks.same.resolve_right ?_
  rintro ⟨sw,_,member⟩
  rw [returned] at member
  cases member

theorem Tracks.step {s s' : Overlap} {action : Action} (tracks : Tracks s) (calm : Calm s action)
    (stepped : step s action = some s') : Tracks s' := by
  cases action with
  | call sw msg failing =>
    have quiet : s.removing = [] := calm
    simp only [Overlap.step] at stepped
    split at stepped
    · cases stepped
      refine ⟨fun sw' member => ?_,.inl ?_⟩
      · rw [show s.removing = [] from quiet] at member
        cases member
      · change (s.tables.step (.receive sw msg failing)).1.gwSwitch = (reached (s.calls ++ [_])).gwSwitch
        rw [reached_concat,gwSwitch_step,gwSwitch_step,tracks.settled quiet]
    · cases stepped
  | write i =>
    obtain ⟨_,_,rfl⟩ := Option.map_eq_some_iff.mp stepped
    exact ⟨tracks.forgets,tracks.same⟩
  | finish i =>
    simp only [Overlap.step] at stepped
    split at stepped
    · cases stepped
      exact ⟨tracks.forgets,tracks.same⟩
    · cases stepped
  | removedSwitch sw =>
    cases stepped
    have next : (reached (s.calls ++ [.removedSwitch sw])).gwSwitch =
        if (reached s.calls).gwSwitch = some sw then none else (reached s.calls).gwSwitch := by
      rw [reached_concat,gwSwitch_step]
    refine ⟨fun sw' member => ?_,?_⟩
    · rw [next]
      rcases List.mem_append.mp member with before | isNew
      · rw [tracks.forgets sw' before]
        rfl
      · obtain ⟨_,isGateway⟩ : sw' = sw ∧ s.tables.gwSwitch = some sw := by simpa using isNew
        rcases tracks.same with same | ⟨sw'',_,before⟩
        · rw [← same,if_pos isGateway]
        · rw [tracks.forgets sw'' before]
          rfl
    · rcases tracks.same with same | ⟨sw',isGateway,before⟩
      · by_cases isGateway : s.tables.gwSwitch = some sw
        · exact .inr ⟨sw,isGateway,List.mem_append_right _ (by simp [isGateway])⟩
        · refine .inl ?_
          rw [next,← same,if_neg isGateway]
      · exact .inr ⟨sw',isGateway,List.mem_append_left _ before⟩
  | remove k =>
    obtain ⟨⟨sw,isGateway⟩,isRemoval,rfl⟩ := Option.map_eq_some_iff.mp stepped
    refine ⟨fun sw' member => tracks.forgets sw' (List.mem_of_mem_eraseIdx member),?_⟩
    cases isGateway with
    | true => exact .inl (tracks.forgets sw (List.mem_of_getElem? isRemoval)).symm
    | false => exact tracks.same.imp_right (fun ⟨sw',isGateway,before⟩ =>
        ⟨sw',isGateway,mem_eraseIdx_of_ne isRemoval before (by simp)⟩)
  | rehash order =>
    cases stepped
    have next : (reached (s.calls ++ [.rehash order])).gwSwitch = (reached s.calls).gwSwitch := by
      rw [reached_concat,gwSwitch_step]
    have tables : (s.tables.rehash order).gwSwitch = s.tables.gwSwitch := gwSwitch_step s.tables (.rehash order)
    refine ⟨fun sw' member => next.trans (tracks.forgets sw' member),?_⟩
    rw [tables,next]
    exact tracks.same

/-- Where no handler runs during `removedSwitch`, the gateway's switch is, once all
    removals have returned, the one that the calls leave one after the other. -/
theorem gwSwitch_run {actions : List Action} {s : Overlap} (ran : Run.run step init actions = some s)
    (calm : Run.Steps step Calm init actions) (returned : s.removing = []) :
    s.tables.gwSwitch = (reached s.calls).gwSwitch := by
  have tracks : Tracks s := Run.run_preserves
    (fun s action s' (isCalm : Calm s action) (tracks : Tracks s) stepped => tracks.step isCalm stepped) calm
    ⟨by simp [init],.inl rfl⟩ ran
  exact tracks.settled returned

-- A removal that has found its switch to be the gateway's, and forgets the gateway only when
-- that has been announced anew.
example : ∃ s, Run.run step init [.call ⟨0,⟨10,0,0,254⟩⟩ .gwConnect [],.finish 0,.removedSwitch ⟨0,⟨10,0,0,254⟩⟩,
    .call ⟨2,⟨10,0,0,254⟩⟩ .gwConnect [],.finish 0,.remove 0] = some s ∧ s.removing = [] ∧
      s.tables.gwSwitch = none ∧ (reached s.calls).gwSwitch = some ⟨2,⟨10,0,0,254⟩⟩ :=
  Run.exists_run (by decide +kernel)

/-! ### Two runs -/

/-- The calls pass the test of being orderly. -/
def orderlyCheck (events : List Event) : Bool :=
  events.all (fun
    | .receive gw .gwConnect _ => events.all (fun
      | .receive sw msg _ => sw ≠ gw ∨ msg = .gwConnect
      | _ => true)
    | _ => true) && decide (events.Pairwise Event.Before)

theorem orderly_of_check {events : List Event} (passes : orderlyCheck events = true) : Orderly events := by
  simp only [orderlyCheck,Bool.and_eq_true,decide_eq_true_eq,List.all_eq_true] at passes
  refine ⟨fun gw failing announced msg failing' sent => ?_,passes.2⟩
  have others := List.all_eq_true.mp (passes.1 _ announced) _ sent
  simpa using others

/-- A station, its access point and the one that hears it too. -/
def roamer : Mac := ⟨2,0,0,0,0,1⟩

def firstAP : Mac := ⟨4,0,0,0,0,1⟩

def secondAP : Mac := ⟨4,0,0,0,0,2⟩

/-- The second access point is removed while the station is handed over to it. -/
def overlapping : List Action :=
  [.call ⟨0,⟨10,0,0,1⟩⟩ (.probe roamer firstAP) [],.write 0,.finish 0,
    .call ⟨1,⟨10,0,0,2⟩⟩ (.recPow roamer secondAP 100) [],.finish 0,
    .call ⟨0,⟨10,0,0,1⟩⟩ (.apRecPow roamer firstAP 50) [],.write 0,.removedSwitch ⟨1,⟨10,0,0,2⟩⟩,.remove 0]

theorem written_after_removal : ∃ s, Run.run step init overlapping = some s ∧ Orderly s.calls ∧
    (s.pending 0).map (fun (w,_) => w.sw) = some ⟨1,⟨10,0,0,2⟩⟩ ∧ .removedSwitch ⟨1,⟨10,0,0,2⟩⟩ ∈ s.calls := by
  obtain ⟨s,ran,isPending⟩ : ∃ s, Run.run step init overlapping = some s ∧
      (s.pending 0).map (fun (w,_) => w.sw) = some ⟨1,⟨10,0,0,2⟩⟩ := Run.exists_run (by decide +kernel)
  refine ⟨s,ran,?_,isPending,?_⟩
  · rw [run_calls ran]
    exact orderly_of_check (by decide +kernel)
  · rw [run_calls ran]
    simp [overlapping,Action.event]

/-- An access point connects anew, a station associates there, the gateway too connects
    anew, and another access point hears the station. -/
def reconnected : List Action :=
  [.call ⟨0,⟨10,0,0,1⟩⟩ (.probe roamer firstAP) [],.write 0,.finish 0,.call ⟨1,⟨10,0,0,9⟩⟩ .gwConnect [],.finish 0,
    .removedSwitch ⟨0,⟨10,0,0,1⟩⟩,.removedSwitch ⟨1,⟨10,0,0,9⟩⟩,.remove 1,.remove 0,.call ⟨2,⟨10,0,0,1⟩⟩ (.probe roamer firstAP) [],
    .call ⟨3,⟨10,0,0,9⟩⟩ .gwConnect [],.write 0,.finish 0,.finish 0,.call ⟨2,⟨10,0,0,1⟩⟩ (.reassocReq roamer firstAP) [],
    .finish 0,.call ⟨4,⟨10,0,0,2⟩⟩ (.recPow roamer secondAP 100) []]

theorem reconnected_writes : ∃ s handler, Run.run step init reconnected = some s ∧
    s.pending 0 = some (⟨⟨2,⟨10,0,0,1⟩⟩,.lastRecPow roamer⟩,handler) ∧ .removedSwitch ⟨2,⟨10,0,0,1⟩⟩ ∉ s.calls := by
  obtain ⟨s,ran,isPending⟩ : ∃ s, Run.run step init reconnected = some s ∧
      s.pending 0 = some (⟨⟨2,⟨10,0,0,1⟩⟩,.lastRecPow roamer⟩,⟨⟨4,⟨10,0,0,2⟩⟩,true,[],[]⟩) :=
    Run.exists_run (by decide +kernel)
  have calm : Run.Steps step Calm init reconnected :=
    Run.steps_of_check (fun _ _ => of_decide_eq_true) (by decide +kernel)
  have orderly : Orderly s.calls := by
    rw [run_calls ran]
    exact orderly_of_check (by decide +kernel)
  exact ⟨s,_,ran,isPending,no_write_after_removal ran calm orderly 0 _ _ isPending⟩

end Overlap
end Controller
end Handover
