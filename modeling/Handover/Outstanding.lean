import Handover.Exchange
import Handover.Streams

/-!
The flag `isSent` of a station's alternative, and the exchange that it stands for. It
is kept in the entry of one access point while another one is asked: the answer is lost
with the connection of the one, or swallowed where the controller has lost its place in
the stream, and the flag with the entry of the other. Where none of this happens during
an exchange, a station whose flag is set is one whose answer is under way from a
connected access point, and there is no other exchange about it.
-/
namespace Handover
namespace Controller

/-- The controller holds that an answer about the station is to come. -/
def isSent (c : Controller) (sta : Mac) : Bool := (c.staAPRSSIList.lookup sta).any (·.isSent)

theorem isSent_congr {c c' : Controller} {sta : Mac}
    (same : c'.staAPRSSIList.lookup sta = c.staAPRSSIList.lookup sta) : c'.isSent sta = c.isSent sta := by
  rw [isSent,same,isSent]

theorem isSent_putBest (c : Controller) (sta : Mac) (best : APInfo) (sta' : Mac) :
    (c.putBest sta best).isSent sta' = if sta' = sta then best.isSent else c.isSent sta' := by
  simp only [isSent,putBest,Map.lookup_insert_eq]
  split <;> rfl

theorem isSent_strongest (c : Controller) (sta : Mac) (sw : IOFSwitch) (ap : Mac) (rssi : Int8) :
    (strongest (c.staAPRSSIList.lookup sta) sw ap rssi).isSent = c.isSent sta := by
  unfold strongest isSent
  split
  · rename_i absent
    simp [absent]
  · rename_i best isBest
    split <;> simp [isBest]

theorem isSent_clearSent (c : Controller) (sta sta' : Mac) :
    (c.clearSent sta).isSent sta' = if sta' = sta then false else c.isSent sta' := by
  unfold clearSent
  split
  · rename_i absent
    split
    · rename_i same
      rw [isSent,same,absent]
      rfl
    · rfl
  · rw [isSent_putBest]

/-- No write asks for the station. -/
def AsksNone (sta : Mac) (writes : List Write) : Prop := ∀ w ∈ writes, w.msg ≠ .lastRecPow sta

/-- What an event does to the flag of a station: an exchange begins, is answered, is
    forgotten, or is not touched. -/
inductive Flag (c : Controller) (sta : Mac) : Event → Controller → List Write → Prop where
  | asks {sw : IOFSwitch} {ap : Mac} {rssi : UInt8} {failing : List Nat} {c' : Controller} {staAP : STAAPInfo}
    (unsent : c.isSent sta = false) (isEntry : c.findSTAAPInfo sta = some staAP) (sent : c'.isSent sta = true) :
    Flag c sta (.receive sw (.recPow sta ap rssi) failing) c' [⟨staAP.sw,.lastRecPow sta⟩]
  | answered {sw : IOFSwitch} {ap : Mac} {rssi : UInt8} {failing : List Nat} {c' : Controller} {writes : List Write}
    (unsent : c'.isSent sta = false) (asksNone : AsksNone sta writes) :
    Flag c sta (.receive sw (.apRecPow sta ap rssi) failing) c' writes
  | left {sw : IOFSwitch} {ap : Mac} {failing : List Nat} {c' : Controller} {staAP : STAAPInfo}
    (isEntry : c.lookupSenderSTAAP sta ap = some staAP) (unsent : c'.isSent sta = false) :
    Flag c sta (.receive sw (.disassocReq sta ap) failing) c' []
  | removed {sw : IOFSwitch} {c' : Controller} {best : APInfo} (notGateway : c.gwSwitch ≠ some sw)
    (isBest : c.staAPRSSIList.lookup sta = some best) (isSwitch : best.sw = sw) (unsent : c'.isSent sta = false) :
    Flag c sta (.removedSwitch sw) c' []
  | same {e : Event} {c' : Controller} {writes : List Write} (flag : c'.isSent sta = c.isSent sta)
    (asksNone : AsksNone sta writes) (noAnswer : ∀ sw ap rssi failing, e ≠ .receive sw (.apRecPow sta ap rssi) failing) :
    Flag c sta e c' writes

theorem asksNone_nil (sta : Mac) : AsksNone sta [] := by
  intro w member
  cases member

theorem asksNone_writeAll {sta : Mac} {attempts : List Write} (asksNone : AsksNone sta attempts) (failing : List Nat) (i : Nat) :
    AsksNone sta (writeAll failing i attempts) :=
  fun w member => asksNone w (mem_of_mem_writeAll member)

theorem flag_recPow (c : Controller) (sta sta' : Mac) (sw : IOFSwitch) (ap : Mac) (rssi : UInt8) (failing : List Nat) :
    Flag c sta (.receive sw (.recPow sta' ap rssi) failing) (c.handleLastRSSI sw sta' ap rssi failing).1
      (c.handleLastRSSI sw sta' ap rssi failing).2 := by
  have isStrongest := c.isSent_strongest sta' sw ap rssi.toInt8
  unfold handleLastRSSI
  dsimp only
  by_cases same : sta = sta'
  · subst same
    split
    · rename_i sent
      refine .same ?_ (asksNone_nil sta) (by simp)
      rw [isSent_putBest,if_pos rfl,isStrongest]
    · rename_i unsent
      have before : c.isSent sta = false := by rw [← isStrongest]; simpa using unsent
      split
      · refine .same ?_ (asksNone_nil sta) (by simp)
        rw [isSent_putBest,if_pos rfl,isStrongest]
      · rename_i staAP isEntry
        by_cases fails : 0 ∈ failing
        · simp only [writeAll,if_pos fails]
          refine .same ?_ (asksNone_nil sta) (by simp)
          rw [isSent_putBest,if_pos rfl,before]
          simp [fails]
        · simp only [writeAll,if_neg fails]
          refine .asks before isEntry ?_
          rw [isSent_putBest,if_pos rfl]
          simp [fails]
  · have other : ∀ best, (c.putBest sta' best).isSent sta = c.isSent sta := by
      intro best
      rw [isSent_putBest,if_neg same]
    split
    · exact .same (other _) (asksNone_nil sta) (by simp)
    · split
      · exact .same (other _) (asksNone_nil sta) (by simp)
      · refine .same (other _) (asksNone_writeAll ?_ _ _) (by simp)
        intro w member asks
        rw [List.mem_singleton.mp member] at asks
        cases asks
        exact same rfl

theorem flag_apRecPow (c : Controller) (sta sta' : Mac) (sw : IOFSwitch) (ap : Mac) (rssi : UInt8) (failing : List Nat) :
    Flag c sta (.receive sw (.apRecPow sta' ap rssi) failing) (c.handleAPRSSI sw sta' ap rssi failing).1
      (c.handleAPRSSI sw sta' ap rssi failing).2 := by
  -- either way the flag of the message's station is cleared, and nothing is asked
  obtain ⟨flag,asksNone⟩ : (∀ s, (c.handleAPRSSI sw sta' ap rssi failing).1.isSent s = if s = sta' then false else c.isSent s) ∧
      AsksNone sta (c.handleAPRSSI sw sta' ap rssi failing).2 := by
    by_cases moves : ∃ staAP best, Moves c sta' ap rssi staAP best
    · obtain ⟨staAP,best,moves⟩ := moves
      rw [handleAPRSSI_moves moves]
      refine ⟨fun s => ?_,fun w member asks => ?_⟩
      · simp only [isSent,handoverTables,Map.lookup_insert_eq]
        split <;> rfl
      · rcases mem_handoverWrites (mem_of_mem_writeAll member) with ⟨entry,_,rfl⟩ | rfl | ⟨update,rfl⟩ | ⟨gw,_,entry,_,rfl⟩ <;>
          cases asks
    · rw [handleAPRSSI_stays moves]
      exact ⟨c.isSent_clearSent sta',asksNone_nil sta⟩
  by_cases same : sta = sta'
  · subst same
    exact .answered (by rw [flag,if_pos rfl]) asksNone
  · refine .same (by rw [flag,if_neg same]) asksNone ?_
    intro sw' ap' rssi' failing' isEvent
    cases isEvent
    exact same rfl

theorem flag_disassocReq (c : Controller) (sta sta' : Mac) (sw : IOFSwitch) (ap : Mac) (failing : List Nat) :
    Flag c sta (.receive sw (.disassocReq sta' ap) failing) (c.handleDisassocReq sta' ap) [] := by
  unfold handleDisassocReq
  split
  · exact .same rfl (asksNone_nil sta) (by simp)
  · rename_i staAP isEntry
    by_cases same : sta = sta'
    · subst same
      exact .left isEntry (by simp [isSent])
    · refine .same (isSent_congr ?_) (asksNone_nil sta) (by simp)
      exact AList.lookup_erase_ne same

theorem flag_removedSwitch (c : Controller) (sta : Mac) (sw : IOFSwitch) :
    Flag c sta (.removedSwitch sw) (c.removedSwitch sw) [] := by
  unfold removedSwitch
  split
  · exact .same rfl (asksNone_nil sta) (by simp)
  · rename_i notGateway
    cases isBest : c.staAPRSSIList.lookup sta with
    | none => exact .same (isSent_congr (by simp [Map.lookup_keep,isBest])) (asksNone_nil sta) (by simp)
    | some best =>
      by_cases isSwitch : best.sw = sw
      · exact .removed notGateway isBest isSwitch (by simp [isSent,Map.lookup_keep,isBest,isSwitch])
      · exact .same (isSent_congr (by simp [Map.lookup_keep,isBest,isSwitch])) (asksNone_nil sta) (by simp)

theorem flag_step (c : Controller) (e : Event) (sta : Mac) : Flag c sta e (c.step e).1 (c.step e).2 := by
  have still : ∀ {msg sw failing} {c' : Controller} {writes}, c'.staAPRSSIList = c.staAPRSSIList → AsksNone sta writes →
      (∀ ap rssi, msg ≠ .apRecPow sta ap rssi) → Flag c sta (.receive sw msg failing) c' writes := by
    intro msg sw failing c' writes bests asksNone noAnswer
    refine .same (isSent_congr (by rw [bests])) asksNone ?_
    intro sw' ap rssi failing' isEvent
    cases isEvent
    exact noAnswer ap rssi rfl
  cases e with
  | removedSwitch sw => exact c.flag_removedSwitch sta sw
  | rehash order =>
    refine .same (isSent_congr ?_) (asksNone_nil sta) (by simp)
    simp only [step,rehash]
    split <;> rfl
  | receive sw msg failing =>
    cases msg with
    | recPow sta' ap rssi => exact c.flag_recPow sta sta' sw ap rssi failing
    | apRecPow sta' ap rssi => exact c.flag_apRecPow sta sta' sw ap rssi failing
    | disassocReq sta' ap => exact c.flag_disassocReq sta sta' sw ap failing
    | probe sta' ap =>
      by_cases offers : Offers c sta' ap
      · obtain ⟨entry,_,_,isNext⟩ := handleProbeReq_offers offers sw failing
        simp only [step,receive,isNext]
        refine still rfl (asksNone_writeAll ?_ _ _) (by simp)
        intro w member asks
        rw [List.mem_singleton.mp member] at asks
        cases asks
      · simp only [step,receive,handleProbeReq_ignores offers]
        exact still rfl (asksNone_nil sta) (by simp)
    | portTranslation sta' tuple =>
      simp only [step,receive,handlePortTranslation]
      split
      all_goals
        refine still rfl (asksNone_writeAll ?_ _ _) (by simp)
        intro w member asks
        rw [List.mem_singleton.mp member] at asks
        cases asks
    | authReq sta' ap authAlg => exact still (staAPRSSIList_changeEntry c sta' ap _) (asksNone_nil sta) (by simp)
    | assocReq sta' ap association => exact still (staAPRSSIList_changeEntry c sta' ap _) (asksNone_nil sta) (by simp)
    | reassocReq sta' ap => exact still (staAPRSSIList_changeEntry c sta' ap _) (asksNone_nil sta) (by simp)
    | deauthReq sta' ap => exact still (staAPRSSIList_changeEntry c sta' ap _) (asksNone_nil sta) (by simp)
    | natUpdate sta' tuple => exact still rfl (asksNone_nil sta) (by simp)
    | gwConnect => exact still rfl (asksNone_nil sta) (by simp)

end Controller

namespace Net
open Controller
variable {AP : Type}

/-- The message is an answer about the station. -/
def isAnswer (sta : Mac) : ToController → Bool
  | .apRecPow sta' _ _ => decide (sta' = sta)
  | _ => false

/-- The requests and answers about the station that are under way over the connection. -/
def outstanding (net : Net AP) (sta : Mac) (sw : IOFSwitch) : Nat :=
  (net.down sw).count (.lastRecPow sta) + (net.up sw).countP (isAnswer sta)

/-- The flag is set just where one exchange is under way, over an open connection of an
    access point. -/
structure Tracked (net : Net AP) (sta : Mac) : Prop where
  sent : net.controller.isSent sta = true → ∃ a sw, net.sock a = some sw ∧ sw ∉ net.closed ∧
    net.outstanding sta sw = 1 ∧ ∀ sw', sw' ≠ sw → net.outstanding sta sw' = 0
  unsent : net.controller.isSent sta = false → ∀ sw, net.outstanding sta sw = 0

/-- Connections are lost and removed only while no exchange depends on them, no
    disassociation is handled during an exchange about its station, and only connected
    access points are asked. -/
def Undisturbed (net : Net AP) : Event AP → Prop
  | .disconnect a => ∀ sw, net.sock a = some sw → ∀ sta, net.outstanding sta sw = 0
  | .removed sw => (∀ sta, net.outstanding sta sw = 0) ∧ (net.controller.gwSwitch ≠ some sw →
      ∀ sta best, net.controller.staAPRSSIList.lookup sta = some best → best.sw = sw → best.isSent = false)
  | .handle sw _ => match net.up sw with
    | .disassocReq sta ap :: _ => net.controller.lookupSenderSTAAP sta ap ≠ none → net.controller.isSent sta = false
    | .recPow sta _ _ :: _ => net.controller.isSent sta = false → ∀ staAP, net.controller.findSTAAPInfo sta = some staAP →
        staAP.sw ∉ net.closed ∧ ∃ a, net.sock a = some staAP.sw
    | _ => True
  | _ => True

theorem tracked_init (cfg : Config AP) (sta : Mac) : Tracked (init cfg) sta where
  sent := by simp [init,Controller.init,isSent]
  unsent := by simp [init,outstanding]

/-- Where the flag and the numbers are as before. -/
theorem Tracked.congr {net net' : Net AP} {sta : Mac} (tracked : Tracked net sta)
    (flag : net'.controller.isSent sta = net.controller.isSent sta)
    (number : ∀ sw, net'.outstanding sta sw = net.outstanding sta sw)
    (kept : ∀ a sw, net.sock a = some sw → sw ∉ net.closed → net.outstanding sta sw = 1 →
      net'.sock a = some sw ∧ sw ∉ net'.closed) : Tracked net' sta := by
  refine ⟨fun sent => ?_,fun unsent sw => ?_⟩
  · obtain ⟨a,sw,connected,isOpen,one,others⟩ := tracked.sent (flag ▸ sent)
    obtain ⟨connected',isOpen'⟩ := kept a sw connected isOpen one
    exact ⟨a,sw,connected',isOpen',by rw [number,one],fun sw' other => by rw [number,others sw' other]⟩
  · rw [number]
    exact tracked.unsent (flag ▸ unsent) sw

/-- What an access point does, if it answers as often as it takes a request. -/
theorem Tracked.local {net net' : Net AP} {sta : Mac} (tracked : Tracked net sta) {a : AP} {msgs : List ToController}
    (here : Local net net' a msgs)
    (number : ∀ sw, (net'.down sw).count (.lastRecPow sta) + (if net.sock a = some sw then msgs.countP (isAnswer sta) else 0) =
      (net.down sw).count (.lastRecPow sta)) : Tracked net' sta := by
  refine tracked.congr (by rw [here.controller]) (fun sw => ?_) (fun b sw connected isOpen _ => ?_)
  · have same := number sw
    rw [outstanding,outstanding,here.up]
    split at same
    · rw [if_pos ‹_›,List.countP_append]
      omega
    · rw [if_neg ‹_›]
      omega
  · rw [here.sock,here.closed]
    exact ⟨connected,isOpen⟩

/-- What an access point does that takes no request and sends no answer. -/
theorem Tracked.silent {net net' : Net AP} {sta : Mac} (tracked : Tracked net sta) {a : AP} {msgs : List ToController}
    (here : Local net net' a msgs) (down : net'.down = net.down) (noAnswer : ∀ msg ∈ msgs, isAnswer sta msg = false) :
    Tracked net' sta := by
  refine tracked.local here (fun sw => ?_)
  have none : msgs.countP (isAnswer sta) = 0 := by
    rw [List.countP_eq_zero]
    intro msg member
    simp [noAnswer msg member]
  rw [down,none]
  split <;> rfl

theorem answers_handleVendor {cfg : APConfig} {ap ap' : AccessPoint} {msg : FromController} {msgs : List ToController}
    (done : ap.handleVendor cfg msg = some (ap',msgs)) (sta : Mac) :
    msgs.countP (isAnswer sta) = if msg = .lastRecPow sta then 1 else 0 := by
  obtain ⟨_,answers⟩ := AccessPoint.handleVendor_sends done
  cases msg with
  | lastRecPow sta' =>
    obtain ⟨info,_,same⟩ := Option.map_eq_some_iff.mp done
    cases same
    obtain ⟨sta'',rssi,isQuery,isAnswer',_⟩ := answers _ List.mem_cons_self
    cases isQuery
    rw [isAnswer']
    by_cases same : sta' = sta
    · simp [isAnswer,same]
    · simp [isAnswer,same]
  | _ =>
    have none : msgs = [] := by
      refine List.eq_nil_iff_forall_not_mem.mpr (fun m member => ?_)
      obtain ⟨_,_,isQuery,_⟩ := answers m member
      cases isQuery
    simp [none]

theorem count_messagesTo {sta : Mac} {writes : List Write} (asksNone : AsksNone sta writes) (sw : IOFSwitch) :
    (messagesTo sw (writes.filter (fun w => encodable w.msg))).count (.lastRecPow sta) = 0 := by
  rw [List.count_eq_zero]
  intro member
  exact asksNone _ (List.mem_of_mem_filter (mem_messagesTo.mp member)) rfl

section
variable {net net' : Net AP} {sta : Mac}

/-- The numbers after a message was handled. -/
theorem outstanding_handle {sw : IOFSwitch} {msg : ToController} {rest : List ToController} {failing : List Nat}
    (waiting : net.up sw = msg :: rest) (controls : Controls net net' (.receive sw msg failing))
    (up : net'.up = Function.update net.up sw rest) (sw' : IOFSwitch) :
    net'.outstanding sta sw' + (if sw' = sw ∧ isAnswer sta msg = true then 1 else 0) = net.outstanding sta sw' +
      (messagesTo sw' ((net.controller.step (.receive sw msg failing)).2.filter (fun w => encodable w.msg))).count
        (.lastRecPow sta) := by
  rw [outstanding,outstanding,controls.down,List.count_append,up]
  by_cases same : sw' = sw
  · subst same
    rw [Function.update_self,waiting,List.countP_cons]
    by_cases answer : isAnswer sta msg = true
    · rw [if_pos answer,if_pos ⟨rfl,answer⟩]
      omega
    · rw [if_neg answer,if_neg (fun both => answer both.2)]
      omega
  · rw [Function.update_of_ne same,if_neg (fun both => same both.1)]
    omega

theorem Tracked.handle {sw : IOFSwitch} {msg : ToController} {rest : List ToController} {failing : List Nat}
    (tracked : Tracked net sta) (undisturbed : Undisturbed net (.handle sw failing)) (waiting : net.up sw = msg :: rest)
    (controls : Controls net net' (.receive sw msg failing)) (up : net'.up = Function.update net.up sw rest)
    (closed : net'.closed = net.closed) : Tracked net' sta := by
  have number := fun sw' => @outstanding_handle _ net net' sta sw msg rest failing waiting controls up sw'
  simp only [Undisturbed,waiting] at undisturbed
  have flag := net.controller.flag_step (.receive sw msg failing) sta
  rw [← controls.controller] at flag
  generalize (net.controller.step (.receive sw msg failing)).2 = writes at flag number
  generalize isEvent : Controller.Event.receive sw msg failing = e at flag
  cases flag with
  | @asks sw' ap rssi failing' c' staAP unsent isEntry sent =>
    cases isEvent
    obtain ⟨isOpen,a,connected⟩ := undisturbed unsent staAP isEntry
    have before := tracked.unsent unsent
    refine ⟨fun _ => ⟨a,staAP.sw,controls.sock ▸ connected,closed ▸ isOpen,?_,fun sw' other => ?_⟩,
      fun isUnsent => absurd sent (by simp [isUnsent])⟩
    · have here := number staAP.sw
      rw [before] at here
      simpa [isAnswer,messagesTo,encodable] using here
    · have there := number sw'
      rw [before] at there
      simpa [isAnswer,messagesTo,encodable,Ne.symm other] using there
  | @answered sw' ap rssi failing' c' writes unsent asksNone =>
    cases isEvent
    -- the answer is of the one exchange, which ends with it
    have some : 0 < net.outstanding sta sw := by
      rw [outstanding,waiting,List.countP_cons]
      simp [isAnswer]
    have isSent : net.controller.isSent sta = true := by
      by_contra not
      exact absurd (tracked.unsent (by simpa using not) sw) (by omega)
    obtain ⟨a,sw₁,_,_,one,others⟩ := tracked.sent isSent
    have same : sw = sw₁ := by
      by_contra other
      exact absurd (others sw other) (by omega)
    subst same
    refine ⟨fun sent => absurd unsent (by simp [sent]),fun _ sw' => ?_⟩
    have after := number sw'
    rw [count_messagesTo asksNone] at after
    by_cases same : sw' = sw
    · subst same
      rw [if_pos ⟨rfl,by simp [isAnswer]⟩] at after
      omega
    · have zero := others sw' same
      omega
  | @left sw' ap failing' c' staAP isEntry unsent =>
    cases isEvent
    have before := tracked.unsent (undisturbed (by simp [isEntry]))
    refine ⟨fun sent => absurd unsent (by simp [sent]),fun _ sw' => ?_⟩
    have after := number sw'
    rw [count_messagesTo (asksNone_nil sta),before] at after
    omega
  | removed => cases isEvent
  | same flag asksNone noAnswer =>
    refine tracked.congr flag (fun sw' => ?_) (fun a sw' connected isOpen _ => ⟨controls.sock ▸ connected,closed ▸ isOpen⟩)
    have after := number sw'
    have isNone : isAnswer sta msg = false := by
      cases msg <;> try rfl
      rename_i sta' ap rssi
      by_contra answer
      simp only [isAnswer,decide_eq_false_iff_not,not_not] at answer
      subst answer
      exact noAnswer sw ap rssi failing isEvent.symm
    rw [count_messagesTo asksNone,isNone] at after
    simpa using after

/-- What the controller does on its own: it takes no message from a connection, and it
    asks nobody. -/
theorem Tracked.removed {sw : IOFSwitch} (tracked : Tracked net sta) (undisturbed : Undisturbed net (.removed sw))
    (controls : Controls net net' (.removedSwitch sw)) (up : net'.up = net.up) (closed : net'.closed = sw :: net.closed) :
    Tracked net' sta := by
  have number : ∀ sw', net'.outstanding sta sw' = net.outstanding sta sw' := by
    intro sw'
    rw [outstanding,outstanding,controls.down,up]
    simp [Controller.step,messagesTo]
  have stays : ∀ a sw', net.sock a = some sw' → sw' ∉ net.closed → net.outstanding sta sw' = 1 →
      net'.sock a = some sw' ∧ sw' ∉ net'.closed := by
    intro a sw' connected isOpen one
    refine ⟨controls.sock ▸ connected,?_⟩
    rw [closed,List.mem_cons,not_or]
    refine ⟨?_,isOpen⟩
    rintro rfl
    exact absurd (undisturbed.1 sta) (by omega)
  have flag := net.controller.flag_removedSwitch sta sw
  have isNext : net'.controller = net.controller.removedSwitch sw := controls.controller
  rw [← isNext] at flag
  cases flag with
  | @removed _ _ best notGateway isBest isSwitch unsent =>
    have before : net.controller.isSent sta = false := by
      simp [isSent,isBest,undisturbed.2 notGateway sta best isBest isSwitch]
    exact tracked.congr (unsent.trans before.symm) number stays
  | same flag asksNone noAnswer => exact tracked.congr flag number stays

end

variable [DecidableEq AP]

/-- Every undisturbed step keeps the rule. -/
theorem tracked_step {cfg : Config AP} {net net' : Net AP} {e : Event AP} (undisturbed : Undisturbed net e)
    (linked : Linked cfg net) {sta : Mac} (tracked : Tracked net sta) (stepped : step cfg net e = some net') :
    Tracked net' sta := by
  cases e with
  | connect b address =>
    obtain ⟨free,rfl⟩ := step_connect stepped
    refine tracked.congr rfl (fun _ => rfl) (fun a sw connected isOpen _ => ⟨?_,isOpen⟩)
    have other : a ≠ b := by
      rintro rfl
      simp [free] at connected
    exact (Function.update_of_ne other _ _).trans connected
  | disconnect b =>
    obtain rfl := step_disconnect stepped
    refine tracked.congr rfl (fun _ => rfl) (fun a sw connected isOpen one => ⟨?_,isOpen⟩)
    have other : a ≠ b := by
      rintro rfl
      exact absurd (undisturbed sw connected sta) (by omega)
    exact (Function.update_of_ne other _ _).trans connected
  | radio a input =>
    obtain ⟨msgs,reacts,here,down,_⟩ := step_radio stepped
    refine tracked.silent here down (fun msg member => ?_)
    rcases AccessPoint.react_spec reacts with ⟨_,_,_,_,rfl⟩ | ⟨_,_,⟨_,_,rfl⟩ | ⟨_,reports⟩⟩
    · cases member
    · cases member
    · obtain ⟨_,_,rfl,_⟩ := reports msg member
      rfl
  | thread a i =>
    obtain ⟨msg,ran,here,down,_⟩ := step_thread stepped
    refine tracked.silent here down (fun msg' member => ?_)
    rw [List.mem_singleton.mp member]
    obtain ⟨thread,isThread,isMsg,_⟩ := AccessPoint.sendThread_spec ran
    have threaded := (linked.threads a thread (List.mem_of_getElem? isThread)).2
    rw [← isMsg] at threaded
    cases msg <;> first | rfl | cases threaded
  | uplink a hwAddr data =>
    obtain ⟨verdict,_,here,down,_⟩ := step_uplink stepped
    exact tracked.silent here down (by simp)
  | reinject a i =>
    obtain ⟨verdicts,_,here,down,_⟩ := step_reinject stepped
    exact tracked.silent here down (by simp)
  | deliver a =>
    obtain ⟨sw,msg,rest,msgs,connected,waiting,handled,here,down,_⟩ := step_deliver stepped
    refine tracked.local here (fun sw' => ?_)
    rw [answers_handleVendor handled sta,down,connected]
    by_cases same : sw' = sw
    · subst same
      rw [Function.update_self,waiting,List.count_cons,if_pos rfl]
      by_cases query : msg = .lastRecPow sta
      · simp [query]
      · simp [query]
    · rw [Function.update_of_ne same,if_neg (fun isSame => same (Option.some.inj isSame).symm)]
      rfl
  | handle sw failing =>
    obtain ⟨msg,rest,_,waiting,controls,up,closed⟩ := step_handle stepped
    exact tracked.handle undisturbed waiting controls up closed
  | removed sw =>
    obtain ⟨_,controls,up,closed⟩ := step_removed stepped
    exact tracked.removed undisturbed controls up closed
  | rehash order =>
    obtain ⟨controls,up,closed⟩ := step_rehash stepped
    refine tracked.congr ?_ (fun sw => ?_) (fun a sw connected isOpen _ => ⟨controls.sock ▸ connected,closed ▸ isOpen⟩)
    · rw [controls.controller]
      refine isSent_congr ?_
      simp only [Controller.step,rehash]
      split <;> rfl
    · rw [outstanding,outstanding,controls.down,up]
      simp [Controller.step,messagesTo]
  | _ =>
    have gateway := step_gateway rfl stepped
    refine tracked.congr (by rw [gateway.controller]) (fun sw => ?_)
      (fun a sw connected isOpen _ => ⟨gateway.sock ▸ connected,gateway.closed ▸ isOpen⟩)
    have answers : (net'.up sw).countP (isAnswer sta) = (net.up sw).countP (isAnswer sta) := by
      rcases gateway.up sw with same | ⟨_,more⟩
      · rw [same]
      · rw [more,List.countP_append]
        rfl
    have asks : (net'.down sw).count (.lastRecPow sta) = (net.down sw).count (.lastRecPow sta) := by
      by_cases isGateway : net.gwSock = some sw
      · have never : .lastRecPow sta ∉ net.down sw := by
          intro member
          rcases linked.down sw _ member with ⟨a,isPeer⟩ | ⟨_,_,_,_,isAdd⟩
          · rw [linked.gwSock sw isGateway] at isPeer
            cases isPeer
          · cases isAdd
        rw [List.count_eq_zero.mpr never,List.count_eq_zero.mpr (fun member => never (gateway.down sw _ member))]
      · rw [gateway.otherDown sw isGateway]
    rw [outstanding,outstanding,answers,asks]

theorem tracked_run {cfg : Config AP} {events : List (StreamEvent (Event AP))} {final : Streams (Net AP)}
    (ran : Run.run (host cfg).streamStep ⟨init cfg,[]⟩ events = some final)
    (legible : Run.Steps (host cfg).streamStep (host cfg).Legible ⟨init cfg,[]⟩ events)
    (undisturbed : Run.Steps (host cfg).streamStep (Host.met Undisturbed) ⟨init cfg,[]⟩ events) :
    Linked cfg final.state ∧ ∀ sta, Tracked final.state sta := by
  refine @Host.stream_preserves _ _ _ (host cfg) _ (fun net => Linked cfg net ∧ ∀ sta, Tracked net sta) ?_ _ _ _ ran legible
    undisturbed ⟨linked_init cfg,tracked_init cfg⟩
  intro net e net' isUndisturbed both stepped
  exact ⟨linked_step cfg net e net' both.1 stepped,fun sta => tracked_step isUndisturbed both.1 (both.2 sta) stepped⟩

/-- In a legible and undisturbed run the flag of a station is set only while a request
    waits for, or an answer comes from, an access point that is connected, and there is
    never more than one of both for a station. -/
theorem flag_tracks_exchange {cfg : Config AP} {events : List (StreamEvent (Event AP))} {net : Net AP}
    {astray : List IOFSwitch} (ran : Run.run (host cfg).streamStep ⟨init cfg,[]⟩ events = some ⟨net,astray⟩)
    (legible : Run.Steps (host cfg).streamStep (host cfg).Legible ⟨init cfg,[]⟩ events)
    (undisturbed : Run.Steps (host cfg).streamStep (Host.met Undisturbed) ⟨init cfg,[]⟩ events) (sta : Mac) :
    (net.controller.isSent sta = true → ∃ a sw, net.sock a = some sw ∧ sw ∉ net.closed ∧
      (.lastRecPow sta ∈ net.down sw ∨ ∃ rssi, .apRecPow sta (cfg.ap a).mac rssi ∈ net.up sw)) ∧
    ∀ sw, net.outstanding sta sw ≤ 1 ∧ ∀ sw', 0 < net.outstanding sta sw → 0 < net.outstanding sta sw' → sw = sw' := by
  obtain ⟨linked,tracks⟩ : Linked cfg net ∧ ∀ sta, Tracked net sta := tracked_run ran legible undisturbed
  constructor
  · intro sent
    obtain ⟨a,sw,connected,isOpen,one,_⟩ := (tracks sta).sent sent
    refine ⟨a,sw,connected,isOpen,?_⟩
    by_cases asked : .lastRecPow sta ∈ net.down sw
    · exact .inl asked
    · rw [outstanding,List.count_eq_zero.mpr asked,Nat.zero_add] at one
      obtain ⟨msg,member,answer⟩ := List.countP_pos_iff.mp (show 0 < (net.up sw).countP (isAnswer sta) by omega)
      cases msg with
      | apRecPow sta' ap rssi =>
        have same : sta' = sta := of_decide_eq_true answer
        subst same
        obtain ⟨party,isPeer,honest⟩ := linked.up sw _ member
        obtain ⟨b,rfl,rfl⟩ := honest.sender rfl
        rw [linked.sock a sw connected] at isPeer
        have isHere : a = b := Option.some.inj (Option.some.inj isPeer)
        exact .inr ⟨rssi,isHere ▸ member⟩
      | _ => cases answer
  · intro sw
    cases flag : net.controller.isSent sta with
    | false =>
      have zero := (tracks sta).unsent flag
      exact ⟨by rw [zero]; omega,fun sw' some => absurd (zero sw) (by omega)⟩
    | true =>
      obtain ⟨_,sw₁,_,_,one,others⟩ := (tracks sta).sent flag
      have only : ∀ sw', 0 < net.outstanding sta sw' → sw' = sw₁ := by
        intro sw' some
        by_contra other
        exact absurd (others sw' other) (by omega)
      refine ⟨?_,fun sw' some some' => (only sw some).trans (only sw' some').symm⟩
      by_cases same : sw = sw₁
      · rw [same,one]
      · rw [others sw same]
        omega

/-! ### Exchanges that are disturbed -/

/-- The left access point is asked for the visitor, and its connection is lost. -/
def loseAsked : List (Event Site) := askLeft ++ [.disconnect .left,.removed Site.left.switch]

/-- The visitor leaves while the left access point is asked for it, comes back and is
    heard at the right one again. -/
def askTwice : List (Event Site) :=
  askLeft ++ reportFrame .left (.disassoc visitor false) ++ assocAt .left ++
    [.radio .right (.data visitor 110),.handle Site.right.switch []]

/-- The visitor reassociates at the left access point, which is asked for it and whose
    answer is swallowed behind the reassociation request. -/
def answerSwallowed : List (Event Site) :=
  bothConnect ++ probeAt .left ++ authAt .left ++
    reportFrame .left (.reassoc visitor ⟨1,0x0431,10,Vector.replicate 32 0,8,0⟩) ++
    [.radio .right (.data visitor 100),.handle Site.right.switch [],.deliver .left]

/-- A check of the condition at the site, in which no connection is lost and nobody
    leaves. -/
def undisturbedly (net : Net Site) : Event Site → Bool
  | .disconnect _ => false
  | .removed _ => false
  | .handle sw _ => match net.up sw with
    | .disassocReq _ _ :: _ => false
    | .recPow sta _ _ :: _ => (net.controller.findSTAAPInfo sta).all (fun staAP =>
        staAP.sw ∉ net.closed ∧ (net.sock .left = some staAP.sw ∨ net.sock .right = some staAP.sw))
    | _ => true
  | _ => true

theorem undisturbed_of_undisturbedly {net : Net Site} {e : Event Site} (passes : undisturbedly net e = true) :
    Undisturbed net e := by
  cases e with
  | disconnect a => cases passes
  | removed sw => cases passes
  | handle sw failing =>
    simp only [Undisturbed]
    simp only [undisturbedly] at passes
    split
    · rename_i waiting
      simp [waiting] at passes
    · rename_i waiting
      simp only [waiting] at passes
      intro _ staAP isEntry
      simp only [isEntry,Option.all_some,decide_eq_true_eq] at passes
      exact ⟨passes.1,passes.2.elim (fun left => ⟨_,left⟩) (fun right => ⟨_,right⟩)⟩
    · trivial
  | _ => trivial

/-- The check on every event of the site's own. -/
def streamsUndisturbedly (s : Streams (Net Site)) : StreamEvent (Event Site) → Bool
  | .event e => undisturbedly s.state e
  | .misread _ _ _ _ => true

theorem met_of_streamsUndisturbedly {s : Streams (Net Site)} {e : StreamEvent (Event Site)}
    (passes : streamsUndisturbedly s e = true) : Host.met Undisturbed s e := by
  cases e with
  | event e => exact undisturbed_of_undisturbedly passes
  | misread sw swallowed read failing => trivial

/-- The flag of the visitor stays set with nothing under way, and an exchange that was
    forgotten is joined by another one. An undisturbed exchange loses its answer to a
    stream that is not read aright. -/
theorem flag_outlives_exchange :
    (∃ net, Run.run (step site) (init site) loseAsked = some net ∧ net.controller.isSent visitor = true ∧
      net.sock .left = none ∧ net.sock .right = some Site.right.switch ∧ net.outstanding visitor Site.right.switch = 0) ∧
    (∃ net, Run.run (step site) (init site) askTwice = some net ∧ net.sock .left = some Site.left.switch ∧
      net.down Site.left.switch = [.lastRecPow visitor,.lastRecPow visitor]) ∧
    ∃ final, Run.run (host site).streamStep ⟨init site,[]⟩
        (answerSwallowed.map .event ++ [.misread Site.left.switch 1 none []]) = some final ∧
      Run.allSteps (host site).streamStep streamsUndisturbedly ⟨init site,[]⟩
        (answerSwallowed.map .event ++ [.misread Site.left.switch 1 none []]) = true ∧
      final.state.controller.isSent visitor = true ∧ ∀ a ∈ [Site.left,Site.right],
        final.state.sock a = some a.switch ∧ final.state.outstanding visitor a.switch = 0 :=
  ⟨Run.exists_run (by decide +kernel),Run.exists_run (by decide +kernel),Run.exists_run (by decide +kernel)⟩

theorem askLeft_tracked : ∃ final, Run.run (host site).streamStep ⟨init site,[]⟩ (askLeft.map .event) = some final ∧
    final.state.controller.isSent visitor = true ∧
    ∃ a sw, final.state.sock a = some sw ∧ sw ∉ final.state.closed ∧
      (.lastRecPow visitor ∈ final.state.down sw ∨ ∃ rssi, .apRecPow visitor (site.ap a).mac rssi ∈ final.state.up sw) := by
  obtain ⟨final,ran,sent⟩ : ∃ final, Run.run (host site).streamStep ⟨init site,[]⟩ (askLeft.map .event) = some final ∧
      final.state.controller.isSent visitor = true := Run.exists_run (by decide +kernel)
  have legible : Run.Steps (host site).streamStep (host site).Legible ⟨init site,[]⟩ (askLeft.map .event) :=
    Run.steps_of_check (fun _ _ => of_decide_eq_true) (by decide +kernel)
  have undisturbed : Run.Steps (host site).streamStep (Host.met Undisturbed) ⟨init site,[]⟩ (askLeft.map .event) :=
    Run.steps_of_check (fun _ _ => met_of_streamsUndisturbedly) (by decide +kernel)
  exact ⟨final,ran,sent,(flag_tracks_exchange ran legible undisturbed visitor).1 sent⟩

end Net
end Handover
