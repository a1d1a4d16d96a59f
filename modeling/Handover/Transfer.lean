import Handover.Translation

/-!
The flows of a station at the access point that serves it. A handover brings the
recorded flows to the new access point, but a flow that is asked for over another
connection is told to that connection only, a station that associates by itself
brings nothing, and a 4-tuple of one station replaces the same 4-tuple of another.
`Transferred` is what holds where none of these happens: once the messages that
wait are handled, the access point has every recorded flow with its port.
-/
namespace Handover
namespace Net
open Controller NatTable Ports
variable {AP : Type}

/-! ### The port that a 4-tuple is about to have -/

/-- The port of the 4-tuple after the messages. -/
def portAfter (tuple : FourTuple) (port : Option UInt16) (msgs : List FromController) : Option UInt16 :=
  msgs.foldl (fun port msg => match msg with
    | .natAdd _ tuple' newPort => if tuple' = tuple then some newPort else port
    | _ => port) port

theorem portAfter_append (tuple : FourTuple) (port : Option UInt16) (first second : List FromController) :
    portAfter tuple port (first ++ second) = portAfter tuple (portAfter tuple port first) second :=
  List.foldl_append

/-- Messages that agree on the port of the 4-tuple leave it there. -/
theorem portAfter_keep {tuple : FourTuple} {newPort : UInt16} {msgs : List FromController}
    (agree : ∀ sta newPort', .natAdd sta tuple newPort' ∈ msgs → newPort' = newPort) :
    portAfter tuple (some newPort) msgs = some newPort := by
  induction msgs with
  | nil => rfl
  | cons msg rest ih =>
    have later := ih (fun sta newPort' member => agree sta newPort' (List.mem_cons_of_mem _ member))
    cases msg with
    | natAdd sta tuple' newPort' =>
      by_cases same : tuple' = tuple
      · subst same
        simpa [portAfter,agree sta newPort' List.mem_cons_self] using later
      · simpa [portAfter,same] using later
    | _ => exact later

/-- Messages that bring the 4-tuple a port, and agree on it, put it there. -/
theorem portAfter_set {tuple : FourTuple} {newPort : UInt16} {msgs : List FromController} {sta : Mac}
    (told : .natAdd sta tuple newPort ∈ msgs)
    (agree : ∀ sta newPort', .natAdd sta tuple newPort' ∈ msgs → newPort' = newPort) (port : Option UInt16) :
    portAfter tuple port msgs = some newPort := by
  obtain ⟨before,after,rfl⟩ := List.append_of_mem told
  rw [portAfter_append]
  have here : portAfter tuple (portAfter tuple port before) (.natAdd sta tuple newPort :: after) =
      portAfter tuple (some newPort) after := by simp [portAfter]
  rw [here]
  exact portAfter_keep (fun sta' newPort' member => agree sta' newPort' (by simp [member]))

/-- The port of the 4-tuple at the access point once it has read what waits. -/
def eventual (net : Net AP) (a : AP) (tuple : FourTuple) : Option UInt16 :=
  portAfter tuple (portOf (net.ap a).entryList tuple) (net.inbox a)

/-- Reading a message brings the port of a 4-tuple one message further. -/
theorem portOf_handleVendor {cfg : APConfig} {ap ap' : AccessPoint} {msg : FromController} {msgs : List ToController}
    (handled : ap.handleVendor cfg msg = some (ap',msgs)) (tuple : FourTuple) :
    portOf ap'.entryList tuple = portAfter tuple (portOf ap.entryList tuple) [msg] := by
  cases msg with
  | natAdd sta tuple' newPort =>
    obtain ⟨entryList,added,same⟩ := Option.map_eq_some_iff.mp handled
    cases same
    rw [portOf_natAdd added]
    simp [portAfter,eq_comm]
  | _ =>
    rcases AccessPoint.handleVendor_nat handled with nat | ⟨_,_,_,same,_⟩
    · rw [nat.entryList]
      rfl
    · cases same

/-! ### What has to be avoided -/

/-- No other station that is associated at the access point has a flow with the
    4-tuple. -/
def Alone (c : Controller) (sta ap : Mac) (tuple : FourTuple) : Prop :=
  ∀ other, other ≠ sta → c.status other ap = some .associated → ∀ entry ∈ c.flows other, entry.toFourTuple ≠ tuple

/-- The condition on what the controller is given: a new flow is asked for over the
    connection that serves its station; a station that associates by itself has no
    flow that its access point lacks; and no flow that is told to an access point
    has the 4-tuple of another station's there. -/
structure Careful (cfg : Config AP) (net : Net AP) (given : Controller.Event) : Prop where
  serving : ∀ sw sta tuple failing, given = .receive sw (.portTranslation sta tuple) failing →
    (net.controller.flows sta).find? (fun entry => entry.toFourTuple = tuple) = none →
    ∀ a, net.controller.status sta (cfg.ap a).mac = some .associated → net.peer sw = some (some a)
  associates : ∀ sw msg failing sta a, given = .receive sw msg failing →
    msg.report = some (sta,(cfg.ap a).mac,.associated) → net.controller.status sta (cfg.ap a).mac ≠ none →
    ∀ entry ∈ net.controller.flows sta, net.eventual a entry.toFourTuple = some entry.newPort
  asked : ∀ sw sta tuple failing a, given = .receive sw (.portTranslation sta tuple) failing →
    net.peer sw = some (some a) → Alone net.controller sta (cfg.ap a).mac tuple
  handed : ∀ sw sta ap rssi failing staAP best, given = .receive sw (.apRecPow sta ap rssi) failing →
    Moves net.controller sta ap rssi staAP best →
    ∀ entry ∈ net.controller.flows sta, Alone net.controller sta best.apMACAddress entry.toFourTuple

theorem careful_of_noMessage {cfg : Config AP} {net : Net AP} {given : Controller.Event}
    (noMessage : ∀ sw msg failing, given ≠ .receive sw msg failing) : Careful cfg net given where
  serving := fun _ _ _ _ isEvent => absurd isEvent (noMessage _ _ _)
  associates := fun _ _ _ _ _ isEvent => absurd isEvent (noMessage _ _ _)
  asked := fun _ _ _ _ _ isEvent => absurd isEvent (noMessage _ _ _)
  handed := fun _ _ _ _ _ _ _ isEvent => absurd isEvent (noMessage _ _ _)

def Transferable (cfg : Config AP) (net : Net AP) (e : Event AP) : Prop :=
  ∀ given, net.controlled e = some given → Careful cfg net given

/-- Where the controller has a station associated, the access point has or is about
    to have its flows. -/
def Transferred (cfg : Config AP) (net : Net AP) : Prop :=
  ∀ sta a, net.controller.status sta (cfg.ap a).mac = some .associated →
    ∀ entry ∈ net.controller.flows sta, net.eventual a entry.toFourTuple = some entry.newPort

theorem transferred_init (cfg : Config AP) : Transferred cfg (init cfg) := by
  intro sta a associated
  simp [init,Controller.init,status,lookupSenderSTAAP] at associated

/-! ### One step of the controller -/

section
variable {cfg : Config AP} {net : Net AP} {given : Controller.Event}

/-- What an access point is told of a 4-tuple agrees with the flow of any station
    that is associated there. -/
theorem Careful.agree (careful : Careful cfg net given) (linked : Linked cfg net)
    (once : ∀ {sta : Mac} {entry entry' : NATMap}, entry ∈ (net.controller.step given).1.flows sta →
      entry' ∈ (net.controller.step given).1.flows sta → entry.toFourTuple = entry'.toFourTuple → entry = entry')
    {sta : Mac} {a : AP} (associated : (net.controller.step given).1.status sta (cfg.ap a).mac = some .associated)
    {entry : NATMap} (recorded : entry ∈ (net.controller.step given).1.flows sta) {sta' : Mac} {newPort : UInt16}
    (told : .natAdd sta' entry.toFourTuple newPort ∈ net.sentTo given a) : newPort = entry.newPort := by
  obtain ⟨sw,connected,written⟩ := mem_sentTo told
  have isPeer := linked.sock a sw connected
  have does := net.controller.does_step given
  -- the same flow, or that of another station with the same 4-tuple
  have compare : (⟨entry.toFourTuple,newPort⟩ : NATMap) ∈ (net.controller.step given).1.flows sta' →
      (sta ≠ sta' → Alone net.controller sta' (cfg.ap a).mac entry.toFourTuple ∧
        net.controller.status sta (cfg.ap a).mac = some .associated ∧ entry ∈ net.controller.flows sta) →
      newPort = entry.newPort := by
    intro recorded' others
    by_cases same : sta = sta'
    · subst same
      rw [← once recorded' recorded rfl]
    · obtain ⟨alone,wasAssociated,wasRecorded⟩ := others same
      exact absurd rfl (alone sta same wasAssociated entry wasRecorded)
  rcases does.natAdd written rfl with ⟨recorded',failing,isEvent⟩ |
    ⟨sw',ap,rssi,failing,staAP,best,isEvent,moves,sameFlows,isGateway | ⟨isNew,recorded'⟩⟩
  · refine compare recorded' (fun different => ?_)
    have alone := careful.asked sw sta' _ failing a isEvent isPeer
    subst isEvent
    generalize (net.controller.step _).1 = c', (net.controller.step _).2 = writes at does associated recorded
    cases does with
    | reported reports => cases reports
    | told found => exact ⟨alone,associated,recorded⟩
    | recorded fresh =>
      rw [flows_record,if_neg different] at recorded
      exact ⟨alone,associated,recorded⟩
  · have isPeer' := linked.tables.gwSwitch _ isGateway
    rw [isPeer] at isPeer'
    cases isPeer'
  · obtain ⟨b,isPeer',isMac⟩ := handoverEntry_peer linked moves
    rw [← isNew,isPeer] at isPeer'
    cases isPeer'
    refine compare (sameFlows ▸ recorded') (fun different => ?_)
    have alone := careful.handed sw' sta' ap rssi failing staAP best isEvent moves _ recorded'
    rw [isMac] at alone
    subst isEvent
    have after : net.controller.step (.receive sw' (.apRecPow sta' ap rssi) failing) =
        (net.controller.handoverTables sw' sta' ap staAP best,_) := handleAPRSSI_moves moves sw' failing
    rw [after] at associated recorded
    rw [status_handoverTables] at associated
    simp only [different,false_and,if_false] at associated
    exact ⟨alone,associated,recorded⟩

/-- Every flow of a station that is associated afterwards was there, or is told to
    its access point now. -/
theorem Careful.controls (careful : Careful cfg net given) (linked : Linked cfg net) (steady : Steady net)
    (transferred : Transferred cfg net)
    (received : ∀ sw msg failing, given = .receive sw msg failing → msg ∈ net.up sw ∧ failing = [])
    (once : ∀ {sta : Mac} {entry entry' : NATMap}, entry ∈ (net.controller.step given).1.flows sta →
      entry' ∈ (net.controller.step given).1.flows sta → entry.toFourTuple = entry'.toFourTuple → entry = entry')
    {sta : Mac} {a : AP} (associated : (net.controller.step given).1.status sta (cfg.ap a).mac = some .associated)
    {entry : NATMap} (recorded : entry ∈ (net.controller.step given).1.flows sta) :
    portAfter entry.toFourTuple (net.eventual a entry.toFourTuple) (net.sentTo given a) = some entry.newPort := by
  have agree : ∀ sta' newPort, .natAdd sta' entry.toFourTuple newPort ∈ net.sentTo given a → newPort = entry.newPort :=
    fun sta' newPort told => careful.agree linked once associated recorded told
  have old : net.eventual a entry.toFourTuple = some entry.newPort →
      portAfter entry.toFourTuple (net.eventual a entry.toFourTuple) (net.sentTo given a) = some entry.newPort := by
    intro before
    rw [before]
    exact portAfter_keep agree
  have new : ∀ sw, net.peer sw = some (some a) →
      (⟨sw,.natAdd sta entry.toFourTuple entry.newPort⟩ : Write) ∈ (net.controller.step given).2 →
      portAfter entry.toFourTuple (net.eventual a entry.toFourTuple) (net.sentTo given a) = some entry.newPort :=
    fun sw isPeer written => portAfter_set (sentTo_of_mem (steady sw a isPeer) written rfl) agree _
  have does := net.controller.does_step given
  -- a message that asks for no port records no flow
  have unchanged : (∀ sw sta tuple failing, given ≠ .receive sw (.portTranslation sta tuple) failing) →
      entry ∈ net.controller.flows sta := by
    intro noTranslation
    have noUpdate : ∀ sw sta tuple failing, given ≠ .receive sw (.natUpdate sta tuple) failing :=
      fun sw sta tuple failing isGiven => linked.noUpdate _ _ _ (received sw _ failing isGiven).1
    rw [← flows_congr (does.flows_frame noUpdate noTranslation).1]
    exact recorded
  generalize isNext : (net.controller.step given).1 = c', isWrites : (net.controller.step given).2 = writes at *
  cases does with
  | ignored ignores => exact old (transferred sta a associated entry recorded)
  | @offered sw sta' ap failing entry' offers isStatus isSwitch =>
    rw [status_putEntry,isStatus] at associated
    split at associated
    · cases associated
    · exact old (transferred sta a associated entry recorded)
  | @reported sw msg failing sta' ap s change bests reports sets keeps fewer =>
    have wasRecorded : entry ∈ net.controller.flows sta :=
      unchanged (fun _ _ _ _ isGiven => by cases isGiven; cases reports)
    have after : (net.controller.changeEntry sta' ap change).status sta (cfg.ap a).mac = some .associated := associated
    rw [status_changeEntry _ _ _ sets] at after
    split at after
    · rename_i same
      obtain ⟨rfl,rfl⟩ := same
      obtain ⟨before,isBefore,rfl⟩ := Option.map_eq_some_iff.mp after
      exact old (careful.associates sw msg failing sta a rfl reports (by simp [isBefore]) entry wasRecorded)
    · exact old (transferred sta a after entry wasRecorded)
  | heard asks => exact old (transferred sta a associated entry recorded)
  | @moved sw sta' ap rssi failing staAP best moves =>
    by_cases here : sta = sta' ∧ (cfg.ap a).mac = best.apMACAddress
    · obtain ⟨rfl,isNew⟩ := here
      obtain ⟨b,isPeer,isMac⟩ := handoverEntry_peer linked moves
      have sameAP : b = a := cfg.macs b a (by rw [← isMac,isNew])
      subst sameAP
      refine new _ isPeer ?_
      rw [(received _ _ _ rfl).2,writeAll_handoverWrites,writeAll_none]
      exact List.mem_append_left _ (List.mem_map.mpr ⟨entry,recorded,rfl⟩)
    · rw [status_handoverTables,if_neg here] at associated
      split at associated
      · cases associated
      · exact old (transferred sta a associated entry recorded)
  | stayed stays =>
    rw [status_clearSent] at associated
    exact old (transferred sta a associated entry (unchanged (by simp)))
  | updated => exact absurd (received _ _ _ rfl).1 (linked.noUpdate _ _ _)
  | told found => exact old (transferred sta a associated entry recorded)
  | @recorded sw sta' tuple failing fresh =>
    rw [flows_record] at recorded
    split at recorded
    · rename_i same
      subst same
      rcases List.mem_append.mp recorded with before | isNew
      · exact old (transferred sta a associated entry before)
      · refine new sw (careful.serving sw sta tuple failing rfl fresh a associated) ?_
        rw [List.mem_singleton.mp isNew,(received _ _ _ rfl).2,writeAll_none]
        exact List.mem_singleton_self _
    · exact old (transferred sta a associated entry recorded)
  | announced => exact old (transferred sta a associated entry recorded)
  | removed => exact old (transferred sta a (status_removedSwitch associated) entry (unchanged (by simp)))
  | rehashed =>
    rw [status_rehash] at associated
    exact old (transferred sta a associated entry (unchanged (by simp)))

end

/-! ### Runs -/

variable [DecidableEq AP] {cfg : Config AP} {net net' : Net AP} {e : Event AP}

theorem transferred_step (lossless : Lossless net e) (transferable : Transferable cfg net e) (linked : Linked cfg net)
    (steady : Steady net) (numbered' : Numbered net') (transferred : Transferred cfg net)
    (stepped : step cfg net e = some net') : Transferred cfg net' := by
  intro sta a associated entry recorded
  -- where neither the table nor the connection changes
  have still : net'.controller = net.controller → net'.inbox a = net.inbox a →
      (net'.ap a).entryList = (net.ap a).entryList → net'.eventual a entry.toFourTuple = some entry.newPort := by
    intro controller inbox entryList
    rw [controller] at associated recorded
    rw [eventual,inbox,entryList]
    exact transferred sta a associated entry recorded
  cases sees_step linked lossless stepped a with
  | radio reacts controller inbox outbox =>
    rcases AccessPoint.react_spec reacts with ⟨_,_,_,changed,_⟩ | ⟨_,quiet,_⟩
    · exact still controller inbox changed.nat.entryList
    · exact still controller inbox quiet.nat.entryList
  | thread ran controller inbox outbox =>
    obtain ⟨_,_,_,_,nat,_⟩ := AccessPoint.sendThread_spec ran
    exact still controller inbox nat.entryList
  | @deliver msg msgs handled controller inbox outbox =>
    -- the access point reads a message: the port is what it was about to be
    rw [controller] at associated recorded
    have before := transferred sta a associated entry recorded
    rw [eventual,inbox,show msg :: net'.inbox a = [msg] ++ net'.inbox a from rfl,portAfter_append,
      ← portOf_handleVendor handled] at before
    exact before
  | uplink handled controller inbox outbox =>
    rcases AccessPoint.handleUplink_spec handled with ⟨_,isNext,_⟩ | ⟨_,_,isNext,_⟩ | ⟨_,_,isNext,_⟩ <;>
      exact still controller inbox (by rw [isNext])
  | reinject ran controller inbox outbox =>
    obtain ⟨_,_,_,_,_,_,_,isNext⟩ := AccessPoint.reinjectPkt_spec ran
    exact still controller inbox (by rw [isNext])
  | elsewhere noGiven ap controller inbox outbox => exact still controller inbox (by rw [ap])
  | controls isGiven ap controller inbox outbox =>
    rw [controller] at associated recorded
    rw [eventual,ap,inbox,portAfter_append]
    refine (transferable _ isGiven).controls linked steady transferred ?_ (fun one two same => ?_) associated recorded
    · rintro sw msg failing rfl
      obtain ⟨rfl,_⟩ := controlled_receive isGiven
      exact ⟨controlled_waiting isGiven sw msg failing rfl,lossless⟩
    · rw [← controller] at one two
      exact numbered'.once one two same

/-- In a run whose connections last and whose steps are transferable, an access point
    that has read what was sent to it has every flow of the stations that the
    controller has associated there, with its port. -/
theorem flows_transferred {cfg : Config AP} {events : List (Event AP)} {net : Net AP}
    (ran : Run.run (step cfg) (init cfg) events = some net)
    (lossless : Run.Steps (step cfg) Lossless (init cfg) events)
    (transferable : Run.Steps (step cfg) (Transferable cfg) (init cfg) events) {sta : Mac} {a : AP}
    (settled : net.inbox a = []) (associated : net.controller.status sta (cfg.ap a).mac = some .associated)
    {entry : NATMap} (recorded : entry ∈ net.controller.flows sta) :
    portOf (net.ap a).entryList entry.toFourTuple = some entry.newPort := by
  have holds : Linked cfg net ∧ Steady net ∧ Numbered net ∧ Transferred cfg net := by
    refine @Run.run_preserves _ _ _ _ (fun net => Linked cfg net ∧ Steady net ∧ Numbered net ∧ Transferred cfg net) ?_
      _ _ _ (Run.steps_and lossless transferable)
      ⟨linked_init cfg,steady_init cfg,numbered_init cfg,transferred_init cfg⟩ ran
    rintro net e net' ⟨isLossless,isTransferable⟩ ⟨linked,steady,numbered,transferred⟩ stepped
    have numbered' := numbered_step linked numbered stepped
    exact ⟨linked_step cfg net e net' linked stepped,steady_step isLossless steady stepped,numbered',
      transferred_step isLossless isTransferable linked steady numbered' transferred stepped⟩
  have eventually := holds.2.2.2 sta a associated entry recorded
  rwa [eventual,settled] at eventually

/-! ### A request that comes late -/

/-- The visitor sends a packet and is handed over before the request for its port is
    handled; then all messages are delivered. -/
def lateRequest : List (Event Site) :=
  bothConnect ++ admitAt .left ++ [.uplink .left visitor (Gateway.datagram visit)] ++ handOver ++
    [.deliver .left,.deliver .right,.thread .left 0,.handle Site.left.switch [],.deliver .left,.reinject .left 0]

/-- The reply goes to the access point that was left; the one that serves the station
    never hears of the flow. -/
theorem late_request_lost : ∃ net, Run.run (step site) (init site) lateRequest = some net ∧
    Run.allSteps (step site) (fun net e => decide (Lossless net e)) (init site) lateRequest = true ∧
    (∀ a ∈ [Site.left,Site.right], net.up a.switch = [] ∧ net.down a.switch = [] ∧ (net.ap a).sending = []) ∧
    net.controller.status visitor (site.ap .right).mac = some .associated ∧
    net.controller.flows visitor = [⟨visit,49152⟩] ∧ portOf (net.ap .right).entryList visit = none :=
  Run.exists_run (by decide +kernel)

/-- Only the station that a message is about has flows, new ones are asked for where
    it is associated, and it associates before it has any. -/
def transfersPlainly (net : Net Site) : Event Site → Bool
  | .handle sw _ => match net.up sw with
    | .portTranslation sta _ :: _ => net.controller.natTable.entries.all (fun entry => entry.1 = sta) &&
        [Site.left,Site.right].all (fun a =>
          net.controller.status sta (site.ap a).mac ≠ some .associated ∨ net.peer sw = some (some a))
    | .apRecPow sta _ _ :: _ => net.controller.natTable.entries.all (fun entry => entry.1 = sta)
    | .assocReq sta _ _ :: _ => net.controller.flows sta = []
    | .reassocReq sta _ :: _ => net.controller.flows sta = []
    | _ => true
  | _ => true

theorem alone_of_only {c : Controller} {sta : Mac} (only : c.natTable.entries.all (fun entry => entry.1 = sta) = true)
    (ap : Mac) (tuple : FourTuple) : Alone c sta ap tuple := by
  intro other different _ entry recorded
  have none_ : c.natTable.lookup other = none := by
    rw [AList.lookup_eq_none]
    intro member
    obtain ⟨found,inside,same⟩ := List.mem_map.mp (AList.mem_keys.mp member)
    have := List.all_eq_true.mp only found inside
    exact different (same ▸ of_decide_eq_true this)
  simp [flows,none_] at recorded

theorem transferable_of_plainly {net : Net Site} {e : Event Site} (passes : transfersPlainly net e = true) :
    Transferable site net e := by
  intro given isGiven
  cases given with
  | receive sw msg failing =>
    obtain ⟨rfl,rest,waiting⟩ := controlled_receive isGiven
    simp only [transfersPlainly,waiting] at passes
    refine ⟨?_,?_,?_,?_⟩
    · intro sw' sta tuple failing' same _ a associated
      cases same
      simp only [List.all_cons,List.all_nil,Bool.and_true,Bool.and_eq_true,decide_eq_true_eq] at passes
      cases a with
      | left => exact passes.2.1.resolve_left (not_not.mpr associated)
      | right => exact passes.2.2.resolve_left (not_not.mpr associated)
    · intro sw' msg' failing' sta a same reports _ entry recorded
      cases same
      cases msg <;> cases reports <;> simp_all
    · intro sw' sta tuple failing' a same _
      cases same
      exact alone_of_only (Bool.and_eq_true_iff.mp passes).1 _ _
    · intro sw' sta ap rssi failing' staAP best same _ entry _
      cases same
      exact alone_of_only passes _ _
  | removedSwitch sw => exact careful_of_noMessage (by simp)
  | rehash order => exact careful_of_noMessage (by simp)

/-- The visitor opens a flow and is then handed over. -/
def timelyRequest : List (Event Site) :=
  bothConnect ++ admitAt .left ++ [.uplink .left visitor (Gateway.datagram visit),.thread .left 0,
    .handle Site.left.switch [],.deliver .left] ++ handOver ++ [.deliver .left,.deliver .right,.deliver .right]

theorem timely_request_transferred : ∃ net, Run.run (step site) (init site) timelyRequest = some net ∧
    net.controller.status visitor (site.ap .right).mac = some .associated ∧
    portOf (net.ap .right).entryList visit = some 49152 := by
  obtain ⟨net,ran,settled,associated,recorded⟩ : ∃ net, Run.run (step site) (init site) timelyRequest = some net ∧
      net.inbox .right = [] ∧ net.controller.status visitor (site.ap .right).mac = some .associated ∧
      ⟨visit,49152⟩ ∈ net.controller.flows visitor := Run.exists_run (by decide +kernel)
  have lossless : Run.Steps (step site) Lossless (init site) timelyRequest :=
    Run.steps_of_check (fun _ _ => of_decide_eq_true) (by decide +kernel)
  have transferable : Run.Steps (step site) (Transferable site) (init site) timelyRequest :=
    Run.steps_of_check (fun _ _ => transferable_of_plainly) (by decide +kernel)
  have transferred := flows_transferred ran lossless transferable settled associated recorded
  exact ⟨net,ran,associated,transferred⟩

end Net
end Handover
