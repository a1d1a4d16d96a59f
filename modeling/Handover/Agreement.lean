import Handover.Links
import Handover.Listing
import Handover.Replicas
import Handover.Streams

/-!
The two records of a station's status, the entry at the controller and the record
at the access point. Frames and timers change the one and are reported, offers and
handovers change the other and are ordered, and nothing reconciles a report with an
order that it crosses, or a report with an earlier one that it overtakes. The
records are replicas in the sense of `Replicas`, and agree at rest along every run
that avoids these crossings and in which the controller does not lose its place in
what an access point sends.
-/
namespace Handover
namespace Net
open Controller Replicas
variable {AP : Type}

/-! ### What travels -/

/-- The statuses that the messages report of the station at the access point. -/
def reported (sta ap : Mac) (msgs : List ToController) : List STAStatus :=
  msgs.filterMap (fun msg => msg.report.bind (fun report =>
    if report.1 = sta ∧ report.2.1 = ap then some report.2.2 else none))

section
variable {sta ap : Mac} {msg : ToController} {msgs : List ToController}

theorem reported_append (first second : List ToController) :
    reported sta ap (first ++ second) = reported sta ap first ++ reported sta ap second :=
  List.filterMap_append

theorem reported_of_report {s : STAStatus} (reports : msg.report = some (sta,ap,s)) : reported sta ap [msg] = [s] := by
  simp [reported,reports]

theorem reported_eq_nil (others : ∀ msg ∈ msgs, ∀ s, msg.report ≠ some (sta,ap,s)) : reported sta ap msgs = [] := by
  rw [reported,List.filterMap_eq_nil_iff]
  intro msg member
  rw [Option.bind_eq_none_iff]
  rintro ⟨sta',ap',s⟩ reports
  rw [if_neg]
  rintro ⟨rfl,rfl⟩
  exact others msg member s reports

/-- A message that leaves the list in its turn leaves the order of reports as it is. -/
theorem reported_eraseIdx {i : Nat} (found : msgs[i]? = some msg)
    (inTurn : reported sta ap [msg] ≠ [] → reported sta ap (msgs.take i) = []) :
    reported sta ap [msg] ++ reported sta ap (msgs.eraseIdx i) = reported sta ap msgs := by
  have whole : msgs = msgs.take i ++ ([msg] ++ msgs.drop (i + 1)) := by
    obtain ⟨inside,rfl⟩ := List.getElem?_eq_some_iff.mp found
    rw [List.singleton_append,← List.drop_eq_getElem_cons inside,List.take_append_drop]
  rw [List.eraseIdx_eq_take_drop_succ,reported_append]
  conv_rhs => rw [whole,reported_append,reported_append]
  by_cases silent : reported sta ap [msg] = []
  · simp [silent]
  · simp [inTurn silent]

end

/-- What the access point has sent or is about to send. -/
def unhandled (net : Net AP) (cfg : Config AP) (a : AP) : List ToController :=
  net.outbox a ++ (net.ap a).sending.map (Sender.msg (cfg.ap a))

/-- The reports about the station that the controller has not handled. -/
def pending (net : Net AP) (cfg : Config AP) (sta : Mac) (a : AP) : List STAStatus :=
  reported sta (cfg.ap a).mac (net.unhandled cfg a)

/-- The orders about the station that the access point has not read. -/
def orders (net : Net AP) (sta : Mac) (a : AP) : List FromController :=
  (net.inbox a).filter (fun msg => msg.station = some sta)

/-- The orders about the station among what is written over the connection. -/
def about (sw : IOFSwitch) (sta : Mac) (writes : List Write) : List FromController :=
  (messagesTo sw (writes.filter (fun w => encodable w.msg))).filter (fun msg => msg.station = some sta)

/-- The orders about the station among what is written to the access point. -/
def ordered (net : Net AP) (writes : List Write) (sta : Mac) (a : AP) : List FromController :=
  ((net.sock a).map (fun sw => about sw sta writes)).getD []

theorem about_append (sw : IOFSwitch) (sta : Mac) (first second : List Write) :
    about sw sta (first ++ second) = about sw sta first ++ about sw sta second := by
  simp [about,messagesTo]

theorem about_eq_nil {sw : IOFSwitch} {sta : Mac} {writes : List Write}
    (others : ∀ w ∈ writes, w.sw = sw → w.msg.station ≠ some sta) : about sw sta writes = [] := by
  rw [about,List.filter_eq_nil_iff]
  intro msg member
  rw [mem_messagesTo,List.mem_filter] at member
  simpa using others _ member.1 rfl

theorem ordered_eq_nil {net : Net AP} {sta : Mac} {a : AP} {writes : List Write}
    (others : ∀ w ∈ writes, net.sock a = some w.sw → w.msg.station ≠ some sta) : net.ordered writes sta a = [] := by
  rw [ordered]
  cases connected : net.sock a with
  | none => rfl
  | some sw => exact about_eq_nil (fun w member same => others w member (same ▸ connected))

theorem ordered_single {net : Net AP} {a : AP} {sw : IOFSwitch} (connected : net.sock a = some sw) {sta : Mac}
    {msg : FromController} (isStation : msg.station = some sta) (isEncodable : encodable msg = true) :
    net.ordered [⟨sw,msg⟩] sta a = [msg] := by
  simp [ordered,connected,about,messagesTo,isStation,isEncodable]

theorem ordered_append (net : Net AP) (sta : Mac) (a : AP) (first second : List Write) :
    net.ordered (first ++ second) sta a = net.ordered first sta a ++ net.ordered second sta a := by
  unfold ordered
  cases net.sock a with
  | none => rfl
  | some sw => exact about_append sw sta first second

/-! ### What has to be avoided -/

/-- The condition on a step. An access point changes a status by itself while no order
    about the station is on its way; its threads report on a station in the order in
    which they were started; an offered station finds room; and an offer or a handover
    is decided while no report about it is on its way, a handover only where there are
    rates to hand over. -/
structure Uncrossed (cfg : Config AP) (net : Net AP) (e : Event AP) : Prop where
  changes : ∀ a input sta, e = .radio a input → (net.ap a).changes input = some sta → net.orders sta a = []
  inTurn : ∀ a i thread sta, e = .thread a i → (net.ap a).sending[i]? = some thread →
    reported sta (cfg.ap a).mac [thread.msg (cfg.ap a)] ≠ [] →
    reported sta (cfg.ap a).mac (((net.ap a).sending.take i).map (Sender.msg (cfg.ap a))) = []
  room : ∀ a sta rest, e = .deliver a → net.inbox a = .addSTA sta :: rest → (net.ap a).status sta = none →
    (net.ap a).numSta < (cfg.ap a).maxNumSta
  offers : ∀ sw failing sta a, net.controlled e = some (.receive sw (.probe sta (cfg.ap a).mac) failing) →
    Offers net.controller sta (cfg.ap a).mac → net.pending cfg sta a = []
  moves : ∀ sw failing sta ap rssi staAP best, net.controlled e = some (.receive sw (.apRecPow sta ap rssi) failing) →
    Moves net.controller sta ap rssi staAP best → staAP.supportedRates ≠ none ∧
      ∀ a, (cfg.ap a).mac = ap ∨ (cfg.ap a).mac = best.apMACAddress → net.pending cfg sta a = []

/-- The records of a station at the controller and at an access point are replicas. -/
def Agreeing (cfg : Config AP) (net : Net AP) : Prop :=
  ∀ sta a, Agree FromController.apply .notAuthenticated (net.controller.status sta (cfg.ap a).mac)
    ((net.ap a).status sta) (net.pending cfg sta a) (net.orders sta a)

theorem agreeing_init (cfg : Config AP) : Agreeing cfg (init cfg) := by
  intro sta a
  have listed : ((init cfg).ap a).status sta = none := AccessPoint.status_init (cfg.ap a) sta
  rw [listed]
  exact agree_start

/-! ### Stations whose strength is known are listed -/

/-- An access point lists the stations whose signal strength it reports, and the best
    alternative of a station lists it. -/
structure Listed (cfg : Config AP) (net : Net AP) : Prop where
  heard : ∀ a msg, msg ∈ net.outbox a → ∀ sta ap rssi, msg = .recPow sta ap rssi ∨ msg = .apRecPow sta ap rssi →
    (net.ap a).status sta ≠ none
  best : ∀ sta best a, net.controller.staAPRSSIList.lookup sta = some best → best.apMACAddress = (cfg.ap a).mac →
    (net.ap a).status sta ≠ none

theorem Known.listed {cfg : Config AP} {net : Net AP} (known : Known cfg net) (linked : Linked cfg net) :
    Listed cfg net where
  heard := by
    intro a msg member sta ap rssi isStrength
    obtain ⟨sw,connected,waiting⟩ : ∃ sw, net.sock a = some sw ∧ msg ∈ net.up sw := by
      cases connected : net.sock a with
      | none => simp [outbox,connected] at member
      | some sw => exact ⟨sw,rfl,by simpa [outbox,connected] using member⟩
    refine known.up sw a (linked.sock a sw connected) msg waiting sta ?_
    rcases isStrength with rfl | rfl <;> rfl
  best := known.best

theorem apply_ne_none (msg : FromController) {s : Option STAStatus} (known : s ≠ none) : msg.apply s ≠ none := by
  cases msg <;> simp [FromController.apply,known]

theorem apply_made (msg : FromController) (made : STAStatus) (isMade : msg.apply none = some made) (s : STAStatus) :
    msg.apply (some s) = some made := by
  cases msg <;> simp_all [FromController.apply]

section
variable {cfg : Config AP} {net net' : Net AP} {a : AP} {e : Event AP}

theorem mem_takes {msgs : List ToController} {msg : ToController} (member : msg ∈ net.takes a msgs) : msg ∈ msgs := by
  unfold takes at member
  split at member
  · exact member
  · cases member

/-- The access point is at the end of the connection of its own. -/
theorem Linked.sock_iff (linked : Linked cfg net) (steady : Steady net) {sw : IOFSwitch} {b : AP}
    (isPeer : net.peer sw = some (some b)) : net.sock a = some sw ↔ (cfg.ap a).mac = (cfg.ap b).mac := by
  constructor
  · intro connected
    rw [linked.sock a sw connected] at isPeer
    cases isPeer
    rfl
  · intro same
    rw [cfg.macs a b same]
    exact steady sw b isPeer

/-- A message that names an access point comes over its connection. -/
theorem Linked.sock_iff_sender (linked : Linked cfg net) (steady : Steady net) {sw : IOFSwitch} {msg : ToController}
    (waiting : msg ∈ net.up sw) {ap : Mac} (names : msg.sender = some ap) :
    net.sock a = some sw ↔ (cfg.ap a).mac = ap := by
  obtain ⟨party,isPeer,honest⟩ := linked.up sw msg waiting
  obtain ⟨b,rfl,rfl⟩ := honest.sender names
  exact linked.sock_iff steady isPeer

/-- Where the controller has an entry, the access point is connected. -/
theorem Linked.connected_of_status (linked : Linked cfg net) (steady : Steady net) {sta : Mac}
    (known : net.controller.status sta (cfg.ap a).mac ≠ none) : (net.sock a).isSome := by
  obtain ⟨s,isStatus⟩ := Option.ne_none_iff_exists'.mp known
  obtain ⟨entry,found,_⟩ := Controller.status_eq_some.mp isStatus
  obtain ⟨b,isPeer,isMac⟩ := linked.tables.entries _ _ _ found
  rw [cfg.macs a b isMac,steady _ b isPeer]
  rfl

end

/-! ### One step of the controller -/

section
variable {cfg : Config AP} {net : Net AP} {given : Controller.Event} {c' : Controller} {writes : List Write}

/-- What a handover orders of the access points. -/
theorem ordered_handover {sw : IOFSwitch} {sta : Mac} {staAP : STAAPInfo} {best : APInfo}
    (hasRates : staAP.supportedRates ≠ none) (a : AP) :
    ∃ update, net.ordered (writeAll [] 0 (net.controller.handoverWrites sw sta staAP best [])) sta a =
      (if net.sock a = some sw then [.removeSTA sta] else []) ++
        if net.sock a = some (net.controller.handoverEntry sta staAP best).sw then [.updateSTAAdd sta update] else [] := by
  let update : UpdateSTA := ⟨staAP.authAlg,staAP.aid,staAP.capability,staAP.listenInterval,staAP.supportedRates,
    staAP.supportedRatesLen,staAP.qosinfo⟩
  have isEncodable : encodable (.updateSTAAdd sta update) = true := Option.isSome_iff_ne_none.mpr hasRates
  refine ⟨update,?_⟩
  have silent : ∀ (flows : List NATMap) (build : NATMap → Write), (∀ entry, (build entry).msg.station = none) →
      net.ordered (flows.map build) sta a = [] := by
    intro flows build isFlow
    refine ordered_eq_nil (fun w member _ => ?_)
    obtain ⟨entry,_,rfl⟩ := List.mem_map.mp member
    simp [isFlow entry]
  have one : ∀ (sw : IOFSwitch) (msg : FromController), msg.station = some sta → encodable msg = true →
      net.ordered [⟨sw,msg⟩] sta a = if net.sock a = some sw then [msg] else [] := by
    intro sw msg isStation isEncodable
    split
    · exact ordered_single ‹_› isStation isEncodable
    · rename_i other
      refine ordered_eq_nil (fun w member connected => ?_)
      rw [List.mem_singleton.mp member] at connected
      exact absurd connected other
  rw [writeAll_handoverWrites,if_neg List.not_mem_nil,writeAll_none,writeAll_none,ordered_append,
    silent _ _ (fun _ => rfl),List.nil_append,← List.singleton_append,ordered_append,ordered_append,
    one sw _ rfl rfl,one _ _ rfl isEncodable]
  cases net.controller.gwSwitch with
  | none => simp [ordered_eq_nil]
  | some gw =>
    rw [silent _ _ (fun _ => rfl)]
    simp

theorem mem_handledOf {a : AP} {sw : IOFSwitch} {msg msg' : ToController} {failing : List Nat}
    (member : msg' ∈ net.handledOf a (.receive sw msg failing)) : msg' = msg := by
  simp only [handledOf] at member
  split at member
  · exact List.mem_singleton.mp member
  · cases member

variable (cfg net) in
/-- The records of the pair are replicas once the controller has become the one given
    and has written, with these reports still to be handled. -/
def AgreeAfter (c' : Controller) (writes : List Write) (sta : Mac) (a : AP) (later : List STAStatus) : Prop :=
  Agree FromController.apply .notAuthenticated (c'.status sta (cfg.ap a).mac) ((net.ap a).status sta) later
    (net.orders sta a ++ net.ordered writes sta a)

variable {sta : Mac} {a : AP}

/-- What is not about the pair. -/
theorem Agreeing.still (agreeing : Agreeing cfg net)
    (status : c'.status sta (cfg.ap a).mac = net.controller.status sta (cfg.ap a).mac)
    (noOrder : net.ordered writes sta a = []) : AgreeAfter cfg net c' writes sta a (net.pending cfg sta a) := by
  rw [AgreeAfter,status,noOrder,List.append_nil]
  exact agreeing sta a

/-- An offer, made while no report about it is on its way. -/
theorem Agreeing.offered (agreeing : Agreeing cfg net) (linked : Linked cfg net) (steady : Steady net) {sw : IOFSwitch}
    {sta' ap : Mac} {entry : STAAPInfo} (waiting : .probe sta' ap ∈ net.up sw) (isStatus : entry.status = .selected)
    (quiet : (cfg.ap a).mac = ap → net.pending cfg sta' a = []) :
    AgreeAfter cfg net (net.controller.putEntry sta' ap entry) [⟨sw,.addSTA sta'⟩] sta a (net.pending cfg sta a) := by
  have connected : net.sock a = some sw ↔ (cfg.ap a).mac = ap := linked.sock_iff_sender steady waiting rfl
  by_cases here : sta = sta' ∧ (cfg.ap a).mac = ap
  · obtain ⟨rfl,isHere⟩ := here
    have agree := agreeing sta a
    rw [quiet isHere] at agree ⊢
    rw [AgreeAfter,status_putEntry,if_pos ⟨rfl,isHere⟩,isStatus,ordered_single (connected.mpr isHere) rfl rfl]
    exact agree.order (fun _ _ => rfl) (fun _ => rfl)
  · refine agreeing.still (by rw [status_putEntry,if_neg here]) (ordered_eq_nil (fun w member isConnected isStation => ?_))
    rw [List.mem_singleton.mp member] at isConnected isStation
    exact here ⟨(Option.some.inj isStation).symm,connected.mp isConnected⟩

/-- A report is handled. -/
theorem Agreeing.learns (agreeing : Agreeing cfg net) (linked : Linked cfg net) (steady : Steady net) {sw : IOFSwitch}
    {msg : ToController} {failing : List Nat} (waiting : msg ∈ net.up sw) {sta' ap : Mac} {s : STAStatus}
    {change : STAAPInfo → STAAPInfo} {bests : Map Mac APInfo} (reports : msg.report = some (sta',ap,s))
    (sets : ∀ staAP, (change staAP).status = s) {later : List STAStatus}
    (handled : net.pending cfg sta a = reported sta (cfg.ap a).mac (net.handledOf a (.receive sw msg failing)) ++ later) :
    AgreeAfter cfg net { net.controller.changeEntry sta' ap change with staAPRSSIList := bests } [] sta a later := by
  have after : ({ net.controller.changeEntry sta' ap change with staAPRSSIList := bests } : Controller).status sta
      (cfg.ap a).mac = (net.controller.changeEntry sta' ap change).status sta (cfg.ap a).mac := rfl
  rw [status_changeEntry _ _ _ sets] at after
  by_cases here : sta = sta' ∧ (cfg.ap a).mac = ap
  · obtain ⟨rfl,isHere⟩ := here
    subst isHere
    have connected := (linked.sock_iff_sender (a := a) steady waiting (ToController.sender_of_report reports)).mpr rfl
    have agree := agreeing sta a
    simp only [handledOf,connected,if_true,reported_of_report reports] at handled
    rw [handled] at agree
    obtain ⟨known,learnt⟩ := agree.learn
    obtain ⟨old,isOld⟩ := Option.ne_none_iff_exists'.mp known
    rw [AgreeAfter,after,if_pos ⟨rfl,rfl⟩,isOld,ordered_eq_nil (by simp),List.append_nil]
    exact learnt
  · have silent : reported sta (cfg.ap a).mac (net.handledOf a (.receive sw msg failing)) = [] := by
      refine reported_eq_nil (fun msg' member s' same => ?_)
      rw [mem_handledOf member,reports] at same
      cases same
      exact here ⟨rfl,rfl⟩
    rw [silent,List.nil_append] at handled
    rw [← handled]
    exact agreeing.still (by rw [after,if_neg here]) (ordered_eq_nil (by simp))

/-- A handover, decided while no report about it is on its way. -/
theorem Agreeing.moved (agreeing : Agreeing cfg net) (linked : Linked cfg net) (steady : Steady net)
    (listed : Listed cfg net) {sw : IOFSwitch} {sta' ap : Mac} {rssi : UInt8} {staAP : STAAPInfo} {best : APInfo}
    (waiting : .apRecPow sta' ap rssi ∈ net.up sw) (moves : Moves net.controller sta' ap rssi staAP best)
    (hasRates : staAP.supportedRates ≠ none)
    (quiet : (cfg.ap a).mac = ap ∨ (cfg.ap a).mac = best.apMACAddress → net.pending cfg sta' a = []) :
    AgreeAfter cfg net (net.controller.handoverTables sw sta' ap staAP best)
      (writeAll [] 0 (net.controller.handoverWrites sw sta' staAP best [])) sta a (net.pending cfg sta a) := by
  by_cases same : sta = sta'
  · subst same
    obtain ⟨update,isOrdered⟩ := @ordered_handover AP net sw sta staAP best hasRates a
    have isReporter : net.sock a = some sw ↔ (cfg.ap a).mac = ap := linked.sock_iff_sender steady waiting rfl
    have isTarget : net.sock a = some (net.controller.handoverEntry sta staAP best).sw ↔
        (cfg.ap a).mac = best.apMACAddress := by
      obtain ⟨b,isPeer,isMac⟩ := handoverEntry_peer linked moves
      rw [isMac]
      exact linked.sock_iff steady isPeer
    rw [AgreeAfter,isOrdered,status_handoverTables,← List.append_assoc]
    simp only [isReporter,isTarget,true_and]
    -- first the removal, then the update, as they are written
    have removed : Agree FromController.apply .notAuthenticated
        (if (cfg.ap a).mac = ap then some .notAuthenticated else net.controller.status sta (cfg.ap a).mac)
        ((net.ap a).status sta) (net.pending cfg sta a)
        (net.orders sta a ++ if (cfg.ap a).mac = ap then [.removeSTA sta] else []) := by
      have agree := agreeing sta a
      split
      · rename_i isHere
        rw [quiet (.inl isHere)] at agree ⊢
        refine agree.order (fun _ _ => rfl) (fun unknown => ?_)
        rw [isHere,status_eq_none,moves.entryIs] at unknown
        cases unknown
      · simpa using agree
    split
    · rename_i isHere
      obtain ⟨s,isStatus⟩ := Option.ne_none_iff_exists'.mp (listed.best sta best a moves.bestIs isHere.symm)
      rw [quiet (.inr isHere)] at removed ⊢
      exact removed.order (fun _ _ => rfl) (fun _ => by rw [isStatus]; rfl)
    · simpa using removed
  · refine agreeing.still ?_ (ordered_eq_nil (fun w member _ isStation => ?_))
    · rw [status_handoverTables]
      simp [same]
    · rcases mem_handoverWrites (mem_of_mem_writeAll member) with ⟨_,_,rfl⟩ | rfl | ⟨_,rfl⟩ | ⟨_,_,_,_,rfl⟩
      · cases isStation
      · exact same (Option.some.inj isStation).symm
      · exact same (Option.some.inj isStation).symm
      · cases isStation

/-- The records stay replicas when the controller is given an event. -/
theorem Agreeing.controls (agreeing : Agreeing cfg net) (linked : Linked cfg net) (steady : Steady net)
    (listed : Listed cfg net) (does : Does net.controller given c' writes)
    (received : ∀ sw msg failing, given = .receive sw msg failing → msg ∈ net.up sw ∧ failing = [])
    (kept : ∀ sw, given ≠ .removedSwitch sw)
    (offers : ∀ sw failing sta a, given = .receive sw (.probe sta (cfg.ap a).mac) failing →
      Offers net.controller sta (cfg.ap a).mac → net.pending cfg sta a = [])
    (moves : ∀ sw failing sta ap rssi staAP best, given = .receive sw (.apRecPow sta ap rssi) failing →
      Moves net.controller sta ap rssi staAP best → staAP.supportedRates ≠ none ∧
        ∀ a, (cfg.ap a).mac = ap ∨ (cfg.ap a).mac = best.apMACAddress → net.pending cfg sta a = [])
    (sta : Mac) (a : AP) {later : List STAStatus}
    (handled : net.pending cfg sta a = reported sta (cfg.ap a).mac (net.handledOf a given) ++ later) :
    AgreeAfter cfg net c' writes sta a later := by
  -- a message that reports nothing leaves the reports as they are
  have silent : ∀ {sw : IOFSwitch} {msg : ToController} {failing : List Nat}, given = .receive sw msg failing →
      msg.report = none → net.pending cfg sta a = later := by
    rintro sw msg failing rfl isNone
    rw [handled,reported_eq_nil (fun msg' member s => by rw [mem_handledOf member,isNone]; simp),List.nil_append]
  have nothing : net.ordered [] sta a = [] := ordered_eq_nil (by simp)
  have written : ∀ {sw : IOFSwitch} {msg : FromController} {failing : List Nat}, msg.station = none →
      net.ordered (writeAll failing 0 [⟨sw,msg⟩]) sta a = [] := by
    intro sw msg failing isNone
    refine ordered_eq_nil (fun w member _ => ?_)
    rw [eq_of_mem_writeAll member,isNone]
    simp
  cases does with
  | ignored ignores => exact silent rfl rfl ▸ agreeing.still rfl nothing
  | @offered sw sta' ap failing entry isOffer isStatus isSwitch =>
    obtain ⟨waiting,rfl⟩ := received _ _ _ rfl
    rw [writeAll_none,← silent rfl rfl]
    exact agreeing.offered linked steady waiting isStatus (by rintro rfl; exact offers sw [] sta' a rfl isOffer)
  | reported reports sets keeps fewer =>
    exact agreeing.learns linked steady (received _ _ _ rfl).1 reports sets handled
  | heard asks =>
    refine silent rfl rfl ▸ agreeing.still rfl ?_
    rcases asks with rfl | ⟨_,_,_,_,rfl⟩
    · exact nothing
    · exact written rfl
  | @moved sw sta' ap rssi failing staAP best isMove =>
    obtain ⟨waiting,rfl⟩ := received _ _ _ rfl
    obtain ⟨hasRates,quiet⟩ := moves sw [] sta' ap rssi staAP best rfl isMove
    rw [← silent rfl rfl]
    exact agreeing.moved linked steady listed waiting isMove hasRates (quiet a)
  | stayed stays => exact silent rfl rfl ▸ agreeing.still (status_clearSent _ _ _ _) nothing
  | updated => exact silent rfl rfl ▸ agreeing.still rfl nothing
  | told found => exact silent rfl rfl ▸ agreeing.still rfl (written rfl)
  | recorded fresh => exact silent rfl rfl ▸ agreeing.still rfl (written rfl)
  | announced => exact silent rfl rfl ▸ agreeing.still rfl nothing
  | removed => exact absurd rfl (kept _)
  | rehashed =>
    rw [show later = net.pending cfg sta a from handled.symm]
    exact agreeing.still (status_rehash _ _ _ _) nothing

end

/-! ### Runs -/

section
variable {cfg : Config AP} {net net' : Net AP} {a : AP}

/-- What an access point adds to its unhandled messages, as far as they report. -/
theorem pending_grow {sta : Mac} {sent : List ToController} {threads : List Sender}
    (outbox : net'.outbox a = net.outbox a ++ sent) (silent : reported sta (cfg.ap a).mac sent = [])
    (sending : (net'.ap a).sending = (net.ap a).sending ++ threads) : net'.pending cfg sta a =
      net.pending cfg sta a ++ reported sta (cfg.ap a).mac (threads.map (Sender.msg (cfg.ap a))) := by
  simp only [pending,unhandled,outbox,sending,reported_append,silent,List.nil_append,List.map_append,List.append_assoc]

/-- The same where nothing that is added reports on the station. -/
theorem pending_same {sta : Mac} {sent : List ToController} {threads : List Sender}
    (outbox : net'.outbox a = net.outbox a ++ sent) (silent : reported sta (cfg.ap a).mac sent = [])
    (sending : (net'.ap a).sending = (net.ap a).sending ++ threads)
    (silent' : ∀ thread ∈ threads, ∀ s, (thread.msg (cfg.ap a)).report ≠ some (sta,(cfg.ap a).mac,s)) :
    net'.pending cfg sta a = net.pending cfg sta a := by
  rw [pending_grow outbox silent sending,reported_eq_nil,List.append_nil]
  intro msg member s
  obtain ⟨thread,inside,rfl⟩ := List.mem_map.mp member
  exact silent' thread inside s

theorem pending_keep {sta : Mac} {sent : List ToController} (outbox : net'.outbox a = net.outbox a ++ sent)
    (silent : reported sta (cfg.ap a).mac sent = []) (sending : (net'.ap a).sending = (net.ap a).sending) :
    net'.pending cfg sta a = net.pending cfg sta a :=
  @pending_same _ _ _ _ _ _ _ [] outbox silent (sending.trans (List.append_nil _).symm) (by simp)

theorem reported_takes {sta ap : Mac} {msgs : List ToController} (silent : ∀ msg ∈ msgs, msg.report = none) :
    reported sta ap (net.takes a msgs) = [] :=
  reported_eq_nil (fun msg member s => by rw [silent msg (mem_takes member)]; simp)

/-- A thread that runs in its turn changes what is pending in no way. -/
theorem pending_thread {sta : Mac} {i : Nat} {thread : Sender} (found : (net.ap a).sending[i]? = some thread)
    (outbox : net'.outbox a = net.outbox a ++ net.takes a [thread.msg (cfg.ap a)])
    (sending : (net'.ap a).sending = (net.ap a).sending.eraseIdx i)
    (inTurn : reported sta (cfg.ap a).mac [thread.msg (cfg.ap a)] ≠ [] →
      reported sta (cfg.ap a).mac (((net.ap a).sending.take i).map (Sender.msg (cfg.ap a))) = [])
    (connected : net.pending cfg sta a = [] ∨ (net.sock a).isSome) :
    net'.pending cfg sta a = net.pending cfg sta a := by
  have isMsg : ((net.ap a).sending.map (Sender.msg (cfg.ap a)))[i]? = some (thread.msg (cfg.ap a)) := by
    rw [List.getElem?_map,found]
    rfl
  have kept := reported_eraseIdx isMsg (by rw [← List.map_take]; exact inTurn)
  rw [List.eraseIdx_map] at kept
  simp only [pending,unhandled,outbox,sending,reported_append,List.append_assoc] at connected ⊢
  by_cases isConnected : (net.sock a).isSome
  · rw [takes,if_pos isConnected,kept]
  · rw [takes,if_neg isConnected]
    have none_ := connected.resolve_right isConnected
    rw [none_]
    rw [List.append_eq_nil_iff] at none_ ⊢
    rw [none_.2,List.append_eq_nil_iff] at kept
    exact ⟨none_.1,kept.2⟩

theorem orders_congr {sta : Mac} (inbox : net'.inbox a = net.inbox a) : net'.orders sta a = net.orders sta a := by
  rw [orders,inbox,orders]

/-- A frame or a timer changes no status that an order is about. -/
theorem Agreeing.radio (agreeing : Agreeing cfg net) {input : AccessPoint.Radio} {msgs : List ToController}
    (noOrder : ∀ sta, (net.ap a).changes input = some sta → net.orders sta a = [])
    (reacts : (net.ap a).react (cfg.ap a) input = some (net'.ap a,msgs))
    (outbox : net'.outbox a = net.outbox a ++ net.takes a msgs) (sta : Mac) :
    Agree FromController.apply .notAuthenticated (net.controller.status sta (cfg.ap a).mac)
      ((net'.ap a).status sta) (net'.pending cfg sta a) (net.orders sta a) := by
  have agree := agreeing sta a
  rcases AccessPoint.react_spec reacts with ⟨sta',target,isChange,changed,rfl⟩ | ⟨_,quiet,sends⟩
  · obtain ⟨thread,sending,reports⟩ := changed.reports
    by_cases same : sta = sta'
    · subst same
      obtain ⟨before,isBefore,busy⟩ := changed.admitted
      rw [noOrder sta isChange] at agree ⊢
      rw [pending_grow outbox (reported_takes (by simp)) sending,List.map_singleton,reported_of_report reports,
        changed.status,if_pos rfl]
      exact agree.change isBefore busy target
    · rw [pending_same outbox (reported_takes (by simp)) sending,changed.status,if_neg same]
      · exact agree
      · intro thread' member s isReport
        rw [List.mem_singleton.mp member,reports] at isReport
        cases isReport
        exact same rfl
  · have noReport : net'.pending cfg sta a = net.pending cfg sta a := by
      rcases sends with ⟨sta',sending,rfl⟩ | ⟨sending,strengths⟩
      · refine pending_same outbox (reported_takes (by simp)) sending (fun thread member s => ?_)
        rw [List.mem_singleton.mp member]
        simp [Sender.msg,ToController.report]
      · refine pending_keep outbox (reported_takes ?_) sending
        intro msg member
        obtain ⟨_,_,rfl,_⟩ := strengths msg member
        rfl
    rw [noReport]
    rcases quiet.status sta with same | ⟨unknown,isNow⟩
    · rw [same]
      exact agree
    · rw [unknown] at agree
      rw [isNow]
      exact agree.make (fun msg _ => apply_ne_none msg (by simp)) apply_made

/-- An order is obeyed, if an offered station finds room. -/
theorem Agreeing.deliver (agreeing : Agreeing cfg net) {msg : FromController} {msgs : List ToController}
    (room : ∀ sta, msg = .addSTA sta → (net.ap a).status sta = none → (net.ap a).numSta < (cfg.ap a).maxNumSta)
    (handled : (net.ap a).handleVendor (cfg.ap a) msg = some (net'.ap a,msgs))
    (inbox : net.inbox a = msg :: net'.inbox a) (outbox : net'.outbox a = net.outbox a ++ net.takes a msgs) (sta : Mac) :
    Agree FromController.apply .notAuthenticated (net.controller.status sta (cfg.ap a).mac)
      ((net'.ap a).status sta) (net'.pending cfg sta a) (net'.orders sta a) := by
  have agree := agreeing sta a
  obtain ⟨sending,answers⟩ := AccessPoint.handleVendor_sends handled
  have noReport : net'.pending cfg sta a = net.pending cfg sta a := by
    refine pending_keep outbox (reported_takes ?_) sending
    intro m member
    obtain ⟨_,_,_,rfl,_⟩ := answers m member
    rfl
  rw [noReport]
  by_cases isStation : msg.station = some sta
  · have isHead : net.orders sta a = msg :: net'.orders sta a := by simp [orders,inbox,isStation]
    rw [isHead] at agree
    rcases (AccessPoint.handleVendor_sets isStation handled).1 with sets | ⟨isOffer,unknown,full,_⟩
    · rw [sets.status,if_pos rfl]
      exact agree.obeys
    · have := room sta isOffer unknown
      omega
  · have same : net.orders sta a = net'.orders sta a := by simp [orders,inbox,isStation]
    rw [← same]
    cases other : msg.station with
    | none =>
      rw [(AccessPoint.handleVendor_other other handled).1]
      exact agree
    | some sta' =>
      have different : sta ≠ sta' := fun same => isStation (same ▸ other)
      rcases (AccessPoint.handleVendor_sets other handled).1 with sets | ⟨_,_,_,unchanged⟩
      · rw [sets.status,if_neg different]
        exact agree
      · rw [unchanged]
        exact agree

variable [DecidableEq AP] {e : Event AP}

theorem agreeing_step (lossless : Lossless net e) (uncrossed : Uncrossed cfg net e) (linked : Linked cfg net)
    (steady : Steady net) (listed : Listed cfg net) (agreeing : Agreeing cfg net)
    (stepped : step cfg net e = some net') : Agreeing cfg net' := by
  intro sta a
  have agree := agreeing sta a
  cases sees_step linked lossless stepped a with
  | @radio input msgs reacts controller inbox outbox =>
    rw [controller,orders_congr inbox]
    exact agreeing.radio (fun sta => uncrossed.changes a input sta rfl) reacts outbox sta
  | @thread i msg ran controller inbox outbox =>
    obtain ⟨thread,found,rfl,sending,_,_,status⟩ := AccessPoint.sendThread_spec ran
    have connected : net.pending cfg sta a = [] ∨ (net.sock a).isSome := by
      by_cases known : net.controller.status sta (cfg.ap a).mac = none
      · rw [known] at agree
        exact .inl agree.1
      · exact .inr (linked.connected_of_status steady known)
    rw [controller,orders_congr inbox,status,
      pending_thread found outbox sending (uncrossed.inTurn a i thread sta rfl found) connected]
    exact agree
  | @deliver msg msgs handled controller inbox outbox =>
    rw [controller]
    refine agreeing.deliver (fun sta isOffer => ?_) handled inbox outbox sta
    rw [isOffer] at inbox
    exact uncrossed.room a sta _ rfl inbox
  | uplink handled controller inbox outbox =>
    rw [controller,orders_congr inbox]
    rcases AccessPoint.handleUplink_spec handled with ⟨_,isNext,_⟩ | ⟨_,_,isNext,_⟩ | ⟨_,_,isNext,_⟩
    · rw [pending,unhandled,outbox,isNext]
      exact agree
    · rw [pending,unhandled,outbox,isNext]
      exact agree
    · have asks : net'.pending cfg sta a = net.pending cfg sta a := by
        refine pending_same (outbox.trans (List.append_nil _).symm) rfl (by rw [isNext]) (fun thread member s => ?_)
        rw [List.mem_singleton.mp member]
        simp [Sender.msg,ToController.report]
      rw [asks,isNext]
      exact agree
  | reinject ran controller inbox outbox =>
    obtain ⟨_,_,_,_,_,_,_,isNext⟩ := AccessPoint.reinjectPkt_spec ran
    rw [controller,orders_congr inbox,pending,unhandled,outbox,isNext]
    exact agree
  | elsewhere noGiven ap controller inbox outbox =>
    rw [controller,orders_congr inbox,pending,unhandled,outbox,ap]
    exact agree
  | @controls _ given isGiven ap controller inbox outbox =>
    have isOrders : net'.orders sta a = net.orders sta a ++ net.ordered (net.controller.step given).2 sta a := by
      rw [orders,inbox,List.filter_append,orders,sentTo,ordered]
      cases net.sock a with
      | none => rfl
      | some sw => rfl
    rw [isOrders,controller,ap]
    refine agreeing.controls linked steady listed (net.controller.does_step given) ?_ ?_ ?_ ?_ sta a ?_
    · rintro sw msg failing rfl
      obtain ⟨rfl,_⟩ := controlled_receive isGiven
      exact ⟨controlled_waiting isGiven sw msg failing rfl,lossless⟩
    · rintro sw rfl
      cases e <;> simp_all [controlled,Lossless]
    · rintro sw failing sta' b rfl
      exact uncrossed.offers sw failing sta' b isGiven
    · rintro sw failing sta' reporter rssi staAP best rfl
      exact uncrossed.moves sw failing sta' reporter rssi staAP best isGiven
    · rw [pending,unhandled,outbox,List.append_assoc,reported_append,pending,unhandled,ap]

/-- In a legible run whose connections last and whose steps are uncrossed, the entry of
    the controller has the status that the access point has, once no report about the
    station and no order is on its way. -/
theorem statuses_agree {events : List (StreamEvent (Event AP))} {final : Streams (Net AP)}
    (ran : Run.run (host cfg).streamStep ⟨init cfg,[]⟩ events = some final)
    (legible : Run.Steps (host cfg).streamStep (host cfg).Legible ⟨init cfg,[]⟩ events)
    (allowed : Run.Steps (host cfg).streamStep (Host.met (fun net e => Lossless net e ∧ Uncrossed cfg net e))
      ⟨init cfg,[]⟩ events) {sta : Mac} {s : STAStatus}
    (noReport : final.state.pending cfg sta a = []) (noOrder : final.state.orders sta a = [])
    (isEntry : final.state.controller.status sta (cfg.ap a).mac = some s) : (final.state.ap a).status sta = some s := by
  have holds : Linked cfg final.state ∧ Steady final.state ∧ Known cfg final.state ∧ Agreeing cfg final.state := by
    refine @Host.stream_preserves _ _ _ (host cfg) _
      (fun net => Linked cfg net ∧ Steady net ∧ Known cfg net ∧ Agreeing cfg net) ?_ _ _ _ ran legible allowed
      ⟨linked_init cfg,steady_init cfg,known_init cfg,agreeing_init cfg⟩
    rintro net e net' ⟨isLossless,isUncrossed⟩ ⟨linked,steady,known,agreeing⟩ stepped
    exact ⟨linked_step cfg net e net' linked stepped,steady_step isLossless steady stepped,known_step linked known stepped,
      agreeing_step isLossless isUncrossed linked steady (known.listed linked) agreeing stepped⟩
  have agree := holds.2.2.2 sta a
  rw [noReport,noOrder,isEntry] at agree
  exact agree.settled

end

/-! ### Reports that overtake each other, and one that is swallowed -/

/-- The visitor authenticates and associates, and the threads that report it run the
    other way round. -/
def overtaken : List (Event Site) :=
  bothConnect ++ probeAt .left ++ [.radio .left (.auth visitor 0),
    .radio .left (.assoc visitor ⟨1,0,0,Vector.replicate 32 0,0,0⟩),.thread .left 1,.thread .left 0,
    .handle Site.left.switch [],.handle Site.left.switch []]

/-- The visitor reassociates and disassociates, all in turn. -/
def reassociates : List (Event Site) :=
  bothConnect ++ probeAt .left ++ authAt .left ++
    reportFrame .left (.reassoc visitor ⟨1,0x0431,10,Vector.replicate 32 0,8,0⟩) ++
    [.radio .left (.disassoc visitor false),.thread .left 0]

/-- The second report is swallowed behind the first. -/
def swallowed : List (StreamEvent (Event Site)) := reassociates.map .event ++ [.misread Site.left.switch 1 none []]

/-- Nothing is on its way when a status is changed, an offer is made or a station is
    handed over, and threads run in order. -/
def takesTurns (net : Net Site) : Event Site → Bool
  | .radio a input => (net.ap a).changes input = none || net.inbox a = []
  | .thread _ i => i = 0
  | .deliver a => (net.ap a).numSta < (site.ap a).maxNumSta
  | .handle sw _ => match net.up sw with
    | .probe sta _ :: _ => [Site.left,Site.right].all (fun a => net.pending site sta a = [])
    | .apRecPow sta ap _ :: _ => [Site.left,Site.right].all (fun a => net.pending site sta a = []) &&
        (net.controller.lookupSenderSTAAP sta ap).all (fun staAP => staAP.supportedRates ≠ none)
    | _ => true
  | _ => true

theorem uncrossed_of_takesTurns {net : Net Site} {e : Event Site} (passes : takesTurns net e = true) :
    Uncrossed site net e where
  changes := by
    rintro a input sta rfl isChange
    simp only [takesTurns,isChange,Bool.or_eq_true,decide_eq_true_eq,reduceCtorEq,false_or] at passes
    simp [orders,passes]
  inTurn := by
    rintro a i thread sta rfl _ _
    simp only [takesTurns,decide_eq_true_eq] at passes
    simp [passes,reported]
  room := by
    rintro a sta rest rfl _ _
    simpa [takesTurns] using passes
  offers := by
    intro sw failing sta a isGiven _
    obtain ⟨rfl,rest,waiting⟩ := controlled_receive isGiven
    simp only [takesTurns,waiting,List.all_cons,List.all_nil,Bool.and_true,Bool.and_eq_true,decide_eq_true_eq] at passes
    cases a with
    | left => exact passes.1
    | right => exact passes.2
  moves := by
    intro sw failing sta ap rssi staAP best isGiven moves
    obtain ⟨rfl,rest,waiting⟩ := controlled_receive isGiven
    simp only [takesTurns,waiting,moves.entryIs,List.all_cons,List.all_nil,Bool.and_true,Bool.and_eq_true,
      decide_eq_true_eq,Option.all_some] at passes
    refine ⟨passes.2,fun a _ => ?_⟩
    cases a with
    | left => exact passes.1.1
    | right => exact passes.1.2

/-- The check of the site on every event of its own. -/
def streamsInTurn (s : Streams (Net Site)) : StreamEvent (Event Site) → Bool
  | .event e => decide (Lossless s.state e) && takesTurns s.state e
  | .misread _ _ _ _ => true

theorem met_of_streamsInTurn {s : Streams (Net Site)} {e : StreamEvent (Event Site)} (passes : streamsInTurn s e = true) :
    Host.met (fun net e => Lossless net e ∧ Uncrossed site net e) s e := by
  cases e with
  | event e =>
    simp only [streamsInTurn,Bool.and_eq_true,decide_eq_true_eq] at passes
    exact ⟨passes.1,uncrossed_of_takesTurns passes.2⟩
  | misread sw swallowed read failing => trivial

/-- All is delivered, and the controller takes an associated station for one that is
    only authenticated, or one that has left for an associated one. -/
theorem overtaken_disagree :
    (∃ final, Run.run (host site).streamStep ⟨init site,[]⟩ (overtaken.map .event) = some final ∧
      Run.allSteps (step site) (fun net e => decide (Lossless net e)) (init site) overtaken = true ∧
      (∀ a ∈ [Site.left,Site.right], final.state.up a.switch = [] ∧ final.state.down a.switch = [] ∧
        (final.state.ap a).sending = []) ∧
      final.state.controller.status visitor (site.ap .left).mac = some .authenticated ∧
      (final.state.ap .left).status visitor = some .associated) ∧
    ∃ final, Run.run (host site).streamStep ⟨init site,[]⟩ swallowed = some final ∧
      Run.allSteps (host site).streamStep streamsInTurn ⟨init site,[]⟩ swallowed = true ∧
      (∀ a ∈ [Site.left,Site.right], final.state.up a.switch = [] ∧ final.state.down a.switch = [] ∧
        (final.state.ap a).sending = []) ∧
      final.state.controller.status visitor (site.ap .left).mac = some .associated ∧
      (final.state.ap .left).status visitor = some .authenticated :=
  ⟨Run.exists_run (by decide +kernel),Run.exists_run (by decide +kernel)⟩

/-- The visitor is admitted and handed over, and all messages are delivered. -/
def takenInTurn : List (Event Site) := bothConnect ++ admitAt .left ++ handOver ++ [.deliver .left,.deliver .right]

theorem takenInTurn_agree : ∃ final, Run.run (host site).streamStep ⟨init site,[]⟩ (takenInTurn.map .event) = some final ∧
    final.state.controller.status visitor (site.ap .left).mac = some .notAuthenticated ∧
    (final.state.ap .left).status visitor = some .notAuthenticated ∧
    final.state.controller.status visitor (site.ap .right).mac = some .associated ∧
    (final.state.ap .right).status visitor = some .associated := by
  obtain ⟨final,ran,noReport,noOrder,isLeft,isRight⟩ :
      ∃ final, Run.run (host site).streamStep ⟨init site,[]⟩ (takenInTurn.map .event) = some final ∧
      (∀ a ∈ [Site.left,Site.right], final.state.pending site visitor a = []) ∧
      (∀ a ∈ [Site.left,Site.right], final.state.orders visitor a = []) ∧
      final.state.controller.status visitor (site.ap .left).mac = some .notAuthenticated ∧
      final.state.controller.status visitor (site.ap .right).mac = some .associated := Run.exists_run (by decide +kernel)
  have legible : Run.Steps (host site).streamStep (host site).Legible ⟨init site,[]⟩ (takenInTurn.map .event) :=
    Run.steps_of_check (fun _ _ => of_decide_eq_true) (by decide +kernel)
  have allowed : Run.Steps (host site).streamStep (Host.met (fun net e => Lossless net e ∧ Uncrossed site net e))
      ⟨init site,[]⟩ (takenInTurn.map .event) := Run.steps_of_check (fun _ _ => met_of_streamsInTurn) (by decide +kernel)
  exact ⟨final,ran,isLeft,statuses_agree ran legible allowed (noReport _ (by simp)) (noOrder _ (by simp)) isLeft,
    isRight,statuses_agree ran legible allowed (noReport _ (by simp)) (noOrder _ (by simp)) isRight⟩

end Net
end Handover
