import Handover.Exchange
import Handover.Listing
import Handover.Overlay

/-!
What a handover takes along. The controller copies what an access point reported of an
association from entry to entry, whatever is removed and created in between, but never
`qosinfo`, which is zero in every entry. Along every chain of handovers the new access
point is told what the first one sent if and only if that was zero.
-/
namespace Handover

/-- What the entry says of the association. -/
def STAAPInfo.context (staAP : STAAPInfo) : UpdateSTA :=
  ⟨staAP.authAlg,staAP.aid,staAP.capability,staAP.listenInterval,staAP.supportedRates,staAP.supportedRatesLen,
    staAP.qosinfo⟩

/-- What the two reports of an association say, as an entry has it. -/
def Association.context (authAlg : UInt16) (association : Association) (qosinfo : UInt8) : UpdateSTA :=
  ⟨authAlg,association.aid,association.capability,association.listenInterval,some association.supportedRates,
    association.supportedRatesLen,qosinfo⟩

/-- The record holds what was reported, and as many rates as were. -/
structure InfoSTA.Matches (info : InfoSTA) (authAlg : UInt16) (association : Association) : Prop where
  authAlg : info.authAlg = authAlg
  aid : info.aid = association.aid
  capability : info.capability = association.capability
  listenInterval : info.listenInterval = association.listenInterval
  supportedRatesLen : info.supportedRatesLen = association.supportedRatesLen
  supportedRates : ∀ i : Fin 32, i.val < association.supportedRatesLen.toNat →
    info.supportedRates.get i = association.supportedRates.get i
  qosinfo : info.qosinfo = association.qosinfo

namespace Controller

/-- Where an entry comes from, as far as its association goes. -/
inductive Enters (c : Controller) (e : Event) (sta ap : Mac) (entry : STAAPInfo) : Prop where
  | kept {old : STAAPInfo} (isOld : c.lookupSenderSTAAP sta ap = some old) (same : entry.context = old.context) :
    Enters c e sta ap entry
  | created (isNew : c.lookupSenderSTAAP sta ap = none) (isStatus : entry.status = .selected)
    (blank : entry.qosinfo = 0) : Enters c e sta ap entry
  | authenticated {old : STAAPInfo} {sw : IOFSwitch} {authAlg : UInt16} {failing : List Nat}
    (isEvent : e = .receive sw (.authReq sta ap authAlg) failing) (isOld : c.lookupSenderSTAAP sta ap = some old)
    (same : entry.context = { old.context with authAlg := authAlg }) : Enters c e sta ap entry
  | associated {old : STAAPInfo} {sw : IOFSwitch} {association : Association} {failing : List Nat}
    (isEvent : e = .receive sw (.assocReq sta ap association) failing) (isOld : c.lookupSenderSTAAP sta ap = some old)
    (same : entry.context = association.context old.authAlg old.qosinfo) : Enters c e sta ap entry
  | handedOver {sw : IOFSwitch} {reporter : Mac} {rssi : UInt8} {failing : List Nat} {staAP : STAAPInfo} {best : APInfo}
    (isEvent : e = .receive sw (.apRecPow sta reporter rssi) failing) (moves : Moves c sta reporter rssi staAP best)
    (isTarget : ap = best.apMACAddress) (same : entry.context = { staAP.context with qosinfo := entry.qosinfo })
    (qosinfo : entry.qosinfo = ((c.lookupSenderSTAAP sta ap).map (·.qosinfo)).getD 0) : Enters c e sta ap entry

/-- The handlers that change an entry, but not what it says of the association. -/
theorem enters_changeEntry {c : Controller} {e : Event} {sta ap sta' ap' : Mac} {entry : STAAPInfo}
    {change : STAAPInfo → STAAPInfo} (found : (c.changeEntry sta' ap' change).lookupSenderSTAAP sta ap = some entry)
    (keeps : ∀ staAP, (change staAP).context = staAP.context) : Enters c e sta ap entry := by
  rw [lookup_changeEntry] at found
  split at found
  · rename_i here
    obtain ⟨rfl,rfl⟩ := here
    obtain ⟨old,isOld,rfl⟩ := Option.map_eq_some_iff.mp found
    exact .kept isOld (keeps old)
  · exact .kept found rfl

theorem enters_select {c : Controller} {e : Event} {sw : IOFSwitch} {sta ap sta' ap' : Mac} {entry staAP : STAAPInfo}
    {failing : List Nat} (found : (c.select sw sta' ap' staAP failing).1.lookupSenderSTAAP sta ap = some entry)
    (enters : ∀ entry', entry'.status = .selected → entry'.context = staAP.context → Enters c e sta' ap' entry') :
    Enters c e sta ap entry := by
  simp only [select,lookup_putEntry] at found
  split at found
  · rename_i here
    obtain ⟨rfl,rfl⟩ := here
    cases found
    exact enters _ rfl rfl
  · exact .kept found rfl

theorem enters_step {c : Controller} {e : Event} {sta ap : Mac} {entry : STAAPInfo}
    (found : (c.step e).1.lookupSenderSTAAP sta ap = some entry) : Enters c e sta ap entry := by
  have unchanged : c.lookupSenderSTAAP sta ap = some entry → Enters c e sta ap entry := fun same => .kept same rfl
  have does := c.does_step e
  cases e with
  | removedSwitch sw =>
    simp only [step,removedSwitch] at found
    split at found
    · exact unchanged found
    · simp only [lookupSenderSTAAP,Map.lookup_keep,Option.filter_eq_some_iff] at found
      exact unchanged found.1
  | rehash order =>
    have found : (c.rehash order).lookupSenderSTAAP sta ap = some entry := found
    rw [lookup_rehash] at found
    exact unchanged found
  | receive sw msg failing =>
    cases msg with
    | probe sta' ap' =>
      simp only [step,receive,handleProbeReq] at found
      split at found
      · exact unchanged found
      · split at found
        · exact unchanged found
        · split at found
          · rename_i isNew
            exact enters_select found (fun entry' isStatus same => .created isNew isStatus (congrArg (·.qosinfo) same))
          · rename_i old isOld
            split at found
            · exact enters_select found (fun entry' _ same => .kept isOld same)
            · exact unchanged found
    | authReq sta' ap' authAlg =>
      have found : (c.handleAuthReq sta' ap' authAlg).lookupSenderSTAAP sta ap = some entry := found
      rw [handleAuthReq,lookup_changeEntry] at found
      split at found
      · rename_i here
        obtain ⟨rfl,rfl⟩ := here
        obtain ⟨old,isOld,rfl⟩ := Option.map_eq_some_iff.mp found
        exact .authenticated rfl isOld rfl
      · exact unchanged found
    | assocReq sta' ap' association =>
      have found : (c.handleAssocReq sta' ap' association).lookupSenderSTAAP sta ap = some entry := found
      rw [handleAssocReq,lookup_changeEntry] at found
      split at found
      · rename_i here
        obtain ⟨rfl,rfl⟩ := here
        obtain ⟨old,isOld,rfl⟩ := Option.map_eq_some_iff.mp found
        exact .associated rfl isOld rfl
      · exact unchanged found
    | reassocReq sta' ap' =>
      have found : (c.handleReassocReq sta' ap').lookupSenderSTAAP sta ap = some entry := found
      exact enters_changeEntry found (fun _ => rfl)
    | deauthReq sta' ap' =>
      have found : (c.handleDeauthReq sta' ap').lookupSenderSTAAP sta ap = some entry := found
      exact enters_changeEntry found (fun _ => rfl)
    | disassocReq sta' ap' =>
      simp only [step,receive,handleDisassocReq_eq] at found
      have found : (c.changeEntry sta' ap' _).lookupSenderSTAAP sta ap = some entry := found
      exact enters_changeEntry found (fun _ => rfl)
    | recPow sta' ap' rssi =>
      generalize (c.step _).1 = c', (c.step _).2 = writes at does found
      cases does with
      | reported reports => cases reports
      | heard asks => exact unchanged found
    | apRecPow sta' ap' rssi =>
      generalize (c.step _).1 = c', (c.step _).2 = writes at does found
      cases does with
      | reported reports => cases reports
      | stayed stays => exact unchanged (by rwa [lookup_clearSent] at found)
      | @moved _ _ _ _ _ staAP best moves =>
        rw [lookup_handoverTables] at found
        split at found
        · rename_i here
          obtain ⟨rfl,rfl⟩ := here
          cases found
          refine .handedOver rfl moves rfl rfl ?_
          simp only [handoverEntry]
          cases c.lookupSenderSTAAP sta best.apMACAddress <;> rfl
        · split at found
          · rename_i here
            obtain ⟨rfl,rfl⟩ := here
            cases found
            exact .kept moves.entryIs rfl
          · exact unchanged found
    | natUpdate sta' tuple => exact unchanged found
    | portTranslation sta' tuple =>
      generalize (c.step _).1 = c', (c.step _).2 = writes at does found
      cases does with
      | reported reports => cases reports
      | told known => exact unchanged found
      | recorded fresh => exact unchanged found
    | gwConnect => exact unchanged found

/-- No entry has a QoS byte. -/
def NoQos (c : Controller) : Prop := ∀ sta ap entry, c.lookupSenderSTAAP sta ap = some entry → entry.qosinfo = 0

theorem NoQos.step {c : Controller} (none_ : NoQos c) (e : Event) : NoQos (c.step e).1 := by
  intro sta ap entry found
  cases enters_step found with
  | kept isOld same => exact (congrArg (·.qosinfo) same).trans (none_ _ _ _ isOld)
  | created isNew isStatus blank => exact blank
  | authenticated isEvent isOld same => exact (congrArg (·.qosinfo) same).trans (none_ _ _ _ isOld)
  | associated isEvent isOld same => exact (congrArg (·.qosinfo) same).trans (none_ _ _ _ isOld)
  | handedOver isEvent moves isTarget same qosinfo =>
    rw [qosinfo]
    cases isOld : c.lookupSenderSTAAP sta ap with
    | none => rfl
    | some old => exact none_ _ _ _ isOld

/-- The access point that the station goes to on a report, if it does. -/
def target (c : Controller) (sta reporter : Mac) (rssi : UInt8) : Option Mac :=
  (c.staAPRSSIList.lookup sta).bind (fun best =>
    if (c.lookupSenderSTAAP sta reporter).isSome ∧ rssi.toInt8 < best.rssi then some best.apMACAddress else none)

theorem target_of_moves {c : Controller} {sta reporter : Mac} {rssi : UInt8} {staAP : STAAPInfo} {best : APInfo}
    (moves : Moves c sta reporter rssi staAP best) : c.target sta reporter rssi = some best.apMACAddress := by
  simp [target,moves.bestIs,moves.entryIs,moves.stronger]

theorem moves_of_target {c : Controller} {sta reporter ap : Mac} {rssi : UInt8}
    (isTarget : c.target sta reporter rssi = some ap) :
    ∃ staAP best, Moves c sta reporter rssi staAP best ∧ best.apMACAddress = ap := by
  obtain ⟨best,isBest,rest⟩ := Option.bind_eq_some_iff.mp isTarget
  split at rest
  · rename_i both
    obtain ⟨staAP,isEntry⟩ := Option.isSome_iff_exists.mp both.1
    exact ⟨staAP,best,⟨isBest,isEntry,both.2⟩,Option.some.inj rest⟩
  · cases rest

/-- What the new access point is told is what the entry of the old one says. -/
theorem update_handoverWrites {c : Controller} {sw sw' : IOFSwitch} {sta : Mac} {staAP : STAAPInfo} {best : APInfo}
    {failing : List Nat} {update : UpdateSTA}
    (member : ⟨sw',.updateSTAAdd sta update⟩ ∈ c.handoverWrites sw sta staAP best failing) :
    update = staAP.context ∧ sw' = (c.handoverEntry sta staAP best).sw := by
  unfold handoverWrites at member
  dsimp only at member
  split at member
  · simp at member
  · cases gw : c.gwSwitch with
    | none => simpa [gw,and_comm,STAAPInfo.context] using member
    | some gw' => simpa [gw,and_comm,STAAPInfo.context] using member

/-! ### The auth algorithm -/

/-- The entry of the pair has the auth algorithm. -/
def RecordsAuth (c : Controller) (sta ap : Mac) (authAlg : UInt16) : Prop :=
  ∃ staAP, c.lookupSenderSTAAP sta ap = some staAP ∧ staAP.authAlg = authAlg

/-- The pair is not authenticated again, not handed over to, and keeps its entry. -/
def KeepsAuth (sta ap : Mac) (c : Controller) : Event → Prop
  | .receive _ (.authReq sta' ap' _) _ => ¬ (sta' = sta ∧ ap' = ap)
  | .receive _ (.apRecPow sta' reporter rssi) _ => sta' = sta → c.target sta reporter rssi ≠ some ap
  | .removedSwitch sw => ∀ staAP, c.lookupSenderSTAAP sta ap = some staAP → staAP.sw ≠ sw
  | _ => True

theorem RecordsAuth.step {c : Controller} {sta ap : Mac} {authAlg : UInt16} (records : RecordsAuth c sta ap authAlg)
    {e : Event} (keeps : KeepsAuth sta ap c e) : RecordsAuth (c.step e).1 sta ap authAlg := by
  obtain ⟨old,isOld,isAlg⟩ := records
  have remains : e ≠ .removedSwitch old.sw := by
    rintro rfl
    exact keeps old isOld rfl
  obtain ⟨entry,found,_⟩ := entry_persists isOld remains
  refine ⟨entry,found,?_⟩
  rw [← isAlg]
  cases enters_step found with
  | kept isOld' same =>
    cases isOld.symm.trans isOld'
    exact congrArg (·.authAlg) same
  | created isNew isStatus blank =>
    rw [isOld] at isNew
    cases isNew
  | authenticated isEvent isOld' same =>
    subst isEvent
    exact absurd ⟨rfl,rfl⟩ keeps
  | associated isEvent isOld' same =>
    cases isOld.symm.trans isOld'
    exact congrArg (·.authAlg) same
  | handedOver isEvent moves isTarget same qosinfo =>
    subst isEvent
    exact absurd (isTarget ▸ target_of_moves moves) (keeps rfl)

theorem recordsAuth_authReq {c : Controller} {sta ap : Mac} (known : c.status sta ap ≠ none) (authAlg : UInt16)
    (sw : IOFSwitch) (failing : List Nat) :
    RecordsAuth (c.step (.receive sw (.authReq sta ap authAlg) failing)).1 sta ap authAlg := by
  obtain ⟨old,isOld⟩ := Option.ne_none_iff_exists'.mp (mt status_eq_none.mpr known)
  refine ⟨{ old with status := .authenticated, authAlg := authAlg },?_,rfl⟩
  simp [step,receive,handleAuthReq,lookup_changeEntry,isOld]

/-- The second report completes the first. -/
theorem RecordsAuth.assocReq {c : Controller} {sta ap : Mac} {authAlg : UInt16} (records : RecordsAuth c sta ap authAlg)
    (noQos : NoQos c) {sw : IOFSwitch} {association : Association} {failing : List Nat} {entry : STAAPInfo}
    (found : (c.step (.receive sw (.assocReq sta ap association) failing)).1.lookupSenderSTAAP sta ap = some entry) :
    entry.context = association.context authAlg 0 := by
  obtain ⟨old,isOld,rfl⟩ := records
  have found : (c.handleAssocReq sta ap association).lookupSenderSTAAP sta ap = some entry := found
  rw [handleAssocReq,lookup_changeEntry,if_pos ⟨rfl,rfl⟩,isOld] at found
  cases found
  rw [← noQos sta ap old isOld]
  rfl

end Controller

namespace AccessPoint

theorem get_copyRates (old new : Vector UInt8 32) {len : UInt32} {i : Fin 32} (inside : i.val < len.toNat) :
    (copyRates old new len).get i = new.get i := by
  change (copyRates old new len)[i] = new[i]
  simpa [copyRates] using fun outside => absurd inside (Nat.not_lt.mpr outside)

/-- A listed station gets what the message says of it. -/
theorem handleVendor_fills (cfg : APConfig) {ap : AccessPoint} {sta : Mac} (listed : ap.status sta ≠ none)
    (authAlg : UInt16) (association : Association) (qosinfo : UInt8) (fits : association.supportedRatesLen.toNat ≤ 32) :
    ∃ ap' info, ap.handleVendor cfg (.updateSTAAdd sta (association.context authAlg qosinfo)) = some (ap',[]) ∧
      ap'.lookupSenderSTA sta = some (some info) ∧ info.Matches authAlg { association with qosinfo := qosinfo } := by
  obtain ⟨before,isBefore⟩ := record_of_listed listed
  obtain ⟨joined,changed⟩ : ∃ joined, ap.changeStatus sta .associated = some joined :=
    changeSTA_returns listed _
  have listed' : joined.status sta ≠ none := by simp [status_changeStatus changed]
  obtain ⟨ap',filled⟩ := changeSTA_returns listed' (fun info =>
    { info with
      authAlg := authAlg
      aid := association.aid
      capability := association.capability
      listenInterval := association.listenInterval
      qosinfo := qosinfo
      supportedRatesLen := association.supportedRatesLen
      supportedRates := copyRates info.supportedRates association.supportedRates association.supportedRatesLen })
  obtain ⟨⟨info,found⟩,lookup,_⟩ := changeSTA_spec (by intro info; rfl) filled
  have isNow := lookup sta
  rw [if_pos rfl,found] at isNow
  refine ⟨ap',_,?_,isNow,rfl,rfl,rfl,rfl,rfl,fun i inside => get_copyRates _ _ inside,rfl⟩
  simp [handleVendor,isBefore,updateSTA,Association.context,fits,changed,filled]

end AccessPoint

namespace Net
open Controller
variable {AP : Type}

/-- The access point that serves the station after an event, by the handovers that the
    controller decides. -/
def serves (net : Net AP) (sta ap : Mac) (e : Event AP) : Mac :=
  match net.controlled e with
  | some (.receive _ (.apRecPow sta' reporter rssi) _) =>
    if sta' = sta then (net.controller.target sta reporter rssi).getD ap else ap
  | _ => ap

/-- The event hands the station over. -/
def HandsOver (net : Net AP) (sta : Mac) (e : Event AP) : Prop :=
  ∃ sw reporter rssi failing target, net.controlled e = some (.receive sw (.apRecPow sta reporter rssi) failing) ∧
    net.controller.target sta reporter rssi = some target

theorem serves_stays {net : Net AP} {sta : Mac} {e : Event AP} (stays : ¬ HandsOver net sta e) (ap : Mac) :
    net.serves sta ap e = ap := by
  unfold serves
  split
  · rename_i sw sta' reporter rssi failing isGiven
    split
    · rename_i same
      subst same
      cases isTarget : net.controller.target sta' reporter rssi with
      | none => rfl
      | some target => exact absurd ⟨sw,reporter,rssi,failing,target,isGiven,isTarget⟩ stays
    · rfl
  · rfl

/-- The station is not admitted once more where it is, and is handed over from there. -/
def InChain (sta : Mac) (s : Net AP × Mac) (e : Event AP) : Prop :=
  match s.1.controlled e with
  | some (.receive _ (.authReq sta' ap _) _) => ¬ (sta' = sta ∧ ap = s.2)
  | some (.receive _ (.assocReq sta' ap _) _) => ¬ (sta' = sta ∧ ap = s.2)
  | some (.receive _ (.reassocReq sta' ap) _) => ¬ (sta' = sta ∧ ap = s.2)
  | some (.receive _ (.apRecPow sta' reporter rssi) _) =>
    sta' = sta → (s.1.controller.target sta reporter rssi).isSome → reporter = s.2
  | _ => True

instance (sta : Mac) (s : Net AP × Mac) (e : Event AP) : Decidable (InChain sta s e) := by
  unfold InChain
  split <;> infer_instance

/-- Where the station is associated or may be heard of, its entry has the context. -/
def Conveyed (cfg : Config AP) (sta : Mac) (context : UpdateSTA) (s : Net AP × Mac) : Prop :=
  ∀ staAP, s.1.controller.lookupSenderSTAAP sta s.2 = some staAP →
    (staAP.status = .associated ∨ ∃ a sw, s.2 = (cfg.ap a).mac ∧ Awaits cfg s.1 sta a sw) → staAP.context = context

/-- What the rest of the chain depends on. -/
structure Sound (cfg : Config AP) (net : Net AP) : Prop where
  linked : Linked cfg net
  attached : Attached cfg net
  known : Known cfg net
  noQos : NoQos net.controller

variable [DecidableEq AP]

/-- The network and the access point that serves the station. -/
def follow (cfg : Config AP) (sta : Mac) (s : Net AP × Mac) (e : Event AP) : Option (Net AP × Mac) :=
  (step cfg s.1 e).map (·,s.1.serves sta s.2 e)

omit [DecidableEq AP] in
theorem sound_init (cfg : Config AP) : Sound cfg (init cfg) where
  linked := linked_init cfg
  attached := attached_init cfg
  known := known_init cfg
  noQos := by intro sta ap entry found; simp [init,Controller.init,lookupSenderSTAAP] at found

theorem sound_step {cfg : Config AP} {net net' : Net AP} {e : Event AP} (sound : Sound cfg net)
    (stepped : step cfg net e = some net') : Sound cfg net' where
  linked := linked_step cfg net e net' sound.linked stepped
  attached := attached_step sound.linked sound.attached stepped
  known := known_step sound.linked sound.known stepped
  noQos := by
    rcases step_controller stepped with ⟨given,_,isNext⟩ | ⟨_,isNext⟩
    · rw [isNext]
      exact sound.noQos.step given
    · rw [isNext]
      exact sound.noQos

theorem sound_run {cfg : Config AP} {net net' : Net AP} {events : List (Event AP)} (sound : Sound cfg net)
    (ran : Run.run (step cfg) net events = some net') : Sound cfg net' :=
  Run.run_invariant (fun _ _ _ => sound_step) sound ran

omit [DecidableEq AP] in
/-- The report that moves the station comes with the context. -/
theorem Conveyed.moves {cfg : Config AP} {net : Net AP} {sta ap : Mac} {context : UpdateSTA} (linked : Linked cfg net)
    (conveyed : Conveyed cfg sta context (net,ap)) {sw : IOFSwitch} (isOpen : sw ∉ net.closed) {rssi : UInt8}
    (waiting : .apRecPow sta ap rssi ∈ net.up sw) {staAP : STAAPInfo} {best : APInfo}
    (moves : Moves net.controller sta ap rssi staAP best) : staAP.context = context := by
  obtain ⟨a,isMac,awaits⟩ := awaits_of_waiting linked isOpen waiting
  exact conveyed staAP moves.entryIs (.inr ⟨a,sw,isMac,awaits⟩)

/-- What is needed of an entry before a step, where it is needed afterwards. -/
theorem Conveyed.needed {cfg : Config AP} {net net' : Net AP} {e : Event AP} (linked : Linked cfg net)
    (stepped : step cfg net e = some net') {sta ap : Mac} {staAP : STAAPInfo}
    (found : net'.controller.lookupSenderSTAAP sta ap = some staAP)
    (needed : staAP.status = .associated ∨ ∃ a sw, ap = (cfg.ap a).mac ∧ Awaits cfg net' sta a sw) :
    staAP.status = .associated ∨ ∃ a sw, ap = (cfg.ap a).mac ∧ Awaits cfg net sta a sw := by
  rcases needed with isAssociated | ⟨a,sw,rfl,awaits⟩
  · exact .inl isAssociated
  · cases awaits_step linked stepped awaits with
    | asked found' isStatus _ =>
      cases found.symm.trans found'
      exact .inl isStatus
    | idle before => exact .inr ⟨a,sw,rfl,before⟩
    | during _ before => exact .inr ⟨a,sw,rfl,before⟩

/-- A handover carries the context to its target. -/
theorem Conveyed.target {cfg : Config AP} {net net' : Net AP} {sta ap : Mac} {context : UpdateSTA} (sound : Sound cfg net)
    (noQos : context.qosinfo = 0) (conveyed : Conveyed cfg sta context (net,ap)) {sw : IOFSwitch} {failing : List Nat}
    {rssi : UInt8} {rest : List ToController} (waiting : net.up sw = .apRecPow sta ap rssi :: rest)
    (stepped : step cfg net (.handle sw failing) = some net') {staAP : STAAPInfo} {best : APInfo}
    (moves : Moves net.controller sta ap rssi staAP best) : Conveyed cfg sta context (net',best.apMACAddress) := by
  obtain ⟨msg,rest',isOpen,waiting',controls,_⟩ := step_handle stepped
  cases waiting.symm.trans waiting'
  have isContext := conveyed.moves sound.linked isOpen (waiting ▸ List.mem_cons_self) moves
  intro entry found _
  have noQos' := (sound_step sound stepped).noQos sta _ entry found
  have found : net'.controller.lookupSenderSTAAP sta best.apMACAddress = some entry := found
  rw [controls.controller,Controller.step,Controller.receive,handleAPRSSI_moves moves,lookup_handoverTables,
    if_pos ⟨rfl,rfl⟩] at found
  cases found
  subst isContext
  rw [STAAPInfo.context,noQos',← noQos]
  rfl

theorem conveyed_step {cfg : Config AP} {sta : Mac} {context : UpdateSTA} (noQos : context.qosinfo = 0)
    {s s' : Net AP × Mac} {e : Event AP} (inChain : InChain sta s e) (sound : Sound cfg s.1)
    (conveyed : Conveyed cfg sta context s) (stepped : follow cfg sta s e = some s') : Conveyed cfg sta context s' := by
  obtain ⟨net,ap⟩ := s
  obtain ⟨net',isNet,rfl⟩ := Option.map_eq_some_iff.mp stepped
  have linked : Linked cfg net := sound.linked
  unfold InChain at inChain
  by_cases handover : HandsOver net sta e
  · obtain ⟨sw,reporter,rssi,failing,target,isGiven,isTarget⟩ := handover
    obtain ⟨staAP,best,moves,rfl⟩ := moves_of_target isTarget
    have isReporter : reporter = ap := by
      rw [show (net,ap).1.controlled e = _ from isGiven] at inChain
      exact inChain rfl (by simp [isTarget])
    subst isReporter
    obtain ⟨rfl,rest,waiting⟩ := controlled_receive isGiven
    have after := conveyed.target sound noQos waiting isNet moves
    simpa [serves,isGiven,isTarget] using after
  · have stays := serves_stays handover ap
    rw [stays]
    intro entry found needed
    have found : net'.controller.lookupSenderSTAAP sta ap = some entry := found
    have needed := Conveyed.needed linked isNet found needed
    rcases step_controller isNet with ⟨given,isGiven,isNext⟩ | ⟨_,isNext⟩
    · rw [isNext] at found
      rw [show (net,ap).1.controlled e = _ from isGiven] at inChain
      cases enters_step found with
      | @kept old isOld same =>
        rw [same]
        refine conveyed old isOld (needed.imp_left (fun isAssociated => ?_))
        rcases (net.controller.does_step given).associated (status_eq_some.mpr ⟨entry,found,isAssociated⟩) with before |
          ⟨sw,msg,failing,rfl,reports⟩ | ⟨sw,reporter,rssi,failing,staAP,best,rfl,moves,_⟩
        · obtain ⟨old',isOld',isStatus⟩ := status_eq_some.mp before
          cases isOld.symm.trans isOld'
          exact isStatus
        · cases msg <;> cases reports <;> exact absurd ⟨rfl,rfl⟩ inChain
        · exact absurd ⟨_,_,_,_,_,isGiven,target_of_moves moves⟩ handover
      | created isNew isStatus blank =>
        -- a blank entry is not associated, and of a pair without an entry nothing is heard
        rcases needed with isAssociated | ⟨a,sw,rfl,before⟩
        · rw [isStatus] at isAssociated
          cases isAssociated
        · obtain ⟨staAP,isEntry,_⟩ := sound.attached sta a sw before
          rw [isNew] at isEntry
          cases isEntry
      | authenticated isEvent isOld same =>
        subst isEvent
        exact absurd ⟨rfl,rfl⟩ inChain
      | associated isEvent isOld same =>
        subst isEvent
        exact absurd ⟨rfl,rfl⟩ inChain
      | handedOver isEvent moves isTarget same qosinfo =>
        subst isEvent
        exact absurd ⟨_,_,_,_,_,isGiven,target_of_moves moves⟩ handover
    · rw [isNext] at found
      exact conveyed entry found needed

/-- The controller handles the two reports of an association, and keeps what the first
    says until the second. -/
inductive Associates (cfg : Config AP) (sta : Mac) (a : AP) (authAlg : UInt16) (association : Association)
    (start final : Net AP) : Prop where
  | reported {sw sw' : IOFSwitch} {failing failing' : List Nat} {rest rest' : List ToController}
    {authenticated asked : Net AP} {between : List (Event AP)}
    (known : start.controller.status sta (cfg.ap a).mac ≠ none)
    (auth : start.up sw = .authReq sta (cfg.ap a).mac authAlg :: rest)
    (handlesAuth : step cfg start (.handle sw failing) = some authenticated)
    (ran : Run.run (step cfg) authenticated between = some asked)
    (keeps : Run.Steps (step cfg) (fun net e => ∀ given, net.controlled e = some given →
      KeepsAuth sta (cfg.ap a).mac net.controller given) authenticated between)
    (assoc : asked.up sw' = .assocReq sta (cfg.ap a).mac association :: rest')
    (handlesAssoc : step cfg asked (.handle sw' failing') = some final) :
    Associates cfg sta a authAlg association start final

theorem recordsAuth_run {cfg : Config AP} {sta ap : Mac} {authAlg : UInt16} {net net' : Net AP} {events : List (Event AP)}
    (keeps : Run.Steps (step cfg) (fun net e => ∀ given, net.controlled e = some given →
      KeepsAuth sta ap net.controller given) net events)
    (records : RecordsAuth net.controller sta ap authAlg) (ran : Run.run (step cfg) net events = some net') :
    RecordsAuth net'.controller sta ap authAlg := by
  refine @Run.run_preserves _ _ _ _ (fun net => RecordsAuth net.controller sta ap authAlg) ?_ _ _ _ keeps records ran
  intro net e net' keeps records stepped
  rcases step_controller stepped with ⟨given,isGiven,isNext⟩ | ⟨_,isNext⟩
  · rw [isNext]
    exact records.step (keeps given isGiven)
  · rwa [isNext]

/-- After the reports the entry has what they say. -/
theorem Associates.conveyed {cfg : Config AP} {sta : Mac} {a : AP} {authAlg : UInt16} {association : Association}
    {start final : Net AP} (associates : Associates cfg sta a authAlg association start final) (sound : Sound cfg start) :
    Sound cfg final ∧ Conveyed cfg sta (association.context authAlg 0) (final,(cfg.ap a).mac) := by
  cases associates with
  | reported known auth handlesAuth ran keeps assoc handlesAssoc =>
    have soundAsked := sound_run (sound_step sound handlesAuth) ran
    refine ⟨sound_step soundAsked handlesAssoc,fun entry found _ => ?_⟩
    obtain ⟨_,_,_,waiting,controls,_⟩ := step_handle handlesAuth
    cases auth.symm.trans waiting
    obtain ⟨_,_,_,waiting',controls',_⟩ := step_handle handlesAssoc
    cases assoc.symm.trans waiting'
    have records := recordsAuth_run keeps (controls.controller ▸ recordsAuth_authReq known authAlg _ _) ran
    exact records.assocReq soundAsked.noQos (controls'.controller ▸ found)

theorem conveyed_run {cfg : Config AP} {sta : Mac} {context : UpdateSTA} (noQos : context.qosinfo = 0)
    {s s' : Net AP × Mac} {events : List (Event AP)} (inChain : Run.Steps (follow cfg sta) (InChain sta) s events)
    (sound : Sound cfg s.1) (conveyed : Conveyed cfg sta context s) (ran : Run.run (follow cfg sta) s events = some s') :
    Sound cfg s'.1 ∧ Conveyed cfg sta context s' := by
  refine @Run.run_preserves _ _ _ _ (fun s => Sound cfg s.1 ∧ Conveyed cfg sta context s) ?_ _ _ _ inChain
    ⟨sound,conveyed⟩ ran
  rintro s e s' isInChain ⟨sound,conveyed⟩ stepped
  refine ⟨?_,conveyed_step noQos isInChain sound conveyed stepped⟩
  obtain ⟨net,isNet,rfl⟩ := Option.map_eq_some_iff.mp stepped
  exact sound_step sound isNet

/-- A station associates at an access point and is handed over from one access point to
    the next, however often. The next one is told of it, lists it by then, reads the
    message as it was written, and has in its record what the first one sent if and only
    if that was a QoS byte of zero. -/
theorem context_survives_handovers {cfg : Config AP} {events : List (Event AP)} {start : Net AP}
    (ran : Run.run (step cfg) (init cfg) events = some start) {sta : Mac} {first : AP} {authAlg : UInt16}
    {association : Association} {joined : Net AP} (associates : Associates cfg sta first authAlg association start joined)
    (fits : association.supportedRatesLen.toNat ≤ 32) {chain : List (Event AP)} {net : Net AP} {ap : Mac}
    (moved : Run.run (follow cfg sta) (joined,(cfg.ap first).mac) chain = some (net,ap))
    (inChain : Run.Steps (follow cfg sta) (InChain sta) (joined,(cfg.ap first).mac) chain) {sw : IOFSwitch}
    (isOpen : sw ∉ net.closed) {rssi : UInt8} {rest : List ToController}
    (waiting : net.up sw = .apRecPow sta ap rssi :: rest) {failing : List Nat} {newSw : IOFSwitch} {update : UpdateSTA}
    (written : ⟨newSw,.updateSTAAdd sta update⟩ ∈ (net.controller.handleAPRSSI sw sta ap rssi failing).2) :
    ∃ a, net.peer newSw = some (some a) ∧ (net.ap a).status sta ≠ none ∧
      ∀ state : AccessPoint, state.status sta ≠ none → ∀ xid, ∃ bytes, Wire.writeTo xid (.updateSTAAdd sta update) = some bytes ∧
        ∀ junk, ∃ state' info,
          (Wire.hostapdVendor (bytes ++ junk)).bind (state.handleVendor (cfg.ap a)) = some (state',[]) ∧
          state'.lookupSenderSTA sta = some (some info) ∧ (info.Matches authAlg association ↔ association.qosinfo = 0) := by
  obtain ⟨soundJoined,conveyedJoined⟩ := associates.conveyed (sound_run (sound_init cfg) ran)
  obtain ⟨sound,conveyed⟩ := conveyed_run rfl inChain soundJoined conveyedJoined moved
  obtain ⟨staAP,best,moves⟩ : ∃ staAP best, Moves net.controller sta ap rssi staAP best := by
    by_contra stays
    rw [handleAPRSSI_stays stays] at written
    cases written
  rw [handleAPRSSI_moves moves] at written
  obtain ⟨isUpdate,isSwitch⟩ := update_handoverWrites (mem_of_mem_writeAll written)
  rw [conveyed.moves sound.linked isOpen (waiting ▸ List.mem_cons_self) moves] at isUpdate
  obtain ⟨a,isPeer,isMac⟩ := handoverEntry_peer sound.linked moves
  refine ⟨a,isSwitch ▸ isPeer,sound.known.best sta best a moves.bestIs isMac,fun state listed xid => ?_⟩
  obtain ⟨bytes,written'⟩ := Option.isSome_iff_exists.mp
    ((Wire.isSome_writeTo xid (.updateSTAAdd sta update)).trans (by rw [isUpdate]; rfl))
  refine ⟨bytes,written',fun junk => ?_⟩
  obtain ⟨state',info,filled,isInfo,isFilled⟩ :=
    AccessPoint.handleVendor_fills (cfg.ap a) listed authAlg association 0 fits
  refine ⟨state',info,?_,isInfo,?_⟩
  · rw [Wire.hostapdVendor_writeTo written' junk,isUpdate]
    exact filled
  · exact ⟨fun isMatch => isMatch.qosinfo.symm.trans isFilled.qosinfo,fun noQos =>
      { isFilled with qosinfo := isFilled.qosinfo.trans noQos.symm }⟩

/-! ### A QoS byte that is lost -/

/-- The visitor reports eight rates and a QoS byte. -/
def withQos (qosinfo : UInt8) : Association := ⟨1,0x431,10,Vector.replicate 32 0x96,8,qosinfo⟩

/-- The left access point offers admission to the visitor, and hears and reports both
    frames of its association. -/
def reportsBoth (qosinfo : UInt8) : List (Event Site) :=
  bothConnect ++ probeAt .left ++ [.radio .left (.auth visitor 3),.thread .left 0,.radio .left (.assoc visitor (withQos qosinfo)),
    .thread .left 0]

/-- The reports are handled. -/
def joinsLeft (qosinfo : UInt8) : List (Event Site) :=
  reportsBoth qosinfo ++ [.handle Site.left.switch [],.handle Site.left.switch []]

/-- Once the visitor is handed over, the right access point has all that the left one
    reported, and no QoS byte. -/
theorem qosinfo_lost : ∃ net info, Run.run (step site) (init site) (joinsLeft 15 ++ handOver ++ [.deliver .right]) = some net ∧
    (net.ap .right).lookupSenderSTA visitor = some (some info) ∧ info.Matches 3 (withQos 0) ∧
    ¬ info.Matches 3 (withQos 15) := by
  obtain ⟨net,ran,isInfo⟩ : ∃ net, Run.run (step site) (init site) (joinsLeft 15 ++ handOver ++ [.deliver .right]) = some net ∧
      (net.ap .right).lookupSenderSTA visitor =
        some (some ⟨visitor,.associated,100,3,1,0x431,10,Vector.ofFn (fun i => if i.val < 8 then 0x96 else 0),8,0⟩) :=
    Run.exists_run (by decide +kernel)
  refine ⟨net,_,ran,isInfo,⟨rfl,rfl,rfl,rfl,rfl,?_,rfl⟩,fun isMatch => ?_⟩
  · decide
  · exact absurd isMatch.qosinfo (by decide)

/-- The visitor is handed over to the right access point, which is told of it and is
    asked for it when the left one hears it again. -/
def thereAndBack : List (Event Site) :=
  handOver ++ [.deliver .left,.deliver .right,.radio .left (.data visitor 120),.handle Site.left.switch [],.deliver .right]

theorem thereAndBack_keeps_context : ∃ start joined net, Run.run (step site) (init site) (reportsBoth 0) = some start ∧
    Associates site visitor .left 3 (withQos 0) start joined ∧
    Run.run (follow site visitor) (joined,(site.ap .left).mac) thereAndBack = some (net,(site.ap .right).mac) ∧
    ∃ update, ⟨Site.left.switch,.updateSTAAdd visitor update⟩ ∈
      (net.controller.handleAPRSSI Site.right.switch visitor (site.ap .right).mac 100 []).2 ∧
    ∀ state : AccessPoint, state.status visitor ≠ none → ∃ bytes state' info,
      Wire.writeTo 0 (.updateSTAAdd visitor update) = some bytes ∧
      (Wire.hostapdVendor bytes).bind (state.handleVendor (site.ap .left)) = some (state',[]) ∧
      state'.lookupSenderSTA visitor = some (some info) ∧ info.Matches 3 (withQos 0) := by
  obtain ⟨start,ran,known,auth,rest⟩ : ∃ start, Run.run (step site) (init site) (reportsBoth 0) = some start ∧
      start.controller.status visitor (site.ap .left).mac ≠ none ∧
      start.up Site.left.switch = [.authReq visitor (site.ap .left).mac 3,.assocReq visitor (site.ap .left).mac (withQos 0)] ∧
      (step site start (.handle Site.left.switch [])).any (fun authenticated =>
        (step site authenticated (.handle Site.left.switch [])).any (fun joined =>
          Run.allSteps (follow site visitor) (fun s e => decide (InChain visitor s e)) (joined,(site.ap .left).mac) thereAndBack &&
          (Run.run (follow site visitor) (joined,(site.ap .left).mac) thereAndBack).any (fun (net,ap) =>
            decide (ap = (site.ap .right).mac ∧ net.peer Site.left.switch = some (some .left) ∧ Site.right.switch ∉ net.closed ∧
              net.up Site.right.switch = [.apRecPow visitor (site.ap .right).mac 100] ∧
              (net.controller.handleAPRSSI Site.right.switch visitor (site.ap .right).mac 100 []).2.any (fun w =>
                w.sw = Site.left.switch ∧ w.msg = .updateSTAAdd visitor ((withQos 0).context 3 0)))))) = true :=
    Run.exists_run (by decide +kernel)
  obtain ⟨authenticated,handlesAuth,rest⟩ := (Option.any_eq_true _ _).mp rest
  obtain ⟨joined,handlesAssoc,rest⟩ := (Option.any_eq_true _ _).mp rest
  obtain ⟨passes,rest⟩ := Bool.and_eq_true_iff.mp rest
  obtain ⟨⟨net,ap⟩,moved,rest⟩ := (Option.any_eq_true _ _).mp rest
  obtain ⟨rfl,isLeft,isOpen,waiting,writes⟩ := of_decide_eq_true rest
  obtain ⟨⟨sw,msg⟩,member,isWrite⟩ := List.any_eq_true.mp writes
  obtain ⟨rfl,rfl⟩ : sw = Site.left.switch ∧ msg = _ := of_decide_eq_true isWrite
  have assoc : authenticated.up Site.left.switch = [.assocReq visitor (site.ap .left).mac (withQos 0)] := by
    obtain ⟨_,_,_,waiting',_,isUp,_⟩ := step_handle handlesAuth
    cases auth.symm.trans waiting'
    rw [isUp,Function.update_self]
  have associates : Associates site visitor .left 3 (withQos 0) start joined :=
    .reported known auth handlesAuth (Run.run_nil authenticated) trivial assoc handlesAssoc
  have inChain : Run.Steps (follow site visitor) (InChain visitor) (joined,(site.ap .left).mac) thereAndBack :=
    Run.steps_of_check (fun _ _ => of_decide_eq_true) passes
  obtain ⟨a,isPeer,_,fills⟩ := context_survives_handovers ran associates (by decide) moved inChain isOpen waiting member
  cases isPeer.symm.trans isLeft
  refine ⟨start,joined,net,ran,associates,moved,_,member,fun state listed => ?_⟩
  obtain ⟨bytes,written,filled⟩ := fills state listed 0
  obtain ⟨state',info,handled,isInfo,isMatch⟩ := filled []
  rw [List.append_nil] at handled
  exact ⟨bytes,state',info,written,handled,isInfo,isMatch.mpr rfl⟩

end Net
end Handover
