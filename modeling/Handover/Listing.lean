import Handover.Links

/-!
Which stations an access point lists. A station is never taken from a list, and an
access point reports on listed stations only, so that the controller holds a station
associated, or takes an access point for its best alternative, only where it is
listed. This holds with any connections opened, lost and removed and in whatever order
they deliver; it is why an access point that is asked for the strength of a station
finds its record.
-/
namespace Handover

/-- The station that the sender of the message lists. -/
def ToController.lists : ToController → Option Mac
  | .authReq sta _ _ => some sta
  | .assocReq sta _ _ => some sta
  | .reassocReq sta _ => some sta
  | .disassocReq sta _ => some sta
  | .deauthReq sta _ => some sta
  | .recPow sta _ _ => some sta
  | .apRecPow sta _ _ => some sta
  | _ => none

theorem ToController.lists_of_report {msg : ToController} {sta ap : Mac} {s : STAStatus}
    (reports : msg.report = some (sta,ap,s)) : msg.lists = some sta := by
  cases msg <;> cases reports <;> rfl

namespace AccessPoint

/-- No station leaves the list, and new threads and messages are about listed stations. -/
structure KeepsList (cfg : APConfig) (ap ap' : AccessPoint) (msgs : List ToController) : Prop where
  keeps : ∀ sta, ap.status sta ≠ none → ap'.status sta ≠ none
  threads : ∀ thread ∈ ap'.sending, thread ∈ ap.sending ∨
    ∀ sta, (thread.msg cfg).lists = some sta → ap'.status sta ≠ none
  sends : ∀ msg ∈ msgs, (∃ thread ∈ ap.sending, msg = thread.msg cfg) ∨
    ∀ sta, msg.lists = some sta → ap'.status sta ≠ none

section
variable {cfg : APConfig} {ap ap' : AccessPoint} {msgs : List ToController}

/-- Where neither the list nor the threads change and nothing is sent. -/
theorem KeepsList.still (status : ∀ sta, ap'.status sta = ap.status sta) (sending : ap'.sending = ap.sending) :
    KeepsList cfg ap ap' [] :=
  ⟨fun sta known => by rwa [status],fun thread member => .inl (sending ▸ member),by simp⟩

theorem react_keepsList {input : Radio} (done : ap.react cfg input = some (ap',msgs)) : KeepsList cfg ap ap' msgs := by
  rcases react_spec done with ⟨sta,target,_,changed,rfl⟩ | ⟨_,quiet,⟨sta,sending,rfl⟩ | ⟨sending,reports⟩⟩
  · obtain ⟨new,sending,isReport⟩ := changed.reports
    refine ⟨fun sta' known => ?_,fun thread member => ?_,by simp⟩
    · rw [changed.status]
      split
      · simp
      · exact known
    · rw [sending,List.mem_append,List.mem_singleton] at member
      refine member.imp_right (fun isNew sta' about => ?_)
      rw [isNew,ToController.lists_of_report isReport] at about
      cases about
      simp [changed.status]
  · refine ⟨fun sta' known => ?_,fun thread member => ?_,by simp⟩
    · rcases quiet.status sta' with same | ⟨_,isNow⟩
      · rwa [same]
      · simp [isNow]
    · rw [sending,List.mem_append,List.mem_singleton] at member
      refine member.imp_right (fun isNew sta' about => ?_)
      rw [isNew] at about
      cases about
  · refine ⟨fun sta' known => ?_,fun thread member => .inl (sending ▸ member),fun msg member => .inr ?_⟩
    · rcases quiet.status sta' with same | ⟨_,isNow⟩
      · rwa [same]
      · simp [isNow]
    · obtain ⟨sta,rssi,rfl,known⟩ := reports msg member
      intro sta' about
      cases about
      exact known

theorem sendThread_keepsList {i : Nat} {msg : ToController} (done : ap.sendThread cfg i = some (ap',msg)) :
    KeepsList cfg ap ap' [msg] := by
  obtain ⟨thread,isThread,isMsg,sending,_,_,status⟩ := sendThread_spec done
  refine ⟨fun sta known => by rwa [status],fun other member => .inl ?_,fun sent member => .inl ⟨thread,?_,?_⟩⟩
  · rw [sending] at member
    exact List.mem_of_mem_eraseIdx member
  · exact List.mem_of_getElem? isThread
  · rw [List.mem_singleton.mp member,isMsg]

theorem handleVendor_keepsList {msg : FromController} (done : ap.handleVendor cfg msg = some (ap',msgs)) :
    KeepsList cfg ap ap' msgs := by
  cases isStation : msg.station with
  | none =>
    obtain ⟨status,sending,answers⟩ := handleVendor_other isStation done
    refine ⟨fun sta known => by rwa [status],fun thread member => .inl (sending ▸ member),fun m member => .inr ?_⟩
    obtain ⟨sta,rssi,_,rfl,known⟩ := answers m member
    intro sta' about
    cases about
    rwa [status]
  | some sta =>
    obtain ⟨sets | ⟨_,_,_,rfl⟩,rfl⟩ := handleVendor_sets isStation done
    · refine ⟨fun sta' known => ?_,fun thread member => .inl (sets.sending ▸ member),by simp⟩
      rw [sets.status]
      split
      · rename_i same
        subst same
        cases msg <;> simp [FromController.apply,known]
      · exact known
    · exact .still (fun _ => rfl) rfl

theorem handleUplink_keepsList {packetId : Nat} {hwAddr : Mac} {data : Packet} {verdict : Option Verdict}
    (done : ap.handleUplink cfg packetId hwAddr data = some (ap',verdict)) : KeepsList cfg ap ap' [] := by
  rcases handleUplink_spec done with ⟨_,rfl,_⟩ | ⟨_,_,rfl,_⟩ | ⟨_,_,rfl,_⟩
  · exact .still (fun _ => rfl) rfl
  · exact .still (fun _ => rfl) rfl
  · refine ⟨fun _ => id,fun thread member => ?_,by simp⟩
    rw [List.mem_append,List.mem_singleton] at member
    refine member.imp_right (fun isNew sta about => ?_)
    rw [isNew] at about
    cases about

theorem reinjectPkt_keepsList {i : Nat} {verdicts : List Verdict} (done : ap.reinjectPkt cfg i = some (ap',verdicts)) :
    KeepsList cfg ap ap' [] := by
  obtain ⟨_,_,_,_,_,_,_,rfl⟩ := reinjectPkt_spec done
  exact .still (fun _ => rfl) rfl

end
end AccessPoint

namespace Controller

/-- A station is associated by a report or by a handover. -/
theorem Does.associated {c c' : Controller} {e : Event} {writes : List Write} (does : Does c e c' writes) {sta ap : Mac}
    (isAssociated : c'.status sta ap = some .associated) :
    c.status sta ap = some .associated ∨
      (∃ sw msg failing, e = .receive sw msg failing ∧ msg.report = some (sta,ap,.associated)) ∨
      ∃ sw reporter rssi failing staAP best, e = .receive sw (.apRecPow sta reporter rssi) failing ∧
        Moves c sta reporter rssi staAP best ∧ ap = best.apMACAddress := by
  cases does with
  | offered offers isStatus isSwitch =>
    rw [status_putEntry,isStatus] at isAssociated
    split at isAssociated
    · cases isAssociated
    · exact .inl isAssociated
  | @reported sw msg failing sta' ap' s change bests reports sets keeps fewer =>
    have isAssociated : (c.changeEntry sta' ap' change).status sta ap = some .associated := isAssociated
    rw [status_changeEntry c sta' ap' sets] at isAssociated
    split at isAssociated
    · rename_i here
      obtain ⟨rfl,rfl⟩ := here
      obtain ⟨_,_,rfl⟩ := Option.map_eq_some_iff.mp isAssociated
      exact .inr (.inl ⟨sw,msg,failing,rfl,reports⟩)
    · exact .inl isAssociated
  | @moved sw sta' ap' rssi failing staAP best moves =>
    rw [status_handoverTables] at isAssociated
    split at isAssociated
    · rename_i here
      obtain ⟨rfl,rfl⟩ := here
      exact .inr (.inr ⟨sw,ap',rssi,failing,staAP,best,rfl,moves,rfl⟩)
    · split at isAssociated
      · cases isAssociated
      · exact .inl isAssociated
  | stayed stays => exact .inl (by rwa [status_clearSent] at isAssociated)
  | removed => exact .inl (status_removedSwitch isAssociated)
  | rehashed => exact .inl (by rwa [status_rehash] at isAssociated)
  | _ => exact .inl isAssociated

end Controller

namespace Net
open Controller
variable {AP : Type}

/-- What is under way or recorded about a station at an access point is so only where
    the access point lists it. -/
structure Known (cfg : Config AP) (net : Net AP) : Prop where
  threads : ∀ a, ∀ thread ∈ (net.ap a).sending, ∀ sta, (thread.msg (cfg.ap a)).lists = some sta →
    (net.ap a).status sta ≠ none
  up : ∀ sw a, net.peer sw = some (some a) → ∀ msg ∈ net.up sw, ∀ sta, msg.lists = some sta → (net.ap a).status sta ≠ none
  associated : ∀ sta a, net.controller.status sta (cfg.ap a).mac = some .associated → (net.ap a).status sta ≠ none
  best : ∀ sta best a, net.controller.staAPRSSIList.lookup sta = some best → best.apMACAddress = (cfg.ap a).mac →
    (net.ap a).status sta ≠ none
  down : ∀ sw a, net.peer sw = some (some a) → ∀ sta, .lastRecPow sta ∈ net.down sw → (net.ap a).status sta ≠ none

theorem known_init (cfg : Config AP) : Known cfg (init cfg) where
  threads := by intro a thread member; simp [init,AccessPoint.init] at member
  up := by intro sw a isPeer; simp [peer,init] at isPeer
  associated := by intro sta a isAssociated; simp [init,Controller.init,Controller.status,lookupSenderSTAAP] at isAssociated
  best := by intro sta best a found; simp [init,Controller.init] at found
  down := by intro sw a isPeer; simp [peer,init] at isPeer

section
variable {cfg : Config AP} {net net' : Net AP}

/-- What an access point does keeps the rule. -/
theorem Known.local (linked : Linked cfg net) (known : Known cfg net) {b : AP} {msgs : List ToController}
    (here : Local net net' b msgs) (list : AccessPoint.KeepsList (cfg.ap b) (net.ap b) (net'.ap b) msgs)
    (down : ∀ sw, ∀ msg ∈ net'.down sw, msg ∈ net.down sw) : Known cfg net' := by
  have keeps : ∀ a sta, (net.ap a).status sta ≠ none → (net'.ap a).status sta ≠ none := by
    intro a sta isListed
    by_cases same : a = b
    · subst same
      exact list.keeps sta isListed
    · rwa [here.others a same]
  refine ⟨fun a thread member sta about => ?_,fun sw a isPeer msg member sta about => ?_,fun sta a isAssociated => ?_,
    fun sta best a found isMac => ?_,fun sw a isPeer sta member => ?_⟩
  · by_cases same : a = b
    · subst same
      rcases list.threads thread member with old | new
      · exact list.keeps sta (known.threads a thread old sta about)
      · exact new sta about
    · rw [here.others a same] at member ⊢
      exact known.threads a thread member sta about
  · rw [peer_congr here.opened] at isPeer
    rw [here.up] at member
    split at member
    · rename_i connected
      rcases List.mem_append.mp member with old | new
      · exact keeps a sta (known.up sw a isPeer msg old sta about)
      · have same : b = a := by
          have isPeer' := linked.sock b sw connected
          rw [isPeer] at isPeer'
          exact (Option.some.inj (Option.some.inj isPeer')).symm
        subst same
        rcases list.sends msg new with ⟨thread,isThread,rfl⟩ | isListed
        · exact list.keeps sta (known.threads b thread isThread sta about)
        · exact isListed sta about
    · exact keeps a sta (known.up sw a isPeer msg member sta about)
  · rw [here.controller] at isAssociated
    exact keeps a sta (known.associated sta a isAssociated)
  · rw [here.controller] at found
    exact keeps a sta (known.best sta best a found isMac)
  · rw [peer_congr here.opened] at isPeer
    exact keeps a sta (known.down sw a isPeer sta (down sw _ member))

/-- The access point that the controller hears from lists the station. -/
theorem Known.received (linked : Linked cfg net) (known : Known cfg net) {sw : IOFSwitch} {msg : ToController}
    (waiting : msg ∈ net.up sw) {sta : Mac} {a : AP} (names : msg.sender = some (cfg.ap a).mac)
    (about : msg.lists = some sta) : (net.ap a).status sta ≠ none := by
  obtain ⟨party,isPeer,honest⟩ := linked.up sw msg waiting
  obtain ⟨b,rfl,isMac⟩ := honest.sender names
  rw [cfg.macs a b isMac]
  exact known.up sw b isPeer msg waiting sta about

/-- A station becomes associated at an access point only where it is listed. -/
theorem Known.associates (linked : Linked cfg net) (known : Known cfg net) {e : Controller.Event}
    (waiting : ∀ sw msg failing, e = .receive sw msg failing → msg ∈ net.up sw) {sta : Mac} {a : AP}
    (isAssociated : (net.controller.step e).1.status sta (cfg.ap a).mac = some .associated) :
    (net.ap a).status sta ≠ none := by
  rcases (net.controller.does_step e).associated isAssociated with old | ⟨sw,msg,failing,isEvent,reports⟩ |
    ⟨sw,reporter,rssi,failing,staAP,best,_,moves,isMac⟩
  · exact known.associated sta a old
  · exact known.received linked (waiting sw msg failing isEvent) (ToController.sender_of_report reports)
      (ToController.lists_of_report reports)
  · exact known.best sta best a moves.bestIs isMac.symm

/-- The controller asks for the strength of a station only where it is listed. -/
theorem Known.asks (linked : Linked cfg net) (known : Known cfg net) {e : Controller.Event}
    (waiting : ∀ sw msg failing, e = .receive sw msg failing → msg ∈ net.up sw) {w : Write}
    (member : w ∈ (net.controller.step e).2) {sta : Mac} (isQuery : w.msg = .lastRecPow sta) :
    ∃ a, net.peer w.sw = some (some a) ∧ (net.ap a).status sta ≠ none := by
  obtain ⟨ap,staAP,found,isStatus,isSwitch⟩ := (net.controller.does_step e).lastRecPow member isQuery
  have tables := linked.tables.step (fun sw msg failing isEvent => linked.up sw msg (waiting sw msg failing isEvent))
  obtain ⟨a,isPeer,rfl⟩ := tables.entries sta ap staAP found
  refine ⟨a,isSwitch ▸ isPeer,known.associates linked waiting ?_⟩
  exact Controller.status_eq_some.mpr ⟨staAP,found,isStatus⟩

/-- What the controller does keeps the rule. -/
theorem Known.controls (linked : Linked cfg net) (known : Known cfg net) {e : Controller.Event}
    (controls : Controls net net' e) (waiting : ∀ sw msg failing, e = .receive sw msg failing → msg ∈ net.up sw)
    (up : ∀ sw, ∀ msg ∈ net'.up sw, msg ∈ net.up sw) : Known cfg net' := by
  refine ⟨?_,fun sw a isPeer msg member sta about => ?_,fun sta a isAssociated => ?_,fun sta best a found isMac => ?_,
    fun sw a isPeer sta member => ?_⟩ <;> rw [controls.ap]
  · exact known.threads
  · rw [peer_congr controls.opened] at isPeer
    exact known.up sw a isPeer msg (up sw msg member) sta about
  · rw [controls.controller] at isAssociated
    exact known.associates linked waiting isAssociated
  · rw [controls.controller] at found
    rcases (net.controller.does_step e).sw_best found with ⟨old,isOld,sameAP,_⟩ | ⟨rssi,failing,isEvent | isEvent⟩
    · exact known.best sta old a isOld (sameAP ▸ isMac)
    · exact known.received linked (waiting _ _ _ isEvent) (congrArg some isMac) rfl
    · exact known.received linked (waiting _ _ _ isEvent) (congrArg some isMac) rfl
  · rw [peer_congr controls.opened] at isPeer
    rcases controls.mem_down member with old | new
    · exact known.down sw a isPeer sta old
    · obtain ⟨b,isPeer',isListed⟩ := known.asks linked waiting new rfl
      have same : b = a := Option.some.inj (Option.some.inj (isPeer'.symm.trans isPeer))
      exact same ▸ isListed

/-- Other connections, and what is announced over them, keep the rule. -/
theorem Known.grow (linked : Linked cfg net) (known : Known cfg net) (controller : net'.controller = net.controller)
    (ap : net'.ap = net.ap) (opened : net'.opened = net.opened ∨ ∃ connection, net'.opened = net.opened ++ [connection])
    (up : ∀ sw, ∀ msg ∈ net'.up sw, msg ∈ net.up sw ∨ msg = .gwConnect)
    (down : ∀ sw, ∀ msg ∈ net'.down sw, msg ∈ net.down sw) : Known cfg net' := by
  obtain ⟨grows,_⟩ := @Linked.grow _ _ _ linked net' opened
  refine ⟨?_,fun sw a isPeer msg member sta about => ?_,?_,?_,fun sw a isPeer sta member => ?_⟩
  · rw [ap]
    exact known.threads
  · rw [ap]
    rcases up sw msg member with old | rfl
    · exact known.up sw a (linked.peer_of_up grows old isPeer) msg old sta about
    · cases about
  · rw [ap,controller]
    exact known.associated
  · rw [ap,controller]
    exact known.best
  · rw [ap]
    have old := down sw _ member
    exact known.down sw a (linked.peer_of_down grows old isPeer) sta old

end

variable [DecidableEq AP]

theorem known_step {cfg : Config AP} {net net' : Net AP} {e : Event AP} (linked : Linked cfg net)
    (known : Known cfg net) (stepped : step cfg net e = some net') : Known cfg net' := by
  have still : net'.controller = net.controller → net'.ap = net.ap → net'.opened = net.opened → net'.up = net.up →
      net'.down = net.down → Known cfg net' := fun controller ap opened up down =>
    known.grow linked controller ap (.inl opened) (fun sw msg member => .inl (up ▸ member)) (fun sw msg => down ▸ id)
  cases e with
  | connect a address =>
    obtain ⟨_,isNext⟩ := step_connect stepped
    refine known.grow linked (by rw [isNext]) (by rw [isNext]) (.inr ⟨_,by rw [isNext]⟩) ?_ ?_
    · rw [isNext]
      exact fun _ _ => .inl
    · rw [isNext]
      exact fun _ _ => id
  | disconnect a =>
    have isNext := step_disconnect stepped
    refine still ?_ ?_ ?_ ?_ ?_ <;> rw [isNext]
  | radio a input =>
    obtain ⟨msgs,reacts,here,down,_⟩ := step_radio stepped
    exact known.local linked here (AccessPoint.react_keepsList reacts) (fun sw msg member => down ▸ member)
  | thread a i =>
    obtain ⟨msg,ran,here,down,_⟩ := step_thread stepped
    exact known.local linked here (AccessPoint.sendThread_keepsList ran) (fun sw msg member => down ▸ member)
  | deliver a =>
    obtain ⟨sw,msg,rest,msgs,_,waiting,handled,here,down,_⟩ := step_deliver stepped
    exact known.local linked here (AccessPoint.handleVendor_keepsList handled)
      (fun sw' msg' member => mem_of_mem_dequeue waiting (down ▸ member))
  | uplink a hwAddr data =>
    obtain ⟨verdict,handled,here,down,_⟩ := step_uplink stepped
    exact known.local linked here (AccessPoint.handleUplink_keepsList handled) (fun sw msg member => down ▸ member)
  | reinject a i =>
    obtain ⟨verdicts,ran,here,down,_⟩ := step_reinject stepped
    exact known.local linked here (AccessPoint.reinjectPkt_keepsList ran) (fun sw msg member => down ▸ member)
  | handle sw failing =>
    obtain ⟨msg,rest,_,waiting,controls,up,_⟩ := step_handle stepped
    refine known.controls linked controls ?_ (fun sw' msg' member => mem_of_mem_dequeue waiting (up ▸ member))
    intro sw' msg' failing' same
    cases same
    rw [waiting]
    exact List.mem_cons_self
  | removed sw =>
    obtain ⟨_,controls,up,_⟩ := step_removed stepped
    exact known.controls linked controls (by simp) (fun sw' msg member => up ▸ member)
  | rehash order =>
    obtain ⟨controls,up,_⟩ := step_rehash stepped
    exact known.controls linked controls (by simp) (fun sw' msg member => up ▸ member)
  | _ =>
    have gateway := step_gateway rfl stepped
    refine known.grow linked gateway.controller gateway.ap (gateway.opened.imp_right (fun ⟨_,more⟩ => ⟨_,more⟩)) ?_
      gateway.down
    intro sw msg member
    rcases gateway.up sw with same | ⟨_,more⟩
    · exact .inl (same ▸ member)
    · rw [more,List.mem_append,List.mem_singleton] at member
      exact member

end Net
end Handover
