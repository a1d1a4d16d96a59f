import Handover.Links

/-!
The exchange before a handover: the controller asks the access point of a station
for its signal strength, and the answer may come when the station has left. The
handler of the answer does not look at the station's status, so that a handover
starts from an associated station only where no message that ends the association
is handled while an answer is still to come.
-/
namespace Handover
namespace Controller

/-- The handler of the answer associates the station somewhere anew, or tells an
    access point that it is associated. -/
def Reassociates (c : Controller) (sw : IOFSwitch) (sta ap : Mac) (rssi : UInt8) (failing : List Nat) (moving : Mac) : Prop :=
  (∃ ap', c.status moving ap' ≠ some .associated ∧
      (c.handleAPRSSI sw sta ap rssi failing).1.status moving ap' = some .associated) ∨
    ∃ w ∈ (c.handleAPRSSI sw sta ap rssi failing).2, ∃ update, w.msg = .updateSTAAdd moving update

theorem Reassociates.moves {c : Controller} {sw : IOFSwitch} {sta ap : Mac} {rssi : UInt8} {failing : List Nat}
    {moving : Mac} (reassociates : Reassociates c sw sta ap rssi failing moving) :
    moving = sta ∧ ∃ staAP best, Moves c sta ap rssi staAP best := by
  by_cases moves : ∃ staAP best, Moves c sta ap rssi staAP best
  · refine ⟨?_,moves⟩
    obtain ⟨staAP,best,moves⟩ := moves
    rw [Reassociates,handleAPRSSI_moves moves] at reassociates
    rcases reassociates with ⟨ap',before,after⟩ | ⟨w,member,update,tells⟩
    · by_contra other
      rw [status_handoverTables] at after
      simp only [other,false_and,if_false] at after
      exact before after
    · rcases mem_handoverWrites (mem_of_mem_writeAll member) with ⟨entry,_,rfl⟩ | rfl | ⟨update',rfl⟩ |
        ⟨gw,_,entry,_,rfl⟩
      · cases tells
      · cases tells
      · cases tells
        rfl
      · cases tells
  · rw [Reassociates,handleAPRSSI_stays moves] at reassociates
    rcases reassociates with ⟨ap',before,after⟩ | ⟨w,member,_⟩
    · rw [status_clearSent] at after
      exact absurd after before
    · cases member

/-- The message ends the association of the station at the access point. -/
def Leaves (c : Controller) (sta ap : Mac) : ToController → Prop
  | .authReq sta' ap' _ => sta' = sta ∧ ap' = ap
  | .disassocReq sta' ap' => sta' = sta ∧ ap' = ap
  | .deauthReq sta' ap' => sta' = sta ∧ ap' = ap
  | .apRecPow sta' ap' rssi =>
    sta' = sta ∧ ap' = ap ∧ ∃ staAP best, Moves c sta ap rssi staAP best ∧ best.apMACAddress ≠ ap
  | _ => False

theorem lookup_removedSwitch {c : Controller} {sta ap : Mac} {old : STAAPInfo} (isOld : c.lookupSenderSTAAP sta ap = some old)
    {sw : IOFSwitch} (other : old.sw ≠ sw) : (c.removedSwitch sw).lookupSenderSTAAP sta ap = some old := by
  unfold removedSwitch
  split
  · exact isOld
  · simp only [lookupSenderSTAAP,Map.lookup_keep,Option.filter_eq_some_iff,decide_eq_true_eq]
    exact ⟨isOld,other⟩

/-- An entry is lost only with its connection. -/
theorem entry_persists {c : Controller} {sta ap : Mac} {old : STAAPInfo} (isOld : c.lookupSenderSTAAP sta ap = some old)
    {e : Event} (remains : e ≠ .removedSwitch old.sw) :
    ∃ entry, (c.step e).1.lookupSenderSTAAP sta ap = some entry ∧ entry.sw = old.sw := by
  suffices there : (c.step e).1.status sta ap ≠ none by
    obtain ⟨s,isStatus⟩ := Option.ne_none_iff_exists'.mp there
    obtain ⟨entry,found,_⟩ := status_eq_some.mp isStatus
    exact ⟨entry,found,(c.does_step e).sw_entry isOld found⟩
  have before : c.status sta ap = some old.status := status_eq_some.mpr ⟨old,isOld,rfl⟩
  have does := c.does_step e
  generalize (c.step e).1 = c', (c.step e).2 = writes at does
  cases does with
  | offered offers isStatus isSwitch =>
    rw [status_putEntry]
    split
    · simp
    · simp [before]
  | @reported sw msg failing sta' ap' s change bests reports sets keeps fewer =>
    show (c.changeEntry sta' ap' change).status sta ap ≠ none
    rw [status_changeEntry c sta' ap' sets]
    split
    · rename_i same
      obtain ⟨rfl,rfl⟩ := same
      simp [before]
    · simp [before]
  | moved moves =>
    rw [status_handoverTables]
    split
    · simp
    · split
      · simp
      · simp [before]
  | stayed stays => simp [status_clearSent,before]
  | @removed sw =>
    have other : old.sw ≠ sw := fun same => remains (by rw [same])
    simp [status,lookup_removedSwitch isOld other]
  | rehashed => simp [status_rehash,before]
  | _ =>
    show c.status sta ap ≠ none
    simp [before]

end Controller

namespace Net
open Controller
variable {AP : Type}

/-- An answer of the access point about the station may still come over the
    connection: it has been asked, or it has answered. -/
def Awaits (cfg : Config AP) (net : Net AP) (sta : Mac) (a : AP) (sw : IOFSwitch) : Prop :=
  sw ∉ net.closed ∧ net.peer sw = some (some a) ∧
    (net.sock a = some sw ∧ .lastRecPow sta ∈ net.down sw ∨ ∃ rssi, .apRecPow sta (cfg.ap a).mac rssi ∈ net.up sw)

/-- Wherever an answer may come the station is associated, in an entry with that
    connection. -/
def Asked (cfg : Config AP) (net : Net AP) : Prop :=
  ∀ sta a sw, Awaits cfg net sta a sw → ∃ staAP, net.controller.lookupSenderSTAAP sta (cfg.ap a).mac = some staAP ∧
    staAP.status = .associated ∧ staAP.sw = sw

/-- Wherever an answer may come there is an entry with that connection. -/
def Attached (cfg : Config AP) (net : Net AP) : Prop :=
  ∀ sta a sw, Awaits cfg net sta a sw → ∃ staAP, net.controller.lookupSenderSTAAP sta (cfg.ap a).mac = some staAP ∧
    staAP.sw = sw

theorem attached_init (cfg : Config AP) : Attached cfg (init cfg) := by
  rintro sta a sw ⟨_,isPeer,_⟩
  simp [peer,init] at isPeer

section
variable {cfg : Config AP} {net net' : Net AP} {sta : Mac} {a : AP} {sw : IOFSwitch}

/-- An answer that waits over an open connection is awaited. -/
theorem awaits_of_waiting (linked : Linked cfg net) (isOpen : sw ∉ net.closed) {ap : Mac} {rssi : UInt8}
    (waiting : .apRecPow sta ap rssi ∈ net.up sw) : ∃ a, ap = (cfg.ap a).mac ∧ Awaits cfg net sta a sw := by
  obtain ⟨party,isPeer,honest⟩ := linked.up sw _ waiting
  obtain ⟨a,rfl,rfl⟩ := honest.sender rfl
  exact ⟨a,rfl,isOpen,isPeer,.inr ⟨rssi,waiting⟩⟩

/-- Such an answer is one of an access point where the station is associated. -/
theorem Asked.associated (linked : Linked cfg net) (asked : Asked cfg net) (isOpen : sw ∉ net.closed) {ap : Mac}
    {rssi : UInt8} (waiting : .apRecPow sta ap rssi ∈ net.up sw) :
    (∃ a, net.peer sw = some (some a) ∧ ap = (cfg.ap a).mac) ∧ net.controller.status sta ap = some .associated := by
  obtain ⟨a,rfl,awaits⟩ := awaits_of_waiting linked isOpen waiting
  obtain ⟨staAP,found,isStatus,_⟩ := asked sta a sw awaits
  exact ⟨⟨a,awaits.2.1,rfl⟩,status_eq_some.mpr ⟨staAP,found,isStatus⟩⟩

/-- An access point answers only what it is asked. -/
theorem Awaits.local (linked : Linked cfg net) {b : AP} {msgs : List ToController} (here : Local net net' b msgs)
    (down : ∀ sw, ∀ msg ∈ net'.down sw, msg ∈ net.down sw)
    (answers : ∀ sta mac rssi, .apRecPow sta mac rssi ∈ msgs → ∃ sw, net.sock b = some sw ∧ .lastRecPow sta ∈ net.down sw)
    (awaits : Awaits cfg net' sta a sw) : Awaits cfg net sta a sw := by
  obtain ⟨isOpen,isPeer,waits⟩ := awaits
  rw [here.closed] at isOpen
  rw [peer_congr here.opened] at isPeer
  refine ⟨isOpen,isPeer,?_⟩
  rcases waits with ⟨connected,query⟩ | ⟨rssi,answer⟩
  · exact .inl ⟨here.sock ▸ connected,down sw _ query⟩
  · rw [here.up] at answer
    split at answer
    · rename_i connected
      rcases List.mem_append.mp answer with old | new
      · exact .inr ⟨rssi,old⟩
      · obtain ⟨sw',connected',query⟩ := answers sta _ rssi new
        have sameSwitch : sw' = sw := Option.some.inj (connected'.symm.trans connected)
        have sameAP : b = a := by
          have isPeer' := linked.sock b sw connected
          rw [isPeer] at isPeer'
          exact (Option.some.inj (Option.some.inj isPeer')).symm
        exact .inl ⟨sameAP ▸ connected,sameSwitch ▸ query⟩
    · exact .inr ⟨rssi,answer⟩

/-- The controller asks only where the station is associated. -/
theorem Awaits.controls (linked : Linked cfg net) {e : Controller.Event} (controls : Controls net net' e)
    (honest : ∀ sw msg failing, e = .receive sw msg failing → msg ∈ net.up sw)
    (closed : ∀ sw, sw ∈ net.closed → sw ∈ net'.closed) (awaits : Awaits cfg net' sta a sw) :
    Awaits cfg { net with up := net'.up } sta a sw ∨
      ∃ staAP, net'.controller.lookupSenderSTAAP sta (cfg.ap a).mac = some staAP ∧ staAP.status = .associated ∧
        staAP.sw = sw := by
  obtain ⟨isOpen,isPeer,waits⟩ := awaits
  rw [peer_congr controls.opened] at isPeer
  have wasOpen : sw ∉ net.closed := fun inside => isOpen (closed sw inside)
  rcases waits with ⟨connected,query⟩ | answer
  · rw [controls.sock] at connected
    rcases controls.mem_down query with before | new
    · exact .inl ⟨wasOpen,isPeer,.inl ⟨connected,before⟩⟩
    · obtain ⟨ap,staAP,found,isStatus,isSwitch⟩ := (net.controller.does_step e).lastRecPow new rfl
      have tables := linked.tables.step (fun sw msg failing isEvent => linked.up sw msg (honest sw msg failing isEvent))
      obtain ⟨b,isPeer',rfl⟩ := tables.entries sta ap staAP found
      rw [isSwitch,isPeer] at isPeer'
      have same : b = a := (Option.some.inj (Option.some.inj isPeer')).symm
      rw [controls.controller]
      exact .inr ⟨staAP,same ▸ found,isStatus,isSwitch⟩
  · exact .inl ⟨wasOpen,isPeer,.inr answer⟩

theorem Awaits.atGateway (linked : Linked cfg net) (gateway : AtGateway net net') (awaits : Awaits cfg net' sta a sw) :
    Awaits cfg net sta a sw := by
  obtain ⟨grows,_⟩ := @Linked.grow _ _ _ linked net' (gateway.opened.imp_right (fun ⟨address,more⟩ => ⟨_,more⟩))
  obtain ⟨isOpen,isPeer,waits⟩ := awaits
  rw [gateway.closed] at isOpen
  rcases waits with ⟨connected,query⟩ | ⟨rssi,answer⟩
  · have before := gateway.down sw _ query
    exact ⟨isOpen,linked.peer_of_down grows before isPeer,.inl ⟨gateway.sock ▸ connected,before⟩⟩
  · have before : .apRecPow sta (cfg.ap a).mac rssi ∈ net.up sw := by
      rcases gateway.up sw with same | ⟨_,more⟩
      · exact same ▸ answer
      · rw [more] at answer
        exact (List.mem_append.mp answer).resolve_right (by simp)
    exact ⟨isOpen,linked.peer_of_up grows before isPeer,.inr ⟨rssi,before⟩⟩

end

/-- Why an answer may come after a step: it is asked for in it, where the station is
    associated, or it could come before; then the controller did nothing, or something
    else than to take that answer or to remove the connection. -/
inductive StillAwaits (cfg : Config AP) (net net' : Net AP) (e : Event AP) (sta : Mac) (a : AP) (sw : IOFSwitch) : Prop where
  | asked {staAP : STAAPInfo} (found : net'.controller.lookupSenderSTAAP sta (cfg.ap a).mac = some staAP)
    (isStatus : staAP.status = .associated) (isSwitch : staAP.sw = sw) : StillAwaits cfg net net' e sta a sw
  | idle (before : Awaits cfg net sta a sw) (controller : net'.controller = net.controller) :
    StillAwaits cfg net net' e sta a sw
  | during {given : Controller.Event} (isGiven : net.controlled e = some given) (before : Awaits cfg net sta a sw)
    (other : Awaits cfg { net with up := net'.up } sta a sw)
    (controller : net'.controller = (net.controller.step given).1) (remains : given ≠ .removedSwitch sw) :
    StillAwaits cfg net net' e sta a sw

variable [DecidableEq AP]

theorem awaits_step {cfg : Config AP} {net net' : Net AP} {e : Event AP} (linked : Linked cfg net)
    (stepped : step cfg net e = some net') {sta : Mac} {a : AP} {sw : IOFSwitch} (awaits : Awaits cfg net' sta a sw) :
    StillAwaits cfg net net' e sta a sw := by
  cases kind_step stepped with
  | @connects b address free isNext =>
    have opened : net'.opened = net.opened ++ [(some b,address)] := by rw [isNext]
    obtain ⟨grows,_⟩ := @Linked.grow _ _ _ linked net' (.inr ⟨_,opened⟩)
    refine .idle ?_ (by rw [isNext])
    obtain ⟨isOpen,isPeer,waits⟩ := awaits
    rcases waits with ⟨connected,query⟩ | ⟨rssi,answer⟩
    · have before : .lastRecPow sta ∈ net.down sw := by rw [isNext] at query; exact query
      have wasPeer := linked.peer_of_down grows before isPeer
      refine ⟨by rw [isNext] at isOpen; exact isOpen,wasPeer,.inl ⟨?_,before⟩⟩
      rw [isNext] at connected
      by_cases same : a = b
      · subst same
        simp only [Function.update_self,Option.some.injEq] at connected
        rw [← connected,peer_unopened] at wasPeer
        cases wasPeer
      · simpa only [Function.update_of_ne same] using connected
    · have before : .apRecPow sta (cfg.ap a).mac rssi ∈ net.up sw := by rw [isNext] at answer; exact answer
      exact ⟨by rw [isNext] at isOpen; exact isOpen,linked.peer_of_up grows before isPeer,.inr ⟨rssi,before⟩⟩
  | @disconnects b isNext =>
    rw [isNext] at awaits
    refine .idle ?_ (by rw [isNext])
    obtain ⟨isOpen,isPeer,waits⟩ := awaits
    refine ⟨isOpen,isPeer,waits.imp_left (fun ⟨connected,query⟩ => ⟨?_,query⟩)⟩
    by_cases same : a = b
    · subst same
      simp at connected
    · simpa only [Function.update_of_ne same] using connected
  | @acts _ b msgs acts =>
    refine .idle (awaits.local linked acts.here acts.down (fun sta mac rssi answer => ?_)) acts.here.controller
    cases acts.sends _ answer with
    | strength isStrength => cases isStrength
    | answer isAnswer connected asked =>
      cases isAnswer
      exact ⟨_,connected,asked⟩
    | thread isThread isMsg =>
      have threaded := (linked.threads b _ isThread).2
      rw [← isMsg] at threaded
      cases threaded
  | controls isGiven controls received up closed removed =>
    rcases awaits.controls linked controls (controlled_waiting isGiven) closed with old | ⟨staAP,found,isStatus,isSwitch⟩
    · obtain ⟨wasOpen,isPeer,waits⟩ := old
      refine .during isGiven ⟨wasOpen,isPeer,waits.imp_right (fun ⟨rssi,answer⟩ => ⟨rssi,up sw _ answer⟩)⟩
        ⟨wasOpen,isPeer,waits⟩ controls.controller ?_
      exact fun isRemoved => awaits.1 (removed sw isRemoved)
    · exact .asked found isStatus isSwitch
  | gateway isGateway noGiven gateway => exact .idle (awaits.atGateway linked gateway) gateway.controller

/-- An entry about which the controller may still hear is there, as it is lost only
    with its connection. -/
theorem attached_step {cfg : Config AP} {net net' : Net AP} {e : Event AP} (linked : Linked cfg net)
    (attached : Attached cfg net) (stepped : step cfg net e = some net') : Attached cfg net' := by
  intro sta a sw awaits
  cases awaits_step linked stepped awaits with
  | asked found isStatus isSwitch => exact ⟨_,found,isSwitch⟩
  | idle before controller =>
    rw [controller]
    exact attached sta a sw before
  | during isGiven before other controller remains =>
    obtain ⟨staAP,found,rfl⟩ := attached sta a sw before
    rw [controller]
    exact entry_persists found remains

/-- The visitor associates at the left access point and is heard at the right
    one, so that the left one is asked. -/
def askLeft : List (Event Site) :=
  bothConnect ++ probeAt .left ++ authAt .left ++ assocAt .left ++
    [.radio .right (.data visitor 100),.handle Site.right.switch []]

end Net
end Handover
