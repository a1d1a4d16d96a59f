import Handover.Network

/-!
Who is at the other end of a connection. Whatever a party says of itself it says
over its own connections, so that the switch in an entry of the controller's
tables is one of the access point that the entry names. This holds along every
run, with any connections opened, lost and removed.
-/
namespace Handover

namespace Net
open Controller
variable {AP : Type}

/-- The messages that a party sends: the gateway announces itself, an access point
    names itself or asks for a port. -/
def Honest (cfg : Config AP) : Option AP → ToController → Prop
  | none, msg => msg = .gwConnect
  | some a, msg => msg.sender = some (cfg.ap a).mac ∨ ∃ sta tuple, msg = .portTranslation sta tuple

/-- The party that opened the connection. -/
def peer (net : Net AP) (sw : IOFSwitch) : Option (Option AP) :=
  net.opened[sw.id]?.bind (fun connection => if connection.2 = sw.remoteAddress then some connection.1 else none)

theorem peer_append {net net' : Net AP} {connection : Option AP × IPv4}
    (opened : net'.opened = net.opened ++ [connection]) {sw : IOFSwitch} {party : Option AP}
    (known : net.peer sw = some party) : net'.peer sw = some party := by
  obtain ⟨before,at_sw,same⟩ := Option.bind_eq_some_iff.mp known
  have inside : sw.id < net.opened.length := (List.getElem?_eq_some_iff.mp at_sw).1
  rw [peer,opened,List.getElem?_append_left inside,at_sw]
  exact same

theorem peer_new {net net' : Net AP} {party : Option AP} {address : IPv4}
    (opened : net'.opened = net.opened ++ [(party,address)]) :
    net'.peer ⟨net.opened.length,address⟩ = some party := by
  simp [peer,opened]

/-- A later connection is that of an earlier one, or new. -/
theorem peer_of_append {net net' : Net AP} {connection : Option AP × IPv4}
    (opened : net'.opened = net.opened ++ [connection]) {sw : IOFSwitch} {party : Option AP}
    (known : net'.peer sw = some party) :
    net.peer sw = some party ∨ sw = ⟨net.opened.length,connection.2⟩ ∧ party = connection.1 := by
  obtain ⟨found,at_sw,same⟩ := Option.bind_eq_some_iff.mp known
  rw [opened] at at_sw
  by_cases inside : sw.id < net.opened.length
  · rw [List.getElem?_append_left inside] at at_sw
    exact .inl (Option.bind_eq_some_iff.mpr ⟨found,at_sw,same⟩)
  · have last : sw.id = net.opened.length := by
      have := (List.getElem?_eq_some_iff.mp at_sw).1
      simp only [List.length_append,List.length_singleton] at this
      omega
    rw [last,List.getElem?_concat_length] at at_sw
    cases at_sw
    split at same
    · rename_i address
      refine .inr ⟨?_,(Option.some.inj same).symm⟩
      cases sw
      simp only at last address
      rw [last,address]
    · cases same

theorem peer_unopened (net : Net AP) (address : IPv4) : net.peer ⟨net.opened.length,address⟩ = none := by
  simp [peer]

theorem peer_congr {net net' : Net AP} (opened : net'.opened = net.opened) (sw : IOFSwitch) : net'.peer sw = net.peer sw := by
  rw [peer,opened,peer]

/-! ### The controller's tables -/

/-- The tables name access points together with their own connections. -/
structure Attributed (cfg : Config AP) (peer : IOFSwitch → Option (Option AP)) (c : Controller) : Prop where
  entries : ∀ sta ap entry, c.lookupSenderSTAAP sta ap = some entry →
    ∃ a, peer entry.sw = some (some a) ∧ ap = (cfg.ap a).mac
  best : ∀ sta best, c.staAPRSSIList.lookup sta = some best →
    ∃ a, peer best.sw = some (some a) ∧ best.apMACAddress = (cfg.ap a).mac
  gwSwitch : ∀ gw, c.gwSwitch = some gw → peer gw = some none

theorem attributed_init (cfg : Config AP) (peer : IOFSwitch → Option (Option AP)) : Attributed cfg peer .init where
  entries := by intro sta ap entry found; simp [Controller.init,lookupSenderSTAAP] at found
  best := by intro sta best found; simp [Controller.init] at found
  gwSwitch := by intro gw isGateway; simp [Controller.init] at isGateway

theorem Honest.sender {cfg : Config AP} {party : Option AP} {msg : ToController} (honest : Honest cfg party msg)
    {ap : Mac} (names : msg.sender = some ap) : ∃ a, party = some a ∧ ap = (cfg.ap a).mac := by
  cases party with
  | none =>
    rw [show msg = .gwConnect from honest] at names
    cases names
  | some a =>
    rcases honest with itself | ⟨sta,tuple,rfl⟩
    · exact ⟨a,rfl,Option.some.inj (names.symm.trans itself)⟩
    · cases names

theorem Honest.gwConnect {cfg : Config AP} {party : Option AP} (honest : Honest cfg party .gwConnect) : party = none := by
  cases party with
  | none => rfl
  | some a =>
    rcases honest with itself | ⟨sta,tuple,same⟩
    · cases itself
    · cases same

/-- The tables stay attributed while every message comes from its sender. -/
theorem Attributed.step {cfg : Config AP} {peer : IOFSwitch → Option (Option AP)} {c : Controller}
    (attributed : Attributed cfg peer c) {e : Controller.Event}
    (honest : ∀ sw msg failing, e = .receive sw msg failing → ∃ party, peer sw = some party ∧ Honest cfg party msg) :
    Attributed cfg peer (c.step e).1 := by
  have named : ∀ {sw : IOFSwitch} {msg : ToController} {failing : List Nat} {ap : Mac},
      e = .receive sw msg failing → msg.sender = some ap → ∃ a, peer sw = some (some a) ∧ ap = (cfg.ap a).mac := by
    intro sw msg failing ap isEvent names
    obtain ⟨party,isPeer,isHonest⟩ := honest sw msg failing isEvent
    obtain ⟨a,rfl,isMac⟩ := isHonest.sender names
    exact ⟨a,isPeer,isMac⟩
  refine ⟨?_,?_,?_⟩
  · intro sta ap entry found
    cases isOld : c.lookupSenderSTAAP sta ap with
    | some old =>
      rw [(c.does_step e).sw_entry isOld found]
      exact attributed.entries sta ap old isOld
    | none =>
      rcases (c.does_step e).sw_newEntry isOld found with ⟨failing,isEvent⟩ |
        ⟨sw,reporter,rssi,failing,staAP,best,isEvent,moves,rfl,same⟩
      · exact named isEvent rfl
      · rw [same]
        exact attributed.best sta best moves.bestIs
  · intro sta best found
    rcases (c.does_step e).sw_best found with ⟨old,isOld,sameAP,sameSw⟩ | ⟨rssi,failing,isEvent | isEvent⟩
    · rw [sameAP,sameSw]
      exact attributed.best sta old isOld
    · exact named isEvent rfl
    · exact named isEvent rfl
  · intro gw isGateway
    rcases (c.does_step e).gwSwitch isGateway with old | ⟨failing,isEvent⟩
    · exact attributed.gwSwitch gw old
    · obtain ⟨party,isPeer,isHonest⟩ := honest gw .gwConnect failing isEvent
      rw [isPeer,isHonest.gwConnect]

theorem Attributed.mono {cfg : Config AP} {peer peer' : IOFSwitch → Option (Option AP)} {c : Controller}
    (attributed : Attributed cfg peer c) (grows : ∀ sw party, peer sw = some party → peer' sw = some party) :
    Attributed cfg peer' c where
  entries := by
    intro sta ap entry found
    obtain ⟨a,isPeer,isMac⟩ := attributed.entries sta ap entry found
    exact ⟨a,grows _ _ isPeer,isMac⟩
  best := by
    intro sta best found
    obtain ⟨a,isPeer,isMac⟩ := attributed.best sta best found
    exact ⟨a,grows _ _ isPeer,isMac⟩
  gwSwitch := by
    intro gw isGateway
    exact grows _ _ (attributed.gwSwitch gw isGateway)

/-! ### The whole site -/

/-- The connection may carry the message: the gateway is told of flows only. -/
def Carries (net : Net AP) (sw : IOFSwitch) (msg : FromController) : Prop :=
  (∃ a, net.peer sw = some (some a)) ∨ net.peer sw = some none ∧ ∃ sta tuple newPort, msg = .natAdd sta tuple newPort

/-- Connections belong to those who opened them, what is sent or about to be sent
    over them comes from them, and what is written over them is for them. -/
structure Linked (cfg : Config AP) (net : Net AP) : Prop where
  sock : ∀ a sw, net.sock a = some sw → net.peer sw = some (some a)
  gwSock : ∀ sw, net.gwSock = some sw → net.peer sw = some none
  threads : ∀ a, ∀ thread ∈ (net.ap a).sending,
    Honest cfg (some a) (thread.msg (cfg.ap a)) ∧ (thread.msg (cfg.ap a)).threaded = true
  up : ∀ sw, ∀ msg ∈ net.up sw, ∃ party, net.peer sw = some party ∧ Honest cfg party msg
  down : ∀ sw, ∀ msg ∈ net.down sw, net.Carries sw msg
  tables : Attributed cfg net.peer net.controller

theorem linked_init (cfg : Config AP) : Linked cfg (init cfg) where
  sock := by intro a sw connected; cases connected
  gwSock := by intro sw connected; cases connected
  threads := by intro a thread member; simp [init,AccessPoint.init] at member
  up := by intro sw msg member; simp [init] at member
  down := by intro sw msg member; simp [init] at member
  tables := attributed_init cfg _

/-- What another connection leaves of the links. -/
theorem Linked.grow {cfg : Config AP} {net : Net AP} (linked : Linked cfg net) {net' : Net AP}
    (opened : net'.opened = net.opened ∨ ∃ connection, net'.opened = net.opened ++ [connection]) :
    (∀ sw party, net.peer sw = some party → net'.peer sw = some party) ∧
      (∀ sw, ∀ msg ∈ net.up sw, ∃ party, net'.peer sw = some party ∧ Honest cfg party msg) ∧
      (∀ sw, ∀ msg ∈ net.down sw, net'.Carries sw msg) ∧ Attributed cfg net'.peer net.controller := by
  have grows : ∀ sw party, net.peer sw = some party → net'.peer sw = some party := by
    intro sw party known
    rcases opened with same | ⟨connection,more⟩
    · rw [peer_congr same]
      exact known
    · exact peer_append more known
  refine ⟨grows,?_,?_,linked.tables.mono grows⟩
  · intro sw msg member
    obtain ⟨party,isPeer,honest⟩ := linked.up sw msg member
    exact ⟨party,grows _ _ isPeer,honest⟩
  · intro sw msg member
    rcases linked.down sw msg member with ⟨a,isPeer⟩ | ⟨isPeer,adds⟩
    · exact .inl ⟨a,grows _ _ isPeer⟩
    · exact .inr ⟨grows _ _ isPeer,adds⟩

/-- The access point of a handover's new connection. -/
theorem handoverEntry_peer {cfg : Config AP} {net : Net AP} (linked : Linked cfg net) {sta ap : Mac} {rssi : UInt8}
    {staAP : STAAPInfo} {best : APInfo} (moves : Moves net.controller sta ap rssi staAP best) :
    ∃ a, net.peer (net.controller.handoverEntry sta staAP best).sw = some (some a) ∧
      best.apMACAddress = (cfg.ap a).mac := by
  cases isOld : net.controller.lookupSenderSTAAP sta best.apMACAddress with
  | some old =>
    rw [show (net.controller.handoverEntry sta staAP best).sw = old.sw by simp [handoverEntry,isOld]]
    exact linked.tables.entries sta best.apMACAddress old isOld
  | none =>
    rw [show (net.controller.handoverEntry sta staAP best).sw = best.sw by simp [handoverEntry,isOld,STAAPInfo.create]]
    exact linked.tables.best sta best moves.bestIs

theorem Linked.peer_of_up {cfg : Config AP} {net net' : Net AP} (linked : Linked cfg net)
    (grows : ∀ sw party, net.peer sw = some party → net'.peer sw = some party) {sw : IOFSwitch} {msg : ToController}
    (member : msg ∈ net.up sw) {party : Option AP} (isPeer : net'.peer sw = some party) : net.peer sw = some party := by
  obtain ⟨party',isPeer',_⟩ := linked.up sw msg member
  rw [isPeer',← isPeer,grows sw party' isPeer']

theorem Linked.peer_of_down {cfg : Config AP} {net net' : Net AP} (linked : Linked cfg net)
    (grows : ∀ sw party, net.peer sw = some party → net'.peer sw = some party) {sw : IOFSwitch} {msg : FromController}
    (member : msg ∈ net.down sw) {party : Option AP} (isPeer : net'.peer sw = some party) :
    net.peer sw = some party := by
  rcases linked.down sw msg member with ⟨a,isPeer'⟩ | ⟨isPeer',_⟩ <;> rw [isPeer',← isPeer,grows sw _ isPeer']

/-- A step of an access point keeps the links if all that it sends, now or in
    threads, is its own. -/
theorem Linked.local {cfg : Config AP} {net net' : Net AP} (linked : Linked cfg net) {a : AP}
    {msgs : List ToController} (here : Local net net' a msgs)
    (threads : ∀ thread ∈ (net'.ap a).sending, thread ∈ (net.ap a).sending ∨
      Honest cfg (some a) (thread.msg (cfg.ap a)) ∧ (thread.msg (cfg.ap a)).threaded = true)
    (own : ∀ msg ∈ msgs, Honest cfg (some a) msg) (down : ∀ sw, ∀ msg ∈ net'.down sw, msg ∈ net.down sw) :
    Linked cfg net' := by
  obtain ⟨grows,up,carries,tables⟩ := @Linked.grow _ _ _ linked net' (.inl here.opened)
  refine ⟨?_,?_,?_,?_,?_,?_⟩
  · intro b sw connected
    exact grows _ _ (linked.sock b sw (here.sock ▸ connected))
  · intro sw connected
    exact grows _ _ (linked.gwSock sw (here.gwSock ▸ connected))
  · intro b thread member
    by_cases same : b = a
    · subst same
      rcases threads thread member with old | honest
      · exact linked.threads b thread old
      · exact honest
    · rw [here.others b same] at member
      exact linked.threads b thread member
  · intro sw msg member
    rw [here.up] at member
    split at member
    · rename_i connected
      rcases List.mem_append.mp member with old | new
      · exact up sw msg old
      · exact ⟨some a,grows _ _ (linked.sock a sw connected),own msg new⟩
    · exact up sw msg member
  · intro sw msg member
    exact carries sw msg (down sw msg member)
  · rw [here.controller]
    exact tables

/-- What the controller writes it writes over connections that may carry it. -/
theorem Linked.writes {cfg : Config AP} {net : Net AP} (linked : Linked cfg net) {e : Controller.Event}
    (honest : ∀ sw msg failing, e = .receive sw msg failing → msg ∈ net.up sw) {w : Write}
    (member : w ∈ (net.controller.step e).2) : net.Carries w.sw w.msg := by
  rcases (net.controller.does_step e).sw_write member with ⟨msg,failing,isEvent,notGateway⟩ | ⟨sta,ap,entry,found,same⟩ |
    ⟨sta,best,found,same⟩ | ⟨isGateway,adds⟩
  · obtain ⟨party,isPeer,isHonest⟩ := linked.up w.sw msg (honest w.sw msg failing isEvent)
    cases party with
    | none => exact absurd isHonest notGateway
    | some a => exact .inl ⟨a,isPeer⟩
  · obtain ⟨a,isPeer,_⟩ := linked.tables.entries sta ap entry found
    exact .inl ⟨a,same ▸ isPeer⟩
  · obtain ⟨a,isPeer,_⟩ := linked.tables.best sta best found
    exact .inl ⟨a,same ▸ isPeer⟩
  · exact .inr ⟨linked.tables.gwSwitch _ isGateway,adds⟩

theorem mem_messagesTo {sw : IOFSwitch} {writes : List Write} {msg : FromController} :
    msg ∈ messagesTo sw writes ↔ ⟨sw,msg⟩ ∈ writes := by
  simp only [messagesTo,List.mem_map,List.mem_filter,decide_eq_true_eq]
  constructor
  · rintro ⟨w,⟨member,rfl⟩,rfl⟩
    exact member
  · intro member
    exact ⟨_,⟨member,rfl⟩,rfl⟩

/-- What the controller wrote in a step. -/
theorem Controls.mem_down {net net' : Net AP} {e : Controller.Event} (controls : Controls net net' e) {sw : IOFSwitch}
    {msg : FromController} (member : msg ∈ net'.down sw) :
    msg ∈ net.down sw ∨ (⟨sw,msg⟩ : Write) ∈ (net.controller.step e).2 := by
  rw [controls.down,List.mem_append,mem_messagesTo] at member
  exact member.imp_right (fun inside => (List.mem_filter.mp inside).1)

/-- A step of the controller keeps the links. -/
theorem Linked.controls {cfg : Config AP} {net net' : Net AP} (linked : Linked cfg net) {e : Controller.Event}
    (controls : Controls net net' e)
    (honest : ∀ sw msg failing, e = .receive sw msg failing → msg ∈ net.up sw)
    (fewer : ∀ sw, ∀ msg ∈ net'.up sw, msg ∈ net.up sw) : Linked cfg net' := by
  have peer : net'.peer = net.peer := by
    funext sw
    exact peer_congr controls.opened sw
  refine ⟨?_,?_,?_,?_,?_,?_⟩
  · rw [controls.sock,peer]
    exact linked.sock
  · rw [controls.gwSock,peer]
    exact linked.gwSock
  · rw [controls.ap]
    exact linked.threads
  · intro sw msg member
    rw [peer]
    exact linked.up sw msg (fewer sw msg member)
  · intro sw msg member
    rw [Carries,peer]
    rcases controls.mem_down member with old | new
    · exact linked.down sw msg old
    · exact linked.writes honest new
  · rw [peer,controls.controller]
    exact linked.tables.step (fun sw msg failing isEvent => linked.up sw msg (honest sw msg failing isEvent))

/-- A step of the gateway keeps the links. -/
theorem Linked.atGateway {cfg : Config AP} {net net' : Net AP} (linked : Linked cfg net) (gateway : AtGateway net net') :
    Linked cfg net' := by
  obtain ⟨grows,up,carries,tables⟩ := @Linked.grow _ _ _ linked net'
    (gateway.opened.imp_right (fun ⟨address,more⟩ => ⟨_,more⟩))
  refine ⟨?_,?_,?_,?_,?_,?_⟩
  · intro a sw connected
    exact grows _ _ (linked.sock a sw (gateway.sock ▸ connected))
  · intro sw connected
    rcases gateway.gwSock sw connected with old | ⟨address,rfl,more⟩
    · exact grows _ _ (linked.gwSock sw old)
    · exact peer_new more
  · rw [gateway.ap]
    exact linked.threads
  · intro sw msg member
    rcases gateway.up sw with same | ⟨connected,more⟩
    · exact up sw msg (same ▸ member)
    · rw [more] at member
      rcases List.mem_append.mp member with waiting | new
      · exact up sw msg waiting
      · rw [List.mem_singleton] at new
        exact ⟨none,grows _ _ (linked.gwSock sw connected),new⟩
  · intro sw msg member
    exact carries sw msg (gateway.down sw msg member)
  · rw [gateway.controller]
    exact tables

variable [DecidableEq AP]

/-- A new connection keeps the links. -/
theorem Linked.connects {cfg : Config AP} {net net' : Net AP} (linked : Linked cfg net) {a : AP} {address : IPv4}
    (isNext : net' = { net with
      sock := Function.update net.sock a (some ⟨net.opened.length,address⟩)
      opened := net.opened ++ [(some a,address)] }) : Linked cfg net' := by
  have opened : net'.opened = net.opened ++ [(some a,address)] := by rw [isNext]
  obtain ⟨grows,up,carries,tables⟩ := @Linked.grow _ _ _ linked net' (.inr ⟨_,opened⟩)
  refine ⟨?_,?_,?_,?_,?_,?_⟩
  · intro b sw connected
    rw [isNext] at connected
    by_cases same : b = a
    · subst same
      simp only [Function.update_self,Option.some.injEq] at connected
      rw [← connected]
      exact peer_new opened
    · simp only [Function.update_of_ne same] at connected
      exact grows _ _ (linked.sock b sw connected)
  · intro sw connected
    rw [isNext] at connected
    exact grows _ _ (linked.gwSock sw connected)
  · rw [isNext]
    exact linked.threads
  · intro sw msg member
    rw [isNext] at member
    exact up sw msg member
  · intro sw msg member
    rw [isNext] at member
    exact carries sw msg member
  · rw [show net'.controller = net.controller by rw [isNext]]
    exact tables

/-- Every event keeps the links. -/
theorem linked_step (cfg : Config AP) (net : Net AP) (e : Event AP) (net' : Net AP) (linked : Linked cfg net)
    (stepped : step cfg net e = some net') : Linked cfg net' := by
  cases kind_step stepped with
  | connects free isNext => exact linked.connects isNext
  | @disconnects a isNext =>
    rw [isNext]
    refine ⟨?_,linked.gwSock,linked.threads,linked.up,linked.down,linked.tables⟩
    intro b sw connected
    by_cases same : b = a
    · subst same
      simp at connected
    · simp only [Function.update_of_ne same] at connected
      exact linked.sock b sw connected
  | @acts _ a msgs acts =>
    refine linked.local acts.here (fun thread member => (acts.threads thread member).imp_right (fun starts => ?_))
      (fun msg member => ?_) acts.down
    · cases starts with
      | report reports => exact ⟨.inl (ToController.sender_of_report reports),ToController.threaded_of_report reports⟩
      | probe isProbe =>
        rw [isProbe]
        exact ⟨.inl rfl,rfl⟩
      | request isEvent isRequest =>
        rw [isRequest]
        exact ⟨.inr ⟨_,_,rfl⟩,rfl⟩
    · cases acts.sends msg member with
      | strength isStrength =>
        rw [isStrength]
        exact .inl rfl
      | answer isAnswer connected asked =>
        rw [isAnswer]
        exact .inl rfl
      | thread isThread isMsg =>
        rw [isMsg]
        exact (linked.threads a _ isThread).1
  | controls isGiven controls received up closed removed =>
    exact linked.controls controls (controlled_waiting isGiven) up
  | gateway isGateway noGiven gateway => exact linked.atGateway gateway

/-! ### Connections that last -/

/-- Connections are not lost, and no write fails. -/
def Lossless (_ : Net AP) : Event AP → Prop
  | .disconnect _ => False
  | .removed _ => False
  | .handle _ failing => failing = []
  | _ => True

instance (net : Net AP) (e : Event AP) : Decidable (Lossless net e) := by
  cases e <;> unfold Lossless <;> infer_instance

/-- Every access point is where it has ever connected from. -/
def Steady (net : Net AP) : Prop := ∀ sw a, net.peer sw = some (some a) → net.sock a = some sw

omit [DecidableEq AP] in
theorem steady_init (cfg : Config AP) : Steady (init cfg) := by
  intro sw a isPeer
  simp [peer,init] at isPeer

theorem steady_step {cfg : Config AP} {net net' : Net AP} {e : Event AP} (lossless : Lossless net e)
    (steady : Steady net) (stepped : step cfg net e = some net') : Steady net' := by
  have still : net'.sock = net.sock → net'.opened = net.opened → Steady net' := by
    intro sock opened sw a isPeer
    rw [peer_congr opened] at isPeer
    rw [sock]
    exact steady sw a isPeer
  cases kind_step stepped with
  | @connects b address free isNext =>
    intro sw a isPeer
    rw [isNext] at isPeer ⊢
    rcases peer_of_append rfl isPeer with old | ⟨rfl,same⟩
    · have connected := steady sw a old
      have other : a ≠ b := by
        rintro rfl
        rw [free] at connected
        cases connected
      simpa only [Function.update_of_ne other] using connected
    · cases same
      exact Function.update_self _ _ _
  | disconnects isNext => exact lossless.elim
  | acts acts => exact still acts.here.sock acts.here.opened
  | controls isGiven controls received up closed removed => exact still controls.sock controls.opened
  | gateway isGateway noGiven gateway =>
    rcases gateway.opened with same | ⟨address,more⟩
    · exact still gateway.sock same
    · intro sw a isPeer
      rw [gateway.sock]
      rcases peer_of_append more isPeer with old | ⟨_,isGateway⟩
      · exact steady sw a old
      · cases isGateway

/-- What waits for the access point on its connection. -/
def inbox (net : Net AP) (a : AP) : List FromController := ((net.sock a).map net.down).getD []

/-- What the access point has sent and the controller has not handled. -/
def outbox (net : Net AP) (a : AP) : List ToController := ((net.sock a).map net.up).getD []

/-- What the controller writes to the access point when it is given the event. -/
def sentTo (net : Net AP) (given : Controller.Event) (a : AP) : List FromController :=
  ((net.sock a).map (fun sw => messagesTo sw ((net.controller.step given).2.filter (fun w => encodable w.msg)))).getD []

omit [DecidableEq AP] in
theorem mem_sentTo {net : Net AP} {given : Controller.Event} {a : AP} {msg : FromController}
    (member : msg ∈ net.sentTo given a) :
    ∃ sw, net.sock a = some sw ∧ (⟨sw,msg⟩ : Write) ∈ (net.controller.step given).2 := by
  unfold sentTo at member
  cases connected : net.sock a with
  | none => simp [connected] at member
  | some sw =>
    simp only [connected,Option.map_some,Option.getD_some,mem_messagesTo] at member
    exact ⟨sw,rfl,(List.mem_filter.mp member).1⟩

omit [DecidableEq AP] in
theorem sentTo_of_mem {net : Net AP} {given : Controller.Event} {a : AP} {sw : IOFSwitch}
    (connected : net.sock a = some sw) {msg : FromController}
    (written : (⟨sw,msg⟩ : Write) ∈ (net.controller.step given).2) (isEncodable : encodable msg = true) :
    msg ∈ net.sentTo given a := by
  simp only [sentTo,connected,Option.map_some,Option.getD_some,mem_messagesTo]
  exact List.mem_filter.mpr ⟨written,isEncodable⟩

/-- What the access point's connection takes of the messages. -/
def takes (net : Net AP) (a : AP) (msgs : List ToController) : List ToController :=
  if (net.sock a).isSome then msgs else []

/-- The message of the access point that the event is. -/
def handledOf (net : Net AP) (a : AP) : Controller.Event → List ToController
  | .receive sw msg _ => if net.sock a = some sw then [msg] else []
  | _ => []

/-- What a step is to one access point. -/
inductive Sees (cfg : Config AP) (net net' : Net AP) (a : AP) : Event AP → Prop where
  | radio {input : AccessPoint.Radio} {msgs : List ToController}
    (reacts : (net.ap a).react (cfg.ap a) input = some (net'.ap a,msgs)) (controller : net'.controller = net.controller)
    (inbox : net'.inbox a = net.inbox a) (outbox : net'.outbox a = net.outbox a ++ net.takes a msgs) :
    Sees cfg net net' a (.radio a input)
  | thread {i : Nat} {msg : ToController} (ran : (net.ap a).sendThread (cfg.ap a) i = some (net'.ap a,msg))
    (controller : net'.controller = net.controller) (inbox : net'.inbox a = net.inbox a)
    (outbox : net'.outbox a = net.outbox a ++ net.takes a [msg]) : Sees cfg net net' a (.thread a i)
  | deliver {msg : FromController} {msgs : List ToController}
    (handled : (net.ap a).handleVendor (cfg.ap a) msg = some (net'.ap a,msgs))
    (controller : net'.controller = net.controller) (inbox : net.inbox a = msg :: net'.inbox a)
    (outbox : net'.outbox a = net.outbox a ++ net.takes a msgs) : Sees cfg net net' a (.deliver a)
  | uplink {hwAddr : Mac} {data : Packet} {verdict : Option Verdict}
    (handled : (net.ap a).handleUplink (cfg.ap a) net.arrivals.length hwAddr data = some (net'.ap a,verdict))
    (controller : net'.controller = net.controller) (inbox : net'.inbox a = net.inbox a)
    (outbox : net'.outbox a = net.outbox a) : Sees cfg net net' a (.uplink a hwAddr data)
  | reinject {i : Nat} {verdicts : List Verdict}
    (ran : (net.ap a).reinjectPkt (cfg.ap a) i = some (net'.ap a,verdicts))
    (controller : net'.controller = net.controller) (inbox : net'.inbox a = net.inbox a)
    (outbox : net'.outbox a = net.outbox a) : Sees cfg net net' a (.reinject a i)
  | elsewhere {e : Event AP} (noGiven : net.controlled e = none) (ap : net'.ap a = net.ap a)
    (controller : net'.controller = net.controller) (inbox : net'.inbox a = net.inbox a)
    (outbox : net'.outbox a = net.outbox a) : Sees cfg net net' a e
  | controls {e : Event AP} {given : Controller.Event} (isGiven : net.controlled e = some given)
    (ap : net'.ap a = net.ap a) (controller : net'.controller = (net.controller.step given).1)
    (inbox : net'.inbox a = net.inbox a ++ net.sentTo given a)
    (outbox : net.outbox a = net.handledOf a given ++ net'.outbox a) : Sees cfg net net' a e

omit [DecidableEq AP] in
/-- Two parties do not share a connection. -/
theorem Linked.apart {cfg : Config AP} {net : Net AP} (linked : Linked cfg net) {a b : AP} (different : a ≠ b)
    {sw : IOFSwitch} (connected : net.sock b = some sw) : net.sock a ≠ some sw := by
  intro connected'
  have isPeer := linked.sock a sw connected'
  rw [linked.sock b sw connected] at isPeer
  cases isPeer
  exact different rfl

omit [DecidableEq AP] in
/-- A step of another access point is no concern of this one. -/
theorem Sees.local {cfg : Config AP} {net net' : Net AP} {a b : AP} {msgs : List ToController} {e : Event AP}
    (linked : Linked cfg net) (noGiven : net.controlled e = none) (here : Local net net' b msgs)
    (down : ∀ sw, net.sock b ≠ some sw → net'.down sw = net.down sw) (different : a ≠ b) : Sees cfg net net' a e := by
  refine .elsewhere noGiven (here.others a different) here.controller ?_ ?_
  · rw [inbox,here.sock,inbox]
    cases connected : net.sock a with
    | none => rfl
    | some sw => simp [down sw (linked.apart (Ne.symm different) connected)]
  · rw [outbox,here.sock,outbox]
    cases connected : net.sock a with
    | none => rfl
    | some sw => simp [here.up,linked.apart (Ne.symm different) connected]

omit [DecidableEq AP] in
theorem Local.outbox {net net' : Net AP} {a : AP} {msgs : List ToController} (here : Local net net' a msgs) :
    net'.outbox a = net.outbox a ++ net.takes a msgs := by
  rw [Net.outbox,here.sock,Net.outbox,takes]
  cases connected : net.sock a with
  | none => rfl
  | some sw => simp [here.up,connected]

omit [DecidableEq AP] in
theorem inbox_congr {net net' : Net AP} (sock : net'.sock = net.sock) (down : net'.down = net.down) (a : AP) :
    net'.inbox a = net.inbox a := by
  rw [inbox,sock,down,inbox]

omit [DecidableEq AP] in
theorem Controls.sees {cfg : Config AP} {net net' : Net AP} {given : Controller.Event} {e : Event AP}
    (controls : Controls net net' given) (isGiven : net.controlled e = some given) (a : AP)
    (outbox : net.outbox a = net.handledOf a given ++ net'.outbox a) : Sees cfg net net' a e := by
  refine .controls isGiven (by rw [controls.ap]) controls.controller ?_ outbox
  rw [inbox,controls.sock,inbox,sentTo]
  cases net.sock a with
  | none => rfl
  | some sw => exact controls.down sw

omit [DecidableEq AP] in
theorem AtGateway.sees {cfg : Config AP} {net net' : Net AP} {e : Event AP} (linked : Linked cfg net)
    (gateway : AtGateway net net') (noGiven : net.controlled e = none) (a : AP) : Sees cfg net net' a e := by
  have other : ∀ sw, net.sock a = some sw → net.gwSock ≠ some sw := by
    intro sw connected isGateway
    have isPeer := linked.gwSock sw isGateway
    rw [linked.sock a sw connected] at isPeer
    cases isPeer
  refine .elsewhere noGiven (by rw [gateway.ap]) gateway.controller ?_ ?_
  · rw [inbox,gateway.sock,inbox]
    cases connected : net.sock a with
    | none => rfl
    | some sw => simp [gateway.otherDown sw (other sw connected)]
  · rw [outbox,gateway.sock,outbox]
    cases connected : net.sock a with
    | none => rfl
    | some sw =>
      rcases gateway.up sw with same | ⟨isGateway,_⟩
      · simp [same]
      · exact absurd isGateway (other sw connected)

omit [DecidableEq AP] in
/-- On a connection that is not open yet nothing is under way. -/
theorem Linked.unopened {cfg : Config AP} {net : Net AP} (linked : Linked cfg net) (address : IPv4) :
    net.down ⟨net.opened.length,address⟩ = [] ∧ net.up ⟨net.opened.length,address⟩ = [] := by
  constructor
  · rw [List.eq_nil_iff_forall_not_mem]
    intro msg member
    rcases linked.down _ msg member with ⟨_,isPeer⟩ | ⟨isPeer,_⟩ <;> rw [peer_unopened] at isPeer <;> cases isPeer
  · rw [List.eq_nil_iff_forall_not_mem]
    intro msg member
    obtain ⟨_,isPeer,_⟩ := linked.up _ msg member
    rw [peer_unopened] at isPeer
    cases isPeer

/-- A step, seen from an access point. -/
theorem sees_step {cfg : Config AP} {net net' : Net AP} {e : Event AP} (linked : Linked cfg net)
    (lossless : Lossless net e) (stepped : step cfg net e = some net') (a : AP) : Sees cfg net net' a e := by
  cases e with
  | connect b address =>
    obtain ⟨free,isNext⟩ := step_connect stepped
    obtain ⟨noDown,noUp⟩ := linked.unopened address
    refine .elsewhere rfl (by rw [isNext]) (by rw [isNext]) ?_ ?_ <;> by_cases same : a = b
    · subst same
      rw [isNext]
      simp [inbox,free,noDown]
    · rw [isNext]
      simp [inbox,same]
    · subst same
      rw [isNext]
      simp [outbox,free,noUp]
    · rw [isNext]
      simp [outbox,same]
  | disconnect b => exact lossless.elim
  | removed sw => exact lossless.elim
  | radio b input =>
    obtain ⟨msgs,reacts,here,down,_⟩ := step_radio stepped
    by_cases same : a = b
    · subst same
      exact .radio reacts here.controller (inbox_congr here.sock down a) here.outbox
    · exact .local linked rfl here (fun sw _ => by rw [down]) same
  | thread b i =>
    obtain ⟨msg,ran,here,down,_⟩ := step_thread stepped
    by_cases same : a = b
    · subst same
      exact .thread ran here.controller (inbox_congr here.sock down a) here.outbox
    · exact .local linked rfl here (fun sw _ => by rw [down]) same
  | deliver b =>
    obtain ⟨sw,msg,rest,msgs,connected,waiting,handled,here,down,_⟩ := step_deliver stepped
    by_cases same : a = b
    · subst same
      refine .deliver handled here.controller ?_ here.outbox
      simp [inbox,here.sock,connected,down,waiting]
    · refine .local linked rfl here (fun sw' other => ?_) same
      have different : sw' ≠ sw := fun same => other (same ▸ connected)
      rw [down,Function.update_of_ne different]
  | handle sw failing =>
    obtain ⟨msg,rest,_,waiting,controls,up,_⟩ := step_handle stepped
    refine controls.sees (by simp [controlled,waiting]) a ?_
    rw [outbox,outbox,handledOf,controls.sock]
    cases connected : net.sock a with
    | none => rfl
    | some sw' =>
      by_cases same : sw' = sw
      · subst same
        simp [waiting,up]
      · simp [up,same]
  | rehash order =>
    obtain ⟨controls,up,_⟩ := step_rehash stepped
    refine controls.sees rfl a ?_
    rw [outbox,outbox,controls.sock,up]
    rfl
  | uplink b hwAddr data =>
    obtain ⟨verdict,handled,here,down,_⟩ := step_uplink stepped
    by_cases same : a = b
    · subst same
      refine .uplink handled here.controller (inbox_congr here.sock down a) ?_
      rw [here.outbox,takes]
      simp
    · exact .local linked rfl here (fun sw _ => by rw [down]) same
  | reinject b i =>
    obtain ⟨verdicts,ran,here,down,_⟩ := step_reinject stepped
    by_cases same : a = b
    · subst same
      refine .reinject ran here.controller (inbox_congr here.sock down a) ?_
      rw [here.outbox,takes]
      simp
    · exact .local linked rfl here (fun sw _ => by rw [down]) same
  | gwConnect address => exact (step_gateway rfl stepped).sees linked rfl a
  | gwDisconnect => exact (step_gateway rfl stepped).sees linked rfl a
  | gwAnnounce => exact (step_gateway rfl stepped).sees linked rfl a
  | gwDeliver => exact (step_gateway rfl stepped).sees linked rfl a
  | gwForward i => exact (step_gateway rfl stepped).sees linked rfl a

theorem linked_run {cfg : Config AP} {events : List (Event AP)} {net : Net AP}
    (ran : Run.run (step cfg) (init cfg) events = some net) : Linked cfg net :=
  Run.run_invariant (linked_step cfg) (linked_init cfg) ran

end Net
end Handover
