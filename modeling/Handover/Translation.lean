import Handover.Links
import Handover.NatTable

/-!
Port translation across the site. A flow is asked for by the access point that a
packet arrives at, recorded by the controller, and answered over the connection
that asked, or brought by a handover. `Serving` follows the flows on that way,
for any rule `allowed` of which stations' flows an access point may come to hold.
-/
namespace Handover
namespace Net
open Controller NatTable Ports
variable {AP : Type}

/-- Every request, reply and table entry of an access point is for a flow that the
    access point may hold, and replies and entries have its recorded port. -/
structure Serving (cfg : Config AP) (allowed : AP → Mac → FourTuple → Prop) (net : Net AP) : Prop where
  threads : ∀ a, ∀ thread ∈ (net.ap a).sending, ∀ sta tuple,
    thread.msg (cfg.ap a) = .portTranslation sta tuple → allowed a sta tuple
  up : ∀ sw a, net.peer sw = some (some a) → ∀ sta tuple, .portTranslation sta tuple ∈ net.up sw → allowed a sta tuple
  down : ∀ sw a, net.peer sw = some (some a) → ∀ sta tuple newPort, .natAdd sta tuple newPort ∈ net.down sw →
    allowed a sta tuple ∧ (⟨tuple,newPort⟩ : NATMap) ∈ net.controller.flows sta
  kept : ∀ a, Kept (net.ap a).entryList
  table : ∀ a tuple newPort, portOf (net.ap a).entryList tuple = some newPort →
    ∃ sta, allowed a sta tuple ∧ (⟨tuple,newPort⟩ : NATMap) ∈ net.controller.flows sta

/-- Packets bring an access point only flows that it may hold, and so does a
    handover. -/
def Within (allowed : AP → Mac → FourTuple → Prop) (net : Net AP) : Event AP → Prop
  | .uplink a hwAddr data => allowed a hwAddr data.tuple
  | .handle sw _ => ∀ sta ap rssi rest staAP best, net.up sw = .apRecPow sta ap rssi :: rest →
      Moves net.controller sta ap rssi staAP best →
      ∀ a, net.peer (net.controller.handoverEntry sta staAP best).sw = some (some a) →
        ∀ entry ∈ net.controller.flows sta, allowed a sta entry.toFourTuple
  | _ => True

theorem serving_init (cfg : Config AP) (allowed : AP → Mac → FourTuple → Prop) : Serving cfg allowed (init cfg) where
  threads := by intro a thread member; simp [init,AccessPoint.init] at member
  up := by intro sw a isPeer sta tuple member; simp [init] at member
  down := by intro sw a isPeer sta tuple newPort member; simp [init] at member
  kept := fun a => kept_empty
  table := by
    intro a tuple newPort held
    rw [show ((init cfg).ap a).entryList = Buckets.empty 255 from rfl,portOf_empty] at held
    cases held

/-- Access points do not report flows of their own choosing. -/
theorem Linked.noUpdate {cfg : Config AP} {net : Net AP} (linked : Linked cfg net) (sw : IOFSwitch) (sta : Mac)
    (tuple : FourTuple) : .natUpdate sta tuple ∉ net.up sw := by
  intro member
  obtain ⟨party,_,honest⟩ := linked.up sw _ member
  cases party with
  | none => cases honest
  | some a =>
    rcases honest with itself | ⟨sta',tuple',same⟩
    · cases itself
    · cases same

section
variable {cfg : Config AP} {allowed : AP → Mac → FourTuple → Prop} {net net' : Net AP}

/-- A step at an access point, whose NAT table stays or takes a reply. -/
theorem Serving.local (linked : Linked cfg net) (serving : Serving cfg allowed net) {a : AP} {msgs : List ToController}
    (here : Local net net' a msgs) (down : ∀ sw, ∀ msg ∈ net'.down sw, msg ∈ net.down sw)
    (threads : ∀ thread ∈ (net'.ap a).sending, thread ∈ (net.ap a).sending ∨
      ∀ sta tuple, thread.msg (cfg.ap a) = .portTranslation sta tuple → allowed a sta tuple)
    (requests : ∀ sta tuple, .portTranslation sta tuple ∈ msgs → allowed a sta tuple)
    (table : (net'.ap a).entryList = (net.ap a).entryList ∨ ∃ sta tuple newPort,
      natAdd (net.ap a).entryList tuple newPort = some (net'.ap a).entryList ∧ allowed a sta tuple ∧
        (⟨tuple,newPort⟩ : NATMap) ∈ net.controller.flows sta) :
    Serving cfg allowed net' := by
  have peer : ∀ sw, net'.peer sw = net.peer sw := peer_congr here.opened
  refine ⟨?_,?_,?_,?_,?_⟩
  · intro b thread member
    by_cases same : b = a
    · subst same
      rcases threads thread member with old | new
      · exact serving.threads b thread old
      · exact new
    · rw [here.others b same] at member
      exact serving.threads b thread member
  · intro sw b isPeer sta tuple member
    rw [peer] at isPeer
    rw [here.up] at member
    split at member
    · rename_i connected
      rcases List.mem_append.mp member with old | new
      · exact serving.up sw b isPeer sta tuple old
      · have isPeer' := linked.sock a sw connected
        rw [isPeer] at isPeer'
        cases isPeer'
        exact requests sta tuple new
    · exact serving.up sw b isPeer sta tuple member
  · intro sw b isPeer sta tuple newPort member
    rw [peer] at isPeer
    rw [here.controller]
    exact serving.down sw b isPeer sta tuple newPort (down sw _ member)
  · intro b
    by_cases same : b = a
    · subst same
      rcases table with same | ⟨sta,tuple,newPort,added,_⟩
      · rw [same]
        exact serving.kept b
      · exact (serving.kept b).natAdd added
    · rw [here.others b same]
      exact serving.kept b
  · intro b tuple newPort held
    rw [here.controller]
    by_cases same : b = a
    · subst same
      rcases table with same | ⟨sta,tuple',newPort',added,may,recorded⟩
      · rw [same] at held
        exact serving.table b tuple newPort held
      · rw [portOf_natAdd added] at held
        split at held
        · rename_i same
          subst same
          cases held
          exact ⟨sta,may,recorded⟩
        · exact serving.table b tuple newPort held
    · rw [here.others b same] at held
      exact serving.table b tuple newPort held

/-- A step of the controller, which tells access points of recorded flows. -/
theorem Serving.controls (linked : Linked cfg net) (serving : Serving cfg allowed net) {e : Controller.Event}
    (controls : Controls net net' e) (up : ∀ sw, ∀ msg ∈ net'.up sw, msg ∈ net.up sw)
    (honest : ∀ sw msg failing, e = .receive sw msg failing → msg ∈ net.up sw)
    (within : ∀ sw sta ap rssi failing staAP best, e = .receive sw (.apRecPow sta ap rssi) failing →
      Moves net.controller sta ap rssi staAP best →
      ∀ a, net.peer (net.controller.handoverEntry sta staAP best).sw = some (some a) →
        ∀ entry ∈ net.controller.flows sta, allowed a sta entry.toFourTuple) :
    Serving cfg allowed net' := by
  have peer : ∀ sw, net'.peer sw = net.peer sw := peer_congr controls.opened
  have grows : ∀ sta, net.controller.flows sta ⊆ net'.controller.flows sta := by
    rw [controls.controller]
    refine (net.controller.does_step e).flows_subset (fun sw sta tuple failing isEvent => ?_)
    exact linked.noUpdate sw sta tuple (honest sw _ failing isEvent)
  refine ⟨?_,?_,?_,?_,?_⟩
  · rw [controls.ap]
    exact serving.threads
  · intro sw a isPeer sta tuple member
    rw [peer] at isPeer
    exact serving.up sw a isPeer sta tuple (up sw _ member)
  · intro sw a isPeer sta tuple newPort member
    rw [peer] at isPeer
    rcases controls.mem_down member with old | new
    · obtain ⟨may,recorded⟩ := serving.down sw a isPeer sta tuple newPort old
      exact ⟨may,grows sta recorded⟩
    · rw [controls.controller]
      rcases (net.controller.does_step e).natAdd new rfl with ⟨recorded,failing,isEvent⟩ |
        ⟨sw',ap,rssi,failing,staAP,best,isEvent,moves,same,isGateway | ⟨isNew,recorded⟩⟩
      · exact ⟨serving.up sw a isPeer sta tuple (honest sw _ failing isEvent),recorded⟩
      · have isPeer' := linked.tables.gwSwitch _ isGateway
        rw [isPeer] at isPeer'
        cases isPeer'
      · exact ⟨within sw' sta ap rssi failing staAP best isEvent moves a (isNew ▸ isPeer) _ recorded,same ▸ recorded⟩
  · rw [controls.ap]
    exact serving.kept
  · intro a tuple newPort held
    rw [controls.ap] at held
    obtain ⟨sta,may,recorded⟩ := serving.table a tuple newPort held
    exact ⟨sta,may,grows sta recorded⟩

/-- A step that only opens connections or announces the gateway. -/
theorem Serving.connects (linked : Linked cfg net) (serving : Serving cfg allowed net)
    (controller : net'.controller = net.controller) (ap : net'.ap = net.ap)
    (grows : ∀ sw party, net.peer sw = some party → net'.peer sw = some party)
    (up : ∀ sw sta tuple, .portTranslation sta tuple ∈ net'.up sw → .portTranslation sta tuple ∈ net.up sw)
    (down : ∀ sw, ∀ msg ∈ net'.down sw, msg ∈ net.down sw) : Serving cfg allowed net' := by
  refine ⟨?_,?_,?_,?_,?_⟩
  · rw [ap]
    exact serving.threads
  · intro sw a isPeer sta tuple member
    have before := up sw sta tuple member
    exact serving.up sw a (linked.peer_of_up grows before isPeer) sta tuple before
  · intro sw a isPeer sta tuple newPort member
    have before := down sw _ member
    rw [controller]
    exact serving.down sw a (linked.peer_of_down grows before isPeer) sta tuple newPort before
  · rw [ap]
    exact serving.kept
  · rw [ap,controller]
    exact serving.table

end

variable [DecidableEq AP]

/-- Every event within the rule keeps to it. -/
theorem serving_step {cfg : Config AP} {allowed : AP → Mac → FourTuple → Prop} {net net' : Net AP} {e : Event AP}
    (within : Within allowed net e) (linked : Linked cfg net) (serving : Serving cfg allowed net)
    (stepped : step cfg net e = some net') : Serving cfg allowed net' := by
  cases kind_step stepped with
  | @connects b address free isNext =>
    have opened : net'.opened = net.opened ++ [(some b,address)] := by rw [isNext]
    obtain ⟨grows,_⟩ := @Linked.grow _ _ _ linked net' (.inr ⟨_,opened⟩)
    exact serving.connects linked (by rw [isNext]) (by rw [isNext]) grows
      (fun sw sta tuple member => by rw [isNext] at member; exact member)
      (fun sw msg member => by rw [isNext] at member; exact member)
  | disconnects isNext =>
    rw [isNext]
    exact serving.connects linked rfl rfl (fun _ _ => id) (fun _ _ _ => id) (fun _ _ => id)
  | @acts _ b msgs acts =>
    refine serving.local linked acts.here acts.down
      (fun thread member => (acts.threads thread member).imp_right (fun starts sta tuple isRequest => ?_))
      (fun sta tuple member => ?_) (acts.entryList.imp_right ?_)
    · cases starts with
      | report reports =>
        rw [isRequest] at reports
        cases reports
      | probe isProbe =>
        rw [isProbe] at isRequest
        cases isRequest
      | request isEvent isThread =>
        subst isEvent
        rw [isThread] at isRequest
        cases isRequest
        exact within
    · cases acts.sends _ member with
      | strength isStrength => cases isStrength
      | answer isAnswer connected asked => cases isAnswer
      | thread isThread isMsg => exact serving.threads b _ isThread sta tuple isMsg.symm
    · rintro ⟨sw,sta,tuple,newPort,rest,_,connected,waiting,added⟩
      obtain ⟨may,recorded⟩ := serving.down sw b (linked.sock b sw connected) sta tuple newPort
        (by rw [waiting]; exact List.mem_cons_self)
      exact ⟨sta,tuple,newPort,added,may,recorded⟩
  | controls isGiven controls received up closed removed =>
    refine serving.controls linked controls up (controlled_waiting isGiven) ?_
    rintro sw sta ap rssi failing staAP best rfl moves
    obtain ⟨rfl,rest,waiting⟩ := controlled_receive isGiven
    exact within sta ap rssi rest staAP best waiting moves
  | gateway isGateway noGiven gateway =>
    obtain ⟨grows,_⟩ := @Linked.grow _ _ _ linked net' (gateway.opened.imp_right (fun ⟨address,more⟩ => ⟨_,more⟩))
    refine serving.connects linked gateway.controller gateway.ap grows (fun sw sta tuple member => ?_) gateway.down
    rcases gateway.up sw with same | ⟨_,more⟩
    · exact same ▸ member
    · rw [more] at member
      exact (List.mem_append.mp member).resolve_right (by simp)

/-- Only replies of the controller change a NAT table. -/
theorem entryList_step {cfg : Config AP} {net net' : Net AP} {e : Event AP} (stepped : step cfg net e = some net')
    (a : AP) : (net'.ap a).entryList = (net.ap a).entryList ∨ ∃ sw sta tuple newPort rest, e = .deliver a ∧
      net.sock a = some sw ∧ net.down sw = .natAdd sta tuple newPort :: rest ∧
      natAdd (net.ap a).entryList tuple newPort = some (net'.ap a).entryList := by
  cases kind_step stepped with
  | connects free isNext => exact .inl (by rw [isNext])
  | disconnects isNext => exact .inl (by rw [isNext])
  | @acts _ b msgs acts =>
    by_cases same : a = b
    · subst same
      exact acts.entryList
    · exact .inl (by rw [acts.here.others a same])
  | controls isGiven controls received up closed removed => exact .inl (by rw [controls.ap])
  | gateway isGateway noGiven gateway => exact .inl (by rw [gateway.ap])

/-! ### The controller's share of a run -/

/-- What the controller is given along a run. -/
def given (cfg : Config AP) : Net AP → List (Event AP) → List Controller.Event
  | _, [] => []
  | net, e :: rest => (net.controlled e).toList ++ ((step cfg net e).map (fun next => given cfg next rest)).getD []

omit [DecidableEq AP] in
/-- In port-translation mode nothing else reaches the controller. -/
theorem translating_of_controlled {cfg : Config AP} {net : Net AP} (linked : Linked cfg net) {e : Event AP}
    {given : Controller.Event} (isGiven : net.controlled e = some given) : Translating given := by
  cases given with
  | receive sw msg failing =>
    obtain ⟨_,rest,waiting⟩ := controlled_receive isGiven
    cases msg with
    | natUpdate sta tuple => exact linked.noUpdate sw sta tuple (by rw [waiting]; exact List.mem_cons_self)
    | _ => trivial
  | removedSwitch sw => trivial
  | rehash order => trivial

/-- The controller has numbered the flows in some order. -/
def Numbered (net : Net AP) : Prop := ∃ order, Represents net.controller order

omit [DecidableEq AP] in
theorem numbered_init (cfg : Config AP) : Numbered (init cfg) := ⟨[],represents_init⟩

theorem numbered_step {cfg : Config AP} {net net' : Net AP} {e : Event AP} (linked : Linked cfg net)
    (numbered : Numbered net) (stepped : step cfg net e = some net') : Numbered net' := by
  obtain ⟨order,represents⟩ := numbered
  rcases step_controller stepped with ⟨one,isGiven,isNext⟩ | ⟨_,isNext⟩
  · exact ⟨_,isNext ▸ represents_step represents (translating_of_controlled linked isGiven)⟩
  · exact ⟨order,isNext ▸ represents⟩

omit [DecidableEq AP] in
/-- A station's flow is recorded once. -/
theorem Numbered.once {net : Net AP} (numbered : Numbered net) {sta : Mac} {entry entry' : NATMap}
    (recorded : entry ∈ net.controller.flows sta) (recorded' : entry' ∈ net.controller.flows sta)
    (same : entry.toFourTuple = entry'.toFourTuple) : entry = entry' := by
  obtain ⟨order,represents⟩ := numbered
  exact List.inj_on_of_nodup_map (represents.once sta) recorded recorded' same

/-- Along a run of the site the controller numbers the flows in the order in which
    they are first asked for. -/
theorem represents_given {cfg : Config AP} {net final : Net AP} {events : List (Event AP)} {order : List Flow}
    (linked : Linked cfg net) (represents : Represents net.controller order)
    (ran : Run.run (step cfg) net events = some final) :
    Represents final.controller ((requests (given cfg net events)).foldl Allocation.arrive order) := by
  induction events generalizing net order with
  | nil =>
    cases ran
    exact represents
  | cons e rest ih =>
    obtain ⟨next,stepped,onward⟩ := (Run.run_cons net final e rest).mp ran
    have linked' := linked_step cfg net e next linked stepped
    simp only [given,stepped,Option.map_some,Option.getD_some]
    rcases step_controller stepped with ⟨one,isGiven,isNext⟩ | ⟨noGiven,isNext⟩
    · have first := represents_step represents (translating_of_controlled linked isGiven)
      rw [← isNext] at first
      have later := ih linked' first onward
      rw [isGiven]
      cases asks : request one with
      | none => simpa [requests,asks] using later
      | some flow => simpa [requests,asks] using later
    · have later := ih linked' (isNext ▸ represents) onward
      rw [noGiven]
      simpa using later

theorem represents_site {cfg : Config AP} {final : Net AP} {events : List (Event AP)}
    (ran : Run.run (step cfg) (init cfg) events = some final) :
    Represents final.controller (Allocation.arrivals (requests (given cfg (init cfg) events))) :=
  represents_given (linked_init cfg) represents_init ran

end Net
end Handover
