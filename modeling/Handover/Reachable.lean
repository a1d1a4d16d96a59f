import Handover.ControllerSpec

/-!
What the controller keeps true by itself, whatever its access points send it and
whichever switches it loses: a station is offered to one access point at a time, and
its tables refer to no switch that has been removed.
-/
namespace Handover.Controller

/-- The controller after the events. -/
def reached (events : List Event) : Controller := events.foldl (fun c e => (c.step e).1) init

theorem reached_concat (events : List Event) (e : Event) : reached (events ++ [e]) = ((reached events).step e).1 := by
  simp [reached]

/-! ### One offer at a time -/

/-- No station is offered to two access points. -/
def OneOffer (c : Controller) : Prop :=
  ∀ sta ap ap', c.status sta ap = some .selected → c.status sta ap' = some .selected → ap = ap'

/-- No other access point has an offer of the station, and none has it associated. -/
def Unclaimed (c : Controller) (sta ap : Mac) : Prop :=
  (∀ other, other ≠ ap → c.status sta other ≠ some .selected) ∧ ∀ other, c.status sta other ≠ some .associated

section
variable {c c' : Controller} {e : Event} {writes : List Write}

/-- Only a probe that is answered selects a station. -/
theorem Does.selected (does : Does c e c' writes) {sta ap : Mac} (isSelected : c'.status sta ap = some .selected) :
    c.status sta ap = some .selected ∨ Offers c sta ap ∧ ∃ sw failing, e = .receive sw (.probe sta ap) failing := by
  cases does with
  | @offered sw sta' ap' failing entry offers isStatus isSwitch =>
    rw [status_putEntry] at isSelected
    split at isSelected
    · rename_i here
      obtain ⟨rfl,rfl⟩ := here
      exact .inr ⟨offers,sw,failing,rfl⟩
    · exact .inl isSelected
  | @reported sw msg failing sta' ap' s change bests reports sets keeps fewer =>
    have isSelected : (c.changeEntry sta' ap' change).status sta ap = some .selected := isSelected
    rw [status_changeEntry c sta' ap' sets] at isSelected
    split at isSelected
    · obtain ⟨_,_,rfl⟩ := Option.map_eq_some_iff.mp isSelected
      cases msg <;> cases reports
    · exact .inl isSelected
  | moved moves =>
    rw [status_handoverTables] at isSelected
    split at isSelected
    · cases isSelected
    · split at isSelected
      · cases isSelected
      · exact .inl isSelected
  | stayed stays => exact .inl (by rwa [status_clearSent] at isSelected)
  | removed => exact .inl (status_removedSwitch isSelected)
  | rehashed => exact .inl (by rwa [status_rehash] at isSelected)
  | _ => exact .inl isSelected

/-- A station is offered in answer to its probe, and only while it is unclaimed. -/
theorem Does.addSTA (does : Does c e c' writes) {w : Write} (member : w ∈ writes) {sta : Mac}
    (offer : w.msg = .addSTA sta) :
    ∃ ap failing, e = .receive w.sw (.probe sta ap) failing ∧ Unclaimed c sta ap ∧ Unclaimed c' sta ap := by
  cases does with
  | @offered sw sta' ap failing entry offers isStatus isSwitch =>
    rw [eq_of_mem_writeAll member] at offer ⊢
    cases offer
    refine ⟨ap,failing,rfl,⟨offers.1,offers.2.1⟩,fun other different => ?_,fun other => ?_⟩
    · rw [status_putEntry,if_neg (fun here => different here.2)]
      exact offers.1 other different
    · rw [status_putEntry,isStatus]
      split
      · simp
      · exact offers.2.1 other
  | heard asks =>
    rcases asks with rfl | ⟨ap',staAP,_,_,rfl⟩
    · cases member
    · rw [eq_of_mem_writeAll member] at offer
      cases offer
  | moved moves =>
    rcases mem_handoverWrites (mem_of_mem_writeAll member) with ⟨entry,_,rfl⟩ | rfl | ⟨update,rfl⟩ | ⟨gw,_,entry,_,rfl⟩ <;>
      cases offer
  | told found =>
    rw [eq_of_mem_writeAll member] at offer
    cases offer
  | recorded fresh =>
    rw [eq_of_mem_writeAll member] at offer
    cases offer
  | _ => cases member

theorem OneOffer.step (one : c.OneOffer) (does : Does c e c' writes) : c'.OneOffer := by
  intro sta ap ap' isOne isTwo
  rcases does.selected isOne with before | ⟨offers,sw,failing,isEvent⟩
  · rcases does.selected isTwo with before' | ⟨offers',_⟩
    · exact one sta ap ap' before before'
    · by_contra different
      exact offers'.1 ap different before
  · rcases does.selected isTwo with before' | ⟨_,_,_,isEvent'⟩
    · by_contra different
      exact offers.1 ap' (Ne.symm different) before'
    · rw [isEvent] at isEvent'
      cases isEvent'
      rfl

end

theorem oneOffer_reached (events : List Event) : (reached events).OneOffer := by
  induction events using List.reverseRecOn with
  | nil =>
    intro sta ap ap' isOne
    simp [reached,init,status,lookupSenderSTAAP] at isOne
  | append_singleton events e ih =>
    rw [reached_concat]
    exact ih.step (does_step _ e)

/-- In every state that the controller can reach a station is offered to one access
    point at most, and a further offer is written only while the station is
    unclaimed, before and after its own entry is changed. -/
theorem offered_once (events : List Event) :
    (reached events).OneOffer ∧
      ∀ e, ∀ w ∈ ((reached events).step e).2, ∀ sta, w.msg = .addSTA sta →
        ∃ ap failing, e = .receive w.sw (.probe sta ap) failing ∧ Unclaimed (reached events) sta ap ∧
          Unclaimed ((reached events).step e).1 sta ap :=
  ⟨oneOffer_reached events,fun e _ member _ offer => (does_step _ e).addSTA member offer⟩

/-! ### Switches that are gone -/

/-- The later event is no message of a switch that the earlier one removes. -/
def Event.Before : Event → Event → Prop
  | .removedSwitch sw, .receive sw' _ _ => sw ≠ sw'
  | _, _ => True

instance (e e' : Event) : Decidable (e.Before e') := by
  cases e <;> cases e' <;> unfold Event.Before <;> infer_instance

/-- A connection over which the gateway announces itself carries nothing else, and
    nothing is handled of a switch that has been removed. -/
structure Orderly (events : List Event) : Prop where
  gateway : ∀ gw failing, .receive gw .gwConnect failing ∈ events → ∀ msg failing',
    .receive gw msg failing' ∈ events → msg = .gwConnect
  ends : events.Pairwise Event.Before

/-- The switch has sent something that is no announcement, and is still there. -/
def Serves (events : List Event) (sw : IOFSwitch) : Prop :=
  .removedSwitch sw ∉ events ∧ ∃ msg failing, .receive sw msg failing ∈ events ∧ msg ≠ .gwConnect

/-- The tables refer to switches that are still there. -/
structure Live (events : List Event) (c : Controller) : Prop where
  entries : ∀ sta ap entry, c.lookupSenderSTAAP sta ap = some entry → Serves events entry.sw
  best : ∀ sta best, c.staAPRSSIList.lookup sta = some best → Serves events best.sw
  gwSwitch : ∀ gw, c.gwSwitch = some gw →
    .removedSwitch gw ∉ events ∧ ∃ failing, .receive gw .gwConnect failing ∈ events

theorem live_init : Live [] init where
  entries := by intro sta ap entry found; simp [init,lookupSenderSTAAP] at found
  best := by intro sta best found; simp [init] at found
  gwSwitch := by intro gw isGateway; simp [init] at isGateway

/-- The switch of a message that is handled is there. -/
theorem Orderly.remains {events after : List Event} {sw : IOFSwitch} {msg : ToController} {failing : List Nat}
    (orderly : Orderly (events ++ .receive sw msg failing :: after)) :
    .removedSwitch sw ∉ events ++ [.receive sw msg failing] := by
  have apart := (List.pairwise_append.mp orderly.ends).2.2
  intro removed
  rcases List.mem_append.mp removed with before | same
  · exact apart _ before _ List.mem_cons_self rfl
  · simp at same

theorem Serves.concat {events : List Event} {sw : IOFSwitch} (serves : Serves events sw) {e : Event}
    (remains : e ≠ .removedSwitch sw) : Serves (events ++ [e]) sw := by
  obtain ⟨present,msg,failing,sent,notGateway⟩ := serves
  refine ⟨?_,msg,failing,List.mem_append_left _ sent,notGateway⟩
  simp [present,Ne.symm remains]

/-- The switch of a message other than an announcement. -/
theorem Orderly.serves {events after : List Event} {sw : IOFSwitch} {msg : ToController} {failing : List Nat}
    (orderly : Orderly (events ++ .receive sw msg failing :: after)) (notGateway : msg ≠ .gwConnect) :
    Serves (events ++ [.receive sw msg failing]) sw :=
  ⟨orderly.remains,msg,failing,by simp,notGateway⟩

/-- The gateway's switch is in no table. -/
theorem Orderly.apart {events after : List Event} (orderly : Orderly (events ++ after)) {c : Controller}
    (live : Live events c) {gw sw : IOFSwitch} (isGateway : c.gwSwitch = some gw) (serves : Serves events sw) : sw ≠ gw := by
  rintro rfl
  obtain ⟨_,msg,failing,sent,notGateway⟩ := serves
  obtain ⟨_,failing',announced⟩ := live.gwSwitch sw isGateway
  exact notGateway (orderly.gateway sw failing' (List.mem_append_left _ announced) msg failing (List.mem_append_left _ sent))

/-- What `removedSwitch` leaves in the tables belongs to other switches, since the
    switch that is spared the search is the gateway's. -/
theorem Live.removed {events after : List Event} {c : Controller} {sw : IOFSwitch}
    (orderly : Orderly (events ++ .removedSwitch sw :: after)) (live : Live events c) :
    Live (events ++ [.removedSwitch sw]) (c.removedSwitch sw) := by
  have keep : ∀ {sw' : IOFSwitch}, Serves events sw' → sw' ≠ sw → Serves (events ++ [.removedSwitch sw]) sw' := by
    intro sw' serves other
    refine serves.concat (fun same => ?_)
    cases same
    exact other rfl
  unfold removedSwitch
  by_cases isGateway : c.gwSwitch = some sw
  · rw [if_pos isGateway]
    refine ⟨fun sta ap entry found => ?_,fun sta best found => ?_,fun gw isGateway' => nomatch isGateway'⟩
    · have serves := live.entries sta ap entry found
      exact keep serves (orderly.apart live isGateway serves)
    · have serves := live.best sta best found
      exact keep serves (orderly.apart live isGateway serves)
  · rw [if_neg isGateway]
    refine ⟨fun sta ap entry found => ?_,fun sta best found => ?_,fun gw isGateway' => ?_⟩
    · simp only [lookupSenderSTAAP,Map.lookup_keep,Option.filter_eq_some_iff,decide_eq_true_eq] at found
      exact keep (live.entries sta ap entry found.1) found.2
    · simp only [Map.lookup_keep,Option.filter_eq_some_iff,decide_eq_true_eq] at found
      exact keep (live.best sta best found.1) found.2
    · obtain ⟨present,failing,announced⟩ := live.gwSwitch gw isGateway'
      refine ⟨?_,failing,List.mem_append_left _ announced⟩
      have other : gw ≠ sw := fun same => isGateway (same ▸ isGateway')
      simp [present,other]

/-- The tables stay live, event by event. -/
theorem Live.step {events after : List Event} {c : Controller} {e : Event} (orderly : Orderly (events ++ e :: after))
    (live : Live events c) : Live (events ++ [e]) (c.step e).1 := by
  by_cases removes : ∃ sw, e = .removedSwitch sw
  · obtain ⟨sw,rfl⟩ := removes
    exact live.removed orderly
  have keep : ∀ {sw : IOFSwitch}, Serves events sw → Serves (events ++ [e]) sw :=
    fun serves => serves.concat (fun same => removes ⟨_,same⟩)
  have sends : ∀ {sw : IOFSwitch} {msg : ToController} {failing : List Nat}, e = .receive sw msg failing →
      msg ≠ .gwConnect → Serves (events ++ [e]) sw := by
    rintro sw msg failing rfl notGateway
    exact orderly.serves notGateway
  refine ⟨fun sta ap entry found => ?_,fun sta best found => ?_,fun gw isGateway => ?_⟩
  · cases isOld : c.lookupSenderSTAAP sta ap with
    | some old =>
      rw [(c.does_step e).sw_entry isOld found]
      exact keep (live.entries sta ap old isOld)
    | none =>
      rcases (c.does_step e).sw_newEntry isOld found with ⟨failing,isEvent⟩ |
        ⟨sw,reporter,rssi,failing,staAP,best,_,moves,_,same⟩
      · exact sends isEvent (by simp)
      · rw [same]
        exact keep (live.best sta best moves.bestIs)
  · rcases (c.does_step e).sw_best found with ⟨old,isOld,_,same⟩ | ⟨rssi,failing,isEvent | isEvent⟩
    · rw [same]
      exact keep (live.best sta old isOld)
    · exact sends isEvent (by simp)
    · exact sends isEvent (by simp)
  · rcases (c.does_step e).gwSwitch isGateway with old | ⟨failing,rfl⟩
    · obtain ⟨present,failing,announced⟩ := live.gwSwitch gw old
      refine ⟨?_,failing,List.mem_append_left _ announced⟩
      rw [List.mem_append,List.mem_singleton]
      rintro (before | same)
      · exact present before
      · exact removes ⟨gw,same.symm⟩
    · exact ⟨orderly.remains,failing,by simp⟩

theorem live_reached {events after : List Event} (orderly : Orderly (events ++ after)) : Live events (reached events) := by
  induction events using List.reverseRecOn generalizing after with
  | nil => exact live_init
  | append_singleton events e ih =>
    rw [List.append_assoc,List.singleton_append] at orderly
    rw [reached_concat]
    exact (ih orderly).step orderly

/-- What an event writes goes to switches that are still there. -/
theorem Live.written {events after : List Event} {c : Controller} {e : Event} (orderly : Orderly (events ++ e :: after))
    (live : Live events c) {w : Write} (written : w ∈ (c.step e).2) : .removedSwitch w.sw ∉ events := by
  rcases (does_step c e).sw_write written with ⟨msg,failing,rfl,_⟩ | ⟨sta,ap,entry,found,same⟩ |
    ⟨sta,best,found,same⟩ | ⟨isGateway,_⟩
  · exact fun removed => orderly.remains (List.mem_append_left _ removed)
  · rw [same]
    exact (live.entries sta ap entry found).1
  · rw [same]
    exact (live.best sta best found).1
  · exact (live.gwSwitch _ isGateway).1

end Handover.Controller
