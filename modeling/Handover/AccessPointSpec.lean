import Handover.AccessPoint

/-!
What the handlers of an access point do to its station list, its NAT table and
its threads, stated so that later proofs need not unfold them. `status` is the
view of the station list that admission depends on, and `report` what a message
says of it.
-/
namespace Handover

/-- What a thread will send. -/
def Sender.msg (cfg : APConfig) : Sender → ToController
  | .message msg => msg
  | .reassoc sta _ => .reassocReq sta cfg.mac

namespace AccessPoint

/-- The status of the station, if it is listed. -/
def status (ap : AccessPoint) (sta : Mac) : Option STAStatus := (ap.lookupSenderSTA sta).join.map (·.status)

/-- The two states differ in their station lists and threads only. -/
structure SameNat (ap ap' : AccessPoint) : Prop where
  entryList : ap'.entryList = ap.entryList
  portQueue : ap'.portQueue = ap.portQueue
  reinjecting : ap'.reinjecting = ap.reinjecting

theorem SameNat.refl (ap : AccessPoint) : SameNat ap ap := ⟨rfl,rfl,rfl⟩

theorem SameNat.trans {ap ap' ap'' : AccessPoint} (one : SameNat ap ap') (two : SameNat ap' ap'') : SameNat ap ap'' :=
  ⟨two.entryList.trans one.entryList,two.portQueue.trans one.portQueue,two.reinjecting.trans one.reinjecting⟩

theorem status_eq_some {ap : AccessPoint} {sta : Mac} {s : STAStatus} :
    ap.status sta = some s ↔ ∃ info, ap.lookupSenderSTA sta = some (some info) ∧ info.status = s := by
  simp [status,Option.join_eq_some_iff]

theorem record_of_listed {ap : AccessPoint} {sta : Mac} (listed : ap.status sta ≠ none) :
    ∃ info, ap.lookupSenderSTA sta = some (some info) := by
  obtain ⟨s,isStatus⟩ := Option.ne_none_iff_exists'.mp listed
  obtain ⟨info,found,_⟩ := status_eq_some.mp isStatus
  exact ⟨info,found⟩

theorem status_init (cfg : APConfig) (sta : Mac) : (init cfg).status sta = none := by
  have absent := Buckets.get_empty (fun sta : Mac => sta.o3.toNat) InfoSTA.address cfg.maxNumSta sta
  have isGet : (init cfg).lookupSenderSTA sta = if sta.o3.toNat < cfg.maxNumSta then some none else none := absent
  rw [status,isGet]
  split <;> rfl

/-! ### Records -/

/-- The state after fields of a record were assigned. -/
theorem changeSTA_spec {ap ap' : AccessPoint} {sta : Mac} {change : InfoSTA → InfoSTA}
    (keeps : ∀ info, (change info).address = info.address) (changed : ap.changeSTA sta change = some ap') :
    (∃ info, ap.lookupSenderSTA sta = some (some info)) ∧
      (∀ sta', ap'.lookupSenderSTA sta' =
        if sta' = sta then (ap.lookupSenderSTA sta).map (Option.map change) else ap.lookupSenderSTA sta') ∧
      ∃ staList, ap' = { ap with staList := staList } := by
  obtain ⟨info,found,rest⟩ := Option.bind_eq_some_iff.mp changed
  obtain ⟨staList,updated,rfl⟩ := Option.map_eq_some_iff.mp rest
  refine ⟨⟨info,Option.join_eq_some_iff.mp found⟩,fun sta' => ?_,staList,rfl⟩
  exact Buckets.get_update (fun sta : Mac => sta.o3.toNat) InfoSTA.address keeps updated sta'

/-- A change that sets the status sets it for that station only. -/
theorem status_changeSTA {ap ap' : AccessPoint} {sta : Mac} {change : InfoSTA → InfoSTA} {s : STAStatus}
    (keeps : ∀ info, (change info).address = info.address) (sets : ∀ info, (change info).status = s)
    (changed : ap.changeSTA sta change = some ap') (sta' : Mac) :
    ap'.status sta' = if sta' = sta then some s else ap.status sta' := by
  obtain ⟨⟨info,found⟩,lookup,_⟩ := changeSTA_spec keeps changed
  unfold status
  rw [lookup]
  by_cases same : sta' = sta
  · simp [same,found,sets]
  · simp [same]

/-- A change that leaves the status alone changes no status. -/
theorem status_changeSTA_same {ap ap' : AccessPoint} {sta : Mac} {change : InfoSTA → InfoSTA}
    (keeps : ∀ info, (change info).address = info.address) (same : ∀ info, (change info).status = info.status)
    (changed : ap.changeSTA sta change = some ap') (sta' : Mac) : ap'.status sta' = ap.status sta' := by
  obtain ⟨⟨info,found⟩,lookup,_⟩ := changeSTA_spec keeps changed
  unfold status
  rw [lookup]
  by_cases here : sta' = sta
  · simp [here,found,same]
  · simp [here]

theorem changeSTA_frame {ap ap' : AccessPoint} {sta : Mac} {change : InfoSTA → InfoSTA}
    (changed : ap.changeSTA sta change = some ap') :
    SameNat ap ap' ∧ ap'.sending = ap.sending ∧ ap'.numSta = ap.numSta := by
  obtain ⟨info,found,rest⟩ := Option.bind_eq_some_iff.mp changed
  obtain ⟨staList,updated,rfl⟩ := Option.map_eq_some_iff.mp rest
  exact ⟨⟨rfl,rfl,rfl⟩,rfl,rfl⟩

theorem status_changeStatus {ap ap' : AccessPoint} {sta : Mac} {s : STAStatus}
    (changed : ap.changeStatus sta s = some ap') (sta' : Mac) :
    ap'.status sta' = if sta' = sta then some s else ap.status sta' := by
  refine status_changeSTA ?_ ?_ changed sta'
  · intro info; rfl
  · intro info; rfl

theorem status_changeRSSI {ap ap' : AccessPoint} {sta : Mac} {rssi : UInt8}
    (changed : ap.changeRSSI sta rssi = some ap') (sta' : Mac) : ap'.status sta' = ap.status sta' := by
  refine status_changeSTA_same ?_ ?_ changed sta'
  · intro info; rfl
  · intro info; rfl

/-- The three outcomes of `addSTA`: no room, listed before, listed now. -/
theorem addSTA_spec {cfg : APConfig} {ap ap' : AccessPoint} {sta : Mac} {listed : Bool}
    (added : ap.addSTA cfg sta = some (ap',listed)) :
    (listed = false ∧ ap' = ap ∧ ap.status sta = none ∧ cfg.maxNumSta ≤ ap.numSta) ∨
      (listed = true ∧ ap' = ap ∧ ap.status sta ≠ none) ∨
      (listed = true ∧ ap.status sta = none ∧ ap.numSta < cfg.maxNumSta ∧ SameNat ap ap' ∧ ap'.sending = ap.sending ∧
        ∀ sta', ap'.status sta' = if sta' = sta then some .selected else ap.status sta') := by
  obtain ⟨found,isFound,rest⟩ := Option.bind_eq_some_iff.mp added
  cases found with
  | some info =>
    simp only [Option.isSome_some,if_true,Option.some.injEq,Prod.mk.injEq] at rest
    exact .inr (.inl ⟨rest.2.symm,rest.1.symm,by simp [status,isFound]⟩)
  | none =>
    simp only [Option.isSome_none,Bool.false_eq_true,if_false] at rest
    have absent : ap.status sta = none := by simp [status,isFound]
    split at rest
    · simp only [Option.some.injEq,Prod.mk.injEq] at rest
      exact .inl ⟨rest.2.symm,rest.1.symm,absent,‹_›⟩
    · obtain ⟨staList,pushed,same⟩ := Option.map_eq_some_iff.mp rest
      simp only [Prod.mk.injEq] at same
      obtain ⟨rfl,rfl⟩ := same
      refine .inr (.inr ⟨rfl,absent,by omega,⟨rfl,rfl,rfl⟩,rfl,fun sta' => ?_⟩)
      have lookup := Buckets.get_push (fun sta : Mac => sta.o3.toNat) InfoSTA.address (by rfl) pushed sta'
      show (Buckets.get (fun sta : Mac => sta.o3.toNat) InfoSTA.address staList sta').join.map (·.status) = _
      rw [lookup]
      by_cases same : sta' = sta
      · simp [same,InfoSTA.create]
      · simp only [same,if_false]
        rfl

/-! ### Frames and timers -/

/-- The station whose status the input changes in this state, if any. -/
def changes (ap : AccessPoint) : Radio → Option Mac
  | .auth sta _ => if ap.status sta = some .selected then some sta else none
  | .assoc sta _ => if ap.status sta = some .authenticated then some sta else none
  | .reassoc sta _ => if ap.status sta = some .authenticated then some sta else none
  | .disassoc sta _ => if ap.status sta = some .associated then some sta else none
  | .deauth sta => if ap.status sta = some .associated then some sta else none
  | .timeout i => ap.timers[i]?.bind (fun sta => if ap.status sta = some .authenticated then some sta else none)
  | _ => none

/-- A station gets another status, and a thread is to report it. -/
structure Changed (cfg : APConfig) (ap ap' : AccessPoint) (sta : Mac) (target : STAStatus) : Prop where
  nat : SameNat ap ap'
  admitted : ∃ before, ap.status sta = some before ∧ before ≠ .notAuthenticated
  status : ∀ sta', ap'.status sta' = if sta' = sta then some target else ap.status sta'
  reports : ∃ thread, ap'.sending = ap.sending ++ [thread] ∧ (thread.msg cfg).report = some (sta,cfg.mac,target)

/-- No station but an unknown one gets another status. -/
structure Quiet (ap ap' : AccessPoint) : Prop where
  nat : SameNat ap ap'
  status : ∀ sta, ap'.status sta = ap.status sta ∨ ap.status sta = none ∧ ap'.status sta = some .notAuthenticated

theorem Quiet.refl (ap : AccessPoint) : Quiet ap ap := ⟨.refl ap,fun _ => .inl rfl⟩

theorem any_status (ap : AccessPoint) (sta : Mac) (s : STAStatus) {info : Option InfoSTA}
    (found : ap.lookupSenderSTA sta = some info) :
    info.any (fun info => info.status = s) = true ↔ ap.status sta = some s := by
  cases info with
  | none => simp [status,found]
  | some info => simp [status,found]

theorem status_transition {ap ap' : AccessPoint} {sta : Mac} {guard target : STAStatus} {thread : Sender}
    (done : ap.transition sta guard target thread = some ap') (sta' : Mac) :
    ap'.status sta' = if sta' = sta ∧ ap.status sta = some guard then some target else ap.status sta' := by
  obtain ⟨info,found,rest⟩ := Option.bind_eq_some_iff.mp done
  by_cases passes : ap.status sta = some guard
  · rw [if_pos ((any_status ap sta guard found).mpr passes)] at rest
    obtain ⟨middle,changed,rfl⟩ := Option.map_eq_some_iff.mp rest
    have status : (middle.spawn thread).status sta' = if sta' = sta then some target else ap.status sta' :=
      status_changeStatus changed sta'
    simpa [passes] using status
  · rw [if_neg (mt (any_status ap sta guard found).mp passes)] at rest
    cases rest
    simp [passes]

theorem sending_transition {ap ap' : AccessPoint} {sta : Mac} {guard target : STAStatus} {thread : Sender}
    (done : ap.transition sta guard target thread = some ap') (passes : ap.status sta = some guard) :
    ap'.sending = ap.sending ++ [thread] := by
  obtain ⟨info,found,rest⟩ := Option.bind_eq_some_iff.mp done
  rw [if_pos ((any_status ap sta guard found).mpr passes)] at rest
  obtain ⟨middle,changed,rfl⟩ := Option.map_eq_some_iff.mp rest
  simp [spawn,(changeSTA_frame changed).2.1]

/-- The frame handlers pass their guard and report, or do nothing. -/
theorem transition_spec {cfg : APConfig} {ap ap' : AccessPoint} {sta : Mac} {guard target : STAStatus} {thread : Sender}
    (strict : guard ≠ .notAuthenticated) (reports : (thread.msg cfg).report = some (sta,cfg.mac,target))
    (done : ap.transition sta guard target thread = some ap') :
    if ap.status sta = some guard then Changed cfg ap ap' sta target else ap' = ap := by
  obtain ⟨info,found,rest⟩ := Option.bind_eq_some_iff.mp done
  by_cases passes : ap.status sta = some guard
  · rw [if_pos ((any_status ap sta guard found).mpr passes)] at rest
    obtain ⟨middle,changed,rfl⟩ := Option.map_eq_some_iff.mp rest
    rw [if_pos passes]
    have nat := (changeSTA_frame changed).1
    refine ⟨⟨nat.entryList,nat.portQueue,nat.reinjecting⟩,⟨guard,passes,strict⟩,?_,thread,?_,reports⟩
    · intro sta'
      simpa [passes] using status_transition done sta'
    · exact sending_transition done passes
  · rw [if_neg (mt (any_status ap sta guard found).mp passes)] at rest
    rw [if_neg passes]
    exact (Option.some.inj rest).symm

theorem handleDisassoc_spec {cfg : APConfig} {ap ap' : AccessPoint} {sta : Mac} {timer : Bool}
    (done : ap.handleDisassoc cfg sta timer = some ap') :
    if ap.status sta = some .associated then Changed cfg ap ap' sta .authenticated else ap' = ap := by
  obtain ⟨info,found,rest⟩ := Option.bind_eq_some_iff.mp done
  by_cases passes : ap.status sta = some .associated
  · rw [if_pos ((any_status ap sta .associated found).mpr passes)] at rest
    obtain ⟨middle,changed,rfl⟩ := Option.map_eq_some_iff.mp rest
    rw [if_pos passes]
    obtain ⟨nat,sending,_⟩ := changeSTA_frame changed
    refine ⟨⟨nat.entryList,nat.portQueue,nat.reinjecting⟩,⟨_,passes,by decide⟩,?_,.message (.disassocReq sta cfg.mac),?_,rfl⟩
    · intro sta'
      exact status_changeStatus changed sta'
    · simp [spawn,sending]
  · rw [if_neg (mt (any_status ap sta .associated found).mp passes)] at rest
    rw [if_neg passes]
    exact (Option.some.inj rest).symm

/-- A data frame lists an unknown station at most, and is reported for listed
    stations only. -/
theorem processStaData_spec {cfg : APConfig} {ap ap' : AccessPoint} {sta : Mac} {rssi : UInt8}
    {msgs : List ToController} (done : ap.processStaData cfg sta rssi = some (ap',msgs)) :
    Quiet ap ap' ∧ ap'.sending = ap.sending ∧ ∀ msg ∈ msgs, msg = .recPow sta cfg.mac rssi ∧ ap'.status sta ≠ none := by
  obtain ⟨info,found,rest⟩ := Option.bind_eq_some_iff.mp done
  have quiet_rssi : ∀ {one two : AccessPoint}, one.changeRSSI sta rssi = some two →
      SameNat one two ∧ two.sending = one.sending ∧ ∀ sta', two.status sta' = one.status sta' :=
    fun changed => ⟨(changeSTA_frame changed).1,(changeSTA_frame changed).2.1,status_changeRSSI changed⟩
  split at rest
  · obtain ⟨two,changed,same⟩ := Option.map_eq_some_iff.mp rest
    cases same
    obtain ⟨nat,sending,status⟩ := quiet_rssi changed
    exact ⟨⟨nat,fun sta' => .inl (status sta')⟩,sending,by simp⟩
  · obtain ⟨⟨middle,listed⟩,first,second⟩ := Option.bind_eq_some_iff.mp rest
    have listing : Quiet ap middle ∧ middle.sending = ap.sending ∧ (listed = true → middle.status sta ≠ none) := by
      split at first
      · cases first
        rename_i known
        obtain ⟨info',rfl⟩ := Option.isSome_iff_exists.mp known
        exact ⟨.refl ap,rfl,fun _ => by simp [AccessPoint.status,found]⟩
      · obtain ⟨⟨one,added⟩,add,change⟩ := Option.bind_eq_some_iff.mp first
        rcases addSTA_spec add with ⟨rfl,rfl,absent,full⟩ | ⟨rfl,rfl,known⟩ | ⟨rfl,absent,room,nat,sending,status⟩
        · simp only [Bool.false_eq_true,if_false,Option.some.injEq,Prod.mk.injEq] at change
          obtain ⟨rfl,rfl⟩ := change
          exact ⟨.refl _,rfl,by simp⟩
        · have unknown : ¬ info.isSome = true := ‹_›
          cases info with
          | some _ => simp at unknown
          | none => simp [AccessPoint.status,found] at known
        · simp only [if_true,Option.map_eq_some_iff,Prod.mk.injEq] at change
          obtain ⟨two,changed,rfl,rfl⟩ := change
          obtain ⟨nat',sending',_⟩ := changeSTA_frame changed
          refine ⟨⟨nat.trans nat',fun sta' => ?_⟩,sending'.trans sending,fun _ => ?_⟩
          · rw [status_changeStatus changed,status]
            by_cases same : sta' = sta
            · exact .inr ⟨same ▸ absent,by simp [same]⟩
            · exact .inl (by simp [same])
          · simp [status_changeStatus changed]
    obtain ⟨quiet,sending,known⟩ := listing
    dsimp only at second
    split at second
    · rename_i isListed
      obtain ⟨info',_,report⟩ := Option.bind_eq_some_iff.mp second
      split at report
      · obtain ⟨two,changed,same⟩ := Option.map_eq_some_iff.mp report
        cases same
        obtain ⟨nat,sending',status⟩ := quiet_rssi changed
        refine ⟨⟨quiet.nat.trans nat,fun sta' => ?_⟩,sending'.trans sending,?_⟩
        · rw [status]
          exact quiet.status sta'
        · intro msg member
          rw [List.mem_singleton] at member
          exact ⟨member,by rw [status]; exact known isListed⟩
      · cases report
        exact ⟨quiet,sending,by simp⟩
    · cases second
      exact ⟨quiet,sending,by simp⟩

/-- What the radio and the timers can do: change the status of one station and
    report it, ask the controller for a station, or report a signal strength. -/
theorem react_spec {cfg : APConfig} {ap ap' : AccessPoint} {input : Radio} {msgs : List ToController}
    (done : ap.react cfg input = some (ap',msgs)) :
    (∃ sta target, ap.changes input = some sta ∧ Changed cfg ap ap' sta target ∧ msgs = []) ∨
      (ap.changes input = none ∧ Quiet ap ap' ∧
        ((∃ sta, ap'.sending = ap.sending ++ [.message (.probe sta cfg.mac)] ∧ msgs = []) ∨
          ap'.sending = ap.sending ∧ ∀ msg ∈ msgs, ∃ sta rssi, msg = .recPow sta cfg.mac rssi ∧ ap'.status sta ≠ none)) := by
  have guarded : ∀ {sta : Mac} {guard target : STAStatus},
      (if ap.status sta = some guard then Changed cfg ap ap' sta target else ap' = ap) → msgs = [] →
      ap.changes input = (if ap.status sta = some guard then some sta else none) →
      (∃ sta target, ap.changes input = some sta ∧ Changed cfg ap ap' sta target ∧ msgs = []) ∨
        (ap.changes input = none ∧ Quiet ap ap' ∧
          ((∃ sta, ap'.sending = ap.sending ++ [.message (.probe sta cfg.mac)] ∧ msgs = []) ∨
            ap'.sending = ap.sending ∧
              ∀ msg ∈ msgs, ∃ sta rssi, msg = .recPow sta cfg.mac rssi ∧ ap'.status sta ≠ none)) := by
    intro sta guard target spec none isChange
    by_cases passes : ap.status sta = some guard
    · rw [if_pos passes] at spec isChange
      exact .inl ⟨sta,target,isChange,spec,none⟩
    · rw [if_neg passes] at spec isChange
      subst spec
      exact .inr ⟨isChange,.refl _,.inr ⟨rfl,by simp [none]⟩⟩
  cases input with
  | probe sta =>
    cases done
    exact .inr ⟨rfl,⟨⟨rfl,rfl,rfl⟩,fun _ => .inl rfl⟩,.inl ⟨sta,rfl,rfl⟩⟩
  | auth sta authAlg =>
    obtain ⟨middle,stepped,same⟩ := Option.map_eq_some_iff.mp done
    cases same
    exact guarded (transition_spec (by decide) rfl stepped) rfl rfl
  | assoc sta association =>
    obtain ⟨middle,stepped,same⟩ := Option.map_eq_some_iff.mp done
    cases same
    exact guarded (transition_spec (by decide) rfl stepped) rfl rfl
  | reassoc sta association =>
    obtain ⟨middle,stepped,same⟩ := Option.map_eq_some_iff.mp done
    cases same
    exact guarded (transition_spec (by decide) rfl stepped) rfl rfl
  | disassoc sta timer =>
    obtain ⟨middle,stepped,same⟩ := Option.map_eq_some_iff.mp done
    cases same
    exact guarded (handleDisassoc_spec stepped) rfl rfl
  | deauth sta =>
    obtain ⟨middle,stepped,same⟩ := Option.map_eq_some_iff.mp done
    cases same
    exact guarded (transition_spec (by decide) rfl stepped) rfl rfl
  | timeout i =>
    obtain ⟨sta,isTimer,rest⟩ := Option.bind_eq_some_iff.mp done
    obtain ⟨middle,stepped,same⟩ := Option.map_eq_some_iff.mp rest
    cases same
    have isChange : ap.changes (.timeout i) = if ap.status sta = some .authenticated then some sta else none := by
      simp [changes,isTimer]
    have fired := @transition_spec cfg _ _ _ _ _ _ (by decide) rfl stepped
    have same : ({ ap with timers := ap.timers.eraseIdx i } : AccessPoint).status sta = ap.status sta := rfl
    rw [same] at fired
    by_cases passes : ap.status sta = some .authenticated
    · rw [if_pos passes] at fired isChange
      exact .inl ⟨sta,.notAuthenticated,isChange,⟨⟨fired.nat.entryList,fired.nat.portQueue,fired.nat.reinjecting⟩,
        fired.admitted,fired.status,fired.reports⟩,rfl⟩
    · rw [if_neg passes] at fired isChange
      subst fired
      exact .inr ⟨isChange,⟨⟨rfl,rfl,rfl⟩,fun _ => .inl rfl⟩,.inr ⟨rfl,by simp⟩⟩
  | data sta rssi =>
    obtain ⟨quiet,sending,reports⟩ := processStaData_spec done
    refine .inr ⟨rfl,quiet,.inr ⟨sending,fun msg member => ?_⟩⟩
    obtain ⟨isReport,known⟩ := reports msg member
    exact ⟨sta,rssi,isReport,known⟩

/-! ### Threads and messages -/

/-- Frames and timers leave the packets alone, and no thread ends. -/
theorem react_nat {cfg : APConfig} {ap ap' : AccessPoint} {input : Radio} {msgs : List ToController}
    (done : ap.react cfg input = some (ap',msgs)) : SameNat ap ap' ∧ ap.sending ⊆ ap'.sending := by
  rcases react_spec done with ⟨_,_,_,changed,_⟩ | ⟨_,quiet,⟨_,sending,_⟩ | ⟨sending,_⟩⟩
  · obtain ⟨thread,sending,_⟩ := changed.reports
    exact ⟨changed.nat,by rw [sending]; exact List.subset_append_left _ _⟩
  · exact ⟨quiet.nat,by rw [sending]; exact List.subset_append_left _ _⟩
  · exact ⟨quiet.nat,by rw [sending]; exact List.Subset.refl _⟩

/-- A thread sends its message and changes no status. -/
theorem sendThread_spec {cfg : APConfig} {ap ap' : AccessPoint} {i : Nat} {msg : ToController}
    (done : ap.sendThread cfg i = some (ap',msg)) :
    ∃ thread, ap.sending[i]? = some thread ∧ msg = thread.msg cfg ∧ ap'.sending = ap.sending.eraseIdx i ∧
      SameNat ap ap' ∧ ap'.numSta = ap.numSta ∧ ∀ sta, ap'.status sta = ap.status sta := by
  obtain ⟨thread,isThread,ran⟩ := Option.bind_eq_some_iff.mp done
  refine ⟨thread,isThread,?_⟩
  have filled : ∀ {sta : Mac} {change : InfoSTA → InfoSTA}, (∀ info, (change info).address = info.address) →
      (∀ info, (change info).status = info.status) →
      ({ ap with sending := ap.sending.eraseIdx i } : AccessPoint).changeSTA sta change = some ap' →
      ap'.sending = ap.sending.eraseIdx i ∧ SameNat ap ap' ∧ ap'.numSta = ap.numSta ∧
        ∀ sta, ap'.status sta = ap.status sta := by
    intro sta change keeps same changed
    obtain ⟨nat,sending,numSta⟩ := changeSTA_frame changed
    exact ⟨sending,⟨nat.entryList,nat.portQueue,nat.reinjecting⟩,numSta,
      fun sta' => (status_changeSTA_same keeps same changed sta').trans rfl⟩
  have associated : ∀ {sta : Mac} {association : Association},
      ({ ap with sending := ap.sending.eraseIdx i } : AccessPoint).fillAssociation sta association = some ap' →
      ap'.sending = ap.sending.eraseIdx i ∧ SameNat ap ap' ∧ ap'.numSta = ap.numSta ∧
        ∀ sta, ap'.status sta = ap.status sta := by
    intro sta association fills
    unfold fillAssociation at fills
    split at fills
    · exact filled (by intro info; rfl) (by intro info; rfl) fills
    · cases fills
  unfold process at ran
  split at ran
  · obtain ⟨middle,changed,same⟩ := Option.map_eq_some_iff.mp ran
    cases same
    exact ⟨rfl,filled (by intro info; rfl) (by intro info; rfl) changed⟩
  · obtain ⟨middle,fills,same⟩ := Option.map_eq_some_iff.mp ran
    cases same
    exact ⟨rfl,associated fills⟩
  · obtain ⟨middle,fills,same⟩ := Option.map_eq_some_iff.mp ran
    cases same
    exact ⟨rfl,associated fills⟩
  · cases ran
    exact ⟨rfl,rfl,⟨rfl,rfl,rfl⟩,rfl,fun _ => rfl⟩

/-! ### When the handlers return -/

theorem changeSTA_returns {ap : AccessPoint} {sta : Mac} (known : ap.status sta ≠ none) (change : InfoSTA → InfoSTA) :
    ∃ ap', ap.changeSTA sta change = some ap' := by
  obtain ⟨info,found⟩ := record_of_listed known
  obtain ⟨chain,at_sta,_⟩ := Option.map_eq_some_iff.mp found
  simp [changeSTA,found,Buckets.update,at_sta]

theorem inside_of_status {ap : AccessPoint} {sta : Mac} (known : ap.status sta ≠ none) :
    ap.lookupSenderSTA sta ≠ none := by
  intro outside
  simp [status,outside] at known

theorem transition_returns {ap : AccessPoint} {sta : Mac} (inside : ap.lookupSenderSTA sta ≠ none)
    (guard target : STAStatus) (thread : Sender) : ∃ ap', ap.transition sta guard target thread = some ap' := by
  obtain ⟨info,found⟩ := Option.ne_none_iff_exists'.mp inside
  simp only [transition,found,Option.bind_some]
  split
  · rename_i passes
    have known : ap.status sta ≠ none := by simp [(any_status ap sta guard found).mp passes]
    obtain ⟨ap',changed⟩ := changeSTA_returns known _
    exact ⟨_,by rw [changeStatus,changed]; rfl⟩
  · exact ⟨ap,rfl⟩

theorem sendThread_single {cfg : APConfig} {ap : AccessPoint} {thread : Sender} {result : AccessPoint × ToController}
    (single : ap.sending = [thread]) (runs : { ap with sending := [] }.process cfg thread = some result) :
    ap.sendThread cfg 0 = some result := by
  rw [sendThread,single]
  exact runs

/-- The station is listed, or can be. -/
def HasRoom (cfg : APConfig) (ap : AccessPoint) (sta : Mac) : Prop :=
  ap.status sta ≠ none ∨ ap.lookupSenderSTA sta = some none ∧ ap.numSta < cfg.maxNumSta

theorem HasRoom.inside {cfg : APConfig} {ap : AccessPoint} {sta : Mac} (room : HasRoom cfg ap sta) :
    ap.lookupSenderSTA sta ≠ none := by
  rcases room with known | ⟨isNull,_⟩
  · exact inside_of_status known
  · simp [isNull]

/-- An offered station is selected where there is room for it. -/
theorem handleVendor_addSTA {cfg : APConfig} {ap ap' : AccessPoint} {sta : Mac} {msgs : List ToController}
    (done : ap.handleVendor cfg (.addSTA sta) = some (ap',msgs)) :
    msgs = [] ∧ ap'.sending = ap.sending ∧
      (HasRoom cfg ap sta ∧ ap'.status sta = some .selected ∨ ¬ HasRoom cfg ap sta ∧ ap' = ap) := by
  obtain ⟨⟨middle,listed⟩,added,rest⟩ := Option.bind_eq_some_iff.mp done
  dsimp only at rest
  rcases addSTA_spec added with ⟨rfl,rfl,absent,full⟩ | ⟨rfl,rfl,known⟩ | ⟨rfl,absent,room,_,sending,status⟩
  · cases rest
    refine ⟨rfl,rfl,.inr ⟨?_,rfl⟩⟩
    rintro (known | ⟨_,room⟩)
    · exact known absent
    · omega
  · obtain ⟨two,changed,same⟩ := Option.map_eq_some_iff.mp rest
    cases same
    refine ⟨rfl,(changeSTA_frame changed).2.1,.inl ⟨.inl known,?_⟩⟩
    rw [status_changeStatus changed,if_pos rfl]
  · obtain ⟨two,changed,same⟩ := Option.map_eq_some_iff.mp rest
    cases same
    obtain ⟨info,found,_⟩ := Option.bind_eq_some_iff.mp added
    have isNull : ap.lookupSenderSTA sta = some none := by
      cases info with
      | none => exact found
      | some info => simp [AccessPoint.status,found] at absent
    refine ⟨rfl,(changeSTA_frame changed).2.1.trans sending,.inl ⟨.inr ⟨isNull,room⟩,?_⟩⟩
    rw [status_changeStatus changed,if_pos rfl]

/-- An offer is handled unless the station's index is outside the table. -/
theorem handleVendor_addSTA_returns {cfg : APConfig} {ap : AccessPoint} {sta : Mac}
    (inside : ap.lookupSenderSTA sta ≠ none) : ∃ result, ap.handleVendor cfg (.addSTA sta) = some result := by
  obtain ⟨info,found⟩ := Option.ne_none_iff_exists'.mp inside
  obtain ⟨⟨middle,listed⟩,added⟩ : ∃ result, ap.addSTA cfg sta = some result := by
    obtain ⟨chain,at_sta,_⟩ := Option.map_eq_some_iff.mp found
    simp only [addSTA,found,Option.bind_some]
    split
    · exact ⟨_,rfl⟩
    · split
      · exact ⟨_,rfl⟩
      · exact ⟨_,by rw [Buckets.push,at_sta]; rfl⟩
  simp only [handleVendor,added,Option.bind_some]
  split
  · rename_i isListed
    have known : middle.status sta ≠ none := by
      rcases addSTA_spec added with ⟨unlisted,_⟩ | ⟨_,rfl,known⟩ | ⟨_,_,_,_,_,status⟩
      · cases unlisted.symm.trans isListed
      · exact known
      · simp [status]
    obtain ⟨ap',changed⟩ := changeSTA_returns known _
    exact ⟨_,by rw [changeStatus,changed]; rfl⟩
  · exact ⟨_,rfl⟩

/-- The station has the status now, and nothing else has changed for admission. -/
structure Sets (ap ap' : AccessPoint) (sta : Mac) (s : Option STAStatus) : Prop where
  status : ∀ sta', ap'.status sta' = if sta' = sta then s else ap.status sta'
  sending : ap'.sending = ap.sending

theorem Sets.refl (ap : AccessPoint) (sta : Mac) : Sets ap ap sta (ap.status sta) := by
  refine ⟨fun sta' => ?_,rfl⟩
  by_cases same : sta' = sta
  · simp [same]
  · simp [same]

theorem Sets.trans {ap ap' ap'' : AccessPoint} {sta : Mac} {s s' : Option STAStatus} (one : Sets ap ap' sta s)
    (two : Sets ap' ap'' sta s') : Sets ap ap'' sta s' := by
  refine ⟨fun sta' => ?_,two.sending.trans one.sending⟩
  rw [two.status,one.status]
  by_cases same : sta' = sta
  · simp [same]
  · simp [same]

theorem Sets.changeStatus {ap ap' : AccessPoint} {sta : Mac} {s : STAStatus}
    (changed : ap.changeStatus sta s = some ap') : Sets ap ap' sta (some s) :=
  ⟨status_changeStatus changed,(changeSTA_frame changed).2.1⟩

theorem Sets.updateSTA {ap ap' : AccessPoint} {sta : Mac} {update : UpdateSTA}
    (updated : ap.updateSTA sta update = some ap') : Sets ap ap' sta (some .associated) := by
  obtain ⟨rates,_,rest⟩ := Option.bind_eq_some_iff.mp updated
  split at rest
  · obtain ⟨middle,changed,filled⟩ := Option.bind_eq_some_iff.mp rest
    have first := Sets.changeStatus changed
    refine ⟨fun sta' => ?_,(changeSTA_frame filled).2.1.trans first.sending⟩
    rw [status_changeSTA_same (by intro info; rfl) (by intro info; rfl) filled,first.status]
  · cases rest

/-- A message of the controller sets the status of its station, unless a new
    station finds no room. -/
theorem handleVendor_sets {cfg : APConfig} {ap ap' : AccessPoint} {msg : FromController} {msgs : List ToController}
    {sta : Mac} (isStation : msg.station = some sta) (done : ap.handleVendor cfg msg = some (ap',msgs)) :
    (Sets ap ap' sta (msg.apply (ap.status sta)) ∨
      msg = .addSTA sta ∧ ap.status sta = none ∧ cfg.maxNumSta ≤ ap.numSta ∧ ap' = ap) ∧ msgs = [] := by
  cases msg with
  | addSTA sta' =>
    cases isStation
    obtain ⟨⟨middle,listed⟩,added,rest⟩ := Option.bind_eq_some_iff.mp done
    dsimp only at rest
    rcases addSTA_spec added with ⟨rfl,rfl,absent,full⟩ | ⟨rfl,rfl,known⟩ | ⟨rfl,absent,_,_,sending,status⟩
    · cases rest
      exact ⟨.inr ⟨rfl,absent,full,rfl⟩,rfl⟩
    · obtain ⟨two,changed,same⟩ := Option.map_eq_some_iff.mp rest
      cases same
      exact ⟨.inl (.changeStatus changed),rfl⟩
    · obtain ⟨two,changed,same⟩ := Option.map_eq_some_iff.mp rest
      cases same
      exact ⟨.inl (Sets.trans ⟨status,sending⟩ (.changeStatus changed)),rfl⟩
  | updateSTAAdd sta' update =>
    cases isStation
    obtain ⟨info,found,rest⟩ := Option.bind_eq_some_iff.mp done
    cases info with
    | none =>
      cases rest
      have absent : ap.status sta = none := by simp [AccessPoint.status,found]
      exact ⟨.inl (by simpa [absent,FromController.apply] using Sets.refl ap sta),rfl⟩
    | some info =>
      obtain ⟨middle,updated,same⟩ := Option.map_eq_some_iff.mp rest
      cases same
      have known : ap.status sta = some info.status := status_eq_some.mpr ⟨info,found,rfl⟩
      exact ⟨.inl (by simpa [known,FromController.apply] using Sets.updateSTA updated),rfl⟩
  | removeSTA sta' =>
    cases isStation
    obtain ⟨info,found,rest⟩ := Option.bind_eq_some_iff.mp done
    cases info with
    | none =>
      cases rest
      have absent : ap.status sta = none := by simp [AccessPoint.status,found]
      exact ⟨.inl (by simpa [absent,FromController.apply] using Sets.refl ap sta),rfl⟩
    | some info =>
      obtain ⟨middle,changed,same⟩ := Option.map_eq_some_iff.mp rest
      cases same
      have known : ap.status sta = some info.status := status_eq_some.mpr ⟨info,found,rfl⟩
      exact ⟨.inl (by simpa [known,FromController.apply] using Sets.changeStatus changed),rfl⟩
  | lastRecPow sta' => cases isStation
  | natAdd sta' tuple newPort => cases isStation

/-- The other messages set no status; an answer is about a listed station. -/
theorem handleVendor_other {cfg : APConfig} {ap ap' : AccessPoint} {msg : FromController} {msgs : List ToController}
    (noStation : msg.station = none) (done : ap.handleVendor cfg msg = some (ap',msgs)) :
    (∀ sta, ap'.status sta = ap.status sta) ∧ ap'.sending = ap.sending ∧
      ∀ m ∈ msgs, ∃ sta rssi, msg = .lastRecPow sta ∧ m = .apRecPow sta cfg.mac rssi ∧ ap.status sta ≠ none := by
  cases msg with
  | lastRecPow sta =>
    obtain ⟨info,found,same⟩ := Option.map_eq_some_iff.mp done
    cases same
    have isFound := Option.join_eq_some_iff.mp found
    have address := Buckets.key_of_get (fun sta : Mac => sta.o3.toNat) InfoSTA.address isFound
    refine ⟨fun _ => rfl,rfl,fun m member => ?_⟩
    rw [List.mem_singleton] at member
    exact ⟨sta,_,rfl,by rw [member,address],by simp [AccessPoint.status,isFound]⟩
  | natAdd sta tuple newPort =>
    obtain ⟨entryList,added,same⟩ := Option.map_eq_some_iff.mp done
    cases same
    exact ⟨fun _ => rfl,rfl,by simp⟩
  | addSTA sta => cases noStation
  | updateSTAAdd sta update => cases noStation
  | removeSTA sta => cases noStation

/-- A message of the controller starts no thread that reports, and only the signal
    strength of a listed station is answered. -/
theorem handleVendor_sends {cfg : APConfig} {ap ap' : AccessPoint} {msg : FromController} {msgs : List ToController}
    (done : ap.handleVendor cfg msg = some (ap',msgs)) :
    ap'.sending = ap.sending ∧
      ∀ m ∈ msgs, ∃ sta rssi, msg = .lastRecPow sta ∧ m = .apRecPow sta cfg.mac rssi ∧ ap.status sta ≠ none := by
  cases isStation : msg.station with
  | none =>
    obtain ⟨_,sending,answers⟩ := handleVendor_other isStation done
    exact ⟨sending,answers⟩
  | some sta =>
    obtain ⟨sets | ⟨_,_,_,rfl⟩,rfl⟩ := handleVendor_sets isStation done
    · exact ⟨sets.sending,by simp⟩
    · exact ⟨rfl,by simp⟩

/-- Only `WLAN_NAT_ADD` touches the NAT table, and it starts a reinjection. -/
theorem handleVendor_nat {cfg : APConfig} {ap ap' : AccessPoint} {msg : FromController} {msgs : List ToController}
    (done : ap.handleVendor cfg msg = some (ap',msgs)) :
    SameNat ap ap' ∨ ∃ sta tuple newPort, msg = .natAdd sta tuple newPort ∧
      natAdd ap.entryList tuple newPort = some ap'.entryList ∧ ap'.portQueue = ap.portQueue ∧
      ap'.reinjecting = ap.reinjecting ++ [tuple] := by
  cases msg with
  | addSTA sta =>
    left
    obtain ⟨⟨middle,listed⟩,added,rest⟩ := Option.bind_eq_some_iff.mp done
    have first : SameNat ap middle := by
      rcases addSTA_spec added with ⟨_,rfl,_⟩ | ⟨_,rfl,_⟩ | ⟨_,_,_,nat,_⟩
      · exact .refl _
      · exact .refl _
      · exact nat
    dsimp only at rest
    split at rest
    · obtain ⟨two,changed,same⟩ := Option.map_eq_some_iff.mp rest
      cases same
      exact first.trans (changeSTA_frame changed).1
    · cases rest
      exact first
  | lastRecPow sta =>
    obtain ⟨info,found,same⟩ := Option.map_eq_some_iff.mp done
    cases same
    exact .inl (.refl _)
  | updateSTAAdd sta update =>
    left
    obtain ⟨info,found,rest⟩ := Option.bind_eq_some_iff.mp done
    split at rest
    · obtain ⟨middle,updated,same⟩ := Option.map_eq_some_iff.mp rest
      cases same
      obtain ⟨rates,_,rest⟩ := Option.bind_eq_some_iff.mp updated
      split at rest
      · obtain ⟨two,changed,filled⟩ := Option.bind_eq_some_iff.mp rest
        exact (changeSTA_frame changed).1.trans (changeSTA_frame filled).1
      · cases rest
    · cases rest
      exact .refl _
  | removeSTA sta =>
    left
    obtain ⟨info,found,rest⟩ := Option.bind_eq_some_iff.mp done
    split at rest
    · obtain ⟨middle,changed,same⟩ := Option.map_eq_some_iff.mp rest
      cases same
      exact (changeSTA_frame changed).1
    · cases rest
      exact .refl _
  | natAdd sta tuple newPort =>
    obtain ⟨entryList,added,same⟩ := Option.map_eq_some_iff.mp done
    cases same
    exact .inr ⟨sta,tuple,newPort,rfl,added,rfl,rfl⟩

/-! ### Packets -/

/-- The three outcomes of an uplink packet: not of the subnet, rewritten, or held
    while its port is asked for. -/
theorem handleUplink_spec {cfg : APConfig} {ap ap' : AccessPoint} {packetId : Nat} {hwAddr : Mac} {data : Packet}
    {verdict : Option Verdict} (done : ap.handleUplink cfg packetId hwAddr data = some (ap',verdict)) :
    (Packet.inSubnet cfg.subnet data.tuple.sourceIP = false ∧ ap' = ap ∧ verdict = some ⟨packetId,data⟩) ∨
      (∃ nMap, lookupPortMapQ0 ap.entryList data.tuple = some (some nMap) ∧ ap' = ap ∧
        verdict = some ⟨packetId,outbound cfg nMap data⟩) ∨
      (∃ portQueue, ap.portQueue.push data.tuple.destinationIP.o3.toNat ⟨packetId,data⟩ = some portQueue ∧
        ap' = { ap with
          portQueue := portQueue
          sending := ap.sending ++ [.message (.portTranslation hwAddr data.tuple)] } ∧ verdict = none) := by
  unfold handleUplink at done
  split at done
  · obtain ⟨nMap,found,rest⟩ := Option.bind_eq_some_iff.mp done
    cases nMap with
    | some nMap =>
      cases rest
      exact .inr (.inl ⟨nMap,found,rfl,rfl⟩)
    | none =>
      obtain ⟨portQueue,pushed,same⟩ := Option.map_eq_some_iff.mp rest
      cases same
      exact .inr (.inr ⟨portQueue,pushed,rfl,rfl⟩)
  · rename_i other
    cases done
    exact .inl ⟨Bool.eq_false_iff.mpr other,rfl,rfl⟩

/-- A rewritten packet carries the address of the access point and the port of its
    flow. -/
theorem outbound_spec (cfg : APConfig) (nMap : NATMap) {data : Packet} (formed : data.WellFormed) :
    (outbound cfg nMap data).WellFormed ∧
      (outbound cfg nMap data).tuple = { data.tuple with sourceIP := cfg.ifIP, sourcePort := nMap.newPort } := by
  have ported := formed.setSourcePort nMap.newPort
  obtain ⟨formed',same⟩ := Packet.refresh_keeps (ported.setSourceAddress cfg.ifIP)
  refine ⟨formed',?_⟩
  rw [outbound,same,Packet.tuple_setSourceAddress ported,Packet.tuple_setSourcePort formed]

/-- A downlink packet whose port has an entry is sent to the entry's endpoint. -/
theorem handleDownlink_spec {cfg : APConfig} {ap : AccessPoint} {data : Packet} {nMap : NATMap}
    (formed : data.WellFormed) (addressed : data.tuple.destinationIP = cfg.ifIP)
    (found : lookupPortMapQ1 ap.entryList data.tuple.destinationPort data.tuple.sourceIP data.tuple.sourcePort =
      some (some nMap)) :
    ∃ delivered, ap.handleDownlink cfg data = some delivered ∧
      delivered.tuple = { data.tuple with destinationIP := nMap.sourceIP, destinationPort := nMap.sourcePort } := by
  have ported := formed.setDestinationPort nMap.sourcePort
  refine ⟨_,by rw [handleDownlink,if_pos addressed,found]; rfl,?_⟩
  rw [(Packet.refresh_keeps (ported.setDestinationAddress nMap.sourceIP)).2,Packet.tuple_setDestinationAddress ported,
    Packet.tuple_setDestinationPort formed]

/-- The packets that leave a bucket are those of the entry's flow, rewritten, from the
    newest to the oldest, and the others stay. -/
theorem reinjectChain_eq (cfg : APConfig) (nMap : NATMap) (chain : List PortData) :
    reinjectChain cfg nMap chain =
      ((chain.filter (fun temp => temp.packet.tuple = nMap.toFourTuple)).map
        (fun temp => ⟨temp.packetId,outbound cfg nMap temp.packet⟩),
        chain.filter (fun temp => !decide (temp.packet.tuple = nMap.toFourTuple))) := by
  induction chain with
  | nil => rfl
  | cons head rest ih => by_cases matches_ : head.packet.tuple = nMap.toFourTuple <;> simp [reinjectChain,ih,matches_]

theorem mem_reinjectChain (cfg : APConfig) (nMap : NATMap) (chain : List PortData) :
    (∀ verdict, verdict ∈ (reinjectChain cfg nMap chain).1 ↔ ∃ temp ∈ chain, temp.packet.tuple = nMap.toFourTuple ∧
        verdict = ⟨temp.packetId,outbound cfg nMap temp.packet⟩) ∧
      ∀ temp ∈ (reinjectChain cfg nMap chain).2, temp ∈ chain ∧ temp.packet.tuple ≠ nMap.toFourTuple := by
  rw [reinjectChain_eq]
  refine ⟨fun verdict => ?_,fun temp member => by simpa using member⟩
  simp [and_assoc,eq_comm]

/-- Every packet of a bucket leaves it or stays, once. -/
theorem perm_reinjectChain (cfg : APConfig) (nMap : NATMap) (chain : List PortData) :
    ((reinjectChain cfg nMap chain).1.map (·.packetId) ++ (reinjectChain cfg nMap chain).2.map (·.packetId)).Perm
      (chain.map (·.packetId)) := by
  have split := (List.filter_append_perm (fun temp => decide (temp.packet.tuple = nMap.toFourTuple)) chain).map
    (·.packetId)
  rw [List.map_append] at split
  rw [reinjectChain_eq,List.map_map]
  exact split

/-- A reinjection releases the packets of its flow with the flow's port. -/
theorem reinjectPkt_spec {cfg : APConfig} {ap ap' : AccessPoint} {i : Nat} {verdicts : List Verdict}
    (done : ap.reinjectPkt cfg i = some (ap',verdicts)) :
    ∃ tuple nMap chain, ap.reinjecting[i]? = some tuple ∧ lookupPortMapQ0 ap.entryList tuple = some (some nMap) ∧
      ap.portQueue.bucket tuple.destinationIP.o3.toNat = some chain ∧ verdicts = (reinjectChain cfg nMap chain).1 ∧
      ap' = { ap with
        portQueue := ap.portQueue.set tuple.destinationIP.o3.toNat (reinjectChain cfg nMap chain).2
        reinjecting := ap.reinjecting.eraseIdx i } := by
  obtain ⟨tuple,isThread,rest⟩ := Option.bind_eq_some_iff.mp done
  obtain ⟨nMap,found,rest⟩ := Option.bind_eq_some_iff.mp rest
  obtain ⟨chain,at_d,same⟩ := Option.map_eq_some_iff.mp rest
  cases same
  exact ⟨tuple,nMap,chain,isThread,Option.join_eq_some_iff.mp found,at_d,rfl,rfl⟩

end AccessPoint
end Handover
