import Handover.AccessPointSpec
import Handover.Run

/-!
The station list of an access point, thread by thread. Every `process_sta_data` runs in a
thread of its own beside the thread that serves the controller, and the lock is held for
one search, one insertion or one assignment at a time: `addSTA` searches the list, reads
the number of stations without the lock and inserts its record in a third step. The list
stays a map from addresses to records if and only if every insertion still finds what
the two steps before it have found.
-/
namespace Handover.StationList

/-- The threads that use the list: one for each data frame, the one that serves the
    controller and the event loop of `hostapd`. -/
inductive Thread where
  | data (i : Nat)
  | controller
  | events
deriving DecidableEq

/-- What a thread does with the record of a station: `process_sta_data`, the `WLAN_ADD_STA`
    case of `handle_vendor`, or a handler that sets a status on a record that it finds. -/
inductive Call where
  | data (sta : Mac) (rssi : UInt8)
  | add (sta : Mac)
  | assign (sta : Mac) (status : STAStatus)

def Thread.makes : Thread → Call → Bool
  | .data _, .data _ _ => true
  | .controller, .add _ => true
  | .controller, .assign _ _ => true
  | .events, .assign _ _ => true
  | _, _ => false

namespace Call

def sta : Call → Mac
  | data sta _ => sta
  | add sta => sta
  | assign sta _ => sta

/-- The status that the call sets. -/
def status : Call → STAStatus
  | data _ _ => .notAuthenticated
  | add _ => .selected
  | assign _ status => status

end Call

/-- Where a thread is in its call. A record is held by its pointer: `info` was found or
    inserted. -/
inductive Stage where
  | idle
  | missed (call : Call)
  | unlisted (call : Call)
  | hasRoom (call : Call)
  | setting (call : Call) (info : Nat)
  | testing (sta : Mac) (rssi : UInt8) (info : Nat)
  | comparing (sta : Mac) (rssi : UInt8) (info : Nat)
  | rating (sta : Mac) (rssi : UInt8) (info : Nat) (reports : Bool)

/-- What the call goes on with after its own search. -/
def Call.searched : Call → Option Nat → Stage
  | data sta rssi, some info => .testing sta rssi info
  | call, some info => .setting call info
  | assign _ _, none => .idle
  | call, none => .missed call

/-- And after it has set the status. -/
def Call.assigned : Call → Nat → Stage
  | data sta rssi, info => .comparing sta rssi info
  | _, _ => .idle

/-- The list as pointers to records: `next` is the next that `calloc` returns, and no record
    is freed. `last` is the status that was last set on a record of the station. -/
structure State where
  numSta : Nat
  staList : Buckets Nat
  heap : Nat → InfoSTA
  next : Nat
  stage : Thread → Stage
  sent : List ToController
  last : Mac → Option STAStatus

def start (cfg : APConfig) : State :=
  ⟨0,.empty cfg.maxNumSta,fun _ => .create ⟨0,0,0,0,0,0⟩,0,fun _ => .idle,[],fun _ => none⟩

/-- What `changeStatus` assigns, and `changeRSSI`. -/
def setStatus (status : STAStatus) (sta : InfoSTA) : InfoSTA :=
  { sta with
    status := status
    lastReceivedSignalStrength := if status = .notAuthenticated then 0 else sta.lastReceivedSignalStrength }

def setRSSI (rssi : UInt8) (sta : InfoSTA) : InfoSTA := { sta with lastReceivedSignalStrength := rssi }

namespace State

def lookupSenderSTA (s : State) (address : Mac) : Option (Option Nat) :=
  s.staList.find address.o3.toNat (fun info => (s.heap info).address = address)

/-- The status that a search for the station leads to. -/
def status (s : State) (address : Mac) : Option STAStatus :=
  (s.lookupSenderSTA address).join.map (fun info => (s.heap info).status)

def goTo (s : State) (t : Thread) (stage : Stage) : State := { s with stage := Function.update s.stage t stage }

/-- An assignment through a pointer. -/
def write (s : State) (info : Nat) (change : InfoSTA → InfoSTA) : State :=
  { s with heap := Function.update s.heap info (change (s.heap info)) }

def remember (s : State) (last : Mac → Option STAStatus) : State := { s with last := last }

def changeStatus (s : State) (info : Nat) (status : STAStatus) : State :=
  (s.write info (setStatus status)).remember (Function.update s.last (s.heap info).address (some status))

def changeRSSI (s : State) (info : Nat) (rssi : UInt8) : State := s.write info (setRSSI rssi)

/-- The last part of `addSTA`: the record, which no other thread can see before, is
    allocated and inserted. -/
def insert (s : State) (address : Mac) : Option State :=
  (s.staList.push address.o3.toNat s.next).map (fun staList =>
    { s with
      numSta := s.numSta + 1
      staList := staList
      heap := Function.update s.heap s.next (.create address)
      next := s.next + 1 })

end State

/-- A thread begins a call with its search, or takes the next step of its call. -/
inductive Event where
  | call (t : Thread) (call : Call)
  | advance (t : Thread)

def advance (cfg : APConfig) (s : State) (t : Thread) : Option State :=
  match s.stage t with
  | .idle => none
  | .missed call => (s.lookupSenderSTA call.sta).map (fun found =>
      s.goTo t (found.elim (.unlisted call) (.setting call)))
  | .unlisted call => some (s.goTo t (if cfg.maxNumSta ≤ s.numSta then .idle else .hasRoom call))
  | .hasRoom call => (s.insert call.sta).map (fun s' => s'.goTo t (.setting call s.next))
  | .setting call info => some ((s.changeStatus info call.status).goTo t (call.assigned info))
  | .testing sta rssi info => some (s.goTo t
      (if (s.heap info).status = .associated then .rating sta rssi info false else .comparing sta rssi info))
  | .comparing sta rssi info => some (s.goTo t
      (if (s.heap info).lastReceivedSignalStrength < rssi then .rating sta rssi info true else .idle))
  | .rating sta rssi info reports => some
      { (s.changeRSSI info rssi).goTo t .idle with
        sent := if reports then s.sent ++ [.recPow sta cfg.mac rssi] else s.sent }

def isIdle : Stage → Bool
  | .idle => true
  | _ => false

def step (cfg : APConfig) (s : State) : Event → Option State
  | .call t call =>
    if t.makes call && isIdle (s.stage t) then (s.lookupSenderSTA call.sta).map (fun found =>
      s.goTo t (call.searched found)) else none
  | .advance t => advance cfg s t

/-- The list is a map from addresses to records, of the size that is counted and within
    the limit, and a status that was set is the one that is found. -/
structure IsMap (cfg : APConfig) (s : State) : Prop where
  unique : (s.staList.contents.map (fun info => (s.heap info).address)).Nodup
  counted : s.numSta = s.staList.contents.length
  bounded : s.numSta ≤ cfg.maxNumSta
  seen : ∀ sta status, s.last sta = some status → s.status sta = some status

def Event.thread : Event → Thread
  | call t _ => t
  | advance t => t

/-- What an insertion relies on: the station is not listed, and there is room. -/
def Fits (cfg : APConfig) (s : State) : Stage → Prop
  | .hasRoom call => s.lookupSenderSTA call.sta = some none ∧ s.numSta < cfg.maxNumSta
  | _ => True

/-- A record is inserted only where what the thread has found still holds. -/
def Respects (cfg : APConfig) (s : State) (e : Event) : Prop := Fits cfg s (s.stage e.thread)

/-! ### What a step does to the searches -/

theorem address_setStatus (status : STAStatus) (sta : InfoSTA) : (setStatus status sta).address = sta.address := rfl

theorem address_setRSSI (rssi : UInt8) (sta : InfoSTA) : (setRSSI rssi sta).address = sta.address := rfl

namespace State

theorem stage_goTo (s : State) (t t' : Thread) (stage : Stage) :
    (s.goTo t stage).stage t' = if t' = t then stage else s.stage t' := by
  simp only [goTo,Function.update_apply]

theorem stage_goTo_self (s : State) (t : Thread) (stage : Stage) : (s.goTo t stage).stage t = stage := by
  rw [stage_goTo,if_pos rfl]

theorem goTo_goTo (s : State) (t : Thread) (stage stage' : Stage) : (s.goTo t stage).goTo t stage' = s.goTo t stage' := by
  simp only [goTo,Function.update_idem]

theorem insert_goTo (s : State) (t : Thread) (stage : Stage) (sta : Mac) :
    (s.goTo t stage).insert sta = (s.insert sta).map (fun s' => s'.goTo t stage) := by
  simp only [insert,Option.map_map]
  rfl

/-- An assignment that keeps the address. -/
theorem address_write (s : State) (info other : Nat) {change : InfoSTA → InfoSTA}
    (keeps : ∀ sta, (change sta).address = sta.address) :
    ((s.write info change).heap other).address = (s.heap other).address := by
  by_cases here : other = info
  · subst here
    simp [write,keeps]
  · simp [write,here]

theorem lookupSenderSTA_write (s : State) (info : Nat) {change : InfoSTA → InfoSTA}
    (keeps : ∀ sta, (change sta).address = sta.address) (sta : Mac) :
    (s.write info change).lookupSenderSTA sta = s.lookupSenderSTA sta := by
  simp only [lookupSenderSTA,address_write s info _ keeps]
  rfl

theorem address_of_found {s : State} {sta : Mac} {info : Nat} (found : s.lookupSenderSTA sta = some (some info)) :
    (s.heap info).address = sta :=
  Buckets.key_of_get (fun a : Mac => a.o3.toNat) (fun info => (s.heap info).address) found

theorem listed_of_found {s : State} {sta : Mac} {info : Nat} (found : s.lookupSenderSTA sta = some (some info)) :
    info ∈ s.staList.contents :=
  Buckets.mem_contents_of_get (fun a : Mac => a.o3.toNat) (fun info => (s.heap info).address) found

theorem status_of_found {s : State} {sta : Mac} {info : Nat} (found : s.lookupSenderSTA sta = some (some info)) :
    s.status sta = some (s.heap info).status := by
  simp [status,found]

theorem found_of_status {s : State} {sta : Mac} {status : STAStatus} (seen : s.status sta = some status) :
    ∃ info, s.lookupSenderSTA sta = some (some info) ∧ (s.heap info).status = status := by
  obtain ⟨info,joined,same⟩ := Option.map_eq_some_iff.mp seen
  exact ⟨info,Option.join_eq_some_iff.mp joined,same⟩

theorem status_write {s : State} {sta : Mac} {other : Nat} (found : s.lookupSenderSTA sta = some (some other))
    (info : Nat) {change : InfoSTA → InfoSTA} (keeps : ∀ sta, (change sta).address = sta.address) :
    (s.write info change).status sta =
      some (if other = info then (change (s.heap info)).status else (s.heap other).status) := by
  rw [status_of_found ((lookupSenderSTA_write s info keeps sta).trans found)]
  simp only [write,Function.update_apply]
  split <;> rfl

/-- Everything that an insertion does. -/
theorem insert_spec {s s' : State} {sta : Mac} (allocated : ∀ info ∈ s.staList.contents, info < s.next)
    (inserted : s.insert sta = some s') :
    s'.staList.contents.Perm (s.next :: s.staList.contents) ∧ s'.numSta = s.numSta + 1 ∧ s'.next = s.next + 1 ∧
      s'.heap s.next = .create sta ∧ (∀ info ∈ s.staList.contents, s'.heap info = s.heap info) ∧
      (∀ k, s'.lookupSenderSTA k = if k = sta then some (some s.next) else s.lookupSenderSTA k) ∧
      s'.stage = s.stage ∧ s'.last = s.last := by
  obtain ⟨staList,pushed,rfl⟩ := Option.map_eq_some_iff.mp inserted
  have old : ∀ info ∈ s.staList.contents, Function.update s.heap s.next (.create sta) info = s.heap info :=
    fun info member => Function.update_of_ne (Nat.ne_of_lt (allocated info member)) _ _
  have here : Function.update s.heap s.next (.create sta) s.next = .create sta := Function.update_self _ _ _
  refine ⟨Buckets.contents_push pushed,rfl,rfl,here,old,fun k => ?_,rfl,rfl⟩
  have isKey : (Function.update s.heap s.next (.create sta) s.next).address = sta := by rw [here]; rfl
  have unmoved : Buckets.get (fun a : Mac => a.o3.toNat) (fun info => (s.heap info).address) s.staList k =
      Buckets.get (fun a : Mac => a.o3.toNat)
        (fun info => (Function.update s.heap s.next (.create sta) info).address) s.staList k :=
    Buckets.get_congr (fun info member => by rw [old info member]) k
  have pushes := Buckets.get_push (fun a : Mac => a.o3.toNat)
    (fun info => (Function.update s.heap s.next (.create sta) info).address) isKey pushed k
  rw [← unmoved] at pushes
  exact pushes

end State

/-! ### What a step is -/

/-- The record that a thread holds, with the station it holds it for. -/
def Stage.holds : Stage → Option (Mac × Nat)
  | setting call info => some (call.sta,info)
  | testing sta _ info => some (sta,info)
  | comparing sta _ info => some (sta,info)
  | rating sta _ info _ => some (sta,info)
  | _ => none

/-- What `addSTA` has found so far still holds. -/
def UpToDate (cfg : APConfig) (s : State) : Stage → Prop
  | .unlisted call => s.lookupSenderSTA call.sta = some none
  | stage => Fits cfg s stage

/-- The four kinds of steps: the thread goes on in its call, with a record that it holds or
    finds; it inserts a record; it assigns a status; or it assigns a signal strength. -/
inductive Takes (cfg : APConfig) (s : State) (t : Thread) : State → Prop where
  | moves (stage : Stage) (fits : Fits cfg s (s.stage t))
      (holds : ∀ sta info, stage.holds = some (sta,info) →
        s.lookupSenderSTA sta = some (some info) ∨ (s.stage t).holds = some (sta,info))
      (upToDate : UpToDate cfg s (s.stage t) → UpToDate cfg s stage) : Takes cfg s t (s.goTo t stage)
  | inserts {middle : State} (call : Call) (isStage : s.stage t = .hasRoom call)
      (inserted : s.insert call.sta = some middle) : Takes cfg s t (middle.goTo t (.setting call s.next))
  | sets (call : Call) (info : Nat) (isStage : s.stage t = .setting call info) :
      Takes cfg s t ((s.changeStatus info call.status).goTo t (call.assigned info))
  | rates (sta : Mac) (rssi : UInt8) (info : Nat) (reports : Bool) (isStage : s.stage t = .rating sta rssi info reports) :
      Takes cfg s t { (s.changeRSSI info rssi).goTo t .idle with
        sent := if reports then s.sent ++ [.recPow sta cfg.mac rssi] else s.sent }

theorem takes_advance {cfg : APConfig} {s s' : State} {t : Thread} (advanced : advance cfg s t = some s') :
    Takes cfg s t s' := by
  unfold advance at advanced
  cases isStage : s.stage t with
  | idle => simp only [isStage,reduceCtorEq] at advanced
  | missed call =>
    simp only [isStage] at advanced
    obtain ⟨found,searched,rfl⟩ := Option.map_eq_some_iff.mp advanced
    refine .moves _ (by rw [isStage]; trivial) (fun sta info isHeld => .inl ?_) (fun _ => ?_)
    · cases found <;> cases isHeld
      exact searched
    · cases found with
      | none => exact searched
      | some info => trivial
  | unlisted call =>
    simp only [isStage] at advanced
    cases advanced
    refine .moves _ (by rw [isStage]; trivial) (fun sta info isHeld => ?_) (fun unlisted => ?_)
    · split at isHeld <;> cases isHeld
    · rw [isStage] at unlisted
      split
      · trivial
      · exact ⟨unlisted,Nat.lt_of_not_le ‹_›⟩
  | hasRoom call =>
    simp only [isStage] at advanced
    obtain ⟨middle,inserted,rfl⟩ := Option.map_eq_some_iff.mp advanced
    exact .inserts call isStage inserted
  | setting call info =>
    simp only [isStage] at advanced
    cases advanced
    exact .sets call info isStage
  | testing sta rssi info =>
    simp only [isStage] at advanced
    cases advanced
    refine .moves _ (by rw [isStage]; trivial) (fun sta info isHeld => .inr ?_) (fun _ => ?_)
    · rw [isStage]
      split at isHeld <;> exact isHeld
    · split <;> trivial
  | comparing sta rssi info =>
    simp only [isStage] at advanced
    cases advanced
    refine .moves _ (by rw [isStage]; trivial) (fun sta info isHeld => .inr ?_) (fun _ => ?_)
    · rw [isStage]
      split at isHeld
      · exact isHeld
      · cases isHeld
    · split <;> trivial
  | rating sta rssi info reports =>
    simp only [isStage] at advanced
    cases advanced
    exact .rates sta rssi info reports isStage

theorem takes_step {cfg : APConfig} {s s' : State} {e : Event} (stepped : step cfg s e = some s') :
    Takes cfg s e.thread s' := by
  cases e with
  | advance t => exact takes_advance stepped
  | call t call =>
    simp only [step] at stepped
    split at stepped
    · rename_i begins
      obtain ⟨found,searched,rfl⟩ := Option.map_eq_some_iff.mp stepped
      have idle : s.stage t = .idle := by
        cases isStage : s.stage t <;> simp [isStage,isIdle] at begins ⊢
      refine .moves _ (by rw [Event.thread,idle]; trivial) (fun sta info isHeld => .inl ?_) (fun _ => ?_)
      · cases found <;> cases call <;> cases isHeld <;> exact searched
      · cases found <;> cases call <;> trivial
    · cases stepped

/-! ### What holds between the steps -/

/-- The list is a map, a search for the address of a record finds that record, and so does
    one for the station of a thread that holds a record. -/
structure Sound (cfg : APConfig) (s : State) : Prop extends IsMap cfg s where
  allocated : ∀ info ∈ s.staList.contents, info < s.next
  found : ∀ info ∈ s.staList.contents, s.lookupSenderSTA (s.heap info).address = some (some info)
  held : ∀ t sta info, (s.stage t).holds = some (sta,info) → s.lookupSenderSTA sta = some (some info)

theorem sound_start (cfg : APConfig) : Sound cfg (start cfg) where
  unique := by simp [start,Buckets.contents_empty]
  counted := by simp [start,Buckets.contents_empty]
  bounded := Nat.zero_le _
  seen := by intro sta status isLast; cases isLast
  allocated := by simp [start,Buckets.contents_empty]
  found := by simp [start,Buckets.contents_empty]
  held := by intro t sta info holds; cases holds

section
variable {cfg : APConfig} {s s' : State}

theorem Sound.goTo (sound : Sound cfg s) (t : Thread) (stage : Stage)
    (held : ∀ sta info, stage.holds = some (sta,info) → s.lookupSenderSTA sta = some (some info)) :
    Sound cfg (s.goTo t stage) where
  toIsMap := ⟨sound.unique,sound.counted,sound.bounded,sound.seen⟩
  allocated := sound.allocated
  found := sound.found
  held := by
    intro t' sta info holds
    rw [State.stage_goTo] at holds
    split at holds
    · exact held sta info holds
    · exact sound.held t' sta info holds

/-- An assignment keeps all but what is seen of the status. -/
theorem Sound.write (sound : Sound cfg s) (info : Nat) (change : InfoSTA → InfoSTA)
    (keeps : ∀ sta, (change sta).address = sta.address) (last : Mac → Option STAStatus)
    (seen : ∀ sta status, last sta = some status → (s.write info change).status sta = some status) :
    Sound cfg ((s.write info change).remember last) where
  unique := by
    have same : (s.staList.contents.map (fun other => ((s.write info change).heap other).address)).Nodup := by
      simpa only [State.address_write s info _ keeps] using sound.unique
    exact same
  counted := sound.counted
  bounded := sound.bounded
  seen := seen
  allocated := sound.allocated
  found := by
    intro other member
    have same := sound.found other member
    rw [← State.address_write s info other keeps,← State.lookupSenderSTA_write s info keeps] at same
    exact same
  held := by
    intro t sta other holds
    exact (State.lookupSenderSTA_write s info keeps sta).trans (sound.held t sta other holds)

/-- The record that is found has the status that was set. -/
theorem Sound.changeStatus (sound : Sound cfg s) {sta : Mac} {info : Nat}
    (found : s.lookupSenderSTA sta = some (some info)) (status : STAStatus) :
    Sound cfg (s.changeStatus info status) := by
  refine sound.write info _ (address_setStatus status) _ (fun k status' isLast => ?_)
  have address := State.address_of_found found
  by_cases same : k = sta
  · subst same
    rw [address,Function.update_self] at isLast
    rw [State.status_write found info (address_setStatus status),if_pos rfl,← isLast]
    rfl
  · rw [address,Function.update_of_ne same] at isLast
    obtain ⟨other,isOther,isStatus⟩ := State.found_of_status (sound.seen k status' isLast)
    have apart : other ≠ info := by
      rintro rfl
      exact same ((State.address_of_found isOther).symm.trans address)
    rw [State.status_write isOther info (address_setStatus status),if_neg apart,isStatus]

theorem Sound.changeRSSI (sound : Sound cfg s) (info : Nat) (rssi : UInt8) : Sound cfg (s.changeRSSI info rssi) := by
  refine sound.write info _ (address_setRSSI rssi) s.last (fun k status isLast => ?_)
  obtain ⟨other,isOther,isStatus⟩ := State.found_of_status (sound.seen k status isLast)
  rw [State.status_write isOther info (address_setRSSI rssi),← isStatus]
  by_cases same : other = info
  · rw [if_pos same,same]
    rfl
  · rw [if_neg same]

/-- The addresses after an insertion. -/
theorem addresses_insert {sta : Mac} (allocated : ∀ info ∈ s.staList.contents, info < s.next)
    (inserted : s.insert sta = some s') :
    (s'.staList.contents.map (fun info => (s'.heap info).address)).Perm
      (sta :: s.staList.contents.map (fun info => (s.heap info).address)) := by
  obtain ⟨contents,_,_,here,old,_⟩ := State.insert_spec allocated inserted
  have same : s.staList.contents.map (fun info => (s'.heap info).address) =
      s.staList.contents.map (fun info => (s.heap info).address) :=
    List.map_congr_left (fun info member => by rw [old info member])
  have mapped := contents.map (fun info => (s'.heap info).address)
  rw [List.map_cons,here,same] at mapped
  exact mapped

theorem Sound.insert (sound : Sound cfg s) {sta : Mac} (unlisted : s.lookupSenderSTA sta = some none)
    (room : s.numSta < cfg.maxNumSta) (inserted : s.insert sta = some s') :
    Sound cfg s' ∧ s'.lookupSenderSTA sta = some (some s.next) := by
  obtain ⟨contents,count,next,here,old,searches,stage,last⟩ := State.insert_spec sound.allocated inserted
  -- whoever was found before is someone else, and is found where it was
  have others : ∀ {k info}, s.lookupSenderSTA k = some (some info) → s'.lookupSenderSTA k = some (some info) := by
    intro k info found
    have other : k ≠ sta := by
      rintro rfl
      rw [unlisted] at found
      cases found
    rw [searches,if_neg other,found]
  have members : ∀ {info}, info ∈ s'.staList.contents ↔ info = s.next ∨ info ∈ s.staList.contents := by
    intro info
    rw [contents.mem_iff,List.mem_cons]
  have found : s'.lookupSenderSTA sta = some (some s.next) := by rw [searches,if_pos rfl]
  refine ⟨{ unique := ?_, counted := ?_, bounded := ?_, seen := ?_, allocated := ?_, found := ?_, held := ?_ },found⟩
  · refine (addresses_insert sound.allocated inserted).nodup_iff.mpr (List.nodup_cons.mpr ⟨?_,sound.unique⟩)
    rintro listed
    obtain ⟨info,member,rfl⟩ := List.mem_map.mp listed
    rw [sound.found info member] at unlisted
    cases unlisted
  · rw [count,contents.length_eq,List.length_cons,sound.counted]
  · rw [count]
    exact room
  · intro k status isLast
    rw [last] at isLast
    obtain ⟨info,isInfo,isStatus⟩ := State.found_of_status (sound.seen k status isLast)
    rw [State.status_of_found (others isInfo),old info (State.listed_of_found isInfo),isStatus]
  · intro info member
    rw [next]
    rcases members.mp member with rfl | member
    · exact Nat.lt_succ_self _
    · exact Nat.lt_succ_of_lt (sound.allocated info member)
  · intro info member
    rcases members.mp member with rfl | member
    · rw [here]
      exact found
    · rw [old info member]
      exact others (sound.found info member)
  · intro t k info holds
    rw [stage] at holds
    exact others (sound.held t k info holds)

/-- An insertion that leaves the list a map found its station unlisted, and room. -/
theorem Sound.respected (sound : Sound cfg s) {sta : Mac} (inserted : s.insert sta = some s') (isMap : IsMap cfg s') :
    s.lookupSenderSTA sta = some none ∧ s.numSta < cfg.maxNumSta := by
  obtain ⟨_,count,_⟩ := State.insert_spec sound.allocated inserted
  refine ⟨?_,by have := isMap.bounded; omega⟩
  cases searched : s.lookupSenderSTA sta with
  | none =>
    obtain ⟨staList,pushed,_⟩ := Option.map_eq_some_iff.mp inserted
    obtain ⟨chain,at_sta,_⟩ := Option.map_eq_some_iff.mp pushed
    simp [State.lookupSenderSTA,Buckets.find,at_sta] at searched
  | some found =>
    cases found with
    | none => rfl
    | some info =>
      have fresh := (List.nodup_cons.mp ((addresses_insert sound.allocated inserted).nodup_iff.mp isMap.unique)).1
      refine absurd (List.mem_map.mpr ⟨info,State.listed_of_found searched,?_⟩) fresh
      exact State.address_of_found searched

/-- A step that inserts no record keeps everything; one that does keeps it where what its
    thread has found still holds, and only there. -/
theorem Sound.step_iff (sound : Sound cfg s) {e : Event} (stepped : step cfg s e = some s') :
    (IsMap cfg s' ↔ Respects cfg s e) ∧ (Respects cfg s e → Sound cfg s') := by
  have kept : Sound cfg s' → Respects cfg s e → (IsMap cfg s' ↔ Respects cfg s e) ∧ (Respects cfg s e → Sound cfg s') :=
    fun sound' respects => ⟨⟨fun _ => respects,fun _ => sound'.toIsMap⟩,fun _ => sound'⟩
  cases takes_step stepped with
  | moves stage fits holds =>
    refine kept (sound.goTo _ stage (fun sta info isHeld => ?_)) fits
    rcases holds sta info isHeld with searched | before
    · exact searched
    · exact sound.held _ sta info before
  | @inserts middle call isStage inserted =>
    rw [Respects,isStage]
    have keeps : Fits cfg s (.hasRoom call) → Sound cfg (middle.goTo e.thread (.setting call s.next)) := by
      rintro ⟨unlisted,room⟩
      obtain ⟨sound',found⟩ := sound.insert unlisted room inserted
      refine sound'.goTo _ _ (fun sta info isHeld => ?_)
      cases isHeld
      exact found
    exact ⟨⟨fun isMap => sound.respected inserted ⟨isMap.unique,isMap.counted,isMap.bounded,isMap.seen⟩,
      fun fits => (keeps fits).toIsMap⟩,keeps⟩
  | sets call info isStage =>
    have found := sound.held _ call.sta info (by rw [isStage]; rfl)
    refine kept ((sound.changeStatus found call.status).goTo _ _ (fun sta info isHeld => ?_)) (by rw [Respects,isStage]; trivial)
    cases call <;> cases isHeld
    exact (State.lookupSenderSTA_write s info (address_setStatus _) sta).trans found
  | rates sta rssi info reports isStage =>
    have after := (sound.changeRSSI info rssi).goTo e.thread .idle (fun _ _ isHeld => by cases isHeld)
    exact kept ⟨⟨after.unique,after.counted,after.bounded,after.seen⟩,after.allocated,after.found,after.held⟩
      (by rw [Respects,isStage]; trivial)

end

/-- Whatever else goes wrong, the stations are counted under the lock. -/
theorem numSta_run {cfg : APConfig} {final : State} {events : List Event}
    (ran : Run.run (step cfg) (start cfg) events = some final) : final.numSta = final.staList.contents.length := by
  have initially : (start cfg).numSta = (start cfg).staList.contents.length := by
    simp only [start,Buckets.contents_empty,List.length_nil]
  have kept : ∀ s e next, s.numSta = s.staList.contents.length → step cfg s e = some next →
      next.numSta = next.staList.contents.length := by
    intro s e next counted stepped
    cases takes_step stepped with
    | inserts call isStage inserted =>
      obtain ⟨staList,pushed,rfl⟩ := Option.map_eq_some_iff.mp inserted
      have grown := (Buckets.contents_push pushed).length_eq
      rw [List.length_cons,← counted] at grown
      exact grown.symm
    | _ => exact counted
  exact @Run.run_invariant _ _ (step cfg) (fun s => s.numSta = s.staList.contents.length) kept _ _ _ initially ran

/-! ### Insertions one at a time -/

/-- Between its search and its insertion, `addSTA` is not interrupted by another thread. -/
def Serial (s : State) (e : Event) : Prop :=
  ∀ t, t ≠ e.thread → ∀ call, s.stage t ≠ .unlisted call ∧ s.stage t ≠ .hasRoom call

section
variable {cfg : APConfig} {s s' : State}

theorem State.stage_insert {sta : Mac} (inserted : s.insert sta = some s') : s'.stage = s.stage := by
  obtain ⟨_,_,rfl⟩ := Option.map_eq_some_iff.mp inserted
  rfl

theorem Takes.stage_other {t t' : Thread} (takes : Takes cfg s t s') (other : t' ≠ t) : s'.stage t' = s.stage t' := by
  cases takes with
  | inserts call isStage inserted => rw [State.stage_goTo,if_neg other,State.stage_insert inserted]
  | _ => exact (State.stage_goTo _ t t' _).trans (if_neg other)

theorem Takes.upToDate {t : Thread} (takes : Takes cfg s t s') (current : UpToDate cfg s (s.stage t)) :
    UpToDate cfg s' (s'.stage t) := by
  cases takes with
  | moves stage fits holds upToDate =>
    rw [State.stage_goTo,if_pos rfl]
    have here := upToDate current
    cases stage <;> exact here
  | inserts call isStage inserted =>
    rw [State.stage_goTo,if_pos rfl]
    trivial
  | sets call info isStage =>
    rw [State.stage_goTo,if_pos rfl]
    cases call <;> trivial
  | rates sta rssi info reports isStage =>
    simp only [State.stage_goTo,if_true]
    trivial

/-- Every thread finds what it relies on. -/
def Current (cfg : APConfig) (s : State) : Prop := ∀ t, UpToDate cfg s (s.stage t)

theorem Current.step {e : Event} (current : Current cfg s) (serial : Serial s e) (stepped : step cfg s e = some s') :
    Current cfg s' := by
  intro t
  by_cases same : t = e.thread
  · exact same ▸ (takes_step stepped).upToDate (current e.thread)
  · rw [(takes_step stepped).stage_other same]
    cases isStage : s.stage t with
    | unlisted call => exact absurd isStage (serial t same call).1
    | hasRoom call => exact absurd isStage (serial t same call).2
    | _ => trivial

theorem Current.respects (current : Current cfg s) (e : Event) : Respects cfg s e := by
  have here := current e.thread
  unfold Respects
  cases isStage : s.stage e.thread with
  | hasRoom call => exact (isStage ▸ here : UpToDate cfg s (.hasRoom call))
  | _ => trivial

/-- Holding the lock over the three steps of `addSTA` would keep the list a map. -/
theorem respects_of_serial {events : List Event} (serial : Run.Steps (step cfg) Serial (start cfg) events) :
    Run.Steps (step cfg) (Respects cfg) (start cfg) events := by
  have initially : Current cfg (start cfg) := fun _ => trivial
  exact Run.steps_imp (fun _ _ _ current serial stepped => current.step serial stepped)
    (fun _ e current _ => current.respects e) initially serial

end

/-! ### Calls one after the other

A call whose steps follow on each other is the handler of the access point that runs as
one step. -/

/-- The access point with the list. -/
def State.view (s : State) (ap : AccessPoint) : AccessPoint :=
  { ap with numSta := s.numSta, staList := s.staList.map s.heap }

/-- One thread takes steps and no other. -/
def Runs (cfg : APConfig) (t : Thread) (s s' : State) : Prop :=
  ∃ events, (∀ e ∈ events, e.thread = t) ∧ Run.run (step cfg) s events = some s'

theorem Runs.trans {cfg : APConfig} {t : Thread} {s middle s' : State} (one : Runs cfg t s middle)
    (two : Runs cfg t middle s') : Runs cfg t s s' := by
  obtain ⟨first,alone,ran⟩ := one
  obtain ⟨second,alone',ran'⟩ := two
  refine ⟨first ++ second,fun e member => ?_,(Run.run_append s s' first second).mpr ⟨middle,ran,ran'⟩⟩
  rcases List.mem_append.mp member with early | late
  · exact alone e early
  · exact alone' e late

theorem Runs.advance {cfg : APConfig} {t : Thread} {s s' : State} (advanced : advance cfg s t = some s') :
    Runs cfg t s s' :=
  ⟨[.advance t],by simp [Event.thread],(Run.run_cons s s' _ []).mpr ⟨s',advanced,rfl⟩⟩

theorem Runs.call {cfg : APConfig} {t : Thread} {s : State} {call : Call} {found : Option Nat} (makes : t.makes call = true)
    (idle : s.stage t = .idle) (searched : s.lookupSenderSTA call.sta = some found) :
    Runs cfg t s (s.goTo t (call.searched found)) := by
  have begun : step cfg s (.call t call) = some (s.goTo t (call.searched found)) := by
    simp only [step,makes,idle,isIdle,Bool.and_self,if_true,searched,Option.map_some]
  exact ⟨[.call t call],by simp [Event.thread],(Run.run_cons s _ _ []).mpr ⟨_,begun,rfl⟩⟩

/-- The thread sets the status on the record that it holds. -/
theorem Runs.setting {cfg : APConfig} {t : Thread} {s : State} {call : Call} {info : Nat}
    (isStage : s.stage t = .setting call info) :
    Runs cfg t s ((s.changeStatus info call.status).goTo t (call.assigned info)) :=
  .advance (by rw [StationList.advance,isStage])

section
variable {cfg : APConfig} {s s' : State} (ap : AccessPoint)

theorem view_lookupSenderSTA (sta : Mac) :
    (s.view ap).lookupSenderSTA sta = (s.lookupSenderSTA sta).map (Option.map s.heap) :=
  Buckets.find_map s.heap s.staList sta.o3.toNat _

theorem view_changeSTA (sound : Sound cfg s) {sta : Mac} {info : Nat} (found : s.lookupSenderSTA sta = some (some info))
    (change : InfoSTA → InfoSTA) : (s.view ap).changeSTA sta change = some ((s.write info change).view ap) := by
  have updated : (s.staList.map s.heap).update sta.o3.toNat (fun record => record.address = sta) change =
      some (s.staList.map (Function.update s.heap info (change (s.heap info)))) := by
    refine Buckets.update_map (List.Nodup.of_map _ sound.unique) ?_ change
    exact found
  have searched : (s.view ap).lookupSenderSTA sta = some (some (s.heap info)) := by
    rw [view_lookupSenderSTA,found]
    rfl
  simp only [AccessPoint.changeSTA,searched,Option.join_some,Option.bind_some]
  exact congrArg (Option.map _) updated

theorem view_changeStatus (sound : Sound cfg s) {sta : Mac} {info : Nat}
    (found : s.lookupSenderSTA sta = some (some info)) (status : STAStatus) :
    (s.view ap).changeStatus sta status = some ((s.changeStatus info status).view ap) :=
  view_changeSTA ap sound found (setStatus status)

theorem view_changeRSSI (sound : Sound cfg s) {sta : Mac} {info : Nat}
    (found : s.lookupSenderSTA sta = some (some info)) (rssi : UInt8) :
    (s.view ap).changeRSSI sta rssi = some ((s.changeRSSI info rssi).view ap) :=
  view_changeSTA ap sound found (setRSSI rssi)

theorem view_insert (sound : Sound cfg s) (sta : Mac) :
    ((s.view ap).staList.push sta.o3.toNat (.create sta)).map (fun staList =>
        { s.view ap with numSta := s.numSta + 1, staList := staList }) =
      (s.insert sta).map (fun s' => s'.view ap) := by
  have old : s.staList.map s.heap = s.staList.map (Function.update s.heap s.next (.create sta)) :=
    Buckets.map_congr (fun info member => (Function.update_of_ne (Nat.ne_of_lt (sound.allocated info member)) _ _).symm)
  have pushed := Buckets.push_map (Function.update s.heap s.next (.create sta)) s.staList sta.o3.toNat s.next
  rw [Function.update_self,← old] at pushed
  have viewed : (s.view ap).staList = s.staList.map s.heap := rfl
  rw [viewed,pushed,State.insert,Option.map_map,Option.map_map]
  rfl

theorem view_addSTA (sound : Sound cfg s) (sta : Mac) :
    (s.view ap).addSTA cfg sta = (s.lookupSenderSTA sta).bind (fun found =>
      if found.isSome then some (s.view ap,true)
      else if cfg.maxNumSta ≤ s.numSta then some (s.view ap,false)
      else (s.insert sta).map (fun s' => (s'.view ap,true))) := by
  have inserted := congrArg (Option.map (fun ap => (ap,true))) (view_insert ap sound sta)
  rw [Option.map_map,Option.map_map] at inserted
  rw [AccessPoint.addSTA,view_lookupSenderSTA]
  cases s.lookupSenderSTA sta with
  | none => rfl
  | some found =>
    cases found with
    | some info => rfl
    | none => exact congrArg (ite (cfg.maxNumSta ≤ s.numSta) (some (s.view ap,false))) inserted

/-- `addSTA` in a row, for a station that is not listed. -/
theorem runs_missed (sound : Sound cfg s) {t : Thread} {call : Call} (isStage : s.stage t = .missed call)
    (unlisted : s.lookupSenderSTA call.sta = some none) {ap' : AccessPoint} {listed : Bool}
    (added : (s.view ap).addSTA cfg call.sta = some (ap',listed)) :
    ∃ s', Runs cfg t s s' ∧ Sound cfg s' ∧ s'.view ap = ap' ∧ s'.sent = s.sent ∧
      if listed then ∃ info, s'.stage t = .setting call info ∧ s'.lookupSenderSTA call.sta = some (some info)
      else s'.stage t = .idle := by
  have searched : advance cfg s t = some (s.goTo t (.unlisted call)) := by
    simp only [advance,isStage,unlisted,Option.map_some,Option.elim_none]
  have checked : advance cfg (s.goTo t (.unlisted call)) t =
      some (s.goTo t (if cfg.maxNumSta ≤ s.numSta then .idle else .hasRoom call)) := by
    simp only [advance,State.stage_goTo_self,State.goTo_goTo]
    rfl
  have tried := (Runs.advance searched).trans (.advance checked)
  simp only [view_addSTA ap sound,unlisted,Option.bind_some,Option.isSome_none,Bool.false_eq_true,if_false] at added
  by_cases full : cfg.maxNumSta ≤ s.numSta
  · rw [if_pos full] at added tried
    cases added
    refine ⟨_,tried,sound.goTo t .idle (fun _ _ isHeld => by cases isHeld),rfl,rfl,?_⟩
    exact State.stage_goTo_self s t .idle
  · rw [if_neg full] at added tried
    obtain ⟨middle,inserted,same⟩ := Option.map_eq_some_iff.mp added
    cases same
    obtain ⟨sound',found⟩ := sound.insert unlisted (Nat.lt_of_not_le full) inserted
    have inserts : advance cfg (s.goTo t (.hasRoom call)) t = some (middle.goTo t (.setting call s.next)) := by
      simp only [advance,State.stage_goTo_self,State.insert_goTo,inserted,Option.map_some,State.goTo_goTo]
      rfl
    refine ⟨_,tried.trans (.advance inserts),sound'.goTo t _ (fun _ _ isHeld => ?_),rfl,?_,s.next,?_,found⟩
    · cases isHeld
      exact found
    · obtain ⟨_,_,rfl⟩ := Option.map_eq_some_iff.mp inserted
      rfl
    · exact State.stage_goTo_self _ t _

/-- `WLAN_ADD_STA` in a row is the handler of the access point. -/
theorem runs_add (sound : Sound cfg s) (idle : s.stage .controller = .idle) {sta : Mac} {ap' : AccessPoint}
    {msgs : List ToController} (done : (s.view ap).handleVendor cfg (.addSTA sta) = some (ap',msgs)) :
    ∃ s', Runs cfg .controller s s' ∧ s'.stage .controller = .idle ∧ s'.view ap = ap' ∧ s'.sent = s.sent ++ msgs := by
  obtain ⟨⟨middle,listed⟩,added,rest⟩ := Option.bind_eq_some_iff.mp done
  dsimp only at rest
  cases searched : s.lookupSenderSTA sta with
  | none => simp [view_addSTA ap sound,searched] at added
  | some found =>
    have begun : Runs cfg .controller s (s.goTo .controller ((Call.add sta).searched found)) := .call rfl idle searched
    cases found with
    | some info =>
      simp only [view_addSTA ap sound,searched,Option.bind_some,Option.isSome_some,if_true] at added
      cases added
      rw [if_pos rfl,view_changeStatus ap sound searched] at rest
      cases rest
      exact ⟨_,begun.trans (.setting (State.stage_goTo_self _ _ _)),State.stage_goTo_self _ _ _,rfl,
        (List.append_nil _).symm⟩
    | none =>
      have sound' := sound.goTo .controller (.missed (.add sta)) (fun _ _ isHeld => by cases isHeld)
      obtain ⟨s₁,ran,sound₁,isView,isSent,after⟩ := runs_missed ap sound' (State.stage_goTo_self _ _ _) searched added
      cases listed with
      | false =>
        cases rest
        exact ⟨s₁,begun.trans ran,after,isView,isSent.trans (List.append_nil _).symm⟩
      | true =>
        obtain ⟨info,isStage,found⟩ := after
        rw [if_pos rfl,← isView,view_changeStatus ap sound₁ (show s₁.lookupSenderSTA sta = _ from found)] at rest
        cases rest
        exact ⟨_,(begun.trans ran).trans (.setting isStage),State.stage_goTo_self _ _ _,rfl,
          isSent.trans (List.append_nil _).symm⟩

/-- The last part of `process_sta_data`, from the comparison on. -/
theorem runs_comparing (sound : Sound cfg s) {t : Thread} {sta : Mac} {rssi : UInt8} {info : Nat}
    (isStage : s.stage t = .comparing sta rssi info) (found : s.lookupSenderSTA sta = some (some info))
    {ap' : AccessPoint} {msgs : List ToController}
    (done : ((s.view ap).lookupSenderSTA sta).join.bind (fun info =>
      if info.lastReceivedSignalStrength < rssi then
        ((s.view ap).changeRSSI sta rssi).map (·,[.recPow sta cfg.mac rssi])
      else some (s.view ap,[])) = some (ap',msgs)) :
    ∃ s', Runs cfg t s s' ∧ s'.stage t = .idle ∧ s'.view ap = ap' ∧ s'.sent = s.sent ++ msgs := by
  simp only [view_lookupSenderSTA,found,Option.map_some,Option.join_some,Option.bind_some,
    view_changeRSSI ap sound found] at done
  by_cases stronger : (s.heap info).lastReceivedSignalStrength < rssi
  · rw [if_pos stronger] at done
    cases done
    have compared : advance cfg s t = some (s.goTo t (.rating sta rssi info true)) := by
      simp only [advance,isStage,stronger,if_true]
    have rated : advance cfg (s.goTo t (.rating sta rssi info true)) t = some
        { ((s.goTo t (.rating sta rssi info true)).changeRSSI info rssi).goTo t .idle with
          sent := s.sent ++ [.recPow sta cfg.mac rssi] } := by
      rw [advance,State.stage_goTo_self]
      rfl
    exact ⟨_,.trans (.advance compared) (.advance rated),State.stage_goTo_self _ t .idle,rfl,rfl⟩
  · rw [if_neg stronger] at done
    cases done
    have compared : advance cfg s t = some (s.goTo t .idle) := by
      simp only [advance,isStage,stronger,if_false]
    exact ⟨_,.advance compared,State.stage_goTo_self s t .idle,rfl,(List.append_nil _).symm⟩

/-- `process_sta_data` in a row is the handler of the access point. -/
theorem runs_data (sound : Sound cfg s) {i : Nat} (idle : s.stage (.data i) = .idle) {sta : Mac} {rssi : UInt8}
    {ap' : AccessPoint} {msgs : List ToController}
    (done : (s.view ap).processStaData cfg sta rssi = some (ap',msgs)) :
    ∃ s', Runs cfg (.data i) s s' ∧ s'.stage (.data i) = .idle ∧ s'.view ap = ap' ∧ s'.sent = s.sent ++ msgs := by
  obtain ⟨record,viewed,rest⟩ := Option.bind_eq_some_iff.mp done
  rw [view_lookupSenderSTA] at viewed
  obtain ⟨found,searched,rfl⟩ := Option.map_eq_some_iff.mp viewed
  have begun : Runs cfg (.data i) s (s.goTo (.data i) ((Call.data sta rssi).searched found)) := .call rfl idle searched
  cases found with
  | some info =>
    have tested : advance cfg (s.goTo (.data i) (.testing sta rssi info)) (.data i) = some (s.goTo (.data i)
        (if (s.heap info).status = .associated then .rating sta rssi info false else .comparing sta rssi info)) := by
      simp only [advance,State.stage_goTo_self,State.goTo_goTo]
      rfl
    have early := begun.trans (.advance tested)
    by_cases associated : (s.heap info).status = .associated
    · simp only [Option.map_some,Option.any_some,associated,decide_true,if_true,view_changeRSSI ap sound searched] at rest
      cases rest
      rw [if_pos associated] at early
      have rated : advance cfg (s.goTo (.data i) (.rating sta rssi info false)) (.data i) = some
          { ((s.goTo (.data i) (.rating sta rssi info false)).changeRSSI info rssi).goTo (.data i) .idle with
            sent := s.sent } := by
        rw [advance,State.stage_goTo_self]
        rfl
      exact ⟨_,early.trans (.advance rated),State.stage_goTo_self _ _ .idle,rfl,(List.append_nil _).symm⟩
    · simp only [Option.map_some,Option.any_some,associated,decide_false,Bool.false_eq_true,if_false,Option.isSome_some,
        if_true,Option.bind_some] at rest
      rw [if_neg associated] at early
      have sound' := sound.goTo (.data i) (.comparing sta rssi info) (fun _ _ isHeld => by cases isHeld; exact searched)
      obtain ⟨s',ran,isIdle,isView,isSent⟩ := runs_comparing ap sound' (State.stage_goTo_self _ _ _) searched rest
      exact ⟨s',early.trans ran,isIdle,isView,isSent⟩
  | none =>
    have sound' := sound.goTo (.data i) (.missed (.data sta rssi)) (fun _ _ isHeld => by cases isHeld)
    simp only [Option.map_none,Option.any_none,Bool.false_eq_true,if_false,Option.isSome_none] at rest
    obtain ⟨⟨middle,listed⟩,joined,rest⟩ := Option.bind_eq_some_iff.mp rest
    obtain ⟨⟨middle',added⟩,isAdded,joined⟩ := Option.bind_eq_some_iff.mp joined
    obtain ⟨s₁,ran,sound₁,isView,isSent,after⟩ := runs_missed ap sound' (State.stage_goTo_self _ _ _) searched isAdded
    cases added with
    | false =>
      cases joined
      cases rest
      exact ⟨s₁,begun.trans ran,after,isView,isSent.trans (List.append_nil _).symm⟩
    | true =>
      obtain ⟨info,isStage,found⟩ := after
      dsimp only at joined
      rw [if_pos rfl,← isView,view_changeStatus ap sound₁ (show s₁.lookupSenderSTA sta = _ from found)] at joined
      cases joined
      have found' : (s₁.changeStatus info .notAuthenticated).lookupSenderSTA sta = some (some info) :=
        (State.lookupSenderSTA_write s₁ info (address_setStatus _) sta).trans found
      have sound₂ := (sound₁.changeStatus found .notAuthenticated).goTo (.data i) (.comparing sta rssi info)
        (fun _ _ isHeld => by cases isHeld; exact found')
      obtain ⟨s',ran',isIdle,isView',isSent'⟩ := runs_comparing ap sound₂ (State.stage_goTo_self _ _ _) found' rest
      exact ⟨s',((begun.trans ran).trans (.setting isStage)).trans ran',isIdle,isView',
        isSent'.trans (congrArg (· ++ msgs) isSent)⟩

end

/-! ### The station list as a map -/

/-- However the threads take turns, the list is a map of the size that is counted and
    within the limit, in which every status that was set is found, if and only if each
    insertion comes while its station is still not listed and there still is room. -/
theorem staList_isMap_iff {cfg : APConfig} {final : State} {events : List Event}
    (ran : Run.run (step cfg) (start cfg) events = some final) :
    Run.Always (step cfg) (IsMap cfg) (start cfg) events ↔ Run.Steps (step cfg) (Respects cfg) (start cfg) events :=
  Run.always_iff_steps_of (fun _ sound => sound.toIsMap) (fun _ _ _ sound stepped => sound.step_iff stepped)
    (sound_start cfg) ran

instance (cfg : APConfig) (s : State) (stage : Stage) : Decidable (Fits cfg s stage) := by
  unfold Fits
  split <;> infer_instance

instance (cfg : APConfig) (s : State) (e : Event) : Decidable (Respects cfg s e) :=
  inferInstanceAs (Decidable (Fits cfg s (s.stage e.thread)))

def site : APConfig := ⟨⟨2,0,0,0,0,1⟩,⟨10,0,0,1⟩,⟨192,168,1,0⟩,255⟩

/-- An access point for one station. -/
def booth : APConfig := ⟨⟨2,0,0,0,0,1⟩,⟨10,0,0,1⟩,⟨192,168,1,0⟩,1⟩

def guest : Mac := ⟨2,0,0,7,0,9⟩

/-- A station is heard and then admitted. -/
def heardFirst : List Event :=
  [.call (.data 0) (.data guest 40),.advance (.data 0),.advance (.data 0),.advance (.data 0),.advance (.data 0),
    .advance (.data 0),.advance (.data 0),.call .controller (.add guest),.advance .controller]

/-- It is heard while it is admitted, and neither thread finds it listed. -/
def heardMeanwhile : List Event :=
  [.call (.data 0) (.data guest 40),.call .controller (.add guest),.advance (.data 0),.advance .controller,
    .advance (.data 0),.advance .controller,.advance .controller,.advance (.data 0),.advance (.data 0),
    .advance .controller]

/-- Two stations are heard at once, and both threads find room for one. -/
def heardTogether : List Event :=
  [.call (.data 0) (.data ⟨2,0,0,0,0,7⟩ 40),.call (.data 1) (.data ⟨2,0,0,0,0,8⟩ 40),.advance (.data 0),.advance (.data 1),
    .advance (.data 0),.advance (.data 1),.advance (.data 0),.advance (.data 1)]

theorem heardFirst_isMap : ∃ final, Run.run (step site) (start site) heardFirst = some final ∧
    final.status guest = some .selected ∧ Run.Always (step site) (IsMap site) (start site) heardFirst := by
  obtain ⟨final,ran,isSelected⟩ : ∃ final, Run.run (step site) (start site) heardFirst = some final ∧
    final.status guest = some .selected := Run.exists_run (by decide +kernel)
  exact ⟨final,ran,isSelected,(staList_isMap_iff ran).mpr
    (Run.steps_of_check (fun _ _ => of_decide_eq_true) (by decide +kernel))⟩

/-- The list has the station twice, and the status that was set last is not the one that is
    found; and it has more stations than it may have. -/
theorem guest_listed_twice :
    (∃ final, Run.run (step site) (start site) heardMeanwhile = some final ∧
      final.staList.contents.map (fun info => (final.heap info).address) = [guest,guest] ∧
      final.last guest = some .selected ∧ final.status guest = some .notAuthenticated) ∧
    ∃ final, Run.run (step booth) (start booth) heardTogether = some final ∧ booth.maxNumSta < final.numSta :=
  ⟨Run.exists_run (by decide +kernel),Run.exists_run (by decide +kernel)⟩

end Handover.StationList
