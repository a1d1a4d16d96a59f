import Handover.AccessPointSpec
import Handover.Run

/-!
The event thread of `hostapd` beside the thread that serves the controller. The lock is
held for one read or one write of the station list, so a handler of frames tests the
status of a station in one step and sets it in a later one, and a message of the
controller takes a step for each of its own accesses. A removal that comes between the
two steps of a handler is written over; that is the only way in which a station that was
removed is authenticated or associated again without being admitted.
-/
namespace Handover.Removal
open AccessPoint (Radio)

/-! ### The handlers of the event thread -/

/-- What a handler does with the station: the status it asks for and the one it sets, the
    thread it starts then, whether it starts a timer as well, and whether it tests the
    status a second time. -/
structure Job where
  sta : Mac
  guard : STAStatus
  target : STAStatus
  thread : Sender
  timer : Bool
  twice : Bool

/-- The handlers of frames and of the timer; those of probes and of data ask for no
    status in this thread. -/
def job (cfg : APConfig) (ap : AccessPoint) : Radio → Option Job
  | .auth sta authAlg => some ⟨sta,.selected,.authenticated,.message (.authReq sta cfg.mac authAlg),false,false⟩
  | .assoc sta association => some ⟨sta,.authenticated,.associated,.message (.assocReq sta cfg.mac association),false,false⟩
  | .reassoc sta association => some ⟨sta,.authenticated,.associated,.reassoc sta association,false,false⟩
  | .disassoc sta timer => some ⟨sta,.associated,.authenticated,.message (.disassocReq sta cfg.mac),timer,true⟩
  | .deauth sta => some ⟨sta,.associated,.notAuthenticated,.message (.deauthReq sta cfg.mac),false,false⟩
  | .timeout i => ap.timers[i]?.map (fun sta =>
      ⟨sta,.authenticated,.notAuthenticated,.message (.deauthReq sta cfg.mac),false,false⟩)
  | .probe _ | .data _ _ => none

/-- A timer that has fired is gone. -/
def fired (ap : AccessPoint) : Radio → AccessPoint
  | .timeout i => { ap with timers := ap.timers.eraseIdx i }
  | _ => ap

/-- The timer that `handle_disassoc` starts whatever its second test says. -/
def Job.schedule (job : Job) (ap : AccessPoint) : AccessPoint :=
  { ap with timers := if job.timer then ap.timers ++ [job.sta] else ap.timers }

/-- The second step of a handler: `changeStatus` and what follows it. -/
def Job.finish (job : Job) (ap : AccessPoint) : Option AccessPoint :=
  (ap.changeStatus job.sta job.target).map (fun ap => job.schedule (ap.spawn job.thread))

/-- Where the event thread is: a handler has tested the status, or has done so twice. -/
inductive Handling where
  | idle
  | tested (job : Job)
  | retested (job : Job)

def Handling.job : Handling → Option Job
  | idle => none
  | tested job => some job
  | retested job => some job

/-! ### The messages of the controller -/

/-- Where the controller's thread is: `addSTA` is still to be called, the record was found
    or made, or its other fields are still to be set. -/
inductive Serving where
  | idle
  | missing (sta : Mac)
  | found (msg : FromController)
  | filling (sta : Mac) (update : UpdateSTA)

/-- The station and the status that the message assigns to it. -/
def assigns : FromController → Option (Mac × STAStatus)
  | .addSTA sta => some (sta,.selected)
  | .updateSTAAdd sta _ => some (sta,.associated)
  | .removeSTA sta => some (sta,.notAuthenticated)
  | .lastRecPow _ | .natAdd _ _ _ => none

/-- What is written under the lock after the status. -/
def fill (ap : AccessPoint) (sta : Mac) (update : UpdateSTA) : Option AccessPoint :=
  update.supportedRates.bind (fun rates =>
    if update.supportedRatesLen.toNat ≤ 32 then ap.changeSTA sta (fun info =>
      { info with
        authAlg := update.authAlg
        aid := update.aid
        capability := update.capability
        listenInterval := update.listenInterval
        qosinfo := update.qosinfo
        supportedRatesLen := update.supportedRatesLen
        supportedRates := AccessPoint.copyRates info.supportedRates rates update.supportedRatesLen })
    else none)

/-! ### The two threads -/

/-- The two threads over one station list. `removed` are the stations whose removal was
    the last message about their admission, and `overtaken` says that a removal of its
    station was the last such message since the handler at work has tested the status. -/
structure State where
  ap : AccessPoint
  handling : Handling
  serving : Serving
  removed : Mac → Bool
  overtaken : Bool

def start (ap : AccessPoint) : State := ⟨ap,.idle,.idle,fun _ => false,false⟩

namespace State

/-- A handler is between its two steps for the station. -/
def concerns (s : State) (sta : Mac) : Bool := s.handling.job.any (fun job => job.sta = sta)

/-- A message counts from the step on that changes the status. For a station that is not
    listed yet this is the insertion of its record, which reads `SELECTED` at once. -/
def dismiss (s : State) (sta : Mac) : State :=
  { s with removed := Function.update s.removed sta true, overtaken := s.overtaken || s.concerns sta }

def enrol (s : State) (sta : Mac) : State :=
  { s with removed := Function.update s.removed sta false, overtaken := s.overtaken && !s.concerns sta }

/-- The effect of a message on the two. -/
def account (s : State) : FromController → State
  | .addSTA sta => s.enrol sta
  | .updateSTAAdd sta _ => s.enrol sta
  | .removeSTA sta => s.dismiss sta
  | .lastRecPow _ | .natAdd _ _ _ => s

end State

/-- A step of one of the threads: of a handler its test, its second test, its assignment
    or its return before that; of a message its lookup, the insertion of a record, its
    assignment of the status and that of the other fields. -/
inductive Event where
  | test (input : Radio)
  | retest
  | set
  | abandon
  | receive (msg : FromController)
  | insert
  | change
  | fill

/-- The status of the station is the one that the handler asks for. -/
def passes (ap : AccessPoint) (job : Job) : Option Bool :=
  (ap.lookupSenderSTA job.sta).map (fun info => info.any (fun info => info.status = job.guard))

def test (cfg : APConfig) (s : State) (input : Radio) : Option State :=
  match s.handling with
  | .idle => (job cfg s.ap input).bind (fun job =>
      (passes s.ap job).map (fun passed =>
        { s with
          ap := fired s.ap input
          handling := if passed then .tested job else .idle
          overtaken := false }))
  | _ => none

def retest (s : State) : Option State :=
  match s.handling with
  | .tested job =>
    if job.twice then (passes s.ap job).map (fun passed =>
      { s with
        ap := if passed then s.ap else job.schedule s.ap
        handling := if passed then .retested job else .idle
        overtaken := false })
    else none
  | _ => none

def set (s : State) : Option State :=
  match s.handling with
  | .tested job => if job.twice then none else (job.finish s.ap).map (fun ap => { s with ap := ap, handling := .idle })
  | .retested job => (job.finish s.ap).map (fun ap => { s with ap := ap, handling := .idle })
  | .idle => none

def abandon (s : State) : Option State :=
  match s.handling with
  | .idle => none
  | _ => some { s with handling := .idle }

/-- Messages about other things change no status, and are taken as one step. -/
def receive (cfg : APConfig) (s : State) (msg : FromController) : Option State :=
  match s.serving with
  | .idle =>
    match msg with
    | .addSTA sta => (s.ap.lookupSenderSTA sta).map (fun info =>
        { s with serving := if info.isSome then .found msg else .missing sta })
    | .updateSTAAdd sta _ => (s.ap.lookupSenderSTA sta).map (fun info =>
        if info.isSome then { s with serving := .found msg } else s)
    | .removeSTA sta => (s.ap.lookupSenderSTA sta).map (fun info =>
        if info.isSome then { s with serving := .found msg } else s.dismiss sta)
    | .lastRecPow _ | .natAdd _ _ _ => (s.ap.handleVendor cfg msg).map (fun (ap,_) => { s with ap := ap })
  | _ => none

def insert (cfg : APConfig) (s : State) : Option State :=
  match s.serving with
  | .missing sta => (s.ap.addSTA cfg sta).map (fun (ap,listed) =>
      if listed then { s with ap := ap, serving := .found (.addSTA sta) }.enrol sta
      else { s with ap := ap, serving := .idle })
  | _ => none

def change (s : State) : Option State :=
  match s.serving with
  | .found msg => (assigns msg).bind (fun (sta,status) => (s.ap.changeStatus sta status).map (fun ap =>
      { s with
        ap := ap
        serving := match msg with
          | .updateSTAAdd sta update => .filling sta update
          | _ => .idle }.account msg))
  | _ => none

def State.fill (s : State) : Option State :=
  match s.serving with
  | .filling sta update => (Removal.fill s.ap sta update).map (fun ap => { s with ap := ap, serving := .idle })
  | _ => none

def step (cfg : APConfig) (s : State) : Event → Option State
  | .test input => test cfg s input
  | .retest => retest s
  | .set => set s
  | .abandon => abandon s
  | .receive msg => receive cfg s msg
  | .insert => insert cfg s
  | .change => change s
  | .fill => s.fill

/-! ### What a step does to the status -/

section
variable {cfg : APConfig} {s next : State} {ap ap' : AccessPoint}

theorem Job.status_finish {job : Job} (finished : job.finish ap = some ap') (sta : Mac) :
    ap'.status sta = if sta = job.sta then some job.target else ap.status sta := by
  obtain ⟨changed,done,rfl⟩ := Option.map_eq_some_iff.mp finished
  exact AccessPoint.status_changeStatus done sta

theorem status_fired (ap : AccessPoint) (input : Radio) (sta : Mac) : (fired ap input).status sta = ap.status sta := by
  cases input <;> rfl

theorem status_fill {sta : Mac} {update : UpdateSTA} (filled : fill ap sta update = some ap') (sta' : Mac) :
    ap'.status sta' = ap.status sta' := by
  obtain ⟨rates,_,rest⟩ := Option.bind_eq_some_iff.mp filled
  split at rest
  · refine AccessPoint.status_changeSTA_same ?_ ?_ rest sta'
    · intro info; rfl
    · intro info; rfl
  · cases rest

theorem status_of_passes {job : Job} (passed : passes ap job = some true) : ap.status job.sta = some job.guard := by
  obtain ⟨info,found,any⟩ := Option.map_eq_some_iff.mp passed
  exact (AccessPoint.any_status ap job.sta job.guard found).mp any

/-- No handler asks for a station that is not authenticated, and none selects one. -/
theorem job_proper {input : Radio} {j : Job} (isJob : job cfg ap input = some j) :
    j.guard ≠ .notAuthenticated ∧ j.target ≠ .selected := by
  cases input with
  | timeout i =>
    obtain ⟨sta,_,rfl⟩ := Option.map_eq_some_iff.mp isJob
    exact ⟨by simp,by simp⟩
  | probe sta => cases isJob
  | data sta rssi => cases isJob
  | _ =>
    cases isJob
    exact ⟨by simp,by simp⟩

/-! ### Removed stations -/

/-- No station that was removed is authenticated or associated. -/
def Final (s : State) : Prop :=
  ∀ sta, s.removed sta = true → s.ap.status sta ≠ some .authenticated ∧ s.ap.status sta ≠ some .associated

/-- What makes it so: a removed station has no status or that of a removal, and a handler
    is overtaken exactly if its station was removed. -/
structure Sound (s : State) : Prop where
  gone : ∀ sta, s.removed sta = true → s.ap.status sta = none ∨ s.ap.status sta = some .notAuthenticated
  overtaken : ∀ j, s.handling.job = some j → s.overtaken = s.removed j.sta
  proper : ∀ j, s.handling.job = some j → j.guard ≠ .notAuthenticated ∧ j.target ≠ .selected

/-- A handler that was overtaken does not authenticate or associate the station. -/
def Respects (s : State) : Event → Prop
  | .set => s.overtaken = true → ∀ j ∈ s.handling.job, j.target ≠ .authenticated ∧ j.target ≠ .associated
  | _ => True

theorem Sound.final (sound : Sound s) : Final s := by
  intro sta isRemoved
  rcases sound.gone sta isRemoved with gone | gone <;> simp [gone]

theorem sound_start (ap : AccessPoint) : Sound (start ap) where
  gone _ isRemoved := by cases isRemoved
  overtaken _ isJob := by cases isJob
  proper _ isJob := by cases isJob

/-- A station that passes a test is not removed. -/
theorem Sound.unremoved (sound : Sound s) {j : Job} (passed : passes s.ap j = some true)
    (guards : j.guard ≠ .notAuthenticated) : s.removed j.sta = false := by
  by_contra isRemoved
  have status := status_of_passes passed
  rcases sound.gone j.sta (by simpa using isRemoved) with gone | gone
  · cases gone.symm.trans status
  · exact guards (Option.some.inj (status.symm.trans gone))

/-- A handler goes on if its test is passed, and has not been overtaken then. -/
theorem Sound.pass (sound : Sound s) {j : Job} {passed : Bool} (isPassed : passes s.ap j = some passed)
    (proper : j.guard ≠ .notAuthenticated ∧ j.target ≠ .selected) {ap : AccessPoint}
    (status : ∀ sta, ap.status sta = s.ap.status sta) {handling : Handling} (isJob : handling.job = some j) :
    Sound { s with ap := ap, handling := if passed then handling else .idle, overtaken := false } := by
  have gone : ∀ sta, s.removed sta = true → ap.status sta = none ∨ ap.status sta = some .notAuthenticated := by
    intro sta isRemoved
    rw [status]
    exact sound.gone sta isRemoved
  cases passed with
  | true =>
    refine ⟨gone,fun j' isJob' => ?_,fun j' isJob' => ?_⟩
    · cases isJob.symm.trans isJob'
      exact (sound.unremoved isPassed proper.1).symm
    · cases isJob.symm.trans isJob'
      exact proper
  | false => exact ⟨gone,fun j' isJob' => (by cases isJob'),fun j' isJob' => (by cases isJob')⟩

theorem Sound.test (sound : Sound s) {input : Radio} (tested : test cfg s input = some next) : Sound next := by
  unfold Removal.test at tested
  split at tested
  · obtain ⟨j,isJob,rest⟩ := Option.bind_eq_some_iff.mp tested
    obtain ⟨passed,isPassed,rfl⟩ := Option.map_eq_some_iff.mp rest
    exact sound.pass isPassed (job_proper isJob) (fun sta => by rw [status_fired]) rfl
  · cases tested

theorem Sound.retest (sound : Sound s) (tested : retest s = some next) : Sound next := by
  unfold Removal.retest at tested
  split at tested
  · rename_i j isHandling
    have proper := sound.proper j (by rw [isHandling]; rfl)
    split at tested
    · obtain ⟨passed,isPassed,rfl⟩ := Option.map_eq_some_iff.mp tested
      exact sound.pass isPassed proper (fun _ => by cases passed <;> rfl) rfl
    · cases tested
  · cases tested

/-- The assignment of a handler. -/
theorem set_cases (done : set s = some next) :
    ∃ j ap, s.handling.job = some j ∧ j.finish s.ap = some ap ∧ next = { s with ap := ap, handling := .idle } := by
  unfold set at done
  split at done
  · rename_i j isHandling
    split at done
    · cases done
    · obtain ⟨ap,finished,rfl⟩ := Option.map_eq_some_iff.mp done
      exact ⟨j,ap,by rw [isHandling]; rfl,finished,rfl⟩
  · rename_i j isHandling
    obtain ⟨ap,finished,rfl⟩ := Option.map_eq_some_iff.mp done
    exact ⟨j,ap,by rw [isHandling]; rfl,finished,rfl⟩
  · cases done

theorem Sound.set_iff (sound : Sound s) (done : set s = some next) :
    (Final next ↔ Respects s .set) ∧ (Respects s .set → Sound next) := by
  obtain ⟨j,ap,isJob,finished,rfl⟩ := set_cases done
  have status := Job.status_finish finished
  have here : ap.status j.sta = some j.target := (status j.sta).trans (if_pos rfl)
  have kept : Respects s .set → Sound { s with ap := ap, handling := .idle } := by
    intro respects
    refine ⟨fun sta isRemoved => ?_,fun _ isJob' => (by cases isJob'),fun _ isJob' => (by cases isJob')⟩
    have removed : s.removed sta = true := isRemoved
    by_cases same : sta = j.sta
    · subst same
      have target := respects ((sound.overtaken j isJob).trans removed) j isJob
      right
      rw [here]
      have proper := (sound.proper j isJob).2
      cases isTarget : j.target <;> simp_all
    · rw [status,if_neg same]
      exact sound.gone sta removed
  refine ⟨⟨fun final isOvertaken j' isJob' => ?_,fun respects => (kept respects).final⟩,kept⟩
  cases isJob.symm.trans isJob'
  have removed : s.removed j.sta = true := (sound.overtaken j isJob).symm.trans isOvertaken
  have target := final j.sta removed
  rw [here] at target
  exact ⟨fun same => target.1 (congrArg some same),fun same => target.2 (congrArg some same)⟩

/-- Whatever the controller's thread does, a state with the same status and the same
    handler is as sound. -/
theorem Sound.congr (sound : Sound s) {ap : AccessPoint} (serving : Serving)
    (status : ∀ sta, ap.status sta = s.ap.status sta) : Sound { s with ap := ap, serving := serving } where
  gone sta isRemoved := by
    rw [status]
    exact sound.gone sta isRemoved
  overtaken := sound.overtaken
  proper := sound.proper

theorem concerns_eq {j : Job} (isJob : s.handling.job = some j) (sta : Mac) : s.concerns sta = decide (j.sta = sta) := by
  simp [State.concerns,isJob]

/-- A message about the admission of the station takes effect: it is out, or in again. A
    handler at work for it is overtaken or not from now on. -/
theorem Sound.decide (sound : Sound s) {ap : AccessPoint} {sta : Mac} (serving : Serving) (out : Bool) {overtaken : Bool}
    (isOvertaken : overtaken = if s.concerns sta then out else s.overtaken)
    (others : ∀ other, other ≠ sta → ap.status other = s.ap.status other)
    (gone : out = true → ap.status sta = none ∨ ap.status sta = some .notAuthenticated) :
    Sound { s with
      ap := ap
      serving := serving
      removed := Function.update s.removed sta out
      overtaken := overtaken } where
  gone other isRemoved := by
    have isRemoved' : Function.update s.removed sta out other = true := isRemoved
    by_cases same : other = sta
    · subst same
      rw [Function.update_self] at isRemoved'
      exact gone isRemoved'
    · rw [Function.update_of_ne same] at isRemoved'
      exact (others other same).symm ▸ sound.gone other isRemoved'
  overtaken j isJob := by
    have isJob' : s.handling.job = some j := isJob
    change overtaken = Function.update s.removed sta out j.sta
    rw [isOvertaken,concerns_eq isJob',Function.update_apply,sound.overtaken j isJob']
    simp only [decide_eq_true_eq]
  proper := sound.proper

theorem Sound.dismiss (sound : Sound s) {ap : AccessPoint} {sta : Mac} (serving : Serving)
    (others : ∀ other, other ≠ sta → ap.status other = s.ap.status other)
    (gone : ap.status sta = none ∨ ap.status sta = some .notAuthenticated) :
    Sound ({ s with ap := ap, serving := serving }.dismiss sta) := by
  refine sound.decide serving true ?_ others (fun _ => gone)
  change (s.overtaken || s.concerns sta) = _
  cases s.concerns sta <;> simp

theorem Sound.enrol (sound : Sound s) {ap : AccessPoint} {sta : Mac} (serving : Serving)
    (others : ∀ other, other ≠ sta → ap.status other = s.ap.status other) :
    Sound ({ s with ap := ap, serving := serving }.enrol sta) := by
  refine sound.decide serving false ?_ others (fun out => by cases out)
  change (s.overtaken && !s.concerns sta) = _
  cases s.concerns sta <;> simp

theorem Sound.receive (sound : Sound s) {msg : FromController} (received : receive cfg s msg = some next) : Sound next := by
  unfold Removal.receive at received
  split at received
  · cases msg with
    | addSTA sta =>
      obtain ⟨info,_,rfl⟩ := Option.map_eq_some_iff.mp received
      exact sound.congr _ (fun _ => rfl)
    | updateSTAAdd sta update =>
      obtain ⟨info,_,rfl⟩ := Option.map_eq_some_iff.mp received
      split
      · exact sound.congr _ (fun _ => rfl)
      · exact sound
    | removeSTA sta =>
      obtain ⟨info,isInfo,rfl⟩ := Option.map_eq_some_iff.mp received
      split
      · exact sound.congr _ (fun _ => rfl)
      · rename_i absent
        refine sound.dismiss s.serving (fun _ _ => rfl) (.inl ?_)
        simpa [AccessPoint.status,isInfo] using absent
    | lastRecPow sta =>
      obtain ⟨⟨ap,msgs⟩,handled,rfl⟩ := Option.map_eq_some_iff.mp received
      exact sound.congr _ (AccessPoint.handleVendor_other rfl handled).1
    | natAdd sta tuple newPort =>
      obtain ⟨⟨ap,msgs⟩,handled,rfl⟩ := Option.map_eq_some_iff.mp received
      exact sound.congr _ (AccessPoint.handleVendor_other rfl handled).1
  · cases received

theorem Sound.insert (sound : Sound s) (inserted : insert cfg s = some next) : Sound next := by
  unfold Removal.insert at inserted
  split at inserted
  · rename_i sta _
    obtain ⟨⟨ap,listed⟩,added,rfl⟩ := Option.map_eq_some_iff.mp inserted
    rcases AccessPoint.addSTA_spec added with ⟨rfl,rfl,_⟩ | ⟨rfl,rfl,_⟩ | ⟨rfl,_,_,_,_,status⟩
    · exact sound.congr _ (fun _ => rfl)
    · exact sound.enrol _ (fun _ _ => rfl)
    · exact sound.enrol _ (fun other isOther => (status other).trans (if_neg isOther))
  · cases inserted

theorem Sound.change (sound : Sound s) (changed : change s = some next) : Sound next := by
  unfold Removal.change at changed
  split at changed
  · rename_i msg _
    obtain ⟨⟨sta,status⟩,isAssigned,rest⟩ := Option.bind_eq_some_iff.mp changed
    obtain ⟨ap,done,rfl⟩ := Option.map_eq_some_iff.mp rest
    have others : ∀ other, other ≠ sta → ap.status other = s.ap.status other := fun other isOther =>
      (AccessPoint.status_changeStatus done other).trans (if_neg isOther)
    cases msg with
    | addSTA sta' =>
      cases isAssigned
      exact sound.enrol _ others
    | updateSTAAdd sta' update =>
      cases isAssigned
      exact sound.enrol _ others
    | removeSTA sta' =>
      cases isAssigned
      exact sound.dismiss _ others (.inr ((AccessPoint.status_changeStatus done _).trans (if_pos rfl)))
    | lastRecPow sta' => cases isAssigned
    | natAdd sta' tuple newPort => cases isAssigned
  · cases changed

theorem Sound.fill (sound : Sound s) (filled : s.fill = some next) : Sound next := by
  unfold State.fill at filled
  split at filled
  · obtain ⟨ap,done,rfl⟩ := Option.map_eq_some_iff.mp filled
    exact sound.congr _ (status_fill done)
  · cases filled

/-- Every step keeps removals final, but for the assignment of a handler that was
    overtaken. -/
theorem Sound.step_iff (sound : Sound s) {e : Event} (stepped : step cfg s e = some next) :
    (Final next ↔ Respects s e) ∧ (Respects s e → Sound next) := by
  have keeps : Respects s e → Sound next → (Final next ↔ Respects s e) ∧ (Respects s e → Sound next) :=
    fun respects sound' => ⟨iff_of_true sound'.final respects,fun _ => sound'⟩
  cases e with
  | test input => exact keeps trivial (sound.test stepped)
  | retest => exact keeps trivial (sound.retest stepped)
  | set => exact sound.set_iff stepped
  | abandon =>
    refine keeps trivial ?_
    change abandon s = some next at stepped
    unfold abandon at stepped
    split at stepped
    · cases stepped
    · cases stepped
      exact ⟨sound.gone,fun _ isJob => (by cases isJob),fun _ isJob => (by cases isJob)⟩
  | receive msg => exact keeps trivial (sound.receive stepped)
  | insert => exact keeps trivial (sound.insert stepped)
  | change => exact keeps trivial (sound.change stepped)
  | fill => exact keeps trivial (sound.fill stepped)

end

/-! ### Threads that are not disturbed -/

section
variable {cfg : APConfig} {s : State} {ap' : AccessPoint}

/-- The handlers but that of disassociation. -/
theorem transition_eq (ap : AccessPoint) (sta : Mac) (guard target : STAStatus) (thread : Sender) :
    ap.transition sta guard target thread = (passes ap ⟨sta,guard,target,thread,false,false⟩).bind (fun passed =>
      if passed then Job.finish ⟨sta,guard,target,thread,false,false⟩ ap else some ap) := by
  unfold AccessPoint.transition passes
  cases ap.lookupSenderSTA sta with
  | none => rfl
  | some info => rfl

/-- A handler is its test and, if that passes, its assignment. -/
theorem react_eq {ap : AccessPoint} {input : Radio} {j : Job} (isJob : job cfg ap input = some j) :
    (ap.react cfg input).map Prod.fst = (passes ap j).bind (fun passed =>
      if passed then j.finish (fired ap input) else some (fired ap input)) := by
  have first : ∀ o : Option AccessPoint, (o.map (fun ap => (ap,([] : List ToController)))).map Prod.fst = o := by
    intro o
    cases o <;> rfl
  cases input with
  | auth sta authAlg =>
    cases isJob
    exact (first _).trans (transition_eq ..)
  | assoc sta association =>
    cases isJob
    exact (first _).trans (transition_eq ..)
  | reassoc sta association =>
    cases isJob
    exact (first _).trans (transition_eq ..)
  | deauth sta =>
    cases isJob
    exact (first _).trans (transition_eq ..)
  | disassoc sta timer =>
    cases isJob
    refine (first _).trans ?_
    unfold AccessPoint.handleDisassoc passes
    cases ap.lookupSenderSTA sta with
    | none => rfl
    | some info => rfl
  | timeout i =>
    obtain ⟨sta,found,rfl⟩ := Option.map_eq_some_iff.mp isJob
    simp only [AccessPoint.react,found,Option.bind_some]
    exact (first _).trans (transition_eq ..)
  | probe sta => cases isJob
  | data sta rssi => cases isJob

/-- Its steps in a row do what the handler does. -/
theorem run_react {input : Radio} {j : Job} {msgs : List ToController} (isJob : job cfg s.ap input = some j)
    (idle : s.handling = .idle) (done : s.ap.react cfg input = some (ap',msgs)) :
    ∃ events next, Run.run (step cfg) s events = some next ∧ next.ap = ap' ∧ next.handling = .idle ∧
      next.serving = s.serving := by
  have handled := react_eq isJob
  rw [done] at handled
  obtain ⟨passed,isPassed,rest⟩ := Option.bind_eq_some_iff.mp handled.symm
  cases passed with
  | false =>
    cases rest
    refine ⟨[.test input],{ s with ap := fired s.ap input, handling := .idle, overtaken := false },?_,rfl,rfl,rfl⟩
    simp [Run.run,step,test,idle,isJob,isPassed]
  | true =>
    have finished : j.finish (fired s.ap input) = some ap' := rest
    cases twice : j.twice with
    | false =>
      refine ⟨[.test input,.set],{ s with ap := ap', handling := .idle, overtaken := false },?_,rfl,rfl,rfl⟩
      simp [Run.run,step,test,set,idle,isJob,isPassed,twice,finished]
    | true =>
      have again : passes (fired s.ap input) j = some true := by
        cases input <;> exact isPassed
      refine ⟨[.test input,.retest,.set],{ s with ap := ap', handling := .idle, overtaken := false },?_,rfl,rfl,rfl⟩
      simp [Run.run,step,test,retest,set,idle,isJob,isPassed,twice,finished,again]

/-- The steps of a message in a row do what its handler does. -/
theorem run_handleVendor {msg : FromController} {msgs : List ToController} (idle : s.serving = .idle)
    (done : s.ap.handleVendor cfg msg = some (ap',msgs)) :
    ∃ events next, Run.run (step cfg) s events = some next ∧ next.ap = ap' ∧ next.serving = .idle ∧
      next.handling = s.handling := by
  cases msg with
  | addSTA sta =>
    obtain ⟨⟨ap,listed⟩,added,rest⟩ := Option.bind_eq_some_iff.mp done
    obtain ⟨info,isInfo,outcome⟩ := Option.bind_eq_some_iff.mp added
    cases info with
    | some info =>
      cases outcome
      obtain ⟨changed,isChanged,same⟩ := Option.map_eq_some_iff.mp rest
      cases same
      refine ⟨[.receive (.addSTA sta),.change],{ s with ap := ap', serving := .idle }.enrol sta,?_,rfl,rfl,rfl⟩
      simp [Run.run,step,receive,change,idle,isInfo,assigns,isChanged,State.account]
    | none =>
      cases listed with
      | false =>
        cases rest
        refine ⟨[.receive (.addSTA sta),.insert],{ s with ap := ap', serving := .idle },?_,rfl,rfl,rfl⟩
        simp [Run.run,step,receive,insert,idle,isInfo,added]
      | true =>
        obtain ⟨changed,isChanged,same⟩ := Option.map_eq_some_iff.mp rest
        cases same
        refine ⟨[.receive (.addSTA sta),.insert,.change],
          { { s with ap := ap, serving := .found (.addSTA sta) }.enrol sta with ap := ap', serving := .idle }.enrol sta,
          ?_,rfl,rfl,rfl⟩
        simp [Run.run,step,receive,insert,change,idle,isInfo,added,assigns,isChanged,State.account,State.enrol]
  | updateSTAAdd sta update =>
    obtain ⟨info,isInfo,rest⟩ := Option.bind_eq_some_iff.mp done
    cases info with
    | none =>
      cases rest
      refine ⟨[.receive (.updateSTAAdd sta update)],s,?_,rfl,idle,rfl⟩
      simp [Run.run,step,receive,idle,isInfo]
    | some info =>
      obtain ⟨updated,isUpdated,same⟩ := Option.map_eq_some_iff.mp rest
      cases same
      obtain ⟨rates,isRates,fitting⟩ := Option.bind_eq_some_iff.mp isUpdated
      split at fitting
      · rename_i fits
        obtain ⟨ap,isChanged,filled⟩ := Option.bind_eq_some_iff.mp fitting
        have isFilled : fill ap sta update = some ap' := by
          simp only [fill,isRates,Option.bind_some,fits,if_true]
          exact filled
        refine ⟨[.receive (.updateSTAAdd sta update),.change,.fill],{ s with ap := ap', serving := .idle }.enrol sta,
          ?_,rfl,rfl,rfl⟩
        simp [Run.run,step,receive,change,State.fill,idle,isInfo,assigns,isChanged,State.account,isFilled,State.enrol,
          State.concerns]
      · cases fitting
  | removeSTA sta =>
    obtain ⟨info,isInfo,rest⟩ := Option.bind_eq_some_iff.mp done
    cases info with
    | none =>
      cases rest
      refine ⟨[.receive (.removeSTA sta)],s.dismiss sta,?_,rfl,idle,rfl⟩
      simp [Run.run,step,receive,idle,isInfo]
    | some info =>
      obtain ⟨ap,changed,same⟩ := Option.map_eq_some_iff.mp rest
      cases same
      refine ⟨[.receive (.removeSTA sta),.change],{ s with ap := ap', serving := .idle }.dismiss sta,?_,rfl,rfl,rfl⟩
      simp [Run.run,step,receive,change,idle,isInfo,assigns,changed,State.account]
  | lastRecPow sta =>
    refine ⟨[.receive (.lastRecPow sta)],{ s with ap := ap' },?_,rfl,idle,rfl⟩
    simp [Run.run,step,receive,idle,done]
  | natAdd sta tuple newPort =>
    refine ⟨[.receive (.natAdd sta tuple newPort)],{ s with ap := ap' },?_,rfl,idle,rfl⟩
    simp [Run.run,step,receive,idle,done]

end

/-! ### Removals and handlers -/

/-- From any state of the access point on and however the two threads take turns, a
    station that was removed is not authenticated or associated before it is admitted
    again if and only if no handler that does so was overtaken by the removal. -/
theorem removal_final_iff {cfg : APConfig} {ap : AccessPoint} {final : State} {events : List Event}
    (ran : Run.run (step cfg) (start ap) events = some final) :
    Run.Always (step cfg) Final (start ap) events ↔ Run.Steps (step cfg) Respects (start ap) events :=
  Run.always_iff_steps_of (fun _ sound => sound.final) (fun _ _ _ sound stepped => sound.step_iff stepped) (sound_start ap) ran

instance (s : State) (e : Event) : Decidable (Respects s e) := by
  unfold Respects
  split <;> infer_instance

def site : APConfig := ⟨⟨2,0,0,0,0,1⟩,⟨10,0,0,1⟩,⟨192,168,1,0⟩,255⟩

def leaver : Mac := ⟨2,0,0,7,0,9⟩

/-- A station is admitted, and is removed while `handle_auth` is between its two steps. -/
def removedBetween : List Event :=
  [.receive (.addSTA leaver),.insert,.change,.test (.auth leaver 0),.receive (.removeSTA leaver),.change,.set]

/-- It is removed after the second step, and asks in vain for an association. -/
def removedAfter : List Event :=
  [.receive (.addSTA leaver),.insert,.change,.test (.auth leaver 0),.set,.receive (.removeSTA leaver),.change,
    .test (.assoc leaver ⟨1,0x431,10,Vector.replicate 32 0x96,8,0⟩)]

theorem removedAfter_final : ∃ final, Run.run (step site) (start (.init site)) removedAfter = some final ∧
    final.removed leaver = true ∧ Run.Always (step site) Final (start (.init site)) removedAfter := by
  obtain ⟨final,ran,isRemoved⟩ : ∃ final, Run.run (step site) (start (.init site)) removedAfter = some final ∧
    final.removed leaver = true := Run.exists_run (by decide +kernel)
  exact ⟨final,ran,isRemoved,(removal_final_iff ran).mpr
    (Run.steps_of_check (fun _ _ => of_decide_eq_true) (by decide +kernel))⟩

/-- The removal is written over, and the station is authenticated. -/
theorem removedBetween_authenticated : ∃ final, Run.run (step site) (start (.init site)) removedBetween = some final ∧
    final.removed leaver = true ∧ final.ap.status leaver = some .authenticated :=
  Run.exists_run (by decide +kernel)

end Handover.Removal
