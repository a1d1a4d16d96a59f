import Handover.AccessPointSpec
import Handover.Hostapd
import Handover.Run

/-!
The station list and the station table. Every handler is about one station; where the
list has that station as associated afterwards, the table must hold it with one of the
two association flags. Four handlers can leave it without: the status of an association
response that was not acknowledged, a handover that returns early, and the two timers,
none of which tells the list. What they need so as not to is stated before the step, and
the two tables agree along a run exactly as long as every step meets it.
-/
namespace Handover

/-- What an access point does in one step by itself. -/
inductive AccessPoint.Step (cfg : APConfig) (ap : AccessPoint) : AccessPoint → Prop where
  | idle : Step cfg ap ap
  | reacts {ap' : AccessPoint} {input : Radio} {msgs : List ToController}
    (done : ap.react cfg input = some (ap',msgs)) : Step cfg ap ap'
  | receives {ap' : AccessPoint} {msg : FromController} {msgs : List ToController}
    (done : ap.handleVendor cfg msg = some (ap',msgs)) : Step cfg ap ap'
  | sends {ap' : AccessPoint} {i : Nat} {msg : ToController}
    (done : ap.sendThread cfg i = some (ap',msg)) : Step cfg ap ap'

namespace StaInfo

/-- The station counts as associated, or will when it acknowledges the response. -/
def Associated (record : StaInfo) : Prop := record.assoc = true ∨ record.assocReqOk = true

/-! ### What handlers do to the two flags -/

theorem associate_assocReqOk (cfg : BssConfig) (record : StaInfo) (results : Results) :
    (record.associate cfg results).assocReqOk = record.assocReqOk := by
  simp only [associate,newAssoc,disconnect]
  split_ifs <;> rfl

/-- A new association is given up where the key state machine does so at once. -/
theorem associate_assoc (cfg : BssConfig) (record : StaInfo) (results : Results) :
    (record.associate cfg results).assoc = false ↔
      results.bound = true ∧ results.countermeasures = false ∧ cfg.wpa = true ∧ results.disconnected = true := by
  simp only [associate,newAssoc,disconnect]
  split_ifs <;> simp_all

theorem assocReply_assocReqOk (record : StaInfo) (success : Bool) (results : Results) :
    (record.assocReply success results).assocReqOk = record.assocReqOk := by
  cases success
  · simp only [assocReply,Bool.false_eq_true,if_false]
    split_ifs <;> rfl
  · simp only [assocReply,addAssociatedSta,if_true]
    split_ifs <;> rfl

theorem handleAssoc_associated {cfg : BssConfig} {record : StaInfo} {frame : AssocFrame} {results : Results}
    (accepted : frame.accepted = true) : (record.handleAssoc cfg frame results).Associated := by
  simp [handleAssoc,accepted,Associated,assocReply_assocReqOk]

/-- What an association response needs when its status is known: acknowledged, that the
    key state machine goes on or an earlier response counts; not acknowledged, that the
    station is associated already. -/
def Confirms (cfg : BssConfig) (record : StaInfo) (long success ok : Bool) (results : Results) : Prop :=
  long = true →
    if ok then
      success = true → results.bound = true → results.countermeasures = false → cfg.wpa = true →
        results.disconnected = true → record.assocReqOk = true
    else record.assoc = true

theorem handleAssocCb_associated {cfg : BssConfig} {record : StaInfo} {long success ok : Bool} {results : Results}
    (before : record.Associated) :
    (record.handleAssocCb cfg long success ok results).Associated ↔ record.Confirms cfg long success ok results := by
  cases long with
  | false => simpa [handleAssocCb,Confirms] using before
  | true =>
    cases ok with
    | false => simp [handleAssocCb,Confirms,Associated]
    | true =>
      cases success with
      | false => simpa [handleAssocCb,Confirms] using before
      | true =>
        have given := associate_assoc cfg record results
        simp only [handleAssocCb,Confirms,Associated,if_true,associate_assocReqOk,forall_const]
        cases isAssoc : (record.associate cfg results).assoc with
        | true =>
          have kept := mt given.mpr (by simp [isAssoc])
          simp only [true_or,true_iff]
          intro bound measures wpa disconnected
          exact absurd ⟨bound,measures,wpa,disconnected⟩ kept
        | false =>
          obtain ⟨bound,measures,wpa,disconnected⟩ := given.mp isAssoc
          simp [bound,measures,wpa,disconnected]

theorem addUnassoc_spec (cfg : BssConfig) (record : StaInfo) (results : Results) :
    (record.addUnassoc cfg results).2 = (results.added || !record.readds cfg) ∧
      (record.addUnassoc cfg results).1.assocReqOk = record.assocReqOk ∧
      ((record.addUnassoc cfg results).2 = false → (record.addUnassoc cfg results).1.assoc = false) := by
  cases readds : record.readds cfg with
  | false => simp [addUnassoc,readds]
  | true => cases added : results.added <;> simp [addUnassoc,readds,added]

/-- A station that is handed over is associated unless the driver refuses it. -/
theorem addSTA_associated (cfg : BssConfig) (record : StaInfo) (results : Results) :
    (record.addSTA cfg results).Associated ↔
      record.assocReqOk = true ∨ results.added = true ∨ record.readds cfg = false := by
  obtain ⟨worked,reqOk,assoc⟩ := addUnassoc_spec cfg { record with lastSeqCtrl := invalidMgmtSeq } results
  have isWorked : (addUnassoc cfg { record with lastSeqCtrl := invalidMgmtSeq } results).2 =
    (results.added || !record.readds cfg) := worked
  simp only [addSTA]
  split
  · rename_i added
    rw [isWorked] at added
    exact iff_of_true (.inr (associate_assocReqOk ..)) (.inr (by simpa using added))
  · rename_i refused
    rw [Bool.not_eq_true] at refused
    rw [Associated,assoc refused,reqOk]
    rw [isWorked] at refused
    simp_all

/-! ### Timers -/

/-- The activity check ends the association: the driver has lost the station, or it has
    been idle and is not polled or did not answer. -/
def GivenUp (cfg : BssConfig) (record : StaInfo) (inactiveSec : Int) (fuzz : Fin 20) : Prop :=
  inactiveSec = enoent ∨
    inactiveSec ≠ -1 ∧ cfg.apMaxInactivity ≤ inactiveSec ∧
      (cfg.skipInactivityPoll = true ∨ record.timeoutNext = .disassoc ∧ record.pendingPoll = true) ∨
    inactiveSec = -1 ∧ record.timeoutNext = .disassoc ∧ cfg.apMaxInactivity + fuzz.val = 0 ∧
      (cfg.skipInactivityPoll = true ∨ record.pendingPoll = true)

/-- What a station needs when its timer fires: it is associated and is only checked, or
    has its response still to acknowledge. -/
def Outlasts (cfg : BssConfig) (record : StaInfo) (inactiveSec : Int) (fuzz : Fin 20) : Prop :=
  record.assoc = true ∧ match record.timeoutNext with
    | .nullfunc | .disassoc => record.assocReqOk = true ∨ ¬ record.GivenUp cfg inactiveSec fuzz
    | .disassocFromCli => record.assocReqOk = true
    | .deauth | .remove => False

theorem expire_associated (record : StaInfo) :
    (∃ record', record.expire = some record' ∧ record'.Associated) ↔
      record.assoc = true ∧ (record.timeoutNext = .nullfunc ∨
        (record.timeoutNext = .disassoc ∨ record.timeoutNext = .disassocFromCli) ∧ record.assocReqOk = true) := by
  cases assoc : record.assoc with
  | false => cases next : record.timeoutNext <;> simp [expire,assoc,next]
  | true => cases next : record.timeoutNext <;> simp [expire,assoc,next,Associated]

/-- An associated station is polled, or disassociated when its poll was not answered. -/
theorem pollAcked_associated {cfg : BssConfig} {record : StaInfo} (assoc : record.assoc = true)
    (isNext : record.timeoutNext = .nullfunc ∨ record.timeoutNext = .disassoc) (nextTime : Int) :
    (∃ record', reschedule (record.pollAcked cfg nextTime) = some record' ∧ record'.Associated) ↔
      record.assocReqOk = true ∨ ¬ (record.timeoutNext = .disassoc ∧ nextTime = 0 ∧
        (cfg.skipInactivityPoll = true ∨ record.pendingPoll = true)) := by
  have stays : ∀ {record' : StaInfo} {time : Int}, record'.assoc = true → record'.timeoutNext = .nullfunc →
      ∃ final, reschedule (record',time) = some final ∧ final.Associated := by
    intro record' time isAssoc nullfunc
    simp only [reschedule]
    split
    · exact (expire_associated record').mpr ⟨isAssoc,.inl nullfunc⟩
    · exact ⟨record',rfl,.inl isAssoc⟩
  rcases isNext with next | next
  · have idle : record.pollAcked cfg nextTime = (record,nextTime) := by simp [pollAcked,next]
    rw [idle]
    exact iff_of_true (stays assoc next) (by simp [next])
  · by_cases acked : cfg.skipInactivityPoll = true ∨ record.pendingPoll = true
    · have idle : record.pollAcked cfg nextTime = (record,nextTime) := by
        rcases acked with skips | polls
        · simp [pollAcked,skips]
        · simp [pollAcked,polls]
      rw [idle,reschedule]
      by_cases due : nextTime = 0
      · simp [due,next,acked,assoc,expire_associated]
      · simp [due,Associated,assoc]
    · obtain ⟨skips,polls⟩ := not_or.mp acked
      have answered : record.pollAcked cfg nextTime = ({ record with timeoutNext := .nullfunc },cfg.apMaxInactivity) := by
        simp [pollAcked,assoc,next,skips,polls]
      rw [answered]
      exact iff_of_true (stays assoc rfl) (by simp [skips,polls])

/-- The timer ends an association, or not, as its phase and the driver's answer have it. -/
theorem apHandleTimer_associated (cfg : BssConfig) (record : StaInfo) (inactiveSec : Int) (fuzz : Fin 20) :
    (∃ record', record.apHandleTimer cfg inactiveSec fuzz = some record' ∧ record'.Associated) ↔
      record.Outlasts cfg inactiveSec fuzz := by
  by_cases checked : record.assoc = true ∧ (record.timeoutNext = .nullfunc ∨ record.timeoutNext = .disassoc)
  · obtain ⟨assoc,isNext⟩ := checked
    have asks : record.Outlasts cfg inactiveSec fuzz ↔
        record.assocReqOk = true ∨ ¬ record.GivenUp cfg inactiveSec fuzz := by
      rcases isNext with next | next <;> simp [Outlasts,assoc,next]
    have stays : record.timeoutNext ≠ .remove := by
      rcases isNext with next | next <;> simp [next]
    have isChecked : (record.assoc && (decide (record.timeoutNext = .nullfunc) || decide (record.timeoutNext = .disassoc)))
        = true := by simpa [assoc] using isNext
    rw [asks,apHandleTimer,if_neg stays,checkActivity,if_pos isChecked]
    -- the driver's answer: none, no entry, recently active, idle
    split_ifs with unknown lost active skips
    · rw [pollAcked_associated assoc isNext]
      simp [GivenUp,unknown,enoent]
    · rw [reschedule,if_pos rfl,expire_associated]
      simp [GivenUp,lost,assoc]
    · rw [pollAcked_associated (by exact assoc) (.inl rfl)]
      simp [GivenUp,unknown,lost,active]
    · rw [pollAcked_associated (by exact assoc) (.inr rfl)]
      simp [GivenUp,unknown,lost,skips,not_lt.mp active]
    · rw [pollAcked_associated assoc isNext]
      simp [GivenUp,unknown,lost,skips,not_lt.mp active]
  · have unchecked : ¬ (record.assoc && (decide (record.timeoutNext = .nullfunc) ||
        decide (record.timeoutNext = .disassoc))) = true := by simpa using checked
    have idle : record.checkActivity cfg inactiveSec fuzz = (record,0) := by
      rw [checkActivity,if_neg unchecked,pollAcked,if_neg]
      intro acked
      simp only [Bool.and_eq_true,decide_eq_true_eq] at acked
      exact checked ⟨acked.1.1.1,.inr acked.1.1.2⟩
    rw [apHandleTimer,idle,Outlasts]
    cases next : record.timeoutNext with
    | remove => simp
    | nullfunc | disassoc =>
      have inactive : record.assoc = false := by simpa [next] using checked
      simp [reschedule,expire_associated,inactive]
    | deauth | disassocFromCli => simp [reschedule,expire_associated,next]

theorem apHandleSessionTimer_associated {record : StaInfo} (before : record.Associated) :
    (∃ record', record.apHandleSessionTimer = some record' ∧ record'.Associated) ↔ record.auth = false := by
  cases auth : record.auth with
  | true => simp [apHandleSessionTimer,auth]
  | false => simpa [apHandleSessionTimer,auth,Associated] using before

end StaInfo

namespace Hostapd

theorem lookup_put (h : Hostapd) (sta : Mac) (record : Option StaInfo) (other : Mac) :
    (h.put sta record).table.lookup other = if other = sta then record else h.table.lookup other := by
  cases record with
  | some record => exact Map.lookup_insert_eq h.table sta other record
  | none =>
    by_cases same : other = sta
    · subst same
      simp [put]
    · simp [put,same]

/-! ### The agreement -/

/-- The table holds the station as associated, or as about to be. -/
def Holds (h : Hostapd) (sta : Mac) : Prop := ∃ record, h.table.lookup sta = some record ∧ record.Associated

/-- What the list says of the station is true of the table. -/
def AgreesOn (h : Hostapd) (sta : Mac) : Prop := h.ap.status sta = some .associated → h.Holds sta

def Agrees (h : Hostapd) : Prop := ∀ sta, h.AgreesOn sta

theorem agrees_init (cfg : BssConfig) : (init cfg).Agrees := by
  intro sta isStatus
  rw [show (init cfg).ap.status sta = none from AccessPoint.status_init cfg.toAPConfig sta] at isStatus
  cases isStatus

/-- A step that is about one station. -/
structure Touches (cfg : BssConfig) (h h' : Hostapd) (sta : Mac) : Prop where
  ap : AccessPoint.Step cfg.toAPConfig h.ap h'.ap
  table : ∀ other, other ≠ sta → h'.table.lookup other = h.table.lookup other
  status : ∀ other, other ≠ sta → h'.ap.status other = h.ap.status other

section
variable {cfg : BssConfig} {h h' : Hostapd} {sta : Mac}

theorem Touches.refl (cfg : BssConfig) (h : Hostapd) (sta : Mac) : Touches cfg h h sta :=
  ⟨.idle,fun _ _ => rfl,fun _ _ => rfl⟩

theorem Touches.put (cfg : BssConfig) (h : Hostapd) (sta : Mac) (record : Option StaInfo) :
    Touches cfg h (h.put sta record) sta :=
  ⟨.idle,fun other different => by rw [lookup_put,if_neg different],fun _ _ => rfl⟩

/-- The record of a station changes together with its status. -/
theorem Touches.both {ap : AccessPoint} {target : Option STAStatus} (stepped : AccessPoint.Step cfg.toAPConfig h.ap ap)
    (status : ∀ other, ap.status other = if other = sta then target else h.ap.status other) (record : Option StaInfo) :
    Touches cfg h ({ h with ap := ap }.put sta record) sta := by
  refine ⟨stepped,fun other different => ?_,fun other different => ?_⟩
  · rw [lookup_put,if_neg different]
  · exact (status other).trans (if_neg different)

/-- After such a step the tables agree if they do so on that station. -/
theorem Touches.agrees_iff (touches : Touches cfg h h' sta) (agrees : h.Agrees) : h'.Agrees ↔ h'.AgreesOn sta := by
  refine ⟨fun agrees' => agrees' sta,fun here other => ?_⟩
  by_cases same : other = sta
  · exact same ▸ here
  · intro isStatus
    rw [touches.status other same] at isStatus
    obtain ⟨record,found,associated⟩ := agrees other isStatus
    exact ⟨record,(touches.table other same).trans found,associated⟩

theorem agreesOn_of_status {s : Option STAStatus} (isStatus : h.ap.status sta = s) (other : s ≠ some .associated) :
    h.AgreesOn sta :=
  fun associated => absurd (isStatus.symm.trans associated) other

/-- A step about one station, after which the tables agree on it exactly under the
    condition. -/
structure Needs (cfg : BssConfig) (h h' : Hostapd) (sta : Mac) (needs : Prop) : Prop extends Touches cfg h h' sta where
  agreesOn_iff : h.AgreesOn sta → (h'.AgreesOn sta ↔ needs)

theorem Touches.keeps (touches : Touches cfg h h' sta) (agrees : h.AgreesOn sta → h'.AgreesOn sta) :
    Needs cfg h h' sta True :=
  ⟨touches,fun before => iff_true_intro (agrees before)⟩

/-- A station that is not associated after the step cannot break the agreement. -/
theorem Touches.unassociated {s : Option STAStatus} (touches : Touches cfg h h' sta) (isStatus : h'.ap.status sta = s)
    (other : s ≠ some .associated) : Needs cfg h h' sta True :=
  touches.keeps (fun _ => agreesOn_of_status isStatus other)

theorem Needs.refl (cfg : BssConfig) (h : Hostapd) (sta : Mac) : Needs cfg h h sta True :=
  (Touches.refl cfg h sta).keeps id

theorem agreesOn_put {record : Option StaInfo} (isStatus : h.ap.status sta = some .associated) :
    (h.put sta record).AgreesOn sta ↔ ∃ record', record = some record' ∧ record'.Associated := by
  have isRecord : (h.put sta record).table.lookup sta = record := by rw [lookup_put,if_pos rfl]
  have isStatus' : (h.put sta record).ap.status sta = some .associated := isStatus
  simp only [AgreesOn,Holds,isRecord,isStatus',forall_const]

/-- Where the list has the station as associated, its record has the property. -/
def Requires (h : Hostapd) (sta : Mac) (holds : StaInfo → Prop) : Prop :=
  h.ap.status sta = some .associated → ∀ record ∈ h.table.lookup sta, holds record

/-- The record of a station on which the tables agree has what every associated record
    has. -/
theorem AgreesOn.requires {holds : StaInfo → Prop} (agrees : h.AgreesOn sta)
    (associated : ∀ record, record.Associated → holds record) : h.Requires sta holds := by
  intro isStatus record found
  obtain ⟨record',found',before⟩ := agrees isStatus
  cases Option.some.inj (found.symm.trans found')
  exact associated record before

theorem requires_congr {holds holds' : StaInfo → Prop} (agrees : h.AgreesOn sta)
    (same : ∀ record, record.Associated → (holds record ↔ holds' record)) :
    h.Requires sta holds ↔ h.Requires sta holds' :=
  forall_congr' fun isStatus => forall₂_congr fun record found => agrees.requires same isStatus record found

/-- A handler that changes a record, or frees it, must leave an associated station one
    of its flags. -/
theorem agreesOn_put_bind {handler : StaInfo → Option StaInfo} (agrees : h.AgreesOn sta) :
    (h.put sta ((h.table.lookup sta).bind handler)).AgreesOn sta ↔
      h.Requires sta (fun record => ∃ record', handler record = some record' ∧ record'.Associated) := by
  by_cases isStatus : h.ap.status sta = some .associated
  · obtain ⟨record,found,_⟩ := agrees isStatus
    rw [agreesOn_put isStatus]
    simp [Requires,isStatus,found]
  · refine iff_of_true (fun isStatus' => absurd ?_ isStatus) (absurd · isStatus)
    exact isStatus'

theorem guarded_cases {guard : STAStatus} {handler : Option Hostapd} (done : h.guarded sta guard handler = some h') :
    h.ap.status sta = some guard ∧ handler = some h' ∨ h.ap.status sta ≠ some guard ∧ h' = h := by
  obtain ⟨info,found,rest⟩ := Option.bind_eq_some_iff.mp done
  have any := AccessPoint.any_status h.ap sta guard found
  split at rest
  · exact .inl ⟨any.mp ‹_›,rest⟩
  · exact .inr ⟨mt any.mpr ‹_›,(Option.some.inj rest).symm⟩

/-- A callback changes the record of a station with the status it asks for. -/
theorem guarded_put (cfg : BssConfig) {guard : STAStatus} {record : Option StaInfo}
    (done : h.guarded sta guard (some (h.put sta record)) = some h') :
    Touches cfg h h' sta ∧ (h.ap.status sta = some guard ∧ h' = h.put sta record ∨
      h.ap.status sta ≠ some guard ∧ h' = h) := by
  rcases guarded_cases done with ⟨isStatus,handled⟩ | ⟨isOther,rfl⟩
  · cases handled
    exact ⟨.put cfg h sta record,.inl ⟨isStatus,rfl⟩⟩
  · exact ⟨.refl cfg h' sta,.inr ⟨isOther,rfl⟩⟩

/-- The callbacks for stations that are not associated cannot break the agreement. -/
theorem guarded_put_other (cfg : BssConfig) {guard : STAStatus} {record : Option StaInfo} (strict : guard ≠ .associated)
    (done : h.guarded sta guard (some (h.put sta record)) = some h') : Needs cfg h h' sta True := by
  obtain ⟨touches,⟨isStatus,rfl⟩ | ⟨_,rfl⟩⟩ := guarded_put cfg done
  · exact touches.unassociated (s := some guard) isStatus (by simpa using strict)
  · exact touches.keeps id

/-- The callbacks for associated stations. -/
theorem guarded_put_map (cfg : BssConfig) {change : StaInfo → StaInfo}
    (done : h.guarded sta .associated (some (h.put sta ((h.table.lookup sta).map change))) = some h') :
    Needs cfg h h' sta (h.Requires sta (fun record => (change record).Associated)) := by
  obtain ⟨touches,⟨isStatus,rfl⟩ | ⟨isOther,rfl⟩⟩ := guarded_put cfg done
  · refine ⟨touches,fun agrees => ?_⟩
    rw [Option.map_eq_bind,agreesOn_put_bind agrees]
    simp
  · exact ⟨touches,fun agrees => iff_of_true agrees (absurd · isOther)⟩

/-- A timer that runs. -/
theorem timer_put (cfg : BssConfig) {runs : StaInfo → Bool} {handler : StaInfo → Option StaInfo}
    (stepped : ((h.table.lookup sta).filter runs).map (fun record => h.put sta (handler record)) = some h') :
    Needs cfg h h' sta
      (h.Requires sta (fun record => ∃ record', handler record = some record' ∧ record'.Associated)) := by
  obtain ⟨record,found,rfl⟩ := Option.map_eq_some_iff.mp stepped
  have isRecord := (Option.filter_eq_some_iff.mp found).1
  refine ⟨.put cfg h sta (handler record),fun agrees => ?_⟩
  rw [← agreesOn_put_bind agrees,isRecord,Option.bind_some]

/-! ### Management frames -/

theorem transition_status {ap : AccessPoint} {guard target : STAStatus} {thread : Sender}
    (made : h.ap.transition sta guard target thread = some ap) (isStatus : h.ap.status sta = some guard) (other : Mac) :
    ap.status other = if other = sta then some target else h.ap.status other := by
  simpa [isStatus] using AccessPoint.status_transition made other

/-- A report to the controller gives an unassociated station another status, or is not
    made. -/
theorem reportAuth_spec {frame : AuthFrame} {authenticated : Bool} {ap : AccessPoint}
    (isStatus : h.ap.status frame.sta = some .selected) (made : h.reportAuth cfg frame authenticated = some ap) :
    AccessPoint.Step cfg.toAPConfig h.ap ap ∧ ∃ target, target ≠ some .associated ∧
      ∀ other, ap.status other = if other = frame.sta then target else h.ap.status other := by
  unfold reportAuth at made
  split at made
  · refine ⟨?_,some .authenticated,by decide,transition_status made isStatus⟩
    exact @AccessPoint.Step.reacts _ _ _ (.auth frame.sta frame.authAlg) [] (Option.map_eq_some_iff.mpr ⟨_,made,rfl⟩)
  · cases made
    exact ⟨.idle,some .selected,by decide,isStatus ▸ (AccessPoint.Sets.refl h.ap frame.sta).status⟩

theorem handleAuth_agrees {frame : AuthFrame} {results : Results} (done : h.handleAuth cfg frame results = some h') :
    Needs cfg h h' frame.sta True := by
  unfold handleAuth at done
  split at done
  · rcases guarded_cases done with ⟨isStatus,handled⟩ | ⟨_,rfl⟩
    · split at handled
      · cases handled
        exact .refl cfg h frame.sta
      · split at handled
        · cases handled
          exact .refl cfg h frame.sta
        · obtain ⟨ap,made,rfl⟩ := Option.map_eq_some_iff.mp handled
          obtain ⟨stepped,target,unassociated,status⟩ := reportAuth_spec isStatus made
          exact (Touches.both stepped status _).unassociated ((status _).trans (if_pos rfl)) unassociated
    · exact .refl cfg h' frame.sta
  · cases done
    exact .refl cfg h frame.sta

theorem reportAssoc_spec {frame : AssocFrame} {ap : AccessPoint} (isStatus : h.ap.status frame.sta = some .authenticated)
    (made : h.reportAssoc cfg frame = some ap) :
    AccessPoint.Step cfg.toAPConfig h.ap ap ∧ ∃ target, (target = some .associated → frame.accepted = true) ∧
      ∀ other, ap.status other = if other = frame.sta then target else h.ap.status other := by
  unfold reportAssoc at made
  split_ifs at made with accepted reassoc
  · refine ⟨?_,some .associated,fun _ => accepted,transition_status made isStatus⟩
    exact @AccessPoint.Step.reacts _ _ _ (.reassoc frame.sta frame.association) []
      (Option.map_eq_some_iff.mpr ⟨_,made,rfl⟩)
  · refine ⟨?_,some .associated,fun _ => accepted,transition_status made isStatus⟩
    exact @AccessPoint.Step.reacts _ _ _ (.assoc frame.sta frame.association) []
      (Option.map_eq_some_iff.mpr ⟨_,made,rfl⟩)
  · cases made
    exact ⟨.idle,some .authenticated,by simp,isStatus ▸ (AccessPoint.Sets.refl h.ap frame.sta).status⟩

/-- A station becomes associated in the list once the table says so. -/
theorem handleAssoc_agrees {frame : AssocFrame} {results : Results} (done : h.handleAssoc cfg frame results = some h') :
    Needs cfg h h' frame.sta True := by
  unfold handleAssoc at done
  split at done
  · rcases guarded_cases done with ⟨isStatus,handled⟩ | ⟨_,rfl⟩
    · have unchanged : ∀ record, Needs cfg h (h.put frame.sta record) frame.sta True := fun record =>
        (Touches.put cfg h frame.sta record).unassociated (s := some .authenticated) isStatus (by decide)
      split at handled
      · cases handled
        exact .refl cfg h frame.sta
      · cases handled
        exact unchanged _
      · split at handled
        · cases handled
          exact unchanged _
        · obtain ⟨ap,made,rfl⟩ := Option.map_eq_some_iff.mp handled
          obtain ⟨stepped,target,isAccepted,status⟩ := reportAssoc_spec isStatus made
          refine (Touches.both stepped status _).keeps (fun _ associated => ?_)
          have accepted := isAccepted ((if_pos rfl).symm.trans ((status _).symm.trans associated))
          exact ⟨_,by rw [lookup_put,if_pos rfl],StaInfo.handleAssoc_associated accepted⟩
    · exact .refl cfg h' frame.sta
  · cases done
    exact .refl cfg h frame.sta

theorem handleDisassoc_agrees {long : Bool} (done : h.handleDisassoc cfg sta long = some h') :
    Needs cfg h h' sta True := by
  rcases guarded_cases done with ⟨isStatus,handled⟩ | ⟨_,rfl⟩
  · split at handled
    · split at handled
      · cases handled
        exact .refl cfg h sta
      · rename_i record _
        obtain ⟨ap,made,rfl⟩ := Option.map_eq_some_iff.mp handled
        have changed := AccessPoint.handleDisassoc_spec made
        rw [if_pos isStatus] at changed
        refine (Touches.both ?_ changed.status _).unassociated ((changed.status _).trans (if_pos rfl)) (by decide)
        exact @AccessPoint.Step.reacts _ _ _ (.disassoc sta _) [] (Option.map_eq_some_iff.mpr ⟨_,made,rfl⟩)
    · cases handled
      exact .refl cfg h sta
  · exact .refl cfg h' sta

theorem handleDeauth_agrees {long : Bool} (done : h.handleDeauth cfg sta long = some h') :
    Needs cfg h h' sta True := by
  rcases guarded_cases done with ⟨isStatus,handled⟩ | ⟨_,rfl⟩
  · split at handled
    · obtain ⟨ap,made,rfl⟩ := Option.map_eq_some_iff.mp handled
      have status := transition_status made isStatus
      refine (Touches.both ?_ status _).unassociated ((status _).trans (if_pos rfl)) (by decide)
      exact @AccessPoint.Step.reacts _ _ _ (.deauth sta) [] (Option.map_eq_some_iff.mpr ⟨_,made,rfl⟩)
    · cases handled
      exact .refl cfg h sta
  · exact .refl cfg h' sta

/-! ### Messages of the controller -/

/-- What a handover to this access point needs: that the authentication algorithm is
    configured, that there is a record or room for one and that the driver takes the
    station, or else that the station has been associated here before. -/
def Takes (cfg : BssConfig) (h : Hostapd) (sta : Mac) (authAlg : UInt16) (results : Results) : Prop :=
  match h.table.lookup sta with
  | some record => record.assocReqOk = true ∨
      if cfg.supports authAlg then results.added = true ∨ record.readds cfg = false else record.assoc = true
  | none => cfg.supports authAlg = true ∧ h.table.entries.length < cfg.maxNumSta ∧ results.allocated = true ∧
      (results.added = true ∨ cfg.fullApClientState = false)

theorem addSTA_associated (cfg : BssConfig) (h : Hostapd) (sta : Mac) (authAlg : UInt16) (results : Results) :
    (∃ record, h.addSTA cfg sta authAlg results = some record ∧ record.Associated) ↔
      h.Takes cfg sta authAlg results := by
  unfold addSTA Takes apStaAdd
  cases found : h.table.lookup sta with
  | some record =>
    by_cases supported : cfg.supports authAlg = true
    · simp [supported,StaInfo.addSTA_associated]
    · simp [supported,StaInfo.Associated,or_comm]
  | none =>
    by_cases supported : cfg.supports authAlg = true
    · simp only [supported,if_true,true_and]
      split
      · rename_i room
        simp only [Bool.and_eq_true,decide_eq_true_eq] at room
        simp [room,StaInfo.addSTA_associated,StaInfo.create,StaInfo.readds]
      · rename_i full
        simp only [Bool.and_eq_true,decide_eq_true_eq] at full
        simp only [Option.map_none,reduceCtorEq,false_and,exists_false,false_iff]
        exact fun ⟨room,allocated,_⟩ => full ⟨room,allocated⟩
    · simp [supported]

theorem listed_iff : (h.ap.lookupSenderSTA sta).join.isSome = true ↔ h.ap.status sta ≠ none := by
  simp [AccessPoint.status,Option.isSome_iff_ne_none]

theorem unlisted_sets {ap : AccessPoint} {msg : FromController} (listed : h.ap.status sta = none)
    (keeps : msg.apply none = none) (sets : AccessPoint.Sets h.ap ap sta (msg.apply (h.ap.status sta))) (other : Mac) :
    ap.status other = h.ap.status other := by
  rw [sets.status,listed,keeps]
  split
  · rename_i same
    rw [same,listed]
  · rfl

/-- What each step needs so that the tables agree after it; the four that can fail name
    it in terms of the state before. -/
def Kept (cfg : BssConfig) (h : Hostapd) (e : Input × Results) : Prop :=
  match e.1 with
  | .assocCb sta long success ok => h.Requires sta (·.Confirms cfg long success ok e.2)
  | .vendor (.updateSTAAdd sta update) => h.ap.status sta ≠ none → h.Takes cfg sta update.authAlg e.2
  | .timer sta inactiveSec fuzz => h.Requires sta (·.Outlasts cfg inactiveSec fuzz)
  | .sessionTimer sta => h.Requires sta (·.auth = false)
  | _ => True

/-- A handler that is about one station needs what its record needs. -/
theorem Needs.kept_iff {e : Input × Results} {needs : Prop} (handled : Needs cfg h h' sta needs)
    (same : h.AgreesOn sta → (needs ↔ Kept cfg h e)) :
    AccessPoint.Step cfg.toAPConfig h.ap h'.ap ∧ (h.Agrees → (h'.Agrees ↔ Kept cfg h e)) := by
  refine ⟨handled.ap,fun agrees => ?_⟩
  exact (handled.agrees_iff agrees).trans ((handled.agreesOn_iff (agrees sta)).trans (same (agrees sta)))

theorem Needs.kept {e : Input × Results} (handled : Needs cfg h h' sta True) (kept : Kept cfg h e) :
    AccessPoint.Step cfg.toAPConfig h.ap h'.ap ∧ (h.Agrees → (h'.Agrees ↔ Kept cfg h e)) :=
  handled.kept_iff (fun _ => (iff_true_intro kept).symm)

/-- A step that leaves the table alone and makes no station associated in the list. -/
theorem quiet_kept {e : Input × Results} {ap : AccessPoint} (stepped : AccessPoint.Step cfg.toAPConfig h.ap ap)
    (kept : Kept cfg h e)
    (status : ∀ sta, ap.status sta = some .associated → h.ap.status sta = some .associated) :
    AccessPoint.Step cfg.toAPConfig h.ap ap ∧ (h.Agrees → ({ h with ap := ap }.Agrees ↔ Kept cfg h e)) :=
  ⟨stepped,fun agrees => iff_of_true (fun sta isStatus => agrees sta (status sta isStatus)) kept⟩

/-- The two sides of a message of the controller. -/
theorem handleVendor_spec {msg : FromController} {results : Results} (done : h.handleVendor cfg msg results = some h') :
    AccessPoint.Step cfg.toAPConfig h.ap h'.ap ∧ (h.Agrees → (h'.Agrees ↔ Kept cfg h (.vendor msg,results))) := by
  obtain ⟨⟨ap,msgs⟩,made,rfl⟩ := Option.map_eq_some_iff.mp done
  have stepped : AccessPoint.Step cfg.toAPConfig h.ap ap := .receives made
  cases msg with
  | addSTA sta =>
    refine quiet_kept stepped trivial (fun other isStatus => ?_)
    rcases (AccessPoint.handleVendor_sets rfl made).1 with sets | ⟨_,_,_,rfl⟩
    · rw [sets.status] at isStatus
      split at isStatus
      · cases isStatus
      · exact isStatus
    · exact isStatus
  | lastRecPow sta =>
    refine quiet_kept stepped trivial (fun other isStatus => ?_)
    rwa [(AccessPoint.handleVendor_other rfl made).1] at isStatus
  | natAdd sta tuple newPort =>
    refine quiet_kept stepped trivial (fun other isStatus => ?_)
    rwa [(AccessPoint.handleVendor_other rfl made).1] at isStatus
  | removeSTA sta =>
    obtain ⟨sets | ⟨wrong,_⟩,_⟩ := AccessPoint.handleVendor_sets rfl made
    · by_cases listed : h.ap.status sta = none
      · simp only [if_neg (mt listed_iff.mp (not_not.mpr listed))]
        refine quiet_kept stepped trivial (fun other isStatus => ?_)
        rwa [unlisted_sets listed rfl sets] at isStatus
      · simp only [if_pos (listed_iff.mpr listed)]
        have touches := Touches.both stepped sets.status none
        exact (touches.unassociated ((sets.status sta).trans (if_pos rfl)) (by simp [FromController.apply])).kept trivial
    · cases wrong
  | updateSTAAdd sta update =>
    obtain ⟨sets | ⟨wrong,_⟩,_⟩ := AccessPoint.handleVendor_sets rfl made
    · by_cases listed : h.ap.status sta = none
      · simp only [if_neg (mt listed_iff.mp (not_not.mpr listed))]
        refine quiet_kept stepped (absurd listed) (fun other isStatus => ?_)
        rwa [unlisted_sets listed rfl sets] at isStatus
      · simp only [if_pos (listed_iff.mpr listed)]
        refine ⟨stepped,fun agrees => ?_⟩
        obtain ⟨old,isOld⟩ := Option.ne_none_iff_exists'.mp listed
        have isStatus : ap.status sta = some .associated :=
          (sets.status sta).trans ((if_pos rfl).trans (by rw [isOld]; rfl))
        rw [(Touches.both stepped sets.status _).agrees_iff agrees,agreesOn_put isStatus,addSTA_associated]
        exact ⟨fun takes _ => takes,fun kept => kept listed⟩
    · cases wrong

/-- Every step is one of the access point's own, or none of it, and keeps the agreement
    exactly where it meets its condition. -/
theorem step_spec {e : Input × Results} (stepped : h.step cfg e = some h') :
    AccessPoint.Step cfg.toAPConfig h.ap h'.ap ∧ (h.Agrees → (h'.Agrees ↔ Kept cfg h e)) := by
  obtain ⟨input,results⟩ := e
  cases input with
  | auth frame => exact (handleAuth_agrees stepped).kept trivial
  | assoc frame => exact (handleAssoc_agrees stepped).kept trivial
  | disassoc sta long => exact (handleDisassoc_agrees stepped).kept trivial
  | deauth sta long => exact (handleDeauth_agrees stepped).kept trivial
  | authCb sta authAlg transaction success long ok => exact (guarded_put_other cfg (by decide) stepped).kept trivial
  | deauthCb sta => exact (guarded_put_other cfg (by decide) stepped).kept trivial
  | disassocCb sta => exact (guarded_put_other cfg (by decide) stepped).kept trivial
  | action header isPublic handled =>
    refine (guarded_put_map cfg stepped).kept_iff (fun agrees => iff_of_true (agrees.requires fun record before => ?_) trivial)
    split <;> exact before
  | txStatus sta ack =>
    refine (guarded_put_map cfg stepped).kept_iff (fun agrees => iff_of_true (agrees.requires fun record before => ?_) trivial)
    split <;> exact before
  | pollOk sta =>
    cases stepped
    refine ((Touches.put cfg h sta _).keeps fun agrees => ?_).kept trivial
    rw [Option.map_eq_bind,agreesOn_put_bind agrees]
    exact agrees.requires fun record before => ⟨_,rfl,before⟩
  | assocCb sta long success ok =>
    exact (guarded_put_map cfg stepped).kept_iff
      (fun agrees => requires_congr agrees (fun record before => StaInfo.handleAssocCb_associated before))
  | timer sta inactiveSec fuzz =>
    exact (timer_put cfg stepped).kept_iff
      (fun agrees => requires_congr agrees (fun record _ => StaInfo.apHandleTimer_associated cfg record inactiveSec fuzz))
  | sessionTimer sta =>
    exact (timer_put cfg stepped).kept_iff
      (fun agrees => requires_congr agrees (fun record before => StaInfo.apHandleSessionTimer_associated before))
  | vendor msg => exact handleVendor_spec stepped
  | probe sta =>
    cases stepped
    exact ⟨@AccessPoint.Step.reacts _ _ _ (.probe sta) [] rfl,fun agrees => iff_of_true agrees trivial⟩
  | data sta rssi =>
    obtain ⟨⟨ap,msgs⟩,made,rfl⟩ := Option.map_eq_some_iff.mp stepped
    refine quiet_kept (.reacts made) trivial (fun other isStatus => ?_)
    rcases (AccessPoint.processStaData_spec made).1.status other with same | ⟨_,listed⟩
    · exact same ▸ isStatus
    · cases listed.symm.trans isStatus
  | notify i =>
    obtain ⟨⟨ap,msgs⟩,made,rfl⟩ := Option.map_eq_some_iff.mp stepped
    refine quiet_kept (.reacts made) trivial (fun other isStatus => ?_)
    obtain ⟨sta,_,rest⟩ := Option.bind_eq_some_iff.mp made
    obtain ⟨ap',fired,same⟩ := Option.map_eq_some_iff.mp rest
    cases same
    rw [AccessPoint.status_transition fired] at isStatus
    split at isStatus
    · cases isStatus
    · exact isStatus
  | thread i =>
    obtain ⟨⟨ap,msg⟩,made,rfl⟩ := Option.map_eq_some_iff.mp stepped
    obtain ⟨_,_,_,_,_,_,status⟩ := AccessPoint.sendThread_spec made
    refine quiet_kept (.sends made) trivial (fun other isStatus => ?_)
    rwa [status] at isStatus

/-- Along a run the tables agree exactly as long as every step meets its condition. -/
theorem associated_stations_held (cfg : BssConfig) {events : List (Input × Results)} {final : Hostapd}
    (ran : Run.run (step cfg) (init cfg) events = some final) :
    Run.Always (step cfg) Agrees (init cfg) events ↔ Run.Steps (step cfg) (Kept cfg) (init cfg) events :=
  Run.always_iff_steps (fun _ _ _ agrees stepped => (step_spec stepped).2 agrees) (agrees_init cfg) ran

end

/-! ### Three ways to lose a station -/

instance (cfg : BssConfig) (record : StaInfo) (long success ok : Bool) (results : Results) :
    Decidable (record.Confirms cfg long success ok results) := by
  unfold StaInfo.Confirms
  infer_instance

instance (cfg : BssConfig) (record : StaInfo) (inactiveSec : Int) (fuzz : Fin 20) :
    Decidable (record.Outlasts cfg inactiveSec fuzz) := by
  unfold StaInfo.Outlasts StaInfo.GivenUp
  split <;> infer_instance

instance (h : Hostapd) (sta : Mac) (holds : StaInfo → Prop) [DecidablePred holds] : Decidable (h.Requires sta holds) := by
  unfold Requires
  infer_instance

instance (cfg : BssConfig) (h : Hostapd) (sta : Mac) (authAlg : UInt16) (results : Results) :
    Decidable (h.Takes cfg sta authAlg results) := by
  unfold Takes
  split <;> infer_instance

instance (cfg : BssConfig) (h : Hostapd) (e : Input × Results) : Decidable (Kept cfg h e) := by
  unfold Kept
  split <;> infer_instance

/-- An open network with static WEP, on a driver that keeps the state of its stations. -/
def openBss : BssConfig where
  mac := ⟨2,0,0,0,0,1⟩
  ifIP := ⟨10,0,0,1⟩
  subnet := ⟨192,168,1,0⟩
  maxNumSta := 255
  authAlgs := 3
  wpa := false
  ieee8021x := false
  apMaxInactivity := 300
  skipInactivityPoll := false
  fullApClientState := true
  inactivityTimer := false
  dmg := false

def guest : Mac := ⟨2,0,0,7,0,9⟩

/-- Every call succeeds. -/
def works : Results := ⟨true,true,true,true,true,true,true,false,false⟩

/-- The guest is offered admission, authenticates and associates. -/
def guestJoins : List (Input × Results) :=
  [(.vendor (.addSTA guest),works),(.auth ⟨⟨guest,false,1⟩,0,1,true,.accept,false⟩,works),
    (.assoc ⟨⟨guest,false,2⟩,false,true,.accept,none,true,⟨1,0x431,10,Vector.replicate 32 0x96,8,0⟩⟩,works)]

/-- The driver refuses the guest when it is handed over. -/
def guestRefused : List (Input × Results) :=
  [(.vendor (.addSTA guest),works),
    (.vendor (.updateSTAAdd guest ⟨0,1,0x431,10,some (Vector.replicate 32 0x96),8,0⟩),{ works with added := false })]

/-- The guest acknowledges the response and falls silent. -/
def guestSilent : List (Input × Results) :=
  guestJoins ++ [(.assocCb guest true true true,works),(.timer guest 400 0,works),(.timer guest 404 0,works),
    (.timer guest 405 0,works)]

theorem not_agrees {h : Hostapd} {sta : Mac} (lost : h.ap.status sta = some .associated ∧
    (h.table.lookup sta).all (fun record => !record.assoc && !record.assocReqOk) = true) : ¬ h.Agrees := by
  intro agrees
  obtain ⟨record,found,associated⟩ := agrees sta lost.1
  have unflagged := lost.2
  rw [found] at unflagged
  simp only [Option.all_some,Bool.and_eq_true,Bool.not_eq_true'] at unflagged
  rcases associated with assoc | reqOk
  · cases assoc.symm.trans unflagged.1
  · cases reqOk.symm.trans unflagged.2

/-- A response that is not acknowledged, a driver that refuses a handover and the inactivity
    timer each leave a station associated in the list only. -/
theorem associated_in_list_only :
    (∃ final, Run.run (step openBss) (init openBss) (guestJoins ++ [(.assocCb guest true true false,works)]) = some final ∧
      ¬ final.Agrees) ∧
    (∃ final, Run.run (step openBss) (init openBss) guestRefused = some final ∧ ¬ final.Agrees) ∧
    (∃ final, Run.run (step openBss) (init openBss) guestSilent = some final ∧ ¬ final.Agrees) := by
  have lost : ∀ {events : List (Input × Results)}, (∃ final, Run.run (step openBss) (init openBss) events = some final ∧
      (final.ap.status guest = some .associated ∧
        (final.table.lookup guest).all (fun record => !record.assoc && !record.assocReqOk) = true)) →
      ∃ final, Run.run (step openBss) (init openBss) events = some final ∧ ¬ final.Agrees :=
    fun ⟨final,ran,isLost⟩ => ⟨final,ran,not_agrees isLost⟩
  refine ⟨lost (Run.exists_run ?_),lost (Run.exists_run ?_),lost (Run.exists_run ?_)⟩
  · decide +kernel
  · decide +kernel
  · decide +kernel

/-- The guest answers its poll and leaves, and comes back by a handover. -/
def guestLeaves : List (Input × Results) :=
  guestJoins ++ [(.assocCb guest true true true,works),(.timer guest 400 0,works),(.txStatus guest true,works),
    (.timer guest 403 0,works),(.disassoc guest true,works),(.notify 0,works),(.vendor (.addSTA guest),works),
    (.vendor (.updateSTAAdd guest ⟨0,1,0x431,10,some (Vector.replicate 32 0x96),8,0⟩),works)]

theorem guestLeaves_held : ∃ final, Run.run (step openBss) (init openBss) guestLeaves = some final ∧
    final.ap.status guest = some .associated ∧ Run.Always (step openBss) Agrees (init openBss) guestLeaves := by
  obtain ⟨final,ran,isStatus⟩ : ∃ final, Run.run (step openBss) (init openBss) guestLeaves = some final ∧
    final.ap.status guest = some .associated := Run.exists_run (by decide +kernel)
  exact ⟨final,ran,isStatus,(associated_stations_held openBss ran).mpr
    (Run.steps_of_check (fun _ _ => of_decide_eq_true) (by decide +kernel))⟩

end Hostapd
end Handover
