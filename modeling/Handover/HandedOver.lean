import Handover.StationData

/-!
A station that is handed over beside one that joins by itself. `add_STA` repeats three
handlers of `hostapd`, and not all of what they do: it sets neither the authentication
algorithm nor the QoS information, and gives out no AID. On all else the two records
agree, but for the rates in IEEE 802.11ad, which only the handlers leave out.
-/
namespace Handover
open IdPool

/-! ### The flags of an association -/

/-- The key state machine gives the new association up. -/
def Results.givesUp (cfg : BssConfig) (results : Results) : Bool :=
  cfg.wpa && !results.countermeasures && results.disconnected

namespace StaInfo
variable {cfg : BssConfig} {record : StaInfo} {results : Results}

theorem associate_flags (bound : results.bound = true) :
    (record.associate cfg results).auth = (record.auth && !results.givesUp cfg) ∧
    (record.associate cfg results).assoc = !results.givesUp cfg ∧
    (record.associate cfg results).authorized =
      ((record.authorized || !cfg.wpa && !cfg.ieee8021x) && !results.givesUp cfg) := by
  simp only [associate,newAssoc,disconnect,bound,if_true,Results.givesUp]
  cases cfg.wpa <;> cases results.countermeasures <;> cases results.disconnected <;> simp

theorem authReply_flags (record : StaInfo) (success : Bool) (results : Results) :
    (record.authReply success results).auth = record.auth ∧
      (record.authReply success results).authorized = record.authorized := by
  unfold authReply
  split <;> exact ⟨rfl,rfl⟩

theorem addUnassoc_authorized (unauthorized : record.authorized = false) :
    (record.addUnassoc cfg results).1.authorized = false := by
  unfold addUnassoc
  split_ifs
  · rfl
  · rfl
  · exact unauthorized

theorem authSharedKey_flags (record : StaInfo) (frame : AuthFrame) (results : Results) :
    (record.authSharedKey frame results).1.authorized = record.authorized ∧
      ((record.authSharedKey frame results).2 = true → frame.transaction = 3 →
        (record.authSharedKey frame results).1.auth = true) := by
  unfold authSharedKey
  split_ifs with first challenge third
  · exact ⟨rfl,fun _ isThird => absurd (first.symm.trans isThird) (by decide)⟩
  · exact ⟨rfl,fun failed => by cases failed⟩
  · exact ⟨rfl,fun _ _ => rfl⟩
  · exact ⟨rfl,fun failed => by cases failed⟩

/-- A station that is not authorized stays so, and one that has authenticated has the
    flag, and has come to the algorithm. -/
theorem handleAuth_spec (frame : AuthFrame) :
    (record.authorized = false → (record.handleAuth cfg frame results).1.authorized = false) ∧
    ((record.handleAuth cfg frame results).2 = true → (record.handleAuth cfg frame results).1.auth = true ∧
      results.configured = true ∧ ((record.setRadiusInfo frame.acl).addUnassoc cfg results).2 = true) := by
  have same : ((record.setRadiusInfo frame.acl).addUnassoc cfg results).2 =
      ((setRadiusInfo { record with lastSeqCtrl := frame.seqCtrl, lastSubtype := .auth } frame.acl).addUnassoc cfg results).2 := by
    rw [(addUnassoc_spec ..).1,(addUnassoc_spec ..).1]
    rfl
  rw [same]
  simp only [handleAuth]
  split_ifs with configured added isOpen
  · exact ⟨fun unauthorized => ((authReply_flags _ true results).2).trans (addUnassoc_authorized unauthorized),
      fun _ => ⟨(authReply_flags _ true results).1,configured,added⟩⟩
  · refine ⟨fun unauthorized => ?_,fun authenticated => ⟨?_,configured,added⟩⟩
    · rw [(authReply_flags ..).2,(authSharedKey_flags ..).1]
      exact addUnassoc_authorized unauthorized
    · simp only [Bool.and_eq_true,decide_eq_true_eq] at authenticated
      rw [(authReply_flags ..).1]
      exact (authSharedKey_flags ..).2 authenticated.1 authenticated.2
  · exact ⟨fun unauthorized => ((authReply_flags _ false results).2).trans (addUnassoc_authorized unauthorized),
      fun failed => by cases failed⟩
  · exact ⟨fun unauthorized => ((authReply_flags _ false results).2).trans unauthorized,fun failed => by cases failed⟩

end StaInfo

namespace Hostapd
variable {cfg : BssConfig} {h h' : Hostapd} {sta : Mac} {results : Results}

/-- A frame is dropped, or leaves a record with which the station is authenticated only if
    the frame was accepted. -/
theorem handleAuth_cases {frame : AuthFrame} (done : h.handleAuth cfg frame results = some h') :
    h' = h ∨ ∃ record, h.apStaAdd cfg frame.sta results = some record ∧
      h'.table.lookup frame.sta = some (record.handleAuth cfg frame results).1 ∧
      (h'.ap.status frame.sta = some .authenticated → (record.handleAuth cfg frame results).2 = true) ∧
      h.tries cfg frame results =
        (results.configured && ((record.setRadiusInfo frame.acl).addUnassoc cfg results).2) := by
  unfold handleAuth at done
  split at done
  · rename_i admitted
    rcases guarded_cases done with ⟨isStatus,handled⟩ | ⟨_,same⟩
    · split at handled
      · exact .inl (Option.some.inj handled).symm
      · rename_i first
        split at handled
        · exact .inl (Option.some.inj handled).symm
        · rename_i record isRecord
          obtain ⟨ap,made,rfl⟩ := Option.map_eq_some_iff.mp handled
          have reported : h.reportAuth cfg frame (record.handleAuth cfg frame results).2 = some ap := made
          refine .inr ⟨record,isRecord,(lookup_put _ _ _ _).trans (if_pos rfl),fun authenticated => ?_,?_⟩
          · by_contra failed
            rw [reportAuth,if_neg failed] at reported
            cases reported
            exact absurd (isStatus.symm.trans authenticated) (by decide)
          · simp [tries,admitted,isStatus,isRecord,Bool.eq_false_of_not_eq_true first]
    · exact .inl same
  · exact .inl (Option.some.inj done).symm

/-- A station without record gets one with no flag set. -/
theorem apStaAdd_cases {record : StaInfo} (isRecord : h.apStaAdd cfg sta results = some record) :
    h.table.lookup sta = some record ∨ h.table.lookup sta = none ∧ record = .create cfg := by
  unfold apStaAdd at isRecord
  split at isRecord
  · rename_i found
    exact .inl (found.trans isRecord)
  · rename_i found
    split at isRecord
    · exact .inr ⟨found,(Option.some.inj isRecord).symm⟩
    · cases isRecord

/-- An authenticated station that has become associated had its request accepted. -/
theorem handleAssoc_accepts {frame : AssocFrame} {record : StaInfo} (done : h.handleAssoc cfg frame results = some h')
    (before : h.ap.status frame.sta = some .authenticated) (after : h'.ap.status frame.sta = some .associated)
    (found : h.table.lookup frame.sta = some record) (auth : record.auth = true) :
    frame.long = true ∧ frame.accepted = true ∧ record.repeats frame.toHeader frame.subtype = false ∧
      h'.table.lookup frame.sta = some (record.handleAssoc cfg frame results) := by
  have isSta : h.assocSta cfg frame results = some (record,true) := by simp [assocSta,found,auth]
  have changed : h' ≠ h := fun same => absurd (before.symm.trans (same ▸ after)) (by decide)
  unfold handleAssoc at done
  split at done
  · rename_i long
    rcases guarded_cases done with ⟨_,handled⟩ | ⟨isOther,_⟩
    · rw [isSta] at handled
      dsimp only at handled
      split at handled
      · cases handled
        exact absurd (before.symm.trans after) (by decide)
      · rename_i first
        obtain ⟨ap,made,rfl⟩ := Option.map_eq_some_iff.mp handled
        obtain ⟨_,target,isAccepted,status⟩ := reportAssoc_spec before made
        have accepted := isAccepted ((if_pos rfl).symm.trans ((status _).symm.trans after))
        exact ⟨long,accepted,by simpa using first,by rw [lookup_put,if_pos rfl]⟩
    · exact absurd before isOther
  · exact absurd (Option.some.inj done).symm changed

end Hostapd

namespace StaData
variable {cfg : AssocConfig} {data data' : StaData} {request : Request} {staAid staAid' : BitVec 2016} {countermeasures : Bool}

/-- What an accepted request leaves. -/
theorem handleAssoc_accepted (made : data.handleAssoc cfg staAid request countermeasures = ((data',staAid'),true)) :
    ∃ aid rates len, aid ≠ 0 ∧
      (cfg.dmg = true ∧ rates = data.supportedRates ∧ len = data.supportedRatesLen ∨
        cfg.dmg = false ∧ request.rates.length ≤ 32 ∧ rates = Vector.ofFn (fun i => request.rates.getD i 0) ∧
          len = UInt32.ofNat request.rates.length) ∧
      data' = ({ data with
        aid := aid
        capability := request.capability
        listenInterval := request.listenInterval
        qosinfo := request.qosInfo cfg
        supportedRates := rates
        supportedRatesLen := len }.setNonErp cfg).setShortPreamble := by
  simp only [handleAssoc] at made
  split_ifs at made with refused valid
  · cases made
  · split at made
    · cases made
    · rename_i aid got
      cases made
      have isAid := (hostapdGetAid_spec got).1
      rcases checkAssocIes_success valid with ⟨dmg,isData⟩ | ⟨dmg,short,isData⟩
      · exact ⟨_,_,_,isAid,.inl ⟨dmg,rfl,rfl⟩,by rw [isData]⟩
      · exact ⟨_,_,_,isAid,.inr ⟨dmg,short,rfl,rfl⟩,by rw [isData]⟩
  · cases made

end StaData

namespace Bss
variable {cfg : AssocConfig} {b b' : Bss} {sta : Mac}

/-! ### The local path -/

/-- A station that has done no more than to authenticate. -/
structure Fresh (b : Bss) (sta : Mac) (authAlg : UInt16) : Prop where
  data : ∃ a, b.dataOf sta = { StaData.zero with authAlg := a }
  unauthorized : ∀ record, b.process.table.lookup sta = some record → record.authorized = false
  authenticated : b.process.ap.status sta = some .authenticated →
    (b.dataOf sta).authAlg = authAlg ∧ ∃ record, b.process.table.lookup sta = some record ∧ record.auth = true

theorem fresh_selected (absent : b.process.table.lookup sta = none) (selected : b.process.ap.status sta = some .selected)
    (authAlg : UInt16) : Fresh b sta authAlg := by
  refine ⟨⟨0,by simp [dataOf,absent]; rfl⟩,fun record found => ?_,fun authenticated => ?_⟩
  · rw [absent] at found
    cases found
  · exact absurd (selected.symm.trans authenticated) (by decide)

section
variable {frame : AuthFrame} {results : Results}

theorem Fresh.data_handleAuth (fresh : Fresh b frame.sta frame.authAlg)
    (done : b.handleAuth cfg frame results = some b') :
    ∃ a, b'.dataOf frame.sta = { StaData.zero with authAlg := a } := by
  obtain ⟨process,_,rfl⟩ := Option.map_eq_some_iff.mp done
  obtain ⟨a,isData⟩ := fresh.data
  rw [dataOf_settle]
  split
  · rw [isData]
    split
    · exact ⟨frame.authAlg,rfl⟩
    · exact ⟨a,rfl⟩
  · exact ⟨0,rfl⟩

theorem Fresh.unauthorized_handleAuth (fresh : Fresh b frame.sta frame.authAlg)
    (done : b.handleAuth cfg frame results = some b') {record : StaInfo}
    (found : b'.process.table.lookup frame.sta = some record) : record.authorized = false := by
  obtain ⟨process,handled,rfl⟩ := Option.map_eq_some_iff.mp done
  rcases Hostapd.handleAuth_cases handled with rfl | ⟨old,isOld,isNew,_⟩
  · exact fresh.unauthorized record found
  · cases isNew.symm.trans found
    refine (StaInfo.handleAuth_spec frame).1 ?_
    rcases Hostapd.apStaAdd_cases isOld with found | ⟨_,rfl⟩
    · exact fresh.unauthorized old found
    · rfl

theorem Fresh.authenticated_handleAuth (fresh : Fresh b frame.sta frame.authAlg)
    (done : b.handleAuth cfg frame results = some b') (authenticated : b'.process.ap.status frame.sta = some .authenticated) :
    (b'.dataOf frame.sta).authAlg = frame.authAlg ∧
      ∃ record, b'.process.table.lookup frame.sta = some record ∧ record.auth = true := by
  obtain ⟨process,handled,rfl⟩ := Option.map_eq_some_iff.mp done
  rw [dataOf_settle]
  rcases Hostapd.handleAuth_cases handled with rfl | ⟨old,isOld,isNew,isAccepted,isTries⟩
  · obtain ⟨isAlg,record,found,auth⟩ := fresh.authenticated authenticated
    refine ⟨?_,record,found,auth⟩
    rw [if_pos (by rw [found]; rfl)]
    split
    · rfl
    · exact isAlg
  · obtain ⟨auth,configured,added⟩ := (StaInfo.handleAuth_spec frame).2 (isAccepted authenticated)
    refine ⟨?_,_,isNew,auth⟩
    rw [if_pos (by rw [isNew]; rfl),if_pos (by rw [isTries,configured,added]; rfl)]

theorem Fresh.handleAuth (fresh : Fresh b frame.sta frame.authAlg) (done : b.handleAuth cfg frame results = some b') :
    Fresh b' frame.sta frame.authAlg :=
  ⟨fresh.data_handleAuth done,fun _ found => fresh.unauthorized_handleAuth done found,fresh.authenticated_handleAuth done⟩

end

/-- The frames of one authentication. -/
def IsAuth (sta : Mac) (authAlg : UInt16) (e : Event) : Prop :=
  ∃ frame, e.1 = .auth frame ∧ frame.sta = sta ∧ frame.authAlg = authAlg

theorem Fresh.run {authAlg : UInt16} {events : List Event} (fresh : Fresh b sta authAlg)
    (auths : ∀ e ∈ events, IsAuth sta authAlg e) (ran : Run.run (step cfg) b events = some b') : Fresh b' sta authAlg := by
  refine @Run.run_preserves _ _ _ (fun _ e => IsAuth sta authAlg e) (fun b => Fresh b sta authAlg) ?_ _ _ _
    (Run.steps_of_forall auths b) fresh ran
  rintro s ⟨_,results,request⟩ next ⟨frame,rfl,rfl,rfl⟩ before stepped
  exact before.handleAuth stepped

/-- A station whose request was accepted has the fields that the checks have left. -/
theorem proceed_accepts {frame : AssocFrame} {outcome : StaData × BitVec 2016} {results : Results} {record : StaInfo}
    (done : b.proceed cfg frame outcome results = some b')
    (before : b.process.ap.status frame.sta = some .authenticated)
    (after : b'.process.ap.status frame.sta = some .associated)
    (found : b.process.table.lookup frame.sta = some record) (auth : record.auth = true) :
    frame.accepted = true ∧ b'.dataOf frame.sta = outcome.1 ∧
      b'.process.table.lookup frame.sta = some (record.handleAssoc cfg.toBssConfig frame results) := by
  obtain ⟨process,handled,isNext⟩ := Option.map_eq_some_iff.mp done
  have isProcess : b'.process = process := by
    rw [← isNext]
    split
    · split
      · split <;> rfl
      · rfl
    · rfl
  obtain ⟨long,accepted,first,isRecord⟩ := Hostapd.handleAssoc_accepts handled before (isProcess ▸ after) found auth
  have isSta : b.process.assocSta cfg.toBssConfig frame results = some (record,true) := by
    simp [Hostapd.assocSta,found,auth]
  refine ⟨accepted,?_,isProcess ▸ isRecord⟩
  rw [← isNext]
  simp [long,before,isSta,first,dataOf_settle,isRecord]

/-- The flags that a request leaves alone, and the one that it sets. -/
theorem handleAssoc_flags {cfg : BssConfig} {record : StaInfo} {frame : AssocFrame} {results : Results}
    (accepted : frame.accepted = true) :
    (record.handleAssoc cfg frame results).auth = record.auth ∧
      (record.handleAssoc cfg frame results).authorized = record.authorized ∧
      (record.handleAssoc cfg frame results).assocReqOk = true := by
  simp only [StaInfo.handleAssoc,StaInfo.assocReply,StaInfo.addAssociatedSta,accepted,if_true]
  split <;> exact ⟨rfl,rfl,rfl⟩

/-- A fresh station that has become associated. -/
theorem Fresh.associates {authAlg : UInt16} {frame : AssocFrame} {request : Request} {results : Results}
    (fresh : Fresh b frame.sta authAlg) (done : b.handleAssoc cfg frame request results = some b')
    (before : b.process.ap.status frame.sta = some .authenticated)
    (after : b'.process.ap.status frame.sta = some .associated) :
    ∃ record staAid, b'.process.table.lookup frame.sta = some record ∧ record.auth = true ∧ record.authorized = false ∧
      record.assocReqOk = true ∧
      StaData.handleAssoc cfg { StaData.zero with authAlg := authAlg } b.staAid request results.countermeasures =
        ((b'.dataOf frame.sta,staAid),true) := by
  obtain ⟨isAlg,record,found,auth⟩ := fresh.authenticated before
  obtain ⟨a,isData⟩ := fresh.data
  have isStart : b.assocData frame.sta = { StaData.zero with authAlg := authAlg } := by
    rw [assocData,if_pos (by rw [found]; exact auth)]
    rw [isData] at isAlg
    cases isAlg
    exact isData
  unfold handleAssoc at done
  split at done
  rename_i outcome accepted isOutcome
  obtain ⟨isAccepted,isNew,isRecord⟩ := proceed_accepts done before after found auth
  obtain ⟨sameAuth,sameAuthorized,reqOk⟩ := handleAssoc_flags isAccepted
  refine ⟨_,outcome.2,isRecord,sameAuth.trans auth,sameAuthorized.trans (fresh.unauthorized record found),reqOk,?_⟩
  rw [← isStart,isOutcome,show b'.dataOf frame.sta = outcome.1 from isNew,show accepted = true from isAccepted]

/-- The path of a station that authenticates, asks and acknowledges the answer here. -/
inductive Joins (cfg : AssocConfig) (b : Bss) (sta : Mac) (authAlg : UInt16) (request : Request) (results : Results) :
    Bss → Prop where
  | intro {auths : List Event} {tried asked joined : Bss} {frame : AssocFrame} {frameResults : Results} {unread : Request}
    (selected : b.process.ap.status sta = some .selected) (isAuths : ∀ e ∈ auths, IsAuth sta authAlg e)
    (tries : Run.run (step cfg) b auths = some tried)
    (authenticated : tried.process.ap.status sta = some .authenticated) (isSta : frame.sta = sta)
    (asks : tried.step cfg (.assoc frame,frameResults,request) = some asked)
    (associated : asked.process.ap.status sta = some .associated)
    (acknowledges : asked.step cfg (.assocCb sta true true true,results,unread) = some joined) :
    Joins cfg b sta authAlg request results joined

/-- The station has a record with which an association has ended. -/
def EndsAssociated (cfg : AssocConfig) (b : Bss) (sta : Mac) (results : Results) : Prop :=
  ∃ record : StaInfo, record.auth = true ∧ record.authorized = false ∧ record.assocReqOk = true ∧
    b.process.table.lookup sta = some (record.associate cfg.toBssConfig results)

/-- A station that joins here from nothing. -/
theorem Joins.ends {authAlg : UInt16} {request : Request} {results : Results}
    (joins : Joins cfg b sta authAlg request results b') (absent : b.process.table.lookup sta = none) :
    EndsAssociated cfg b' sta results ∧ ∃ staAid staAid' countermeasures,
      StaData.handleAssoc cfg { StaData.zero with authAlg := authAlg } staAid request countermeasures =
        ((b'.dataOf sta,staAid'),true) := by
  obtain ⟨selected,isAuths,tries,authenticated,rfl,asks,associated,acknowledges⟩ := joins
  rename_i auths tried asked frame frameResults unread
  have fresh := (fresh_selected absent selected authAlg).run isAuths tries
  obtain ⟨record,staAid',found,auth,unauthorized,reqOk,isData⟩ := fresh.associates asks authenticated associated
  obtain ⟨process,handled,rfl⟩ := Option.map_eq_some_iff.mp acknowledges
  have isRecord : process.table.lookup frame.sta = some (record.associate cfg.toBssConfig results) := by
    rcases (Hostapd.guarded_put cfg.toBssConfig handled).2 with ⟨_,rfl⟩ | ⟨isOther,_⟩
    · rw [Hostapd.lookup_put,if_pos rfl,found]
      rfl
    · exact absurd associated isOther
  refine ⟨⟨record,auth,unauthorized,reqOk,isRecord⟩,tried.staAid,staAid',frameResults.countermeasures,?_⟩
  have kept : (asked.settle process frame.sta (asked.dataOf frame.sta) asked.staAid).dataOf frame.sta =
      asked.dataOf frame.sta := by
    rw [dataOf_settle,isRecord]
    rfl
  change _ = (((asked.settle process frame.sta (asked.dataOf frame.sta) asked.staAid).dataOf frame.sta,staAid'),true)
  rw [kept]
  exact isData

theorem Joins.allotted {authAlg : UInt16} {request : Request} {results : Results}
    (joins : Joins cfg b sta authAlg request results b') (before : Allotted b.staAid b.aid) : Allotted b'.staAid b'.aid := by
  obtain ⟨_,_,tries,_,_,asks,_,acknowledges⟩ := joins
  have tried := Run.run_invariant (fun _ _ _ kept stepped => allotted_step kept stepped) before tries
  exact allotted_step (allotted_step tried asks) acknowledges

/-! ### The handover -/

/-- The list has of the station what the message says. -/
structure Carries (info : InfoSTA) (update : UpdateSTA) (rates : Vector UInt8 32) : Prop where
  isRates : update.supportedRates = some rates
  fits : update.supportedRatesLen.toNat ≤ 32
  capability : info.capability = update.capability
  listenInterval : info.listenInterval = update.listenInterval
  len : info.supportedRatesLen = update.supportedRatesLen
  rates : ∃ old, info.supportedRates = AccessPoint.copyRates old rates update.supportedRatesLen

theorem carries_updateSTA {ap ap' : AccessPoint} {update : UpdateSTA} (updated : ap.updateSTA sta update = some ap') :
    ∃ info rates, ap'.lookupSenderSTA sta = some (some info) ∧ Carries info update rates := by
  obtain ⟨rates,isRates,rest⟩ := Option.bind_eq_some_iff.mp updated
  split at rest
  · rename_i fits
    obtain ⟨joined,_,filled⟩ := Option.bind_eq_some_iff.mp rest
    obtain ⟨⟨info,found⟩,lookup,_⟩ := AccessPoint.changeSTA_spec (by intro info; rfl) filled
    have isNow := lookup sta
    rw [if_pos rfl,found] at isNow
    exact ⟨_,rates,isNow,isRates,fits,rfl,rfl,rfl,info.supportedRates,rfl⟩
  · cases rest

/-- A new record that `add_STA` has filled. -/
theorem addSTA_create {cfg : BssConfig} {results : Results} (added : ((StaInfo.create cfg).addUnassoc cfg results).2 = true) :
    ∃ record : StaInfo, record.auth = true ∧ record.authorized = false ∧ record.assocReqOk = true ∧
      (StaInfo.create cfg).addSTA cfg results = record.associate cfg results := by
  have added' : (StaInfo.addUnassoc cfg { StaInfo.create cfg with lastSeqCtrl := invalidMgmtSeq } results).2 = true := added
  have unauthorized := @StaInfo.addUnassoc_authorized cfg { StaInfo.create cfg with lastSeqCtrl := invalidMgmtSeq } results rfl
  unfold StaInfo.addSTA
  generalize StaInfo.addUnassoc cfg { StaInfo.create cfg with lastSeqCtrl := invalidMgmtSeq } results = outcome
    at added' unauthorized
  obtain ⟨next,worked⟩ := outcome
  cases added'
  exact ⟨{ next with auth := true, lastSubtype := .assocReq, assocReqOk := true, timeoutNext := .nullfunc },rfl,unauthorized,
    rfl,rfl⟩

/-- What `add_STA` leaves of a station that was not here before. -/
theorem handed_ends {update : UpdateSTA} {results : Results} {unread : Request}
    (handed : b.step cfg (.vendor (.updateSTAAdd sta update),results,unread) = some b')
    (completes : b.process.completes cfg.toBssConfig sta update.authAlg results = true)
    (absent : b.process.table.lookup sta = none) :
    EndsAssociated cfg b' sta results ∧ ∃ info rates, Carries info update rates ∧
      b'.dataOf sta = StaData.zero.addSTA cfg info := by
  obtain ⟨process,handled,rfl⟩ := Option.map_eq_some_iff.mp handed
  have all := completes
  simp only [Hostapd.completes,Bool.and_eq_true,decide_eq_true_eq,Option.any_eq_true] at all
  obtain ⟨⟨listed,supported⟩,created,isCreated,added⟩ := all
  rcases Hostapd.apStaAdd_cases isCreated with found | ⟨_,rfl⟩
  · rw [absent] at found
    cases found
  obtain ⟨record,auth,unauthorized,reqOk,isRecord⟩ := addSTA_create added
  obtain ⟨⟨ap,msgs⟩,made,rfl⟩ := Option.map_eq_some_iff.mp handled
  obtain ⟨before,isBefore⟩ := AccessPoint.record_of_listed (by simpa using listed)
  have updated : b.process.ap.updateSTA sta update = some ap := by
    simp only [AccessPoint.handleVendor,isBefore,Option.bind_some,Option.isSome_some,if_true] at made
    obtain ⟨ap',isUpdated,same⟩ := Option.map_eq_some_iff.mp made
    cases same
    exact isUpdated
  obtain ⟨info,rates,isInfo,carries⟩ := carries_updateSTA updated
  have isAdded : b.process.addSTA cfg.toBssConfig sta update.authAlg results =
      some (record.associate cfg.toBssConfig results) := by
    rw [Hostapd.addSTA,if_pos supported,isCreated,← isRecord]
    rfl
  have isFresh : b.dataOf sta = .zero := by simp [dataOf,absent]
  simp only [isBefore,Option.join_some,Option.isSome_some,if_true,completes,isFresh]
  have isPut : (Hostapd.put { b.process with ap := ap } sta
      (b.process.addSTA cfg.toBssConfig sta update.authAlg results)).table.lookup sta =
      some (record.associate cfg.toBssConfig results) := by
    rw [Hostapd.lookup_put,if_pos rfl,isAdded]
  refine ⟨⟨record,auth,unauthorized,reqOk,isPut⟩,info,rates,carries,?_⟩
  have isInfo' : (Hostapd.put { b.process with ap := ap } sta
      (b.process.addSTA cfg.toBssConfig sta update.authAlg results)).ap.lookupSenderSTA sta = some (some info) := isInfo
  rw [dataOf_settle,isPut,isInfo']
  rfl

/-! ### The two compared -/

/-- The message and the frames have the same parameters. -/
structure SameParameters (authAlg : UInt16) (request : Request) (update : UpdateSTA) : Prop where
  authAlg : update.authAlg = authAlg
  capability : update.capability = request.capability
  listenInterval : update.listenInterval = request.listenInterval
  len : update.supportedRatesLen.toNat = request.rates.length
  rates : ∀ v, update.supportedRates = some v → ∀ i : Fin 32, i.val < request.rates.length →
    v.get i = request.rates.getD i 0
  qosinfo : update.qosinfo = (request.wmm.map Prod.snd).getD 0

section
variable {authAlg : UInt16} {request : Request} {update : UpdateSTA}

/-- The rates come through the list as they are merged from the frame. -/
theorem SameParameters.copied (same : SameParameters authAlg request update) {info : InfoSTA} {rates : Vector UInt8 32}
    (carries : Carries info update rates) :
    AccessPoint.copyRates StaData.zero.supportedRates info.supportedRates info.supportedRatesLen =
      Vector.ofFn (fun i => request.rates.getD i 0) := by
  obtain ⟨old,isCopied⟩ := carries.rates
  refine Vector.ext (fun i inside => ?_)
  rw [isCopied,carries.len]
  by_cases known : i < request.rates.length
  · have there := same.rates rates carries.isRates ⟨i,inside⟩ known
    have there' : rates[i] = request.rates.getD i 0 := there
    simp [AccessPoint.copyRates,same.len,known,there']
  · simp [AccessPoint.copyRates,same.len,known,StaData.zero]

/-- The rates of both paths: a request of IEEE 802.11ad leaves them alone, any other has the
    rates that the message carries. -/
theorem SameParameters.rates_iff {info : InfoSTA} {rates merged : Vector UInt8 32} {len : UInt32}
    (same : SameParameters authAlg request update) (carries : Carries info update rates)
    (isRates : cfg.dmg = true ∧ merged = StaData.zero.supportedRates ∧ len = StaData.zero.supportedRatesLen ∨
      cfg.dmg = false ∧ request.rates.length ≤ 32 ∧ merged = Vector.ofFn (fun i => request.rates.getD i 0) ∧
        len = UInt32.ofNat request.rates.length) :
    merged = AccessPoint.copyRates StaData.zero.supportedRates info.supportedRates info.supportedRatesLen ∧
      len = info.supportedRatesLen ↔ cfg.dmg = false ∨ request.rates = [] := by
  have copied := same.copied carries
  have isLen : info.supportedRatesLen.toNat = request.rates.length := carries.len ▸ same.len
  obtain ⟨dmg,isMerged,isLength⟩ | ⟨dmg,short,isMerged,isLength⟩ := isRates
  · rw [isMerged,isLength,dmg]
    constructor
    · rintro ⟨_,sameLen⟩
      rw [← sameLen] at isLen
      exact .inr (List.eq_nil_of_length_eq_zero isLen.symm)
    · rintro (isNot | isEmpty)
      · cases isNot
      · rw [isEmpty] at isLen copied
        exact ⟨copied.symm,UInt32.toNat_inj.mp isLen.symm⟩
  · refine iff_of_true ⟨isMerged.trans copied.symm,UInt32.toNat_inj.mp ?_⟩ (.inl dmg)
    rw [isLength,isLen,UInt32.toNat_ofNat']
    omega

/-- What both paths leave in the fields, where the frame's outcome was an association. -/
theorem data_compared {data : StaData} {staAid staAid' : BitVec 2016} {countermeasures : Bool} {info : InfoSTA}
    {rates : Vector UInt8 32}
    (made : StaData.handleAssoc cfg { StaData.zero with authAlg := authAlg } staAid request countermeasures =
      ((data,staAid'),true))
    (carries : Carries info update rates) (same : SameParameters authAlg request update) :
    let other := StaData.zero.addSTA cfg info
    (data.nonErp = other.nonErp ∧ data.shortPreamble = other.shortPreamble) ∧
    (data.capability = other.capability ∧ data.listenInterval = other.listenInterval) ∧
    (data.authAlg = other.authAlg ↔ authAlg = 0) ∧
    (data.supportedRates = other.supportedRates ∧ data.supportedRatesLen = other.supportedRatesLen ↔
      cfg.dmg = false ∨ request.rates = []) ∧
    (data.qosinfo = other.qosinfo ↔ request.qosInfo cfg = 0) ∧
    data.aid ≠ 0 ∧ other.aid = 0 := by
  obtain ⟨aid,merged,len,isAid,isRates,rfl⟩ := StaData.handleAssoc_accepted made
  have merges := same.rates_iff carries isRates
  intro other
  refine ⟨⟨?_,?_⟩,⟨?_,?_⟩,Iff.rfl,merges,Iff.rfl,isAid,rfl⟩
  · -- in IEEE 802.11ad the flag is not set at all, otherwise the rates are the same
    cases dmg : cfg.dmg with
    | true =>
      have isNotG : cfg.modeG = false := by simpa [dmg] using cfg.oneMode
      simp [other,StaData.addSTA,StaData.setNonErp,StaData.setShortPreamble,StaData.zero,isNotG]
    | false =>
      obtain ⟨isMerged,isLength⟩ := merges.mpr (.inl dmg)
      rw [isMerged,isLength]
      rfl
  · exact congrArg (fun w : UInt16 => w.toNat.testBit 5) (carries.capability.trans same.capability).symm
  · exact (carries.capability.trans same.capability).symm
  · exact (carries.listenInterval.trans same.listenInterval).symm

/-- The flags of the two stations agree. -/
structure SameFlags (record other : StaInfo) (data otherData : StaData) : Prop where
  auth : record.auth = other.auth
  assoc : record.assoc = other.assoc
  assocReqOk : record.assocReqOk = other.assocReqOk
  authorized : record.authorized = other.authorized
  nonErp : data.nonErp = otherData.nonErp
  shortPreamble : data.shortPreamble = otherData.shortPreamble

theorem EndsAssociated.flags {results : Results} (ends : EndsAssociated cfg b sta results) (bound : results.bound = true) :
    ∃ record, b.process.table.lookup sta = some record ∧ record.auth = !results.givesUp cfg.toBssConfig ∧
      record.assoc = !results.givesUp cfg.toBssConfig ∧ record.assocReqOk = true ∧
      record.authorized = (!cfg.wpa && !cfg.ieee8021x && !results.givesUp cfg.toBssConfig) := by
  obtain ⟨record,auth,unauthorized,reqOk,found⟩ := ends
  obtain ⟨isAuth,isAssoc,isAuthorized⟩ := @StaInfo.associate_flags cfg.toBssConfig record results bound
  rw [auth,Bool.true_and] at isAuth
  rw [unauthorized,Bool.false_or] at isAuthorized
  exact ⟨_,found,isAuth,isAssoc,(StaInfo.associate_assocReqOk ..).trans reqOk,isAuthorized⟩

/-- Where a station joins here and where it is handed over with the same parameters, the
    flags agree as far as the key state machine does, and capability and listen interval
    agree. The algorithm agrees if it is open system, the rates outside IEEE 802.11ad, the
    QoS information if there is none; and only the first has an AID, of its own. -/
theorem handedOver_agrees_iff {past : List Event} (reached : Run.run (step cfg) (init cfg) past = some b)
    (absent : b.process.table.lookup sta = none) {results : Results} {joined : Bss}
    (joins : Joins cfg b sta authAlg request results joined) (bound : results.bound = true)
    {results' : Results} {unread : Request} {handed : Bss}
    (hands : b.step cfg (.vendor (.updateSTAAdd sta update),results',unread) = some handed)
    (completes : b.process.completes cfg.toBssConfig sta update.authAlg results' = true) (bound' : results'.bound = true)
    (same : SameParameters authAlg request update) :
    ∃ record record', joined.process.table.lookup sta = some record ∧ handed.process.table.lookup sta = some record' ∧
      (SameFlags record record' (joined.dataOf sta) (handed.dataOf sta) ↔
        results.givesUp cfg.toBssConfig = results'.givesUp cfg.toBssConfig) ∧
      ((joined.dataOf sta).capability = (handed.dataOf sta).capability ∧
        (joined.dataOf sta).listenInterval = (handed.dataOf sta).listenInterval) ∧
      ((joined.dataOf sta).authAlg = (handed.dataOf sta).authAlg ↔ authAlg = 0) ∧
      ((joined.dataOf sta).supportedRates = (handed.dataOf sta).supportedRates ∧
        (joined.dataOf sta).supportedRatesLen = (handed.dataOf sta).supportedRatesLen ↔
          cfg.dmg = false ∨ request.rates = []) ∧
      ((joined.dataOf sta).qosinfo = (handed.dataOf sta).qosinfo ↔ request.qosInfo cfg = 0) ∧
      (joined.aid sta ≠ 0 ∧ ∀ other, other ≠ sta → joined.aid other ≠ joined.aid sta) ∧ handed.aid sta = 0 := by
  obtain ⟨ends,staAid,staAid',countermeasures,made⟩ := joins.ends absent
  obtain ⟨ends',info,rates,carries,isData⟩ := handed_ends hands completes absent
  obtain ⟨record,found,auth,assoc,reqOk,authorized⟩ := ends.flags bound
  obtain ⟨record',found',auth',assoc',reqOk',authorized'⟩ := ends'.flags bound'
  obtain ⟨⟨nonErp,preamble⟩,copied,isAlg,isRates,isQos,isAid,noAid⟩ := data_compared made carries same
  rw [← isData] at nonErp preamble copied isAlg isRates isQos noAid
  have allotted := joins.allotted (allotted_run reached)
  refine ⟨record,record',found,found',?_,copied,isAlg,isRates,isQos,⟨isAid,fun other isOther equal => ?_⟩,noAid⟩
  · constructor
    · intro flags
      have both := flags.assoc
      rw [assoc,assoc'] at both
      exact Bool.not_inj both
    · intro both
      refine ⟨?_,?_,reqOk.trans reqOk'.symm,?_,nonErp,preamble⟩
      · rw [auth,auth',both]
      · rw [assoc,assoc',both]
      · rw [authorized,authorized',both]
  · exact isOther (allotted.apart other sta (equal ▸ isAid) equal)

end

/-! ### A guest with WEP and WMM -/

/-- The state after the events, if they can happen. -/
def after (cfg : AssocConfig) (b : Bss) (events : List Event) : Bss := (Run.run (step cfg) b events).getD b

theorem run_after {events : List Event} (runs : (Run.run (step cfg) b events).isSome = true) :
    Run.run (step cfg) b events = some (b.after cfg events) := by
  unfold after
  cases ran : Run.run (step cfg) b events with
  | none =>
    rw [ran] at runs
    cases runs
  | some final => rfl

theorem step_after {e : Event} (runs : (b.step cfg e).isSome = true) : b.step cfg e = some (b.after cfg [e]) := by
  have same : Run.run (step cfg) b [e] = b.step cfg e := by simp [Run.run]
  rw [← same] at runs ⊢
  exact run_after runs

open Hostapd (openBss guest works)

def wepBss : AssocConfig := { openBss with modeG := true, wmmEnabled := true, maxListenInterval := 65535, oneMode := rfl }

def wish : Request := ⟨0x431,10,true,some (true,3),true,some [0x82,0x84,0x8b,0x96],[0x30,0x48],true⟩

/-- The guest is offered admission. -/
def offered : Bss := (init wepBss).after wepBss [(.vendor (.addSTA guest),works,wish)]

def sharedKey : List Event :=
  [(.auth ⟨⟨guest,false,1⟩,1,1,true,.accept,false⟩,works,wish),(.auth ⟨⟨guest,false,2⟩,1,3,true,.accept,true⟩,works,wish)]

def asking : Event := (.assoc ⟨⟨guest,false,3⟩,false,true,.accept,none,true,StaData.zero.association⟩,works,wish)

/-- The guest has joined. -/
def joined : Bss :=
  ((offered.after wepBss sharedKey).after wepBss [asking]).after wepBss [(.assocCb guest true true true,works,wish)]

def told : UpdateSTA := ⟨1,1,0x431,10,some (Vector.ofFn (fun i => wish.rates.getD i 0)),6,3⟩

/-- The guest is handed over instead. -/
def handed : Bss := offered.after wepBss [(.vendor (.updateSTAAdd guest told),works,wish)]

theorem offered_reached :
    Run.run (step wepBss) (init wepBss) [(.vendor (.addSTA guest),works,wish)] = some offered ∧
      offered.process.table.lookup guest = none :=
  ⟨run_after (by decide +kernel),by decide +kernel⟩

theorem joined_joins : Joins wepBss offered guest 1 wish works joined := by
  have tries : Run.run (step wepBss) offered sharedKey = some (offered.after wepBss sharedKey) := run_after (by decide +kernel)
  have asks : (offered.after wepBss sharedKey).step wepBss asking = some _ := step_after (by decide +kernel)
  refine .intro (by decide +kernel) ?_ tries (by decide +kernel) rfl asks (by decide +kernel)
    (step_after (by decide +kernel))
  intro e member
  simp only [sharedKey,List.mem_cons,List.not_mem_nil,or_false] at member
  rcases member with rfl | rfl
  · exact ⟨_,rfl,rfl,rfl⟩
  · exact ⟨_,rfl,rfl,rfl⟩

theorem handed_steps : offered.step wepBss (.vendor (.updateSTAAdd guest told),works,wish) = some handed ∧
    offered.process.completes wepBss.toBssConfig guest told.authAlg works = true :=
  ⟨step_after (by decide +kernel),by decide +kernel⟩

theorem told_same : SameParameters 1 wish told := by
  refine ⟨rfl,rfl,rfl,rfl,fun v isRates i known => ?_,rfl⟩
  cases isRates
  change (Vector.ofFn (fun i : Fin 32 => wish.rates.getD i 0))[i] = wish.rates.getD i 0
  simp

/-- The flags, the capability, the listen interval and the rates of the guest agree, and
    the guest that joins has an AID of its own. -/
theorem guest_flags_agree : ∃ record record', joined.process.table.lookup guest = some record ∧
    handed.process.table.lookup guest = some record' ∧
    SameFlags record record' (joined.dataOf guest) (handed.dataOf guest) ∧
    (joined.dataOf guest).supportedRates = (handed.dataOf guest).supportedRates ∧ joined.aid guest ≠ 0 := by
  obtain ⟨record,record',found,found',flags,_,_,rates,_,owns,_⟩ := handedOver_agrees_iff offered_reached.1 offered_reached.2
    joined_joins rfl handed_steps.1 handed_steps.2 rfl told_same
  exact ⟨record,record',found,found',flags.mpr rfl,(rates.mpr (.inl rfl)).1,owns.1⟩

/-- A guest that authenticates by a shared key and uses WMM joins with that algorithm,
    with its QoS information and with an AID; handed over with the same parameters it has
    none of the three. -/
theorem guest_handed_over_differs :
    offered.process.table.lookup guest = none ∧ Joins wepBss offered guest 1 wish works joined ∧
    offered.step wepBss (.vendor (.updateSTAAdd guest told),works,wish) = some handed ∧
    offered.process.completes wepBss.toBssConfig guest told.authAlg works = true ∧ SameParameters 1 wish told ∧
    ((joined.dataOf guest).authAlg,(joined.dataOf guest).qosinfo,joined.aid guest) = (1,3,1) ∧
    ((handed.dataOf guest).authAlg,(handed.dataOf guest).qosinfo,handed.aid guest) = (0,0,0) :=
  ⟨offered_reached.2,joined_joins,handed_steps.1,handed_steps.2,told_same,by decide +kernel,by decide +kernel⟩

end Bss
end Handover
