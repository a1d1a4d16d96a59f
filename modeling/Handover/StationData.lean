import Handover.IdPool
import Handover.StationTable

/-!
What an association leaves in `struct sta_info` besides the flags of the station table:
two flags more, the parameters of the station and its AID. The handlers are those of the
table; where one of them comes to fill these fields it does so here. No two stations
ever have the same AID.
-/
namespace Handover
open IdPool

/-- What the handlers of associations read besides; `modeG` is IEEE 802.11g. -/
structure AssocConfig extends BssConfig where
  modeG : Bool
  wmmEnabled : Bool
  maxListenInterval : UInt16
  oneMode : (modeG && dmg) = false

/-- The other fields of `struct sta_info` that an association fills. -/
structure StaData where
  nonErp : Bool
  shortPreamble : Bool
  aid : Nat
  authAlg : UInt16
  capability : UInt16
  listenInterval : UInt16
  supportedRates : Vector UInt8 32
  supportedRatesLen : UInt32
  qosinfo : UInt8
deriving DecidableEq

/-- What an association request asks for. `ssid` says that the elements can be parsed and
    name the network, `wmm` is the WMM element and whether it is valid, and `extCapab` and
    `others` are the checks before and behind the rates. -/
structure Request where
  capability : UInt16
  listenInterval : UInt16
  ssid : Bool
  wmm : Option (Bool × UInt8)
  extCapab : Bool
  suppRates : Option (List UInt8)
  extSuppRates : List UInt8
  others : Bool

/-- The rates of the request, as they are merged. -/
def Request.rates (request : Request) : List UInt8 := request.suppRates.getD [] ++ request.extSuppRates

/-- `hostapd_get_aid`: the bitmap and the AID afterwards, unless there is none left. The
    words of `sta_aid` stand in a row. -/
def hostapdGetAid (staAid : BitVec 2016) (aid : Nat) : Option (BitVec 2016 × Nat) :=
  if 0 < aid then some (staAid,aid)
  else (lowest staAid).bind (fun k => if 2007 < k + 1 then none else some (mark staAid k,k + 1))

namespace StaData

/-- From `os_zalloc`. -/
def zero : StaData := ⟨false,false,0,0,0,0,Vector.replicate 32 0,0,0⟩

def checkWmm (cfg : AssocConfig) (data : StaData) (request : Request) : StaData × Bool :=
  match request.wmm with
  | some (valid,qosInfo) =>
    if cfg.wmmEnabled then
      if valid then ({ data with qosinfo := qosInfo },true) else ({ data with qosinfo := 0 },false)
    else ({ data with qosinfo := 0 },true)
  | none => ({ data with qosinfo := 0 },true)

def copySuppRates (cfg : AssocConfig) (data : StaData) (request : Request) : StaData × Bool :=
  if cfg.dmg then (data,true)
  else if request.suppRates.isSome && request.rates.length ≤ 32 then
    ({ data with
      supportedRates := Vector.ofFn (fun i => request.rates.getD i 0)
      supportedRatesLen := UInt32.ofNat request.rates.length },true)
  else (data,false)

def checkAssocIes (cfg : AssocConfig) (data : StaData) (request : Request) : StaData × Bool :=
  if request.ssid then
    let (data,valid) := data.checkWmm cfg request
    if valid && request.extCapab then
      let (data,copied) := data.copySuppRates cfg request
      (data,copied && request.others)
    else (data,false)
  else (data,false)

/-- Only rates of IEEE 802.11b; any other clears the flag. -/
def setNonErp (cfg : AssocConfig) (data : StaData) : StaData :=
  { data with
    nonErp := (data.nonErp || cfg.modeG) &&
      !(data.supportedRates.toList.take data.supportedRatesLen.toNat).any (fun rate => 22 < rate &&& 0x7f) }

def setShortPreamble (data : StaData) : StaData := { data with shortPreamble := data.capability.toNat.testBit 5 }

/-- What `handle_assoc` does with the request of an authenticated station, and whether
    the answer is success. -/
def handleAssoc (cfg : AssocConfig) (data : StaData) (staAid : BitVec 2016) (request : Request) (countermeasures : Bool) :
    (StaData × BitVec 2016) × Bool :=
  if countermeasures || cfg.maxListenInterval < request.listenInterval then ((data,staAid),false)
  else
    let (data,valid) := { data with capability := request.capability }.checkAssocIes cfg request
    if valid then
      match hostapdGetAid staAid data.aid with
      | none => ((data,staAid),false)
      | some (staAid,aid) =>
        ((({ data with aid := aid, listenInterval := request.listenInterval }.setNonErp cfg).setShortPreamble,staAid),true)
    else ((data,staAid),false)

/-- What `add_STA` copies. -/
def addSTA (cfg : AssocConfig) (data : StaData) (info : InfoSTA) : StaData :=
  ({ data with
    capability := info.capability
    listenInterval := info.listenInterval
    supportedRates := AccessPoint.copyRates data.supportedRates info.supportedRates info.supportedRatesLen
    supportedRatesLen := info.supportedRatesLen }.setNonErp cfg).setShortPreamble

/-- What is reported of it to the controller. -/
def association (data : StaData) : Association :=
  ⟨UInt16.ofNat data.aid,data.capability,data.listenInterval,data.supportedRates,data.supportedRatesLen,data.qosinfo⟩

end StaData

namespace Hostapd

/-- The station whose record the handler may change. -/
def Input.station : Input → Option Mac
  | .auth frame => some frame.sta
  | .assoc frame => some frame.sta
  | .disassoc sta _ => some sta
  | .deauth sta _ => some sta
  | .action header _ _ => some header.sta
  | .authCb sta _ _ _ _ _ => some sta
  | .assocCb sta _ _ _ => some sta
  | .deauthCb sta => some sta
  | .disassocCb sta => some sta
  | .txStatus sta _ => some sta
  | .pollOk sta => some sta
  | .vendor (.updateSTAAdd sta _) => some sta
  | .vendor (.removeSTA sta) => some sta
  | .timer sta _ _ => some sta
  | .sessionTimer sta => some sta
  | .probe _ | .data _ _ | .vendor _ | .notify _ | .thread _ => none

/-- `handle_auth` comes to the algorithm. -/
def tries (cfg : BssConfig) (h : Hostapd) (frame : AuthFrame) (results : Results) : Bool :=
  admits cfg frame && h.ap.status frame.sta = some .selected &&
    !(h.table.lookup frame.sta).any (fun record => record.repeats frame.toHeader .auth) &&
    (h.apStaAdd cfg frame.sta results).any (fun record =>
      results.configured && ((record.setRadiusInfo frame.acl).addUnassoc cfg results).2)

/-- `add_STA` does not return early. -/
def completes (cfg : BssConfig) (h : Hostapd) (sta : Mac) (authAlg : UInt16) (results : Results) : Bool :=
  h.ap.status sta ≠ none && cfg.supports authAlg &&
    (h.apStaAdd cfg sta results).any (fun record => (record.addUnassoc cfg results).2)

end Hostapd

/-- The process with all fields of its stations, and the AIDs that are taken. -/
structure Bss where
  process : Hostapd
  data : Mac → StaData
  staAid : BitVec 2016

namespace Bss

def init (cfg : AssocConfig) : Bss := ⟨.init cfg.toBssConfig,fun _ => .zero,0⟩

/-- The fields with which a handler begins. -/
def dataOf (b : Bss) (sta : Mac) : StaData := if (b.process.table.lookup sta).isSome then b.data sta else .zero

/-- The AID of a station in the table, or zero. -/
def aid (b : Bss) (sta : Mac) : Nat := (b.dataOf sta).aid

/-- After a handler; if it has freed the station, its AID is free. -/
def settle (b : Bss) (process : Hostapd) (sta : Mac) (data : StaData) (staAid : BitVec 2016) : Bss where
  process := process
  data := Function.update b.data sta data
  staAid := if (process.table.lookup sta).isSome then staAid else release staAid data.aid

def handleAuth (cfg : AssocConfig) (b : Bss) (frame : AuthFrame) (results : Results) : Option Bss :=
  (b.process.handleAuth cfg.toBssConfig frame results).map (fun process =>
    let data := b.dataOf frame.sta
    let data := if b.process.tries cfg.toBssConfig frame results then { data with authAlg := frame.authAlg } else data
    b.settle process frame.sta data b.staAid)

/-- The fields where the checks of a request begin; without authentication, in IEEE
    802.11ad, the algorithm is set here. -/
def assocData (b : Bss) (sta : Mac) : StaData :=
  if (b.process.table.lookup sta).any (·.auth) then b.dataOf sta else { b.dataOf sta with authAlg := 0 }

/-- The process goes on with the frame, and the fields with the outcome of its checks if
    it comes to them. -/
def proceed (cfg : AssocConfig) (b : Bss) (frame : AssocFrame) (outcome : StaData × BitVec 2016) (results : Results) :
    Option Bss :=
  (b.process.handleAssoc cfg.toBssConfig frame results).map (fun process =>
    if frame.long && b.process.ap.status frame.sta = some .authenticated then
      match b.process.assocSta cfg.toBssConfig frame results with
      | some (record,true) =>
        if record.repeats frame.toHeader frame.subtype then b.settle process frame.sta (b.assocData frame.sta) b.staAid
        else b.settle process frame.sta outcome.1 outcome.2
      | _ => b.settle process frame.sta (b.dataOf frame.sta) b.staAid
    else b.settle process frame.sta (b.dataOf frame.sta) b.staAid)

/-- Whether the frame is accepted, and what is reported of it, is for the checks to say. -/
def handleAssoc (cfg : AssocConfig) (b : Bss) (frame : AssocFrame) (request : Request) (results : Results) : Option Bss :=
  let (outcome,accepted) := (b.assocData frame.sta).handleAssoc cfg b.staAid request results.countermeasures
  b.proceed cfg { frame with accepted := accepted, association := outcome.1.association } outcome results

/-- `WLAN_UPDATE_STA_ADD`: the list is updated, and then `add_STA` reads it. -/
def updateSTAAdd (cfg : AssocConfig) (b : Bss) (sta : Mac) (update : UpdateSTA) (results : Results) : Option Bss :=
  (b.process.handleVendor cfg.toBssConfig (.updateSTAAdd sta update) results).map (fun process =>
    let data := b.dataOf sta
    let data := if b.process.completes cfg.toBssConfig sta update.authAlg results then
      ((process.ap.lookupSenderSTA sta).join.map (data.addSTA cfg)).getD data else data
    b.settle process sta data b.staAid)

/-- The request is read where the input is an association frame. -/
abbrev Event := Hostapd.Input × Results × Request

def step (cfg : AssocConfig) (b : Bss) (e : Event) : Option Bss :=
  match e.1 with
  | .auth frame => b.handleAuth cfg frame e.2.1
  | .assoc frame => b.handleAssoc cfg frame e.2.2 e.2.1
  | .vendor (.updateSTAAdd sta update) => b.updateSTAAdd cfg sta update e.2.1
  | input => (b.process.step cfg.toBssConfig (input,e.2.1)).map (fun process =>
      match input.station with
      | some sta => b.settle process sta (b.dataOf sta) b.staAid
      | none => { b with process := process })

end Bss

namespace Hostapd

/-- A step changes the table for its own station at most. -/
theorem step_table {cfg : BssConfig} {h h' : Hostapd} {e : Input × Results} (stepped : h.step cfg e = some h') (other : Mac)
    (isOther : e.1.station ≠ some other) : h'.table.lookup other = h.table.lookup other := by
  obtain ⟨input,results⟩ := e
  have ne : ∀ {sta : Mac}, some sta ≠ some other → other ≠ sta := fun differs same => differs (same ▸ rfl)
  cases input with
  | auth frame => exact (handleAuth_agrees stepped).table other (ne isOther)
  | assoc frame => exact (handleAssoc_agrees stepped).table other (ne isOther)
  | disassoc sta long => exact (handleDisassoc_agrees stepped).table other (ne isOther)
  | deauth sta long => exact (handleDeauth_agrees stepped).table other (ne isOther)
  | action header isPublic handled => exact (guarded_put cfg stepped).1.table other (ne isOther)
  | authCb sta authAlg transaction success long ok => exact (guarded_put cfg stepped).1.table other (ne isOther)
  | assocCb sta long success ok => exact (guarded_put cfg stepped).1.table other (ne isOther)
  | deauthCb sta => exact (guarded_put cfg stepped).1.table other (ne isOther)
  | disassocCb sta => exact (guarded_put cfg stepped).1.table other (ne isOther)
  | txStatus sta ack => exact (guarded_put cfg stepped).1.table other (ne isOther)
  | pollOk sta =>
    cases stepped
    exact (Touches.put cfg h sta _).table other (ne isOther)
  | timer sta inactiveSec fuzz => exact (timer_put cfg stepped).table other (ne isOther)
  | sessionTimer sta => exact (timer_put cfg stepped).table other (ne isOther)
  | probe sta =>
    cases stepped
    rfl
  | data sta rssi =>
    obtain ⟨⟨ap,msgs⟩,_,rfl⟩ := Option.map_eq_some_iff.mp stepped
    rfl
  | notify i =>
    obtain ⟨⟨ap,msgs⟩,_,rfl⟩ := Option.map_eq_some_iff.mp stepped
    rfl
  | thread i =>
    obtain ⟨⟨ap,msg⟩,_,rfl⟩ := Option.map_eq_some_iff.mp stepped
    rfl
  | vendor msg =>
    obtain ⟨⟨ap,msgs⟩,_,rfl⟩ := Option.map_eq_some_iff.mp stepped
    cases msg with
    | addSTA sta => rfl
    | lastRecPow sta => rfl
    | natAdd sta tuple newPort => rfl
    | updateSTAAdd sta update =>
      dsimp only
      split
      · rw [lookup_put,if_neg (ne isOther)]
      · rfl
    | removeSTA sta =>
      dsimp only
      split
      · rw [lookup_put,if_neg (ne isOther)]
      · rfl

end Hostapd

/-! ### What the checks of a request change -/

/-- The QoS information of a request. -/
def Request.qosInfo (cfg : AssocConfig) (request : Request) : UInt8 :=
  if cfg.wmmEnabled then (request.wmm.map Prod.snd).getD 0 else 0

/-- A station keeps its AID, or takes the lowest that is free if it has none. -/
def AidTaken (staAid : BitVec 2016) (aid : Nat) (staAid' : BitVec 2016) (aid' : Nat) : Prop :=
  staAid' = staAid ∧ aid' = aid ∨ aid = 0 ∧ ∃ k, lowest staAid = some k ∧ staAid' = mark staAid k ∧ aid' = k + 1

theorem hostapdGetAid_spec {staAid staAid' : BitVec 2016} {aid aid' : Nat}
    (got : hostapdGetAid staAid aid = some (staAid',aid')) : aid' ≠ 0 ∧ AidTaken staAid aid staAid' aid' := by
  unfold hostapdGetAid at got
  split at got
  · rename_i old
    cases got
    exact ⟨by omega,.inl ⟨rfl,rfl⟩⟩
  · rename_i none
    obtain ⟨k,isLowest,rest⟩ := Option.bind_eq_some_iff.mp got
    split at rest
    · cases rest
    · cases rest
      exact ⟨by omega,.inr ⟨by omega,k,isLowest,rfl,rfl⟩⟩

namespace StaData
variable (cfg : AssocConfig) (data : StaData) (request : Request)

theorem checkWmm_frame : ∃ q, (data.checkWmm cfg request).1 = { data with qosinfo := q } := by
  unfold checkWmm
  split
  · split_ifs <;> exact ⟨_,rfl⟩
  · exact ⟨_,rfl⟩

theorem copySuppRates_frame :
    ∃ r n, (data.copySuppRates cfg request).1 = { data with supportedRates := r, supportedRatesLen := n } := by
  unfold copySuppRates
  split_ifs <;> exact ⟨_,_,rfl⟩

theorem checkAssocIes_frame : ∃ q r n, (data.checkAssocIes cfg request).1 =
    { data with qosinfo := q, supportedRates := r, supportedRatesLen := n } := by
  obtain ⟨q,isWmm⟩ := checkWmm_frame cfg data request
  obtain ⟨r,n,isRates⟩ := copySuppRates_frame cfg (data.checkWmm cfg request).1 request
  simp only [checkAssocIes]
  split_ifs
  · exact ⟨q,r,n,by rw [isRates,isWmm]⟩
  · exact ⟨q,_,_,isWmm⟩
  · exact ⟨_,_,_,rfl⟩

variable {cfg data request}

theorem checkWmm_success (valid : (data.checkWmm cfg request).2 = true) :
    (data.checkWmm cfg request).1 = { data with qosinfo := request.qosInfo cfg } := by
  unfold checkWmm at valid ⊢
  split at valid
  · rename_i isWmm
    split_ifs at valid ⊢ with enabled <;> simp_all [Request.qosInfo]
  · rename_i isWmm
    simp [Request.qosInfo,isWmm]

/-- The rates are those of the request, but in IEEE 802.11ad. -/
theorem copySuppRates_success (copied : (data.copySuppRates cfg request).2 = true) :
    (cfg.dmg = true ∧ (data.copySuppRates cfg request).1 = data) ∨
    (cfg.dmg = false ∧ request.rates.length ≤ 32 ∧ (data.copySuppRates cfg request).1 =
      { data with
        supportedRates := Vector.ofFn (fun i => request.rates.getD i 0)
        supportedRatesLen := UInt32.ofNat request.rates.length }) := by
  unfold copySuppRates at copied ⊢
  split_ifs at copied ⊢ with dmg fits
  · exact .inl ⟨dmg,rfl⟩
  · simp only [Bool.and_eq_true,decide_eq_true_eq] at fits
    exact .inr ⟨by simpa using dmg,fits.2,rfl⟩

theorem checkAssocIes_success (valid : (data.checkAssocIes cfg request).2 = true) :
    (cfg.dmg = true ∧ (data.checkAssocIes cfg request).1 = { data with qosinfo := request.qosInfo cfg }) ∨
    (cfg.dmg = false ∧ request.rates.length ≤ 32 ∧ (data.checkAssocIes cfg request).1 =
      { data with
        qosinfo := request.qosInfo cfg
        supportedRates := Vector.ofFn (fun i => request.rates.getD i 0)
        supportedRatesLen := UInt32.ofNat request.rates.length }) := by
  simp only [checkAssocIes] at valid ⊢
  split_ifs at valid ⊢ with ssid passed
  simp only [Bool.and_eq_true] at passed valid
  have isWmm := checkWmm_success passed.1
  rcases copySuppRates_success valid.1 with ⟨dmg,same⟩ | ⟨dmg,short,same⟩
  · exact .inl ⟨dmg,same.trans isWmm⟩
  · exact .inr ⟨dmg,short,by rw [same,isWmm]⟩

/-- The bitmap and the AID after a request, accepted or not. -/
theorem handleAssoc_aid {data' : StaData} {staAid staAid' : BitVec 2016} {countermeasures accepted : Bool}
    (made : data.handleAssoc cfg staAid request countermeasures = ((data',staAid'),accepted)) :
    AidTaken staAid data.aid staAid' data'.aid := by
  have kept : ({ data with capability := request.capability }.checkAssocIes cfg request).1.aid = data.aid := by
    obtain ⟨q,r,n,isData⟩ := checkAssocIes_frame cfg { data with capability := request.capability } request
    rw [isData]
  simp only [handleAssoc] at made
  split_ifs at made
  · cases made
    exact .inl ⟨rfl,rfl⟩
  · rw [kept] at made
    split at made
    · cases made
      exact .inl ⟨rfl,kept⟩
    · rename_i got
      cases made
      exact (hostapdGetAid_spec got).2
  · cases made
    exact .inl ⟨rfl,kept⟩

end StaData

namespace Bss

/-! ### AIDs -/

section
variable {cfg : AssocConfig} {b b' : Bss} {sta : Mac}

theorem dataOf_settle (process : Hostapd) (data : StaData) (staAid : BitVec 2016) :
    (b.settle process sta data staAid).dataOf sta = if (process.table.lookup sta).isSome then data else .zero := by
  simp [dataOf,settle]

theorem dataOf_settle_other {process : Hostapd} {other : Mac} (data : StaData) (staAid : BitVec 2016)
    (table : process.table.lookup other = b.process.table.lookup other) (isOther : other ≠ sta) :
    (b.settle process sta data staAid).dataOf other = b.dataOf other := by
  simp [dataOf,settle,table,Function.update_of_ne isOther]

/-- After a handler the AIDs are as before, given back with their station, or one more
    is taken. -/
theorem allotted_settle {process : Hostapd} {data : StaData} {staAid : BitVec 2016} (allotted : Allotted b.staAid b.aid)
    (table : ∀ other, other ≠ sta → process.table.lookup other = b.process.table.lookup other)
    (got : AidTaken b.staAid (b.aid sta) staAid data.aid) :
    Allotted (b.settle process sta data staAid).staAid (b.settle process sta data staAid).aid := by
  have others : ∀ other, other ≠ sta → (b.settle process sta data staAid).aid other = b.aid other := fun other isOther =>
    congrArg StaData.aid (dataOf_settle_other data staAid (table other isOther) isOther)
  have taken : Allotted staAid (Function.update b.aid sta data.aid) := by
    rcases got with ⟨rfl,same⟩ | ⟨none,k,free,rfl,isNew⟩
    · rw [same,Function.update_eq_self]
      exact allotted
    · refine allotted.take free none ?_ (fun other isOther => Function.update_of_ne isOther _ _)
      rw [Function.update_self,isNew]
  by_cases stays : (process.table.lookup sta).isSome = true
  · have here : (b.settle process sta data staAid).aid = Function.update b.aid sta data.aid := by
      funext other
      by_cases isOther : other = sta
      · subst isOther
        rw [Function.update_self,aid,dataOf_settle,if_pos stays]
      · rw [Function.update_of_ne isOther,others other isOther]
    rw [here,settle,if_pos stays]
    exact taken
  · have gone : (b.settle process sta data staAid).aid sta = 0 := by
      rw [aid,dataOf_settle,if_neg stays]
      rfl
    have given := taken.give gone (fun other isOther => (others other isOther).trans (Function.update_of_ne isOther _ _).symm)
    rw [Function.update_self] at given
    rwa [settle,if_neg stays]

/-- What a step can do: it is about one station, or leaves all records as they are. -/
inductive Settles (b : Bss) : Bss → Prop where
  | idle {process : Hostapd} (table : ∀ sta, process.table.lookup sta = b.process.table.lookup sta) :
    Settles b { b with process := process }
  | station {process : Hostapd} {sta : Mac} {data : StaData} {staAid : BitVec 2016}
    (table : ∀ other, other ≠ sta → process.table.lookup other = b.process.table.lookup other)
    (got : AidTaken b.staAid (b.aid sta) staAid data.aid) : Settles b (b.settle process sta data staAid)

theorem assocData_aid (b : Bss) (sta : Mac) : (b.assocData sta).aid = b.aid sta := by
  unfold assocData
  split <;> rfl

theorem proceed_settles {frame : AssocFrame} {outcome : StaData × BitVec 2016} {results : Results}
    (got : AidTaken b.staAid (b.aid frame.sta) outcome.2 outcome.1.aid)
    (done : b.proceed cfg frame outcome results = some b') : Settles b b' := by
  obtain ⟨process,handled,rfl⟩ := Option.map_eq_some_iff.mp done
  have table := fun other isOther => (Hostapd.handleAssoc_agrees handled).table other isOther
  split
  · split
    · split
      · exact .station table (.inl ⟨rfl,assocData_aid b frame.sta⟩)
      · exact .station table got
    · exact .station table (.inl ⟨rfl,rfl⟩)
  · exact .station table (.inl ⟨rfl,rfl⟩)

theorem handleAssoc_settles {frame : AssocFrame} {request : Request} {results : Results}
    (done : b.handleAssoc cfg frame request results = some b') : Settles b b' := by
  unfold handleAssoc at done
  split at done
  rename_i outcome accepted isOutcome
  refine proceed_settles ?_ done
  rw [← assocData_aid]
  exact StaData.handleAssoc_aid isOutcome

/-- A step of the process is about one station. -/
theorem station_table {process : Hostapd} {input : Hostapd.Input} {results : Results}
    (done : b.process.step cfg.toBssConfig (input,results) = some process) (isSta : input.station = some sta) :
    ∀ other, other ≠ sta → process.table.lookup other = b.process.table.lookup other :=
  fun other isOther => Hostapd.step_table done other (fun same => isOther (Option.some.inj (same.symm.trans isSta)))

/-- A handler that fills no field leaves the records, but for those that it frees. -/
theorem mapped_settles {input : Hostapd.Input} {results : Results}
    (mapped : (b.process.step cfg.toBssConfig (input,results)).map (fun process =>
      match input.station with
      | some sta => b.settle process sta (b.dataOf sta) b.staAid
      | none => { b with process := process }) = some b') :
    b.process.step cfg.toBssConfig (input,results) = some b'.process ∧ Settles b b' := by
  obtain ⟨process,done,rfl⟩ := Option.map_eq_some_iff.mp mapped
  split
  · rename_i isSta
    exact ⟨done,.station (station_table done isSta) (.inl ⟨rfl,rfl⟩)⟩
  · rename_i isNone
    exact ⟨done,.idle (fun sta => Hostapd.step_table done sta (by simp [isNone]))⟩

theorem step_settles {e : Event} (stepped : b.step cfg e = some b') : Settles b b' := by
  obtain ⟨input,results,request⟩ := e
  have kept := @mapped_settles cfg b b' input results
  cases input with
  | auth header =>
    obtain ⟨process,done,rfl⟩ := Option.map_eq_some_iff.mp stepped
    refine .station (station_table (show b.process.step cfg.toBssConfig (.auth header,results) = _ from done) rfl)
      (.inl ⟨rfl,?_⟩)
    split <;> rfl
  | assoc header => exact handleAssoc_settles stepped
  | vendor msg =>
    cases msg with
    | updateSTAAdd sta update =>
      obtain ⟨process,done,rfl⟩ := Option.map_eq_some_iff.mp stepped
      refine .station (station_table (show b.process.step cfg.toBssConfig (.vendor (.updateSTAAdd sta update),results) = _
        from done) rfl) (.inl ⟨rfl,?_⟩)
      split
      · cases (process.ap.lookupSenderSTA sta).join <;> rfl
      · rfl
    | _ => exact (kept stepped).2
  | _ => exact (kept stepped).2

theorem proceed_process {frame : AssocFrame} {outcome : StaData × BitVec 2016} {results : Results}
    (done : b.proceed cfg frame outcome results = some b') :
    b.process.handleAssoc cfg.toBssConfig frame results = some b'.process := by
  obtain ⟨process,handled,rfl⟩ := Option.map_eq_some_iff.mp done
  split
  · split
    · split <;> exact handled
    · exact handled
  · exact handled

theorem handleAssoc_process {frame : AssocFrame} {request : Request} {results : Results}
    (done : b.handleAssoc cfg frame request results = some b') :
    ∃ asked : AssocFrame, asked.sta = frame.sta ∧
      b.process.handleAssoc cfg.toBssConfig asked results = some b'.process := by
  unfold handleAssoc at done
  split at done
  rename_i outcome accepted _
  exact ⟨{ frame with accepted := accepted, association := outcome.1.association },rfl,proceed_process done⟩

/-- Whatever a handler does with the fields, the process takes a step about the same station. -/
theorem step_process {e : Event} (stepped : b.step cfg e = some b') :
    ∃ input : Hostapd.Input, input.station = e.1.station ∧
      b.process.step cfg.toBssConfig (input,e.2.1) = some b'.process := by
  obtain ⟨input,results,request⟩ := e
  have kept := @mapped_settles cfg b b' input results
  cases input with
  | auth frame =>
    obtain ⟨process,done,rfl⟩ := Option.map_eq_some_iff.mp stepped
    exact ⟨.auth frame,rfl,done⟩
  | assoc frame =>
    obtain ⟨asked,same,done⟩ := handleAssoc_process stepped
    exact ⟨.assoc asked,congrArg some same,done⟩
  | vendor msg =>
    cases msg with
    | updateSTAAdd sta update =>
      obtain ⟨process,done,rfl⟩ := Option.map_eq_some_iff.mp stepped
      exact ⟨.vendor (.updateSTAAdd sta update),rfl,done⟩
    | _ => exact ⟨_,rfl,(kept stepped).1⟩
  | _ => exact ⟨_,rfl,(kept stepped).1⟩

/-- No two stations have the same AID, and exactly those in use are marked. -/
theorem allotted_step {e : Event} (allotted : Allotted b.staAid b.aid) (stepped : b.step cfg e = some b') :
    Allotted b'.staAid b'.aid := by
  cases step_settles stepped with
  | idle table =>
    have same : ∀ process : Hostapd, (∀ sta, process.table.lookup sta = b.process.table.lookup sta) →
        { b with process := process }.aid = b.aid := by
      intro process table
      funext sta
      simp only [aid,dataOf,table sta]
    rw [same _ table]
    exact allotted
  | station table got => exact allotted_settle allotted table got

theorem allotted_run {events : List Event} (ran : Run.run (step cfg) (init cfg) events = some b) :
    Allotted b.staAid b.aid := by
  refine Run.run_invariant (fun _ _ _ allotted stepped => allotted_step allotted stepped) ?_ ran
  exact allotted_none

end
end Bss

end Handover
