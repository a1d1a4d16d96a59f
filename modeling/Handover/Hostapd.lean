import Handover.AccessPoint

/-!
The station table of `hostapd` beside the station list of the controller interface:
the handlers of management frames, of their transmission status, of the controller's
messages and of the timers that free a station, as far as they decide who is in the
table and with which flags. What a driver call or an allocation returns, and what the
handlers find in a frame's elements, comes with the event.
-/
namespace Handover

/-- The fields of `hostapd`'s configuration and of the driver's flags that the handlers
    read; `ieee8021x` is also OSEN, and `dmg` the mode of IEEE 802.11ad. -/
structure BssConfig extends APConfig where
  authAlgs : Nat
  wpa : Bool
  ieee8021x : Bool
  apMaxInactivity : Int
  skipInactivityPoll : Bool
  fullApClientState : Bool
  inactivityTimer : Bool
  dmg : Bool

/-- The authentication algorithms that are configured, of the two that are built. -/
def BssConfig.supports (cfg : BssConfig) (authAlg : UInt16) : Bool :=
  cfg.authAlgs.testBit 0 && authAlg = 0 || cfg.authAlgs.testBit 1 && authAlg = 1

/-- What the timer of a station does next. -/
inductive TimeoutNext where
  | nullfunc
  | disassoc
  | deauth
  | remove
  | disassocFromCli
deriving DecidableEq

inductive FrameSubtype where
  | assocReq
  | reassocReq
  | auth
  | action
deriving DecidableEq

/-- `struct sta_info`: the flags that handlers test, and which of its timers run. -/
structure StaInfo where
  auth : Bool
  assoc : Bool
  authorized : Bool
  pendingPoll : Bool
  mfp : Bool
  assocReqOk : Bool
  pendingDisassocCb : Bool
  pendingDeauthCb : Bool
  addedUnassoc : Bool
  challenge : Bool
  timeoutNext : TimeoutNext
  lastSeqCtrl : UInt16
  lastSubtype : FrameSubtype
  handleTimer : Bool
  sessionTimer : Bool
deriving DecidableEq

/-- `WLAN_INVALID_MGMT_SEQ`. -/
def invalidMgmtSeq : UInt16 := 0xFFFF

/-- A record from `os_zalloc`, as `ap_sta_add` leaves it. -/
def StaInfo.create (cfg : BssConfig) : StaInfo :=
  ⟨false,false,false,false,false,false,false,false,false,false,.nullfunc,invalidMgmtSeq,.assocReq,!cfg.inactivityTimer,
    false⟩

/-- What a handler's calls return: whether a new record could be allocated, RADIUS
    settings applied, a challenge made, the station added to the driver or removed from
    it, a reply sent and a VLAN bound; whether TKIP countermeasures are on, and whether
    the key state machine gives the station up. -/
structure Results where
  allocated : Bool
  configured : Bool
  challenged : Bool
  added : Bool
  removed : Bool
  replied : Bool
  bound : Bool
  countermeasures : Bool
  disconnected : Bool

/-- The answer of the access control list. -/
inductive Acl where
  | reject
  | accept
  | pending
  | acceptTimeout
deriving DecidableEq

/-- What every management frame has. -/
structure Header where
  sta : Mac
  retry : Bool
  seqCtrl : UInt16

/-- `passes` is the checks that need no table: the length, the sender, countermeasures
    and other interfaces. `answers` says that the frame returns the challenge under WEP. -/
structure AuthFrame extends Header where
  authAlg : UInt16
  transaction : UInt16
  passes : Bool
  acl : Acl
  answers : Bool

/-- `accepted` is the check of the listen interval and the elements, with the choice of
    an AID; `mfp` is what the elements negotiate about protected frames. -/
structure AssocFrame extends Header where
  reassoc : Bool
  long : Bool
  acl : Acl
  mfp : Option Bool
  accepted : Bool
  association : Association

def AssocFrame.subtype (frame : AssocFrame) : FrameSubtype := if frame.reassoc then .reassocReq else .assocReq

namespace StaInfo

/-- A frame that was handled before. -/
def repeats (record : StaInfo) (header : Header) (subtype : FrameSubtype) : Bool :=
  header.retry && record.lastSeqCtrl ≠ invalidMgmtSeq && record.lastSeqCtrl = header.seqCtrl &&
    record.lastSubtype = subtype

def setRadiusInfo (record : StaInfo) (acl : Acl) : StaInfo := { record with sessionTimer := acl = .acceptTimeout }

/-- The station has to be added to the driver once more before it authenticates. -/
def readds (cfg : BssConfig) (record : StaInfo) : Bool :=
  cfg.fullApClientState && (!record.mfp || !record.authorized) && !record.addedUnassoc

/-- Adding the station to the driver unassociated, and whether that worked. -/
def addUnassoc (cfg : BssConfig) (record : StaInfo) (results : Results) : StaInfo × Bool :=
  if record.readds cfg then
    let record := { record with authorized := false, assoc := false, auth := false }
    if results.added then ({ record with addedUnassoc := true },true) else (record,false)
  else (record,true)

/-! ### Authentication -/

def authSharedKey (record : StaInfo) (frame : AuthFrame) (results : Results) : StaInfo × Bool :=
  if frame.transaction = 1 then
    if record.challenge || results.challenged then ({ record with challenge := true },true) else (record,false)
  else if frame.transaction = 3 && frame.answers && record.challenge then
    ({ record with auth := true, challenge := false },true)
  else (record,false)

/-- The end of `handle_auth`, with a response of success or not. -/
def authReply (record : StaInfo) (success : Bool) (results : Results) : StaInfo :=
  if record.addedUnassoc && !(success && results.replied) then { record with addedUnassoc := false } else record

/-- The record after an authentication frame, and whether the station is authenticated. -/
def handleAuth (cfg : BssConfig) (record : StaInfo) (frame : AuthFrame) (results : Results) : StaInfo × Bool :=
  let record := { record with lastSeqCtrl := frame.seqCtrl, lastSubtype := .auth }
  if results.configured then
    let (record,added) := (record.setRadiusInfo frame.acl).addUnassoc cfg results
    if added then
      if frame.authAlg = 0 then ({ record with auth := true }.authReply true results,true)
      else
        let (record,success) := record.authSharedKey frame results
        (record.authReply success results,success && frame.transaction = 3)
    else (record.authReply false results,false)
  else (record.authReply false results,false)

def handleAuthCb (record : StaInfo) (authAlg transaction : UInt16) (success long ok : Bool) : StaInfo :=
  if ok && long && success && (authAlg = 0 && transaction = 2 || authAlg = 1 && transaction = 4) then
    { record with auth := true }
  else if !success && record.addedUnassoc then { record with addedUnassoc := false }
  else record

/-! ### Association -/

/-- The station is added to the driver as associated, and whether that worked. -/
def addAssociatedSta (record : StaInfo) (results : Results) : StaInfo × Bool :=
  ({ record with addedUnassoc := false },results.added)

/-- The end of `handle_assoc`, with a response of success or not. -/
def assocReply (record : StaInfo) (success : Bool) (results : Results) : StaInfo :=
  let (record,success) := if success then record.addAssociatedSta results else (record,false)
  if !results.replied && success || record.addedUnassoc then { record with addedUnassoc := false } else record

/-- The record after an association request of an authenticated station. -/
def handleAssoc (cfg : BssConfig) (record : StaInfo) (frame : AssocFrame) (results : Results) : StaInfo :=
  let record :=
    { record with
      lastSeqCtrl := frame.seqCtrl
      lastSubtype := frame.subtype
      mfp := if cfg.wpa then frame.mfp.getD record.mfp else record.mfp }
  if frame.accepted then { record with assocReqOk := true, timeoutNext := .nullfunc }.assocReply true results
  else record.assocReply false results

/-- `ap_sta_disconnect`. -/
def disconnect (cfg : BssConfig) (record : StaInfo) : StaInfo :=
  { record with
    authorized := false
    auth := false
    assoc := false
    handleTimer := true
    timeoutNext := .remove
    pendingDisassocCb := record.pendingDisassocCb || cfg.dmg
    pendingDeauthCb := record.pendingDeauthCb || !cfg.dmg }

/-- `hostapd_new_assoc_sta`; the key state machine may give the station up at once. -/
def newAssoc (cfg : BssConfig) (record : StaInfo) (results : Results) : StaInfo :=
  if results.countermeasures then record
  else
    let record := if cfg.wpa && results.disconnected then record.disconnect cfg else record
    { record with handleTimer := record.handleTimer || !cfg.inactivityTimer }

/-- What `handle_assoc_cb` and `add_STA` end with. -/
def associate (cfg : BssConfig) (record : StaInfo) (results : Results) : StaInfo :=
  let record := { record with assoc := true, authorized := record.authorized || !cfg.wpa && !cfg.ieee8021x }
  if results.bound then record.newAssoc cfg results else record

def handleAssocCb (cfg : BssConfig) (record : StaInfo) (long success ok : Bool) (results : Results) : StaInfo :=
  if long then
    if ok then if success then record.associate cfg results else record
    else { record with assocReqOk := false }
  else record

/-- What `add_STA` does with the record that it found or made. -/
def addSTA (cfg : BssConfig) (record : StaInfo) (results : Results) : StaInfo :=
  let (record,added) := { record with lastSeqCtrl := invalidMgmtSeq }.addUnassoc cfg results
  if added then
    { record with
      auth := true
      lastSubtype := .assocReq
      assocReqOk := true
      timeoutNext := .nullfunc }.associate cfg results
  else record

/-- The record after `handle_disassoc`. -/
def disassociate (record : StaInfo) : StaInfo :=
  let record :=
    { record with
      authorized := false
      lastSeqCtrl := invalidMgmtSeq
      assoc := false
      assocReqOk := false
      addedUnassoc := false }
  if record.timeoutNext = .nullfunc || record.timeoutNext = .disassoc then
    { record with timeoutNext := .deauth, handleTimer := true }
  else record

/-- `ap_sta_remove`. -/
def apStaRemove (record : StaInfo) (results : Results) : StaInfo :=
  if !results.removed && record.assoc then record else { record with addedUnassoc := false }

def deauthCb (record : StaInfo) (results : Results) : StaInfo :=
  if record.pendingDeauthCb then { record with pendingDeauthCb := false }.apStaRemove results else record

def disassocCb (record : StaInfo) (results : Results) : StaInfo :=
  if record.pendingDisassocCb then { record with pendingDisassocCb := false }.apStaRemove results else record

/-! ### Timers -/

/-- `ENOENT`, with the sign of a driver's answer. -/
def enoent : Int := -2

/-- An associated station that was polled and has no poll pending is taken to have
    answered. -/
def pollAcked (cfg : BssConfig) (record : StaInfo) (nextTime : Int) : StaInfo × Int :=
  if record.assoc && record.timeoutNext = .disassoc && !record.pendingPoll && !cfg.skipInactivityPoll then
    ({ record with timeoutNext := .nullfunc },cfg.apMaxInactivity)
  else (record,nextTime)

/-- The first half of `ap_handle_timer`: the record and the time until the next check,
    or zero. A station that the driver has lost is not polled. -/
def checkActivity (cfg : BssConfig) (record : StaInfo) (inactiveSec : Int) (fuzz : Fin 20) : StaInfo × Int :=
  if record.assoc && (record.timeoutNext = .nullfunc || record.timeoutNext = .disassoc) then
    if inactiveSec = -1 then record.pollAcked cfg (cfg.apMaxInactivity + fuzz.val)
    else if inactiveSec = enoent then ({ record with timeoutNext := .disassoc },0)
    else if inactiveSec < cfg.apMaxInactivity then
      { record with timeoutNext := .nullfunc }.pollAcked cfg (cfg.apMaxInactivity + fuzz.val - inactiveSec)
    else if cfg.skipInactivityPoll then { record with timeoutNext := .disassoc }.pollAcked cfg 0
    else record.pollAcked cfg 0
  else record.pollAcked cfg 0

/-- The second half: the station is polled, disassociated or freed. -/
def expire (record : StaInfo) : Option StaInfo :=
  let record :=
    if record.timeoutNext = .nullfunc && record.assoc then { record with pendingPoll := true }
    else if record.timeoutNext ≠ .deauth && !record.assoc then { record with timeoutNext := .deauth }
    else record
  match record.timeoutNext with
  | .nullfunc => some { record with timeoutNext := .disassoc }
  | .disassoc | .disassocFromCli => some { record with authorized := false, assoc := false, timeoutNext := .deauth }
  | .deauth | .remove => none

/-- The timer is started again for the next check, if there is one. -/
def reschedule (check : StaInfo × Int) : Option StaInfo := if check.2 = 0 then check.1.expire else some check.1

/-- `ap_handle_timer`: the record after it, unless it is freed. -/
def apHandleTimer (cfg : BssConfig) (record : StaInfo) (inactiveSec : Int) (fuzz : Fin 20) : Option StaInfo :=
  if record.timeoutNext = .remove then none else reschedule (record.checkActivity cfg inactiveSec fuzz)

/-- `ap_handle_session_timer`. -/
def apHandleSessionTimer (record : StaInfo) : Option StaInfo :=
  if record.auth then none else some { record with sessionTimer := false }

end StaInfo

/-- The process: the controller interface and the station table. -/
structure Hostapd where
  ap : AccessPoint
  table : Map Mac StaInfo

namespace Hostapd

def init (cfg : BssConfig) : Hostapd := ⟨.init cfg.toAPConfig,∅⟩

/-- The table with another record for the station, or with none. -/
def put (h : Hostapd) (sta : Mac) (record : Option StaInfo) : Hostapd :=
  { h with table := match record with
    | some record => h.table.insert sta record
    | none => h.table.erase sta }

/-- The record of the station, old or new, unless there is no room for it. -/
def apStaAdd (cfg : BssConfig) (h : Hostapd) (sta : Mac) (results : Results) : Option StaInfo :=
  match h.table.lookup sta with
  | some record => some record
  | none => if h.table.entries.length < cfg.maxNumSta && results.allocated then some (.create cfg) else none

/-- The guard that the controller interface puts before a handler. -/
def guarded (h : Hostapd) (sta : Mac) (guard : STAStatus) (handler : Option Hostapd) : Option Hostapd :=
  (h.ap.lookupSenderSTA sta).bind (fun info =>
    if info.any (fun info => info.status = guard) then handler else some h)

/-! ### Management frames -/

/-- The checks of `handle_auth` before it looks for the station. -/
def admits (cfg : BssConfig) (frame : AuthFrame) : Bool :=
  frame.passes && cfg.supports frame.authAlg &&
    (frame.transaction = 1 || frame.authAlg = 1 && frame.transaction = 3) &&
    (frame.acl = .accept || frame.acl = .acceptTimeout)

/-- An authentication is reported to the controller. -/
def reportAuth (cfg : BssConfig) (h : Hostapd) (frame : AuthFrame) (authenticated : Bool) : Option AccessPoint :=
  if authenticated then h.ap.handleAuth cfg.toAPConfig frame.sta frame.authAlg else some h.ap

def handleAuth (cfg : BssConfig) (h : Hostapd) (frame : AuthFrame) (results : Results) : Option Hostapd :=
  if admits cfg frame then
    h.guarded frame.sta .selected
      (if (h.table.lookup frame.sta).any (fun record => record.repeats frame.toHeader .auth) then some h
      else match h.apStaAdd cfg frame.sta results with
        | none => some h
        | some record =>
          let (record,authenticated) := record.handleAuth cfg frame results
          (h.reportAuth cfg frame authenticated).map (fun ap => { h with ap := ap }.put frame.sta (some record)))
  else some h

/-- The record with which `handle_assoc` goes on, and whether the station may
    associate. Without authentication only IEEE 802.11ad makes a record here. -/
def assocSta (cfg : BssConfig) (h : Hostapd) (frame : AssocFrame) (results : Results) : Option (StaInfo × Bool) :=
  if (h.table.lookup frame.sta).any (·.auth) then (h.table.lookup frame.sta).map (·,true)
  else if cfg.dmg then
    match frame.acl with
    | .reject => (h.table.lookup frame.sta).map (·,false)
    | .pending => none
    | .accept | .acceptTimeout => (h.apStaAdd cfg frame.sta results).map (fun record =>
        if results.configured then ({ record.setRadiusInfo frame.acl with auth := true },true) else (record,false))
  else none

/-- An accepted request is reported to the controller. -/
def reportAssoc (cfg : BssConfig) (h : Hostapd) (frame : AssocFrame) : Option AccessPoint :=
  if frame.accepted then
    if frame.reassoc then h.ap.handleReassoc frame.sta frame.association
    else h.ap.handleAssoc cfg.toAPConfig frame.sta frame.association
  else some h.ap

def handleAssoc (cfg : BssConfig) (h : Hostapd) (frame : AssocFrame) (results : Results) : Option Hostapd :=
  if frame.long then
    h.guarded frame.sta .authenticated (match h.assocSta cfg frame results with
      | none => some h
      | some (record,false) => some (h.put frame.sta (some (record.assocReply false results)))
      | some (record,true) =>
        if record.repeats frame.toHeader frame.subtype then some (h.put frame.sta (some record))
        else (h.reportAssoc cfg frame).map (fun ap =>
          { h with ap := ap }.put frame.sta (some (record.handleAssoc cfg frame results))))
  else some h

def handleDisassoc (cfg : BssConfig) (h : Hostapd) (sta : Mac) (long : Bool) : Option Hostapd :=
  h.guarded sta .associated
    (if long then
      match h.table.lookup sta with
      | none => some h
      | some record =>
        (h.ap.handleDisassoc cfg.toAPConfig sta (record.timeoutNext = .nullfunc || record.timeoutNext = .disassoc)).map
          (fun ap => { h with ap := ap }.put sta (if cfg.dmg then none else some record.disassociate))
    else some h)

def handleDeauth (cfg : BssConfig) (h : Hostapd) (sta : Mac) (long : Bool) : Option Hostapd :=
  h.guarded sta .associated
    (if long && (h.table.lookup sta).isSome then
      (h.ap.handleDeauth cfg.toAPConfig sta).map (fun ap => { h with ap := ap }.put sta none)
    else some h)

/-- An action frame; `handled` is the checks of its length and its protection. -/
def handleAction (h : Hostapd) (header : Header) (isPublic handled : Bool) : Option Hostapd :=
  h.guarded header.sta .associated
    (some (h.put header.sta ((h.table.lookup header.sta).map (fun record =>
      if handled && (isPublic || record.assoc) && !record.repeats header .action then
        { record with lastSeqCtrl := header.seqCtrl, lastSubtype := .action }
      else record))))

/-! ### Transmission status -/

def handleAuthCb (h : Hostapd) (sta : Mac) (authAlg transaction : UInt16) (success long ok : Bool) : Option Hostapd :=
  h.guarded sta .authenticated
    (some (h.put sta ((h.table.lookup sta).map (·.handleAuthCb authAlg transaction success long ok))))

def handleAssocCb (cfg : BssConfig) (h : Hostapd) (sta : Mac) (long success ok : Bool) (results : Results) :
    Option Hostapd :=
  h.guarded sta .associated
    (some (h.put sta ((h.table.lookup sta).map (·.handleAssocCb cfg long success ok results))))

def handleDeauthCb (h : Hostapd) (sta : Mac) (results : Results) : Option Hostapd :=
  h.guarded sta .notAuthenticated (some (h.put sta ((h.table.lookup sta).map (·.deauthCb results))))

def handleDisassocCb (h : Hostapd) (sta : Mac) (results : Results) : Option Hostapd :=
  h.guarded sta .authenticated (some (h.put sta ((h.table.lookup sta).map (·.disassocCb results))))

/-- `hostapd_tx_status`: a data frame that answers a poll. -/
def hostapdTxStatus (h : Hostapd) (sta : Mac) (ack : Bool) : Option Hostapd :=
  h.guarded sta .associated
    (some (h.put sta ((h.table.lookup sta).map (fun record =>
      if record.assoc && ack then { record with pendingPoll := false } else record))))

def hostapdClientPollOk (h : Hostapd) (sta : Mac) : Hostapd :=
  h.put sta ((h.table.lookup sta).map (fun record => { record with pendingPoll := false }))

/-! ### Messages of the controller -/

/-- `add_STA`: the record of a station that is handed over, unless an early return
    leaves what was there. -/
def addSTA (cfg : BssConfig) (h : Hostapd) (sta : Mac) (authAlg : UInt16) (results : Results) : Option StaInfo :=
  if cfg.supports authAlg then (h.apStaAdd cfg sta results).map (·.addSTA cfg results) else h.table.lookup sta

def handleVendor (cfg : BssConfig) (h : Hostapd) (msg : FromController) (results : Results) : Option Hostapd :=
  (h.ap.handleVendor cfg.toAPConfig msg).map (fun (ap,_) =>
    match msg with
    | .updateSTAAdd sta update =>
      if (h.ap.lookupSenderSTA sta).join.isSome then
        { h with ap := ap }.put sta (h.addSTA cfg sta update.authAlg results)
      else { h with ap := ap }
    | .removeSTA sta =>
      if (h.ap.lookupSenderSTA sta).join.isSome then { h with ap := ap }.put sta none else { h with ap := ap }
    | _ => { h with ap := ap })

/-! ### Runs -/

/-- What happens to the process. `long` says that a frame has its fixed fields, `ok`
    that a sent one was acknowledged and `success` that it carried that status. The
    status of a broadcast frame is not looked at. -/
inductive Input where
  | probe (sta : Mac)
  | auth (frame : AuthFrame)
  | assoc (frame : AssocFrame)
  | disassoc (sta : Mac) (long : Bool)
  | deauth (sta : Mac) (long : Bool)
  | action (header : Header) (isPublic handled : Bool)
  | data (sta : Mac) (rssi : UInt8)
  | authCb (sta : Mac) (authAlg transaction : UInt16) (success long ok : Bool)
  | assocCb (sta : Mac) (long success ok : Bool)
  | deauthCb (sta : Mac)
  | disassocCb (sta : Mac)
  | txStatus (sta : Mac) (ack : Bool)
  | pollOk (sta : Mac)
  | vendor (msg : FromController)
  | timer (sta : Mac) (inactiveSec : Int) (fuzz : Fin 20)
  | sessionTimer (sta : Mac)
  | notify (i : Nat)
  | thread (i : Nat)

/-- Each handler is one step; a timer must be running. -/
def step (cfg : BssConfig) (h : Hostapd) (e : Input × Results) : Option Hostapd :=
  match e.1 with
  | .probe sta => (h.ap.react cfg.toAPConfig (.probe sta)).map (fun (ap,_) => { h with ap := ap })
  | .auth frame => h.handleAuth cfg frame e.2
  | .assoc frame => h.handleAssoc cfg frame e.2
  | .disassoc sta long => h.handleDisassoc cfg sta long
  | .deauth sta long => h.handleDeauth cfg sta long
  | .action header isPublic handled => h.handleAction header isPublic handled
  | .data sta rssi => (h.ap.react cfg.toAPConfig (.data sta rssi)).map (fun (ap,_) => { h with ap := ap })
  | .authCb sta authAlg transaction success long ok => h.handleAuthCb sta authAlg transaction success long ok
  | .assocCb sta long success ok => h.handleAssocCb cfg sta long success ok e.2
  | .deauthCb sta => h.handleDeauthCb sta e.2
  | .disassocCb sta => h.handleDisassocCb sta e.2
  | .txStatus sta ack => h.hostapdTxStatus sta ack
  | .pollOk sta => some (h.hostapdClientPollOk sta)
  | .vendor msg => h.handleVendor cfg msg e.2
  | .timer sta inactiveSec fuzz => ((h.table.lookup sta).filter (·.handleTimer)).map (fun record =>
      h.put sta (record.apHandleTimer cfg inactiveSec fuzz))
  | .sessionTimer sta => ((h.table.lookup sta).filter (·.sessionTimer)).map (fun record =>
      h.put sta record.apHandleSessionTimer)
  | .notify i => (h.ap.react cfg.toAPConfig (.timeout i)).map (fun (ap,_) => { h with ap := ap })
  | .thread i => (h.ap.sendThread cfg.toAPConfig i).map (fun (ap,_) => { h with ap := ap })

end Hostapd
end Handover
