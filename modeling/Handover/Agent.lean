import Handover.Framing
import Handover.OpenFlow
import Handover.Decoder

/-!
The conversation with an agent as bytes: the requests as the classes of the controller
write them, the handlers of `controller_interface.c` and `gatewayNAT.c`, which lay structs
over the buffer and fill others for the answer, and the classes by which the factory
reads the answers. The handlers are the same in both, but for what the gateway says when
flows are deleted and an access point of a station. What comes back to the controller is
what `Peer.processControllerMsg` says, however the stream is cut on the way.
-/
namespace Handover.OpenFlow
open Bytes Codec Wire Decoder

/-! ### The requests of the controller -/

/-- `OFMessage.writeTo`. -/
def writeHeader (type : UInt8) (length : UInt16) (xid : UInt32) : List UInt8 :=
  [1] ++ ([type] ++ (wordBytes length ++ longBytes xid))

/-- `OFMatch.writeTo`, of a new match. -/
def writeMatch : List UInt8 :=
  longBytes 0x3fffff ++ wordBytes 0 ++ List.replicate 6 0 ++ List.replicate 6 0 ++ wordBytes 0xffff ++ [0] ++ [0] ++
    wordBytes 0 ++ [0] ++ [0] ++ [0] ++ [0] ++ longBytes 0 ++ longBytes 0 ++ wordBytes 0 ++ wordBytes 0

/-- What `OFFlowMod.writeTo` writes behind the match, of what `clearAllFlowMods` sets. -/
def writeDelete : List UInt8 :=
  quadBytes 0 ++ (wordBytes 3 ++ (wordBytes 0 ++ wordBytes 0 ++ wordBytes 0 ++ longBytes 0 ++ wordBytes 0xffff ++
    wordBytes 0))

/-- The `writeTo` of the class of the request. The `xid` is for those of which the model
    keeps none. -/
def Request.writeTo (xid : UInt32) : Request → Option (List UInt8)
  | .hello => some (writeHeader 0 8 xid)
  | .echoRequest => some (writeHeader 2 8 xid)
  | .echoReply xid => some (writeHeader 3 8 xid)
  | .featuresRequest => some (writeHeader 5 8 xid)
  | .setConfig missSendLength => some (writeHeader 9 12 xid ++ (wordBytes 0 ++ wordBytes missSendLength))
  | .getConfigRequest => some (writeHeader 7 8 xid)
  | .statsRequest xid => some (writeHeader 16 12 xid ++ (wordBytes 0 ++ wordBytes 0))
  | .flowModDelete => some (writeHeader 14 72 xid ++ (writeMatch ++ writeDelete))
  | .roleRequest xid nxRole => some (writeHeader 4 20 xid ++ (longBytes 0x2320 ++ (longBytes 10 ++ longBytes nxRole)))
  | .wlan msg => Wire.writeTo xid msg

/-! ### The handlers of the agents -/

/-- An agent with its `controller->mac`, and the size of a pointer on its machine. -/
structure Agent where
  peer : Peer
  mac : Mac
  pointerSize : UInt16
  pointerSize_le : pointerSize.toNat ≤ 8

/-- What a handler finds: a number for a message of its own, and the power with which each
    station of the list was last received. -/
structure Surroundings where
  rand : UInt32
  rssi : Mac → Option UInt8

/-- `struct ofp_header`. -/
def headerMembers (type : UInt8) (length : UInt16) (xid : UInt32) : List Member :=
  [⟨1,[1]⟩,⟨1,[type]⟩,⟨2,wordBytes length⟩,⟨4,longBytes xid⟩]

def headerShape : Shape := [(1,1),(1,1),(2,2),(4,4)]

/-- `struct ofp_switch_config`, and the same for `struct ofp_stats_request`. -/
def switchConfigShape : Shape := headerShape ++ [(2,2),(2,2)]

/-- `struct nicira_header`. -/
def niciraHeaderShape : Shape := headerShape ++ [(4,4),(4,4)]

/-- `struct ofp_flow_mod`, up to the command. -/
def flowModShape : Shape := headerShape ++ [(4,40),(8,8),(2,2)]

/-- The `xid` of the message in the buffer. -/
def xidOf (str : List UInt8) : UInt32 := long str (offsetOf headerShape 3)

/-- A struct with the members behind its header, and another behind it, in memory that was
    cleared; the header says how long the two are. -/
def reply (type : UInt8) (xid : UInt32) (members behind : List Member) : List UInt8 :=
  let msg := fun length => struct (headerMembers type length xid ++ members) ++ struct behind
  msg (UInt16.ofNat (msg 0).length)

/-- The length is that of the pointer. -/
def Agent.handleHello (a : Agent) (str : List UInt8) : List UInt8 := struct (headerMembers 0 a.pointerSize (xidOf str))

def Agent.handleFeatureRequest (a : Agent) (str : List UInt8) : List UInt8 :=
  reply 6 (xidOf str) [⟨8,quadBytes a.peer.dpid⟩,⟨4,longBytes 0⟩,⟨1,[0]⟩,⟨1,[0,0,0]⟩,⟨4,longBytes 0⟩,⟨4,longBytes 0⟩] []

def handleSetConfig (str : List UInt8) : UInt16 := word str (offsetOf switchConfigShape 5)

def handleBarrierRequest (str : List UInt8) : List UInt8 := reply 19 (xidOf str) [] []

def handleGetConfigRequest (missSendLen : UInt16) (str : List UInt8) : List UInt8 :=
  reply 8 (xidOf str) [⟨2,wordBytes 0⟩,⟨2,wordBytes missSendLen⟩] []

/-- What `memset` leaves. -/
def cleared (n : Nat) : List UInt8 := List.replicate n 0

/-- `struct ofp_desc_stats`. -/
def descStats : List Member := [⟨1,cleared 256⟩,⟨1,cleared 256⟩,⟨1,cleared 256⟩,⟨1,cleared 32⟩,⟨1,cleared 256⟩]

/-- The descriptions are cleared once more, at an offset that is that of the type. -/
def handleStatsRequest (str : List UInt8) : List (List UInt8) :=
  if word str (offsetOf switchConfigShape 4) = 0 then
    [copy (reply 17 (xidOf str) [⟨2,wordBytes 0⟩,⟨2,wordBytes 0⟩] descStats) 8 (cleared 1056)]
  else []

/-- Of the messages of the controller to an access point only the one that asks for a
    station's power is answered; where the station is not in the list, `NULL` is read. -/
def Agent.handleVendor (a : Agent) (now : Surroundings) (str : List UInt8) : Option (List (List UInt8)) :=
  if long str (offsetOf niciraHeaderShape 4) = 0x2320 then
    if long str (offsetOf niciraHeaderShape 5) = 10 then
      some [reply 4 (xidOf str) [⟨4,longBytes 0x2320⟩,⟨4,longBytes 11⟩] [⟨4,longBytes (long str 16)⟩]]
    else some []
  else if a.peer.gateway then some []
  else
    match hostapdVendor str with
    | some (.lastRecPow sta) => (now.rssi sta).map (fun rssi => [(APMessage.apRecPow sta a.mac rssi).bytes now.rand])
    | _ => some []

/-- The message itself is changed and sent back. -/
def handleEchoRequest (str : List UInt8) : List UInt8 :=
  (copy str 1 [3]).take (word str (offsetOf headerShape 2)).toNat

/-- An access point changes rules of the system, which are not modelled. -/
def Agent.handleFlowMod (a : Agent) (now : Surroundings) (str : List UInt8) : List (List UInt8) :=
  if a.peer.gateway ∧ word str (offsetOf flowModShape 6) = 3 then
    [struct (ofpWlanHeader (UInt16.ofNat (struct (ofpWlanHeader 0 now.rand 100)).length) now.rand 100)]
  else []

/-- `process_controller_msg`: the new `miss_send_len` and what is sent. -/
def Agent.processControllerMsg (a : Agent) (now : Surroundings) (missSendLen : UInt16) (str : List UInt8) :
    Option (UInt16 × List (List UInt8)) :=
  match (byte str 1).toNat with
  | 0 => some (missSendLen,[a.handleHello str])
  | 2 => some (missSendLen,[handleEchoRequest str])
  | 5 => some (missSendLen,[a.handleFeatureRequest str])
  | 9 => some (handleSetConfig str,[])
  | 18 => some (missSendLen,[handleBarrierRequest str])
  | 7 => some (missSendLen,[handleGetConfigRequest missSendLen str])
  | 16 => some (missSendLen,handleStatsRequest str)
  | 14 => some (missSendLen,a.handleFlowMod now str)
  | 4 => (a.handleVendor now str).map (fun sent => (missSendLen,sent))
  | _ => some (missSendLen,[])

/-! ### The classes of the answers -/

/-- The readers of the other types of messages, and of the other kinds of statistics. -/
structure OtherClasses where
  message : UInt8 → Reader Unit
  statistics : UInt16 → Int → Reader Unit

def ofHello : Reader Reply := do
  let _header ← readHeader
  return .hello

def ofEchoRequest : Reader Reply := do
  let header ← readHeader
  skip (header.length.toNat - 8)
  return .echoRequest header.xid

def ofEchoReply : Reader Reply := do
  let header ← readHeader
  skip (header.length.toNat - 8)
  return .echoReply

/-- The `OFPhysicalPort`s are of 48 bytes each. -/
def ofFeaturesReply : Reader Reply := do
  let header ← readHeader
  let datapathId ← readQuad
  let _buffers ← readInt
  let _tables ← readByte
  skip 3
  let _capabilities ← readInt
  let _actions ← readInt
  skip ((header.length.toNat - 32) / 48 * 48)
  return .featuresReply datapathId

def ofGetConfigReply : Reader Reply := do
  let _header ← readHeader
  let _flags ← readShort
  let missSendLength ← readShort
  return .getConfigReply missSendLength

/-- `parseStatistics`: descriptions are of 1056 bytes, and what is left of the message
    behind them is thrown away. -/
def parseStatistics (others : OtherClasses) (type : UInt16) (length : Int) : Reader Unit :=
  if type = 0 then do
    skip (length.toNat / 1056 * 1056)
    skip (length.toNat % 1056)
  else others.statistics type length

def ofStatisticsReply (others : OtherClasses) : Reader Reply := do
  let header ← readHeader
  let type ← readShort
  let _flags ← readShort
  parseStatistics others type (header.length.toNat - 12)
  return .statsReply header.xid

/-- `OFPET_BAD_REQUEST` is 1. -/
def ofError : Reader Reply := do
  let header ← readHeader
  let errorType ← readShort
  let _errorCode ← readShort
  skip (header.length.toNat - 12)
  return .error header.xid (errorType = 1)

/-- The `readFrom` of the class of the type; that of `OFVendor` is below. -/
def ofMessage (others : OtherClasses) (type : UInt8) : Reader Reply :=
  match type.toNat with
  | 0 => ofHello
  | 1 => ofError
  | 2 => ofEchoRequest
  | 3 => ofEchoReply
  | 6 => ofFeaturesReply
  | 8 => ofGetConfigReply
  | 17 => ofStatisticsReply others
  | _ => do
    others.message type
    return .other

def ofRoleVendorData : Reader UInt32 := do
  let _dataType ← readInt
  readInt

/-- The data of Nicira, of which two types are registered: the role of a role reply. -/
def niciraVendorData (length : Int) : Reader (Option UInt32) := fun data =>
  let array := (ofByteArrayVendorData length data).map (fun (_,rest) => (none,rest))
  if length = 0 ∨ 4 ≤ length then
    (readInt data).bind (fun (dataType,_) =>
      match dataType.toNat with
      | 10 => (ofRoleVendorData data).map (fun (_,rest) => (none,rest))
      | 11 => (ofRoleVendorData data).map (fun (nxRole,rest) => (some nxRole,rest))
      | _ => array)
  else array

/-- What the factory knows beside the messages of access points, with nothing kept. -/
def OtherClasses.readers (others : OtherClasses) : OtherReaders where
  message type := do
    let _ ← ofMessage others type
  nicira length := do
    let _ ← niciraVendorData length

def ofParsed : Parsed → Reply
  | .wlan _ msg _ => .wlan msg
  | .other => .other

def ofRole (xid : UInt32) : Option UInt32 → Reply
  | some nxRole => .roleReply xid nxRole
  | none => .other

/-- `OFVendor`, with the data of Nicira kept. -/
def ofVendorReply (others : OtherClasses) : Reader Reply := do
  let header ← readHeader
  let vendor ← readInt
  if vendor = 0x2320 then do
    let nxRole ← niciraVendorData (header.length.toNat - 12)
    return ofRole header.xid nxRole
  else do
    let parsed ← parseVendorData others.readers header.xid vendor (header.length.toNat - 12)
    return ofParsed parsed

def readReply (others : OtherClasses) (type : UInt8) : Reader Reply :=
  if type = 4 then ofVendorReply others else ofMessage others type

/-- `parseMessageOne`, over the readers of the types. -/
def parseOne {α : Type} (read : UInt8 → Reader α) (data : List UInt8) : Except Failure (Option (α × List UInt8)) :=
  if data.length < 8 then .ok none
  else
    match readHeader data with
    | none => .error .exception
    | some (header,_) =>
      if 32 ≤ header.type.toNat then .error .exception
      else if data.length < header.length.toNat then .ok none
      else
        match read header.type data with
        | none => .error .exception
        | some (value,rest) => .ok (some (value,rest))

/-! ### The two readings -/

/-- The message of an access point that was read, if it was one. -/
def wlanOf : Reply → Option ToController
  | .wlan msg => some msg
  | _ => none

def keptOf : Parsed → Option ToController
  | .wlan _ msg _ => some msg
  | .other => none

/-- The readers fail alike, stop at the same byte, and keep the same. -/
def Alike (read : Reader Parsed) (read' : Reader Reply) : Prop :=
  ∀ data, (read data).map (Prod.map keptOf id) = (read' data).map (Prod.map wlanOf id)

theorem keptOf_ofParsed (parsed : Parsed) : wlanOf (ofParsed parsed) = keptOf parsed := by
  cases parsed <;> rfl

theorem yields_ofMessage (others : OtherClasses) (type : UInt8) :
    Yields (ofMessage others type) (fun r => wlanOf r = none) := by
  unfold ofMessage
  split
  · exact .bind (fun _ => yields_pure rfl)
  · exact .bind (fun _ => .bind (fun _ => .bind (fun _ => .bind (fun _ => yields_pure rfl))))
  · exact .bind (fun _ => .bind (fun _ => yields_pure rfl))
  · exact .bind (fun _ => .bind (fun _ => yields_pure rfl))
  · exact .bind (fun _ => .bind (fun _ => .bind (fun _ => .bind (fun _ => .bind (fun _ => .bind (fun _ => .bind (fun _ =>
      .bind (fun _ => yields_pure rfl))))))))
  · exact .bind (fun _ => .bind (fun _ => .bind (fun _ => yields_pure rfl)))
  · exact .bind (fun _ => .bind (fun _ => .bind (fun _ => .bind (fun _ => yields_pure rfl))))
  · exact .bind (fun _ => yields_pure rfl)

theorem wlanOf_ofRole (xid : UInt32) (nxRole : Option UInt32) : wlanOf (ofRole xid nxRole) = none := by
  cases nxRole <;> rfl

/-- A reader of no message of an access point, where the other keeps nothing. -/
theorem Alike.forget {α : Type} {read : Reader α} {read' : Reader Reply}
    (yields : Yields read' (fun r => wlanOf r = none))
    (same : ∀ data, (read data).map Prod.snd = (read' data).map Prod.snd) :
    Alike (fun data => ((do let _ ← read) : Reader Unit) data |>.map (fun (_,rest) => (.other,rest))) read' := by
  intro data
  have rests := same data
  change Option.map _ (Option.map _ ((read data).bind (fun p => some ((),p.2)))) = _
  cases isRead : read' data with
  | none =>
    rw [isRead,Option.map_none,Option.map_eq_none_iff] at rests
    rw [rests]
    rfl
  | some pair =>
    obtain ⟨r,rest⟩ := pair
    rw [isRead] at rests
    obtain ⟨⟨a,rest'⟩,isFirst,rfl⟩ := Option.map_eq_some_iff.mp rests
    have none := yields data r _ isRead
    simp [isFirst,keptOf,none]

theorem alike_ofVendor (others : OtherClasses) : Alike (ofVendor others.readers) (ofVendorReply others) := by
  intro data
  change Option.map _ ((readHeader data).bind _) = Option.map _ ((readHeader data).bind _)
  cases readHeader data with
  | none => rfl
  | some pair =>
    obtain ⟨header,after⟩ := pair
    change Option.map _ ((readInt after).bind _) = Option.map _ ((readInt after).bind _)
    cases readInt after with
    | none => rfl
    | some pair =>
      obtain ⟨vendor,body⟩ := pair
      dsimp only [Option.bind_some]
      by_cases nicira : vendor = 0x2320
      · rw [if_pos nicira,parseVendorData,if_neg (by rw [nicira]; decide),if_pos nicira]
        refine Alike.forget (.bind (fun _ => yields_pure (wlanOf_ofRole _ _))) (fun data => ?_) body
        change _ = Option.map _ ((niciraVendorData _ data).bind _)
        cases niciraVendorData (header.length.toNat - 12) data <;> rfl
      · rw [if_neg nicira]
        change _ = Option.map _ ((parseVendorData _ _ _ _ body).bind _)
        cases parseVendorData others.readers header.xid vendor (header.length.toNat - 12) body with
        | none => rfl
        | some pair => exact congrArg (fun kept => some (kept,pair.2)) (keptOf_ofParsed pair.1).symm

theorem alike_readReply (others : OtherClasses) (type : UInt8) : Alike (fun data =>
    if type = 4 then ofVendor others.readers data
    else (others.readers.message type data).map (fun (_,rest) => (.other,rest))) (readReply others type) := by
  intro data
  dsimp only [readReply]
  by_cases vendor : type = 4
  · rw [if_pos vendor,if_pos vendor]
    exact alike_ofVendor others data
  · rw [if_neg vendor,if_neg vendor]
    exact Alike.forget (yields_ofMessage others type) (fun _ => rfl) data

/-- `Wire.parseMessageOne` reads the same messages at the same places. -/
theorem parseMessageOne_readers (others : OtherClasses) (data : List UInt8) :
    (parseMessageOne others.readers data).map (Option.map (Prod.map keptOf id)) =
      (parseOne (readReply others) data).map (Option.map (Prod.map wlanOf id)) := by
  unfold parseMessageOne parseOne
  by_cases tiny : data.length < 8
  · rw [if_pos tiny,if_pos tiny]
    rfl
  rw [if_neg tiny,if_neg tiny]
  cases readHeader data with
  | none => rfl
  | some pair =>
    obtain ⟨header,after⟩ := pair
    dsimp only
    by_cases unknown : 32 ≤ header.type.toNat
    · rw [if_pos unknown,if_pos unknown]
      rfl
    rw [if_neg unknown,if_neg unknown]
    by_cases missing : data.length < header.length.toNat
    · rw [if_pos missing,if_pos missing]
      rfl
    rw [if_neg missing,if_neg missing]
    have alike := alike_readReply others header.type data
    dsimp only at alike
    generalize (if header.type = 4 then ofVendor others.readers data
      else (others.readers.message header.type data).map (fun (_,rest) => (Parsed.other,rest))) = first at alike ⊢
    generalize readReply others header.type data = second at alike ⊢
    cases first with
    | none =>
      cases second with
      | none => rfl
      | some _ => cases alike
    | some parsed =>
      cases second with
      | none => cases alike
      | some _ => exact congrArg Except.ok alike

/-! ### One message -/

@[simp] theorem length_writeHeader (type : UInt8) (length : UInt16) (xid : UInt32) :
    (writeHeader type length xid).length = 8 := rfl

theorem reads_writeHeader (type : UInt8) (length : UInt16) (xid : UInt32) :
    Reads readHeader (writeHeader type length xid) ⟨1,type,length,xid⟩ :=
  (reads_byte _).bind ((reads_byte _).bind ((reads_short _).bind ((reads_int _).returns rfl)))

theorem struct_headerMembers (type : UInt8) (length : UInt16) (xid : UInt32) :
    struct (headerMembers type length xid) = writeHeader type length xid := by
  simp [struct,headerMembers,writeHeader,layOut,padding,trailing,Nat.lcm_eq_mul_div]

theorem struct_nil : struct [] = [] := rfl

theorem struct_switchFeatures (length : UInt16) (xid : UInt32) (dpid : UInt64) :
    struct (headerMembers 6 length xid ++ [⟨8,quadBytes dpid⟩,⟨4,longBytes 0⟩,⟨1,[0]⟩,⟨1,[0,0,0]⟩,⟨4,longBytes 0⟩,
      ⟨4,longBytes 0⟩]) =
      writeHeader 6 length xid ++ (quadBytes dpid ++ (longBytes 0 ++ ([0] ++ ([0,0,0] ++ (longBytes 0 ++ longBytes 0))))) := by
  simp [struct,headerMembers,writeHeader,layOut,padding,trailing,Nat.lcm_eq_mul_div]

theorem struct_switchConfig (type : UInt8) (length : UInt16) (xid : UInt32) (first second : UInt16) :
    struct (headerMembers type length xid ++ [⟨2,wordBytes first⟩,⟨2,wordBytes second⟩]) =
      writeHeader type length xid ++ (wordBytes first ++ wordBytes second) := by
  simp [struct,headerMembers,writeHeader,layOut,padding,trailing,Nat.lcm_eq_mul_div]

theorem struct_niciraHeader (length : UInt16) (xid subtype : UInt32) :
    struct (headerMembers 4 length xid ++ [⟨4,longBytes 0x2320⟩,⟨4,longBytes subtype⟩]) =
      writeHeader 4 length xid ++ (longBytes 0x2320 ++ longBytes subtype) := by
  simp [struct,headerMembers,writeHeader,layOut,padding,trailing,Nat.lcm_eq_mul_div]

/-- A message that announces its length, or is a header that announces less, is found on
    the stream. -/
theorem delimited_parseOne {α : Type} {read : UInt8 → Reader α} {type : UInt8} {length : UInt16} {xid : UInt32}
    {body : List UInt8} {value : α} (known : type.toNat < 32)
    (announced : length.toNat = 8 + body.length ∨ body = [] ∧ length.toNat ≤ 8)
    (reads : Reads (read type) (writeHeader type length xid ++ body) value) :
    Delimited (parseOne read) (writeHeader type length xid ++ body) value := by
  constructor
  · intro rest
    have header := reads_writeHeader type length xid (body ++ rest)
    rw [← List.append_assoc] at header
    have size : (writeHeader type length xid ++ body ++ rest).length = 8 + body.length + rest.length := by
      simp only [List.length_append,length_writeHeader]
    rw [parseOne,if_neg (by omega),header]
    dsimp only
    rw [if_neg (by omega),if_neg (by rcases announced with _ | ⟨rfl,_⟩ <;> omega),reads rest]
  · intro start begun short
    rw [parseOne]
    by_cases tiny : start.length < 8
    · rw [if_pos tiny]
    rw [if_neg tiny]
    obtain ⟨after,rfl⟩ : writeHeader type length xid <+: start :=
      List.prefix_of_prefix_length_le (List.prefix_append _ _) begun (by simpa using tiny)
    rw [reads_writeHeader]
    dsimp only
    simp only [List.length_append,length_writeHeader] at short ⊢
    have missing : 8 + after.length < length.toNat := by
      rcases announced with isLength | ⟨rfl,_⟩
      · omega
      · simp at short
    rw [if_neg (by omega),if_pos missing]

theorem reply_eq {type : UInt8} {xid : UInt32} {members behind : List Member} {body rest : List UInt8} {n : Nat}
    (laid : ∀ length, struct (headerMembers type length xid ++ members) = writeHeader type length xid ++ body)
    (isRest : struct behind = rest) (size : (body ++ rest).length = n) :
    reply type xid members behind = writeHeader type (UInt16.ofNat (8 + n)) xid ++ (body ++ rest) := by
  subst isRest size
  simp only [reply,laid,List.length_append,length_writeHeader,List.append_assoc]

section
variable (a : Agent) (others : OtherClasses) (str : List UInt8)

theorem delimited_handleHello : Delimited (parseOne (readReply others)) (a.handleHello str) .hello := by
  have reads : Reads (readReply others 0) (writeHeader 0 a.pointerSize (xidOf str) ++ []) .hello := by
    rw [List.append_nil]
    exact (reads_writeHeader _ _ _).returns rfl
  have delimited := delimited_parseOne (by decide) (.inr ⟨rfl,a.pointerSize_le⟩) reads
  rwa [List.append_nil,← struct_headerMembers] at delimited

theorem delimited_handleFeatureRequest :
    Delimited (parseOne (readReply others)) (a.handleFeatureRequest str) (.featuresReply a.peer.dpid) := by
  rw [Agent.handleFeatureRequest]
  rw [reply_eq (n := 24) (fun length => struct_switchFeatures length _ _) struct_nil (by simp),List.append_nil]
  refine delimited_parseOne (by decide) (.inl rfl) ?_
  have pad : Reads (skip 3) [0,0,0] () := reads_skip rfl
  have ports : Reads (skip (((UInt16.ofNat (8 + 24)).toNat - 32) / 48 * 48)) [] () := reads_skip (by decide)
  exact (reads_writeHeader _ _ _).bind ((reads_quad _).bind ((reads_int _).bind ((reads_byte _).bind (pad.bind
    ((reads_int _).bind ((reads_int _).finish (ports.returns rfl)))))))

theorem delimited_handleGetConfigRequest (missSendLen : UInt16) :
    Delimited (parseOne (readReply others)) (handleGetConfigRequest missSendLen str) (.getConfigReply missSendLen) := by
  rw [handleGetConfigRequest]
  rw [reply_eq (n := 4) (fun length => struct_switchConfig 8 length _ 0 missSendLen) struct_nil (by simp),List.append_nil]
  refine delimited_parseOne (by decide) (.inl rfl) ?_
  exact (reads_writeHeader _ _ _).bind ((reads_short _).bind ((reads_short _).returns rfl))

@[simp] theorem length_cleared (n : Nat) : (cleared n).length = n := List.length_replicate

theorem cleared_append (m n : Nat) : cleared m ++ cleared n = cleared (m + n) := List.replicate_append_replicate

theorem struct_descStats : struct descStats = cleared 1056 := by
  rw [struct_unaligned (by simp [descStats])]
  simp only [descStats,List.map_cons,List.map_nil,List.flatten_cons,List.flatten_nil,List.append_nil,cleared_append]

/-- What the handler clears is clear. -/
theorem copy_stats (xid : UInt32) : copy (reply 17 xid [⟨2,wordBytes 0⟩,⟨2,wordBytes 0⟩] descStats) 8 (cleared 1056) =
    writeHeader 17 1068 xid ++ (cleared 4 ++ cleared 1056) := by
  have laid : ∀ length, struct (headerMembers 17 length xid ++ [⟨2,wordBytes 0⟩,⟨2,wordBytes 0⟩]) =
      writeHeader 17 length xid ++ cleared 4 := fun length => struct_switchConfig 17 length xid 0 0
  have size : (cleared 4 ++ cleared 1056).length = 1060 := by
    rw [List.length_append,length_cleared,length_cleared]
  have announced : UInt16.ofNat (8 + 1060) = 1068 := rfl
  have swapped : cleared 4 ++ cleared 1056 = cleared 1056 ++ cleared 4 := by
    rw [cleared_append,cleared_append]
  have kept := copy_append (writeHeader 17 1068 xid) (cleared 4) (Eq.refl (cleared 1056).length)
  rw [reply_eq laid struct_descStats size,announced,swapped]
  rwa [length_writeHeader] at kept

theorem delimited_handleStatsRequest (desc : word str (offsetOf switchConfigShape 4) = 0) :
    ∃ sent, handleStatsRequest str = [sent] ∧ Delimited (parseOne (readReply others)) sent (.statsReply (xidOf str)) := by
  refine ⟨_,if_pos desc,?_⟩
  rw [copy_stats]
  refine delimited_parseOne (by decide) (.inl (by simp)) ?_
  have description : Reads (skip 1056) (cleared 1056) () := reads_skip (length_cleared _)
  have rest : Reads (skip 0) [] () := reads_skip rfl
  have statistics : Reads (parseStatistics others 0 1056) (cleared 1056) () := description.finish rest
  have zeros : cleared 4 ++ cleared 1056 = wordBytes 0 ++ (wordBytes 0 ++ cleared 1056) := rfl
  rw [zeros]
  exact (reads_writeHeader _ _ _).bind ((reads_short _).bind ((reads_short _).bind (statistics.returns rfl)))

theorem delimited_roleReply (xid nxRole : UInt32) : Delimited (parseOne (readReply others))
    (reply 4 xid [⟨4,longBytes 0x2320⟩,⟨4,longBytes 11⟩] [⟨4,longBytes nxRole⟩]) (.roleReply xid nxRole) := by
  have behind : struct [⟨4,longBytes nxRole⟩] = longBytes nxRole := by
    simp [struct,layOut,padding,trailing]
  rw [reply_eq (n := 12) (fun length => struct_niciraHeader length xid 11) behind rfl,List.append_assoc]
  refine delimited_parseOne (by decide) (.inl rfl) ?_
  have role : Reads ofRoleVendorData (longBytes 11 ++ longBytes nxRole) nxRole := (reads_int _).bind (reads_int _)
  have data : Reads (niciraVendorData 8) (longBytes 11 ++ longBytes nxRole) (some nxRole) := by
    intro rest
    have dataType := reads_int 11 (longBytes nxRole ++ rest)
    rw [← List.append_assoc] at dataType
    rw [niciraVendorData,if_pos (by decide),dataType]
    simp only [Option.bind_some,show (11 : UInt32).toNat = 11 from rfl,role rest,Option.map_some]
  exact (reads_writeHeader _ _ _).bind ((reads_int _).bind (data.returns rfl))

/-- The vendor data of a message that is not of Nicira. -/
theorem reads_ofVendorReply {type : UInt8} {length : UInt16} {xid : UInt32} {body : List UInt8} {parsed : Parsed}
    (reads : Reads (ofVendor others.readers) (writeHeader type length xid ++ (longBytes 1 ++ body)) parsed) :
    Reads (ofVendorReply others) (writeHeader type length xid ++ (longBytes 1 ++ body)) (ofParsed parsed) := by
  have data : Reads (parseVendorData others.readers xid 1 (length.toNat - 12)) body parsed :=
    (reads.after (reads_writeHeader _ _ _)).after (reads_int 1)
  exact (reads_writeHeader _ _ _).bind ((reads_int _).bind (data.returns rfl))

/-- The messages of an access point that are not read short. -/
theorem delimited_bytes (xid : UInt32) {m : APMessage} (whole : ¬ m.ReadShort) :
    Delimited (parseOne (readReply others)) (m.bytes xid) (.wlan m.decoded) := by
  have reads := reads_ofVendor others.readers xid whole
  have size := m.length_bytes xid
  rw [m.bytes_eq] at reads size ⊢
  refine delimited_parseOne (by decide) (.inl ?_) (reads_ofVendorReply others reads)
  rw [m.toNat_size,← size,List.length_append]
  rfl

theorem delimited_gwConnect (xid : UInt32) : Delimited (parseOne (readReply others))
    (struct (ofpWlanHeader (UInt16.ofNat (struct (ofpWlanHeader 0 xid 100)).length) xid 100)) (.wlan .gwConnect) := by
  have size : (struct (ofpWlanHeader 0 xid 100)).length = 16 := by rw [struct_ofpWlanHeader]; rfl
  have data : Reads (parseVendorData others.readers xid 1 4) (longBytes 100) (.wlan xid .gwConnect none) := by
    intro rest
    have registered : readFrom 100 = some gwConnect := rfl
    have read : Reads gwConnect (longBytes 100) (.gwConnect,none) := (reads_int 100).returns rfl
    rw [parseVendorData,if_pos rfl,if_pos (by decide),reads_int]
    simp only [Option.bind_some,registered,read rest,Option.map_some]
  have reads : Reads (ofVendor others.readers) (writeHeader 4 (UInt16.ofNat 16) xid ++ (longBytes 1 ++ longBytes 100))
      (.wlan xid .gwConnect none) := (reads_writeHeader _ _ _).bind ((reads_int _).bind data)
  rw [size,struct_ofpWlanHeader]
  exact delimited_parseOne (by decide) (.inl rfl) (reads_ofVendorReply others reads)

end

/-! ### What the handlers see -/

section
variable (type : UInt8) (length : UInt16) (xid : UInt32) (body : List UInt8)

theorem holds_length : word (writeHeader type length xid ++ body) (offsetOf headerShape 2) = length :=
  Holds.word ⟨[1,type],longBytes xid ++ body,rfl,rfl⟩

theorem xidOf_writeHeader : xidOf (writeHeader type length xid ++ body) = xid :=
  Holds.long ⟨[1,type] ++ wordBytes length,body,rfl,rfl⟩

end

/-- The requests announce the bytes that they have and fit the buffer. -/
theorem framed_writeTo {xid : UInt32} {request : Request} {bytes : List UInt8}
    (written : request.writeTo xid = some bytes) :
    Framed bytes ∧ bytes.length ≤ 100 := by
  have framed : ∀ (type : UInt8) (length : UInt16) (xid : UInt32) (body : List UInt8), length.toNat = 8 + body.length →
      length.toNat ≤ 100 → some (writeHeader type length xid ++ body) = some bytes →
      Framed bytes ∧ bytes.length ≤ 100 := by
    intro type length xid body announced small isBytes
    cases isBytes
    have size : (writeHeader type length xid ++ body).length = length.toNat := by
      rw [announced,List.length_append,length_writeHeader]
    refine ⟨⟨by omega,?_⟩,by omega⟩
    rw [size]
    exact congrArg UInt16.toNat (holds_length type length xid body)
  cases request with
  | wlan msg => exact Wire.framed_writeTo written
  | setConfig | statsRequest | flowModDelete | roleRequest => exact framed _ _ _ _ (by rfl) (by decide) written
  | hello | echoRequest | echoReply | featuresRequest | getConfigRequest =>
    exact framed _ 8 _ [] rfl (by decide) ((congrArg some (List.append_nil _)).trans written)

/-! ### One request -/

/-- What the agent is meant to answer: as `Peer.processControllerMsg` says, and an access
    point that is asked for the power of a station tells it. -/
def Agent.answer (a : Agent) (now : Surroundings) (missSendLen : UInt16) : Request → Option (UInt16 × List Reply)
  | .wlan (.lastRecPow sta) =>
    if a.peer.gateway then some (missSendLen,[])
    else (now.rssi sta).map (fun rssi => (missSendLen,[.wlan (.apRecPow sta a.mac rssi)]))
  | request => some (a.peer.processControllerMsg missSendLen request)

/-- The bytes that were sent are found on the stream as the answers, or the agent has come
    to an end where there is no answer. -/
inductive Answered (others : OtherClasses) : Option (UInt16 × List (List UInt8)) → Option (UInt16 × List Reply) → Prop
  | ended : Answered others none none
  | sent (missSendLen : UInt16) (messages : List (List UInt8 × Reply))
    (delimited : ∀ m ∈ messages, Delimited (parseOne (readReply others)) m.1 m.2) :
    Answered others (some (missSendLen,messages.map Prod.fst)) (some (missSendLen,messages.map Prod.snd))

section
variable {others : OtherClasses} {missSendLen : UInt16}

theorem Answered.nothing : Answered others (some (missSendLen,[])) (some (missSendLen,[])) :=
  .sent missSendLen [] (by simp)

theorem Answered.one {bytes : List UInt8} {r : Reply} (delimited : Delimited (parseOne (readReply others)) bytes r) :
    Answered others (some (missSendLen,[bytes])) (some (missSendLen,[r])) :=
  .sent missSendLen [(bytes,r)] (by simpa using delimited)

end

theorem delimited_handleEchoRequest (others : OtherClasses) (xid : UInt32) :
    Delimited (parseOne (readReply others)) (handleEchoRequest (writeHeader 2 8 xid)) .echoReply := by
  have length : word (writeHeader 2 8 xid) (offsetOf headerShape 2) = 8 := holds_length 2 8 xid []
  have same : handleEchoRequest (writeHeader 2 8 xid) = writeHeader 3 8 xid ++ [] := by
    rw [handleEchoRequest,length]
    rfl
  have payload : Reads (skip ((8 : UInt16).toNat - 8)) [] () := reads_skip rfl
  rw [same]
  exact delimited_parseOne (by decide) (.inl rfl) ((reads_writeHeader _ _ _).bind (payload.returns rfl))

theorem handleVendor_roleRequest (a : Agent) (now : Surroundings) (xid nxRole : UInt32) :
    a.handleVendor now (writeHeader 4 20 xid ++ (longBytes 0x2320 ++ (longBytes 10 ++ longBytes nxRole))) =
      some [reply 4 xid [⟨4,longBytes 0x2320⟩,⟨4,longBytes 11⟩] [⟨4,longBytes nxRole⟩]] := by
  have vendor : long (writeHeader 4 20 xid ++ (longBytes 0x2320 ++ (longBytes 10 ++ longBytes nxRole)))
      (offsetOf niciraHeaderShape 4) = 0x2320 := Holds.long ⟨writeHeader 4 20 xid,_,rfl,rfl⟩
  have subtype : long (writeHeader 4 20 xid ++ (longBytes 0x2320 ++ (longBytes 10 ++ longBytes nxRole)))
      (offsetOf niciraHeaderShape 5) = 10 :=
    Holds.long ⟨writeHeader 4 20 xid ++ longBytes 0x2320,longBytes nxRole,rfl,rfl⟩
  have role : long (writeHeader 4 20 xid ++ (longBytes 0x2320 ++ (longBytes 10 ++ longBytes nxRole))) 16 = nxRole :=
    Holds.long ⟨writeHeader 4 20 xid ++ longBytes 0x2320 ++ longBytes 10,[],by simp,rfl⟩
  rw [Agent.handleVendor,if_pos vendor,if_pos subtype,role,xidOf_writeHeader]

/-- A message of the controller to an access point is of the experimenter's vendor. -/
theorem vendor_wlan {xid : UInt32} {msg : FromController} {bytes : List UInt8}
    (written : Wire.writeTo xid msg = some bytes) :
    byte bytes 1 = 4 ∧ long bytes (offsetOf niciraHeaderShape 4) = 1 := by
  obtain ⟨fields,_,rfl⟩ := Option.map_eq_some_iff.mp written
  refine ⟨rfl,Holds.long ⟨[1] ++ [4] ++ wordBytes (lengthU msg) ++ longBytes xid,longBytes (vendorSubtype msg) ++ fields,
    ?_,rfl⟩⟩
  simp only [List.append_assoc]

theorem handleVendor_wlan (a : Agent) (now : Surroundings) {missSendLen : UInt16} {others : OtherClasses} {xid : UInt32}
    {msg : FromController} {bytes : List UInt8} (written : Wire.writeTo xid msg = some bytes) :
    Answered others ((a.handleVendor now bytes).map (fun sent => (missSendLen,sent)))
      (a.answer now missSendLen (.wlan msg)) := by
  have decoded := hostapdVendor_writeTo written []
  rw [List.append_nil] at decoded
  rw [Agent.handleVendor,(vendor_wlan written).2,if_neg (by decide),decoded]
  cases gateway : a.peer.gateway with
  | true => cases msg <;> simpa [Agent.answer,gateway,Peer.processControllerMsg] using Answered.nothing
  | false =>
    cases msg with
    | lastRecPow sta =>
      simp only [Agent.answer,gateway,Bool.false_eq_true,if_false]
      cases now.rssi sta with
      | none => exact .ended
      | some rssi => exact .one (delimited_bytes others now.rand id)
    | addSTA | removeSTA | updateSTAAdd | natAdd => exact .nothing

/-- The agent answers a request in bytes as it is meant to. -/
theorem processControllerMsg_answered (a : Agent) (now : Surroundings) (others : OtherClasses) (missSendLen : UInt16)
    {xid : UInt32} {request : Request} {bytes : List UInt8} (written : request.writeTo xid = some bytes) :
    Answered others (a.processControllerMsg now missSendLen bytes) (a.answer now missSendLen request) := by
  cases request with
  | hello =>
    cases written
    exact .one (delimited_handleHello a others _)
  | echoRequest =>
    cases written
    exact .one (delimited_handleEchoRequest others xid)
  | echoReply =>
    cases written
    exact .nothing
  | featuresRequest =>
    cases written
    exact .one (delimited_handleFeatureRequest a others _)
  | setConfig missSendLength =>
    cases written
    have read : handleSetConfig (writeHeader 9 12 xid ++ (wordBytes 0 ++ wordBytes missSendLength)) = missSendLength :=
      Holds.word ⟨writeHeader 9 12 xid ++ wordBytes 0,[],by simp,rfl⟩
    change Answered others (some (handleSetConfig _,[])) _
    rw [read]
    exact .nothing
  | getConfigRequest =>
    cases written
    exact .one (delimited_handleGetConfigRequest others _ missSendLen)
  | statsRequest xid =>
    cases written
    have desc : word (writeHeader 16 12 xid ++ (wordBytes 0 ++ wordBytes 0)) (offsetOf switchConfigShape 4) = 0 :=
      Holds.word ⟨writeHeader 16 12 xid,wordBytes 0,rfl,rfl⟩
    obtain ⟨sent,isSent,delimited⟩ := delimited_handleStatsRequest others _ desc
    change Answered others (some (missSendLen,handleStatsRequest _)) _
    rw [isSent]
    rw [xidOf_writeHeader] at delimited
    exact .one delimited
  | flowModDelete =>
    cases written
    have command : word (writeHeader 14 72 xid ++ (writeMatch ++ writeDelete)) (offsetOf flowModShape 6) = 3 :=
      Holds.word ⟨writeHeader 14 72 xid ++ (writeMatch ++ quadBytes 0),_,by
        simp only [writeDelete,List.append_assoc]
        rfl,rfl⟩
    change Answered others (some (missSendLen,a.handleFlowMod now _)) (some (missSendLen,_))
    rw [Agent.handleFlowMod,command]
    cases a.peer.gateway with
    | true => exact .one (delimited_gwConnect others now.rand)
    | false => exact .nothing
  | roleRequest xid nxRole =>
    cases written
    have isVendor : byte (writeHeader 4 20 xid ++ (longBytes 0x2320 ++ (longBytes 10 ++ longBytes nxRole))) 1 = 4 := rfl
    rw [Agent.processControllerMsg,isVendor]
    change Answered others (Option.map _ (a.handleVendor now _)) (some (missSendLen,[.roleReply xid nxRole]))
    rw [handleVendor_roleRequest]
    exact .one (delimited_roleReply others xid nxRole)
  | wlan msg =>
    have isVendor := (vendor_wlan written).1
    rw [Agent.processControllerMsg,isVendor]
    exact handleVendor_wlan a now written

/-! ### The conversation -/

/-- One message after the other, each with what its handler finds. -/
def respond {α β : Type} (one : Surroundings → UInt16 → α → Option (UInt16 × List β)) :
    (Nat → Surroundings) → UInt16 → List α → Option (UInt16 × List β)
  | _, missSendLen, [] => some (missSendLen,[])
  | now, missSendLen, message :: rest =>
    (one (now 0) missSendLen message).bind (fun (missSendLen,answers) =>
      (respond one (fun i => now (i+1)) missSendLen rest).map (fun (missSendLen,more) => (missSendLen,answers ++ more)))

/-- The bytes are those of the request. -/
def WrittenAs (request : Request) (bytes : List UInt8) : Prop := ∃ xid, request.writeTo xid = some bytes

theorem respond_answered (a : Agent) (others : OtherClasses) {requests : List Request} {messages : List (List UInt8)}
    (written : List.Forall₂ WrittenAs requests messages) (now : Nat → Surroundings) (missSendLen : UInt16) :
    Answered others (respond a.processControllerMsg now missSendLen messages)
      (respond a.answer now missSendLen requests) := by
  induction written generalizing now missSendLen with
  | nil => exact .nothing
  | @cons request bytes requests messages isWritten written ih =>
    obtain ⟨xid,isWritten⟩ := isWritten
    have first := processControllerMsg_answered a (now 0) others missSendLen isWritten
    rw [respond,respond]
    revert first
    generalize a.processControllerMsg (now 0) missSendLen bytes = sent
    generalize a.answer (now 0) missSendLen request = answers
    intro first
    cases first with
    | ended => exact .ended
    | sent missSendLen pairs delimited =>
      have rest := ih (fun i => now (i+1)) missSendLen
      revert rest
      dsimp only [Option.bind_some]
      generalize respond a.processControllerMsg (fun i => now (i+1)) missSendLen messages = sent
      generalize respond a.answer (fun i => now (i+1)) missSendLen requests = answers
      intro rest
      cases rest with
      | ended => exact .ended
      | sent missSendLen more later =>
        have both := Answered.sent missSendLen (pairs ++ more) (fun m member =>
          (List.mem_append.mp member).elim (delimited m) (later m))
        rwa [List.map_append,List.map_append] at both

theorem framed_written {requests : List Request} {messages : List (List UInt8)}
    (written : List.Forall₂ WrittenAs requests messages) : ∀ message ∈ messages, Framed message ∧ message.length ≤ 100 := by
  induction written with
  | nil => simp
  | cons isWritten _ ih =>
    obtain ⟨xid,isWritten⟩ := isWritten
    exact List.forall_mem_cons.mpr ⟨framed_writeTo isWritten,ih⟩

theorem all_dispatched {requests : List Request} {messages : List (List UInt8)}
    (written : List.Forall₂ WrittenAs requests messages) {calls : List Call} {final : Receiver}
    (ran : Run.run Receiver.controllerReceive (sent messages) calls = some final)
    (full : Run.Steps Receiver.controllerReceive Full (sent messages) calls) (all : final.incoming = []) :
    final.dispatched = messages := by
  have framed := framed_written written
  have inStep : InStep messages final := Run.run_preserves (fun r call r' isFull kept called =>
    inStep_step (fun m member => (framed m member).1) (fun m member => (framed m member).2) isFull kept called) full
      ⟨messages,rfl,rfl,rfl⟩ ran
  obtain ⟨rest,isMessages,isIncoming,_⟩ := inStep
  cases rest with
  | nil => rw [isMessages,List.append_nil]
  | cons message rest =>
    have header := (framed message (by simp [isMessages])).1.header
    have empty := congrArg List.length (isIncoming.symm.trans all)
    simp only [List.flatten_cons,List.length_append,List.length_nil] at empty
    omega

/-- What is on the stream: an answer, or a message of a station that another thread of an
    access point has sent. -/
inductive Sent where
  | answer (bytes : List UInt8) (reply : Reply)
  | station (xid : UInt32) (msg : APMessage)

namespace Sent

def bytes : Sent → List UInt8
  | answer bytes _ => bytes
  | station xid msg => msg.bytes xid

def reply : Sent → Reply
  | answer _ reply => reply
  | station _ msg => .wlan msg.decoded

def answer? : Sent → Option (List UInt8 × Reply)
  | answer bytes reply => some (bytes,reply)
  | station .. => none

/-- Not one of the two messages that the controller reads short. -/
def Whole : Sent → Prop
  | answer .. => True
  | station _ msg => ¬ msg.ReadShort

end Sent

/-- Answers and messages of stations are read off the stream in the order they are sent. -/
theorem feed_sent (others : OtherClasses) {onStream : List Sent} (whole : ∀ s ∈ onStream, s.Whole)
    (delimited : ∀ m ∈ onStream.filterMap Sent.answer?, Delimited (parseOne (readReply others)) m.1 m.2)
    {pieces : List (List UInt8)} (cut : pieces.flatten = (onStream.map Sent.bytes).flatten) {fuel : Nat}
    (enough : onStream.length < fuel) :
    feed (parseOne (readReply others)) .outOfFuel fuel [] pieces = .ok (onStream.map Sent.reply,[]) := by
  have all : ∀ m ∈ onStream.map (fun s => (s.bytes,s.reply)), Delimited (parseOne (readReply others)) m.1 m.2 := by
    intro m member
    obtain ⟨s,isSent,rfl⟩ := List.mem_map.mp member
    cases s with
    | answer bytes reply => exact delimited _ (List.mem_filterMap.mpr ⟨_,isSent,rfl⟩)
    | station xid msg => exact delimited_bytes others xid (whole _ isSent)
  have start : pieces.flatten = Decoder.stream (onStream.map (fun s => (s.bytes,s.reply))) := by
    rw [cut,Decoder.stream,List.map_map]
    rfl
  have read := feed_stream Failure.outOfFuel all rfl start (show _ < fuel by rwa [List.length_map])
  rwa [List.map_map] at read

/-- Where every `recv` of the agent gives all bytes, all requests are handled, and come to
    an end only where the agent does; and the controller reads the answers that the agent
    is meant to give, in order and with all that is sent between them, however the stream
    is cut. -/
theorem conversation_read (a : Agent) (others : OtherClasses) {requests : List Request} {messages : List (List UInt8)}
    (written : List.Forall₂ WrittenAs requests messages) {calls : List Call} {final : Receiver}
    (ran : Run.run Receiver.controllerReceive (sent messages) calls = some final)
    (full : Run.Steps Receiver.controllerReceive Full (sent messages) calls) (all : final.incoming = [])
    (now : Nat → Surroundings) (missSendLen : UInt16) :
    (respond a.answer now missSendLen requests = none →
      respond a.processControllerMsg now missSendLen final.dispatched = none) ∧
    ∀ {missSendLen' : UInt16} {answers : List Reply},
      respond a.answer now missSendLen requests = some (missSendLen',answers) →
      ∃ pairs : List (List UInt8 × Reply), pairs.map Prod.snd = answers ∧
        respond a.processControllerMsg now missSendLen final.dispatched = some (missSendLen',pairs.map Prod.fst) ∧
        ∀ {onStream : List Sent} {pieces : List (List UInt8)} {fuel : Nat}, (∀ s ∈ onStream, s.Whole) →
          onStream.filterMap Sent.answer? = pairs → pieces.flatten = (onStream.map Sent.bytes).flatten →
          onStream.length < fuel →
          feed (parseOne (readReply others)) .outOfFuel fuel [] pieces = .ok (onStream.map Sent.reply,[]) := by
  rw [all_dispatched written ran full all]
  have answered := respond_answered a others written now missSendLen
  revert answered
  generalize respond a.processControllerMsg now missSendLen messages = sent
  generalize respond a.answer now missSendLen requests = answers
  intro answered
  cases answered with
  | ended =>
    refine ⟨fun _ => rfl,?_⟩
    rintro _ _ ⟨⟩
  | sent missSendLen pairs delimited =>
    refine ⟨by rintro ⟨⟩,?_⟩
    rintro _ _ ⟨⟩
    refine ⟨pairs,rfl,rfl,?_⟩
    rintro onStream pieces fuel whole rfl cut enough
    exact feed_sent others whole delimited cut enough

def gatewayAgent : Agent := ⟨⟨true,0x020000000001,⟨10,0,0,1⟩⟩,⟨2,0,0,0,0,1⟩,8,by decide⟩

/-- The start of the handshake. -/
def greeting : List Request := [.hello,.setConfig 0xffff,.getConfigRequest]

def greetingBytes : List (List UInt8) :=
  [[1,0,0,8,0,0,0,0],[1,9,0,12,0,0,0,0,0,0,255,255],[1,7,0,8,0,0,0,0]]

theorem greeting_written : List.Forall₂ WrittenAs greeting greetingBytes :=
  .cons ⟨0,rfl⟩ (.cons ⟨0,rfl⟩ (.cons ⟨0,rfl⟩ .nil))

def greetingCalls : List Call := [⟨zeros,8,0⟩,⟨zeros,8,4⟩,⟨zeros,8,0⟩]

theorem greeting_read : ∃ (final : Receiver) (pairs : List (List UInt8 × Reply)),
    Run.run Receiver.controllerReceive (sent greetingBytes) greetingCalls = some final ∧ final.incoming = [] ∧
    pairs.map Prod.snd = [.hello,.getConfigReply 0xffff] ∧
    respond gatewayAgent.processControllerMsg (fun _ => ⟨0,fun _ => none⟩) 0 final.dispatched =
      some (0xffff,pairs.map Prod.fst) := by
  obtain ⟨final,ran,all⟩ : ∃ final, Run.run Receiver.controllerReceive (sent greetingBytes) greetingCalls = some final ∧
      final.incoming = [] := Run.exists_run (by decide +kernel)
  have full : Run.Steps Receiver.controllerReceive Full (sent greetingBytes) greetingCalls :=
    Run.steps_of_check (fun _ _ => of_decide_eq_true) (by decide +kernel)
  obtain ⟨pairs,answers,sent,_⟩ := (conversation_read gatewayAgent ⟨fun _ => failure,fun _ _ => failure⟩ greeting_written
    ran full all (fun _ => ⟨0,fun _ => none⟩) 0).2 rfl
  exact ⟨final,pairs,ran,all,answers,sent⟩

end Handover.OpenFlow
