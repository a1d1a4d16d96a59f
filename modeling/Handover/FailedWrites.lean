import Handover.Gateway

/-!
Writes that do not get through, and what the controller's tables say then.
`handleProbeReq` and `handleAPRSSI` change the tables first and write then, and no
`catch` block changes them back. The interface `IOFSwitch` lets a write throw, and then
the tables name an access point that was not told. `OFSwitchImpl`, the only
implementation, hands the messages to Netty's channel, whose `write` does not throw but
returns a future, and nobody looks at it. So all decisions are written to a channel, and
one whose message is lost there stays in the tables.
-/
namespace Handover

/-- The messages that carry a decision on a station. -/
def FromController.decides : FromController → Bool
  | .addSTA _ => true
  | .removeSTA _ => true
  | .updateSTAAdd _ _ => true
  | _ => false

/-- The messages by which a station is admitted. -/
def FromController.admits : FromController → Bool
  | .addSTA _ => true
  | .updateSTAAdd _ _ => true
  | _ => false

/-- What is written to a switch, by its type. -/
inductive Outgoing where
  | packetOut
  | flowMod
  | vendor (msg : FromController)
deriving DecidableEq

/-- Only two types may wait for others. -/
def Outgoing.mayWait : Outgoing → Bool
  | .vendor _ => false
  | _ => true

inductive IOException where
  | failed

/-- The channel of a switch: what it has been given, and whether it is still open. -/
structure Channel where
  given : List Outgoing
  isOpen : Bool
deriving DecidableEq

/-- Netty's `Channel.write` returns at once, with a future that tells later whether the
    messages got through. -/
def Channel.write (channel : Channel) (msglist : List Outgoing) : Channel × Bool :=
  ({ channel with given := channel.given ++ msglist },channel.isOpen)

namespace OFSwitchImpl

def BATCH_MAX_SIZE : Nat := 100

/-- `write` of one message, with what the thread holds back for the switch. -/
def write (channel : Channel) (msg_buffer : List Outgoing) (m : Outgoing) :
    Except IOException (Channel × List Outgoing) :=
  let msg_buffer := msg_buffer ++ [m]
  if BATCH_MAX_SIZE ≤ msg_buffer.length ∨ m.mayWait = false then .ok ((channel.write msg_buffer).1,[])
  else .ok (channel,msg_buffer)

end OFSwitchImpl

namespace Controller

/-- The writes that a probe or a report of the asked access point leads to, in the order
    in which they are tried. -/
def attempts (c : Controller) (sw : IOFSwitch) (failing : List Nat) : ToController → List Write
  | .probe sta ap => (c.handleProbeReq sw sta ap []).2
  | .apRecPow sta ap rssi =>
    match c.staAPRSSIList.lookup sta, c.lookupSenderSTAAP sta ap with
    | some best, some staAP =>
      if rssi.toInt8 < best.rssi then c.handoverWrites sw sta staAP best failing else []
    | _, _ => []
  | _ => []

/-- Of the kind of writes one does not reach its access point: the channel was closed, or
    the message cannot be encoded. -/
def Lost (writes : List Write) (kind : FromController → Bool) (lost : List Nat) : Prop :=
  ∃ i ∈ lost, ∃ w, writes[i]? = some w ∧ kind w.msg = true

/-- Both tables hold what they held. -/
structure SameTables (c c' : Controller) : Prop where
  entries : ∀ sta ap, c'.lookupSenderSTAAP sta ap = c.lookupSenderSTAAP sta ap
  best : ∀ sta, c'.staAPRSSIList.lookup sta = c.staAPRSSIList.lookup sta

/-- The access point has been told: the one that the message came from, or that whose
    entry it is. -/
def Told (c' : Controller) (sw : IOFSwitch) (writes : List Write) (sta ap : Mac) : STAStatus → Prop
  | .selected => ⟨sw,.addSTA sta⟩ ∈ writes
  | .associated => ∃ entry update, c'.lookupSenderSTAAP sta ap = some entry ∧ ⟨entry.sw,.updateSTAAdd sta update⟩ ∈ writes
  | .notAuthenticated => ⟨sw,.removeSTA sta⟩ ∈ writes
  | .authenticated => False

/-- What the new access point is told of the station. -/
def updateOf (staAP : STAAPInfo) : UpdateSTA :=
  ⟨staAP.authAlg,staAP.aid,staAP.capability,staAP.listenInterval,staAP.supportedRates,staAP.supportedRatesLen,staAP.qosinfo⟩

/-- What is tried after the flows and the removal. -/
def afterRemoval (c : Controller) (sta : Mac) (staAP : STAAPInfo) (best : APInfo) : List Write :=
  ⟨(c.handoverEntry sta staAP best).sw,.updateSTAAdd sta (updateOf staAP)⟩ ::
    match c.gwSwitch with
    | none => []
    | some gw => (c.flows sta).map (redirect gw (c.handoverEntry sta staAP best).sw sta)

theorem handoverWrites_eq (c : Controller) (sw : IOFSwitch) (sta : Mac) (staAP : STAAPInfo) (best : APInfo)
    (failing : List Nat) :
    c.handoverWrites sw sta staAP best failing =
      (c.flows sta).map (transfer (c.handoverEntry sta staAP best).sw sta) ++
        ⟨sw,.removeSTA sta⟩ :: if (c.flows sta).length ∈ failing then [] else c.afterRemoval sta staAP best := by
  unfold handoverWrites afterRemoval
  dsimp only
  rw [← flows,List.length_map]
  split <;> rfl

section
variable {c : Controller} {sta ap : Mac} {rssi : UInt8} {staAP : STAAPInfo} {best : APInfo}

end

/-! ### What the tables say of what was written -/

/-- A decision changes the tables, those of a lost admission name an access point that was
    not told, and where no decision is lost every status that is new has been told. -/
structure Stands (c c' : Controller) (sw : IOFSwitch) (writes : List Write) : Prop where
  changed : (∃ w ∈ writes, w.msg.decides = true) → ¬ SameTables c c'
  untold : ∀ lost, Lost writes FromController.admits lost → ∃ sta ap s, (s = .selected ∨ s = .associated) ∧
    c'.status sta ap = some s ∧ ¬ Told c' sw (writeAll lost 0 writes) sta ap s
  told : ∀ lost, ¬ Lost writes FromController.decides lost → ∀ sta ap s, c'.status sta ap = some s →
    c.status sta ap ≠ some s → Told c' sw (writeAll lost 0 writes) sta ap s

open Gateway (heard oldSwitch walker oldMac newMac)

end Controller
end Handover
