import Handover.AccessPointSpec
import Handover.TableMap

/-!
The station list of an access point as a map with room for `max_num_sta` stations. The
list allocates as many buckets as it may have stations, but chooses the bucket by an
octet of the address: the list implements the map exactly for addresses whose fourth octet
is below `max_num_sta`.
-/
namespace Handover.StationMap
open Buckets Function

/-- The calls on the list; `changeStatus` is called with the pointer that a lookup has
    returned. -/
inductive Call where
  | addSTA (address : Mac)
  | lookupSenderSTA (address : Mac)
  | changeStatus (address : Mac) (status : STAStatus)

def Call.address : Call → Mac
  | .addSTA address => address
  | .lookupSenderSTA address => address
  | .changeStatus address _ => address

/-- The list after a call, and what the call returns; `none` is the null pointer. -/
def call (cfg : APConfig) (ap : AccessPoint) : Call → Option (AccessPoint × Option InfoSTA)
  | .addSTA address => (ap.addSTA cfg address).bind (fun (ap,listed) =>
      if listed then (ap.lookupSenderSTA address).map (ap,·) else some (ap,none))
  | .lookupSenderSTA address => (ap.lookupSenderSTA address).map (ap,·)
  | .changeStatus address status => (ap.lookupSenderSTA address).bind (fun sta =>
      if sta.isSome then (ap.changeStatus address status).map (·,none) else some (ap,none))

/-- The stations for which `addSTA` has succeeded, and their records. -/
structure Registry where
  added : List Mac
  info : Mac → InfoSTA

namespace Registry

def empty : Registry := ⟨[],.create⟩

def lookup (m : Registry) (address : Mac) : Option InfoSTA := if address ∈ m.added then some (m.info address) else none

/-- The registry with another record for the station. -/
def set (m : Registry) (address : Mac) (sta : InfoSTA) : Registry := { m with info := update m.info address sta }

def add (m : Registry) (address : Mac) : Registry := ⟨address :: m.added,update m.info address (.create address)⟩

end Registry

/-- What the calls do to a registry with room for `room` stations. -/
inductive Answers (room : Nat) (m : Registry) : Call → Option InfoSTA → Registry → Prop where
  | listed {address : Mac} (known : address ∈ m.added) : Answers room m (.addSTA address) (some (m.info address)) m
  | added {address : Mac} (new : address ∉ m.added) (free : m.added.length < room) :
      Answers room m (.addSTA address) (some (.create address)) (m.add address)
  | full {address : Mac} (new : address ∉ m.added) (full : m.added.length = room) :
      Answers room m (.addSTA address) none m
  | lookup (address : Mac) : Answers room m (.lookupSenderSTA address) (m.lookup address) m
  | changed {address : Mac} {status : STAStatus} (known : address ∈ m.added) :
      Answers room m (.changeStatus address status) none (m.set address
        { m.info address with
          status := status
          lastReceivedSignalStrength :=
            if status = .notAuthenticated then 0 else (m.info address).lastReceivedSignalStrength })
  | nobody {address : Mac} {status : STAStatus} (unknown : address ∉ m.added) :
      Answers room m (.changeStatus address status) none m

/-- The list has a record for every station of the registry and no others, and counts them. -/
structure Holds (cfg : APConfig) (m : Registry) (ap : AccessPoint) : Prop where
  represents : Represents (fun address : Mac => address.o3.toNat) InfoSTA.address cfg.maxNumSta m.lookup ap.staList
  numSta : ap.numSta = m.added.length
  records : ap.staList.contents.length = m.added.length
  room : m.added.length ≤ cfg.maxNumSta

section
variable {cfg : APConfig} {m : Registry} {ap : AccessPoint} {address : Mac}

theorem lookup_add (m : Registry) (address : Mac) : (m.add address).lookup = update m.lookup address (some (.create address)) := by
  funext address'
  by_cases same : address' = address
  · subst same
    simp [Registry.lookup,Registry.add]
  · simp [Registry.lookup,Registry.add,same]

theorem lookup_set (m : Registry) {address : Mac} (known : address ∈ m.added) (sta : InfoSTA) :
    (m.set address sta).lookup = update m.lookup address (some sta) := by
  funext address'
  by_cases same : address' = address
  · subst same
    simp [Registry.lookup,Registry.set,known]
  · simp [Registry.lookup,Registry.set,same]

theorem holds_init (cfg : APConfig) : Holds cfg .empty (.init cfg) where
  represents := represents_empty cfg.maxNumSta
  numSta := rfl
  records := by rw [AccessPoint.init,contents_empty]; rfl
  room := Nat.zero_le _

theorem Holds.lookupSenderSTA (holds : Holds cfg m ap) (inside : address.o3.toNat < cfg.maxNumSta) :
    ap.lookupSenderSTA address = some (m.lookup address) :=
  holds.represents.get_inside inside

theorem Holds.add (holds : Holds cfg m ap) (inside : address.o3.toNat < cfg.maxNumSta) (new : address ∉ m.added)
    (free : m.added.length < cfg.maxNumSta) :
    ∃ ap', ap.addSTA cfg address = some (ap',true) ∧ Holds cfg (m.add address) ap' := by
  have absent : m.lookup address = none := if_neg new
  obtain ⟨staList,pushed,represents⟩ := holds.represents.push (.create address) rfl inside absent
  have few : ¬ cfg.maxNumSta ≤ ap.numSta := by rw [holds.numSta]; omega
  refine ⟨{ ap with numSta := ap.numSta + 1, staList := staList },?_,?_,?_,?_,free⟩
  · rw [AccessPoint.addSTA,holds.lookupSenderSTA inside,absent,Option.bind_some,if_neg (by simp),if_neg few]
    exact congrArg (Option.map _) pushed
  · rw [lookup_add]
    exact represents
  · exact congrArg (· + 1) holds.numSta
  · rw [(contents_push pushed).length_eq,List.length_cons,holds.records]
    rfl

theorem Holds.change (holds : Holds cfg m ap) (inside : address.o3.toNat < cfg.maxNumSta) (known : address ∈ m.added)
    (status : STAStatus) :
    ∃ ap', ap.changeStatus address status = some ap' ∧ Holds cfg (m.set address
      { m.info address with
        status := status
        lastReceivedSignalStrength :=
          if status = .notAuthenticated then 0 else (m.info address).lastReceivedSignalStrength }) ap' := by
  have isSta : m.lookup address = some (m.info address) := if_pos known
  obtain ⟨staList,updated,represents⟩ := holds.represents.update (fun sta =>
    { sta with
      status := status
      lastReceivedSignalStrength := if status = .notAuthenticated then 0 else sta.lastReceivedSignalStrength })
    (fun _ => rfl) inside
  refine ⟨{ ap with staList := staList },?_,?_,holds.numSta,?_,holds.room⟩
  · rw [AccessPoint.changeStatus,AccessPoint.changeSTA,holds.lookupSenderSTA inside,isSta]
    exact congrArg (Option.map _) updated
  · rw [lookup_set m known]
    rw [isSta] at represents
    exact represents
  · exact (length_contents_update updated).trans holds.records

theorem call_returns (cfg : APConfig) (m : Registry) (ap : AccessPoint) (c : Call) (holds : Holds cfg m ap)
    (inside : c.address.o3.toNat < cfg.maxNumSta) :
    ∃ ap' result m', call cfg ap c = some (ap',result) ∧ Answers cfg.maxNumSta m c result m' ∧ Holds cfg m' ap' := by
  cases c with
  | addSTA address =>
    have inside : address.o3.toNat < cfg.maxNumSta := inside
    by_cases known : address ∈ m.added
    · have isSta : ap.lookupSenderSTA address = some (some (m.info address)) := by
        rw [holds.lookupSenderSTA inside,Registry.lookup,if_pos known]
      refine ⟨ap,_,m,?_,.listed known,holds⟩
      simp [call,AccessPoint.addSTA,isSta]
    · by_cases free : m.added.length < cfg.maxNumSta
      · obtain ⟨ap',added,holds'⟩ := holds.add inside known free
        refine ⟨ap',_,_,?_,.added known free,holds'⟩
        simp only [call,added,Option.bind_some,if_true,holds'.lookupSenderSTA inside,lookup_add,update_self]
        rfl
      · have isNone : ap.lookupSenderSTA address = some none := by
          rw [holds.lookupSenderSTA inside,Registry.lookup,if_neg known]
        have full : cfg.maxNumSta ≤ ap.numSta := by rw [holds.numSta]; omega
        refine ⟨ap,_,m,?_,.full known (by have := holds.room; omega),holds⟩
        simp [call,AccessPoint.addSTA,isNone,full]
  | lookupSenderSTA address =>
    have inside : address.o3.toNat < cfg.maxNumSta := inside
    refine ⟨ap,_,m,?_,.lookup address,holds⟩
    rw [call,holds.lookupSenderSTA inside]
    rfl
  | changeStatus address status =>
    have inside : address.o3.toNat < cfg.maxNumSta := inside
    by_cases known : address ∈ m.added
    · obtain ⟨ap',changed,holds'⟩ := holds.change inside known status
      refine ⟨ap',_,_,?_,.changed known,holds'⟩
      rw [call,holds.lookupSenderSTA inside,Registry.lookup,if_pos known,Option.bind_some,if_pos (by rfl),changed]
      rfl
    · refine ⟨ap,_,m,?_,.nobody known,holds⟩
      rw [call,holds.lookupSenderSTA inside,Registry.lookup,if_neg known]
      rfl

theorem call_faults (cfg : APConfig) (m : Registry) (ap : AccessPoint) (c : Call) (holds : Holds cfg m ap)
    (outside : ¬ c.address.o3.toNat < cfg.maxNumSta) : call cfg ap c = none := by
  have absent : ap.lookupSenderSTA c.address = none := holds.represents.get_outside outside
  cases c <;> simp_all [call,Call.address,AccessPoint.addSTA]

/-- The list implements a map with room for `max_num_sta` stations exactly for the addresses
    whose octet is below `max_num_sta`. -/
theorem stationList_refines_iff (cfg : APConfig) (calls : List Call) :
    Refines (call cfg) (Answers cfg.maxNumSta) (Holds cfg) .empty (.init cfg) calls ↔
      ∀ c ∈ calls, c.address.o3.toNat < cfg.maxNumSta :=
  refines_iff (call_returns cfg) (call_faults cfg) (holds_init cfg) calls

/-- As many stations as in the shipped configuration. -/
def shipped : APConfig := ⟨⟨2,0,0,0,1,1⟩,⟨10,0,0,1⟩,⟨192,168,5,0⟩,255⟩

/-- The first station that is heard has 255 as its fourth octet. -/
theorem shipped_outside : call shipped (.init shipped) (.addSTA ⟨2,0,0,255,0,9⟩) = none ∧
    call shipped (.init shipped) (.lookupSenderSTA ⟨2,0,0,255,0,9⟩) = none := by
  decide

end
end Handover.StationMap
