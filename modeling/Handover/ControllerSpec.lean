import Handover.Controller
import Handover.Run

/-!
What the handlers of the controller do to its tables, stated so that later
proofs need not unfold them: the status of every pair afterwards, the flows
afterwards, and the messages written.
-/
namespace Handover.Controller

/-- The controller after an event, for runs; every event can happen. -/
def next (c : Controller) (e : Event) : Option Controller := some (c.step e).1

theorem run_next (c : Controller) (events : List Event) :
    Run.run next c events = some (events.foldl (fun c e => (c.step e).1) c) := by
  induction events generalizing c with
  | nil => rfl
  | cons e rest ih => exact ih (c.step e).1

/-- The status of the station at the access point, if the pair has an entry. -/
def status (c : Controller) (sta ap : Mac) : Option STAStatus := (c.lookupSenderSTAAP sta ap).map (·.status)

/-- The flows that are recorded for the station. -/
def flows (c : Controller) (sta : Mac) : List NATMap := (c.natTable.lookup sta).getD []

/-- The handover branch of `handleAPRSSI`: the report of `ap` meets an entry of
    its own and a stronger alternative. -/
structure Moves (c : Controller) (sta ap : Mac) (rssi : UInt8) (staAP : STAAPInfo) (best : APInfo) : Prop where
  bestIs : c.staAPRSSIList.lookup sta = some best
  entryIs : c.lookupSenderSTAAP sta ap = some staAP
  stronger : rssi.toInt8 < best.rssi

/-- The controller once no answer is awaited for the station. -/
def clearSent (c : Controller) (sta : Mac) : Controller :=
  match c.staAPRSSIList.lookup sta with
  | none => c
  | some best => c.putBest sta { best with isSent := false }

theorem moves_unique {c : Controller} {sta ap : Mac} {rssi : UInt8} {staAP staAP' : STAAPInfo} {best best' : APInfo}
    (one : Moves c sta ap rssi staAP best) (two : Moves c sta ap rssi staAP' best') :
    staAP = staAP' ∧ best = best' :=
  ⟨Option.some.inj (one.entryIs.symm.trans two.entryIs),Option.some.inj (one.bestIs.symm.trans two.bestIs)⟩

theorem handleAPRSSI_moves {c : Controller} {sta ap : Mac} {rssi : UInt8} {staAP : STAAPInfo} {best : APInfo}
    (moves : Moves c sta ap rssi staAP best) (sw : IOFSwitch) (failing : List Nat) :
    c.handleAPRSSI sw sta ap rssi failing =
      (c.handoverTables sw sta ap staAP best,writeAll failing 0 (c.handoverWrites sw sta staAP best failing)) := by
  simp [handleAPRSSI,moves.bestIs,moves.entryIs,moves.stronger]

theorem handleAPRSSI_stays {c : Controller} {sta ap : Mac} {rssi : UInt8}
    (stays : ¬ ∃ staAP best, Moves c sta ap rssi staAP best) (sw : IOFSwitch) (failing : List Nat) :
    c.handleAPRSSI sw sta ap rssi failing = (c.clearSent sta,[]) := by
  unfold handleAPRSSI clearSent
  cases bestIs : c.staAPRSSIList.lookup sta with
  | none => rfl
  | some best =>
    cases entryIs : c.lookupSenderSTAAP sta ap with
    | none => rfl
    | some staAP =>
      have weaker : ¬ rssi.toInt8 < best.rssi := fun stronger => stays ⟨staAP,best,bestIs,entryIs,stronger⟩
      simp [weaker]

/-! ### The writes that go through -/

variable {Attempt Record : Type}

theorem writeAll_none (i : Nat) (attempts : List Attempt) : writeAll [] i attempts = attempts := by
  induction attempts generalizing i with
  | nil => rfl
  | cons w rest ih => simp [writeAll,ih]

theorem mem_of_mem_writeAll {failing : List Nat} {i : Nat} {attempts : List Attempt} {w : Attempt}
    (member : w ∈ writeAll failing i attempts) : w ∈ attempts := by
  induction attempts generalizing i with
  | nil => simp [writeAll] at member
  | cons head rest ih =>
    simp only [writeAll] at member
    split at member
    · exact List.mem_cons_of_mem _ (ih member)
    · rcases List.mem_cons.mp member with same | later
      · exact same ▸ List.mem_cons_self
      · exact List.mem_cons_of_mem _ (ih later)

theorem eq_of_mem_writeAll {failing : List Nat} {i : Nat} {w attempt : Attempt}
    (member : w ∈ writeAll failing i [attempt]) : w = attempt :=
  List.mem_singleton.mp (mem_of_mem_writeAll member)

theorem writeAll_append (failing : List Nat) (i : Nat) (first second : List Attempt) :
    writeAll failing i (first ++ second) = writeAll failing i first ++ writeAll failing (i+first.length) second := by
  induction first generalizing i with
  | nil => simp [writeAll]
  | cons w rest ih =>
    have shift : i + 1 + rest.length = i + (w :: rest).length := by simp; omega
    by_cases fails : i ∈ failing
    · simp [writeAll,fails,ih,shift]
    · simp [writeAll,fails,ih,shift]

theorem writeAll_map (failing : List Nat) (i : Nat) (build : Record → Attempt) (records : List Record) :
    writeAll failing i (records.map build) = (writeAll failing i records).map build := by
  induction records generalizing i with
  | nil => rfl
  | cons record rest ih =>
    by_cases fails : i ∈ failing
    · simp [writeAll,fails,ih]
    · simp [writeAll,fails,ih]

/-! ### Searching -/

theorem status_eq_some {c : Controller} {sta ap : Mac} {s : STAStatus} :
    c.status sta ap = some s ↔ ∃ staAP, c.lookupSenderSTAAP sta ap = some staAP ∧ staAP.status = s := by
  simp [status]

theorem status_eq_none {c : Controller} {sta ap : Mac} : c.status sta ap = none ↔ c.lookupSenderSTAAP sta ap = none := by
  simp [status]

theorem findSTAAPPair_iff (c : Controller) (sta ap : Mac) :
    c.findSTAAPPair sta ap = true ↔ ∃ other, other ≠ ap ∧ c.status sta other = some .selected := by
  simp only [findSTAAPPair,List.any_eq_true,decide_eq_true_eq,status_eq_some,lookupSenderSTAAP]
  constructor
  · rintro ⟨⟨⟨sta',other⟩,staAP⟩,member,rfl,different,selected⟩
    exact ⟨other,different,staAP,(Map.mem_entries_iff _ _).mp member,selected⟩
  · rintro ⟨other,different,staAP,found,selected⟩
    exact ⟨⟨⟨sta,other⟩,staAP⟩,(Map.mem_entries_iff _ _).mpr found,rfl,different,selected⟩

theorem findSTAAPInfo_some {c : Controller} {sta : Mac} {staAP : STAAPInfo} (found : c.findSTAAPInfo sta = some staAP) :
    ∃ ap, c.lookupSenderSTAAP sta ap = some staAP ∧ staAP.status = .associated := by
  simp only [findSTAAPInfo,Option.map_eq_some_iff] at found
  obtain ⟨⟨⟨sta',ap⟩,staAP'⟩,first,rfl⟩ := found
  have member := List.mem_of_find?_eq_some first
  have passes := List.find?_some first
  simp only [decide_eq_true_eq] at passes
  obtain ⟨rfl,associated⟩ := passes
  exact ⟨ap,(Map.mem_entries_iff _ _).mp member,associated⟩

theorem findSTAAPInfo_eq_none (c : Controller) (sta : Mac) :
    c.findSTAAPInfo sta = none ↔ ∀ ap, c.status sta ap ≠ some .associated := by
  constructor
  · intro none ap associated
    obtain ⟨staAP,found,isAssociated⟩ := status_eq_some.mp associated
    simp only [findSTAAPInfo,Option.map_eq_none_iff,List.find?_eq_none,decide_eq_true_eq] at none
    exact none ⟨⟨sta,ap⟩,staAP⟩ ((Map.mem_entries_iff _ _).mpr found) ⟨rfl,isAssociated⟩
  · intro none
    cases found : c.findSTAAPInfo sta with
    | none => rfl
    | some staAP =>
      obtain ⟨ap,inside,associated⟩ := findSTAAPInfo_some found
      exact absurd (status_eq_some.mpr ⟨staAP,inside,associated⟩) (none ap)

/-! ### The status of every pair afterwards -/

theorem lookup_putEntry (c : Controller) (sta ap : Mac) (entry : STAAPInfo) (sta' ap' : Mac) :
    (c.putEntry sta ap entry).lookupSenderSTAAP sta' ap' =
      if sta' = sta ∧ ap' = ap then some entry else c.lookupSenderSTAAP sta' ap' := by
  simp [putEntry,lookupSenderSTAAP,Map.lookup_insert_eq]

theorem status_putEntry (c : Controller) (sta ap : Mac) (entry : STAAPInfo) (sta' ap' : Mac) :
    (c.putEntry sta ap entry).status sta' ap' =
      if sta' = sta ∧ ap' = ap then some entry.status else c.status sta' ap' := by
  simp only [status,lookup_putEntry]
  split <;> rfl

theorem lookup_changeEntry (c : Controller) (sta ap : Mac) (change : STAAPInfo → STAAPInfo) (sta' ap' : Mac) :
    (c.changeEntry sta ap change).lookupSenderSTAAP sta' ap' =
      if sta' = sta ∧ ap' = ap then (c.lookupSenderSTAAP sta ap).map change else c.lookupSenderSTAAP sta' ap' := by
  unfold changeEntry
  cases found : c.lookupSenderSTAAP sta ap with
  | none =>
    by_cases same : sta' = sta ∧ ap' = ap
    · obtain ⟨rfl,rfl⟩ := same
      simp [found]
    · simp [same]
  | some staAP => exact c.lookup_putEntry sta ap _ sta' ap'

/-- A handler that changes one entry sets the status of that pair, if the pair
    has an entry, and no other. -/
theorem status_changeEntry (c : Controller) (sta ap : Mac) {change : STAAPInfo → STAAPInfo} {s : STAStatus}
    (sets : ∀ staAP, (change staAP).status = s) (sta' ap' : Mac) :
    (c.changeEntry sta ap change).status sta' ap' =
      if sta' = sta ∧ ap' = ap then (c.status sta ap).map (fun _ => s) else c.status sta' ap' := by
  simp only [status,lookup_changeEntry]
  by_cases same : sta' = sta ∧ ap' = ap
  · cases found : c.lookupSenderSTAAP sta ap with
    | none => simp [same]
    | some staAP => simp [same,sets]
  · simp [same]

theorem handleDisassocReq_eq (c : Controller) (sta ap : Mac) :
    c.handleDisassocReq sta ap =
      { c.changeEntry sta ap (fun staAP => { staAP with status := .authenticated }) with
        staAPRSSIList :=
          if (c.lookupSenderSTAAP sta ap).isSome then c.staAPRSSIList.erase sta else c.staAPRSSIList } := by
  unfold handleDisassocReq changeEntry
  cases c.lookupSenderSTAAP sta ap with
  | none => rfl
  | some staAP => rfl

/-- The probe of a station is answered by an offer. -/
def Offers (c : Controller) (sta ap : Mac) : Prop :=
  (∀ other, other ≠ ap → c.status sta other ≠ some .selected) ∧
    (∀ other, c.status sta other ≠ some .associated) ∧
    (c.status sta ap = none ∨ c.status sta ap = some .notAuthenticated)

theorem handleProbeReq_offers {c : Controller} {sta ap : Mac} (offers : Offers c sta ap) (sw : IOFSwitch)
    (failing : List Nat) :
    ∃ entry, entry.status = .selected ∧ entry.sw = ((c.lookupSenderSTAAP sta ap).map (·.sw)).getD sw ∧
      c.handleProbeReq sw sta ap failing = (c.putEntry sta ap entry,writeAll failing 0 [⟨sw,.addSTA sta⟩]) := by
  obtain ⟨alone,free,unclaimed⟩ := offers
  have noPair : c.findSTAAPPair sta ap = false := by
    rw [← Bool.not_eq_true,findSTAAPPair_iff]
    rintro ⟨other,different,selected⟩
    exact alone other different selected
  have noInfo : c.findSTAAPInfo sta = none := (c.findSTAAPInfo_eq_none sta).mpr free
  rcases unclaimed with absent | left
  · rw [status_eq_none] at absent
    refine ⟨{ STAAPInfo.create sta ap .selected false sw with status := .selected, isHomeAP := true },rfl,?_,?_⟩
    · rw [absent]
      rfl
    · simp [handleProbeReq,noPair,noInfo,absent,select]
  · obtain ⟨staAP,found,isLeft⟩ := status_eq_some.mp left
    refine ⟨{ staAP with status := .selected, isHomeAP := true },rfl,?_,?_⟩
    · rw [found]
      rfl
    · simp [handleProbeReq,noPair,noInfo,found,isLeft,select]

theorem handleProbeReq_ignores {c : Controller} {sta ap : Mac} (ignores : ¬ Offers c sta ap) (sw : IOFSwitch)
    (failing : List Nat) : c.handleProbeReq sw sta ap failing = (c,[]) := by
  unfold handleProbeReq
  by_cases pair : c.findSTAAPPair sta ap = true
  · simp [pair]
  · cases info : c.findSTAAPInfo sta with
    | some staAP => simp [pair]
    | none =>
      cases found : c.lookupSenderSTAAP sta ap with
      | none =>
        refine absurd ⟨?_,(c.findSTAAPInfo_eq_none sta).mp info,.inl (status_eq_none.mpr found)⟩ ignores
        intro other different selected
        exact pair ((c.findSTAAPPair_iff sta ap).mpr ⟨other,different,selected⟩)
      | some staAP =>
        by_cases left : staAP.status = .notAuthenticated
        · refine absurd ⟨?_,(c.findSTAAPInfo_eq_none sta).mp info,.inr (status_eq_some.mpr ⟨staAP,found,left⟩)⟩ ignores
          intro other different selected
          exact pair ((c.findSTAAPPair_iff sta ap).mpr ⟨other,different,selected⟩)
        · simp [pair,left]

theorem status_clearSent (c : Controller) (sta sta' ap' : Mac) : (c.clearSent sta).status sta' ap' = c.status sta' ap' := by
  unfold clearSent
  split <;> rfl

theorem lookup_handoverTables (c : Controller) (sw : IOFSwitch) (sta ap : Mac) (staAP : STAAPInfo) (best : APInfo)
    (sta' ap' : Mac) :
    (c.handoverTables sw sta ap staAP best).lookupSenderSTAAP sta' ap' =
      if sta' = sta ∧ ap' = best.apMACAddress then some (c.handoverEntry sta staAP best)
      else if sta' = sta ∧ ap' = ap then some { staAP with status := .notAuthenticated }
      else c.lookupSenderSTAAP sta' ap' := by
  simp [handoverTables,lookupSenderSTAAP,Map.lookup_insert_eq]

theorem status_handoverTables (c : Controller) (sw : IOFSwitch) (sta ap : Mac) (staAP : STAAPInfo) (best : APInfo)
    (sta' ap' : Mac) :
    (c.handoverTables sw sta ap staAP best).status sta' ap' =
      if sta' = sta ∧ ap' = best.apMACAddress then some .associated
      else if sta' = sta ∧ ap' = ap then some .notAuthenticated
      else c.status sta' ap' := by
  simp only [status,lookup_handoverTables]
  split
  · rfl
  · split <;> rfl

theorem status_removedSwitch {c : Controller} {sw : IOFSwitch} {sta ap : Mac} {s : STAStatus}
    (kept : (c.removedSwitch sw).status sta ap = some s) : c.status sta ap = some s := by
  unfold removedSwitch at kept
  split at kept
  · exact kept
  · simp only [status,lookupSenderSTAAP,Map.lookup_keep,Option.map_eq_some_iff,Option.filter_eq_some_iff] at kept ⊢
    obtain ⟨staAP,⟨found,_⟩,same⟩ := kept
    exact ⟨staAP,found,same⟩

theorem lookup_rehash (c : Controller) (order : Map STAAPPair STAAPInfo) (sta ap : Mac) :
    (c.rehash order).lookupSenderSTAAP sta ap = c.lookupSenderSTAAP sta ap := by
  unfold rehash
  split
  · exact Map.lookup_of_perm ‹_› _
  · rfl

theorem status_rehash (c : Controller) (order : Map STAAPPair STAAPInfo) (sta ap : Mac) :
    (c.rehash order).status sta ap = c.status sta ap := by
  rw [status,lookup_rehash,status]

/-! ### Flows -/

theorem handlePortTranslation_known {c : Controller} {sta : Mac} {tuple : FourTuple} {entry : NATMap}
    (found : (c.flows sta).find? (fun entry => entry.toFourTuple = tuple) = some entry) (sw : IOFSwitch)
    (failing : List Nat) :
    c.handlePortTranslation sw sta tuple failing =
      (c,writeAll failing 0 [⟨sw,.natAdd sta entry.toFourTuple entry.newPort⟩]) := by
  unfold handlePortTranslation
  dsimp only
  rw [← flows,found]

/-- The tables with one more flow, under the next port of its destination. -/
def record (c : Controller) (sta : Mac) (tuple : FourTuple) : Controller :=
  { c with
    portMap := c.portMap.insert tuple.destination (c.nextPort tuple.destination)
    natTable := c.natTable.insert sta (c.flows sta ++ [⟨tuple,c.nextPort tuple.destination⟩]) }

theorem handlePortTranslation_new {c : Controller} {sta : Mac} {tuple : FourTuple}
    (fresh : (c.flows sta).find? (fun entry => entry.toFourTuple = tuple) = none) (sw : IOFSwitch)
    (failing : List Nat) :
    c.handlePortTranslation sw sta tuple failing =
      (c.record sta tuple,writeAll failing 0 [⟨sw,.natAdd sta tuple (c.nextPort tuple.destination)⟩]) := by
  unfold handlePortTranslation
  dsimp only
  rw [← flows,fresh]
  rfl

theorem flows_record (c : Controller) (sta : Mac) (tuple : FourTuple) (sta' : Mac) :
    (c.record sta tuple).flows sta' =
      if sta' = sta then c.flows sta ++ [⟨tuple,c.nextPort tuple.destination⟩] else c.flows sta' := by
  simp only [flows,record,Map.lookup_insert_eq]
  split <;> rfl

theorem portMap_record (c : Controller) (sta : Mac) (tuple : FourTuple) (d : PortPair) :
    (c.record sta tuple).portMap.lookup d =
      if d = tuple.destination then some (c.nextPort tuple.destination) else c.portMap.lookup d := by
  simp only [record,Map.lookup_insert_eq]

theorem flows_congr {c other : Controller} (same : other.natTable = c.natTable) (sta : Mac) :
    other.flows sta = c.flows sta := by
  rw [flows,same,flows]

/-! ### What a handover writes -/

/-- The message that tells the new access point of a recorded flow. -/
def transfer (newSw : IOFSwitch) (sta : Mac) (entry : NATMap) : Write :=
  ⟨newSw,.natAdd sta entry.toFourTuple entry.newPort⟩

/-- The message that tells the gateway of a recorded flow. -/
def redirect (gw newSw : IOFSwitch) (sta : Mac) (entry : NATMap) : Write :=
  ⟨gw,.natAdd sta { entry.toFourTuple with sourceIP := newSw.remoteAddress } entry.newPort⟩

/-- What a handover has written when it is done. -/
theorem writeAll_handoverWrites (c : Controller) (sw : IOFSwitch) (sta : Mac) (staAP : STAAPInfo) (best : APInfo)
    (failing : List Nat) :
    writeAll failing 0 (c.handoverWrites sw sta staAP best failing) =
      (writeAll failing 0 (c.flows sta)).map (transfer (c.handoverEntry sta staAP best).sw sta) ++
        if (c.flows sta).length ∈ failing then [] else
          ⟨sw,.removeSTA sta⟩ ::
            (writeAll failing ((c.flows sta).length + 1) [⟨(c.handoverEntry sta staAP best).sw,.updateSTAAdd sta
              ⟨staAP.authAlg,staAP.aid,staAP.capability,staAP.listenInterval,staAP.supportedRates,
                staAP.supportedRatesLen,staAP.qosinfo⟩⟩] ++
              match c.gwSwitch with
              | none => []
              | some gw => (writeAll failing ((c.flows sta).length + 2) (c.flows sta)).map
                  (redirect gw (c.handoverEntry sta staAP best).sw sta)) := by
  unfold handoverWrites
  dsimp only
  rw [← flows]
  by_cases fails : (c.flows sta).length ∈ failing
  · simp only [List.length_map,fails,if_true,writeAll_append,writeAll_map,writeAll,Nat.zero_add]
    rfl
  · have gateway : ∀ i, writeAll failing i (match c.gwSwitch with
        | none => []
        | some gw => (c.flows sta).map (redirect gw (c.handoverEntry sta staAP best).sw sta)) =
        match c.gwSwitch with
        | none => []
        | some gw => (writeAll failing i (c.flows sta)).map (redirect gw (c.handoverEntry sta staAP best).sw sta) := by
      intro i
      cases c.gwSwitch with
      | none => rfl
      | some gw => exact writeAll_map failing i _ _
    simp only [List.length_map,fails,if_false,writeAll_append,writeAll_map,Nat.zero_add,writeAll]
    rw [show (c.flows sta).length + 2 = (c.flows sta).length + 1 + 1 from rfl,← gateway]
    split <;> rfl

/-- The messages that a handover tries to write. -/
theorem mem_handoverWrites {c : Controller} {sw : IOFSwitch} {sta : Mac} {staAP : STAAPInfo} {best : APInfo}
    {failing : List Nat} {w : Write} (member : w ∈ c.handoverWrites sw sta staAP best failing) :
    (∃ entry ∈ c.flows sta, w = transfer (c.handoverEntry sta staAP best).sw sta entry) ∨ w = ⟨sw,.removeSTA sta⟩ ∨
      (∃ update, w = ⟨(c.handoverEntry sta staAP best).sw,.updateSTAAdd sta update⟩) ∨
      ∃ gw, c.gwSwitch = some gw ∧ ∃ entry ∈ c.flows sta, w = redirect gw (c.handoverEntry sta staAP best).sw sta entry := by
  unfold handoverWrites at member
  dsimp only at member
  rw [← flows] at member
  have fromFlows : ∀ {build : NATMap → Write}, w ∈ (c.flows sta).map build → ∃ entry ∈ c.flows sta, w = build entry := by
    intro build inside
    obtain ⟨entry,recorded,rfl⟩ := List.mem_map.mp inside
    exact ⟨entry,recorded,rfl⟩
  split at member
  · rcases List.mem_append.mp member with flow | removal
    · exact .inl (fromFlows flow)
    · exact .inr (.inl (List.mem_singleton.mp removal))
  · rcases List.mem_append.mp member with flow | rest
    · exact .inl (fromFlows flow)
    · rcases List.mem_cons.mp rest with removal | rest
      · exact .inr (.inl removal)
      · rcases List.mem_cons.mp rest with update | gateway
        · exact .inr (.inr (.inl ⟨_,update⟩))
        · cases gw : c.gwSwitch with
          | none => simp [gw] at gateway
          | some gw' =>
            rw [gw] at gateway
            exact .inr (.inr (.inr ⟨gw',rfl,fromFlows gateway⟩))

/-! ### Everything that an event can do -/

/-- What an event makes of the controller, and what is written for it. -/
inductive Does (c : Controller) : Event → Controller → List Write → Prop where
  | ignored {sw : IOFSwitch} {sta ap : Mac} {failing : List Nat} (ignores : ¬ Offers c sta ap) :
    Does c (.receive sw (.probe sta ap) failing) c []
  | offered {sw : IOFSwitch} {sta ap : Mac} {failing : List Nat} {entry : STAAPInfo} (offers : Offers c sta ap)
    (isStatus : entry.status = .selected)
    (isSwitch : entry.sw = ((c.lookupSenderSTAAP sta ap).map (·.sw)).getD sw) :
    Does c (.receive sw (.probe sta ap) failing) (c.putEntry sta ap entry) (writeAll failing 0 [⟨sw,.addSTA sta⟩])
  | reported {sw : IOFSwitch} {msg : ToController} {failing : List Nat} {sta ap : Mac} {s : STAStatus}
    {change : STAAPInfo → STAAPInfo} {bests : Map Mac APInfo} (reports : msg.report = some (sta,ap,s))
    (sets : ∀ staAP, (change staAP).status = s) (keeps : ∀ staAP, (change staAP).sw = staAP.sw)
    (fewer : ∀ sta' best, bests.lookup sta' = some best → c.staAPRSSIList.lookup sta' = some best) :
    Does c (.receive sw msg failing) { c.changeEntry sta ap change with staAPRSSIList := bests } []
  | heard {sw : IOFSwitch} {sta ap : Mac} {rssi : UInt8} {failing : List Nat} {isSent : Bool} {writes : List Write}
    (asks : writes = [] ∨ ∃ ap' staAP, c.lookupSenderSTAAP sta ap' = some staAP ∧ staAP.status = .associated ∧
      writes = writeAll failing 0 [⟨staAP.sw,.lastRecPow sta⟩]) :
    Does c (.receive sw (.recPow sta ap rssi) failing)
      (c.putBest sta { strongest (c.staAPRSSIList.lookup sta) sw ap rssi.toInt8 with isSent := isSent }) writes
  | moved {sw : IOFSwitch} {sta ap : Mac} {rssi : UInt8} {failing : List Nat} {staAP : STAAPInfo} {best : APInfo}
    (moves : Moves c sta ap rssi staAP best) :
    Does c (.receive sw (.apRecPow sta ap rssi) failing) (c.handoverTables sw sta ap staAP best)
      (writeAll failing 0 (c.handoverWrites sw sta staAP best failing))
  | stayed {sw : IOFSwitch} {sta ap : Mac} {rssi : UInt8} {failing : List Nat}
    (stays : ¬ ∃ staAP best, Moves c sta ap rssi staAP best) :
    Does c (.receive sw (.apRecPow sta ap rssi) failing) (c.clearSent sta) []
  | updated {sw : IOFSwitch} {sta : Mac} {tuple : FourTuple} {failing : List Nat} :
    Does c (.receive sw (.natUpdate sta tuple) failing) (c.handleNATUpdate sta tuple) []
  | told {sw : IOFSwitch} {sta : Mac} {tuple : FourTuple} {failing : List Nat} {newPort : UInt16}
    (found : (c.flows sta).find? (fun entry => entry.toFourTuple = tuple) = some ⟨tuple,newPort⟩) :
    Does c (.receive sw (.portTranslation sta tuple) failing) c (writeAll failing 0 [⟨sw,.natAdd sta tuple newPort⟩])
  | recorded {sw : IOFSwitch} {sta : Mac} {tuple : FourTuple} {failing : List Nat}
    (fresh : (c.flows sta).find? (fun entry => entry.toFourTuple = tuple) = none) :
    Does c (.receive sw (.portTranslation sta tuple) failing) (c.record sta tuple)
      (writeAll failing 0 [⟨sw,.natAdd sta tuple (c.nextPort tuple.destination)⟩])
  | announced {sw : IOFSwitch} {failing : List Nat} :
    Does c (.receive sw .gwConnect failing) { c with gwSwitch := some sw } []
  | removed {sw : IOFSwitch} : Does c (.removedSwitch sw) (c.removedSwitch sw) []
  | rehashed {order : Map STAAPPair STAAPInfo} : Does c (.rehash order) (c.rehash order) []

theorem staAPRSSIList_changeEntry (c : Controller) (sta ap : Mac) (change : STAAPInfo → STAAPInfo) :
    (c.changeEntry sta ap change).staAPRSSIList = c.staAPRSSIList := by
  unfold changeEntry
  split <;> rfl

/-- The handlers that only change an entry. -/
theorem does_changeEntry (c : Controller) {sw : IOFSwitch} {msg : ToController} {failing : List Nat} {sta ap : Mac}
    {s : STAStatus} {change : STAAPInfo → STAAPInfo} (reports : msg.report = some (sta,ap,s))
    (sets : ∀ staAP, (change staAP).status = s) (keeps : ∀ staAP, (change staAP).sw = staAP.sw) :
    Does c (.receive sw msg failing) (c.changeEntry sta ap change) [] := by
  have done := @Does.reported c sw msg failing sta ap s change c.staAPRSSIList reports sets keeps (fun _ _ => id)
  rwa [← staAPRSSIList_changeEntry c sta ap change] at done

theorem does_step (c : Controller) (e : Event) : Does c e (c.step e).1 (c.step e).2 := by
  cases e with
  | removedSwitch sw => exact .removed
  | rehash order => exact .rehashed
  | receive sw msg failing =>
    cases msg with
    | probe sta ap =>
      by_cases offers : Offers c sta ap
      · obtain ⟨entry,isStatus,isSwitch,same⟩ := handleProbeReq_offers offers sw failing
        simp only [step,receive,same]
        exact .offered offers isStatus isSwitch
      · simp only [step,receive,handleProbeReq_ignores offers]
        exact .ignored offers
    | authReq sta ap authAlg => exact does_changeEntry c rfl (fun _ => rfl) (fun _ => rfl)
    | assocReq sta ap association => exact does_changeEntry c rfl (fun _ => rfl) (fun _ => rfl)
    | reassocReq sta ap => exact does_changeEntry c rfl (fun _ => rfl) (fun _ => rfl)
    | deauthReq sta ap => exact does_changeEntry c rfl (fun _ => rfl) (fun _ => rfl)
    | disassocReq sta ap =>
      simp only [step,receive,handleDisassocReq_eq]
      refine .reported rfl (fun _ => rfl) (fun _ => rfl) (fun sta' best found => ?_)
      split at found
      · by_cases same : sta' = sta
        · subst same
          simp at found
        · rwa [AList.lookup_erase_ne same] at found
      · exact found
    | recPow sta ap rssi =>
      simp only [step,receive,handleLastRSSI]
      split
      · exact .heard (.inl rfl)
      · split
        · exact .heard (.inl rfl)
        · rename_i staAP associated
          obtain ⟨ap',found,isStatus⟩ := findSTAAPInfo_some associated
          exact .heard (.inr ⟨ap',staAP,found,isStatus,rfl⟩)
    | apRecPow sta ap rssi =>
      by_cases moves : ∃ staAP best, Moves c sta ap rssi staAP best
      · obtain ⟨staAP,best,moves⟩ := moves
        simp only [step,receive,handleAPRSSI_moves moves]
        exact .moved moves
      · simp only [step,receive,handleAPRSSI_stays moves]
        exact .stayed moves
    | natUpdate sta tuple => exact .updated
    | portTranslation sta tuple =>
      cases found : (c.flows sta).find? (fun entry => entry.toFourTuple = tuple) with
      | some entry =>
        have same : entry.toFourTuple = tuple := by simpa using List.find?_some found
        simp only [step,receive,handlePortTranslation_known found]
        subst same
        exact .told found
      | none =>
        simp only [step,receive,handlePortTranslation_new found]
        exact .recorded found
    | gwConnect => exact .announced

section
variable {c c' : Controller} {e : Event} {writes : List Write}

theorem changeEntry_frame (c : Controller) (sta ap : Mac) (change : STAAPInfo → STAAPInfo) :
    (c.changeEntry sta ap change).natTable = c.natTable ∧ (c.changeEntry sta ap change).portMap = c.portMap ∧
      (c.changeEntry sta ap change).gwSwitch = c.gwSwitch := by
  unfold changeEntry
  split <;> exact ⟨rfl,rfl,rfl⟩

/-- Only the two messages about flows touch the recorded flows and the port
    counters. -/
theorem Does.flows_frame (does : Does c e c' writes)
    (noUpdate : ∀ sw sta tuple failing, e ≠ .receive sw (.natUpdate sta tuple) failing)
    (noTranslation : ∀ sw sta tuple failing, e ≠ .receive sw (.portTranslation sta tuple) failing) :
    c'.natTable = c.natTable ∧ c'.portMap = c.portMap := by
  cases does with
  | ignored ignores => exact ⟨rfl,rfl⟩
  | offered offers isStatus isSwitch => exact ⟨rfl,rfl⟩
  | @reported sw msg failing sta ap s change bests reports sets keeps fewer =>
    obtain ⟨natTable,portMap,_⟩ := changeEntry_frame c sta ap change
    exact ⟨natTable,portMap⟩
  | heard asks => exact ⟨rfl,rfl⟩
  | moved moves => exact ⟨rfl,rfl⟩
  | stayed stays =>
    unfold clearSent
    split <;> exact ⟨rfl,rfl⟩
  | updated => exact absurd rfl (noUpdate _ _ _ _)
  | told found => exact absurd rfl (noTranslation _ _ _ _)
  | recorded fresh => exact absurd rfl (noTranslation _ _ _ _)
  | announced => exact ⟨rfl,rfl⟩
  | removed =>
    unfold removedSwitch
    split <;> exact ⟨rfl,rfl⟩
  | rehashed =>
    unfold rehash
    split <;> exact ⟨rfl,rfl⟩

/-- Along every event but `WLAN_NAT_UPDATE` recorded flows stay recorded. -/
theorem Does.flows_subset (does : Does c e c' writes)
    (noUpdate : ∀ sw sta tuple failing, e ≠ .receive sw (.natUpdate sta tuple) failing) (sta : Mac) :
    c.flows sta ⊆ c'.flows sta := by
  by_cases asks : ∃ sw sta' tuple failing, e = .receive sw (.portTranslation sta' tuple) failing
  · obtain ⟨sw,sta',tuple,failing,rfl⟩ := asks
    cases does with
    | told found => exact List.Subset.refl _
    | reported reports => cases reports
    | recorded fresh =>
      rw [flows_record]
      split
      · rename_i same
        subst same
        exact List.subset_append_left _ _
      · exact List.Subset.refl _
  · push Not at asks
    rw [flows_congr (does.flows_frame noUpdate asks).1]
    exact List.Subset.refl _

/-- A flow is written in reply to the switch that asked for it, or in a handover, to
    the gateway or as it is recorded. -/
theorem Does.natAdd (does : Does c e c' writes) {w : Write} (member : w ∈ writes) {sta : Mac} {tuple : FourTuple}
    {newPort : UInt16} (adds : w.msg = .natAdd sta tuple newPort) :
    (⟨tuple,newPort⟩ : NATMap) ∈ c'.flows sta ∧ (∃ failing, e = .receive w.sw (.portTranslation sta tuple) failing) ∨
      ∃ sw ap rssi failing staAP best, e = .receive sw (.apRecPow sta ap rssi) failing ∧
        Moves c sta ap rssi staAP best ∧ c'.flows sta = c.flows sta ∧ (c.gwSwitch = some w.sw ∨
          w.sw = (c.handoverEntry sta staAP best).sw ∧ (⟨tuple,newPort⟩ : NATMap) ∈ c.flows sta) := by
  cases does with
  | offered offers isStatus isSwitch =>
    rw [eq_of_mem_writeAll member] at adds
    cases adds
  | heard asks =>
    rcases asks with rfl | ⟨ap',staAP,_,_,rfl⟩
    · cases member
    · rw [eq_of_mem_writeAll member] at adds
      cases adds
  | moved moves =>
    rcases mem_handoverWrites (mem_of_mem_writeAll member) with ⟨entry,recorded,rfl⟩ | rfl | ⟨update,rfl⟩ |
      ⟨gw,isGateway,entry,_,rfl⟩
    · cases adds
      exact .inr ⟨_,_,_,_,_,_,rfl,moves,rfl,.inr ⟨rfl,recorded⟩⟩
    · cases adds
    · cases adds
    · cases adds
      exact .inr ⟨_,_,_,_,_,_,rfl,moves,rfl,.inl isGateway⟩
  | told found =>
    rw [eq_of_mem_writeAll member] at adds ⊢
    cases adds
    exact .inl ⟨List.mem_of_find?_eq_some found,_,rfl⟩
  | recorded fresh =>
    rw [eq_of_mem_writeAll member] at adds ⊢
    cases adds
    exact .inl ⟨by simp [flows_record],_,rfl⟩
  | _ => cases member

/-- Only `GW_CONNECT` makes a switch the gateway. -/
theorem Does.gwSwitch (does : Does c e c' writes) {gw : IOFSwitch} (isGateway : c'.gwSwitch = some gw) :
    c.gwSwitch = some gw ∨ ∃ failing, e = .receive gw .gwConnect failing := by
  cases does with
  | @reported sw msg failing sta ap s change bests reports sets keeps fewer =>
    exact .inl ((changeEntry_frame c sta ap change).2.2 ▸ isGateway)
  | stayed stays =>
    simp only [clearSent] at isGateway
    split at isGateway <;> exact .inl isGateway
  | announced =>
    cases isGateway
    exact .inr ⟨_,rfl⟩
  | removed =>
    simp only [removedSwitch] at isGateway
    split at isGateway
    · cases isGateway
    · exact .inl isGateway
  | rehashed =>
    simp only [rehash] at isGateway
    split at isGateway <;> exact .inl isGateway
  | _ => exact .inl isGateway

/-! ### The switches in the tables -/

theorem lookup_clearSent (c : Controller) (sta sta' ap' : Mac) :
    (c.clearSent sta).lookupSenderSTAAP sta' ap' = c.lookupSenderSTAAP sta' ap' := by
  unfold clearSent
  split <;> rfl

/-- An entry that there was keeps its switch. -/
theorem Does.sw_entry (does : Does c e c' writes) {sta ap : Mac} {old entry : STAAPInfo}
    (isOld : c.lookupSenderSTAAP sta ap = some old) (found : c'.lookupSenderSTAAP sta ap = some entry) :
    entry.sw = old.sw := by
  have kept : c.lookupSenderSTAAP sta ap = some entry → entry.sw = old.sw :=
    fun same => by rw [Option.some.inj (same.symm.trans isOld)]
  cases does with
  | offered offers isStatus isSwitch =>
    rw [lookup_putEntry] at found
    split at found
    · rename_i here
      obtain ⟨rfl,rfl⟩ := here
      cases found
      simp [isSwitch,isOld]
    · exact kept found
  | reported reports sets keeps fewer =>
    have found : (c.changeEntry _ _ _).lookupSenderSTAAP sta ap = some entry := found
    rw [lookup_changeEntry] at found
    split at found
    · rename_i here
      obtain ⟨rfl,rfl⟩ := here
      rw [isOld] at found
      cases found
      exact keeps old
    · exact kept found
  | @moved sw sta' ap' rssi failing staAP best moves =>
    rw [lookup_handoverTables] at found
    split at found
    · rename_i here
      obtain ⟨rfl,rfl⟩ := here
      cases found
      simp [handoverEntry,isOld]
    · split at found
      · rename_i here
        obtain ⟨rfl,rfl⟩ := here
        cases found
        rw [Option.some.inj (isOld.symm.trans moves.entryIs)]
      · exact kept found
  | stayed stays => exact kept (by rwa [lookup_clearSent] at found)
  | removed =>
    simp only [removedSwitch] at found
    split at found
    · exact kept found
    · simp only [lookupSenderSTAAP,Map.lookup_keep,Option.filter_eq_some_iff] at found
      exact kept found.1
  | rehashed => exact kept (by rwa [lookup_rehash] at found)
  | _ => exact kept found

/-- A new entry has the switch of the probe or, after a handover, that of the
    alternative. -/
theorem Does.sw_newEntry (does : Does c e c' writes) {sta ap : Mac} {entry : STAAPInfo}
    (isNew : c.lookupSenderSTAAP sta ap = none) (found : c'.lookupSenderSTAAP sta ap = some entry) :
    (∃ failing, e = .receive entry.sw (.probe sta ap) failing) ∨
      ∃ sw reporter rssi failing staAP best, e = .receive sw (.apRecPow sta reporter rssi) failing ∧
        Moves c sta reporter rssi staAP best ∧ ap = best.apMACAddress ∧ entry.sw = best.sw := by
  have none_ : c.lookupSenderSTAAP sta ap ≠ some entry := by simp [isNew]
  cases does with
  | offered offers isStatus isSwitch =>
    rw [lookup_putEntry] at found
    split at found
    · rename_i here
      obtain ⟨rfl,rfl⟩ := here
      cases found
      rw [isNew] at isSwitch
      exact .inl ⟨_,by rw [isSwitch]; rfl⟩
    · exact absurd found none_
  | reported reports sets keeps fewer =>
    have found : (c.changeEntry _ _ _).lookupSenderSTAAP sta ap = some entry := found
    rw [lookup_changeEntry] at found
    split at found
    · rename_i here
      obtain ⟨rfl,rfl⟩ := here
      simp [isNew] at found
    · exact absurd found none_
  | @moved sw sta' ap' rssi failing staAP best moves =>
    rw [lookup_handoverTables] at found
    split at found
    · rename_i here
      obtain ⟨rfl,rfl⟩ := here
      cases found
      exact .inr ⟨sw,ap',rssi,failing,staAP,best,rfl,moves,rfl,by simp [handoverEntry,isNew,STAAPInfo.create]⟩
    · split at found
      · rename_i here
        obtain ⟨rfl,rfl⟩ := here
        rw [moves.entryIs] at isNew
        cases isNew
      · exact absurd found none_
  | stayed stays => exact absurd (by rwa [lookup_clearSent] at found) none_
  | removed =>
    simp only [removedSwitch] at found
    split at found
    · exact absurd found none_
    · simp only [lookupSenderSTAAP,Map.lookup_keep,Option.filter_eq_some_iff] at found
      exact absurd found.1 none_
  | rehashed => exact absurd (by rwa [lookup_rehash] at found) none_
  | _ => exact absurd found none_

/-- Clearing what was sent leaves the alternatives. -/
theorem best_clearSent {c : Controller} {sta sta' : Mac} {best : APInfo}
    (found : (c.clearSent sta).staAPRSSIList.lookup sta' = some best) :
    ∃ old, c.staAPRSSIList.lookup sta' = some old ∧ best = { old with isSent := best.isSent } := by
  simp only [clearSent] at found
  split at found
  · exact ⟨best,found,rfl⟩
  · rename_i before isBefore
    simp only [putBest,Map.lookup_insert_eq] at found
    split at found
    · rename_i same
      subst same
      cases found
      exact ⟨before,isBefore,rfl⟩
    · exact ⟨best,found,rfl⟩

/-- The alternative of a station stays the one that it was, or becomes the sender
    of a strength report. -/
theorem Does.sw_best (does : Does c e c' writes) {sta : Mac} {best : APInfo}
    (found : c'.staAPRSSIList.lookup sta = some best) :
    (∃ old, c.staAPRSSIList.lookup sta = some old ∧ best.apMACAddress = old.apMACAddress ∧ best.sw = old.sw) ∨
      ∃ rssi failing, e = .receive best.sw (.recPow sta best.apMACAddress rssi) failing ∨
        e = .receive best.sw (.apRecPow sta best.apMACAddress rssi) failing := by
  have kept : c.staAPRSSIList.lookup sta = some best →
      ∃ old, c.staAPRSSIList.lookup sta = some old ∧ best.apMACAddress = old.apMACAddress ∧ best.sw = old.sw :=
    fun same => ⟨best,same,rfl,rfl⟩
  cases does with
  | reported reports sets keeps fewer => exact .inl (kept (fewer sta best found))
  | @heard sw sta' ap rssi failing isSent writes asks =>
    simp only [putBest,Map.lookup_insert_eq] at found
    split at found
    · rename_i same
      subst same
      cases found
      cases isOld : c.staAPRSSIList.lookup sta with
      | none => exact .inr ⟨rssi,failing,.inl rfl⟩
      | some old =>
        unfold strongest
        dsimp only
        split
        · exact .inr ⟨rssi,failing,.inl rfl⟩
        · exact .inl ⟨old,rfl,rfl,rfl⟩
    · exact .inl (kept found)
  | @moved sw sta' ap' rssi failing staAP before moves =>
    simp only [handoverTables,Map.lookup_insert_eq] at found
    split at found
    · rename_i same
      subst same
      cases found
      exact .inr ⟨rssi,failing,.inr rfl⟩
    · exact .inl (kept found)
  | stayed stays =>
    obtain ⟨old,isOld,same⟩ := best_clearSent found
    rw [same]
    exact .inl ⟨old,isOld,rfl,rfl⟩
  | removed =>
    simp only [removedSwitch] at found
    split at found
    · exact .inl (kept found)
    · simp only [Map.lookup_keep,Option.filter_eq_some_iff] at found
      exact .inl (kept found.1)
  | rehashed =>
    simp only [rehash] at found
    split at found <;> exact .inl (kept found)
  | _ => exact .inl (kept found)

/-- The switches that are written to: that of the message, one of the tables or,
    for a flow, the gateway. -/
theorem Does.sw_write (does : Does c e c' writes) {w : Write} (member : w ∈ writes) :
    (∃ msg failing, e = .receive w.sw msg failing ∧ msg ≠ .gwConnect) ∨
      (∃ sta ap entry, c.lookupSenderSTAAP sta ap = some entry ∧ w.sw = entry.sw) ∨
      (∃ sta best, c.staAPRSSIList.lookup sta = some best ∧ w.sw = best.sw) ∨
      c.gwSwitch = some w.sw ∧ ∃ sta tuple newPort, w.msg = .natAdd sta tuple newPort := by
  cases does with
  | offered offers isStatus isSwitch =>
    rw [eq_of_mem_writeAll member]
    exact .inl ⟨_,_,rfl,by simp⟩
  | heard asks =>
    rcases asks with rfl | ⟨ap',staAP,found,_,rfl⟩
    · cases member
    · rw [eq_of_mem_writeAll member]
      exact .inr (.inl ⟨_,_,_,found,rfl⟩)
  | @moved sw sta ap rssi failing staAP best moves =>
    have newSw : ∀ {msg : FromController}, w = ⟨(c.handoverEntry sta staAP best).sw,msg⟩ →
        (∃ sta ap entry, c.lookupSenderSTAAP sta ap = some entry ∧ w.sw = entry.sw) ∨
        ∃ sta best, c.staAPRSSIList.lookup sta = some best ∧ w.sw = best.sw := by
      rintro msg rfl
      cases isOld : c.lookupSenderSTAAP sta best.apMACAddress with
      | some old => exact .inl ⟨_,_,_,isOld,by simp [handoverEntry,isOld]⟩
      | none => exact .inr ⟨_,_,moves.bestIs,by simp [handoverEntry,isOld,STAAPInfo.create]⟩
    rcases mem_handoverWrites (mem_of_mem_writeAll member) with ⟨entry,_,isWrite⟩ | rfl | ⟨update,isWrite⟩ |
      ⟨gw,isGateway,entry,_,rfl⟩
    · rcases newSw isWrite with inEntry | inBest
      · exact .inr (.inl inEntry)
      · exact .inr (.inr (.inl inBest))
    · exact .inl ⟨_,_,rfl,by simp⟩
    · rcases newSw isWrite with inEntry | inBest
      · exact .inr (.inl inEntry)
      · exact .inr (.inr (.inl inBest))
    · exact .inr (.inr (.inr ⟨isGateway,_,_,_,rfl⟩))
  | told found =>
    rw [eq_of_mem_writeAll member]
    exact .inl ⟨_,_,rfl,by simp⟩
  | recorded fresh =>
    rw [eq_of_mem_writeAll member]
    exact .inl ⟨_,_,rfl,by simp⟩
  | _ => cases member

/-- A report sets the status of its pair, and is not answered. -/
theorem Does.report {sw : IOFSwitch} {msg : ToController} {failing : List Nat}
    (does : Does c (.receive sw msg failing) c' writes) {sta ap : Mac} {s : STAStatus}
    (reports : msg.report = some (sta,ap,s)) :
    writes = [] ∧ c'.status sta ap = (c.status sta ap).map (fun _ => s) := by
  cases does with
  | @reported _ _ _ sta' ap' s' change bests reports' sets keeps fewer =>
    cases reports'.symm.trans reports
    have after := c.status_changeEntry sta ap sets sta ap
    rw [if_pos ⟨rfl,rfl⟩] at after
    exact ⟨rfl,after⟩
  | _ => cases reports

/-- Only associated stations are asked after, over the connection in their entry. -/
theorem Does.lastRecPow (does : Does c e c' writes) {w : Write} (member : w ∈ writes) {sta : Mac}
    (asks : w.msg = .lastRecPow sta) :
    ∃ ap staAP, c'.lookupSenderSTAAP sta ap = some staAP ∧ staAP.status = .associated ∧ staAP.sw = w.sw := by
  cases does with
  | offered offers isStatus isSwitch =>
    rw [eq_of_mem_writeAll member] at asks
    cases asks
  | heard query =>
    rcases query with rfl | ⟨ap',staAP,found,isStatus,rfl⟩
    · cases member
    · rw [eq_of_mem_writeAll member] at asks ⊢
      cases asks
      exact ⟨ap',staAP,found,isStatus,rfl⟩
  | moved moves =>
    rcases mem_handoverWrites (mem_of_mem_writeAll member) with ⟨entry,_,rfl⟩ | rfl | ⟨update,rfl⟩ | ⟨gw,_,entry,_,rfl⟩ <;>
      cases asks
  | told found =>
    rw [eq_of_mem_writeAll member] at asks
    cases asks
  | recorded fresh =>
    rw [eq_of_mem_writeAll member] at asks
    cases asks
  | _ => cases member

end
end Handover.Controller
