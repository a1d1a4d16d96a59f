import Handover.Ports

/-!
`handlePortTranslation` beside itself. It is not synchronized, and the messages of different
switches are handled by different threads, so its accesses to the two maps and to the list of
a station may come between those of another call. A call reads the counter of a destination
and writes it back two steps later, and it may put a new list for a station over the one that
another call has put. Ports differ, and flows stay recorded, exactly if every such write still
finds what its call has read.
-/
namespace Handover.PortRace
open Ports (Flow destination)

/-! ### Counters that wrap -/

/-- The first values of a counter of 16 bits. -/
def tickets (first n : Nat) : List UInt16 := (List.range n).map (fun i => UInt16.ofNat (first + i))

theorem ofNat_eq_iff (a b : Nat) : UInt16.ofNat a = UInt16.ofNat b ↔ a % 65536 = b % 65536 := by
  rw [← UInt16.toNat_inj]
  simp

theorem length_tickets (first n : Nat) : (tickets first n).length = n := by simp [tickets]

theorem tickets_succ (first n : Nat) : tickets first (n + 1) = tickets first n ++ [UInt16.ofNat (first + n)] := by
  simp [tickets,List.range_succ]

/-- A value that was read before is new only if it was the last, and the counter has not come
    round. -/
theorem notMem_tickets_iff {first n k : Nat} (before : k ≤ n) (few : n ≤ 65536) :
    UInt16.ofNat (first + k) ∉ tickets first n ↔ k = n ∧ n < 65536 := by
  simp only [tickets,List.mem_map,List.mem_range,ofNat_eq_iff,not_exists,not_and]
  constructor
  · intro fresh
    by_contra stale
    by_cases last : k = n
    · exact fresh 0 (by omega) (by omega)
    · exact fresh k (by omega) rfl
  · rintro ⟨rfl,small⟩ i earlier same
    omega

theorem nodup_tickets {first n : Nat} (few : n ≤ 65536) : (tickets first n).Nodup := by
  refine List.Nodup.map_on (fun i early j late same => ?_) List.nodup_range
  rw [ofNat_eq_iff] at same
  rw [List.mem_range] at early late
  omega

/-! ### One call, step by step -/

/-- Where a thread is in the handler; `entries` is the list that the station had, or that was
    made for it. -/
inductive Stage where
  | idle
  | scanning (flow : Flow) (entries : Nat)
  | creating (flow : Flow)
  | checking (flow : Flow) (entries : Nat)
  | reading (flow : Flow) (entries : Nat)
  | putting (flow : Flow) (entries : Nat) (newPort : UInt16)
  | appending (flow : Flow) (entries : Nat) (newPort : UInt16)
  | replying (flow : Flow) (newPort : UInt16)
deriving DecidableEq

/-- The tables, with the lists of flows as objects, and where the thread of every switch is.
    `owner` is the station for which a list was made, `granted` are the ports that were put
    into the counters, `recorded` the flows that were appended to a list and `replies` what
    was written to the switches. -/
structure State where
  natTable : Mac → Option Nat
  lists : Nat → List NATMap
  next : Nat
  portMap : PortPair → Option UInt16
  stage : IOFSwitch → Stage
  owner : Nat → Mac
  granted : List (Flow × UInt16)
  recorded : List Flow
  replies : List (Flow × UInt16)

def start : State := ⟨fun _ => none,fun _ => [],0,fun _ => none,fun _ => .idle,fun _ => ⟨0,0,0,0,0,0⟩,[],[],[]⟩

namespace State

def goTo (s : State) (sw : IOFSwitch) (stage : Stage) : State := { s with stage := Function.update s.stage sw stage }

/-- A new list is put for the station. -/
def create (s : State) (sta : Mac) : State :=
  { s with
    natTable := Function.update s.natTable sta (some s.next)
    lists := Function.update s.lists s.next []
    next := s.next + 1
    owner := Function.update s.owner s.next sta }

def putPort (s : State) (flow : Flow) (newPort : UInt16) : State :=
  { s with
    portMap := Function.update s.portMap (destination flow) (some newPort)
    granted := s.granted ++ [(flow,newPort)] }

def append (s : State) (entries : Nat) (flow : Flow) (newPort : UInt16) : State :=
  { s with
    lists := Function.update s.lists entries (s.lists entries ++ [⟨flow.2,newPort⟩])
    recorded := s.recorded ++ [flow] }

def reply (s : State) (flow : Flow) (newPort : UInt16) : State := { s with replies := s.replies ++ [(flow,newPort)] }

end State

/-- A message of the switch comes, or its thread makes the next access. -/
inductive Event where
  | call (sw : IOFSwitch) (flow : Flow)
  | advance (sw : IOFSwitch)
deriving DecidableEq

/-- After `natTable.get`. -/
def looked (s : State) (flow : Flow) : Stage :=
  match s.natTable flow.1 with
  | some entries => .scanning flow entries
  | none => .creating flow

/-- After the loop over the list. -/
def scanned (s : State) (flow : Flow) (entries : Nat) : Stage :=
  match (s.lists entries).find? (fun entry => entry.toFourTuple = flow.2) with
  | some entry => .replying flow entry.newPort
  | none => .checking flow entries

def step (s : State) : Event → Option State
  | .call sw flow => if s.stage sw = .idle then some (s.goTo sw (looked s flow)) else none
  | .advance sw =>
    match s.stage sw with
    | .idle => none
    | .scanning flow entries => some (s.goTo sw (scanned s flow entries))
    | .creating flow => some ((s.create flow.1).goTo sw (.checking flow s.next))
    | .checking flow entries =>
      some (s.goTo sw (if (s.portMap (destination flow)).isSome then .reading flow entries
        else .putting flow entries (49151 + 1)))
    | .reading flow entries => (s.portMap (destination flow)).map (fun newPort =>
        s.goTo sw (.putting flow entries (newPort + 1)))
    | .putting flow entries newPort => some ((s.putPort flow newPort).goTo sw (.appending flow entries newPort))
    | .appending flow entries newPort => some ((s.append entries flow newPort).goTo sw (.replying flow newPort))
    | .replying flow newPort => some ((s.reply flow newPort).goTo sw .idle)

/-! ### What must not be lost -/

namespace State

/-- The ports given for the destination, in their order. -/
def ports (s : State) (d : PortPair) : List UInt16 :=
  (s.granted.filter (fun grant => destination grant.1 = d)).map (·.2)

/-- The next port of the destination, as the counter has it now. -/
def nextPort (s : State) (d : PortPair) : UInt16 := (s.portMap d).getD 49151 + 1

/-- The 4-tuples that the table has for the station. -/
def listed (s : State) (sta : Mac) : List FourTuple :=
  match s.natTable sta with
  | some entries => (s.lists entries).map (·.toFourTuple)
  | none => []

end State

/-- No recorded flow has disappeared. -/
def Kept (s : State) : Prop := ∀ flow ∈ s.recorded, flow.2 ∈ s.listed flow.1

/-- No port was given twice for one destination. -/
def Single (s : State) : Prop := ∀ d, (s.ports d).Nodup

/-- Different flows to one destination have received different ports. -/
def Apart (s : State) : Prop :=
  ∀ one ∈ s.replies, ∀ two ∈ s.replies, one.1 ≠ two.1 → destination one.1 = destination two.1 → one.2 ≠ two.2

/-- A list is put only while no flow of the station is recorded, and a flow is appended to the
    list that the table has, unless it is there already. -/
def keeps (s : State) : Event → Bool
  | .call _ _ => true
  | .advance sw =>
    match s.stage sw with
    | .creating flow => s.recorded.all (fun old => old.1 ≠ flow.1)
    | .appending flow entries _ => s.natTable flow.1 = some entries || (s.listed flow.1).contains flow.2
    | _ => true

/-- A port is put while the counter is as it was read, and has not come round. -/
def counts (s : State) : Event → Bool
  | .call _ _ => true
  | .advance sw =>
    match s.stage sw with
    | .putting flow _ newPort =>
      newPort = s.nextPort (destination flow) && decide ((s.ports (destination flow)).length < 65536)
    | _ => true

/-! ### What a step can do -/

/-- The accesses of a call. -/
inductive Does (s : State) (sw : IOFSwitch) : Event → State → Prop where
  | looks {flow : Flow} (isStage : s.stage sw = .idle) : Does s sw (.call sw flow) (s.goTo sw (looked s flow))
  | scans {flow : Flow} {entries : Nat} (isStage : s.stage sw = .scanning flow entries) :
    Does s sw (.advance sw) (s.goTo sw (scanned s flow entries))
  | creates {flow : Flow} (isStage : s.stage sw = .creating flow) :
    Does s sw (.advance sw) ((s.create flow.1).goTo sw (.checking flow s.next))
  | checks {flow : Flow} {entries : Nat} (isStage : s.stage sw = .checking flow entries)
    (isSome : (s.portMap (destination flow)).isSome = true) : Does s sw (.advance sw) (s.goTo sw (.reading flow entries))
  | reads {flow : Flow} {entries : Nat}
    (isStage : s.stage sw = .checking flow entries ∧ s.portMap (destination flow) = none ∨
      s.stage sw = .reading flow entries) :
    Does s sw (.advance sw) (s.goTo sw (.putting flow entries (s.nextPort (destination flow))))
  | puts {flow : Flow} {entries : Nat} {newPort : UInt16} (isStage : s.stage sw = .putting flow entries newPort) :
    Does s sw (.advance sw) ((s.putPort flow newPort).goTo sw (.appending flow entries newPort))
  | appends {flow : Flow} {entries : Nat} {newPort : UInt16} (isStage : s.stage sw = .appending flow entries newPort) :
    Does s sw (.advance sw) ((s.append entries flow newPort).goTo sw (.replying flow newPort))
  | replies {flow : Flow} {newPort : UInt16} (isStage : s.stage sw = .replying flow newPort) :
    Does s sw (.advance sw) ((s.reply flow newPort).goTo sw .idle)

section
variable {s next : State} {e : Event} {sw : IOFSwitch}

theorem step_does (stepped : step s e = some next) : ∃ sw, Does s sw e next := by
  cases e with
  | call sw flow =>
    simp only [step] at stepped
    split at stepped
    · rename_i isStage
      cases stepped
      exact ⟨sw,.looks isStage⟩
    · cases stepped
  | advance sw =>
    refine ⟨sw,?_⟩
    simp only [step] at stepped
    split at stepped
    · cases stepped
    · rename_i isStage
      cases stepped
      exact .scans isStage
    · rename_i isStage
      cases stepped
      exact .creates isStage
    · rename_i flow entries isStage
      cases stepped
      split
      · rename_i isSome
        exact .checks isStage isSome
      · rename_i isNone
        have isNone : s.portMap (destination flow) = none := by simpa using isNone
        have read := Does.reads (.inl ⟨isStage,isNone⟩)
        rwa [State.nextPort,isNone,Option.getD_none] at read
    · rename_i isStage
      obtain ⟨newPort,isPort,rfl⟩ := Option.map_eq_some_iff.mp stepped
      have read := Does.reads (.inr isStage)
      rwa [State.nextPort,isPort,Option.getD_some] at read
    · rename_i isStage
      cases stepped
      exact .puts isStage
    · rename_i isStage
      cases stepped
      exact .appends isStage
    · rename_i isStage
      cases stepped
      exact .replies isStage

/-! ### Lists and grants -/

/-- The flow of a call, and the list that it has in hand. -/
def Stage.holds : Stage → Option (Flow × Nat)
  | .scanning flow entries => some (flow,entries)
  | .checking flow entries => some (flow,entries)
  | .reading flow entries => some (flow,entries)
  | .putting flow entries _ => some (flow,entries)
  | .appending flow entries _ => some (flow,entries)
  | _ => none

/-- The port that a call has for its flow. -/
def Stage.tells : Stage → Option (Flow × UInt16)
  | .appending flow _ newPort => some (flow,newPort)
  | .replying flow newPort => some (flow,newPort)
  | _ => none

/-- Lists belong to stations, and the ports in them, as those that are replied, were granted. -/
structure Sound (s : State) : Prop where
  table : ∀ sta entries, s.natTable sta = some entries → entries < s.next ∧ s.owner entries = sta
  held : ∀ sw flow entries, (s.stage sw).holds = some (flow,entries) → entries < s.next ∧ s.owner entries = flow.1
  filed : ∀ entries, ∀ entry ∈ s.lists entries, ((s.owner entries,entry.toFourTuple),entry.newPort) ∈ s.granted
  told : ∀ sw grant, (s.stage sw).tells = some grant → grant ∈ s.granted
  replied : ∀ grant ∈ s.replies, grant ∈ s.granted

theorem sound_start : Sound start where
  table := fun _ _ isSome => by cases isSome
  held := fun _ _ _ isSome => by cases isSome
  filed := fun _ _ member => by cases member
  told := fun _ _ isSome => by cases isSome
  replied := fun _ member => by cases member

theorem stage_goTo (s : State) (sw sw' : IOFSwitch) (stage : Stage) :
    (s.goTo sw stage).stage sw' = if sw' = sw then stage else s.stage sw' := by
  simp only [State.goTo,Function.update_apply]

theorem Sound.goTo {stage : Stage} (sound : Sound s) (sw : IOFSwitch)
    (held : ∀ flow entries, stage.holds = some (flow,entries) → entries < s.next ∧ s.owner entries = flow.1)
    (told : ∀ grant, stage.tells = some grant → grant ∈ s.granted) : Sound (s.goTo sw stage) where
  table := sound.table
  filed := sound.filed
  replied := sound.replied
  held := by
    intro sw' flow entries isSome
    rw [stage_goTo] at isSome
    split at isSome
    · exact held flow entries isSome
    · exact sound.held sw' flow entries isSome
  told := by
    intro sw' grant isSome
    rw [stage_goTo] at isSome
    split at isSome
    · exact told grant isSome
    · exact sound.told sw' grant isSome

theorem Sound.create (sound : Sound s) (sta : Mac) : Sound (s.create sta) where
  table := by
    intro sta' entries isSome
    simp only [State.create,Function.update_apply] at isSome ⊢
    split at isSome
    · cases isSome
      rename_i same
      exact ⟨Nat.lt_succ_self _,by rw [if_pos rfl,same]⟩
    · obtain ⟨early,isOwner⟩ := sound.table sta' entries isSome
      exact ⟨by omega,by rw [if_neg (by omega),isOwner]⟩
  held := by
    intro sw flow entries isSome
    obtain ⟨early,isOwner⟩ := sound.held sw flow entries isSome
    simp only [State.create,Function.update_apply]
    exact ⟨by omega,by rw [if_neg (by omega),isOwner]⟩
  filed := by
    intro entries entry member
    simp only [State.create,Function.update_apply] at member ⊢
    split at member
    · cases member
    · rename_i other
      rw [if_neg other]
      exact sound.filed entries entry member
  told := sound.told
  replied := sound.replied

theorem Sound.putPort (sound : Sound s) (flow : Flow) (newPort : UInt16) : Sound (s.putPort flow newPort) where
  table := sound.table
  held := sound.held
  filed := fun entries entry member => List.mem_append_left _ (sound.filed entries entry member)
  told := fun sw grant isSome => List.mem_append_left _ (sound.told sw grant isSome)
  replied := fun grant member => List.mem_append_left _ (sound.replied grant member)

theorem Sound.append {flow : Flow} {newPort : UInt16} {entries : Nat} (sound : Sound s)
    (isOwner : s.owner entries = flow.1) (isGranted : (flow,newPort) ∈ s.granted) :
    Sound (s.append entries flow newPort) where
  table := sound.table
  held := sound.held
  filed := by
    intro entries' entry member
    simp only [State.append,Function.update_apply] at member
    split at member
    · rename_i same
      subst same
      rcases List.mem_append.mp member with old | new
      · exact sound.filed _ entry old
      · rw [List.mem_singleton.mp new]
        show ((s.owner entries',flow.2),newPort) ∈ s.granted
        rw [isOwner]
        exact isGranted
    · exact sound.filed entries' entry member
  told := sound.told
  replied := sound.replied

theorem Sound.reply {flow : Flow} {newPort : UInt16} (sound : Sound s) (isGranted : (flow,newPort) ∈ s.granted) :
    Sound (s.reply flow newPort) where
  table := sound.table
  held := sound.held
  filed := sound.filed
  told := sound.told
  replied := by
    intro grant member
    rcases List.mem_append.mp member with old | new
    · exact sound.replied grant old
    · rw [List.mem_singleton.mp new]
      exact isGranted

theorem Sound.looked (sound : Sound s) (sw : IOFSwitch) (flow : Flow) : Sound (s.goTo sw (looked s flow)) := by
  unfold PortRace.looked
  split
  · rename_i entries isList
    refine sound.goTo sw (fun flow' entries' isSome => ?_) (fun grant isSome => by cases isSome)
    cases isSome
    exact sound.table flow.1 entries isList
  · exact sound.goTo sw (fun flow' entries' isSome => by cases isSome) (fun grant isSome => by cases isSome)

/-- An entry that is found has the port that was granted to the flow. -/
theorem Sound.scanned {flow : Flow} {entries : Nat} (sound : Sound s) (sw : IOFSwitch)
    (held : entries < s.next ∧ s.owner entries = flow.1) : Sound (s.goTo sw (scanned s flow entries)) := by
  unfold PortRace.scanned
  split
  · rename_i entry found
    refine sound.goTo sw (fun flow' entries' isSome => by cases isSome) (fun grant isSome => ?_)
    cases isSome
    have isTuple : entry.toFourTuple = flow.2 := by simpa using List.find?_some found
    have filed := sound.filed entries entry (List.mem_of_find?_eq_some found)
    rwa [held.2,isTuple] at filed
  · refine sound.goTo sw (fun flow' entries' isSome => ?_) (fun grant isSome => by cases isSome)
    cases isSome
    exact held

theorem sound_step (sound : Sound s) (does : Does s sw e next) : Sound next := by
  cases does with
  | @looks flow isStage => exact sound.looked sw flow
  | @scans flow entries isStage => exact sound.scanned sw (sound.held sw flow entries (by rw [isStage]; rfl))
  | @creates flow isStage =>
    refine (sound.create flow.1).goTo sw (fun flow' entries isSome => ?_) (fun grant isSome => by cases isSome)
    cases isSome
    simp [State.create]
  | @checks flow entries isStage isSome =>
    have held := sound.held sw flow entries (by rw [isStage]; rfl)
    refine sound.goTo sw (fun flow' entries' isSome => ?_) (fun grant isSome => by cases isSome)
    cases isSome
    exact held
  | @reads flow entries isStage =>
    have held := sound.held sw flow entries (by rcases isStage with ⟨isStage,_⟩ | isStage <;> rw [isStage] <;> rfl)
    refine sound.goTo sw (fun flow' entries' isSome => ?_) (fun grant isSome => by cases isSome)
    cases isSome
    exact held
  | @puts flow entries newPort isStage =>
    have held := sound.held sw flow entries (by rw [isStage]; rfl)
    refine (sound.putPort flow newPort).goTo sw (fun flow' entries' isSome => ?_) (fun grant isSome => ?_)
    · cases isSome
      exact held
    · cases isSome
      simp [State.putPort]
  | @appends flow entries newPort isStage =>
    have held := sound.held sw flow entries (by rw [isStage]; rfl)
    have told := sound.told sw (flow,newPort) (by rw [isStage]; rfl)
    refine (sound.append held.2 told).goTo sw (fun flow' entries' isSome => by cases isSome) (fun grant isSome => ?_)
    cases isSome
    exact told
  | @replies flow newPort isStage =>
    have told := sound.told sw (flow,newPort) (by rw [isStage]; rfl)
    exact (sound.reply told).goTo sw (fun flow' entries' isSome => by cases isSome) (fun grant isSome => by cases isSome)

/-- What is received was granted: ports that are given once keep flows apart. -/
theorem Sound.apart (sound : Sound s) (single : Single s) : Apart s := by
  intro one isReply two isReply' differ same equal
  have grant : ∀ {d}, ∀ grant ∈ s.replies, destination grant.1 = d →
      grant ∈ s.granted.filter (fun grant => destination grant.1 = d) := by
    intro d grant member isDestination
    exact List.mem_filter.mpr ⟨sound.replied grant member,by simpa using isDestination⟩
  have both := List.inj_on_of_nodup_map (single (destination two.1)) (grant one isReply same) (grant two isReply' rfl)
    equal
  exact differ (congrArg Prod.fst both)

/-! ### Flows stay recorded -/

theorem listed_of_eq {sta : Mac} (table : next.natTable sta = s.natTable sta)
    (lists : ∀ entries, s.natTable sta = some entries → next.lists entries = s.lists entries) :
    next.listed sta = s.listed sta := by
  unfold State.listed
  rw [table]
  split
  · rename_i entries isList
    rw [lists entries isList]
  · rfl

theorem kept_congr (recorded : next.recorded = s.recorded) (table : next.natTable = s.natTable)
    (lists : next.lists = s.lists) : Kept next ↔ Kept s := by
  have same : ∀ sta, next.listed sta = s.listed sta := fun sta =>
    listed_of_eq (by rw [table]) (fun _ _ => by rw [lists])
  simp only [Kept,recorded,same]

/-- A new list drops what was recorded for the station. -/
theorem kept_create (sound : Sound s) (kept : Kept s) (sta : Mac) :
    Kept (s.create sta) ↔ ∀ flow ∈ s.recorded, flow.1 ≠ sta := by
  have other : ∀ sta', sta' ≠ sta → (s.create sta).listed sta' = s.listed sta' := by
    intro sta' isOther
    refine listed_of_eq (Function.update_of_ne isOther _ _) (fun entries isList => ?_)
    exact Function.update_of_ne (by have := (sound.table sta' entries isList).1; omega) _ _
  have none : (s.create sta).listed sta = [] := by simp [State.listed,State.create]
  constructor
  · intro kept' flow member same
    have listed := kept' flow member
    rw [same,none] at listed
    cases listed
  · intro noneRecorded flow member
    rw [other flow.1 (noneRecorded flow member)]
    exact kept flow member

theorem mem_listed_append (s : State) (entries : Nat) (flow : Flow) (newPort : UInt16) (sta : Mac) (tuple : FourTuple) :
    tuple ∈ (s.append entries flow newPort).listed sta ↔
      tuple ∈ s.listed sta ∨ s.natTable sta = some entries ∧ tuple = flow.2 := by
  simp only [State.listed,State.append]
  cases isList : s.natTable sta with
  | none => simp
  | some entries' =>
    by_cases same : entries' = entries
    · subst same
      simp [or_comm,eq_comm]
    · simp [same]

theorem kept_append (kept : Kept s) (entries : Nat) (flow : Flow) (newPort : UInt16) :
    Kept (s.append entries flow newPort) ↔ s.natTable flow.1 = some entries ∨ flow.2 ∈ s.listed flow.1 := by
  have recorded : (s.append entries flow newPort).recorded = s.recorded ++ [flow] := rfl
  constructor
  · intro kept'
    have here := kept' flow (by rw [recorded]; simp)
    rw [mem_listed_append] at here
    exact here.symm.imp_left And.left
  · intro here flow' member
    rw [mem_listed_append]
    rw [recorded] at member
    rcases List.mem_append.mp member with old | new
    · exact .inl (kept flow' old)
    · rw [List.mem_singleton.mp new]
      exact here.symm.imp_right (fun isList => ⟨isList,rfl⟩)

theorem kept_step (sound : Sound s) (kept : Kept s) (does : Does s sw e next) : Kept next ↔ keeps s e = true := by
  have quiet : ∀ {next}, next.recorded = s.recorded → next.natTable = s.natTable → next.lists = s.lists →
      keeps s e = true → (Kept next ↔ keeps s e = true) :=
    fun recorded table lists passes => iff_of_true ((kept_congr recorded table lists).mpr kept) passes
  cases does with
  | looks isStage => exact quiet rfl rfl rfl rfl
  | scans isStage => exact quiet rfl rfl rfl (by simp [keeps,isStage])
  | @creates flow isStage =>
    refine Iff.trans (kept_congr rfl rfl rfl) ((kept_create sound kept flow.1).trans ?_)
    simp [keeps,isStage]
  | checks isStage isSome => exact quiet rfl rfl rfl (by simp [keeps,isStage])
  | reads isStage => exact quiet rfl rfl rfl (by rcases isStage with ⟨isStage,_⟩ | isStage <;> simp [keeps,isStage])
  | puts isStage => exact quiet rfl rfl rfl (by simp [keeps,isStage])
  | @appends flow entries newPort isStage =>
    refine Iff.trans (kept_congr rfl rfl rfl) ((kept_append kept entries flow newPort).trans ?_)
    simp [keeps,isStage]
  | replies isStage => exact quiet rfl rfl rfl (by simp [keeps,isStage])

/-! ### Ports are given once -/

/-- The ports of a destination are those from 49152 on, the counter has the last, and a call
    that is about to put one has read the counter as it was then. -/
structure Counted (s : State) : Prop where
  ports : ∀ d, s.ports d = tickets 49152 (s.ports d).length
  few : ∀ d, (s.ports d).length ≤ 65536
  counter : ∀ d, s.nextPort d = UInt16.ofNat (49152 + (s.ports d).length)
  read : ∀ sw flow entries newPort, s.stage sw = .putting flow entries newPort →
    ∃ k ≤ (s.ports (destination flow)).length, newPort = UInt16.ofNat (49152 + k)

theorem counted_start : Counted start where
  ports := fun d => rfl
  few := fun d => Nat.zero_le _
  counter := fun d => rfl
  read := fun _ _ _ _ isStage => by cases isStage

theorem Counted.single (counted : Counted s) : Single s := by
  intro d
  rw [counted.ports d]
  exact nodup_tickets (counted.few d)

/-- A step that puts no port. -/
theorem Counted.frame (counted : Counted s) (granted : next.granted = s.granted) (portMap : next.portMap = s.portMap)
    (read : ∀ sw flow entries newPort, next.stage sw = .putting flow entries newPort →
      s.stage sw = .putting flow entries newPort ∨ newPort = s.nextPort (destination flow)) : Counted next := by
  have ports : ∀ d, next.ports d = s.ports d := fun d => by rw [State.ports,State.ports,granted]
  have counter : ∀ d, next.nextPort d = s.nextPort d := fun d => by rw [State.nextPort,State.nextPort,portMap]
  refine ⟨fun d => ?_,fun d => ?_,fun d => ?_,fun sw flow entries newPort isStage => ?_⟩
  · rw [ports]
    exact counted.ports d
  · rw [ports]
    exact counted.few d
  · rw [ports,counter]
    exact counted.counter d
  · rw [ports]
    rcases read sw flow entries newPort isStage with old | new
    · exact counted.read sw flow entries newPort old
    · exact ⟨_,le_refl _,new.trans (counted.counter _)⟩

theorem Counted.goTo {stage : Stage} (counted : Counted s) (sw : IOFSwitch)
    (read : ∀ flow entries newPort, stage = .putting flow entries newPort → newPort = s.nextPort (destination flow)) :
    Counted (s.goTo sw stage) := by
  refine counted.frame rfl rfl (fun sw' flow entries newPort isStage => ?_)
  rw [stage_goTo] at isStage
  split at isStage
  · exact .inr (read flow entries newPort isStage)
  · exact .inl isStage

theorem ports_putPort (s : State) (flow : Flow) (newPort : UInt16) (d : PortPair) :
    (s.putPort flow newPort).ports d = s.ports d ++ if destination flow = d then [newPort] else [] := by
  simp only [State.ports,State.putPort,List.filter_append,List.map_append]
  by_cases same : destination flow = d <;> simp [same]

theorem nextPort_putPort (s : State) (flow : Flow) (newPort : UInt16) (d : PortPair) :
    (s.putPort flow newPort).nextPort d = if d = destination flow then newPort + 1 else s.nextPort d := by
  simp only [State.nextPort,State.putPort,Function.update_apply]
  split <;> rfl

/-- A port that is put is new exactly if the counter is as it was read. -/
theorem Counted.fresh_iff {flow : Flow} {entries : Nat} {newPort : UInt16} (counted : Counted s)
    (isStage : s.stage sw = .putting flow entries newPort) :
    newPort ∉ s.ports (destination flow) ↔
      newPort = s.nextPort (destination flow) ∧ (s.ports (destination flow)).length < 65536 := by
  obtain ⟨k,early,rfl⟩ := counted.read sw flow entries newPort isStage
  have few := counted.few (destination flow)
  rw [counted.ports,notMem_tickets_iff early few,length_tickets,counted.counter,ofNat_eq_iff]
  omega

theorem single_putPort {flow : Flow} {newPort : UInt16} (single : Single s) :
    Single (s.putPort flow newPort) ↔ newPort ∉ s.ports (destination flow) := by
  simp only [Single,ports_putPort]
  constructor
  · intro all member
    have nodup := all (destination flow)
    rw [if_pos rfl,List.nodup_append] at nodup
    exact nodup.2.2 newPort member newPort (by simp) rfl
  · intro fresh d
    split
    · rename_i same
      subst same
      rw [List.nodup_append]
      refine ⟨single _,by simp,fun port old port' new same => ?_⟩
      rw [List.mem_singleton] at new
      exact fresh (new ▸ same ▸ old)
    · rw [List.append_nil]
      exact single d

theorem Counted.putPort {flow : Flow} {newPort : UInt16} (counted : Counted s)
    (isNext : newPort = s.nextPort (destination flow)) (few : (s.ports (destination flow)).length < 65536) :
    Counted (s.putPort flow newPort) := by
  have isPort : newPort = UInt16.ofNat (49152 + (s.ports (destination flow)).length) := isNext.trans (counted.counter _)
  have here : (s.putPort flow newPort).ports (destination flow) =
      tickets 49152 ((s.ports (destination flow)).length + 1) := by
    rw [ports_putPort,if_pos rfl,tickets_succ,← counted.ports,isPort]
  have other : ∀ d, d ≠ destination flow → (s.putPort flow newPort).ports d = s.ports d := by
    intro d isOther
    rw [ports_putPort,if_neg (Ne.symm isOther),List.append_nil]
  refine ⟨fun d => ?_,fun d => ?_,fun d => ?_,fun sw flow' entries port isStage => ?_⟩
  · by_cases same : d = destination flow
    · rw [same,here,length_tickets]
    · rw [other d same]
      exact counted.ports d
  · by_cases same : d = destination flow
    · rw [same,here,length_tickets]
      exact few
    · rw [other d same]
      exact counted.few d
  · rw [nextPort_putPort]
    split
    · rename_i same
      rw [same,here,length_tickets,isPort,← Nat.add_assoc,UInt16.ofNat_add _ 1]
      rfl
    · rename_i isOther
      rw [other d isOther]
      exact counted.counter d
  · obtain ⟨k,early,isRead⟩ := counted.read sw flow' entries port isStage
    refine ⟨k,?_,isRead⟩
    rw [ports_putPort,List.length_append]
    omega

theorem single_step (counted : Counted s) (does : Does s sw e next) :
    (Single next ↔ counts s e = true) ∧ (counts s e = true → Counted next) := by
  have quiet : ∀ {next}, Counted next → counts s e = true →
      (Single next ↔ counts s e = true) ∧ (counts s e = true → Counted next) :=
    fun after passes => ⟨iff_of_true after.single passes,fun _ => after⟩
  cases does with
  | @looks flow isStage =>
    refine quiet (counted.goTo sw (fun flow' entries newPort isPutting => ?_)) rfl
    unfold looked at isPutting
    split at isPutting <;> cases isPutting
  | @scans flow entries isStage =>
    refine quiet (counted.goTo sw (fun flow' entries newPort isPutting => ?_)) (by simp [counts,isStage])
    unfold scanned at isPutting
    split at isPutting <;> cases isPutting
  | @creates flow isStage =>
    have created : Counted (s.create flow.1) := counted.frame rfl rfl (fun _ _ _ _ old => .inl old)
    exact quiet (created.goTo sw (fun _ _ _ isPutting => by cases isPutting)) (by simp [counts,isStage])
  | checks isStage isSome =>
    exact quiet (counted.goTo sw (fun _ _ _ isPutting => by cases isPutting)) (by simp [counts,isStage])
  | reads isStage =>
    refine quiet (counted.goTo sw (fun flow' entries newPort isPutting => ?_)) ?_
    · cases isPutting
      rfl
    · rcases isStage with ⟨isStage,_⟩ | isStage <;> simp [counts,isStage]
  | @puts flow entries newPort isStage =>
    have passes : counts s (.advance sw) = true ↔
        newPort = s.nextPort (destination flow) ∧ (s.ports (destination flow)).length < 65536 := by
      simp [counts,isStage]
    refine ⟨?_,fun passed => ?_⟩
    · rw [passes,← counted.fresh_iff isStage,← single_putPort counted.single]
      rfl
    · obtain ⟨isNext,few⟩ := passes.mp passed
      exact (counted.putPort isNext few).goTo sw (fun _ _ _ isPutting => by cases isPutting)
  | @appends flow entries newPort isStage =>
    have appended : Counted (s.append entries flow newPort) := counted.frame rfl rfl (fun _ _ _ _ old => .inl old)
    exact quiet (appended.goTo sw (fun _ _ _ isPutting => by cases isPutting)) (by simp [counts,isStage])
  | @replies flow newPort isStage =>
    have replied : Counted (s.reply flow newPort) := counted.frame rfl rfl (fun _ _ _ _ old => .inl old)
    exact quiet (replied.goTo sw (fun _ _ _ isPutting => by cases isPutting)) (by simp [counts,isStage])

end

/-! ### A call alone -/

/-- The tables are those of the controller. -/
structure Represents (s : State) (c : Controller) : Prop where
  natTable : ∀ sta, c.natTable.lookup sta = (s.natTable sta).map s.lists
  portMap : ∀ d, c.portMap.lookup d = s.portMap d

section
variable {s : State} {c : Controller} {sw : IOFSwitch} {flow : Flow} {entries : Nat}

@[simp] theorem goTo_goTo (s : State) (sw : IOFSwitch) (one two : Stage) :
    (s.goTo sw one).goTo sw two = s.goTo sw two := by
  simp [State.goTo]

@[simp] theorem goTo_putPort (s : State) (sw : IOFSwitch) (stage : Stage) (flow : Flow) (newPort : UInt16) :
    (s.goTo sw stage).putPort flow newPort = (s.putPort flow newPort).goTo sw stage := rfl

@[simp] theorem goTo_append (s : State) (sw : IOFSwitch) (stage : Stage) (entries : Nat) (flow : Flow)
    (newPort : UInt16) :
    (s.goTo sw stage).append entries flow newPort = (s.append entries flow newPort).goTo sw stage := rfl

@[simp] theorem goTo_reply (s : State) (sw : IOFSwitch) (stage : Stage) (flow : Flow) (newPort : UInt16) :
    (s.goTo sw stage).reply flow newPort = (s.reply flow newPort).goTo sw stage := rfl

@[simp] theorem stage_goTo_self (s : State) (sw : IOFSwitch) (stage : Stage) : (s.goTo sw stage).stage sw = stage := by
  rw [stage_goTo,if_pos rfl]

/-- The tables with one more flow, and its answer. -/
def State.record (s : State) (entries : Nat) (flow : Flow) : State :=
  ((s.putPort flow (s.nextPort (destination flow))).append entries flow (s.nextPort (destination flow))).reply flow
    (s.nextPort (destination flow))

theorem checking_run (isStage : s.stage sw = .checking flow entries) :
    ∃ events, Run.run step s events = some ((s.record entries flow).goTo sw .idle) := by
  cases isPort : s.portMap (destination flow) with
  | none =>
    refine ⟨[.advance sw,.advance sw,.advance sw,.advance sw],?_⟩
    simp [Run.run,step,isStage,isPort,State.record,State.nextPort]
  | some port =>
    have samePort : ∀ stage, (s.goTo sw stage).portMap (destination flow) = some port := fun _ => isPort
    refine ⟨[.advance sw,.advance sw,.advance sw,.advance sw,.advance sw],?_⟩
    simp [Run.run,step,isStage,isPort,samePort,State.record,State.nextPort]

/-- Recording a flow in a list that the table has for its station alone. -/
theorem represents_record (portMap : ∀ d, c.portMap.lookup d = s.portMap d)
    (others : ∀ sta, sta ≠ flow.1 → c.natTable.lookup sta = (s.natTable sta).map s.lists)
    (flows : c.flows flow.1 = s.lists entries) (isList : s.natTable flow.1 = some entries)
    (apart : ∀ sta, s.natTable sta = some entries → sta = flow.1) :
    Represents ((s.record entries flow).goTo sw .idle) (c.record flow.1 flow.2) := by
  have nextPort : c.nextPort (destination flow) = s.nextPort (destination flow) := by
    rw [Controller.nextPort,State.nextPort,portMap]
  refine ⟨fun sta => ?_,fun d => ?_⟩
  · show (c.natTable.insert flow.1 (c.flows flow.1 ++ [⟨flow.2,c.nextPort (destination flow)⟩])).lookup sta =
      (s.natTable sta).map
        (Function.update s.lists entries (s.lists entries ++ [⟨flow.2,s.nextPort (destination flow)⟩]))
    rw [Map.lookup_insert_eq]
    split
    · rename_i same
      rw [same,isList,flows,nextPort,Option.map_some,Function.update_self]
    · rename_i other
      rw [others sta other]
      refine Option.map_congr (fun entries' isList' => ?_)
      refine (Function.update_of_ne ?_ _ _).symm
      rintro rfl
      exact other (apart sta isList')
  · show (c.portMap.insert (destination flow) (c.nextPort (destination flow))).lookup d =
      Function.update s.portMap (destination flow) (some (s.nextPort (destination flow))) d
    rw [Map.lookup_insert_eq,Function.update_apply,nextPort,portMap]

/-- The answer of the handler to a flow, and the tables that it leaves. -/
def Answers (s : State) (c : Controller) (sw : IOFSwitch) (flow : Flow) (s' : State) : Prop :=
  Represents s' (c.handlePortTranslation sw flow.1 flow.2 []).1 ∧
    ∃ newPort, s'.replies = s.replies ++ [(flow,newPort)] ∧
    (c.handlePortTranslation sw flow.1 flow.2 []).2 = [⟨sw,.natAdd flow.1 flow.2 newPort⟩]

/-- A flow that its list has is answered with its port. -/
theorem answers_known {entry : NATMap} (represents : Represents s c) (isList : s.natTable flow.1 = some entries)
    (found : (s.lists entries).find? (fun entry => entry.toFourTuple = flow.2) = some entry) :
    Answers s c sw flow ((s.reply flow entry.newPort).goTo sw .idle) := by
  have isTuple : entry.toFourTuple = flow.2 := by simpa using List.find?_some found
  have known : (c.flows flow.1).find? (fun entry => entry.toFourTuple = flow.2) = some entry := by
    rw [Controller.flows,represents.natTable,isList]
    exact found
  rw [Answers,Controller.handlePortTranslation_known known,isTuple]
  exact ⟨⟨represents.natTable,represents.portMap⟩,entry.newPort,rfl,rfl⟩

theorem answers_new {t : State} (fresh : (c.flows flow.1).find? (fun entry => entry.toFourTuple = flow.2) = none)
    (replies : t.replies = s.replies) (portMap : ∀ d, c.portMap.lookup d = t.portMap d)
    (recorded : Represents ((t.record entries flow).goTo sw .idle) (c.record flow.1 flow.2)) :
    Answers s c sw flow ((t.record entries flow).goTo sw .idle) := by
  rw [Answers,Controller.handlePortTranslation_new fresh]
  refine ⟨recorded,t.nextPort (destination flow),?_,?_⟩
  · rw [← replies]
    rfl
  · have nextPort : c.nextPort flow.2.destination = t.nextPort (destination flow) := by
      rw [Controller.nextPort,State.nextPort,portMap]
      rfl
    rw [nextPort]
    rfl

theorem run_advances {stage : Stage} {events : List Event} {first : Event} {t s' : State}
    (begins : step s first = some (t.goTo sw stage)) (ran : Run.run step (t.goTo sw stage) events = some s') :
    Run.run step s (first :: events) = some s' :=
  (Run.run_cons _ _ _ _).mpr ⟨_,begins,ran⟩

theorem goTo_record (s : State) (sw : IOFSwitch) (stage : Stage) (entries : Nat) (flow : Flow) :
    (s.goTo sw stage).record entries flow = (s.record entries flow).goTo sw stage := rfl

/-- Without interruption a call is `handlePortTranslation` as a whole. -/
theorem call_run (represents : Represents s c) (sound : Sound s) (idle : s.stage sw = .idle) (flow : Flow) :
    ∃ events s', Run.run step s events = some s' ∧ Answers s c sw flow s' := by
  have called : ∀ {stage}, looked s flow = stage → step s (.call sw flow) = some (s.goTo sw stage) := by
    rintro _ rfl
    rw [step,if_pos idle]
  cases isList : s.natTable flow.1 with
  | some entries =>
    have first := called (show looked s flow = .scanning flow entries by rw [looked,isList])
    have second : step (s.goTo sw (.scanning flow entries)) (.advance sw) =
        some (s.goTo sw (scanned s flow entries)) := by
      simp [step,scanned,State.goTo]
    have flows : c.flows flow.1 = s.lists entries := by
      rw [Controller.flows,represents.natTable,isList]
      rfl
    cases found : (s.lists entries).find? (fun entry => entry.toFourTuple = flow.2) with
    | some entry =>
      have replies : scanned s flow entries = .replying flow entry.newPort := by rw [scanned,found]
      rw [replies] at second
      refine ⟨[.call sw flow,.advance sw,.advance sw],_,run_advances first (run_advances second ?_),
        answers_known represents isList found⟩
      simp [Run.run,step]
    | none =>
      have checks : scanned s flow entries = .checking flow entries := by rw [scanned,found]
      rw [checks] at second
      obtain ⟨events,ran⟩ := checking_run (stage_goTo_self s sw (.checking flow entries))
      rw [goTo_record,goTo_goTo] at ran
      refine ⟨_,_,run_advances first (run_advances second ran),?_⟩
      refine answers_new (by rw [flows,found]) rfl represents.portMap
        (represents_record represents.portMap ?_ flows isList ?_)
      · exact fun sta _ => represents.natTable sta
      · exact fun sta isList' => (sound.table sta entries isList').2.symm.trans (sound.table flow.1 entries isList).2
  | none =>
    have first := called (show looked s flow = .creating flow by rw [looked,isList])
    have second : step (s.goTo sw (.creating flow)) (.advance sw) =
        some ((s.create flow.1).goTo sw (.checking flow s.next)) := by
      simp [step,State.goTo,State.create]
    have flows : c.flows flow.1 = [] := by
      rw [Controller.flows,represents.natTable,isList]
      rfl
    obtain ⟨events,ran⟩ := checking_run (stage_goTo_self (s.create flow.1) sw (.checking flow s.next))
    rw [goTo_record,goTo_goTo] at ran
    refine ⟨_,_,run_advances first (run_advances second ran),?_⟩
    have created := sound.create flow.1
    have isNew : (s.create flow.1).natTable flow.1 = some s.next := Function.update_self _ _ _
    have isEmpty : (s.create flow.1).lists s.next = [] := Function.update_self _ _ _
    have others : ∀ sta, sta ≠ flow.1 →
        c.natTable.lookup sta = ((s.create flow.1).natTable sta).map (s.create flow.1).lists := by
      intro sta other
      rw [represents.natTable,show (s.create flow.1).natTable sta = s.natTable sta from Function.update_of_ne other _ _]
      refine Option.map_congr (fun entries isList' => (Function.update_of_ne ?_ _ _).symm)
      have early := (sound.table sta entries isList').1
      omega
    refine answers_new (by rw [flows]; rfl) rfl represents.portMap
      (represents_record represents.portMap others ?_ isNew ?_)
    · exact flows.trans isEmpty.symm
    · exact fun sta isList' => (created.table sta s.next isList').2.symm.trans (created.table flow.1 s.next isNew).2

end

/-! ### Every interleaving -/

/-- Along every interleaving of the calls, no recorded flow disappears exactly if a list is put
    only while the station has no recorded flow and flows are appended to the list that the table
    has; and no port is given twice for a destination exactly if every port is put while the
    counter is as it was read and has not come round. Then different flows to one destination
    receive different ports. -/
theorem requests_race_iff {events : List Event} {s : State} (ran : Run.run step start events = some s) :
    (Run.Always step Kept start events ↔ Run.Steps step (fun s e => keeps s e = true) start events) ∧
    (Run.Always step Single start events ↔ Run.Steps step (fun s e => counts s e = true) start events) ∧
    (Run.Always step Single start events → Run.Always step Apart start events) := by
  refine ⟨?_,?_,?_⟩
  · refine Run.always_iff_steps_of (fun s (both : Sound s ∧ Kept s) => both.2) ?_ ?_ ran
    · rintro s e next ⟨sound,kept⟩ stepped
      obtain ⟨sw,does⟩ := step_does stepped
      have one := kept_step sound kept does
      exact ⟨one,fun passes => ⟨sound_step sound does,one.mpr passes⟩⟩
    · exact ⟨sound_start,fun _ member => by cases member⟩
  · refine Run.always_iff_steps_of (fun s (counted : Counted s) => counted.single) ?_ counted_start ran
    intro s e next counted stepped
    obtain ⟨sw,does⟩ := step_does stepped
    exact single_step counted does
  · refine Run.always_imp (fun s e next (sound : Sound s) stepped => ?_) (fun s sound single => sound.apart single)
      sound_start
    obtain ⟨sw,does⟩ := step_does stepped
    exact sound_step sound does

/-! ### Two switches -/

def west : IOFSwitch := ⟨0,⟨10,0,0,1⟩⟩

def east : IOFSwitch := ⟨1,⟨10,0,0,2⟩⟩

/-- Flows of two stations, and a second flow of the first one, all to one destination. -/
def first : Flow := (⟨2,0,0,0,0,1⟩,⟨⟨192,168,5,2⟩,⟨93,184,216,34⟩,5000,80⟩)

def second : Flow := (⟨2,0,0,0,0,2⟩,⟨⟨192,168,6,2⟩,⟨93,184,216,34⟩,5000,80⟩)

def another : Flow := (⟨2,0,0,0,0,1⟩,⟨⟨192,168,5,2⟩,⟨93,184,216,34⟩,5001,80⟩)

def advances (n : Nat) (sw : IOFSwitch) : List Event := List.replicate n (.advance sw)

/-- The call of one switch after that of the other. -/
def inTurn : List Event := Event.call west first :: (advances 5 west ++ Event.call east second :: advances 6 east)

theorem inTurn_kept : ∃ s, Run.run step start inTurn = some s ∧ s.replies = [(first,49152),(second,49153)] ∧
    Kept s ∧ Apart s := by
  obtain ⟨s,ran,replies⟩ : ∃ s, Run.run step start inTurn = some s ∧ s.replies = [(first,49152),(second,49153)] :=
    Run.exists_run (by decide +kernel)
  have keep : Run.Steps step (fun s e => keeps s e = true) start inTurn :=
    Run.steps_of_check (fun _ _ => id) (by decide +kernel)
  have count : Run.Steps step (fun s e => counts s e = true) start inTurn :=
    Run.steps_of_check (fun _ _ => id) (by decide +kernel)
  obtain ⟨kept,single,apart⟩ := requests_race_iff ran
  exact ⟨s,ran,replies,Run.always_final (kept.mpr keep) ran,Run.always_final (apart (single.mpr count)) ran⟩

/-- Both calls look into the counter before one of them has put its port. -/
def sameCounter : List Event :=
  Event.call west first :: (advances 2 west ++ Event.call east second :: (advances 2 east ++ advances 3 west ++
    advances 3 east))

/-- Both calls find no list of the station, and the second puts its own over the first. -/
def sameStation : List Event :=
  Event.call west first :: Event.call east another :: (advances 5 west ++ advances 1 east)

/-- Two flows receive one port; and a flow that was recorded and answered disappears. -/
theorem updates_lost :
    (∃ s, Run.run step start sameCounter = some s ∧ s.replies = [(first,49152),(second,49152)] ∧ ¬ Apart s) ∧
    ∃ s, Run.run step start sameStation = some s ∧ s.recorded = [first] ∧ s.replies = [(first,49152)] ∧
      s.listed first.1 = [] ∧ ¬ Kept s := by
  constructor
  · obtain ⟨s,ran,replies⟩ : ∃ s, Run.run step start sameCounter = some s ∧
        s.replies = [(first,49152),(second,49152)] := Run.exists_run (by decide +kernel)
    refine ⟨s,ran,replies,fun apart => ?_⟩
    exact apart (first,49152) (by simp [replies]) (second,49152) (by simp [replies]) (by decide) (by decide) rfl
  · obtain ⟨s,ran,recorded,replies,listed⟩ :
        ∃ s, Run.run step start sameStation = some s ∧ s.recorded = [first] ∧
        s.replies = [(first,49152)] ∧ s.listed first.1 = [] := Run.exists_run (by decide +kernel)
    refine ⟨s,ran,recorded,replies,listed,fun kept => ?_⟩
    have here := kept first (by simp [recorded])
    rw [listed] at here
    cases here

end Handover.PortRace
