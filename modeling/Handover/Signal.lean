import Handover.Scan
import Handover.Mailbox
import Handover.Run
import Handover.Wire
import Handover.AccessPointSpec

/-!
How an access point learns the strengths of its stations' signals. The Click element
`PrintSignalStrength` writes the strength of each data frame to the access point into a
file that is named after the frame's source. `hostapd` is told of every file that has been
closed, reads the file and starts a thread for the source and the strength. The two
processes share nothing but the files: one may be written again before it was read, or be
empty while it is read, and then the thread is given whatever the variable held before.
Opening a file or starting a thread may fail.
-/
namespace Handover
namespace Signal
open Mailbox (latest notify)

/-- What `PrintSignalStrength` looks at of a frame: the flags of the frame control, the
    receiver and the source of a frame to the distribution system, and the strength. -/
structure Frame where
  flags : UInt8
  addr1 : Mac
  addr2 : Mac
  rssi : UInt8

/-- The name of the file of a source. -/
def fileName (src : Mac) : List Char := Scan.writeOctets '-' src.bytes

def fileText (rssi : UInt8) : List Char := Scan.padded rssi ++ ['\n']

/-- `sscanf` of the name over the variable `mac`. -/
def scanName (mac : Mac) (name : List Char) : Mac :=
  let octets := Scan.readOctets '-' 6 name
  ⟨octets.getD 0 mac.o0,octets.getD 1 mac.o1,octets.getD 2 mac.o2,octets.getD 3 mac.o3,octets.getD 4 mac.o4,
    octets.getD 5 mac.o5⟩

/-- `fscanf` of the file over the variable `signalStrength`. -/
def scanText (signalStrength : UInt8) (text : List Char) : UInt8 :=
  ((Scan.readOctet 10 text).map Prod.fst).getD signalStrength

theorem scanName_fileName (mac src : Mac) : scanName mac (fileName src) = src := by
  have octets : Scan.readOctets '-' 6 (fileName src) = src.bytes := Scan.readOctets_writeOctets rfl src.bytes
  unfold scanName
  rw [octets]
  rfl

theorem scanText_fileText (signalStrength rssi : UInt8) : scanText signalStrength (fileText rssi) = rssi := by
  unfold scanText fileText
  rw [Scan.readOctet_padded rssi ['\n'] (by simp; rfl) (by simp)]
  rfl

theorem fileName_inj {src src' : Mac} : fileName src = fileName src' ↔ src = src' := by
  refine ⟨fun same => ?_,fun same => same ▸ rfl⟩
  rw [← scanName_fileName src src,same,scanName_fileName]

/-! ### The two processes -/

/-- Where the element is: a file is open and empty until `fclose` writes the text, and is
    closed then. -/
inductive Click where
  | idle
  | opened (name text : List Char)
  | flushed (name : List Char)
deriving DecidableEq

/-- The files, the element, the events that `hostapd` has not read and those it has in its
    buffer, the threads it started, and the frames that the element has taken. -/
structure Signals where
  files : List Char → Option (List Char)
  click : Click
  queue : List (List Char)
  buffer : List (List Char)
  started : List (Mac × UInt8)
  heard : List (Mac × UInt8)

def init : Signals := ⟨fun _ => none,.idle,[],[],[],[]⟩

/-- One atomic step. `handle` is given what the two variables hold, which are not
    initialized. -/
inductive Event where
  | frame (frame : Frame) (opens : Bool)
  | flush
  | close
  | read (count : Nat)
  | handle (mac : Mac) (signalStrength : UInt8) (opens created : Bool)

/-- `simple_action`, up to the end of `fopen`, for the address `addr`. -/
def simpleAction (addr : Mac) (s : Signals) (frame : Frame) (opens : Bool) : Signals :=
  if frame.flags &&& 3 = 1 ∧ frame.addr1 = addr ∧ opens = true then
    { s with
      files := Function.update s.files (fileName frame.addr2) (some [])
      click := .opened (fileName frame.addr2) (fileText frame.rssi)
      heard := s.heard ++ [(frame.addr2,frame.rssi)] }
  else s

/-- The loop of `data_frames_rssi` for one event of its buffer. -/
def dataFramesRssi (s : Signals) (name : List Char) (mac : Mac) (signalStrength : UInt8) (opens created : Bool) : Signals :=
  match s.files name with
  | none => s
  | some text =>
    if opens = true ∧ created = true then
      { s with started := s.started ++ [(scanName mac name,scanText signalStrength text)] }
    else s

def step (addr : Mac) (s : Signals) : Event → Option Signals
  | .frame frame opens => if s.click = .idle then some (simpleAction addr s frame opens) else none
  | .flush =>
    match s.click with
    | .opened name text => some { s with files := Function.update s.files name (some text), click := .flushed name }
    | _ => none
  | .close =>
    match s.click with
    | .flushed name => some { s with click := .idle, queue := notify s.queue name }
    | _ => none
  | .read count =>
    if s.buffer = [] ∧ 0 < count ∧ count ≤ s.queue.length then
      some { s with buffer := s.queue.take count, queue := s.queue.drop count }
    else none
  | .handle mac signalStrength opens created =>
    match s.buffer with
    | [] => none
    | name :: rest => some (dataFramesRssi { s with buffer := rest } name mac signalStrength opens created)

/-! ### The files are a mailbox -/

/-- The element as the writer of a mailbox. -/
def clickOf : Mailbox.Writer Mac UInt8 → Click
  | .idle => .idle
  | .cleared src rssi => .opened (fileName src) (fileText rssi)
  | .written src => .flushed (fileName src)

/-- A thread that was started for what was seen. -/
def StartedFor (thread : Mac × UInt8) (seen : Mac × Option UInt8) : Prop :=
  thread.1 = seen.1 ∧ (seen.2 = none ∨ seen.2 = some thread.2)

/-- The texts stand for the sources and strengths of a mailbox. -/
structure Represents (s : Signals) (m : Mailbox Mac UInt8) : Prop where
  files : ∀ src, s.files (fileName src) = (m.place src).map (fun content => content.elim [] fileText)
  click : s.click = clickOf m.writer
  queue : s.queue = m.given.map fileName
  buffer : s.buffer = m.taken.map fileName
  started : List.Forall₂ StartedFor s.started m.seen
  heard : s.heard = m.sent

theorem represents_init : Represents init Mailbox.empty := ⟨fun _ => rfl,rfl,rfl,rfl,.nil,rfl⟩

theorem notify_map (given : List Mac) (src : Mac) :
    notify (given.map fileName) (fileName src) = (notify given src).map fileName := by
  unfold notify
  have same : (given.map fileName).getLast? = some (fileName src) ↔ given.getLast? = some src := by
    rw [List.getLast?_map]
    constructor
    · intro isLast
      obtain ⟨last,found,isName⟩ := Option.map_eq_some_iff.mp isLast
      rw [found,fileName_inj.mp isName]
    · intro isLast
      rw [isLast]
      rfl
  split
  · rename_i isLast
    rw [if_pos (same.mp isLast)]
  · rename_i apart
    rw [if_neg (mt same.mpr apart),List.map_append]
    rfl

/-- A file was not opened, or a thread not started. -/
def Event.fails : Event → Bool
  | .handle _ _ opens created => !(opens && created)
  | _ => false

variable {addr : Mac} {s s' : Signals} {m : Mailbox Mac UInt8} {e : Event}

theorem Represents.files_update (represents : Represents s m) (src src' : Mac) (content : Option UInt8) :
    Function.update s.files (fileName src) (some (content.elim [] fileText)) (fileName src') =
      (Function.update m.place src (some content) src').map (fun content => content.elim [] fileText) := by
  by_cases same : src' = src
  · subst same
    simp
  · rw [Function.update_of_ne same,Function.update_of_ne (mt fileName_inj.mp same)]
    exact represents.files src'

/-- Each step of the two processes is one of the mailbox, or none; where it fails, a
    notice is passed over. -/
theorem Represents.step (represents : Represents s m) (sound : m.Sound) (stepped : step addr s e = some s') :
    ∃ m', Represents s' m' ∧ (m' = m ∨ m.Step m' ∨
      e.fails = true ∧ ∃ src rest, m.taken = src :: rest ∧ m' = { m with taken := rest }) := by
  obtain ⟨files,click,queue,buffer,started,heard⟩ := represents
  have represents : Represents s m := ⟨files,click,queue,buffer,started,heard⟩
  cases e with
  | frame frame opens =>
    simp only [Signal.step] at stepped
    split at stepped
    · rename_i isIdle
      have writer : m.writer = .idle := by
        rw [click] at isIdle
        cases isWriter : m.writer with
        | idle => rfl
        | _ => rw [isWriter] at isIdle; cases isIdle
      cases stepped
      unfold simpleAction
      split
      · refine ⟨{ m with
          place := Function.update m.place frame.addr2 (some none)
          writer := .cleared frame.addr2 frame.rssi
          sent := m.sent ++ [(frame.addr2,frame.rssi)] },?_,.inr (.inl (.clear writer))⟩
        exact ⟨fun src => represents.files_update frame.addr2 src none,rfl,queue,buffer,started,by rw [heard]⟩
      · exact ⟨m,represents,.inl rfl⟩
    · cases stepped
  | flush =>
    simp only [Signal.step] at stepped
    cases isWriter : m.writer with
    | cleared src rssi =>
      rw [click,isWriter] at stepped
      cases stepped
      refine ⟨_,?_,.inr (.inl (.put isWriter))⟩
      exact ⟨fun src' => represents.files_update src src' (some rssi),rfl,queue,buffer,started,heard⟩
    | _ => rw [click,isWriter] at stepped; cases stepped
  | close =>
    simp only [Signal.step] at stepped
    cases isWriter : m.writer with
    | written src =>
      rw [click,isWriter] at stepped
      cases stepped
      refine ⟨_,?_,.inr (.inl (.give isWriter))⟩
      exact ⟨files,rfl,by rw [queue]; exact notify_map m.given src,buffer,started,heard⟩
    | _ => rw [click,isWriter] at stepped; cases stepped
  | read count =>
    simp only [Signal.step] at stepped
    split at stepped
    · rename_i allowed
      cases stepped
      have free : m.taken = [] := by
        rw [buffer] at allowed
        exact List.map_eq_nil_iff.mp allowed.1
      refine ⟨_,?_,.inr (.inl (.take free (List.take_append_drop count m.given).symm))⟩
      exact ⟨files,click,by rw [queue,List.map_drop],by rw [queue,List.map_take],started,heard⟩
    · cases stepped
  | handle mac signalStrength opens created =>
    simp only [Signal.step] at stepped
    rw [buffer] at stepped
    generalize isTaken : m.taken = taken at stepped
    cases taken with
    | nil => cases stepped
    | cons src rest =>
      cases stepped
      -- The source was heard, and so its file is there.
      have isPlace := sound.place src
      obtain ⟨rssi,isLast⟩ := Option.isSome_iff_exists.mp (sound.taken src (isTaken ▸ List.mem_cons_self))
      rw [isLast,Option.map_some] at isPlace
      have isFile := files src
      rw [isPlace,Option.map_some] at isFile
      unfold dataFramesRssi
      dsimp only
      rw [isFile]
      dsimp only
      split
      · refine ⟨_,?_,.inr (.inl (.look isTaken isPlace))⟩
        refine ⟨files,click,queue,rfl,List.rel_append started (.cons ⟨scanName_fileName mac src,?_⟩ .nil),heard⟩
        dsimp only
        split
        · exact .inl rfl
        · exact .inr (congrArg some (scanText_fileText signalStrength rssi).symm)
      · rename_i failed
        refine ⟨{ m with taken := rest },⟨files,click,queue,rfl,started,heard⟩,.inr (.inr ⟨?_,src,rest,rfl,rfl⟩)⟩
        cases opens <;> cases created <;> simp [Event.fails] at failed ⊢

/-! ### Whole runs -/

/-- The texts stand for a mailbox that is in order. -/
theorem represents_step (before : ∃ m, Represents s m ∧ m.Sound) (stepped : step addr s e = some s') :
    ∃ m, Represents s' m ∧ m.Sound := by
  obtain ⟨m,represents,sound⟩ := before
  obtain ⟨m',represents',rfl | steps | ⟨_,src,rest,isTaken,rfl⟩⟩ := represents.step sound stepped
  · exact ⟨m',represents',sound⟩
  · exact ⟨m',represents',sound.step steps⟩
  · exact ⟨_,represents',sound.skip isTaken⟩

theorem represents_run {events : List Event} (ran : Run.run (step addr) init events = some s) :
    ∃ m, Represents s m ∧ m.Sound :=
  Run.run_invariant (fun _ _ _ => represents_step) ⟨Mailbox.empty,represents_init,Mailbox.sound_empty⟩ ran

theorem delivered_run {events : List Event} (succeed : ∀ e ∈ events, e.fails = false)
    (ran : Run.run (step addr) init events = some s) : ∃ m, Represents s m ∧ m.Sound ∧ m.Delivered := by
  have kept : ∀ s e s', e.fails = false → (∃ m, Represents s m ∧ m.Sound ∧ m.Delivered) → step addr s e = some s' →
      ∃ m, Represents s' m ∧ m.Sound ∧ m.Delivered := by
    rintro s e s' succeeds ⟨m,represents,sound,delivered⟩ stepped
    obtain ⟨m',represents',rfl | steps | ⟨fails,_⟩⟩ := represents.step sound stepped
    · exact ⟨m',represents',sound,delivered⟩
    · exact ⟨m',represents',sound.step steps,delivered.step sound steps⟩
    · exact absurd (fails.symm.trans succeeds) (by simp)
  exact Run.run_preserves kept (Run.steps_of_forall succeed _)
    ⟨Mailbox.empty,represents_init,Mailbox.sound_empty,Mailbox.delivered_empty⟩ ran

/-- The last strength that was seen is that of the last thread. -/
theorem latest_startedFor {started : List (Mac × UInt8)} {seen : List (Mac × Option UInt8)}
    (threads : List.Forall₂ StartedFor started seen) {src : Mac} {rssi : UInt8} (isLast : latest seen src = some (some rssi)) :
    latest started src = some rssi := by
  -- The folds go along the two lists, and agree on what they have so far.
  have along : ∀ {last : Option UInt8} {lastSeen : Option (Option UInt8)},
      (∀ rssi, lastSeen = some (some rssi) → last = some rssi) →
      ∀ rssi, seen.foldl (fun last entry => if entry.1 = src then some entry.2 else last) lastSeen = some (some rssi) →
        started.foldl (fun last entry => if entry.1 = src then some entry.2 else last) last = some rssi := by
    clear isLast
    induction threads with
    | nil => exact fun agree => agree
    | cons isFor _ ih =>
      intro last lastSeen agree
      obtain ⟨sameKey,sameValue⟩ := isFor
      refine ih ?_
      dsimp only
      rw [sameKey]
      split
      · intro rssi isSeen
        rcases sameValue with missing | same
        · rw [missing] at isSeen
          cases isSeen
        · rw [same] at isSeen
          exact Option.some.inj isSeen
      · exact agree
  exact along (by simp) rssi isLast

/-- Nothing is left to write or to read. -/
structure Quiet (s : Signals) : Prop where
  click : s.click = .idle
  queue : s.queue = []
  buffer : s.buffer = []

theorem startedFor_seen {started : List (Mac × UInt8)} {seen : List (Mac × Option UInt8)}
    (threads : List.Forall₂ StartedFor started seen) {src : Mac} {rssi : UInt8} (thread : (src,rssi) ∈ started) :
    ∃ content, (src,content) ∈ seen := by
  induction threads with
  | nil => cases thread
  | @cons _ entry _ _ isFor _ ih =>
    rcases List.mem_cons.mp thread with rfl | later
    · exact ⟨entry.2,by rw [show src = entry.1 from isFor.1]; exact List.mem_cons_self⟩
    · obtain ⟨content,wasSeen⟩ := ih later
      exact ⟨content,List.mem_cons_of_mem _ wasSeen⟩

/-- A thread was started for a source that was heard. -/
theorem Represents.source_heard (represents : Represents s m) (sound : m.Sound) {src : Mac} {rssi : UInt8}
    (thread : (src,rssi) ∈ s.started) : ∃ value, (src,value) ∈ s.heard := by
  obtain ⟨content,wasSeen⟩ := startedFor_seen represents.started thread
  obtain ⟨value,wasHeard,_⟩ := sound.seen src content wasSeen
  exact ⟨value,represents.heard ▸ wasHeard⟩

/-- Where no file and no thread fails, and nothing is left to read, the last thread for each
    source was given the strength of its last frame, however often its file was written in
    between and whenever it was read. -/
theorem latest_started {events : List Event} (succeed : ∀ e ∈ events, e.fails = false)
    (ran : Run.run (step addr) init events = some s) (quiet : Quiet s) (src : Mac) :
    latest s.started src = latest s.heard src := by
  obtain ⟨m,represents,sound,delivered⟩ := delivered_run succeed ran
  have writer : m.writer = .idle := by
    have isIdle := represents.click.symm.trans quiet.click
    cases isWriter : m.writer with
    | idle => rfl
    | _ => rw [isWriter] at isIdle; cases isIdle
  have given : m.given = [] := List.map_eq_nil_iff.mp (represents.queue.symm.trans quiet.queue)
  have taken : m.taken = [] := List.map_eq_nil_iff.mp (represents.buffer.symm.trans quiet.buffer)
  cases isLast : latest s.heard src with
  | some rssi =>
    rw [represents.heard] at isLast
    exact latest_startedFor represents.started (delivered.settled writer given taken isLast)
  | none =>
    rw [Mailbox.latest_eq_none_iff] at isLast ⊢
    intro rssi thread
    obtain ⟨value,wasHeard⟩ := represents.source_heard sound thread
    exact isLast value wasHeard

/-- The file is not read while it is empty. -/
def undisturbed (s : Signals) : Event → Bool
  | .handle _ _ _ _ => s.buffer.head?.all (fun name => s.files name != some [])
  | _ => true

/-- A file that is not empty has the last strength of its source. -/
theorem Represents.text (represents : Represents s m) (sound : m.Sound) {src : Mac} {text : List Char}
    (isFile : s.files (fileName src) = some text) (written : text ≠ []) :
    ∃ rssi, text = fileText rssi ∧ (src,rssi) ∈ s.heard := by
  have isPlace := sound.place src
  rw [represents.files src] at isFile
  obtain ⟨content,found,rfl⟩ := Option.map_eq_some_iff.mp isFile
  rw [found] at isPlace
  obtain ⟨rssi,isLast,isContent⟩ := Option.map_eq_some_iff.mp isPlace.symm
  split at isContent
  · subst isContent
    exact absurd rfl written
  · subst isContent
    exact ⟨rssi,rfl,represents.heard ▸ Mailbox.mem_of_latest isLast⟩

theorem Represents.threads_heard (represents : Represents s m) (sound : m.Sound) (stepped : Signal.step addr s e = some s')
    (isUndisturbed : undisturbed s e = true) (before : ∀ thread ∈ s.started, thread ∈ s.heard) :
    ∀ thread ∈ s'.started, thread ∈ s'.heard := by
  cases e with
  | frame frame opens =>
    simp only [Signal.step] at stepped
    split at stepped
    · cases stepped
      unfold simpleAction
      split
      · exact fun thread member => List.mem_append_left _ (before thread member)
      · exact before
    · cases stepped
  | flush =>
    simp only [Signal.step] at stepped
    split at stepped <;> cases stepped
    exact before
  | close =>
    simp only [Signal.step] at stepped
    split at stepped <;> cases stepped
    exact before
  | read count =>
    simp only [Signal.step] at stepped
    split at stepped <;> cases stepped
    exact before
  | handle mac signalStrength opens created =>
    simp only [Signal.step] at stepped
    split at stepped
    · cases stepped
    · rename_i name rest isBuffer
      cases stepped
      unfold dataFramesRssi
      dsimp only
      split
      · exact before
      · rename_i text isFile
        split
        · have isName : name ∈ m.taken.map fileName := by
            rw [← represents.buffer,isBuffer]
            exact List.mem_cons_self
          obtain ⟨src,_,rfl⟩ := List.mem_map.mp isName
          have written : text ≠ [] := by simpa [undisturbed,isBuffer,isFile] using isUndisturbed
          obtain ⟨rssi,rfl,wasHeard⟩ := represents.text sound isFile written
          intro thread member
          rcases List.mem_append.mp member with earlier | isNew
          · exact before thread earlier
          · cases List.mem_singleton.mp isNew
            rw [scanName_fileName,scanText_fileText]
            exact wasHeard
        · exact before

/-- Whatever is started is for a source that was heard, and where no file is read while it
    is empty with a strength that was heard of it. -/
theorem started_heard {events : List Event} (ran : Run.run (step addr) init events = some s) :
    (∀ src rssi, (src,rssi) ∈ s.started → ∃ value, (src,value) ∈ s.heard) ∧
      (Run.Steps (step addr) (fun s e => undisturbed s e = true) init events → ∀ thread ∈ s.started, thread ∈ s.heard) := by
  obtain ⟨m,represents,sound⟩ := represents_run ran
  refine ⟨fun src rssi thread => represents.source_heard sound thread,fun allUndisturbed => ?_⟩
  have kept : ∀ s e s', undisturbed s e = true →
      ((∃ m, Represents s m ∧ m.Sound) ∧ ∀ thread ∈ s.started, thread ∈ s.heard) → step addr s e = some s' →
      (∃ m, Represents s' m ∧ m.Sound) ∧ ∀ thread ∈ s'.started, thread ∈ s'.heard := by
    rintro s e s' isUndisturbed ⟨⟨m,represents,sound⟩,before⟩ stepped
    exact ⟨represents_step ⟨m,represents,sound⟩ stepped,represents.threads_heard sound stepped isUndisturbed before⟩
  exact (Run.run_preserves kept allUndisturbed
    ⟨⟨Mailbox.empty,represents_init,Mailbox.sound_empty⟩,by simp [init]⟩ ran).2

def counter : APConfig := ⟨⟨4,0,0,0,0,1⟩,⟨10,0,0,1⟩,⟨192,168,5,0⟩,10⟩

def walker : Mac := ⟨2,0,0,3,0,9⟩

/-- A data frame of the station to the access point. -/
def frameOf (rssi : UInt8) : Event := .frame ⟨1,counter.mac,walker,rssi⟩ true

/-- The file is read after each frame. -/
def inTurn : List Event :=
  [frameOf 40,.flush,.close,.read 1,.handle walker 7 true true,frameOf 50,.flush,.close,.read 1,.handle walker 7 true true]

/-- The file is read while the second frame has emptied it, and is written again. -/
def overwritten : List Event :=
  [frameOf 40,.flush,.close,frameOf 50,.read 1,.handle walker 7 true true,.flush,.close,.read 1,.handle walker 7 true true]

theorem inTurn_started : ∃ s, Run.run (step counter.mac) init inTurn = some s ∧
    s.started = [(walker,40),(walker,50)] ∧ ∀ thread ∈ s.started, thread ∈ s.heard := by
  obtain ⟨s,ran,started⟩ : ∃ s, Run.run (step counter.mac) init inTurn = some s ∧ s.started = [(walker,40),(walker,50)] :=
    Run.exists_run (by decide +kernel)
  have allUndisturbed : Run.Steps (step counter.mac) (fun s e => undisturbed s e = true) init inTurn :=
    Run.steps_of_check (fun _ _ => id) (by decide +kernel)
  exact ⟨s,ran,started,(started_heard ran).2 allUndisturbed⟩

/-! ### The access point's record -/

end Signal

namespace AccessPoint

/-- The strength that the record of a station holds. -/
def strength (ap : AccessPoint) (sta : Mac) : Option UInt8 :=
  (ap.lookupSenderSTA sta).join.map (·.lastReceivedSignalStrength)

variable {cfg : APConfig} {ap ap' : AccessPoint} {sta sta' : Mac} {rssi : UInt8}

theorem lookup_changeSTA_other {change : InfoSTA → InfoSTA} (keeps : ∀ info, (change info).address = info.address)
    (changed : ap.changeSTA sta change = some ap') (other : sta' ≠ sta) :
    ap'.lookupSenderSTA sta' = ap.lookupSenderSTA sta' := by
  obtain ⟨_,lookup,_⟩ := changeSTA_spec keeps changed
  rw [lookup,if_neg other]

theorem strength_changeRSSI (changed : ap.changeRSSI sta rssi = some ap') : ap'.strength sta = some rssi := by
  obtain ⟨⟨info,found⟩,lookup,_⟩ := changeSTA_spec (by intro info; rfl) changed
  simp [strength,lookup,found]

theorem lookup_addSTA_other {listed : Bool} (added : ap.addSTA cfg sta = some (ap',listed)) (other : sta' ≠ sta) :
    ap'.lookupSenderSTA sta' = ap.lookupSenderSTA sta' := by
  obtain ⟨found,isFound,rest⟩ := Option.bind_eq_some_iff.mp added
  split at rest
  · cases rest
    rfl
  · split at rest
    · cases rest
      rfl
    · obtain ⟨staList,pushed,same⟩ := Option.map_eq_some_iff.mp rest
      cases same
      have lookup := Buckets.get_push (fun sta : Mac => sta.o3.toNat) InfoSTA.address (by rfl) pushed sta'
      rw [if_neg other] at lookup
      exact lookup

/-- A data frame changes the record of its source only. -/
theorem strength_processStaData_other {msgs : List ToController}
    (done : ap.processStaData cfg sta rssi = some (ap',msgs)) (other : sta' ≠ sta) :
    ap'.strength sta' = ap.strength sta' := by
  have rssi_other : ∀ {one two : AccessPoint}, one.changeRSSI sta rssi = some two →
      two.lookupSenderSTA sta' = one.lookupSenderSTA sta' :=
    fun changed => lookup_changeSTA_other (by intro info; rfl) changed other
  suffices same : ap'.lookupSenderSTA sta' = ap.lookupSenderSTA sta' by rw [strength,same,strength]
  obtain ⟨info,found,rest⟩ := Option.bind_eq_some_iff.mp done
  split at rest
  · obtain ⟨two,changed,same⟩ := Option.map_eq_some_iff.mp rest
    cases same
    exact rssi_other changed
  · obtain ⟨⟨middle,listed⟩,first,second⟩ := Option.bind_eq_some_iff.mp rest
    have listing : middle.lookupSenderSTA sta' = ap.lookupSenderSTA sta' := by
      split at first
      · cases first
        rfl
      · obtain ⟨⟨one,added⟩,add,change⟩ := Option.bind_eq_some_iff.mp first
        dsimp only at change
        split at change
        · obtain ⟨two,changed,same⟩ := Option.map_eq_some_iff.mp change
          cases same
          exact (lookup_changeSTA_other (by intro info; rfl) changed other).trans (lookup_addSTA_other add other)
        · cases change
          exact lookup_addSTA_other add other
    dsimp only at second
    split at second
    · obtain ⟨info',_,report⟩ := Option.bind_eq_some_iff.mp second
      split at report
      · obtain ⟨two,changed,same⟩ := Option.map_eq_some_iff.mp report
        cases same
        exact (rssi_other changed).trans listing
      · cases report
        exact listing
    · cases second
      exact listing

/-- Of an associated station the last strength is kept, whether it is greater or not. -/
theorem strength_processStaData {msgs : List ToController} (done : ap.processStaData cfg sta rssi = some (ap',msgs))
    (associated : ap.status sta = some .associated) : ap'.strength sta = some rssi := by
  obtain ⟨info,found,rest⟩ := Option.bind_eq_some_iff.mp done
  rw [if_pos ((any_status ap sta .associated found).mpr associated)] at rest
  obtain ⟨two,changed,same⟩ := Option.map_eq_some_iff.mp rest
  cases same
  exact strength_changeRSSI changed

/-- The threads run one after the other, as they were started. -/
def processAll (cfg : APConfig) (ap : AccessPoint) : List (Mac × UInt8) → Option AccessPoint
  | [] => some ap
  | (src,rssi) :: rest => (ap.processStaData cfg src rssi).bind (fun (ap,_) => processAll cfg ap rest)

/-- Of an associated station the record follows the threads. -/
theorem strength_processAll {threads : List (Mac × UInt8)} (done : ap.processAll cfg threads = some ap')
    (associated : ap.status sta = some .associated) :
    ap'.strength sta = (Mailbox.latest threads sta).or (ap.strength sta) := by
  rw [← Mailbox.foldl_latest]
  induction threads generalizing ap with
  | nil =>
    cases done
    rfl
  | cons thread rest ih =>
    obtain ⟨src,rssi⟩ := thread
    obtain ⟨⟨middle,msgs⟩,first,later⟩ := Option.bind_eq_some_iff.mp done
    have stays : middle.status sta = some .associated := by
      rcases (processStaData_spec first).1.status sta with same | ⟨absent,_⟩
      · rw [same,associated]
      · rw [associated] at absent
        cases absent
    rw [ih later stays,List.foldl_cons]
    congr 1
    dsimp only
    split
    · rename_i same
      subst same
      exact strength_processStaData first associated
    · rename_i other
      exact strength_processStaData_other first (Ne.symm other)

end AccessPoint

namespace Signal
open Mailbox (latest)
variable {addr : Mac} {s : Signals}

/-- The record of an associated station holds the strength of the last frame that was heard
    of it, once all files were read and the threads have run in their order. -/
theorem record_last_heard {events : List Event} {cfg : APConfig} {ap ap' : AccessPoint} {sta : Mac}
    (succeed : ∀ e ∈ events, e.fails = false) (ran : Run.run (step addr) init events = some s) (quiet : Quiet s)
    (done : ap.processAll cfg s.started = some ap') (associated : ap.status sta = some .associated) :
    ap'.strength sta = (latest s.heard sta).or (ap.strength sta) := by
  rw [← latest_started succeed ran quiet]
  exact AccessPoint.strength_processAll done associated

/-- The access point with the station associated. -/
def attended : Option AccessPoint :=
  ((AccessPoint.init counter).addSTA counter walker).bind (fun (ap,_) => ap.changeStatus walker .associated)

theorem overwritten_record : ∃ s, ∃ ap ap' : AccessPoint, Run.run (step counter.mac) init overwritten = some s ∧
    s.started = [(walker,7),(walker,50)] ∧ ap.status walker = some .associated ∧
    ap.processAll counter s.started = some ap' ∧ ap'.strength walker = some 50 := by
  obtain ⟨s,ran,started,heard,click,queue,buffer⟩ : ∃ s, Run.run (step counter.mac) init overwritten = some s ∧
      s.started = [(walker,7),(walker,50)] ∧ s.heard = [(walker,40),(walker,50)] ∧ s.click = .idle ∧ s.queue = [] ∧
      s.buffer = [] := Run.exists_run (by decide +kernel)
  have computed : attended.any (fun ap => decide (ap.status walker = some .associated ∧
      (ap.processAll counter [(walker,7),(walker,50)]).isSome = true)) = true := by decide +kernel
  cases isAP : attended with
  | none =>
    rw [isAP] at computed
    cases computed
  | some ap =>
    rw [isAP] at computed
    obtain ⟨associated,runs⟩ := of_decide_eq_true computed
    obtain ⟨ap',done⟩ := Option.isSome_iff_exists.mp runs
    rw [← started] at done
    have record := record_last_heard (by simp [overwritten,frameOf,Event.fails]) ran ⟨click,queue,buffer⟩ done associated
    exact ⟨s,ap,ap',ran,started,associated,done,by rw [record,heard]; rfl⟩

end Signal
end Handover
