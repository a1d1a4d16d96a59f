import Mathlib.Tactic

/-!
Values that are handed over in one place per key: the writer clears the place, puts the
value there and then gives notice of the key; the reader takes notices in order and looks
at what is in the place by then. A notice may be dropped where the last one that was given
is of the same key. What the reader sees was sent, or the writer was at the place just
then; and the last value that was sent for a key is the last that is seen.
-/
namespace Handover
universe u v

/-- What the writer is at. -/
inductive Mailbox.Writer (Key : Type u) (Value : Type v) where
  | idle
  | cleared (key : Key) (value : Value)
  | written (key : Key)

/-- The places, the notices that were given and those the reader has taken, what it saw
    and what was sent. -/
structure Mailbox (Key : Type u) (Value : Type v) where
  place : Key → Option (Option Value)
  writer : Mailbox.Writer Key Value
  given : List Key
  taken : List Key
  seen : List (Key × Option Value)
  sent : List (Key × Value)

namespace Mailbox
variable {Key : Type u} {Value : Type v} [DecidableEq Key]

/-- The last value of the key in a log. -/
def latest {Value : Type v} (log : List (Key × Value)) (key : Key) : Option Value :=
  log.foldl (fun last entry => if entry.1 = key then some entry.2 else last) none

@[simp] theorem latest_nil {Value : Type v} (key : Key) : latest ([] : List (Key × Value)) key = none := rfl

@[simp] theorem latest_concat {Value : Type v} (log : List (Key × Value)) (k : Key) (value : Value) (key : Key) :
    latest (log ++ [(k,value)]) key = if k = key then some value else latest log key := by
  simp [latest]

/-- A log that goes on from an earlier value. -/
theorem foldl_latest {Value : Type v} (log : List (Key × Value)) (key : Key) (earlier : Option Value) :
    log.foldl (fun last entry => if entry.1 = key then some entry.2 else last) earlier = (latest log key).or earlier := by
  induction log using List.reverseRecOn with
  | nil => rfl
  | append_singleton log entry ih =>
    rw [List.foldl_append,ih,latest_concat]
    simp only [List.foldl_cons,List.foldl_nil]
    split <;> rfl

theorem mem_of_latest {Value : Type v} {log : List (Key × Value)} {key : Key} {value : Value}
    (isLast : latest log key = some value) : (key,value) ∈ log := by
  induction log using List.reverseRecOn with
  | nil => cases isLast
  | append_singleton log entry ih =>
    obtain ⟨k,v⟩ := entry
    rw [latest_concat] at isLast
    split at isLast
    · rename_i same
      cases isLast
      simp [same]
    · exact List.mem_append_left _ (ih isLast)

theorem latest_eq_none_iff {Value : Type v} {log : List (Key × Value)} {key : Key} :
    latest log key = none ↔ ∀ value, (key,value) ∉ log := by
  refine ⟨fun isNone value member => ?_,fun absent => ?_⟩
  · induction log using List.reverseRecOn with
    | nil => cases member
    | append_singleton log entry ih =>
      obtain ⟨k,v⟩ := entry
      rw [latest_concat] at isNone
      split at isNone
      · cases isNone
      · rename_i apart
        rcases List.mem_append.mp member with before | isEntry
        · exact ih isNone before
        · cases List.mem_singleton.mp isEntry
          exact apart rfl
  · by_contra isSome
    obtain ⟨value,isLast⟩ := Option.ne_none_iff_exists'.mp isSome
    exact absent value (mem_of_latest isLast)

/-- A notice that may be dropped if the last one is the same. -/
def notify (given : List Key) (key : Key) : List Key := if given.getLast? = some key then given else given ++ [key]

theorem mem_notify {given : List Key} {key k : Key} : k ∈ notify given key ↔ k = key ∨ k ∈ given := by
  unfold notify
  split
  · rename_i isLast
    have member := List.mem_of_getLast? isLast
    exact ⟨.inr,by rintro (rfl | before) <;> assumption⟩
  · simp [or_comm]

/-- What writer and reader do, one thing at a time. -/
inductive Step (m : Mailbox Key Value) : Mailbox Key Value → Prop where
  | clear {key : Key} {value : Value} (isIdle : m.writer = .idle) :
    Step m { m with
      place := Function.update m.place key (some none)
      writer := .cleared key value
      sent := m.sent ++ [(key,value)] }
  | put {key : Key} {value : Value} (isCleared : m.writer = .cleared key value) :
    Step m { m with place := Function.update m.place key (some (some value)), writer := .written key }
  | give {key : Key} (isWritten : m.writer = .written key) :
    Step m { m with writer := .idle, given := notify m.given key }
  | take {front back : List Key} (free : m.taken = []) (isGiven : m.given = front ++ back) :
    Step m { m with given := back, taken := front }
  | look {key : Key} {rest : List Key} {content : Option Value} (isNext : m.taken = key :: rest)
    (isThere : m.place key = some content) : Step m { m with taken := rest, seen := m.seen ++ [(key,content)] }

/-- The writer is at the place of the key. -/
def Writer.busy (writer : Writer Key Value) (key : Key) : Bool :=
  match writer with
  | .idle => false
  | .cleared k _ => decide (k = key)
  | .written k => decide (k = key)

/-- The writer has cleared the place of the key. -/
def Writer.clears (writer : Writer Key Value) (key : Key) : Bool :=
  match writer with
  | .cleared k _ => decide (k = key)
  | _ => false

/-- The places hold the last value of each key, but for one that is cleared; and what was
    seen had been sent. -/
structure Sound (m : Mailbox Key Value) : Prop where
  place : ∀ key, m.place key = (latest m.sent key).map (fun value => if m.writer.clears key then none else some value)
  writer : ∀ key value, m.writer = .cleared key value → latest m.sent key = some value
  busy : ∀ key, m.writer.busy key = true → (latest m.sent key).isSome
  given : ∀ key ∈ m.given, (latest m.sent key).isSome
  taken : ∀ key ∈ m.taken, (latest m.sent key).isSome
  seen : ∀ key content, (key,content) ∈ m.seen → ∃ value, (key,value) ∈ m.sent ∧ (content = none ∨ content = some value)

/-- The last value of each key has been seen, unless a notice of it is on its way or will be. -/
def Delivered (m : Mailbox Key Value) : Prop :=
  ∀ key value, latest m.sent key = some value →
    m.writer.busy key = true ∨ key ∈ m.given ∨ key ∈ m.taken ∨ latest m.seen key = some (some value)

def empty : Mailbox Key Value := ⟨fun _ => none,.idle,[],[],[],[]⟩

theorem sound_empty : Sound (empty : Mailbox Key Value) :=
  ⟨fun _ => rfl,by simp [empty],by simp [empty,Writer.busy],by simp [empty],by simp [empty],by simp [empty]⟩

theorem delivered_empty : Delivered (empty : Mailbox Key Value) := by
  intro key value isLast
  cases isLast

variable {m m' : Mailbox Key Value}

theorem isSome_latest_concat {log : List (Key × Value)} {k : Key} {value : Value} {key : Key}
    (known : (latest log key).isSome) : (latest (log ++ [(k,value)]) key).isSome := by
  rw [latest_concat]
  split
  · rfl
  · exact known

theorem Sound.step (sound : Sound m) (steps : Step m m') : Sound m' := by
  obtain ⟨place,writer,busy,given,taken,seen⟩ := sound
  cases steps with
  | @clear key value isIdle =>
    refine ⟨fun k => ?_,fun k v isCleared => ?_,fun k isBusy => ?_,fun k member => isSome_latest_concat (given k member),
      fun k member => isSome_latest_concat (taken k member),fun k content member => ?_⟩
    · have before := place k
      rw [isIdle] at before
      by_cases same : k = key
      · subst same
        simp [Writer.clears]
      · simpa [same,Ne.symm same,Writer.clears] using before
    · cases isCleared
      simp
    · have same : key = k := by simpa [Writer.busy] using isBusy
      simp [same]
    · obtain ⟨v,wasSent,isContent⟩ := seen k content member
      exact ⟨v,List.mem_append_left _ wasSent,isContent⟩
  | @put key value isCleared =>
    rw [isCleared] at busy
    refine ⟨fun k => ?_,?_,busy,given,taken,seen⟩
    · have before := place k
      rw [isCleared] at before
      by_cases same : k = key
      · subst same
        simp [Writer.clears,writer k value isCleared]
      · simpa [same,Ne.symm same,Writer.clears] using before
    · rintro k v ⟨⟩
  | @give key isWritten =>
    rw [isWritten] at busy
    refine ⟨fun k => ?_,?_,?_,fun k member => ?_,taken,seen⟩
    · have before := place k
      rw [isWritten] at before
      exact before
    · rintro k v ⟨⟩
    · rintro k ⟨⟩
    · rcases mem_notify.mp member with rfl | before
      · exact busy k (by simp [Writer.busy])
      · exact given k before
  | @take front back free isGiven =>
    exact ⟨place,writer,busy,fun k member => given k (isGiven ▸ List.mem_append_right _ member),
      fun k member => given k (isGiven ▸ List.mem_append_left _ member),seen⟩
  | @look key rest content isNext isThere =>
    refine ⟨place,writer,busy,given,fun k member => taken k (isNext ▸ List.mem_cons_of_mem _ member),fun k c member => ?_⟩
    rcases List.mem_append.mp member with before | isNew
    · exact seen k c before
    · cases List.mem_singleton.mp isNew
      have here := place key
      rw [isThere] at here
      obtain ⟨value,isLast,isContent⟩ := Option.map_eq_some_iff.mp here.symm
      refine ⟨value,mem_of_latest isLast,?_⟩
      split at isContent
      · exact .inl isContent.symm
      · exact .inr isContent.symm

/-- A notice that the reader passes over. -/
theorem Sound.skip (sound : Sound m) {key : Key} {rest : List Key} (isNext : m.taken = key :: rest) :
    Sound { m with taken := rest } :=
  { sound with taken := fun k member => sound.taken k (isNext ▸ List.mem_cons_of_mem _ member) }

/-- Where the writer has not cleared the place, the reader sees the last value. -/
theorem Sound.sees (sound : Sound m) {key : Key} {content : Option Value} (isThere : m.place key = some content)
    (stays : m.writer.clears key = false) : ∃ value, latest m.sent key = some value ∧ content = some value := by
  have here := sound.place key
  rw [isThere,stays] at here
  obtain ⟨value,isLast,isContent⟩ := Option.map_eq_some_iff.mp here.symm
  exact ⟨value,isLast,isContent.symm⟩

theorem busy_of_clears {writer : Writer Key Value} {key : Key} (clears : writer.clears key = true) :
    writer.busy key = true := by
  cases writer with
  | cleared k value => exact clears
  | _ => cases clears

theorem Delivered.step (delivered : Delivered m) (sound : Sound m) (steps : Step m m') : Delivered m' := by
  intro k v isLast
  cases steps with
  | @clear key value isIdle =>
    by_cases same : key = k
    · exact .inl (by simpa [Writer.busy] using same)
    · rw [latest_concat,if_neg same] at isLast
      rcases delivered k v isLast with isBusy | later
      · rw [isIdle] at isBusy
        cases isBusy
      · exact .inr later
  | @put key value isCleared =>
    have before := delivered k v isLast
    rw [isCleared] at before
    exact before
  | @give key isWritten =>
    have before := delivered k v isLast
    rw [isWritten] at before
    rcases before with isBusy | inGiven | later
    · have same : key = k := by simpa [Writer.busy] using isBusy
      exact .inr (.inl (mem_notify.mpr (.inl same.symm)))
    · exact .inr (.inl (mem_notify.mpr (.inr inGiven)))
    · exact .inr (.inr later)
  | @take front back free isGiven =>
    rcases delivered k v isLast with isBusy | inGiven | inTaken | wasSeen
    · exact .inl isBusy
    · rw [isGiven] at inGiven
      rcases List.mem_append.mp inGiven with inFront | inBack
      · exact .inr (.inr (.inl inFront))
      · exact .inr (.inl inBack)
    · rw [free] at inTaken
      cases inTaken
    · exact .inr (.inr (.inr wasSeen))
  | @look key rest content isNext isThere =>
    by_cases same : key = k
    · subst same
      cases clears : m.writer.clears key with
      | true => exact .inl (busy_of_clears clears)
      | false =>
        obtain ⟨value,isValue,rfl⟩ := sound.sees isThere clears
        cases isValue.symm.trans isLast
        exact .inr (.inr (.inr (by simp)))
    · rcases delivered k v isLast with isBusy | inGiven | inTaken | wasSeen
      · exact .inl isBusy
      · exact .inr (.inl inGiven)
      · rw [isNext] at inTaken
        exact .inr (.inr (.inl (List.mem_of_ne_of_mem (Ne.symm same) inTaken)))
      · exact .inr (.inr (.inr (by rw [latest_concat,if_neg same,wasSeen])))

/-- Once nothing is under way, the last value of each key that was seen is the last that
    was sent. -/
theorem Delivered.settled (delivered : Delivered m) (isIdle : m.writer = .idle) (noneGiven : m.given = [])
    (noneTaken : m.taken = []) {key : Key} {value : Value} (isLast : latest m.sent key = some value) :
    latest m.seen key = some (some value) := by
  rcases delivered key value isLast with isBusy | inGiven | inTaken | wasSeen
  · rw [isIdle] at isBusy
    cases isBusy
  · rw [noneGiven] at inGiven
    cases inGiven
  · rw [noneTaken] at inTaken
    cases inTaken
  · exact wasSeen

end Mailbox
end Handover
