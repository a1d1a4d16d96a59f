import Handover.Overlay
import Handover.Run

/-!
The framing of the controller's messages at an access point or the gateway, whose
`controller_receive` are the same. A call reads the header with one `recv` and the rest
of the message, as long as the header says, with another, and dispatches what is then in
its buffer, whether or not `recv` gave all that it was asked for. So the messages of a
stream are dispatched exactly if none is longer than the buffer and every `recv` gives
all bytes; after a short one the rest of the message is taken for the next.
-/
namespace Handover.Wire
open Bytes Codec

/-- The end of a connection: bytes on their way, what was dispatched, and whether a
    `recv` has written beyond its buffer. -/
structure Receiver where
  incoming : List UInt8
  dispatched : List (List UInt8)
  overrun : Bool
deriving DecidableEq

/-- What a call of `controller_receive` finds: the stack where `str[100]` is put, and how
    many bytes its two `recv` give. -/
structure Call where
  junk : Vector UInt8 100
  header : Nat
  body : Nat

/-- The length in the header. -/
def announced (str : List UInt8) : Nat := (word str (offsetOf wlanHeaderShape 2)).toNat

/-- `str` after the first `recv`. -/
def Call.str (call : Call) (incoming : List UInt8) : List UInt8 := copy call.junk.toList 0 (incoming.take call.header)

/-- A call of `controller_receive`; each `recv` gives a part of what it is asked for, and
    at least one byte. -/
def Receiver.controllerReceive (r : Receiver) (call : Call) : Option Receiver :=
  let str := call.str r.incoming
  let rest := r.incoming.drop call.header
  if 1 ≤ call.header ∧ call.header ≤ 8 ∧ call.header ≤ r.incoming.length then
    if 8 < announced str then
      if 1 ≤ call.body ∧ call.body ≤ announced str - 8 ∧ call.body ≤ rest.length then
        some {
          incoming := rest.drop call.body
          dispatched := r.dispatched ++ [(copy str 8 (rest.take call.body)).take (announced str)]
          overrun := r.overrun || decide (100 < 8 + call.body) }
      else none
    else some { r with incoming := rest, dispatched := r.dispatched ++ [str.take 8] }
  else none

/-- Both `recv` give all that they are asked for. -/
def Full (r : Receiver) (call : Call) : Prop :=
  call.header = 8 ∧ (8 < announced r.incoming → call.body = announced r.incoming - 8)

instance (r : Receiver) (call : Call) : Decidable (Full r call) := by
  unfold Full
  infer_instance

/-- The connection when the messages are sent. -/
def sent (messages : List (List UInt8)) : Receiver := ⟨messages.flatten,[],false⟩

/-! ### One call -/

theorem announced_congr {data data' : List UInt8} (two : byte data' 2 = byte data 2) (three : byte data' 3 = byte data 3) :
    announced data' = announced data := by
  have isTwo : offsetOf wlanHeaderShape 2 = 2 := rfl
  rw [announced,isTwo,(word_eq_iff data data' 2).mpr ⟨two,three⟩,announced,isTwo]

theorem length_str (call : Call) (incoming : List UInt8) : (call.str incoming).length = 100 := by
  rw [Call.str,length_copy,Vector.length_toList]

theorem str_whole {call : Call} {incoming : List UInt8} (isHeader : call.header = 8) (enough : 8 ≤ incoming.length) :
    call.str incoming = incoming.take 8 ++ call.junk.toList.drop 8 := by
  have size : (incoming.take 8).length = 8 := by rw [List.length_take,Nat.min_eq_left enough]
  rw [Call.str,isHeader,copy_at (by rw [size,Vector.length_toList]; omega),size]
  rfl

theorem announced_str {call : Call} {incoming : List UInt8} (isHeader : call.header = 8) (enough : 8 ≤ incoming.length) :
    announced (call.str incoming) = announced incoming := by
  have size : (incoming.take 8).length = 8 := by rw [List.length_take,Nat.min_eq_left enough]
  rw [str_whole isHeader enough]
  refine announced_congr ?_ ?_
  · rw [byte_append _ _ (by omega),byte_take _ (by omega)]
  · rw [byte_append _ _ (by omega),byte_take _ (by omega)]

/-- The length that a message announces is in its header. -/
theorem announced_header (data : List UInt8) : announced (data.take 8) = announced data :=
  announced_congr (byte_take _ (by omega)) (byte_take _ (by omega))

theorem announced_body (data body : List UInt8) {n : Nat} (more : 8 < n) :
    announced ((copy data 8 body).take n) = announced data := by
  refine announced_congr ?_ ?_
  · rw [byte_take _ (by omega),byte_copy_outside _ (.inl (by omega))]
  · rw [byte_take _ (by omega),byte_copy_outside _ (.inl (by omega))]

/-- The bytes that a call takes a message to have. -/
def need (message : List UInt8) : Nat := max 8 (announced message)

/-- A call dispatches one message of at most 100 bytes, and takes at most as many as the
    message is said to have; all of them only if both `recv` give all bytes. -/
theorem controllerReceive_spec {r r' : Receiver} {call : Call} (called : r.controllerReceive call = some r') :
    ∃ message, r'.dispatched = r.dispatched ++ [message] ∧ message.length ≤ 100 ∧
      ∃ taken, r.incoming.length = r'.incoming.length + taken ∧ taken ≤ need message ∧
        (taken = need message ↔ Full r call) := by
  have size := length_str call r.incoming
  unfold Receiver.controllerReceive at called
  dsimp only at called
  split at called
  · rename_i isHeader
    have same : call.header = 8 → announced (call.str r.incoming) = announced r.incoming :=
      fun isWhole => announced_str isWhole (by omega)
    split at called
    · rename_i more
      split at called
      · rename_i isBody
        cases called
        have isNeed : need ((copy (call.str r.incoming) 8 ((r.incoming.drop call.header).take call.body)).take
            (announced (call.str r.incoming))) = announced (call.str r.incoming) := by
          rw [need,announced_body _ _ (by omega)]
          omega
        refine ⟨_,rfl,?_,call.header + call.body,?_,?_,?_⟩
        · rw [List.length_take,length_copy,size]
          omega
        · rw [List.length_drop] at isBody ⊢
          rw [List.length_drop]
          omega
        · rw [isNeed]
          omega
        · rw [isNeed,Full]
          constructor
          · intro all
            have isWhole : call.header = 8 := by omega
            exact ⟨isWhole,fun _ => by rw [← same isWhole]; omega⟩
          · rintro ⟨isWhole,isRest⟩
            have := same isWhole
            have := isRest (by omega)
            omega
      · cases called
    · rename_i short
      cases called
      have isNeed : need ((call.str r.incoming).take 8) = 8 := by
        rw [need,announced_header]
        omega
      refine ⟨_,rfl,by rw [List.length_take]; omega,call.header,?_,by rw [isNeed]; exact isHeader.2.1,?_⟩
      · show r.incoming.length = (r.incoming.drop call.header).length + call.header
        rw [List.length_drop]
        omega
      · rw [isNeed,Full]
        constructor
        · intro isWhole
          refine ⟨isWhole,fun more => ?_⟩
          have := same isWhole
          omega
        · rintro ⟨isWhole,_⟩
          exact isWhole
  · cases called

/-- Where both `recv` give all bytes a call does what it is meant to. -/
theorem controllerReceive_full {r : Receiver} {call : Call} {message rest : List UInt8}
    (meant : Wire.controllerReceive r.incoming = some (message,rest)) (full : Full r call) :
    r.controllerReceive call = some { r with incoming := rest, dispatched := r.dispatched ++ [message] } := by
  obtain ⟨isHeader,isBody⟩ := full
  unfold Wire.controllerReceive at meant
  split at meant
  · cases meant
  · rename_i enough
    have enough' : 8 ≤ r.incoming.length := by omega
    have size : (r.incoming.take 8).length = 8 := by rw [List.length_take,Nat.min_eq_left enough']
    have isStr := str_whole isHeader enough'
    have same := announced_str isHeader enough'
    dsimp only at meant
    rw [show (word r.incoming (offsetOf wlanHeaderShape 2)).toNat = announced r.incoming from rfl] at meant
    unfold Receiver.controllerReceive
    dsimp only
    rw [if_pos ⟨by omega,by omega,by omega⟩,same]
    by_cases more : 8 < announced r.incoming
    · rw [if_pos more] at meant ⊢
      split at meant
      · rename_i fits
        cases meant
        have isRest := isBody more
        have whole : 8 + call.body = announced r.incoming := by omega
        have room : call.body = ((r.incoming.drop 8).take call.body).length := by
          rw [List.length_take,List.length_drop]
          omega
        have str : copy (call.str r.incoming) 8 ((r.incoming.drop 8).take call.body) =
            r.incoming.take 8 ++ ((r.incoming.drop 8).take call.body ++ (call.str r.incoming).drop (8 + call.body)) := by
          rw [copy_at (by rw [← room,length_str]; omega),← room,isStr,List.take_left' size]
        rw [if_pos ⟨by omega,by omega,by rw [isHeader,List.length_drop]; omega⟩,isHeader,str,← List.append_assoc,
          ← List.take_add,whole,List.take_left' (by rw [List.length_take]; omega),List.drop_drop,whole,
          decide_eq_false (by omega),Bool.or_false]
      · cases meant
    · rw [if_neg more] at meant ⊢
      split at meant
      · cases meant
        rw [isHeader,isStr,List.take_left' size]
      · cases meant

/-! ### Whole runs -/

/-- The bytes still to come, and those that the dispatched messages are said to have. -/
def Receiver.balance (r : Receiver) : Nat := r.incoming.length + (r.dispatched.map need).sum

/-- The balance never falls, and rises where bytes are missing. -/
theorem balance_step {total : Nat} {r r' : Receiver} {call : Call} (atLeast : total ≤ r.balance)
    (called : r.controllerReceive call = some r') :
    total ≤ r'.balance ∧ (r'.balance = total ↔ r.balance = total ∧ Full r call) := by
  obtain ⟨message,isNext,_,taken,isTaken,few,all⟩ := controllerReceive_spec called
  have next : r'.balance + taken = r.balance + need message := by
    simp only [Receiver.balance,isNext,List.map_append,List.sum_append,List.map_cons,List.map_nil,List.sum_cons,List.sum_nil]
    omega
  rw [← all]
  omega

theorem full_iff_balance {messages : List (List UInt8)} {calls : List Call} {final : Receiver}
    (ran : Run.run Receiver.controllerReceive (sent messages) calls = some final) :
    final.balance = messages.flatten.length ↔ Run.Steps Receiver.controllerReceive Full (sent messages) calls := by
  have whole := Run.final_iff_steps (fun r call r' => @balance_step messages.flatten.length r r' call) (Nat.le_refl _) ran
  rw [whole,and_iff_right]
  simp [sent,Receiver.balance]

theorem dispatched_short {messages : List (List UInt8)} {calls : List Call} {final : Receiver}
    (ran : Run.run Receiver.controllerReceive (sent messages) calls = some final) :
    ∀ message ∈ final.dispatched, message.length ≤ 100 := by
  refine @Run.run_invariant _ _ _ (fun r : Receiver => ∀ message ∈ r.dispatched, message.length ≤ 100) ?_ _ _ _
    (by simp [sent]) ran
  intro r call r' short called message member
  obtain ⟨new,isNext,few,_⟩ := controllerReceive_spec called
  rw [isNext] at member
  rcases List.mem_append.mp member with old | isNew
  · exact short message old
  · rw [List.mem_singleton.mp isNew]
    exact few

/-- The first of the messages have been dispatched, and the others are on their way. -/
def InStep (messages : List (List UInt8)) (r : Receiver) : Prop :=
  ∃ rest, messages = r.dispatched ++ rest ∧ r.incoming = rest.flatten ∧ r.overrun = false

section
variable {messages : List (List UInt8)} (framed : ∀ message ∈ messages, Framed message)
  (short : ∀ message ∈ messages, message.length ≤ 100)
include framed short

theorem next_message {r : Receiver} {message : List UInt8} {rest : List (List UInt8)}
    (isMessages : messages = r.dispatched ++ message :: rest) (isIncoming : r.incoming = (message :: rest).flatten)
    {call : Call} (full : Full r call) :
    r.controllerReceive call = some { r with incoming := rest.flatten, dispatched := r.dispatched ++ [message] } := by
  have member : message ∈ messages := by simp [isMessages]
  refine controllerReceive_full ?_ full
  rw [isIncoming,List.flatten_cons]
  exact (framed message member).received (short message member) rest.flatten

theorem inStep_step {r r' : Receiver} {call : Call} (full : Full r call) (inStep : InStep messages r)
    (called : r.controllerReceive call = some r') : InStep messages r' := by
  obtain ⟨rest,isMessages,isIncoming,noOverrun⟩ := inStep
  cases rest with
  | nil =>
    obtain ⟨_,_,_,taken,isTaken,_,all⟩ := controllerReceive_spec called
    have := all.mpr full
    have : 8 ≤ taken := by rw [this]; exact Nat.le_max_left _ _
    rw [isIncoming] at isTaken
    simp at isTaken
    omega
  | cons message rest =>
    rw [next_message framed short isMessages isIncoming full] at called
    cases called
    exact ⟨rest,by simp [isMessages],rfl,noOverrun⟩

end

/-- The messages are dispatched, complete and in order, exactly if each fits the buffer
    and every `recv` gives all that it is asked for; and then a call can always go on. -/
theorem messages_dispatched_iff {messages : List (List UInt8)} {calls : List Call} {final : Receiver}
    (framed : ∀ message ∈ messages, Framed message)
    (ran : Run.run Receiver.controllerReceive (sent messages) calls = some final) :
    (final.incoming = [] → (final.dispatched = messages ∧ final.overrun = false ↔
      (∀ message ∈ messages, message.length ≤ 100) ∧
        Run.Steps Receiver.controllerReceive Full (sent messages) calls)) ∧
    ((∀ message ∈ messages, message.length ≤ 100) →
      Run.Steps Receiver.controllerReceive Full (sent messages) calls →
      InStep messages final ∧ (final.incoming ≠ [] →
        ∀ junk, ∃ call next, call.junk = junk ∧ Full final call ∧ final.controllerReceive call = some next)) := by
  have inStep : (∀ message ∈ messages, message.length ≤ 100) →
      Run.Steps Receiver.controllerReceive Full (sent messages) calls → InStep messages final := fun short full =>
    Run.run_preserves (fun r call r' isFull kept called => inStep_step framed short isFull kept called) full
      ⟨messages,rfl,rfl,rfl⟩ ran
  refine ⟨fun all => ⟨?_,?_⟩,fun short full => ⟨inStep short full,?_⟩⟩
  · rintro ⟨isMessages,_⟩
    refine ⟨isMessages ▸ dispatched_short ran,(full_iff_balance ran).mp ?_⟩
    have needs : messages.map need = messages.map List.length := by
      refine List.map_congr_left (fun message member => ?_)
      have isFramed := framed message member
      rw [need,announced,isFramed.announced,Nat.max_eq_right isFramed.header]
    rw [Receiver.balance,all,isMessages,needs,List.length_flatten]
    simp
  · rintro ⟨short,full⟩
    obtain ⟨rest,isMessages,isIncoming,noOverrun⟩ := inStep short full
    cases rest with
    | nil => exact ⟨by simpa using isMessages.symm,noOverrun⟩
    | cons message rest =>
      have header := (framed message (by simp [isMessages])).header
      have none_ := congrArg List.length (isIncoming.symm.trans all)
      simp only [List.flatten_cons,List.length_append,List.length_nil] at none_
      omega
  · intro more junk
    obtain ⟨rest,isMessages,isIncoming,_⟩ := inStep short full
    cases rest with
    | nil => exact absurd isIncoming more
    | cons message rest =>
      have isFull : Full final ⟨junk,8,announced final.incoming - 8⟩ := ⟨rfl,fun _ => rfl⟩
      exact ⟨_,_,rfl,isFull,next_message framed short isMessages isIncoming isFull⟩

/-- An echo request with four bytes and a message that is a header only. -/
def echoAndBarrier : List (List UInt8) := [[1,2,0,12,0,0,0,1,10,11,12,13],[1,18,0,8,0,0,0,2]]

theorem framed_echoAndBarrier : ∀ message ∈ echoAndBarrier, Framed message := by
  intro message member
  simp only [echoAndBarrier,List.mem_cons,List.not_mem_nil,or_false] at member
  rcases member with rfl | rfl
  · exact ⟨by decide,by decide⟩
  · exact ⟨by decide,by decide⟩

def zeros : Vector UInt8 100 := Vector.replicate 100 0

theorem echoAndBarrier_dispatched : ∃ final,
    Run.run Receiver.controllerReceive (sent echoAndBarrier) [⟨zeros,8,4⟩,⟨zeros,8,0⟩] = some final ∧
    final.incoming = [] ∧ final.dispatched = echoAndBarrier := by
  obtain ⟨final,ran,all⟩ : ∃ final,
      Run.run Receiver.controllerReceive (sent echoAndBarrier) [⟨zeros,8,4⟩,⟨zeros,8,0⟩] = some final ∧
      final.incoming = [] := Run.exists_run (by decide +kernel)
  have full : Run.Steps Receiver.controllerReceive Full (sent echoAndBarrier) [⟨zeros,8,4⟩,⟨zeros,8,0⟩] :=
    Run.steps_of_check (fun _ _ => of_decide_eq_true) (by decide +kernel)
  exact ⟨final,ran,all,(((messages_dispatched_iff framed_echoAndBarrier ran).1 all).mpr ⟨by decide,full⟩).1⟩

/-- The second `recv` gives two bytes of four, and the other two are taken for the start
    of the next header; and a message of 104 bytes is written beyond the buffer. -/
theorem short_read_and_overrun :
    (∃ final, Run.run Receiver.controllerReceive (sent echoAndBarrier) [⟨zeros,8,2⟩,⟨zeros,8,2⟩] = some final ∧
      final.incoming = [] ∧ final.dispatched ≠ echoAndBarrier) ∧
    ∃ final, Run.run Receiver.controllerReceive (sent [[1,2,0,104,0,0,0,1] ++ List.replicate 96 7]) [⟨zeros,8,96⟩] =
      some final ∧ final.overrun = true := by
  exact ⟨Run.exists_run (by decide +kernel),Run.exists_run (by decide +kernel)⟩

end Handover.Wire
