import Mathlib.Data.List.Infix

/-!
Messages on a stream that comes in pieces. A decoder reads one message after the other
off what has come, and what is left goes before the next piece. If every message is
`Delimited`, read as its value whatever follows it and left as long as a part of it is
missing, then the values come out complete and in order however the stream is cut.
-/
namespace Handover.Decoder

section
variable {β α ε : Type} (one : List β → Except ε (Option (α × List β))) (stuck : ε)

/-- The messages in the buffer, and what is left of it; `stuck` where the fuel is too
    little. -/
def drain : Nat → List β → Except ε (List α × List β)
  | 0, _ => .error stuck
  | fuel+1, data =>
    match one data with
    | .error failure => .error failure
    | .ok none => .ok ([],data)
    | .ok (some (value,rest)) =>
      match drain fuel rest with
      | .error failure => .error failure
      | .ok (more,left) => .ok (value :: more,left)

/-- The messages of all pieces, the first behind what was left before. -/
def feed (fuel : Nat) : List β → List (List β) → Except ε (List α × List β)
  | left, [] => .ok ([],left)
  | left, piece :: pieces =>
    match drain one stuck fuel (left ++ piece) with
    | .error failure => .error failure
    | .ok (values,left) =>
      match feed fuel left pieces with
      | .error failure => .error failure
      | .ok (more,left) => .ok (values ++ more,left)

/-- The reader finds where the message ends. -/
structure Delimited (bytes : List β) (value : α) : Prop where
  whole : ∀ rest, one (bytes ++ rest) = .ok (some (value,rest))
  part : ∀ start, start <+: bytes → start.length < bytes.length → one start = .ok none

/-- The messages on the stream, one after the other. -/
def stream (messages : List (List β × α)) : List β := (messages.map Prod.fst).flatten

theorem stream_cons (m : List β × α) (messages : List (List β × α)) : stream (m :: messages) = m.1 ++ stream messages :=
  rfl

/-- What is left is the start of the first message, and not all of it. -/
def Waiting (left : List β) : List (List β × α) → Prop
  | [] => left = []
  | m :: _ => left <+: m.1 ∧ left.length < m.1.length

variable {one}

/-- From the start of a stream the messages that are there as a whole are read. -/
theorem drain_start {messages : List (List β × α)} (delimited : ∀ m ∈ messages, Delimited one m.1 m.2)
    (empty : one [] = .ok none) {data more : List β} (start : data ++ more = stream messages) {fuel : Nat}
    (enough : messages.length < fuel) :
    ∃ done todo left, messages = done ++ todo ∧ drain one stuck fuel data = .ok (done.map Prod.snd,left) ∧
      left ++ more = stream todo ∧ Waiting left todo := by
  -- On the messages of the stream: the first is there, or nothing is read.
  induction messages generalizing data fuel with
  | nil =>
    obtain ⟨rfl,rfl⟩ := List.append_eq_nil_iff.mp start
    obtain ⟨fuel,rfl⟩ : ∃ k, fuel = k + 1 := ⟨fuel - 1,by simp at enough; omega⟩
    refine ⟨[],[],[],rfl,?_,rfl,rfl⟩
    rw [drain,empty]
    rfl
  | cons m messages ih =>
    obtain ⟨fuel,rfl⟩ : ∃ k, fuel = k + 1 := ⟨fuel - 1,by simp at enough; omega⟩
    rw [stream_cons] at start
    have first := delimited m List.mem_cons_self
    by_cases there : m.1.length ≤ data.length
    · obtain ⟨data',rfl⟩ : m.1 <+: data :=
        List.prefix_of_prefix_length_le (List.prefix_append _ _) (start ▸ List.prefix_append data more) there
      rw [List.append_assoc] at start
      obtain ⟨done,todo,left,rfl,drained,later,waiting⟩ :=
        ih (fun m' member => delimited m' (List.mem_cons_of_mem _ member)) (List.append_cancel_left start)
          (Nat.lt_of_succ_lt_succ enough)
      refine ⟨m :: done,todo,left,rfl,?_,later,waiting⟩
      rw [drain,first.whole]
      simp only [drained,List.map_cons]
    · have short : data.length < m.1.length := Nat.lt_of_not_le there
      have begun : data <+: m.1 :=
        List.prefix_of_prefix_length_le (start ▸ List.prefix_append data more) (List.prefix_append _ _) short.le
      refine ⟨[],m :: messages,data,rfl,?_,start,begun,short⟩
      rw [drain,first.part data begun short]
      rfl

theorem feed_waiting {pieces : List (List β)} {messages : List (List β × α)}
    (delimited : ∀ m ∈ messages, Delimited one m.1 m.2) (empty : one [] = .ok none) {left : List β}
    (start : left ++ pieces.flatten = stream messages) (waiting : Waiting left messages) {fuel : Nat}
    (enough : messages.length < fuel) :
    feed one stuck fuel left pieces = .ok (messages.map Prod.snd,[]) := by
  induction pieces generalizing left messages with
  | nil =>
    cases messages with
    | nil =>
      cases waiting
      rfl
    | cons m messages =>
      -- A part of a message is missing, and nothing is to come.
      have length := congrArg List.length start
      rw [stream_cons,List.flatten_nil,List.append_nil,List.length_append] at length
      exact absurd waiting.2 (by omega)
  | cons piece pieces ih =>
    rw [List.flatten_cons,← List.append_assoc] at start
    obtain ⟨done,todo,left',rfl,drained,later,waiting'⟩ := drain_start stuck delimited empty start enough
    have rest := ih (fun m member => delimited m (List.mem_append_right _ member)) later waiting'
      (lt_of_le_of_lt (by simp) enough)
    rw [feed,drained]
    simp only [rest,List.map_append]

/-- However the stream is cut, the values come out and nothing is left. -/
theorem feed_stream {pieces : List (List β)} {messages : List (List β × α)}
    (delimited : ∀ m ∈ messages, Delimited one m.1 m.2) (empty : one [] = .ok none)
    (start : pieces.flatten = stream messages) {fuel : Nat} (enough : messages.length < fuel) :
    feed one stuck fuel [] pieces = .ok (messages.map Prod.snd,[]) := by
  refine feed_waiting stuck delimited empty start ?_ enough
  cases messages with
  | nil => rfl
  | cons m messages =>
    refine ⟨List.nil_prefix,List.length_pos_of_ne_nil ?_⟩
    intro nothing
    have whole := (delimited m List.mem_cons_self).whole []
    rw [nothing,List.append_nil,empty] at whole
    cases whole

end

end Handover.Decoder
