import Mathlib.Tactic

/-!
The loop of `add_flows` over the actions of a flow modification. It counts down an unsigned
16-bit remainder by the length that each action gives for itself, and checks neither that
this length is positive nor that it fits. So the loop ends inside the message exactly if the
actions fill it, up to one that makes the function return.
-/
namespace Handover.FlowMod

/-- The bytes from the start of the message on, also those behind its end. -/
abbrev Memory := Nat → UInt8

/-- `ntohs` of a field. -/
def half (memory : Memory) (i : Nat) : UInt16 := UInt16.ofNat ((memory i).toNat * 256 + (memory (i+1)).toNat)

/-- `ntohl` of a field. -/
def full (memory : Memory) (i : Nat) : Nat := (half memory i).toNat * 65536 + (half memory (i+2)).toNat

/-- The length in `struct ofp_header`. -/
def length (memory : Memory) : UInt16 := half memory 2

/-- The command of `struct ofp_flow_mod`; `OFPFC_ADD` is 0 and calls `add_flows`. -/
def command (memory : Memory) : UInt16 := half memory 56

/-- `rem_len`, and where `actions` points to. -/
structure Loop where
  remLen : UInt16
  actions : Nat
deriving DecidableEq

/-- Before the loop; `struct ofp_flow_mod` has 72 bytes. -/
def start (memory : Memory) : Loop := ⟨length memory - 72,72⟩

/-- The function returns at the action: it is `OFPAT_EXPERIMENTER_PUSH_IPH` of the vendor,
    and there is no tunnel to make, because the station is not listed or its address is
    neither known nor found in the ARP cache. -/
def returns (memory : Memory) (reachable : Bool) (action : Nat) : Bool :=
  half memory action = 0xffff && full memory (action + 4) = 1 && full memory (action + 8) = 0 && !reachable

/-- The body of the loop, or `none` once it is left. -/
def iteration (memory : Memory) (reachable : Bool) (s : Loop) : Option Loop :=
  if s.remLen = 0 || returns memory reachable s.actions then none
  else some ⟨s.remLen - half memory (s.actions + 2),s.actions + (half memory (s.actions + 2)).toNat⟩

/-- After so many iterations. -/
def after (memory : Memory) (reachable : Bool) : Nat → Loop → Option Loop
  | 0, s => some s
  | n + 1, s => (iteration memory reachable s).bind (after memory reachable n)

/-- How many bytes of the action's header are read: the type and the length, and for
    `OFPAT_VENDOR` the vendor. -/
def headerRead (memory : Memory) (action : Nat) : Nat := if half memory action = 0xffff then 8 else 4

/-- The loop is left at some time. -/
def Terminates (memory : Memory) (reachable : Bool) (s : Loop) : Prop := ∃ n, after memory reachable n s = none

/-- No header is read beyond the message. -/
def Inside (memory : Memory) (reachable : Bool) (s : Loop) : Prop :=
  ∀ n t, after memory reachable n s = some t → t.remLen ≠ 0 →
    t.actions + headerRead memory t.actions ≤ (length memory).toNat

/-- The actions fill the rest of the message, or the function returns at one of them. -/
inductive Fills (memory : Memory) (reachable : Bool) : Nat → Nat → Prop where
  | done (action : Nat) : Fills memory reachable action 0
  | returned {action rest : Nat} (header : headerRead memory action ≤ rest)
      (stops : returns memory reachable action = true) : Fills memory reachable action rest
  | next {action rest : Nat} (header : headerRead memory action ≤ rest) (positive : half memory (action + 2) ≠ 0)
      (fits : (half memory (action + 2)).toNat ≤ rest)
      (later : Fills memory reachable (action + (half memory (action + 2)).toNat)
        (rest - (half memory (action + 2)).toNat)) : Fills memory reachable action rest

section
variable {memory : Memory} {reachable : Bool} {s next : Loop}

theorem headerRead_pos (memory : Memory) (action : Nat) : 4 ≤ headerRead memory action := by
  unfold headerRead
  split <;> omega

theorem iteration_next (more : s.remLen ≠ 0) (continues : returns memory reachable s.actions = false) :
    iteration memory reachable s =
      some ⟨s.remLen - half memory (s.actions + 2),s.actions + (half memory (s.actions + 2)).toNat⟩ := by
  simp [iteration,more,continues]

theorem after_next (stepped : iteration memory reachable s = some next) (n : Nat) :
    after memory reachable (n + 1) s = after memory reachable n next := by
  rw [after,stepped,Option.bind_some]

/-- An iteration that can be made neither makes nor breaks that the loop ends. -/
theorem terminates_next (stepped : iteration memory reachable s = some next) :
    Terminates memory reachable s ↔ Terminates memory reachable next := by
  constructor
  · rintro ⟨n,ended⟩
    cases n with
    | zero => cases ended
    | succ n => exact ⟨n,by rwa [after_next stepped] at ended⟩
  · rintro ⟨n,ended⟩
    exact ⟨n + 1,by rwa [after_next stepped]⟩

theorem inside_next (stepped : iteration memory reachable s = some next) :
    Inside memory reachable s ↔
      (s.remLen ≠ 0 → s.actions + headerRead memory s.actions ≤ (length memory).toNat) ∧
        Inside memory reachable next := by
  constructor
  · intro inside
    exact ⟨inside 0 s rfl,fun n t reached => inside (n + 1) t (by rwa [after_next stepped])⟩
  · rintro ⟨here,later⟩ n t reached
    cases n with
    | zero =>
      cases reached
      exact here
    | succ n => exact later n t (by rwa [after_next stepped] at reached)

/-- Once the loop is left, it has read no more than where it stands. -/
theorem left_inside (ended : iteration memory reachable s = none) :
    Terminates memory reachable s ∧ (Inside memory reachable s ↔
      (s.remLen ≠ 0 → s.actions + headerRead memory s.actions ≤ (length memory).toNat)) := by
  refine ⟨⟨1,by rw [after,ended,Option.bind_none]⟩,fun inside => inside 0 s rfl,?_⟩
  intro here n t reached
  cases n with
  | zero =>
    cases reached
    exact here
  | succ n =>
    rw [after,ended] at reached
    cases reached

/-- The remainder after an action that fits. -/
theorem toNat_remLen_sub {remLen len : UInt16} (fits : len.toNat ≤ remLen.toNat) :
    (remLen - len).toNat = remLen.toNat - len.toNat :=
  UInt16.toNat_sub_of_le remLen len (UInt16.le_iff_toNat_le.mpr fits)

theorem remLen_sub_ne_zero {remLen len : UInt16} (beyond : remLen.toNat < len.toNat) : remLen - len ≠ 0 := by
  intro none
  have same : len = remLen := by simpa [none] using UInt16.sub_add_cancel remLen len
  rw [same] at beyond
  exact lt_irrefl _ beyond

/-- A loop that is left inside the message went from action to action. -/
theorem fills_of_after (n : Nat) : ∀ s : Loop, s.actions + s.remLen.toNat = (length memory).toNat →
    after memory reachable n s = none → Inside memory reachable s →
      Fills memory reachable s.actions s.remLen.toNat := by
  induction n with
  | zero =>
    intro s _ ended
    cases ended
  | succ n later =>
    intro s whole ended inside
    by_cases empty : s.remLen = 0
    · rw [empty]
      exact .done _
    have header : headerRead memory s.actions ≤ s.remLen.toNat := by
      have := inside 0 s rfl empty
      omega
    cases returned : returns memory reachable s.actions with
    | true => exact .returned header returned
    | false =>
      have stepped := iteration_next empty returned
      have insideNext := ((inside_next stepped).mp inside).2
      rw [after_next stepped] at ended
      by_cases fits : (half memory (s.actions + 2)).toNat ≤ s.remLen.toNat
      · by_cases still : half memory (s.actions + 2) = 0
        · -- an action of no length leaves the loop where it was, with one iteration less to go
          rw [still] at stepped ended
          exact later s whole (by simpa using ended) inside
        · have rest := toNat_remLen_sub fits
          refine .next header still fits ?_
          rw [← rest]
          exact later _ (by dsimp only; omega) ended insideNext
      · -- the remainder wraps, and the next action begins behind the message
        have wrapped := insideNext 0 _ rfl (remLen_sub_ne_zero (by omega))
        have : 4 ≤ headerRead memory (s.actions + (half memory (s.actions + 2)).toNat) := headerRead_pos memory _
        dsimp only at wrapped
        omega

/-- Actions that fill the message are read one after the other. -/
theorem Fills.inside {action rest : Nat} (fills : Fills memory reachable action rest) :
    ∀ s : Loop, s.actions = action → s.remLen.toNat = rest → action + rest = (length memory).toNat →
      Terminates memory reachable s ∧ Inside memory reachable s := by
  induction fills with
  | done action =>
    rintro s rfl none _
    have none : s.remLen = 0 := UInt16.toNat_inj.mp none
    obtain ⟨terminates,inside⟩ := left_inside (by simp [iteration,none] : iteration memory reachable s = Option.none)
    exact ⟨terminates,inside.mpr fun more => absurd none more⟩
  | returned header stops =>
    rintro s rfl rfl whole
    obtain ⟨terminates,inside⟩ := left_inside (by simp [iteration,stops] : iteration memory reachable s = none)
    exact ⟨terminates,inside.mpr fun _ => by omega⟩
  | @next action rest header positive fits _ later =>
    rintro s rfl rfl whole
    have more : s.remLen ≠ 0 := by
      intro none
      have := headerRead_pos memory s.actions
      rw [none] at header
      exact absurd header (by simp; omega)
    cases stops : returns memory reachable s.actions with
    | true =>
      obtain ⟨terminates,inside⟩ := left_inside (by simp [iteration,stops] : iteration memory reachable s = none)
      exact ⟨terminates,inside.mpr fun _ => by omega⟩
    | false =>
      have stepped := iteration_next more stops
      obtain ⟨terminates,inside⟩ := later
        ⟨s.remLen - half memory (s.actions + 2),s.actions + (half memory (s.actions + 2)).toNat⟩ rfl
        (toNat_remLen_sub fits) (by omega)
      exact ⟨(terminates_next stepped).mpr terminates,(inside_next stepped).mpr ⟨fun _ => by omega,inside⟩⟩

/-- The loop ends, and reads no header beyond the message, exactly if the message is not shorter
    than its fixed part and the actions behind that fill it. -/
theorem parsed_iff (memory : Memory) (reachable : Bool) :
    Terminates memory reachable (start memory) ∧ Inside memory reachable (start memory) ↔
      72 ≤ (length memory).toNat ∧ Fills memory reachable 72 ((length memory).toNat - 72) := by
  by_cases whole : 72 ≤ (length memory).toNat
  · have rest : (start memory).remLen.toNat = (length memory).toNat - 72 := toNat_remLen_sub whole
    have filled : (start memory).actions + (start memory).remLen.toNat = (length memory).toNat := by
      rw [rest]
      exact Nat.add_sub_cancel' whole
    constructor
    · rintro ⟨⟨n,ended⟩,inside⟩
      exact ⟨whole,rest ▸ fills_of_after n _ filled ended inside⟩
    · rintro ⟨_,fills⟩
      exact fills.inside _ rfl rest (by omega)
  · constructor
    · -- the remainder wraps before the loop
      rintro ⟨_,inside⟩
      have wrapped : 72 + headerRead memory 72 ≤ (length memory).toNat :=
        inside 0 (start memory) rfl (remLen_sub_ne_zero (Nat.lt_of_not_le whole))
      omega
    · rintro ⟨long,_⟩
      exact absurd long whole

end

/-- A message that adds a flow: its length, and one action of 8 bytes that gives its own length. -/
def message (length len : UInt8) : Memory := fun i => if i = 3 then length else if i = 75 then len else 0

theorem after_still (n : Nat) : after (message 80 0) true n (start (message 80 0)) = some (start (message 80 0)) := by
  induction n with
  | zero => rfl
  | succ n stays => rwa [after_next (by decide +kernel : iteration _ _ _ = some (start (message 80 0)))]

/-- An action of no length is parsed forever; one that is longer than the rest of the message,
    or a message shorter than its fixed part, leads the loop beyond the message. -/
theorem parsed_beyond :
    command (message 80 0) = 0 ∧ ¬ Terminates (message 80 0) true (start (message 80 0)) ∧
    command (message 80 16) = 0 ∧ ¬ Inside (message 80 16) true (start (message 80 16)) ∧
    command (message 64 0) = 0 ∧ ¬ Inside (message 64 0) true (start (message 64 0)) := by
  refine ⟨by decide +kernel,?_,by decide +kernel,?_,by decide +kernel,?_⟩
  · rintro ⟨n,ended⟩
    rw [after_still] at ended
    cases ended
  · intro inside
    have wrapped := inside 1 ⟨65528,88⟩ (by decide +kernel) (by decide)
    exact absurd wrapped (by decide +kernel)
  · intro inside
    have wrapped := inside 0 ⟨65528,72⟩ (by decide +kernel) (by decide)
    exact absurd wrapped (by decide +kernel)

end Handover.FlowMod
