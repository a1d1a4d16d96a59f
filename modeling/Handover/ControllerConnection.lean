import Handover.Run
import Handover.Wire

/-!
The connection of an agent to the controller, as `controller_run` opens and loses it while
other threads send: `controller_interface.c` and `gatewayNAT.c` have the same functions.
A connection that is lost is forgotten and not closed, so that every descriptor that
`conn_open` has returned with stays open; failed sends are counted over all connections;
and the `dpid` is set only on one of the ways on which `conn_open` succeeds.
-/
namespace Handover

/-- How far `conn_open` is; `asking` is where the connection is there and the address of
    the interface is asked for. -/
inductive ControllerConnection.Position where
  | outside
  | created
  | waiting
  | asking
deriving DecidableEq

/-- The `struct controller_connection`, where `none` is the socket -1, with the threads that
    are in `controller_send` beyond its check, the descriptors of connections that are
    open, and those with which `conn_open` has returned. -/
structure ControllerConnection where
  sock : Option Nat
  error : Nat
  dpid : UInt64
  mac : Option Mac
  position : ControllerConnection.Position
  sending : Nat
  opened : List Nat
  used : List Nat
deriving DecidableEq

namespace ControllerConnection

def init : ControllerConnection := ⟨none,0,0,none,.outside,0,[],[]⟩

inductive Connecting where
  | done
  | inProgress
  | failed
deriving DecidableEq

inductive Selected where
  | timeout
  | failed
  | writable
deriving DecidableEq

/-- A system call and what follows it up to the next, in `conn_open`, in `controller_send`
    from its check on, or in `controller_receive` where `recv` gives nothing. -/
inductive Event where
  | socket (fd : Option Nat)
  | connect (outcome : Connecting)
  | select (outcome : Selected)
  | ioctl (succeeds : Bool)
  | enters
  | sends
  | fails
  | lost
deriving DecidableEq

/-- The body of the loop of `conn_open` over the octets. -/
def shiftIn (dpid : UInt64) (octet : UInt8) : UInt64 := octet.toUInt64 ||| dpid <<< 8

def dpidOf (mac : Mac) : UInt64 := mac.bytes.foldl shiftIn 0

/-- `close(*s)`, where -1 may be closed for nothing. -/
def close (u : ControllerConnection) : ControllerConnection := { u with opened := u.sock.elim u.opened u.opened.erase }

/-- `conn_open` returns 1, and `controller_conn_open` forgets the socket. -/
def givesUp (u : ControllerConnection) : ControllerConnection := { u with sock := none, position := .outside }

/-- `conn_open` returns 0. -/
def returns (u : ControllerConnection) : ControllerConnection :=
  { u with position := .outside, used := u.used ++ u.sock.toList }

/-- `controller_send` after its tenth failed `send`, or one before. There is no lock here;
    that `error` is read and written in one step is assumed. -/
def failed (u : ControllerConnection) : ControllerConnection :=
  if u.error + 1 = 10 then { u with error := 0, sock := none } else { u with error := u.error + 1 }

section
variable {u : ControllerConnection}

theorem failed_tenth (tenth : u.error + 1 = 10) : u.failed = { u with error := 0, sock := none } := if_pos tenth

theorem failed_of_ne (tenth : u.error + 1 ≠ 10) : u.failed = { u with error := u.error + 1 } := if_neg tenth

@[simp] theorem used_failed : u.failed.used = u.used := by
  rw [failed]
  split <;> rfl

@[simp] theorem dpid_failed : u.failed.dpid = u.dpid := by
  rw [failed]
  split <;> rfl

end

/-- The steps of the threads. A new descriptor is none that is open. Where another thread
    has forgotten the socket, `connect` and `ioctl` fail, and `FD_SET` is undefined. The
    failed `send`, `error++` and the assignment to `sock` are not locked in the source;
    `fails` takes the three as one step, and so do all results about runs of `step`. -/
def step (perm : Mac) (u : ControllerConnection) : Event → Option ControllerConnection
  | .socket fd =>
    if u.position = .outside ∧ u.sock = none ∧ ∀ fd' ∈ fd, fd' ∉ u.opened then
      match fd with
      | none => some u
      | some fd => some { u with sock := some fd, opened := fd :: u.opened, position := .created }
    else none
  | .connect outcome =>
    if u.position = .created ∧ (outcome = .failed ∨ u.sock.isSome) then
      match outcome with
      | .done => some u.returns
      | .inProgress => some { u with position := .waiting }
      | .failed => some u.close.givesUp
    else none
  | .select outcome =>
    if u.position = .waiting ∧ u.sock.isSome then
      match outcome with
      | .timeout => some u.returns
      | .failed => some u.close.givesUp
      | .writable => some { u with position := .asking }
    else none
  | .ioctl succeeds =>
    if u.position = .asking ∧ (succeeds = false ∨ u.sock.isSome) then
      if succeeds then some { u with mac := some perm, dpid := dpidOf perm }.returns else some u.givesUp
    else none
  | .enters => if u.sock.isSome then some { u with sending := u.sending + 1 } else none
  | .sends => if 0 < u.sending ∧ u.sock.isSome then some { u with sending := u.sending - 1 } else none
  | .fails => if 0 < u.sending then some { u.failed with sending := u.sending - 1 } else none
  | .lost => if u.position = .outside then some { u with sock := none } else none

/-- What a step can do. -/
inductive Does (perm : Mac) (u : ControllerConnection) : Event → ControllerConnection → Prop
  | noSocket : Does perm u (.socket none) u
  | socket {fd : Nat} (fresh : fd ∉ u.opened) :
    Does perm u (.socket (some fd)) { u with sock := some fd, opened := fd :: u.opened, position := .created }
  | goesOn {e : Event} (position : Position) (inside : u.position ≠ .outside) (told : e ≠ .ioctl true)
    (counted : e ≠ .fails) : Does perm u e { u with position := position }
  | returns {e : Event} (inside : u.position ≠ .outside) (told : e ≠ .ioctl true) (counted : e ≠ .fails) :
    Does perm u e u.returns
  | closes {e : Event} (inside : u.position ≠ .outside) (told : e ≠ .ioctl true) (counted : e ≠ .fails) :
    Does perm u e u.close.givesUp
  | told (inside : u.position ≠ .outside) :
    Does perm u (.ioctl true) { u with mac := some perm, dpid := dpidOf perm }.returns
  | notTold : Does perm u (.ioctl false) u.givesUp
  | sending {e : Event} (sending : Nat) (told : e ≠ .ioctl true) (counted : e ≠ .fails) :
    Does perm u e { u with sending := sending }
  | fails : Does perm u .fails { u.failed with sending := u.sending - 1 }
  | lost : Does perm u .lost { u with sock := none }

theorem does_of_step {perm : Mac} {u u' : ControllerConnection} {e : Event} (stepped : step perm u e = some u') :
    Does perm u e u' := by
  cases e with
  | socket fd =>
    cases fd with
    | none =>
      rw [step,Option.ite_none_right_eq_some] at stepped
      obtain ⟨_,⟨⟩⟩ := stepped
      exact .noSocket
    | some fd =>
      rw [step,Option.ite_none_right_eq_some] at stepped
      obtain ⟨⟨_,_,fresh⟩,⟨⟩⟩ := stepped
      exact .socket (fresh fd rfl)
  | connect outcome =>
    have inside : u.position = .created → u.position ≠ .outside := fun isCreated => by rw [isCreated]; decide
    cases outcome <;> rw [step,Option.ite_none_right_eq_some] at stepped <;> obtain ⟨⟨isCreated,_⟩,⟨⟩⟩ := stepped
    · exact .returns (inside isCreated) (by decide) (by decide)
    · exact .goesOn .waiting (inside isCreated) (by decide) (by decide)
    · exact .closes (inside isCreated) (by decide) (by decide)
  | select outcome =>
    have inside : u.position = .waiting → u.position ≠ .outside := fun isWaiting => by rw [isWaiting]; decide
    cases outcome <;> rw [step,Option.ite_none_right_eq_some] at stepped <;> obtain ⟨⟨isWaiting,_⟩,⟨⟩⟩ := stepped
    · exact .returns (inside isWaiting) (by decide) (by decide)
    · exact .closes (inside isWaiting) (by decide) (by decide)
    · exact .goesOn .asking (inside isWaiting) (by decide) (by decide)
  | ioctl succeeds =>
    rw [step,Option.ite_none_right_eq_some] at stepped
    obtain ⟨⟨isAsking,_⟩,stepped⟩ := stepped
    cases succeeds with
    | false =>
      cases stepped
      exact .notTold
    | true =>
      cases stepped
      exact .told (by rw [isAsking]; decide)
  | enters =>
    rw [step,Option.ite_none_right_eq_some] at stepped
    obtain ⟨_,⟨⟩⟩ := stepped
    exact .sending _ (by decide) (by decide)
  | sends =>
    rw [step,Option.ite_none_right_eq_some] at stepped
    obtain ⟨_,⟨⟩⟩ := stepped
    exact .sending _ (by decide) (by decide)
  | fails =>
    rw [step,Option.ite_none_right_eq_some] at stepped
    obtain ⟨_,⟨⟩⟩ := stepped
    exact .fails
  | lost =>
    rw [step,Option.ite_none_right_eq_some] at stepped
    obtain ⟨_,⟨⟩⟩ := stepped
    exact .lost

/-! ### The descriptors -/

/-- The descriptors that were used are open, each for one connection; and a connection
    that is being opened has a new one. -/
structure Kept (u : ControllerConnection) : Prop where
  used : u.used.Nodup
  stays : ∀ fd ∈ u.used, fd ∈ u.opened
  own : ∀ fd, u.sock = some fd → fd ∈ u.opened
  fresh : u.position ≠ .outside → ∀ fd, u.sock = some fd → fd ∉ u.used

theorem kept_init : Kept init := ⟨List.nodup_nil,by simp [init],by simp [init],by simp [init]⟩

/-- Where the socket is forgotten nothing else is needed. -/
theorem Kept.forget {u u' : ControllerConnection} (kept : Kept u) (isUsed : u'.used = u.used)
    (isOpened : u'.opened = u.opened) (forgotten : u'.sock = none) : Kept u' := by
  refine ⟨isUsed ▸ kept.used,?_,?_,?_⟩
  · rw [isUsed,isOpened]
    exact kept.stays
  · intro fd isSock
    rw [forgotten] at isSock
    cases isSock
  · intro _ fd isSock
    rw [forgotten] at isSock
    cases isSock

theorem Kept.returns {u : ControllerConnection} (kept : Kept u) (inside : u.position ≠ .outside) : Kept u.returns := by
  have both : ∀ fd ∈ u.used ++ u.sock.toList, fd ∈ u.opened := by
    intro fd member
    rcases List.mem_append.mp member with old | new
    · exact kept.stays fd old
    · exact kept.own fd (Option.mem_toList.mp new)
  refine ⟨?_,both,kept.own,fun outside => absurd rfl outside⟩
  change (u.used ++ u.sock.toList).Nodup
  refine List.nodup_append.mpr ⟨kept.used,?_,?_⟩
  · cases u.sock <;> simp
  · rintro fd old fd' new rfl
    exact kept.fresh inside fd (Option.mem_toList.mp new) old

theorem Kept.closes {u : ControllerConnection} (kept : Kept u) (inside : u.position ≠ .outside) :
    Kept u.close.givesUp := by
  refine ⟨kept.used,?_,?_,fun outside => absurd rfl outside⟩
  · intro fd isUsed
    change fd ∈ u.sock.elim u.opened u.opened.erase
    cases isSock : u.sock with
    | none => exact kept.stays fd isUsed
    | some own =>
      have other : fd ≠ own := by
        rintro rfl
        exact kept.fresh inside fd isSock isUsed
      exact (List.mem_erase_of_ne other).mpr (kept.stays fd isUsed)
  · rintro fd ⟨⟩

theorem kept_step {perm : Mac} {u u' : ControllerConnection} {e : Event} (kept : Kept u)
    (stepped : step perm u e = some u') : Kept u' := by
  cases does_of_step stepped with
  | noSocket => exact kept
  | @socket fd fresh =>
    refine ⟨kept.used,fun fd' isUsed => List.mem_cons_of_mem _ (kept.stays fd' isUsed),?_,?_⟩
    · rintro _ ⟨⟩
      exact List.mem_cons_self
    · rintro _ _ ⟨⟩ isUsed
      exact fresh (kept.stays fd isUsed)
  | goesOn position inside => exact ⟨kept.used,kept.stays,kept.own,fun _ => kept.fresh inside⟩
  | returns inside => exact kept.returns inside
  | closes inside => exact kept.closes inside
  | told inside =>
    have known : Kept { u with mac := some perm, dpid := dpidOf perm } := ⟨kept.used,kept.stays,kept.own,kept.fresh⟩
    exact known.returns inside
  | notTold => exact kept.forget rfl rfl rfl
  | sending => exact ⟨kept.used,kept.stays,kept.own,kept.fresh⟩
  | fails =>
    by_cases tenth : u.error + 1 = 10
    · rw [failed_tenth tenth]
      exact kept.forget rfl rfl rfl
    · rw [failed_of_ne tenth]
      exact ⟨kept.used,kept.stays,kept.own,kept.fresh⟩
  | lost => exact kept.forget rfl rfl rfl

theorem kept_run {perm : Mac} {u final : ControllerConnection} {events : List Event} (kept : Kept u)
    (ran : Run.run (step perm) u events = some final) : Kept final :=
  Run.run_invariant (fun _ _ _ => kept_step) kept ran

/-- No connection is taken off the list. -/
theorem used_grows {perm : Mac} {u u' : ControllerConnection} {e : Event} (stepped : step perm u e = some u') :
    u.used <+: u'.used := by
  cases does_of_step stepped with
  | returns => exact List.prefix_append _ _
  | told => exact List.prefix_append _ _
  | fails => simp
  | noSocket | socket | goesOn | closes | notTold | sending | lost => exact List.prefix_rfl

theorem used_grows_run {perm : Mac} {u final : ControllerConnection} {events : List Event}
    (ran : Run.run (step perm) u events = some final) : u.used <+: final.used :=
  @Run.run_invariant _ _ _ (fun s : ControllerConnection => u.used <+: s.used)
    (fun _ _ _ grown stepped => grown.trans (used_grows stepped)) _ _ _ List.prefix_rfl ran

/-- Different descriptors are not all small. -/
theorem exists_large {fds : List Nat} (nodup : fds.Nodup) (nonempty : fds ≠ []) : ∃ fd ∈ fds, fds.length ≤ fd + 1 := by
  by_contra allSmall
  push Not at allSmall
  have small : fds ⊆ List.range (fds.length - 1) := by
    intro fd member
    have := allSmall fd member
    exact List.mem_range.mpr (by omega)
  have few := (List.subperm_of_subset nodup small).length_le
  rw [List.length_range] at few
  have := List.length_pos_of_ne_nil nonempty
  omega

/-- Every connection that `conn_open` has returned with keeps its descriptor for good, so
    that no two have the same one and after many some are large. -/
theorem descriptors_stay {perm : Mac} {before after : List Event} {u final : ControllerConnection}
    (ran : Run.run (step perm) init before = some u) (ranOn : Run.run (step perm) u after = some final) :
    (∀ fd ∈ u.used, fd ∈ final.opened) ∧ u.used <+: final.used ∧ final.used.Nodup ∧
      (final.used ≠ [] → ∃ fd ∈ final.used, final.used.length ≤ fd + 1) := by
  have kept := kept_run (kept_run kept_init ran) ranOn
  have grown := used_grows_run ranOn
  exact ⟨fun fd isUsed => kept.stays fd (grown.subset isUsed),grown,kept.used,exists_large kept.used⟩

/-- A connection comes up and is lost. -/
def comesAndGoes (fd : Nat) : List Event :=
  [.socket (some fd),.connect .inProgress,.select .writable,.ioctl true,.lost]

theorem second_stays : ∃ u final, Run.run (step ⟨2,0,0,0,0,1⟩) init (comesAndGoes 3) = some u ∧ u.used = [3] ∧
    Run.run (step ⟨2,0,0,0,0,1⟩) u (comesAndGoes 4) = some final ∧ final.used = [3,4] ∧ 3 ∈ final.opened := by
  obtain ⟨u,ran,isUsed,final,ranOn,isUsed'⟩ : ∃ u, Run.run (step ⟨2,0,0,0,0,1⟩) init (comesAndGoes 3) = some u ∧
      u.used = [3] ∧ ∃ final, Run.run (step ⟨2,0,0,0,0,1⟩) u (comesAndGoes 4) = some final ∧ final.used = [3,4] :=
    ⟨_,rfl,rfl,_,rfl,rfl⟩
  exact ⟨u,final,ran,isUsed,ranOn,isUsed',(descriptors_stay ran ranOn).1 3 (by simp [isUsed])⟩

/-! ### Failed sends -/

/-- One for a failed send. -/
def failures (e : Event) : Nat := if e = .fails then 1 else 0

theorem failures_of_ne {e : Event} (counted : e ≠ .fails) : failures e = 0 := if_neg counted

theorem error_step {perm : Mac} {u u' : ControllerConnection} {e : Event} (small : u.error < 10)
    (stepped : step perm u e = some u') : u'.error = (u.error + failures e) % 10 := by
  have same : failures e = 0 → u.error = (u.error + failures e) % 10 := by
    intro isZero
    rw [isZero]
    omega
  cases does_of_step stepped with
  | noSocket => exact same rfl
  | socket => exact same rfl
  | goesOn _ _ _ counted => exact same (failures_of_ne counted)
  | returns _ _ counted => exact same (failures_of_ne counted)
  | closes _ _ counted => exact same (failures_of_ne counted)
  | told => exact same rfl
  | notTold => exact same rfl
  | sending _ _ counted => exact same (failures_of_ne counted)
  | fails =>
    have isOne : failures .fails = 1 := rfl
    by_cases tenth : u.error + 1 = 10
    · rw [failed_tenth tenth,isOne,tenth]
    · rw [failed_of_ne tenth,isOne]
      change u.error + 1 = _
      omega
  | lost => exact same rfl

theorem error_run {perm : Mac} {u final : ControllerConnection} {events : List Event} (small : u.error < 10)
    (ran : Run.run (step perm) u events = some final) : final.error = (u.error + events.count .fails) % 10 := by
  induction events generalizing u with
  | nil =>
    cases ran
    simp only [List.count_nil]
    omega
  | cons e rest ih =>
    obtain ⟨next,stepped,ranOn⟩ := (Run.run_cons _ _ _ _).mp ran
    have first := error_step small stepped
    have later := ih (by omega) ranOn
    have counted : (e :: rest).count .fails = rest.count .fails + failures e := by
      simp [List.count_cons,failures]
    omega

/-- A failed `send` drops the connection exactly if it is the tenth, counted from the
    start over all connections; nothing that succeeds in between is counted against it. -/
theorem dropped_iff_tenth {perm : Mac} {events : List Event} {u u' : ControllerConnection}
    (ran : Run.run (step perm) init events = some u) (failing : step perm u .fails = some u') :
    u'.sock = if (events.count .fails + 1) % 10 = 0 then none else u.sock := by
  have counted : u.error = (0 + events.count .fails) % 10 := error_run (u := init) (by decide) ran
  cases does_of_step failing with
  | goesOn _ _ _ counted => exact absurd rfl counted
  | returns _ _ counted => exact absurd rfl counted
  | closes _ _ counted => exact absurd rfl counted
  | sending _ _ counted => exact absurd rfl counted
  | fails =>
    by_cases tenth : (events.count .fails + 1) % 10 = 0
    · have isTenth : u.error + 1 = 10 := by omega
      rw [failed_tenth isTenth,if_pos tenth]
    · have notTenth : u.error + 1 ≠ 10 := by omega
      rw [failed_of_ne notTenth,if_neg tenth]

/-- Nine sends fail on one connection, which is then lost, and one is tried on the next. -/
def nineFail : List Event :=
  [Event.socket (some 3),.connect .done] ++ List.replicate 9 Event.enters ++ List.replicate 9 Event.fails ++
    [Event.lost,.socket (some 4),.connect .done,.enters]

theorem tenth_drops : ∃ u u', Run.run (step ⟨2,0,0,0,0,1⟩) init nineFail = some u ∧ u.sock = some 4 ∧
    step ⟨2,0,0,0,0,1⟩ u .fails = some u' ∧ u'.sock = none := by
  obtain ⟨u,ran,isSock,u',failing⟩ : ∃ u, Run.run (step ⟨2,0,0,0,0,1⟩) init nineFail = some u ∧ u.sock = some 4 ∧
      ∃ u', step ⟨2,0,0,0,0,1⟩ u .fails = some u' := ⟨_,rfl,rfl,_,rfl⟩
  exact ⟨u,u',ran,isSock,failing,dropped_iff_tenth ran failing⟩

/-! ### The identity of the agent -/

/-- The number with one octet more. -/
def withOctet (n : Nat) (octet : UInt8) : Nat := n * 256 + octet.toNat

theorem toNat_shiftIn {dpid : UInt64} (small : dpid.toNat < 2 ^ 56) (octet : UInt8) :
    (shiftIn dpid octet).toNat = withOctet dpid.toNat octet := by
  have shifted : (dpid <<< 8).toNat = dpid.toNat <<< 8 := by
    rw [UInt64.toNat_shiftLeft]
    have : dpid.toNat <<< 8 < 2 ^ 64 := by rw [Nat.shiftLeft_eq]; omega
    exact Nat.mod_eq_of_lt this
  rw [shiftIn,UInt64.toNat_or,shifted,UInt8.toNat_toUInt64,Nat.or_comm,← Nat.shiftLeft_add_eq_or_of_lt octet.toNat_lt,
    Nat.shiftLeft_eq]
  rfl

/-- Nothing is shifted out as long as the octets fit. -/
theorem toNat_foldl {octets : List UInt8} {dpid : UInt64} (small : (dpid.toNat + 1) * 256 ^ octets.length ≤ 2 ^ 64) :
    (octets.foldl shiftIn dpid).toNat = octets.foldl withOctet dpid.toNat := by
  induction octets generalizing dpid with
  | nil => rfl
  | cons octet rest ih =>
    rw [List.length_cons,Nat.pow_succ',← Nat.mul_assoc] at small
    have first : (dpid.toNat + 1) * 256 ≤ 2 ^ 64 := (Nat.le_mul_of_pos_right _ (by positivity)).trans small
    have isNext := toNat_shiftIn (show dpid.toNat < 2 ^ 56 by omega) octet
    have next : ((shiftIn dpid octet).toNat + 1) * 256 ^ rest.length ≤ 2 ^ 64 := by
      have byte := octet.toNat_lt
      rw [isNext,withOctet]
      exact (Nat.mul_le_mul_right _ (by omega)).trans small
    rw [List.foldl_cons,List.foldl_cons,ih next,isNext]

theorem foldl_withOctet_inj {u v : List UInt8} {n n' : Nat} (length : u.length = v.length)
    (same : u.foldl withOctet n = v.foldl withOctet n') : n = n' ∧ u = v := by
  induction u generalizing v n n' with
  | nil =>
    cases v with
    | nil => exact ⟨same,rfl⟩
    | cons => cases length
  | cons a u ih =>
    cases v with
    | nil => cases length
    | cons b v =>
      obtain ⟨heads,rfl⟩ := ih (Nat.succ.inj length) same
      have first := a.toNat_lt
      have second := b.toNat_lt
      simp only [withOctet] at heads
      have octets : a = b := UInt8.toNat_inj.mp (by omega)
      exact ⟨by omega,by rw [octets]⟩

theorem dpidOf_inj {m m' : Mac} (same : dpidOf m = dpidOf m') : m = m' := by
  have fits : ∀ m : Mac, ((0 : UInt64).toNat + 1) * 256 ^ m.bytes.length ≤ 2 ^ 64 := by
    intro m
    rw [Mac.length_bytes]
    decide
  have numbers := congrArg UInt64.toNat same
  rw [dpidOf,dpidOf,toNat_foldl (fits m),toNat_foldl (fits m')] at numbers
  have length : m.bytes.length = m'.bytes.length := by rw [Mac.length_bytes,Mac.length_bytes]
  obtain ⟨_,octets⟩ := foldl_withOctet_inj length numbers
  cases m
  cases m'
  simp only [Mac.bytes,List.cons.injEq] at octets
  simpa using octets

/-- An `ioctl` has told the address of the interface. -/
def Told (events : List Event) : Prop := .ioctl true ∈ events

instance (events : List Event) : Decidable (Told events) := inferInstanceAs (Decidable (_ ∈ _))

theorem dpid_step {perm : Mac} {u u' : ControllerConnection} {e : Event} (stepped : step perm u e = some u') :
    u'.dpid = if e = .ioctl true then dpidOf perm else u.dpid := by
  cases does_of_step stepped with
  | goesOn _ _ told => exact (if_neg told).symm
  | returns _ told => exact (if_neg told).symm
  | closes _ told => exact (if_neg told).symm
  | sending _ told => exact (if_neg told).symm
  | told => rfl
  | fails => simp
  | noSocket | socket | notTold | lost => rfl

theorem dpid_run {perm : Mac} {u final : ControllerConnection} {events : List Event}
    (ran : Run.run (step perm) u events = some final) :
    final.dpid = if Told events then dpidOf perm else u.dpid := by
  induction events generalizing u with
  | nil =>
    cases ran
    rfl
  | cons e rest ih =>
    obtain ⟨next,stepped,ranOn⟩ := (Run.run_cons _ _ _ _).mp ran
    rw [ih ranOn,dpid_step stepped]
    by_cases later : Told rest
    · have told : Told (e :: rest) := List.mem_cons_of_mem _ later
      rw [if_pos later,if_pos told]
    · have first : Told (e :: rest) ↔ e = .ioctl true := by
        simp only [Told,List.mem_cons] at later ⊢
        grind
      rw [if_neg later]
      by_cases isIoctl : e = .ioctl true
      · rw [if_pos isIoctl,if_pos (first.mpr isIoctl)]
      · rw [if_neg isIoctl,if_neg (fun told => isIoctl (first.mp told))]

/-- Two agents have the same `dpid` exactly if neither has been told its address, as on a
    connection that comes up at once or has not come up in time, or if their addresses are
    the same. -/
theorem dpid_shared_iff {perm perm' : Mac} {events events' : List Event} {u u' : ControllerConnection}
    (real : perm ≠ ⟨0,0,0,0,0,0⟩) (real' : perm' ≠ ⟨0,0,0,0,0,0⟩)
    (ran : Run.run (step perm) init events = some u) (ran' : Run.run (step perm') init events' = some u') :
    u.dpid = u'.dpid ↔ ¬ Told events ∧ ¬ Told events' ∨ Told events ∧ Told events' ∧ perm = perm' := by
  have notZero : ∀ {m : Mac}, m ≠ ⟨0,0,0,0,0,0⟩ → dpidOf m ≠ 0 := by
    intro m real isZero
    exact real (dpidOf_inj isZero)
  have first : u.dpid = if Told events then dpidOf perm else 0 := dpid_run ran
  have second : u'.dpid = if Told events' then dpidOf perm' else 0 := dpid_run ran'
  rw [first,second]
  by_cases told : Told events
  · by_cases told' : Told events'
    · simp only [told,told',if_true,not_true,false_and,true_and,false_or]
      exact ⟨dpidOf_inj,fun same => by rw [same]⟩
    · simpa [told,told'] using notZero real
  · by_cases told' : Told events'
    · simpa [told,told'] using (notZero real').symm
    · simp [told,told']

/-- Of two agents whose connections come up at once the controller cannot tell one from
    the other. -/
theorem atOnce_shared : ∃ u u', Run.run (step ⟨2,0,0,0,0,1⟩) init [.socket (some 3),.connect .done] = some u ∧
    Run.run (step ⟨2,0,0,0,0,2⟩) init [.socket (some 3),.connect .done] = some u' ∧ u.dpid = u'.dpid := by
  obtain ⟨u,ran⟩ : ∃ u, Run.run (step ⟨2,0,0,0,0,1⟩) init [.socket (some 3),.connect .done] = some u := ⟨_,rfl⟩
  obtain ⟨u',ran'⟩ : ∃ u', Run.run (step ⟨2,0,0,0,0,2⟩) init [.socket (some 3),.connect .done] = some u' := ⟨_,rfl⟩
  exact ⟨u,u',ran,ran',(dpid_shared_iff (by decide) (by decide) ran ran').mpr (.inl (by decide))⟩

end ControllerConnection

end Handover
