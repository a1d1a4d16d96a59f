import Handover.Network
import Handover.Wire

/-!
Connections on which the controller loses its place. A message whose class reads less
than was sent leaves bytes behind that are taken for the next header, so that from then
on messages of the access point are swallowed, or taken for others. The site knows
nothing of this; here it is added to any machine that has a site in it, and where no
such message waits on a connection that is read, the machine runs as before.
-/
namespace Handover

namespace Wire

theorem APMessage.readShort_iff (m : APMessage) : m.ReadShort ↔ m.decoded.readWhole = false := by
  cases m <;> simp [APMessage.ReadShort,APMessage.decoded,ToController.readWhole]

/-- What is read off the stream is what was sent just where each message is read whole. -/
theorem recovered_iff_readWhole (others : OtherReaders) (sent : List (UInt32 × APMessage)) :
    Recovered others sent ↔ ∀ m ∈ sent, m.2.decoded.readWhole = true := by
  constructor
  · intro recovered m member
    by_contra short
    exact not_recovered member (m.2.readShort_iff.mpr (by simpa using short)) recovered
  · intro whole
    refine recovered_of_whole others (fun m member short => ?_)
    rw [m.2.readShort_iff,whole m member] at short
    cases short

end Wire

/-- The controller takes some messages off the connection and makes nothing of them, or a
    message that was not sent. -/
def Net.misread {AP : Type} (net : Net AP) (sw : IOFSwitch) (swallowed : Nat) (read : Option ToController)
    (failing : List Nat) : Net AP :=
  let left : Net AP := { net with up := Function.update net.up sw ((net.up sw).drop swallowed) }
  match read with
  | none => left
  | some msg => left.control (.receive sw msg failing)

/-- A machine that has a site in it. `reads` is the connection whose first message an
    event hands to the controller. -/
structure Host (AP State Event : Type) where
  step : State → Event → Option State
  net : State → Net AP
  setNet : State → Net AP → State
  reads : Event → Option IOFSwitch

/-- The machine, and the connections on which the controller has lost its place. -/
structure Streams (State : Type) where
  state : State
  astray : List IOFSwitch

/-- An event of the machine, or one of a connection that is not read aright. -/
inductive StreamEvent (Event : Type) where
  | event (e : Event)
  | misread (sw : IOFSwitch) (swallowed : Nat) (read : Option ToController) (failing : List Nat)

namespace Host
variable {AP State Event : Type} (host : Host AP State Event)

/-- All that waits on the connection is read whole. -/
def Whole (s : Streams State) (sw : IOFSwitch) : Prop := ∀ msg ∈ (host.net s.state).up sw, msg.readWhole = true

instance (s : Streams State) (sw : IOFSwitch) : Decidable (host.Whole s sw) := by
  unfold Whole
  infer_instance

/-- The message that is handed to the controller is not read whole. -/
def strays (s : Streams State) (sw : IOFSwitch) : Bool := ((host.net s.state).up sw).head?.any (fun msg => !msg.readWhole)

/-- A message that is not read whole is still handed over itself, if it does not come
    with what the parser stumbles on behind it. -/
def streamStep (s : Streams State) : StreamEvent Event → Option (Streams State)
  | .event e =>
    match host.reads e with
    | none => (host.step s.state e).map (fun state => ⟨state,s.astray⟩)
    | some sw =>
      if sw ∈ s.astray then none
      else (host.step s.state e).map (fun state => ⟨state,if host.strays s sw then sw :: s.astray else s.astray⟩)
  | .misread sw swallowed read failing =>
    if (sw ∈ s.astray ∨ ¬ host.Whole s sw) ∧ sw ∉ (host.net s.state).closed then
      some ⟨host.setNet s.state ((host.net s.state).misread sw swallowed read failing),sw :: s.astray⟩
    else none

/-- Where the controller reads, no message waits that it does not read whole. -/
def Legible (s : Streams State) : StreamEvent Event → Prop
  | .event e => ∀ sw ∈ host.reads e, host.Whole s sw
  | .misread sw _ _ _ => host.Whole s sw

instance (s : Streams State) (e : StreamEvent Event) : Decidable (host.Legible s e) := by
  cases e <;> unfold Legible <;> infer_instance

omit host in
/-- The condition on the machine's own events. -/
def met (meets : State → Event → Prop) (s : Streams State) : StreamEvent Event → Prop
  | .event e => meets s.state e
  | .misread _ _ _ _ => True

instance (meets : State → Event → Prop) [∀ s e, Decidable (meets s e)] (s : Streams State) (e : StreamEvent Event) :
    Decidable (met meets s e) := by
  cases e <;> unfold met <;> infer_instance

variable {host}

/-- As long as all is legible the machine takes its own steps. -/
theorem streamStep_legible {s s' : Streams State} {e : StreamEvent Event} (legible : host.Legible s e)
    (inPlace : s.astray = []) (stepped : host.streamStep s e = some s') :
    s'.astray = [] ∧ ∃ event, e = .event event ∧ host.step s.state event = some s'.state := by
  cases e with
  | event e =>
    simp only [streamStep] at stepped
    split at stepped
    · obtain ⟨state,isNext,rfl⟩ := Option.map_eq_some_iff.mp stepped
      exact ⟨inPlace,e,rfl,isNext⟩
    · rename_i sw isRead
      rw [inPlace,if_neg List.not_mem_nil] at stepped
      obtain ⟨state,isNext,rfl⟩ := Option.map_eq_some_iff.mp stepped
      have whole : host.strays s sw = false := by
        simp only [strays,Option.any_eq_false]
        intro msg isFirst
        rw [legible sw isRead msg (List.mem_of_mem_head? isFirst)]
        rfl
      exact ⟨by rw [whole]; rfl,e,rfl,isNext⟩
  | misread sw swallowed read failing =>
    simp only [streamStep] at stepped
    split at stepped
    · rename_i exposed
      rcases exposed.1 with isAstray | short
      · rw [inPlace] at isAstray
        cases isAstray
      · exact absurd legible short
    · cases stepped

/-- What the machine preserves under a condition holds after every run that is legible
    and meets it. -/
theorem stream_preserves {meets : State → Event → Prop} {holds : State → Prop}
    (preserved : ∀ s e next, meets s e → holds s → host.step s e = some next → holds next) {start : State}
    {final : Streams State} {events : List (StreamEvent Event)}
    (ran : Run.run host.streamStep ⟨start,[]⟩ events = some final)
    (legible : Run.Steps host.streamStep host.Legible ⟨start,[]⟩ events)
    (allowed : Run.Steps host.streamStep (met meets) ⟨start,[]⟩ events) (first : holds start) : holds final.state := by
  have both : final.astray = [] ∧ holds final.state := by
    refine @Run.run_preserves _ _ _ _ (fun s : Streams State => s.astray = [] ∧ holds s.state) ?_ _ _ _
      (Run.steps_and legible allowed) ⟨rfl,first⟩ ran
    rintro s e s' ⟨isLegible,isMet⟩ ⟨inPlace,now⟩ stepped
    obtain ⟨inPlace',event,rfl,isNext⟩ := streamStep_legible isLegible inPlace stepped
    exact ⟨inPlace',preserved s.state event s'.state isMet now isNext⟩
  exact both.2

end Host

/-- The site itself. -/
def Net.host {AP : Type} [DecidableEq AP] (cfg : Config AP) : Host AP (Net AP) (Net.Event AP) where
  step := step cfg
  net := id
  setNet _ := id
  reads
    | .handle sw _ => some sw
    | _ => none

end Handover
