import Handover.Exchange

/-!
Where a handover goes. The alternative that is recorded for a station is not compared
with the access point that answers for it, and can be that access point: one that
heard the station before it admitted it, or whose report came late. Handovers change
the access point where no strength is recorded of an access point at which the station
is associated, no station is associated at its recorded alternative, and answers come
in time.
-/
namespace Handover
namespace Controller

/-- No station is associated at its recorded alternative. -/
def Apart (c : Controller) : Prop :=
  ∀ sta best, c.staAPRSSIList.lookup sta = some best → c.status sta best.apMACAddress ≠ some .associated

/-- Strengths are recorded of access points where the station is not associated, and
    it is associated at others than the recorded one. -/
def KeepsApart (c : Controller) : Event → Prop
  | .receive _ (.recPow sta ap _) _ => c.status sta ap ≠ some .associated
  | .receive _ (.assocReq sta ap _) _ => ∀ best, c.staAPRSSIList.lookup sta = some best → best.apMACAddress ≠ ap
  | .receive _ (.reassocReq sta ap) _ => ∀ best, c.staAPRSSIList.lookup sta = some best → best.apMACAddress ≠ ap
  | _ => True

/-- The station is associated where a handover is reported from. -/
def FromAssociated (c : Controller) (e : Event) : Prop :=
  ∀ sw sta ap rssi failing staAP best, e = .receive sw (.apRecPow sta ap rssi) failing →
    Moves c sta ap rssi staAP best → c.status sta ap = some .associated

theorem Apart.moves {c : Controller} (apart : Apart c) {sta ap : Mac} {rssi : UInt8} {staAP : STAAPInfo} {best : APInfo}
    (moves : Moves c sta ap rssi staAP best) (associated : c.status sta ap = some .associated) :
    best.apMACAddress ≠ ap := by
  rintro rfl
  exact apart sta best moves.bestIs associated

theorem Apart.step {c : Controller} (apart : Apart c) {e : Event} (keeps : KeepsApart c e) (timely : FromAssociated c e) :
    Apart (c.step e).1 := by
  have does := c.does_step e
  generalize (c.step e).1 = c', (c.step e).2 = writes at does
  intro sta best found associated
  cases does with
  | offered offers isStatus isSwitch =>
    rw [status_putEntry,isStatus] at associated
    split at associated
    · cases associated
    · exact apart sta best found associated
  | @reported sw msg failing sta' ap' s change bests reports sets holds fewer =>
    have isBest := fewer sta best found
    have associated : (c.changeEntry sta' ap' change).status sta best.apMACAddress = some .associated := associated
    rw [status_changeEntry c sta' ap' sets] at associated
    split at associated
    · rename_i here
      obtain ⟨rfl,isHere⟩ := here
      obtain ⟨_,_,rfl⟩ := Option.map_eq_some_iff.mp associated
      -- the two messages that report an association
      cases msg <;> cases reports
      · exact keeps best isBest isHere
      · exact keeps best isBest isHere
    · exact apart sta best isBest associated
  | @heard sw sta' ap' rssi failing isSent writes asks =>
    have associated : c.status sta best.apMACAddress = some .associated := associated
    rcases (Does.heard asks).sw_best found with ⟨old,isOld,sameAP,_⟩ | ⟨rssi',failing',isEvent | isEvent⟩
    · exact apart sta old isOld (sameAP ▸ associated)
    · cases isEvent
      exact keeps associated
    · cases isEvent
  | @moved sw sta' ap' rssi failing staAP best' moves =>
    have different := apart.moves moves (timely _ _ _ _ _ _ _ rfl moves)
    simp only [handoverTables,Map.lookup_insert_eq] at found
    rw [status_handoverTables] at associated
    split at found
    · rename_i same
      subst same
      cases found
      rw [if_neg (fun new => different new.2.symm),if_pos ⟨rfl,rfl⟩] at associated
      cases associated
    · rename_i other
      rw [if_neg (fun new => other new.1),if_neg (fun old => other old.1)] at associated
      exact apart sta best found associated
  | stayed stays =>
    rw [status_clearSent] at associated
    obtain ⟨old,isOld,same⟩ := best_clearSent found
    rw [same] at associated
    exact apart sta old isOld associated
  | removed =>
    rcases Does.removed.sw_best found with ⟨old,isOld,sameAP,_⟩ | ⟨rssi',failing',isEvent | isEvent⟩
    · exact apart sta old isOld (sameAP ▸ status_removedSwitch associated)
    · cases isEvent
    · cases isEvent
  | rehashed =>
    rw [status_rehash] at associated
    rcases Does.rehashed.sw_best found with ⟨old,isOld,sameAP,_⟩ | ⟨rssi',failing',isEvent | isEvent⟩
    · exact apart sta old isOld (sameAP ▸ associated)
    · cases isEvent
    · cases isEvent
  | _ => exact apart sta best found associated

end Controller

namespace Net
open Controller
variable {AP : Type}

variable [DecidableEq AP]

end Net
end Handover
