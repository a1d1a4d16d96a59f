import Handover.FailedWrites
import Handover.Framing

/-!
The rates that a handover message is encoded with. Only an association request brings
them; a reassociation request sets `ASSOCIATED` without them, and a handover copies what
the reporting access point's entry has, whatever its status. So the associated entries
have rates exactly as long as no entry without them is reassociated or handed over, and
only then can `WLAN_UPDATE_STA_ADD` be written, in the 72 bytes that it announces.
-/
namespace Handover

/-- An associated entry has its rates. -/
def STAAPInfo.Rated (entry : STAAPInfo) : Prop := entry.status = .associated → entry.supportedRates.isSome = true

namespace Controller

def Rated (c : Controller) : Prop := ∀ sta ap entry, c.lookupSenderSTAAP sta ap = some entry → entry.Rated

/-- The entry that is reassociated, or handed over, has its rates. -/
def KeepsRates (c : Controller) : Event → Prop
  | .receive _ (.reassocReq sta ap) _ =>
    ∀ entry, c.lookupSenderSTAAP sta ap = some entry → entry.supportedRates.isSome = true
  | .receive _ (.apRecPow sta ap rssi) _ =>
    ∀ entry best, Moves c sta ap rssi entry best → entry.supportedRates.isSome = true
  | _ => True

theorem rated_init : Rated init := by
  intro sta ap entry found
  cases found

section
variable {c : Controller} (rated : Rated c)
include rated

theorem Rated.congr {c' : Controller} (same : ∀ sta ap, c'.lookupSenderSTAAP sta ap = c.lookupSenderSTAAP sta ap) :
    Rated c' := by
  intro sta ap entry found
  exact rated sta ap entry (same sta ap ▸ found)

theorem Rated.putEntry (sta ap : Mac) {entry : STAAPInfo} (isRated : entry.Rated) : Rated (c.putEntry sta ap entry) := by
  intro sta' ap' entry' found
  rw [lookup_putEntry] at found
  split at found
  · cases found
    exact isRated
  · exact rated sta' ap' entry' found

/-- A handler that changes one entry. -/
theorem Rated.changeEntry_iff (sta ap : Mac) (change : STAAPInfo → STAAPInfo) :
    Rated (c.changeEntry sta ap change) ↔ ∀ entry, c.lookupSenderSTAAP sta ap = some entry → (change entry).Rated := by
  constructor
  · intro isRated entry found
    refine isRated sta ap (change entry) ?_
    rw [lookup_changeEntry,if_pos ⟨rfl,rfl⟩,found]
    rfl
  · intro isRated
    unfold changeEntry
    split
    · exact rated
    · rename_i entry found
      exact rated.putEntry sta ap (isRated entry found)

/-- A handover hands the rates of the reporting entry on. -/
theorem Rated.handoverTables_iff (sw : IOFSwitch) (sta ap : Mac) (staAP : STAAPInfo) (best : APInfo) :
    Rated (c.handoverTables sw sta ap staAP best) ↔ staAP.supportedRates.isSome = true := by
  constructor
  · intro isRated
    refine isRated sta best.apMACAddress (c.handoverEntry sta staAP best) ?_ rfl
    rw [lookup_handoverTables,if_pos ⟨rfl,rfl⟩]
  · intro hasRates sta' ap' entry found
    rw [lookup_handoverTables] at found
    split at found
    · cases found
      exact fun _ => hasRates
    · split at found
      · cases found
        rintro ⟨⟩
      · exact rated sta' ap' entry found

theorem Rated.removedSwitch (sw : IOFSwitch) : Rated (c.removedSwitch sw) := by
  unfold Controller.removedSwitch
  split
  · exact rated
  · intro sta ap entry found
    simp only [lookupSenderSTAAP,Map.lookup_keep,Option.filter_eq_some_iff] at found
    exact rated sta ap entry found.1

/-- An event keeps the rates exactly if it meets the condition. -/
theorem Rated.step_iff (e : Event) : Rated (c.step e).1 ↔ KeepsRates c e := by
  cases e with
  | removedSwitch sw => exact iff_of_true (rated.removedSwitch sw) trivial
  | rehash order => exact iff_of_true (rated.congr (c.lookup_rehash order)) trivial
  | receive sw msg failing =>
    cases msg with
    | probe sta ap =>
      refine iff_of_true ?_ trivial
      by_cases offers : Offers c sta ap
      · obtain ⟨entry,isStatus,_,same⟩ := handleProbeReq_offers offers sw failing
        simp only [step,receive,same]
        exact rated.putEntry sta ap (fun associated => by cases isStatus.symm.trans associated)
      · simp only [step,receive,handleProbeReq_ignores offers]
        exact rated
    | authReq sta ap authAlg => exact iff_of_true ((rated.changeEntry_iff sta ap _).mpr (fun _ _ => by rintro ⟨⟩)) trivial
    | assocReq sta ap association => exact iff_of_true ((rated.changeEntry_iff sta ap _).mpr (fun _ _ _ => rfl)) trivial
    | reassocReq sta ap =>
      refine (rated.changeEntry_iff sta ap _).trans (forall_congr' (fun entry => forall_congr' (fun _ => ?_)))
      exact ⟨fun isRated => isRated rfl,fun hasRates _ => hasRates⟩
    | deauthReq sta ap => exact iff_of_true ((rated.changeEntry_iff sta ap _).mpr (fun _ _ => by rintro ⟨⟩)) trivial
    | disassocReq sta ap =>
      refine iff_of_true ?_ trivial
      simp only [step,receive,handleDisassocReq_eq]
      exact Rated.congr ((rated.changeEntry_iff sta ap _).mpr (fun _ _ => by rintro ⟨⟩)) (fun _ _ => rfl)
    | recPow sta ap rssi =>
      refine iff_of_true (rated.congr (fun _ _ => ?_)) trivial
      simp only [step,receive,handleLastRSSI]
      split
      · rfl
      · split <;> rfl
    | apRecPow sta ap rssi =>
      by_cases moves : ∃ staAP best, Moves c sta ap rssi staAP best
      · obtain ⟨staAP,best,moves⟩ := moves
        simp only [step,receive,handleAPRSSI_moves moves]
        refine (rated.handoverTables_iff sw sta ap staAP best).trans ⟨fun hasRates entry best' moves' => ?_,fun keeps => keeps staAP best moves⟩
        rw [(moves_unique moves' moves).1]
        exact hasRates
      · simp only [step,receive,handleAPRSSI_stays moves]
        exact iff_of_true (rated.congr (fun sta' ap' => lookup_clearSent c sta sta' ap'))
          (fun entry best isMove => absurd ⟨entry,best,isMove⟩ moves)
    | natUpdate sta tuple => exact iff_of_true (rated.congr (fun _ _ => rfl)) trivial
    | portTranslation sta tuple =>
      refine iff_of_true (rated.congr (fun _ _ => ?_)) trivial
      simp only [step,receive,handlePortTranslation]
      split <;> rfl
    | gwConnect => exact iff_of_true (rated.congr (fun _ _ => rfl)) trivial

end

/-- The associated entries have their rates along a run exactly if every event of it meets
    the condition; and the message of a handover can be written exactly if the reporting
    entry has them, and then has the 72 bytes that it announces. -/
theorem handover_rates_iff {events : List Event} {final : Controller} (ran : Run.run next init events = some final) :
    (Run.Always next Rated init events ↔ Run.Steps next KeepsRates init events) ∧
    ∀ sta ap rssi staAP best, Moves final sta ap rssi staAP best →
      ∀ sw failing, ∀ w ∈ final.handoverWrites sw sta staAP best failing, ∀ update, w.msg = .updateSTAAdd sta update →
      ∀ xid, ((Wire.writeTo xid w.msg).isSome = true ↔ staAP.supportedRates.isSome = true) ∧
        ∀ bytes, Wire.writeTo xid w.msg = some bytes → bytes.length = 72 ∧ Wire.announced bytes = 72 := by
  refine ⟨Run.always_iff_steps (fun c e c' rated stepped => ?_) rated_init ran,?_⟩
  · cases stepped
    exact rated.step_iff e
  · intro sta ap rssi staAP best moves sw failing w member update isUpdate xid
    have isOf : update = updateOf staAP := by
      rw [handoverWrites_eq] at member
      rcases List.mem_append.mp member with flow | rest
      · obtain ⟨_,_,rfl⟩ := List.mem_map.mp flow
        cases isUpdate
      · rcases List.mem_cons.mp rest with rfl | rest
        · cases isUpdate
        · split at rest
          · cases rest
          · rcases List.mem_cons.mp rest with rfl | gateway
            · cases isUpdate
              rfl
            · split at gateway
              · cases gateway
              · obtain ⟨_,_,rfl⟩ := List.mem_map.mp gateway
                cases isUpdate
    subst isOf
    rw [isUpdate,Wire.isSome_writeTo]
    refine ⟨Iff.rfl,fun bytes written => ?_⟩
    have size := Wire.length_writeTo written
    rw [Wire.toNat_lengthU] at size
    exact ⟨size,(Wire.framed_writeTo written).1.announced.trans size⟩

open Gateway (heard heardElsewhere oldSwitch newSwitch walker oldMac newMac)

theorem heard_rated : Run.Always next Rated init (heardElsewhere 5000 80) ∧ (heard 5000 80).status walker oldMac = some .associated := by
  refine ⟨(handover_rates_iff (run_next init _)).1.mpr ?_,by decide⟩
  unfold heardElsewhere
  repeat refine ⟨trivial,fun _ _ => ?_⟩
  trivial

/-- A station's first association at an access point is a reassociation, and it is heard
    at another one. -/
def reassociated : List Event :=
  [.receive oldSwitch (.probe walker oldMac) [],.receive oldSwitch (.authReq walker oldMac 0) [],
    .receive oldSwitch (.reassocReq walker oldMac) [],.receive newSwitch (.recPow walker newMac 100) []]

/-- The old access point is told to remove it, and the new one cannot be told. -/
theorem reassociated_not_encodable : ∃ c, Run.run next init reassociated = some c ∧
    c.status walker oldMac = some .associated ∧ ¬ Rated c ∧
    ⟨oldSwitch,.removeSTA walker⟩ ∈ (c.handleAPRSSI oldSwitch walker oldMac 50 []).2 ∧
    ∃ update, ⟨newSwitch,.updateSTAAdd walker update⟩ ∈ (c.handleAPRSSI oldSwitch walker oldMac 50 []).2 ∧
      Wire.writeTo 0 (.updateSTAAdd walker update) = none := by
  refine ⟨_,run_next init reassociated,by decide,fun rated => ?_,by decide,⟨0,0,0,0,none,0,0⟩,by decide,by decide⟩
  exact absurd (rated walker oldMac _ rfl rfl) (by decide)

end Controller
end Handover
