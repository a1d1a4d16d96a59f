import Handover.Links

/-!
Where a station is associated. The handlers of association and of handover look
at one entry or two, and `findSTAAPInfo` takes the first associated entry that it
meets; here is when there is one at most, and when a handover starts from an
entry that is associated.
-/
namespace Handover
namespace Controller

/-- No station is associated at two access points. -/
def Unique (c : Controller) : Prop :=
  ∀ sta ap ap', c.status sta ap = some .associated → c.status sta ap' = some .associated → ap = ap'

/-- The event associates a station only while it is associated nowhere else, the
    access point that a handover takes it from aside. -/
def Exclusive (c : Controller) : Event → Prop
  | .receive _ (.assocReq sta ap _) _ =>
    c.status sta ap ≠ none → ∀ other, c.status sta other = some .associated → other = ap
  | .receive _ (.reassocReq sta ap) _ =>
    c.status sta ap ≠ none → ∀ other, c.status sta other = some .associated → other = ap
  | .receive _ (.apRecPow sta ap rssi) _ =>
    ∀ staAP best, Moves c sta ap rssi staAP best →
      ∀ other, c.status sta other = some .associated → other = ap ∨ other = best.apMACAddress
  | _ => True

theorem unique_init : Controller.init.Unique := by
  intro sta ap ap' one
  simp [status,lookupSenderSTAAP,Controller.init] at one

theorem Unique.mono {c c' : Controller} (unique : c.Unique)
    (fewer : ∀ sta ap, c'.status sta ap = some .associated → c.status sta ap = some .associated) : c'.Unique :=
  fun sta ap ap' one two => unique sta ap ap' (fewer sta ap one) (fewer sta ap' two)

/-- A station is associated at an access point, and no longer at those that it
    leaves: it is then at one only if it was at no other. -/
theorem unique_add_iff {c c' : Controller} (unique : c.Unique) {sta ap : Mac} {leaves : Mac → Prop}
    (adds : ∀ sta' ap', c'.status sta' ap' = some .associated ↔
      sta' = sta ∧ ap' = ap ∨ c.status sta' ap' = some .associated ∧ ¬ (sta' = sta ∧ leaves ap')) :
    c'.Unique ↔ ∀ other, c.status sta other = some .associated → leaves other ∨ other = ap := by
  constructor
  · intro unique' other isOther
    by_cases left : leaves other
    · exact .inl left
    · exact .inr (unique' sta other ap ((adds sta other).mpr (.inr ⟨isOther,fun both => left both.2⟩))
        ((adds sta ap).mpr (.inl ⟨rfl,rfl⟩)))
  · intro elsewhere
    have only : ∀ ap', c'.status sta ap' = some .associated → ap' = ap := by
      intro ap' isStatus
      rcases (adds sta ap').mp isStatus with ⟨_,same⟩ | ⟨before,stays⟩
      · exact same
      · exact (elsewhere ap' before).resolve_left (fun left => stays ⟨rfl,left⟩)
    intro sta' one two isOne isTwo
    by_cases same : sta' = sta
    · subst same
      rw [only one isOne,only two isTwo]
    · refine unique sta' one two ?_ ?_
      · exact (((adds sta' one).mp isOne).resolve_left (fun both => same both.1)).1
      · exact (((adds sta' two).mp isTwo).resolve_left (fun both => same both.1)).1

/-- One event keeps associations unique exactly when it is exclusive. -/
theorem unique_step_iff {c : Controller} (unique : c.Unique) (e : Event) : (c.step e).1.Unique ↔ c.Exclusive e := by
  have does := c.does_step e
  generalize (c.step e).1 = c', (c.step e).2 = writes at does
  have kept : ∀ {c' : Controller}, (∀ sta ap, c'.status sta ap = c.status sta ap) → (c'.Unique ↔ True) :=
    fun same => iff_true_intro (unique.mono (fun sta ap isStatus => same sta ap ▸ isStatus))
  cases does with
  | ignored ignores => exact kept (fun _ _ => rfl)
  | offered offers isStatus isSwitch =>
    refine iff_true_intro (unique.mono (fun sta ap associated => ?_))
    rw [status_putEntry,isStatus] at associated
    split at associated
    · cases associated
    · exact associated
  | @reported sw msg failing sta ap s change bests reports sets keeps fewer =>
    have after : ∀ sta' ap', Controller.status
        { c.changeEntry sta ap change with staAPRSSIList := bests } sta' ap' =
        if sta' = sta ∧ ap' = ap then (c.status sta ap).map (fun _ => s) else c.status sta' ap' :=
      fun sta' ap' => status_changeEntry c sta ap sets sta' ap'
    by_cases associates : s = .associated
    · subst associates
      have exclusive : c.Exclusive (.receive sw msg failing) ↔
          (c.status sta ap ≠ none → ∀ other, c.status sta other = some .associated → other = ap) := by
        cases msg <;> cases reports <;> exact Iff.rfl
      rw [exclusive]
      by_cases known : c.status sta ap = none
      · refine iff_of_true (unique.mono (fun sta' ap' associated => ?_)) (fun isKnown => absurd known isKnown)
        rw [after] at associated
        split at associated
        · simp [known] at associated
        · exact associated
      · obtain ⟨before,isBefore⟩ := Option.ne_none_iff_exists'.mp known
        refine (@unique_add_iff _ _ unique sta ap (fun _ => False) (fun sta' ap' => ?_)).trans ?_
        · rw [after,isBefore]
          by_cases same : sta' = sta ∧ ap' = ap
          · simp [same]
          · simp [same]
        · simp only [false_or,ne_eq,known,not_false_eq_true,true_implies]
    · have exclusive : c.Exclusive (.receive sw msg failing) ↔ True := by
        cases msg <;> cases reports <;> first | exact Iff.rfl | exact absurd rfl associates
      refine (iff_true_intro (unique.mono (fun sta' ap' associated => ?_))).trans exclusive.symm
      rw [after] at associated
      split at associated
      · obtain ⟨_,_,same⟩ := Option.map_eq_some_iff.mp associated
        exact absurd same associates
      · exact associated
  | heard asks => exact kept (fun _ _ => rfl)
  | @moved sw sta ap rssi failing staAP best moves =>
    refine (@unique_add_iff _ _ unique sta best.apMACAddress (· = ap) (fun sta' ap' => ?_)).trans ?_
    · rw [status_handoverTables]
      by_cases new : sta' = sta ∧ ap' = best.apMACAddress
      · simp [new]
      · by_cases old : sta' = sta ∧ ap' = ap
        · simp [old]
        · simp [new,old]
    · constructor
      · intro elsewhere staAP' best' moves'
        rw [← (moves_unique moves moves').2]
        exact elsewhere
      · exact fun exclusive => exclusive staAP best moves
  | stayed stays =>
    refine (kept (fun sta ap => status_clearSent c _ sta ap)).trans (iff_of_true trivial ?_)
    exact fun staAP best moves => absurd ⟨staAP,best,moves⟩ stays
  | updated => exact kept (fun _ _ => rfl)
  | told found => exact kept (fun _ _ => rfl)
  | recorded fresh => exact kept (fun _ _ => rfl)
  | announced => exact kept (fun _ _ => rfl)
  | removed => exact iff_true_intro (unique.mono (fun _ _ => status_removedSwitch))
  | rehashed => exact kept (fun sta ap => status_rehash c _ sta ap)

end Controller

namespace Net
open Controller
variable {AP : Type} [DecidableEq AP]

/-- What the controller handles in this step is exclusive. -/
def Excludes (net : Net AP) (e : Event AP) : Prop := ∀ given, net.controlled e = some given → net.controller.Exclusive given

/-- Along a run of the site no station is ever associated twice exactly if every
    message that associates it is handled while it is associated nowhere else. -/
theorem one_association_iff {cfg : Config AP} {events : List (Event AP)} {final : Net AP}
    (ran : Run.run (step cfg) (init cfg) events = some final) :
    Run.Always (step cfg) (fun net => net.controller.Unique) (init cfg) events ↔
      Run.Steps (step cfg) Excludes (init cfg) events := by
  refine Run.always_iff_steps (fun net e net' unique stepped => ?_) unique_init ran
  rcases step_controller stepped with ⟨given,isGiven,isNext⟩ | ⟨noGiven,isNext⟩
  · rw [isNext,unique_step_iff unique]
    exact ⟨fun exclusive given' isGiven' => Option.some.inj (isGiven.symm.trans isGiven') ▸ exclusive,
      fun excludes => excludes given isGiven⟩
  · rw [isNext]
    exact iff_of_true unique (fun given isGiven => nomatch noGiven.symm.trans isGiven)

/-- The visitor authenticates at the left access point, then at the right one,
    and associates at both. -/
def associateTwice : List (Event Site) :=
  bothConnect ++ probeAt .left ++ authAt .left ++ probeAt .right ++ authAt .right ++ assocAt .right ++ assocAt .left

/-- Authentication at an access point is no reason to refuse a probe elsewhere, and
    association looks at no other entry. -/
theorem visitor_associated_twice : ∃ final, Run.run (step site) (init site) associateTwice = some final ∧
    final.controller.status visitor (site.ap .left).mac = some .associated ∧
      final.controller.status visitor (site.ap .right).mac = some .associated :=
  Run.exists_run (by decide +kernel)

/-- Some message of that run is not handled exclusively. -/
theorem associateTwice_not_exclusive : ∃ final, Run.run (step site) (init site) associateTwice = some final ∧
    ¬ Run.Steps (step site) Excludes (init site) associateTwice := by
  obtain ⟨final,ran,left,right⟩ : ∃ final, Run.run (step site) (init site) associateTwice = some final ∧
      final.controller.status visitor (site.ap .left).mac = some .associated ∧
        final.controller.status visitor (site.ap .right).mac = some .associated := Run.exists_run (by decide +kernel)
  refine ⟨final,ran,fun excludes => ?_⟩
  have unique := Run.always_final ((one_association_iff ran).mpr excludes) ran
  exact absurd (unique visitor _ _ left right) (by decide)

end Net
end Handover
