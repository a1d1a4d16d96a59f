import Handover.ControllerSpec
import Mathlib.Data.List.MinMax

/-!
The alternative access point that the controller keeps for a station, against the reports
that it is made of. An access point compares signal strengths as bytes from 0 to 255, the
controller compares the same bytes as numbers from -128 to 127. So the entry holds the
earliest of the strongest reports only as long as these lie on one side of 128; a handover
resets the entry to the weakest strength that the controller knows, which is 128.
-/
namespace Handover

/-- A `WLAN_REC_POW` as the controller handles it. -/
structure Report where
  ap : Mac
  rssi : UInt8
  sw : IOFSwitch
deriving DecidableEq

namespace Report

/-- The strength in the order of `process_sta_data`. -/
def strength (report : Report) : Nat := report.rssi.toNat

/-- The strength in the order of the controller. -/
def signed (report : Report) : Int := report.rssi.toInt8.toInt

theorem strength_lt (report : Report) : report.strength < 256 := report.rssi.toNat_lt

theorem signed_eq (report : Report) :
    report.signed = if report.strength < 128 then (report.strength : Int) else report.strength - 256 := by
  have := report.strength_lt
  unfold signed strength
  show report.rssi.toBitVec.toInt = _
  rw [BitVec.toInt_eq_toNat_cond,UInt8.toNat_toBitVec]
  split <;> split <;> omega

end Report

/-- What an entry says of its report. -/
def APInfo.report (best : APInfo) : Report := ⟨best.apMACAddress,best.rssi.toUInt8,best.sw⟩

/-- The reports about a station since its entry was created, or since a handover from the
    access point and the switch has reset it. -/
structure Since where
  reset : Option (Mac × IOFSwitch)
  reports : List Report
deriving DecidableEq

namespace Since

/-- One more report; the first one creates the entry. -/
def hear (since : Option Since) (report : Report) : Since :=
  match since with
  | none => ⟨none,[report]⟩
  | some since => { since with reports := since.reports ++ [report] }

/-- The reports, behind what a reset leaves in the entry. -/
def considered (since : Since) : List Report :=
  (since.reset.map (fun (ap,sw) => (⟨ap,128,sw⟩ : Report))).toList ++ since.reports

/-- All reports are on one side of 128. If that is the upper one, some must also exceed
    what a reset has left, or the first one be just that. -/
def OneSided (since : Since) : Prop :=
  (∀ report ∈ since.reports, report.strength < 128) ∨
    (∀ report ∈ since.reports, 128 ≤ report.strength) ∧
      ∀ ap sw, since.reset = some (ap,sw) →
        (∃ report ∈ since.reports, 128 < report.strength) ∨ since.reports.head? = some ⟨ap,128,sw⟩

end Since

/-- The controller, and the reports since every entry was created or reset. -/
structure Watched where
  controller : Controller
  since : Mac → Option Since

namespace Watched

def init : Watched := ⟨.init,fun _ => none⟩

/-- A handover, from `handleAPRSSI`. -/
def hands (c : Controller) (sta ap : Mac) (rssi : UInt8) : Bool :=
  (c.lookupSenderSTAAP sta ap).isSome && (c.staAPRSSIList.lookup sta).any (fun best => rssi.toInt8 < best.rssi)

def track (c : Controller) (sta : Mac) (since : Option Since) : Controller.Event → Option Since
  | .receive sw (.recPow sta' ap rssi) _ => if sta = sta' then some (.hear since ⟨ap,rssi,sw⟩) else since
  | .receive sw (.apRecPow sta' ap rssi) _ => if sta = sta' && hands c sta' ap rssi then some ⟨some (ap,sw),[]⟩ else since
  | _ => since

/-- An event; what is known of an entry goes with it. -/
def step (w : Watched) (e : Controller.Event) : Option Watched :=
  let controller := (w.controller.step e).1
  some ⟨controller,fun sta => if (controller.staAPRSSIList.lookup sta).isSome then track w.controller sta (w.since sta) e
    else none⟩

/-! ### The entry is the earliest maximum in the controller's order -/

/-- The entry is made of the reports. -/
inductive Tracks : Option APInfo → Option Since → Prop where
  | unheard : Tracks none none
  | heard {best : APInfo} {since : Since} (isBest : since.considered.argmax Report.signed = some best.report) :
    Tracks (some best) (some since)

theorem considered_hear (since : Since) (report : Report) :
    (Since.hear (some since) report).considered = since.considered ++ [report] := by
  simp [Since.hear,Since.considered]

theorem signed_report (best : APInfo) : best.report.signed = best.rssi.toInt := rfl

theorem report_strongest (previous : Option APInfo) (sw : IOFSwitch) (ap : Mac) (rssi : UInt8) (isSent : Bool) :
    ({ Controller.strongest previous sw ap rssi.toInt8 with isSent := isSent } : APInfo).report =
      match previous with
      | none => ⟨ap,rssi,sw⟩
      | some best => if best.rssi < rssi.toInt8 then ⟨ap,rssi,sw⟩ else best.report := by
  cases previous with
  | none => rfl
  | some best =>
    simp only [Controller.strongest]
    split <;> rfl

/-- A report: the comparison of the controller is that of the maximum. -/
theorem Tracks.hear {entry : Option APInfo} {since : Option Since} (tracks : Tracks entry since) (sw : IOFSwitch)
    (ap : Mac) (rssi : UInt8) (isSent : Bool) :
    Tracks (some { Controller.strongest entry sw ap rssi.toInt8 with isSent := isSent })
      (some (.hear since ⟨ap,rssi,sw⟩)) := by
  refine .heard ?_
  rw [report_strongest]
  cases tracks with
  | unheard => rfl
  | @heard best since isBest =>
    rw [considered_hear,List.argmax_concat,isBest]
    simp only [signed_report,Int8.lt_iff_toInt_lt]
    exact (apply_ite some _ _ _).symm

/-- Events that keep what the entry says, or remove it. -/
theorem Tracks.keep {entry entry' : Option APInfo} {since : Option Since} (tracks : Tracks entry since)
    (kept : ∀ best', entry' = some best' → ∃ best, entry = some best ∧ best'.report = best.report) :
    Tracks entry' (if entry'.isSome then since else none) := by
  cases entry' with
  | none => exact .unheard
  | some best' =>
    obtain ⟨best,rfl,same⟩ := kept best' rfl
    cases tracks with
    | heard isBest =>
      refine .heard ?_
      rw [same]
      exact isBest

theorem hands_iff (c : Controller) (sta ap : Mac) (rssi : UInt8) :
    hands c sta ap rssi = true ↔ ∃ staAP best, Controller.Moves c sta ap rssi staAP best := by
  simp only [hands,Bool.and_eq_true,Option.isSome_iff_exists,Option.any_eq_true,decide_eq_true_eq]
  constructor
  · rintro ⟨⟨staAP,entryIs⟩,best,bestIs,stronger⟩
    exact ⟨staAP,best,bestIs,entryIs,stronger⟩
  · rintro ⟨staAP,best,moves⟩
    exact ⟨⟨staAP,moves.entryIs⟩,best,moves.bestIs,moves.stronger⟩

section
variable {w w' : Watched} {e : Controller.Event}

theorem lookup_putBest (c : Controller) (sta : Mac) (best : APInfo) (sta' : Mac) :
    (c.putBest sta best).staAPRSSIList.lookup sta' = if sta' = sta then some best else c.staAPRSSIList.lookup sta' :=
  Map.lookup_insert_eq _ _ _ _

/-- The entry of every station is made of the reports about it. -/
def Sound (w : Watched) : Prop := ∀ sta, Tracks (w.controller.staAPRSSIList.lookup sta) (w.since sta)

theorem sound_step (sound : Sound w) (stepped : w.step e = some w') : Sound w' := by
  cases stepped
  intro sta
  have does := w.controller.does_step e
  have tracks := sound sta
  dsimp only
  generalize (w.controller.step e).1 = c' at does
  generalize (w.controller.step e).2 = writes at does
  have same : (∀ best', c'.staAPRSSIList.lookup sta = some best' →
      ∃ best, w.controller.staAPRSSIList.lookup sta = some best ∧ best'.report = best.report) →
      track w.controller sta (w.since sta) e = w.since sta →
      Tracks (c'.staAPRSSIList.lookup sta)
        (if (c'.staAPRSSIList.lookup sta).isSome then track w.controller sta (w.since sta) e else none) := by
    intro kept isSince
    rw [isSince]
    exact tracks.keep kept
  cases does with
  | ignored ignores => exact same (fun best is => ⟨best,is,rfl⟩) rfl
  | offered offers isStatus isSwitch => exact same (fun best is => ⟨best,is,rfl⟩) rfl
  | @reported sw msg failing sta' ap s change bests reports sets keeps fewer =>
    refine same (fun best is => ⟨best,fewer sta best is,rfl⟩) ?_
    cases msg <;> first | rfl | cases reports
  | @heard sw sta' ap rssi failing isSent _ asks =>
    by_cases here : sta = sta'
    · subst here
      have isEntry := lookup_putBest w.controller sta
        { Controller.strongest (w.controller.staAPRSSIList.lookup sta) sw ap rssi.toInt8 with isSent := isSent } sta
      rw [if_pos rfl] at isEntry
      rw [isEntry]
      simp only [track,if_true,Option.isSome_some]
      exact tracks.hear sw ap rssi isSent
    · refine same (fun best is => ⟨best,?_,rfl⟩) (if_neg here)
      rwa [lookup_putBest,if_neg here] at is
  | @moved sw sta' ap rssi failing staAP best moves =>
    have isHand := (hands_iff w.controller sta' ap rssi).mpr ⟨staAP,best,moves⟩
    by_cases here : sta = sta'
    · subst here
      rw [show (w.controller.handoverTables sw sta ap staAP best).staAPRSSIList.lookup sta = some ⟨ap,-128,false,sw⟩ from
        AList.lookup_insert _]
      simp only [track,isHand,decide_true,Bool.and_self,if_true,Option.isSome_some]
      exact .heard rfl
    · refine same (fun best is => ⟨best,?_,rfl⟩) ?_
      · rwa [show (w.controller.handoverTables sw sta' ap staAP _).staAPRSSIList.lookup sta = _ from
          AList.lookup_insert_ne here] at is
      · simp [track,here]
  | @stayed sw sta' ap rssi failing stays =>
    have noHand : hands w.controller sta' ap rssi = false := by
      rw [Bool.eq_false_iff,Ne,hands_iff]
      exact stays
    refine same (fun best is => ?_) ?_
    · obtain ⟨old,isOld,isBest⟩ := Controller.best_clearSent is
      rw [isBest]
      exact ⟨old,isOld,rfl⟩
    · simp [track,noHand]
  | updated => exact same (fun best is => ⟨best,is,rfl⟩) rfl
  | told found => exact same (fun best is => ⟨best,is,rfl⟩) rfl
  | recorded fresh => exact same (fun best is => ⟨best,is,rfl⟩) rfl
  | announced => exact same (fun best is => ⟨best,is,rfl⟩) rfl
  | removed =>
    refine same (fun best is => ⟨best,?_,rfl⟩) rfl
    simp only [Controller.removedSwitch] at is
    split at is
    · exact is
    · simp only [Map.lookup_keep,Option.filter_eq_some_iff] at is
      exact is.1
  | rehashed =>
    refine same (fun best is => ⟨best,?_,rfl⟩) rfl
    simp only [Controller.rehash] at is
    split at is <;> exact is

theorem sound_run {events : List Controller.Event} (ran : Run.run step init events = some w) : Sound w := by
  refine Run.run_invariant (fun _ _ _ sound stepped => sound_step sound stepped) ?_ ran
  exact fun sta => .unheard

end

/-! ### The two orders -/

section
variable {reports : List Report}

/-- Orders that compare the members of a list alike have the same earliest maximum. -/
theorem argmax_congr {α : Type} {β γ : Type} [LinearOrder β] [LinearOrder γ] {f : α → β} {g : α → γ} {l : List α}
    (alike : ∀ a ∈ l, ∀ b ∈ l, f a < f b ↔ g a < g b) : l.argmax f = l.argmax g := by
  induction l using List.reverseRecOn with
  | nil => rfl
  | append_singleton l a ih =>
    have same := ih (fun a first b second => alike a (List.mem_append_left _ first) b (List.mem_append_left _ second))
    rw [List.argmax_concat,List.argmax_concat,same]
    cases isMax : l.argmax g with
    | none => rfl
    | some c =>
      have member : c ∈ l ++ [a] := List.mem_append_left _ (List.argmax_mem isMax)
      simp only [alike c member a (by simp)]

/-- The orders have the same maximum exactly if all reports are on one side of 128. -/
theorem argmax_strength_iff :
    reports.argmax Report.strength = reports.argmax Report.signed ↔
      (∀ report ∈ reports, report.strength < 128) ∨ ∀ report ∈ reports, 128 ≤ report.strength := by
  constructor
  · intro same
    by_contra mixed
    push Not at mixed
    obtain ⟨⟨high,isHigh,above⟩,low,isLow,below⟩ := mixed
    cases isMax : reports.argmax Report.signed with
    | none =>
      rw [List.argmax_eq_none.mp isMax] at isHigh
      cases isHigh
    | some report =>
      have strong := List.le_of_mem_argmax isHigh (same.trans isMax)
      have weak := List.le_of_mem_argmax isLow isMax
      have := report.strength_lt
      rw [Report.signed_eq,Report.signed_eq] at weak
      split_ifs at weak <;> omega
  · intro oneSided
    refine argmax_congr (fun a first b second => ?_)
    rw [Report.signed_eq,Report.signed_eq]
    rcases oneSided with below | above
    · rw [if_pos (below a first),if_pos (below b second)]
      omega
    · rw [if_neg (by have := above a first; omega),if_neg (by have := above b second; omega)]
      omega

/-- Behind a reset: what it has left stays unless a report is stronger for the controller,
    and only reports of just that strength are not. -/
theorem argmax_reset {ap : Mac} {sw : IOFSwitch} {report : Report} (isMax : reports.argmax Report.signed = some report) :
    (⟨ap,128,sw⟩ :: reports : List Report).argmax Report.signed =
      if 128 = report.strength then some ⟨ap,128,sw⟩ else some report := by
  have lowest : (⟨ap,128,sw⟩ : Report).signed = -128 := rfl
  have := report.strength_lt
  rw [List.argmax_cons,isMax]
  dsimp only
  rw [lowest,Report.signed_eq]
  split_ifs <;> first | rfl | omega

theorem argmax_of_equal {n : Nat} (equal : ∀ report ∈ reports, report.strength = n) :
    reports.argmax Report.strength = reports.head? := by
  cases reports with
  | nil => rfl
  | cons report rest =>
    rw [List.argmax_cons]
    cases isMax : rest.argmax Report.strength with
    | none => rfl
    | some other =>
      have same := equal other (List.mem_cons_of_mem report (List.argmax_mem isMax))
      have first := equal report List.mem_cons_self
      dsimp only
      rw [if_neg (by omega)]
      rfl

theorem oneSided_created : (⟨none,reports⟩ : Since).OneSided ↔
    (∀ report ∈ reports, report.strength < 128) ∨ ∀ report ∈ reports, 128 ≤ report.strength := by
  simp [Since.OneSided]

/-- Where the reset was not the strongest for the controller, the side is all that counts. -/
theorem oneSided_reset_other {ap : Mac} {sw : IOFSwitch} {report : Report} (member : report ∈ reports)
    (stronger : 128 ≠ report.strength) : (⟨some (ap,sw),reports⟩ : Since).OneSided ↔
      (∀ report ∈ reports, report.strength < 128) ∨ ∀ report ∈ reports, 128 ≤ report.strength := by
  refine or_congr_right ⟨fun both => both.1,fun above => ⟨above,fun _ _ _ => .inl ⟨report,member,?_⟩⟩⟩
  have := above report member
  omega

/-- Where it was, all reports have its strength, and the first must be the same. -/
theorem oneSided_reset_same {ap : Mac} {sw : IOFSwitch} (nonempty : reports ≠ [])
    (equal : ∀ report ∈ reports, report.strength = 128) :
    (⟨some (ap,sw),reports⟩ : Since).OneSided ↔ reports.head? = some ⟨ap,128,sw⟩ := by
  obtain ⟨report,member⟩ := List.exists_mem_of_ne_nil reports nonempty
  have here := equal report member
  constructor
  · rintro (below | ⟨_,reset⟩)
    · have := below report member
      omega
    · rcases reset ap sw rfl with ⟨other,member',above⟩ | same
      · have := equal other member'
        omega
      · exact same
  · intro same
    refine .inr ⟨fun other member' => (equal other member').ge,fun ap' sw' isReset => .inr ?_⟩
    cases isReset
    exact same

/-- The earliest maximum for the controller is that for the access points. -/
theorem argmax_considered_iff {since : Since} {best : Report} (nonempty : since.reports ≠ [])
    (isBest : since.considered.argmax Report.signed = some best) :
    since.reports.argmax Report.strength = some best ↔ since.OneSided := by
  obtain ⟨reset,reports⟩ := since
  cases reset with
  | none =>
    rw [oneSided_created,← argmax_strength_iff]
    exact ⟨fun same => same.trans isBest.symm,fun same => same.trans isBest⟩
  | some pair =>
    obtain ⟨ap,sw⟩ := pair
    cases isMax : reports.argmax Report.signed with
    | none => exact absurd (List.argmax_eq_none.mp isMax) nonempty
    | some report =>
      have isBest : (⟨ap,128,sw⟩ :: reports : List Report).argmax Report.signed = some best := isBest
      rw [argmax_reset isMax] at isBest
      split at isBest
      · rename_i weakest
        have equal : ∀ other ∈ reports, other.strength = 128 := by
          intro other member
          have weaker := List.le_of_mem_argmax member isMax
          have := other.strength_lt
          rw [Report.signed_eq,Report.signed_eq] at weaker
          split_ifs at weaker <;> omega
        cases isBest
        rw [oneSided_reset_same nonempty equal,argmax_of_equal equal]
      · rename_i stronger
        rw [oneSided_reset_other (List.argmax_mem isMax) stronger,← argmax_strength_iff,isMax,isBest]

end

/-- The entry of a station holds the earliest of the strongest reports, in the order of the
    access points, exactly if the reports are on one side of 128. -/
theorem strongest_iff {events : List Controller.Event} {w : Watched} (ran : Run.run step init events = some w) {sta : Mac}
    {best : APInfo} (entry : w.controller.staAPRSSIList.lookup sta = some best) :
    ∃ since, w.since sta = some since ∧ (since.reports ≠ [] →
      (since.reports.argmax Report.strength = some best.report ↔ since.OneSided)) := by
  have tracks := sound_run ran sta
  rw [entry] at tracks
  generalize w.since sta = known at tracks
  cases tracks with
  | @heard _ since isBest => exact ⟨since,rfl,fun nonempty => argmax_considered_iff nonempty isBest⟩

/-- A station that two access points hear. -/
def guest : Mac := ⟨2,0,0,0,0,9⟩

def firstHears (rssi : UInt8) : Report := ⟨⟨2,0,0,0,1,1⟩,rssi,⟨1,⟨10,0,0,1⟩⟩⟩

def secondHears (rssi : UInt8) : Report := ⟨⟨2,0,0,0,1,2⟩,rssi,⟨2,⟨10,0,0,2⟩⟩⟩

def heardTwice (first second : Report) : List Controller.Event :=
  [.receive first.sw (.recPow guest first.ap first.rssi) [],.receive second.sw (.recPow guest second.ap second.rssi) []]

theorem louder_kept : ∃ w best, Run.run step init (heardTwice (firstHears 100) (secondHears 110)) = some w ∧
    w.controller.staAPRSSIList.lookup guest = some best ∧ ∃ since, w.since guest = some since ∧
      since.reports.argmax Report.strength = some best.report := by
  have computed : ∃ w, Run.run step init (heardTwice (firstHears 100) (secondHears 110)) = some w ∧
      w.controller.staAPRSSIList.lookup guest = some ⟨(secondHears 110).ap,110,false,(secondHears 110).sw⟩ ∧
      w.since guest = some ⟨none,[firstHears 100,secondHears 110]⟩ := Run.exists_run (by decide +kernel)
  obtain ⟨w,ran,entry,isSince⟩ := computed
  obtain ⟨since,known,exactly⟩ := strongest_iff ran entry
  cases isSince.symm.trans known
  refine ⟨w,_,ran,entry,_,isSince,(exactly (by simp)).mpr (.inl ?_)⟩
  decide

theorem louder_dropped : ∃ w, Run.run step init (heardTwice (firstHears 100) (secondHears 200)) = some w ∧
    w.since guest = some ⟨none,[firstHears 100,secondHears 200]⟩ ∧
    (w.controller.staAPRSSIList.lookup guest).map APInfo.report = some (firstHears 100) ∧
    [firstHears 100,secondHears 200].argmax Report.strength = some (secondHears 200) :=
  Run.exists_run (by decide +kernel)

end Watched
end Handover
