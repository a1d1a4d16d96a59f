import Handover.HandedOver

/-!
The accounting of `hostapd`: how many of its stations do not do what IEEE 802.11g offers,
which decides what the beacons say. `handle_assoc` and `add_STA` count a station that is
marked for the first time, and `ap_free_sta` discounts what is marked. Whatever the handlers
do, one at a time, the counters are the numbers of marked stations, and the bitmap of AIDs is
that of the stations in the table.
-/
namespace Handover
universe u

/-- The marks in `struct sta_info`: `nonerp_set`, `no_short_slot_time_set` and
    `no_short_preamble_set`. Each has a counter in `struct hostapd_iface`. -/
inductive Mark where
  | nonErp
  | noShortSlotTime
  | noShortPreamble
deriving DecidableEq

/-- The station is to have the mark, by its flags and its capability. -/
def StaData.deserves (data : StaData) : Mark → Bool
  | .nonErp => data.nonErp
  | .noShortSlotTime => !data.capability.toNat.testBit 10
  | .noShortPreamble => !data.capability.toNat.testBit 5

/-- A mark of a station and its counter, as an association leaves them. -/
def countUp (deserved : Bool) (entry : Bool × Int) : Bool × Int :=
  if deserved && !entry.1 then (true,entry.2 + 1) else entry

/-- As `ap_free_sta` leaves them. -/
def countDown (entry : Bool × Int) : Bool × Int := if entry.1 then (false,entry.2 - 1) else entry

namespace Bss

/-- `handle_assoc` comes to the marks: it has found an AID. -/
def accepts (cfg : AssocConfig) (b : Bss) (frame : AssocFrame) (request : Request) (results : Results) : Bool :=
  frame.long && b.process.ap.status frame.sta = some .authenticated &&
    (b.process.assocSta cfg.toBssConfig frame results).any (fun (record,may) =>
      may && !record.repeats frame.toHeader frame.subtype) &&
    ((b.assocData frame.sta).handleAssoc cfg b.staAid request results.countermeasures).2

/-- The handler comes to the marks. -/
def counts (cfg : AssocConfig) (b : Bss) (e : Event) : Bool :=
  match e.1 with
  | .assoc frame => b.accepts cfg frame e.2.2 e.2.1
  | .vendor (.updateSTAAdd sta update) => b.process.completes cfg.toBssConfig sta update.authAlg e.2.1
  | _ => false

/-- `ap_free_sta` from anywhere else, of a station in the table. -/
def apFreeSta (b : Bss) (sta : Mac) : Option Bss :=
  if (b.process.table.lookup sta).isSome then some (b.settle (b.process.put sta none) sta (b.dataOf sta) b.staAid)
  else none

end Bss

/-- The interface: its stations with their marks, and its counters. -/
structure Iface where
  bss : Bss
  marks : Mac → Mark → Bool
  num : Mark → Int

namespace Iface

def init (cfg : AssocConfig) : Iface := ⟨.init cfg,fun _ _ => false,fun _ => 0⟩

/-- The stations in the table. -/
def present (i : Iface) : Finset Mac := i.bss.process.table.keys.toFinset

/-- The marks with which a handler begins. -/
def marksOf (i : Iface) (sta : Mac) (mark : Mark) : Bool := (i.bss.process.table.lookup sta).isSome && i.marks sta mark

/-- A mark of the station and its counter after a handler, that may have come to the marks
    or have freed the station. -/
def entry (i : Iface) (bss : Bss) (sta : Mac) (counts : Bool) (mark : Mark) : Bool × Int :=
  let entry := countUp (counts && (bss.dataOf sta).deserves mark) (i.marksOf sta mark,i.num mark)
  if (bss.process.table.lookup sta).isSome then entry else countDown entry

def settle (i : Iface) (bss : Bss) (sta : Mac) (counts : Bool) : Iface where
  bss := bss
  marks := Function.update i.marks sta (fun mark => (i.entry bss sta counts mark).1)
  num := fun mark => (i.entry bss sta counts mark).2

/-- A handler runs, or a station is freed. -/
inductive Op where
  | handler (e : Bss.Event)
  | free (sta : Mac)

def step (cfg : AssocConfig) (i : Iface) (op : Op) : Option Iface :=
  match op with
  | .handler e => (i.bss.step cfg e).map (fun bss =>
      match e.1.station with
      | some sta => i.settle bss sta (i.bss.counts cfg e)
      | none => { i with bss := bss })
  | .free sta => (i.bss.apFreeSta sta).map (fun bss => i.settle bss sta false)

/-- The stations in the table that have the mark. -/
def marked (i : Iface) (mark : Mark) : Finset Mac := i.present.filter (fun sta => i.marks sta mark)

/-- The counters are right, and so is the bitmap. -/
structure Balanced (i : Iface) : Prop where
  num : ∀ mark, i.num mark = (i.marked mark).card
  allotted : IdPool.Allotted i.bss.staAid i.bss.aid

theorem card_erase_add {α : Type u} [DecidableEq α] (set : Finset α) (a : α) :
    ((set.erase a).card : Int) + (decide (a ∈ set)).toInt = set.card := by
  by_cases inside : a ∈ set
  · simpa [inside] using congrArg Int.ofNat (Finset.card_erase_add_one inside)
  · simp [inside]

/-- Sets that agree but for one element differ in size by that. -/
theorem card_add_of_agree {α : Type u} [DecidableEq α] {before after : Finset α} (a : α)
    (others : ∀ b, b ≠ a → (b ∈ after ↔ b ∈ before)) :
    (after.card : Int) + (decide (a ∈ before)).toInt = before.card + (decide (a ∈ after)).toInt := by
  have same : after.erase a = before.erase a := by
    ext b
    simp only [Finset.mem_erase]
    exact and_congr_right (others b)
  have sizeBefore := card_erase_add before a
  have sizeAfter := card_erase_add after a
  rw [same] at sizeAfter
  omega

section
variable {cfg : AssocConfig} {i i' : Iface} {sta : Mac} {mark : Mark} {bss : Bss}

theorem mem_present : sta ∈ i.present ↔ (i.bss.process.table.lookup sta).isSome = true := by
  simp only [present,List.mem_toFinset,AList.lookup_isSome,AList.mem_keys]

theorem mem_marked : sta ∈ i.marked mark ↔ i.marksOf sta mark = true := by
  simp only [marked,Finset.mem_filter,mem_present,marksOf,Bool.and_eq_true]

theorem decide_mem_marked (i : Iface) (sta : Mac) (mark : Mark) : decide (sta ∈ i.marked mark) = i.marksOf sta mark := by
  simp [mem_marked]

theorem countUp_balance (deserved isSet : Bool) (num : Int) :
    (countUp deserved (isSet,num)).2 + isSet.toInt = num + (countUp deserved (isSet,num)).1.toInt := by
  cases deserved <;> cases isSet <;> simp [countUp]

theorem countDown_balance (entry : Bool × Int) :
    (countDown entry).2 + entry.1.toInt = entry.2 ∧ (countDown entry).1 = false := by
  obtain ⟨isSet,num⟩ := entry
  cases isSet <;> simp [countDown]

/-- The counter goes with the mark of the station. -/
theorem entry_balance (i : Iface) (bss : Bss) (sta : Mac) (counts : Bool) (mark : Mark) :
    (i.entry bss sta counts mark).2 + (i.marksOf sta mark).toInt = i.num mark + (i.entry bss sta counts mark).1.toInt := by
  have up := countUp_balance (counts && (bss.dataOf sta).deserves mark) (i.marksOf sta mark) (i.num mark)
  simp only [entry]
  split
  · exact up
  · have down := countDown_balance (countUp (counts && (bss.dataOf sta).deserves mark) (i.marksOf sta mark,i.num mark))
    rw [down.2]
    simp only [Bool.toInt_false]
    omega

/-- A station that is freed has no mark. -/
theorem marksOf_settle (i : Iface) (bss : Bss) (sta : Mac) (counts : Bool) (mark : Mark) :
    (i.settle bss sta counts).marksOf sta mark = (i.entry bss sta counts mark).1 := by
  simp only [marksOf,settle,Function.update_self]
  by_cases stays : (bss.process.table.lookup sta).isSome = true
  · rw [stays,Bool.true_and]
  · rw [entry,if_neg stays,(countDown_balance _).2,Bool.and_false]

theorem marksOf_settle_other {other : Mac} (counts : Bool) (isOther : other ≠ sta)
    (table : bss.process.table.lookup other = i.bss.process.table.lookup other) :
    (i.settle bss sta counts).marksOf other mark = i.marksOf other mark := by
  simp [settle,marksOf,table,Function.update_of_ne isOther]

theorem balanced_settle (balanced : i.Balanced) (counts : Bool) (allotted : IdPool.Allotted bss.staAid bss.aid)
    (table : ∀ other, other ≠ sta → bss.process.table.lookup other = i.bss.process.table.lookup other) :
    (i.settle bss sta counts).Balanced := by
  refine ⟨fun mark => ?_,allotted⟩
  have others : ∀ other, other ≠ sta → (other ∈ (i.settle bss sta counts).marked mark ↔ other ∈ i.marked mark) := by
    intro other isOther
    rw [mem_marked,mem_marked,marksOf_settle_other counts isOther (table other isOther)]
  have size := card_add_of_agree sta others
  have num := entry_balance i bss sta counts mark
  rw [decide_mem_marked,decide_mem_marked,marksOf_settle] at size
  rw [balanced.num] at num
  change (i.entry bss sta counts mark).2 = _
  omega

theorem balanced_step {op : Op} (balanced : i.Balanced) (stepped : i.step cfg op = some i') : i'.Balanced := by
  cases op with
  | handler e =>
    obtain ⟨bss,done,rfl⟩ := Option.map_eq_some_iff.mp stepped
    have allotted := Bss.allotted_step balanced.allotted done
    obtain ⟨input,isStation,processed⟩ := Bss.step_process done
    have table := fun other isOther => Hostapd.step_table processed other (isStation ▸ isOther)
    split
    · rename_i sta isSta
      refine balanced_settle balanced _ allotted (fun other isOther => table other ?_)
      rw [isSta]
      exact fun same => isOther (Option.some.inj same).symm
    · rename_i isNone
      have same : ∀ other, bss.process.table.lookup other = i.bss.process.table.lookup other :=
        fun other => table other (by simp [isNone])
      refine ⟨fun mark => ?_,allotted⟩
      have sameMarked : { i with bss := bss }.marked mark = i.marked mark := by
        ext other
        simp only [mem_marked,marksOf,same]
      exact (balanced.num mark).trans (congrArg _ (congrArg _ sameMarked.symm))
  | free sta =>
    obtain ⟨bss,freed,rfl⟩ := Option.map_eq_some_iff.mp stepped
    unfold Bss.apFreeSta at freed
    split at freed
    · cases freed
      have table : ∀ other, other ≠ sta → (i.bss.process.put sta none).table.lookup other =
          i.bss.process.table.lookup other := by
        intro other isOther
        rw [Hostapd.lookup_put,if_neg isOther]
      exact balanced_settle balanced false (Bss.allotted_settle balanced.allotted table (.inl ⟨rfl,rfl⟩)) table
    · cases freed

/-- The AIDs of the stations in the table are those that are held. -/
theorem aid_eq_iff (i : Iface) (sta : Mac) (k : Nat) :
    i.bss.aid sta = k + 1 ↔ sta ∈ i.present ∧ (i.bss.data sta).aid = k + 1 := by
  rw [mem_present,Bss.aid,Bss.dataOf]
  split
  · rename_i isPresent
    exact ⟨fun same => ⟨isPresent,same⟩,And.right⟩
  · rename_i absent
    exact ⟨fun none => absurd none (Nat.succ_ne_zero k).symm,fun both => absurd both.1 absent⟩

/-- After any operations, one at a time, each counter is the number of stations in the table
    that have its mark, and is not negative; and the bitmap marks an AID exactly if a station
    in the table has it. -/
theorem accounts_balance {ops : List Op} (ran : Run.run (step cfg) (init cfg) ops = some i) :
    (∀ mark, i.num mark = (i.marked mark).card ∧ 0 ≤ i.num mark) ∧
    ∀ k, i.bss.staAid.getLsbD k = true ↔ ∃ sta ∈ i.present, (i.bss.data sta).aid = k + 1 := by
  have balanced : i.Balanced := by
    refine Run.run_invariant (fun _ _ _ balanced stepped => balanced_step balanced stepped) ?_ ran
    exact ⟨fun mark => rfl,IdPool.allotted_none⟩
  refine ⟨fun mark => ?_,fun k => ?_⟩
  · rw [balanced.num mark]
    exact ⟨rfl,Int.natCast_nonneg _⟩
  · simp only [← aid_eq_iff]
    constructor
    · exact balanced.allotted.used k
    · rintro ⟨sta,holds⟩
      have marked := balanced.allotted.marked sta (by omega)
      rwa [holds,Nat.add_sub_cancel] at marked

end

open Hostapd (guest works)

/-- The guest joins with rates of IEEE 802.11b only and without the short slot time. -/
def joining : List Op :=
  [.handler (.vendor (.addSTA guest),works,Bss.wish)] ++ Bss.sharedKey.map .handler ++
    [.handler (Bss.asking.1,works,{ Bss.wish with capability := 0x21, extSuppRates := [] })]

def nums (i : Iface) : List Int := [i.num .nonErp,i.num .noShortSlotTime,i.num .noShortPreamble]

/-- It is counted under two of the marks, and has the first AID; and once the controller has
    it removed, nothing is left of that. -/
theorem guest_accounted :
    (∃ i, Run.run (step Bss.wepBss) (init Bss.wepBss) joining = some i ∧ i.nums = [1,1,0] ∧
      (i.marked .nonErp).card = 1 ∧ ∃ sta ∈ i.present, (i.bss.data sta).aid = 1) ∧
    ∃ i, Run.run (step Bss.wepBss) (init Bss.wepBss) (joining ++ [.handler (.vendor (.removeSTA guest),works,Bss.wish)]) =
        some i ∧ i.nums = [0,0,0] ∧ ¬ ∃ sta ∈ i.present, (i.bss.data sta).aid = 1 := by
  constructor
  · have runs : ∃ i, Run.run (step Bss.wepBss) (init Bss.wepBss) joining = some i ∧
        i.nums = [1,1,0] ∧ i.num .nonErp = 1 ∧ i.bss.staAid.getLsbD 0 = true := Run.exists_run (by decide +kernel)
    obtain ⟨i,ran,counted,one,taken⟩ := runs
    obtain ⟨balance,aids⟩ := accounts_balance ran
    exact ⟨i,ran,counted,Int.ofNat_inj.mp ((balance .nonErp).1.symm.trans one),(aids 0).mp taken⟩
  · have runs : ∃ i, Run.run (step Bss.wepBss) (init Bss.wepBss)
        (joining ++ [.handler (.vendor (.removeSTA guest),works,Bss.wish)]) = some i ∧
        i.nums = [0,0,0] ∧ i.bss.staAid.getLsbD 0 = false := Run.exists_run (by decide +kernel)
    obtain ⟨i,ran,counted,free⟩ := runs
    obtain ⟨_,aids⟩ := accounts_balance ran
    exact ⟨i,ran,counted,fun holds => Bool.false_ne_true (free.symm.trans ((aids 0).mpr holds))⟩

end Iface
end Handover
