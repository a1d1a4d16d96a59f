import Mathlib.Tactic

/-!
Two copies of one value, a central and a remote one, that both sides change. The
remote side reports what it has changed to, the centre orders changes, and both
travel in order. The copies agree once everything has arrived if reports and
orders never cross: `Agree` is what holds on the way, and it is kept by every
step that is taken while nothing travels against it.
-/
namespace Handover.Replicas
universe u v
variable {Value : Type u} {Order : Type v}

/-- What the centre knows after the reports. -/
def latest (value : Value) (reports : List Value) : Value := reports.foldl (fun _ report => report) value

/-- What the remote copy becomes by the orders. -/
def obey (apply : Order → Option Value → Option Value) (copy : Option Value) (orders : List Order) : Option Value :=
  orders.foldl (fun copy order => apply order copy) copy

/-- The centre has no copy and nothing travels; or its copy is what the remote one
    was before the reports; or it is what the remote one is after the orders. A
    remote copy that the centre does not know of is `idle`. -/
def Agree (apply : Order → Option Value → Option Value) (idle : Value) (central remote : Option Value)
    (reports : List Value) (orders : List Order) : Prop :=
  match central with
  | none => reports = [] ∧ orders = [] ∧ (remote = none ∨ remote = some idle)
  | some value => (orders = [] ∧ remote = some (latest value reports)) ∨
      (reports = [] ∧ obey apply remote orders = some value)

section
variable {apply : Order → Option Value → Option Value} {idle : Value} {central remote : Option Value}
  {reports : List Value} {orders : List Order}

theorem agree_start : Agree apply idle none none [] [] := ⟨rfl,rfl,.inl rfl⟩

/-- Where nothing travels the copies are equal. -/
theorem Agree.settled {value : Value} (agree : Agree apply idle (some value) remote [] []) : remote = some value := by
  rcases agree with ⟨_,same⟩ | ⟨_,same⟩
  · exact same
  · exact same

theorem Agree.known (agree : Agree apply idle central remote reports orders) (travels : orders ≠ []) :
    ∃ value, central = some value ∧ reports = [] ∧ obey apply remote orders = some value := by
  cases central with
  | none => exact absurd agree.2.1 travels
  | some value =>
    rcases agree with ⟨none_,_⟩ | ⟨noReports,after⟩
    · exact absurd none_ travels
    · exact ⟨value,rfl,noReports,after⟩

/-- The remote side changes its copy while no order travels. -/
theorem Agree.change (agree : Agree apply idle central remote reports []) {before : Value}
    (isBefore : remote = some before) (busy : before ≠ idle) (value : Value) :
    Agree apply idle central (some value) (reports ++ [value]) [] := by
  cases central with
  | none =>
    rcases agree.2.2 with unknown | isIdle
    · cases unknown.symm.trans isBefore
    · exact absurd (Option.some.inj (isBefore.symm.trans isIdle)) busy
  | some old => exact .inl ⟨rfl,by simp [latest]⟩

/-- The centre learns of a change. -/
theorem Agree.learn {value : Value} (agree : Agree apply idle central remote (value :: reports) orders) :
    central ≠ none ∧ Agree apply idle (some value) remote reports orders := by
  cases central with
  | none => cases agree.1
  | some old =>
    rcases agree with ⟨noOrders,same⟩ | ⟨impossible,_⟩
    · exact ⟨by simp,.inl ⟨noOrders,same⟩⟩
    · cases impossible

/-- The centre orders a change while no report travels. -/
theorem Agree.order (agree : Agree apply idle central remote [] orders) {order : Order} {value : Value}
    (known : ∀ old, central = some old → apply order (some old) = some value)
    (unknown : central = none → apply order remote = some value) :
    Agree apply idle (some value) remote [] (orders ++ [order]) := by
  refine .inr ⟨rfl,?_⟩
  rw [obey,List.foldl_append]
  cases central with
  | none =>
    obtain ⟨_,rfl,_⟩ := agree
    exact unknown rfl
  | some old =>
    have after : obey apply remote orders = some old := by
      rcases agree with ⟨rfl,same⟩ | ⟨_,after⟩
      · exact same
      · exact after
    rw [obey] at after
    rw [after]
    exact known old rfl

/-- The remote side obeys an order. -/
theorem Agree.obeys {order : Order} (agree : Agree apply idle central remote reports (order :: orders)) :
    Agree apply idle central (apply order remote) reports orders := by
  obtain ⟨value,rfl,rfl,after⟩ := agree.known (by simp)
  exact .inr ⟨rfl,after⟩

/-- An order that makes a copy makes it of any other, and none removes one. -/
theorem obey_some (keeps : ∀ order value, apply order (some value) ≠ none)
    (makes : ∀ order made, apply order none = some made → ∀ value, apply order (some value) = some made)
    {made : Value} : ∀ {orders : List Order}, obey apply none orders = some made →
      ∀ value, obey apply (some value) orders = some made := by
  intro orders
  induction orders with
  | nil => intro impossible; cases impossible
  | cons order rest ih =>
    intro after value
    simp only [obey,List.foldl_cons] at after ih ⊢
    cases isMade : apply order none with
    | none =>
      rw [isMade] at after
      obtain ⟨next,isNext⟩ := Option.ne_none_iff_exists'.mp (keeps order value)
      rw [isNext]
      exact ih after next
    | some first =>
      rw [makes order first isMade value,← isMade]
      exact after

/-- The remote side makes an idle copy by itself. -/
theorem Agree.make (keeps : ∀ order value, apply order (some value) ≠ none)
    (makes : ∀ order made, apply order none = some made → ∀ value, apply order (some value) = some made)
    (agree : Agree apply idle central none reports orders) : Agree apply idle central (some idle) reports orders := by
  cases central with
  | none => exact ⟨agree.1,agree.2.1,.inr rfl⟩
  | some value =>
    rcases agree with ⟨_,impossible⟩ | ⟨noReports,after⟩
    · cases impossible
    · exact .inr ⟨noReports,obey_some keeps makes after idle⟩

end
end Handover.Replicas
