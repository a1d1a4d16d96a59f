import Handover.Packets

/-!
The subnet test of `handle_pkt`, in `hostapd` and in the gateway. The first three octets
of the subnet are written in decimal, without a dot behind them, and compared as a text
with the source address. So the third octet of the source need only begin like that of
the subnet.
-/
namespace Handover
open List

/-! ### Texts -/

section
universe u
variable {α : Type u} {sep : α} {l m : List α}

/-- Texts up to a separator only match if they are the same up to it. -/
theorem append_cons_isPrefix_iff (l' m' : List α) (inner : sep ∉ l) (outer : sep ∉ m) :
    l ++ sep :: l' <+: m ++ sep :: m' ↔ l = m ∧ l' <+: m' := by
  induction l generalizing m with
  | nil =>
    cases m with
    | nil => simp
    | cons b m =>
      have apart : sep ≠ b := fun same => outer (same ▸ mem_cons_self)
      simp [cons_prefix_cons,apart]
  | cons a l ih =>
    have apart : a ≠ sep := fun same => inner (same ▸ mem_cons_self)
    cases m with
    | nil => simp [cons_prefix_cons,apart]
    | cons b m =>
      have rest := ih (m := m) (fun member => inner (mem_cons_of_mem a member))
        (fun member => outer (mem_cons_of_mem b member))
      simp only [cons_append,cons_prefix_cons,rest,cons.injEq,and_assoc]

/-- A text without the separator has to match before it. -/
theorem isPrefix_append_cons_iff (m' : List α) (inner : sep ∉ l) : l <+: m ++ sep :: m' ↔ l <+: m := by
  induction l generalizing m with
  | nil => simp
  | cons a l ih =>
    have apart : a ≠ sep := fun same => inner (same ▸ mem_cons_self)
    cases m with
    | nil => simp [cons_prefix_cons,apart]
    | cons b m => simp only [cons_append,cons_prefix_cons,ih (fun member => inner (mem_cons_of_mem a member))]

end

/-! ### Decimal texts -/

theorem toDigits_inj {m n : Nat} : Nat.toDigits 10 m = Nat.toDigits 10 n ↔ m = n := by
  refine ⟨fun same => ?_,fun same => same ▸ rfl⟩
  simpa using congrArg (fun digits => Nat.ofDigitChars 10 digits 0) same

/-- A number begins like itself, and like the number without its last digit. -/
theorem toDigits_isPrefix_iff (m n : Nat) :
    Nat.toDigits 10 m <+: Nat.toDigits 10 n ↔ m = n ∨ 10 ≤ n ∧ Nat.toDigits 10 m <+: Nat.toDigits 10 (n / 10) := by
  have last := Nat.toDigits_eq_if (b := 10) (n := n) (by omega)
  by_cases small : n < 10
  · rw [if_pos small] at last
    have single : Nat.toDigits 10 m <+: [] ++ [n.digitChar] ↔ _ := prefix_concat_iff
    rw [nil_append,← last,prefix_nil,toDigits_inj] at single
    rw [single]
    simp only [Nat.toDigits_ne_nil,show ¬ 10 ≤ n by omega,false_and]
  · rw [if_neg small] at last
    have more : Nat.toDigits 10 m <+: Nat.toDigits 10 (n / 10) ++ [(n % 10).digitChar] ↔ _ := prefix_concat_iff
    rw [← last,toDigits_inj] at more
    rw [more]
    simp only [show 10 ≤ n by omega,true_and]

namespace Packet

theorem dot_notMem_decimal (octet : UInt8) : '.' ∉ decimal octet := by
  intro member
  have digit := Nat.isDigit_of_mem_toDigits (by omega) (by omega) member
  exact absurd digit (by decide)

/-- An octet begins like the subnet's: it is the same, or the same without its last digit
    or its last two. -/
def BeginsLike (octet subnetOctet : UInt8) : Prop :=
  octet.toNat = subnetOctet.toNat ∨ 10 ≤ octet.toNat ∧ octet.toNat / 10 = subnetOctet.toNat ∨
    100 ≤ octet.toNat ∧ octet.toNat / 100 = subnetOctet.toNat

theorem decimal_isPrefix_iff (subnetOctet octet : UInt8) :
    decimal subnetOctet <+: decimal octet ↔ BeginsLike octet subnetOctet := by
  have := octet.toNat_lt
  unfold decimal BeginsLike
  rw [toDigits_isPrefix_iff,toDigits_isPrefix_iff,toDigits_isPrefix_iff,toDigits_isPrefix_iff]
  constructor
  · rintro (same | ⟨two,same | ⟨three,same | ⟨four,_⟩⟩⟩)
    · exact .inl same.symm
    · exact .inr (.inl ⟨two,same.symm⟩)
    · exact .inr (.inr ⟨by omega,by omega⟩)
    · omega
  · rintro (same | ⟨two,same⟩ | ⟨three,same⟩)
    · exact .inl same.symm
    · exact .inr ⟨two,.inl same.symm⟩
    · exact .inr ⟨by omega,.inr ⟨by omega,.inl (by omega)⟩⟩

/-- What the comparison of the texts comes to. -/
theorem inSubnet_iff (subnet a : IPv4) :
    inSubnet subnet a = true ↔ a.o0 = subnet.o0 ∧ a.o1 = subnet.o1 ∧ BeginsLike a.o2 subnet.o2 := by
  have inj : ∀ {m n : UInt8}, decimal m = decimal n ↔ n = m := by
    intro m n
    rw [decimal,decimal,toDigits_inj,UInt8.toNat_inj,eq_comm]
  have dot := dot_notMem_decimal
  simp only [inSubnet, isPrefixOf_iff_prefix,subnetText,addressText,append_assoc,cons_append]
  rw [append_cons_isPrefix_iff _ _ (dot _) (dot _),append_cons_isPrefix_iff _ _ (dot _) (dot _),
    isPrefix_append_cons_iff _ (dot _),inj,inj,decimal_isPrefix_iff]

/-- The first three octets are those of the subnet. -/
def Same24 (subnet a : IPv4) : Prop := a.o0 = subnet.o0 ∧ a.o1 = subnet.o1 ∧ a.o2 = subnet.o2

/-- The comparison of the texts is the test of the first three octets, for all sources,
    exactly if no octet has the third one of the subnet with a digit behind it. -/
theorem inSubnet_same24_iff (subnet : IPv4) :
    (∀ a, inSubnet subnet a = true ↔ Same24 subnet a) ↔ subnet.o2 = 0 ∨ 26 ≤ subnet.o2 := by
  have zero : (0 : UInt8).toNat = 0 := rfl
  have bound : (26 : UInt8).toNat = 26 := rfl
  rw [← UInt8.toNat_inj,UInt8.le_iff_toNat_le,zero,bound]
  simp only [inSubnet_iff,Same24,BeginsLike,← UInt8.toNat_inj]
  constructor
  · intro exactly
    by_contra between
    have longer : (UInt8.ofNat (subnet.o2.toNat * 10)).toNat = subnet.o2.toNat * 10 :=
      Nat.mod_eq_of_lt (by omega)
    have wrong := (exactly ⟨subnet.o0,subnet.o1,UInt8.ofNat (subnet.o2.toNat * 10),0⟩).mp
    simp only [longer,true_and] at wrong
    omega
  · intro apart a
    have := a.o2.toNat_lt
    omega

theorem foreign_in_subnet : inSubnet ⟨192,168,5,0⟩ ⟨192,168,50,1⟩ = true ∧ ¬ Same24 ⟨192,168,5,0⟩ ⟨192,168,50,1⟩ := by
  refine ⟨by decide,fun same => ?_⟩
  exact absurd same.2.2 (by decide)

end Packet
end Handover
