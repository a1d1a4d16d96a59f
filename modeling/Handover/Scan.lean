import Mathlib.Tactic

/-!
Numbers in texts: how the C library writes an octet in decimal and in hexadecimal, and how
its `scanf` functions read one. Reading skips blanks and takes a sign, for a hexadecimal
number a leading `0x`, and then as many digits as there are; the value is cut to eight
bits. What was written is read back, whatever follows it, as long as no digit does.
-/
namespace Handover.Scan

/-- `isspace`. -/
def isSpace (c : Char) : Bool := c = ' ' || c = '\t' || c = '\n' || c = '\x0b' || c = '\x0c' || c = '\x0d'

/-- The value of a digit, up to those of base 16. -/
def digitValue (c : Char) : Option Nat :=
  if '0' ≤ c ∧ c ≤ '9' then some (c.toNat - '0'.toNat)
  else if 'a' ≤ c ∧ c ≤ 'f' then some (c.toNat - 'a'.toNat + 10)
  else if 'A' ≤ c ∧ c ≤ 'F' then some (c.toNat - 'A'.toNat + 10)
  else none

def isDigit (base : Nat) (c : Char) : Bool := (digitValue c).any (fun value => decide (value < base))

/-- The number that a text of digits stands for. -/
def value (base : Nat) (digits : List Char) : Nat :=
  digits.foldl (fun sum c => sum * base + (digitValue c).getD 0) 0

/-- `strtoul`, which stays at its greatest value, cut to eight bits. -/
def convert (negative : Bool) (n : Nat) : UInt8 :=
  if 2 ^ 64 ≤ n then 255 else if negative then -UInt8.ofNat n else UInt8.ofNat n

/-- The digits of a number: a leading `0` is one, and may begin `0x` in base 16. -/
def readDigits (base : Nat) (text : List Char) : Option (Nat × List Char) :=
  let digits := fun rest : List Char => (value base (rest.takeWhile (isDigit base)),rest.dropWhile (isDigit base))
  match text with
  | '0' :: c :: rest => if base = 16 ∧ (c = 'x' ∨ c = 'X') then some (digits rest) else some (digits text)
  | c :: _ => if isDigit base c then some (digits text) else none
  | [] => none

/-- `%hhu` and `%hhx`: the octet and the rest of the text, or a failure to match. -/
def readOctet (base : Nat) (text : List Char) : Option (UInt8 × List Char) :=
  match text.dropWhile isSpace with
  | '-' :: rest => (readDigits base rest).map (fun (n,rest) => (convert true n,rest))
  | '+' :: rest => (readDigits base rest).map (fun (n,rest) => (convert false n,rest))
  | rest => (readDigits base rest).map (fun (n,rest) => (convert false n,rest))

/-- A digit of base 16, as `%X` writes it. -/
def upperDigit (n : Nat) : Char := if n < 10 then Char.ofNat ('0'.toNat + n) else Char.ofNat ('A'.toNat + (n - 10))

/-- `%02X` of an octet. -/
def upperHex (octet : UInt8) : List Char := [upperDigit (octet.toNat / 16),upperDigit (octet.toNat % 16)]

/-- `%2d` of an octet. -/
def padded (octet : UInt8) : List Char :=
  let digits := Nat.toDigits 10 octet.toNat
  List.replicate (2 - digits.length) ' ' ++ digits

/-- The octets that a format of `%hhx` conversions with a separator in between assigns, in
    turn, until something does not match. -/
def readOctets (separator : Char) : Nat → List Char → List UInt8
  | 0, _ => []
  | 1, text => ((readOctet 16 text).map Prod.fst).toList
  | count + 1, text =>
    match readOctet 16 text with
    | none => []
    | some (octet,rest) =>
      match rest with
      | c :: rest => if c = separator then octet :: readOctets separator count rest else [octet]
      | [] => [octet]

/-! ### What was written is read -/

theorem digitValue_upperDigit {n : Nat} (small : n < 16) : digitValue (upperDigit n) = some n := by
  interval_cases n <;> rfl

theorem isDigit_upperDigit {n : Nat} (small : n < 16) : isDigit 16 (upperDigit n) = true := by
  simp [isDigit,digitValue_upperDigit small,small]

theorem value_upperHex (octet : UInt8) : value 16 (upperHex octet) = octet.toNat := by
  have bound := octet.toNat_lt
  rw [upperHex,value]
  simp only [List.foldl_cons,List.foldl_nil,digitValue_upperDigit (n := octet.toNat / 16) (by omega),
    digitValue_upperDigit (n := octet.toNat % 16) (by omega),Option.getD_some]
  omega

theorem takeWhile_append_stop {α : Type*} {p : α → Bool} {l rest : List α} (all : ∀ a ∈ l, p a = true)
    (stops : ∀ a ∈ rest.head?, p a = false) :
    (l ++ rest).takeWhile p = l ∧ (l ++ rest).dropWhile p = rest := by
  rw [List.takeWhile_append_of_pos all,List.dropWhile_append_of_pos all]
  cases rest with
  | nil => simp
  | cons a rest => simp [stops a rfl]

theorem convert_toNat (octet : UInt8) : convert false octet.toNat = octet := by
  have bound := octet.toNat_lt
  rw [convert,if_neg (by omega)]
  simp

theorem isDigit_signs (base : Nat) : isDigit base '-' = false ∧ isDigit base '+' = false := ⟨rfl,rfl⟩

theorem not_space_of_isDigit {base : Nat} {c : Char} (digit : isDigit base c = true) : isSpace c = false := by
  by_contra space
  have blank : isSpace c = true := by simpa using space
  simp only [isSpace,Bool.or_eq_true,decide_eq_true_eq] at blank
  rcases blank with ((((rfl | rfl) | rfl) | rfl) | rfl) | rfl <;> cases digit

/-- A number is read up to the first character that is no digit; a `0` may not be
    followed by the mark of base 16. -/
theorem readDigits_append {base : Nat} {digits rest : List Char} (some_ : digits ≠ [])
    (all : ∀ c ∈ digits, isDigit base c = true) (stops : ∀ c ∈ rest.head?, isDigit base c = false)
    (noMark : ∀ c ∈ (digits ++ rest).tail.head?, c ≠ 'x' ∧ c ≠ 'X') :
    readDigits base (digits ++ rest) = some (value base digits,rest) := by
  obtain ⟨taken,dropped⟩ := takeWhile_append_stop all stops
  obtain ⟨d,ds,rfl⟩ := List.exists_cons_of_ne_nil some_
  have first : isDigit base d = true := all d List.mem_cons_self
  unfold readDigits
  dsimp only
  rw [taken,dropped]
  split
  · rename_i c rest' isText
    rw [isText] at noMark
    obtain ⟨lower,upper⟩ := noMark c rfl
    rw [if_neg (by simp [lower,upper])]
  · rename_i c rest' _ isText
    cases isText
    rw [if_pos first]
  · rename_i isText
    cases isText

theorem readOctet_append {base : Nat} (blanks : List Char) {digits rest : List Char} {octet : UInt8}
    (blank : ∀ c ∈ blanks, isSpace c = true) (some_ : digits ≠ [])
    (all : ∀ c ∈ digits, isDigit base c = true) (stops : ∀ c ∈ rest.head?, isDigit base c = false)
    (noMark : ∀ c ∈ (digits ++ rest).tail.head?, c ≠ 'x' ∧ c ≠ 'X') (isValue : value base digits = octet.toNat) :
    readOctet base (blanks ++ (digits ++ rest)) = some (octet,rest) := by
  have number := readDigits_append some_ all stops noMark
  obtain ⟨d,ds,rfl⟩ := List.exists_cons_of_ne_nil some_
  have first : isDigit base d = true := all d List.mem_cons_self
  have start : (blanks ++ (d :: ds ++ rest)).dropWhile isSpace = d :: ds ++ rest := by
    refine (takeWhile_append_stop blank ?_).2
    simp [not_space_of_isDigit first]
  unfold readOctet
  rw [start]
  split
  · rename_i isText
    cases isText
    exact absurd first (by simp [isDigit_signs])
  · rename_i isText
    cases isText
    exact absurd first (by simp [isDigit_signs])
  · rw [number,Option.map_some,isValue]
    exact congrArg some (Prod.ext (convert_toNat octet) rfl)

theorem readOctet_upperHex (octet : UInt8) (rest : List Char) (stops : ∀ c ∈ rest.head?, isDigit 16 c = false) :
    readOctet 16 (upperHex octet ++ rest) = some (octet,rest) := by
  have bound := octet.toNat_lt
  have low : isDigit 16 (upperDigit (octet.toNat % 16)) = true := isDigit_upperDigit (by omega)
  refine readOctet_append [] (by simp) (by simp [upperHex]) ?_ stops ?_ (value_upperHex octet)
  · simp only [upperHex,List.mem_cons,List.not_mem_nil,or_false]
    rintro c (rfl | rfl)
    · exact isDigit_upperDigit (by omega)
    · exact low
  · intro c isSecond
    have same : upperDigit (octet.toNat % 16) = c := by simpa [upperHex] using isSecond
    subst same
    constructor <;> intro isMark <;> rw [isMark] at low <;> cases low

/-- Octets in hexadecimal with a separator in between. -/
def writeOctets (separator : Char) : List UInt8 → List Char
  | [] => []
  | [octet] => upperHex octet
  | octet :: octets => upperHex octet ++ separator :: writeOctets separator octets

theorem readOctets_writeOctets {separator : Char} (apart : isDigit 16 separator = false) (octets : List UInt8) :
    readOctets separator octets.length (writeOctets separator octets) = octets := by
  induction octets with
  | nil => rfl
  | cons octet octets ih =>
    cases octets with
    | nil =>
      have read := readOctet_upperHex octet [] (by simp)
      rw [List.append_nil] at read
      simp [readOctets,writeOctets,read]
    | cons next octets =>
      have read := readOctet_upperHex octet (separator :: writeOctets separator (next :: octets)) (by simpa using apart)
      simp only [List.length_cons] at ih ⊢
      rw [readOctets,writeOctets,read]
      · simp only [if_pos]
        rw [ih]
      · simp
      · simp

theorem digitValue_digitChar {n : Nat} (small : n < 10) : digitValue n.digitChar = some n := by
  interval_cases n <;> rfl

theorem value_concat (base : Nat) (digits : List Char) (c : Char) :
    value base (digits ++ [c]) = value base digits * base + (digitValue c).getD 0 := by
  simp [value]

/-- A number in decimal: digits only, and their value is the number. -/
theorem toDigits_spec (n : Nat) :
    (∀ c ∈ Nat.toDigits 10 n, isDigit 10 c = true) ∧ value 10 (Nat.toDigits 10 n) = n := by
  have digit : ∀ {m : Nat}, m < 10 → isDigit 10 m.digitChar = true := by
    intro m small
    simp [isDigit,digitValue_digitChar small,small]
  induction n using Nat.strong_induction_on with
  | _ n ih =>
    rw [Nat.toDigits_eq_if (b := 10) (by omega)]
    split
    · rename_i small
      simp [value,digit small,digitValue_digitChar small]
    · rename_i large
      obtain ⟨all,isValue⟩ := ih (n / 10) (by omega)
      have last : n % 10 < 10 := by omega
      refine ⟨?_,?_⟩
      · intro c member
        rcases List.mem_append.mp member with before | isLast
        · exact all c before
        · cases List.mem_singleton.mp isLast
          exact digit last
      · rw [value_concat,isValue,digitValue_digitChar last,Option.getD_some]
        omega

theorem readOctet_padded (octet : UInt8) (rest : List Char) (stops : ∀ c ∈ rest.head?, isDigit 10 c = false)
    (noMark : ∀ c ∈ rest.head?, c ≠ 'x' ∧ c ≠ 'X') : readOctet 10 (padded octet ++ rest) = some (octet,rest) := by
  obtain ⟨all,isValue⟩ := toDigits_spec octet.toNat
  unfold padded
  dsimp only
  rw [List.append_assoc]
  refine readOctet_append _ ?_ Nat.toDigits_ne_nil all stops ?_ isValue
  · intro c member
    rw [List.eq_of_mem_replicate member]
    rfl
  · obtain ⟨d,ds,isDigits⟩ := List.exists_cons_of_ne_nil (Nat.toDigits_ne_nil (b := 10) (n := octet.toNat))
    rw [isDigits] at all ⊢
    intro c isSecond
    cases ds with
    | nil => exact noMark c (by simpa using isSecond)
    | cons second ds =>
      have same : second = c := by simpa using isSecond
      subst same
      have isDigit := all second (by simp)
      constructor <;> intro isMark <;> rw [isMark] at isDigit <;> cases isDigit

end Handover.Scan
