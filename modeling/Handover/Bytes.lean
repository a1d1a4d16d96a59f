import Mathlib.Tactic

/-!
Bytes in memory, read and overwritten at offsets: what a C program does to a
buffer through the fields of an overlaid struct. A read beyond the buffer gives
0 and a write beyond it is lost, so that the lemmas say where the offsets must
lie. Words are in network order.
-/
namespace Handover.Bytes

def byte (data : List UInt8) (i : Nat) : UInt8 := data.getD i 0

/-- The buffer with the bytes copied over it from the offset on. -/
def copy (data : List UInt8) : Nat → List UInt8 → List UInt8
  | _, [] => data
  | i, b :: rest => (copy data (i+1) rest).set i b

/-- The 16-bit word at the offset. -/
def word (data : List UInt8) (i : Nat) : UInt16 :=
  UInt16.ofNat ((byte data i).toNat * 256 + (byte data (i+1)).toNat)

/-- The two bytes of a word. -/
def wordBytes (w : UInt16) : List UInt8 := [UInt8.ofNat (w.toNat / 256),UInt8.ofNat (w.toNat % 256)]

theorem word_high (data : List UInt8) (i : Nat) : (word data i).toNat / 256 = (byte data i).toNat := by
  have := (byte data i).toNat_lt
  have := (byte data (i+1)).toNat_lt
  rw [word,UInt16.toNat_ofNat']
  omega

theorem wordBytes_word (data : List UInt8) (i : Nat) : wordBytes (word data i) = [byte data i,byte data (i+1)] := by
  have high := (byte data i).toNat_lt
  have low := (byte data (i+1)).toNat_lt
  have second : (word data i).toNat % 256 = (byte data (i+1)).toNat := by
    rw [word,UInt16.toNat_ofNat']
    omega
  rw [wordBytes,word_high,second,UInt8.ofNat_toNat,UInt8.ofNat_toNat]

theorem byte_drop (data : List UInt8) (k i : Nat) : byte (data.drop k) i = byte data (k + i) := by
  simp only [byte,List.getD_eq_getElem?_getD,List.getElem?_drop]

theorem word_drop (data : List UInt8) (k i : Nat) : word (data.drop k) i = word data (k + i) := by
  rw [word,byte_drop,byte_drop,word,Nat.add_assoc]

theorem byte_take (data : List UInt8) {n i : Nat} (inside : i < n) : byte (data.take n) i = byte data i := by
  simp only [byte,List.getD_eq_getElem?_getD,List.getElem?_take,if_pos inside]

theorem byte_append (data after : List UInt8) {i : Nat} (inside : i < data.length) :
    byte (data ++ after) i = byte data i := by
  simp only [byte,List.getD_eq_getElem?_getD,List.getElem?_append_left inside]

@[simp] theorem length_copy (data : List UInt8) (i : Nat) (bytes : List UInt8) :
    (copy data i bytes).length = data.length := by
  induction bytes generalizing i with
  | nil => rfl
  | cons b rest ih => simp [copy,ih]

theorem byte_set (data : List UInt8) (i j : Nat) (b : UInt8) :
    byte (data.set i b) j = if j = i ∧ i < data.length then b else byte data j := by
  simp only [byte,List.getD_eq_getElem?_getD,List.getElem?_set]
  by_cases same : i = j
  · subst same
    by_cases inside : i < data.length
    · simp [inside]
    · simp [inside]
  · simp [same,Ne.symm same]

/-- What is beyond the buffer is lost of a copy. -/
theorem byte_copy (data : List UInt8) (i : Nat) (bytes : List UInt8) (j : Nat) :
    byte (copy data i bytes) j =
      if i ≤ j ∧ j < i + bytes.length ∧ j < data.length then byte bytes (j - i) else byte data j := by
  induction bytes generalizing i with
  | nil => rw [copy,if_neg (by simp only [List.length_nil]; omega)]
  | cons b rest ih =>
    rw [copy,byte_set,length_copy,ih]
    simp only [List.length_cons]
    by_cases first : j = i
    · subst first
      by_cases inside : j < data.length
      · rw [if_pos ⟨rfl,inside⟩,if_pos ⟨le_rfl,by omega,inside⟩,Nat.sub_self]
        rfl
      · rw [if_neg (by omega),if_neg (by omega),if_neg (by omega)]
    · rw [if_neg (by omega)]
      by_cases later : i + 1 ≤ j ∧ j < i + 1 + rest.length ∧ j < data.length
      · rw [if_pos later,if_pos (by omega),show j - i = j - (i + 1) + 1 by omega]
        rfl
      · rw [if_neg later,if_neg (by omega)]

/-- A copy leaves the bytes beside it alone. -/
theorem byte_copy_outside (data : List UInt8) {i j : Nat} {bytes : List UInt8}
    (outside : j < i ∨ i + bytes.length ≤ j) : byte (copy data i bytes) j = byte data j := by
  rw [byte_copy,if_neg (by omega)]

theorem byte_copy_inside {data : List UInt8} {i j : Nat} {bytes : List UInt8} (fits : i + bytes.length ≤ data.length)
    (inside : j < bytes.length) : byte (copy data i bytes) (i + j) = byte bytes j := by
  rw [byte_copy,if_pos (by omega),Nat.add_sub_cancel_left]

theorem word_copy_outside (data : List UInt8) {i j : Nat} {bytes : List UInt8}
    (outside : j + 1 < i ∨ i + bytes.length ≤ j) : word (copy data i bytes) j = word data j := by
  rw [word,byte_copy_outside data (by omega),byte_copy_outside data (by omega),word]

theorem word_copy_inside {data : List UInt8} {i : Nat} (fits : i + 2 ≤ data.length) (w : UInt16) :
    word (copy data i (wordBytes w)) i = w := by
  have first : byte (copy data i (wordBytes w)) i = UInt8.ofNat (w.toNat / 256) :=
    byte_copy_inside (j := 0) (by simpa [wordBytes] using fits) (by simp [wordBytes])
  have second : byte (copy data i (wordBytes w)) (i+1) = UInt8.ofNat (w.toNat % 256) :=
    byte_copy_inside (j := 1) (by simpa [wordBytes] using fits) (by simp [wordBytes])
  have small := w.toNat_lt
  apply UInt16.toNat_inj.mp
  rw [word,first,second]
  simp only [UInt8.toNat_ofNat',UInt16.toNat_ofNat']
  omega

/-- A copy replaces as many bytes as it has. -/
theorem copy_append (before : List UInt8) {old bytes : List UInt8} (after : List UInt8) (same : old.length = bytes.length) :
    copy (before ++ (old ++ after)) before.length bytes = before ++ (bytes ++ after) := by
  induction bytes generalizing before old with
  | nil =>
    rw [List.length_eq_zero_iff.mp same]
    rfl
  | cons b rest ih =>
    obtain ⟨o,old',rfl⟩ := List.exists_cons_of_length_eq_add_one same
    have onward := ih (before ++ [o]) (Nat.succ.inj same)
    rw [List.length_append,List.length_singleton,List.append_assoc,List.singleton_append] at onward
    rw [copy,List.cons_append,onward]
    simp

theorem copy_at {data bytes : List UInt8} {i : Nat} (fits : i + bytes.length ≤ data.length) :
    copy data i bytes = data.take i ++ (bytes ++ data.drop (i + bytes.length)) := by
  have replaced := copy_append (data.take i) (data.drop (i + bytes.length))
    (show ((data.drop i).take bytes.length).length = bytes.length by simp; omega)
  rw [← List.drop_drop,List.take_append_drop,List.take_append_drop,List.length_take,Nat.min_eq_left (by omega),
    List.drop_drop] at replaced
  exact replaced

theorem byte_beyond {data : List UInt8} {i : Nat} (beyond : data.length ≤ i) : byte data i = 0 := by
  simp only [byte,List.getD_eq_getElem?_getD,List.getElem?_eq_none beyond,Option.getD_none]

theorem ext_byte {data data' : List UInt8} (length : data'.length = data.length)
    (same : ∀ i < data.length, byte data' i = byte data i) : data' = data := by
  refine List.ext_getElem length (fun i inside' inside => ?_)
  have here := same i inside
  simpa only [byte,List.getD_eq_getElem?_getD,List.getElem?_eq_getElem inside,List.getElem?_eq_getElem inside',
    Option.getD_some] using here

/-- A word is its two bytes. -/
theorem word_eq_iff (data data' : List UInt8) (i : Nat) :
    word data' i = word data i ↔ byte data' i = byte data i ∧ byte data' (i+1) = byte data (i+1) := by
  constructor
  · intro same
    have sums := congrArg UInt16.toNat same
    have := (byte data i).toNat_lt
    have := (byte data (i+1)).toNat_lt
    have := (byte data' i).toNat_lt
    have := (byte data' (i+1)).toNat_lt
    simp only [word,UInt16.toNat_ofNat'] at sums
    exact ⟨UInt8.toNat_inj.mp (by omega),UInt8.toNat_inj.mp (by omega)⟩
  · rintro ⟨first,second⟩
    rw [word,first,second,word]

end Handover.Bytes
