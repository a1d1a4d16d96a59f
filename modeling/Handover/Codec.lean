import Handover.Bytes

/-!
Readers of a byte buffer and the layout of C structs. A reader takes bytes from the
front and fails where the buffer is too short, as the getters of a Java buffer throw;
`Reads` says what it makes of given bytes, `Consumes` how many it takes. A struct is
laid out with each member at the next offset its alignment allows, and is read back by
laying it over a buffer.
-/
namespace Handover.Codec
open Bytes

/-! ### Readers -/

abbrev Reader := StateT (List UInt8) Option

def readByte : Reader UInt8
  | [] => none
  | b :: rest => some (b,rest)

def readBytes (n : Nat) : Reader (Vector UInt8 n) := fun data =>
  if enough : n ≤ data.length then some (⟨(data.take n).toArray,by simp [enough]⟩,data.drop n) else none

def skip (n : Nat) : Reader Unit := do
  let _ ← readBytes n

/-- A 16-bit word in network order. -/
def readShort : Reader UInt16 := do
  let high ← readByte
  let low ← readByte
  return UInt16.ofNat (high.toNat * 256 + low.toNat)

/-- A 32-bit word in network order. -/
def readInt : Reader UInt32 := do
  let high ← readShort
  let low ← readShort
  return UInt32.ofNat (high.toNat * 65536 + low.toNat)

/-- A 64-bit word in network order. -/
def readQuad : Reader UInt64 := do
  let high ← readInt
  let low ← readInt
  return UInt64.ofNat (high.toNat * 4294967296 + low.toNat)

/-- The four bytes of a word. -/
def longBytes (w : UInt32) : List UInt8 :=
  wordBytes (UInt16.ofNat (w.toNat / 65536)) ++ wordBytes (UInt16.ofNat (w.toNat % 65536))

/-- The eight bytes of a word. -/
def quadBytes (w : UInt64) : List UInt8 :=
  longBytes (UInt32.ofNat (w.toNat / 4294967296)) ++ longBytes (UInt32.ofNat (w.toNat % 4294967296))

@[simp] theorem length_wordBytes (w : UInt16) : (wordBytes w).length = 2 := rfl

@[simp] theorem length_longBytes (w : UInt32) : (longBytes w).length = 4 := rfl

@[simp] theorem length_quadBytes (w : UInt64) : (quadBytes w).length = 8 := rfl

section
variable {α β : Type}

/-- The reader takes exactly the bytes, whatever follows them, for the value. -/
def Reads (r : Reader α) (bytes : List UInt8) (a : α) : Prop := ∀ rest, r (bytes ++ rest) = some (a,rest)

/-- Whenever it does not fail, the reader takes as many bytes. -/
def Consumes (r : Reader α) (n : Nat) : Prop := ∀ data a rest, r data = some (a,rest) → data.length = n + rest.length

/-- Whenever it does not fail, the reader gives such a value. -/
def Yields (r : Reader α) (p : α → Prop) : Prop := ∀ data a rest, r data = some (a,rest) → p a

theorem reads_pure (a : α) : Reads (pure a) [] a := fun _ => rfl

theorem Reads.bind {r : Reader α} {f : α → Reader β} {u v : List UInt8} {a : α} {b : β} (first : Reads r u a)
    (second : Reads (f a) v b) : Reads (r >>= f) (u ++ v) b := by
  intro rest
  change (r (u ++ v ++ rest)).bind (fun p => f p.1 p.2) = _
  rw [List.append_assoc,first (v ++ rest)]
  exact second rest

/-- What is read behind the first reader. -/
theorem Reads.after {r : Reader α} {f : α → Reader β} {u v : List UInt8} {a : α} {b : β}
    (both : Reads (r >>= f) (u ++ v) b) (first : Reads r u a) : Reads (f a) v b := by
  intro rest
  have read : (r (u ++ v ++ rest)).bind (fun p => f p.1 p.2) = _ := both rest
  rwa [List.append_assoc,first (v ++ rest)] at read

/-- The last reader that takes bytes. -/
theorem Reads.finish {r : Reader α} {f : α → Reader β} {u : List UInt8} {a : α} {b : β} (last : Reads r u a)
    (rest : Reads (f a) [] b) : Reads (r >>= f) u b := by
  have both := last.bind rest
  rwa [List.append_nil] at both

/-- The last reader before a value is returned. -/
theorem Reads.returns {r : Reader α} {g : α → β} {u : List UInt8} {a : α} {b : β} (last : Reads r u a) (value : g a = b) :
    Reads (r >>= fun a => pure (g a)) u b := by
  subst value
  have both := last.bind (f := fun a => pure (g a)) (reads_pure (g a))
  rwa [List.append_nil] at both

theorem consumes_pure (a : α) : Consumes (pure a : Reader α) 0 := by
  intro data b rest ran
  cases ran
  simp

theorem Consumes.bind {r : Reader α} {f : α → Reader β} {n m : Nat} (first : Consumes r n)
    (second : ∀ a, Consumes (f a) m) : Consumes (r >>= f) (n + m) := by
  intro data b rest ran
  obtain ⟨⟨a,middle⟩,isFirst,isSecond⟩ := Option.bind_eq_some_iff.mp (show (r data).bind _ = _ from ran)
  rw [first data a middle isFirst,second a middle b rest isSecond]
  omega

theorem yields_pure {a : α} {p : α → Prop} (holds : p a) : Yields (pure a) p := by
  intro data b rest ran
  cases ran
  exact holds

theorem Yields.bind {r : Reader α} {f : α → Reader β} {p : β → Prop} (last : ∀ a, Yields (f a) p) :
    Yields (r >>= f) p := by
  intro data b rest ran
  obtain ⟨⟨a,middle⟩,_,isSecond⟩ := Option.bind_eq_some_iff.mp (show (r data).bind _ = _ from ran)
  exact last a middle b rest isSecond

end

theorem reads_byte (b : UInt8) : Reads readByte [b] b := fun _ => rfl

theorem reads_bytes {n : Nat} (v : Vector UInt8 n) : Reads (readBytes n) v.toList v := by
  intro rest
  have size : v.toList.length = n := by simp
  have enough : n ≤ (v.toList ++ rest).length := by simp
  rw [readBytes,dif_pos enough]
  simp only [List.drop_left' size,List.take_left' size]
  rfl

theorem reads_skip {n : Nat} {bytes : List UInt8} (size : bytes.length = n) : Reads (skip n) bytes () := by
  have read := reads_bytes (⟨bytes.toArray,by simpa using size⟩ : Vector UInt8 n)
  rw [Vector.toList_mk,List.toList_toArray] at read
  exact read.returns rfl

theorem reads_short (w : UInt16) : Reads readShort (wordBytes w) w := by
  intro rest
  have small := w.toNat_lt
  have value : UInt16.ofNat ((UInt8.ofNat (w.toNat / 256)).toNat * 256 + (UInt8.ofNat (w.toNat % 256)).toNat) = w := by
    apply UInt16.toNat_inj.mp
    simp only [UInt8.toNat_ofNat',UInt16.toNat_ofNat']
    omega
  change some (UInt16.ofNat _,rest) = _
  rw [value]

theorem reads_int (w : UInt32) : Reads readInt (longBytes w) w := by
  refine (reads_short _).bind ((reads_short _).returns ?_)
  have small := w.toNat_lt
  apply UInt32.toNat_inj.mp
  simp only [UInt16.toNat_ofNat',UInt32.toNat_ofNat']
  omega

theorem reads_quad (w : UInt64) : Reads readQuad (quadBytes w) w := by
  refine (reads_int _).bind ((reads_int _).returns ?_)
  have small := w.toNat_lt
  apply UInt64.toNat_inj.mp
  simp only [UInt32.toNat_ofNat',UInt64.toNat_ofNat']
  omega

theorem consumes_byte : Consumes readByte 1 := by
  intro data b rest ran
  cases data with
  | nil => cases ran
  | cons head tail =>
    cases ran
    simp [Nat.add_comm]

theorem consumes_bytes (n : Nat) : Consumes (readBytes n) n := by
  intro data v rest ran
  unfold readBytes at ran
  split at ran
  · cases ran
    simp only [List.length_drop]
    omega
  · cases ran

theorem consumes_skip (n : Nat) : Consumes (skip n) n :=
  (consumes_bytes n).bind (fun _ => consumes_pure ())

theorem consumes_short : Consumes readShort 2 :=
  consumes_byte.bind (fun _ => consumes_byte.bind (fun _ => consumes_pure _))

theorem consumes_int : Consumes readInt 4 :=
  consumes_short.bind (fun _ => consumes_short.bind (fun _ => consumes_pure _))

/-! ### Structs -/

/-- A member of a struct: the alignment of its type, and its bytes. -/
structure Member where
  align : Nat
  bytes : List UInt8

/-- What is left free in front of a member at the offset. -/
def padding (offset align : Nat) : Nat := (align - offset % align) % align

/-- The members from the offset on, each where its alignment allows. -/
def layOut : Nat → List Member → List UInt8
  | _, [] => []
  | offset, m :: rest => List.replicate (padding offset m.align) 0 ++
      (m.bytes ++ layOut (offset + padding offset m.align + m.bytes.length) rest)

/-- What is left free behind the last member: the size of a struct is a multiple of
    every alignment. -/
def trailing (members : List Member) : List UInt8 :=
  List.replicate (padding (layOut 0 members).length ((members.map Member.align).foldr Nat.lcm 1)) 0

/-- A cleared struct with its members set. -/
def struct (members : List Member) : List UInt8 := layOut 0 members ++ trailing members

theorem padding_one (offset : Nat) : padding offset 1 = 0 := by
  rw [padding,Nat.mod_one]

theorem layOut_unaligned {members : List Member} (anywhere : ∀ m ∈ members, m.align = 1) (offset : Nat) :
    layOut offset members = (members.map Member.bytes).flatten := by
  induction members generalizing offset with
  | nil => rfl
  | cons m rest ih =>
    rw [layOut,anywhere m List.mem_cons_self,padding_one,
      ih (fun m' member => anywhere m' (List.mem_cons_of_mem _ member))]
    rfl

theorem lcm_unaligned {members : List Member} (anywhere : ∀ m ∈ members, m.align = 1) :
    (members.map Member.align).foldr Nat.lcm 1 = 1 := by
  induction members with
  | nil => rfl
  | cons m rest ih =>
    rw [List.map_cons,List.foldr_cons,anywhere m List.mem_cons_self,Nat.lcm_one_left]
    exact ih (fun m' member => anywhere m' (List.mem_cons_of_mem _ member))

/-- Members that may stand anywhere follow one another. -/
theorem struct_unaligned {members : List Member} (anywhere : ∀ m ∈ members, m.align = 1) :
    struct members = (members.map Member.bytes).flatten := by
  rw [struct,layOut_unaligned anywhere,trailing,lcm_unaligned anywhere,padding_one,List.replicate_zero,List.append_nil]

/-- Alignments and sizes of the members. -/
abbrev Shape := List (Nat × Nat)

def shape (members : List Member) : Shape := members.map (fun m => (m.align,m.bytes.length))

/-- Where the member of the index lies when the members start at the offset. -/
def offsetFrom : Nat → Shape → Nat → Nat
  | offset, [], _ => offset
  | offset, (align,_) :: _, 0 => offset + padding offset align
  | offset, (align,size) :: rest, i+1 => offsetFrom (offset + padding offset align + size) rest i

/-- C's `offsetof`. -/
def offsetOf (s : Shape) (i : Nat) : Nat := offsetFrom 0 s i

theorem layOut_member {members : List Member} {i : Nat} {m : Member} (found : members[i]? = some m) (offset : Nat) :
    ∃ before after, layOut offset members = before ++ (m.bytes ++ after) ∧
      offset + before.length = offsetFrom offset (shape members) i := by
  induction members generalizing offset i with
  | nil => simp at found
  | cons head rest ih =>
    cases i with
    | zero =>
      cases found
      exact ⟨_,_,rfl,by simp [shape,offsetFrom]⟩
    | succ i =>
      obtain ⟨before,after,isLayout,isOffset⟩ :=
        ih (by simpa using found) (offset + padding offset head.align + head.bytes.length)
      refine ⟨List.replicate (padding offset head.align) 0 ++ (head.bytes ++ before),after,?_,?_⟩
      · rw [layOut,isLayout]
        simp only [List.append_assoc]
      · simp only [List.length_append,List.length_replicate,shape,List.map_cons,offsetFrom]
        rw [shape] at isOffset
        omega

/-- A member is found in its struct at its offset. -/
theorem struct_member {members : List Member} {i : Nat} {m : Member} (found : members[i]? = some m) :
    ∃ before after, struct members = before ++ (m.bytes ++ after) ∧ before.length = offsetOf (shape members) i := by
  obtain ⟨before,after,isLayout,isOffset⟩ := layOut_member found 0
  refine ⟨before,after ++ trailing members,?_,by rw [offsetOf,← isOffset,Nat.zero_add]⟩
  rw [struct,isLayout]
  simp only [List.append_assoc]

/-! ### Structs over a buffer -/

/-- The bytes lie in the buffer at the offset. -/
def Holds (str : List UInt8) (i : Nat) (bytes : List UInt8) : Prop :=
  ∃ before after, str = before ++ (bytes ++ after) ∧ before.length = i

theorem Holds.byte {str bytes : List UInt8} {i j : Nat} (holds : Holds str i bytes) (inside : j < bytes.length) :
    Bytes.byte str (i + j) = Bytes.byte bytes j := by
  obtain ⟨before,after,rfl,rfl⟩ := holds
  simp only [Bytes.byte,List.getD_eq_getElem?_getD]
  rw [List.getElem?_append_right (by omega),Nat.add_sub_cancel_left,List.getElem?_append_left inside]

theorem Holds.word {str : List UInt8} {i : Nat} {w : UInt16} (holds : Holds str i (wordBytes w)) : Bytes.word str i = w := by
  have first : Bytes.byte str i = UInt8.ofNat (w.toNat / 256) := holds.byte (j := 0) (by simp)
  have second : Bytes.byte str (i+1) = UInt8.ofNat (w.toNat % 256) := holds.byte (j := 1) (by simp)
  have small := w.toNat_lt
  apply UInt16.toNat_inj.mp
  rw [Bytes.word,first,second]
  simp only [UInt8.toNat_ofNat',UInt16.toNat_ofNat']
  omega

theorem Holds.left {str u v : List UInt8} {i : Nat} (holds : Holds str i (u ++ v)) : Holds str i u := by
  obtain ⟨before,after,rfl,size⟩ := holds
  exact ⟨before,v ++ after,by simp,size⟩

theorem Holds.right {str u v : List UInt8} {i : Nat} (holds : Holds str i (u ++ v)) : Holds str (i + u.length) v := by
  obtain ⟨before,after,rfl,rfl⟩ := holds
  exact ⟨before ++ u,after,by simp,by simp⟩

/-- The 32-bit word at the offset: C's `ntohl`. -/
def long (data : List UInt8) (i : Nat) : UInt32 :=
  UInt32.ofNat ((word data i).toNat * 65536 + (word data (i+2)).toNat)

theorem longBytes_long (data : List UInt8) (i : Nat) :
    longBytes (long data i) = wordBytes (word data i) ++ wordBytes (word data (i+2)) := by
  have high := (word data i).toNat_lt
  have low := (word data (i+2)).toNat_lt
  have value : (long data i).toNat = (word data i).toNat * 65536 + (word data (i+2)).toNat := by
    rw [long,UInt32.toNat_ofNat']
    omega
  have first : (long data i).toNat / 65536 = (word data i).toNat := by omega
  have second : (long data i).toNat % 65536 = (word data (i+2)).toNat := by omega
  rw [longBytes,first,second,UInt16.ofNat_toNat,UInt16.ofNat_toNat]

theorem Holds.long {str : List UInt8} {i : Nat} {w : UInt32} (holds : Holds str i (longBytes w)) : Codec.long str i = w := by
  have first := holds.left.word
  have second : Bytes.word str (i + 2) = _ := holds.right.word
  have small := w.toNat_lt
  apply UInt32.toNat_inj.mp
  rw [Codec.long,first,second]
  simp only [UInt16.toNat_ofNat',UInt32.toNat_ofNat']
  omega

/-- The array at the offset. -/
def array (n : Nat) (data : List UInt8) (i : Nat) : Vector UInt8 n := Vector.ofFn (fun j => byte data (i + j))

theorem Holds.array {n : Nat} {str : List UInt8} {i : Nat} {v : Vector UInt8 n} (holds : Holds str i v.toList) :
    Codec.array n str i = v := by
  refine Vector.ext (fun j inside => ?_)
  have there : Bytes.byte str (i + j) = Bytes.byte v.toList j := holds.byte (by simpa using inside)
  rw [Codec.array,Vector.getElem_ofFn,there]
  simp [Bytes.byte,inside]

/-- A struct laid over the buffer has its members at their offsets. -/
theorem Holds.member {str : List UInt8} {base i : Nat} {members : List Member} {m : Member}
    (holds : Holds str base (struct members)) (found : members[i]? = some m) :
    Holds str (base + offsetOf (shape members) i) m.bytes := by
  obtain ⟨before,after,isStruct,isOffset⟩ := struct_member found
  rw [isStruct] at holds
  rw [← isOffset]
  exact holds.right.left

end Handover.Codec
