import Mathlib.Data.List.AList
import Mathlib.Tactic

/-!
The two kinds of table that the programs keep. A Java map is an association list
without repeated keys; Mathlib has it, and here it gets the removal of all
entries with a property. A C hash table is an array of buckets, each a linked
list whose head is the newest record; an index outside the array is a fault.
-/
namespace Handover
universe u v

section maps
variable {Key : Type u} {Value : Type v} [DecidableEq Key]

/-- A Java map: an association list, in the order in which it is iterated. -/
abbrev Map (Key : Type u) (Value : Type v) := AList (fun _ : Key => Value)

/-- The map without the entries whose value fails the test. -/
def Map.keep (test : Value → Bool) (m : Map Key Value) : Map Key Value where
  entries := m.entries.filter (fun entry => test entry.2)
  nodupKeys := List.NodupKeys.sublist List.filter_sublist m.nodupKeys

theorem Map.mem_entries_iff (m : Map Key Value) (entry : Sigma (fun _ : Key => Value)) :
    entry ∈ m.entries ↔ m.lookup entry.1 = some entry.2 :=
  AList.mem_lookup_iff.symm

theorem Map.lookup_keep (test : Value → Bool) (m : Map Key Value) (key : Key) :
    (m.keep test).lookup key = (m.lookup key).filter test := by
  apply Option.ext
  intro value
  have inside := Map.mem_entries_iff (m.keep test) ⟨key,value⟩
  have outside := Map.mem_entries_iff m ⟨key,value⟩
  simp only [Map.keep,List.mem_filter] at inside
  simp only [Option.filter_eq_some_iff]
  exact inside.symm.trans (and_congr_left' outside)

theorem Map.lookup_of_perm {m other : Map Key Value} (same : m.entries.Perm other.entries) (key : Key) :
    m.lookup key = other.lookup key :=
  AList.perm_lookup same

theorem Map.lookup_insert_eq (m : Map Key Value) (key sought : Key) (value : Value) :
    (m.insert key value).lookup sought = if sought = key then some value else m.lookup sought := by
  by_cases same : sought = key
  · subst same; simp
  · simp [AList.lookup_insert_ne same,same]

end maps

section buckets
variable {Record : Type u}

/-- A C hash table: the buckets that were allocated, each from its newest
    record to its oldest. -/
structure Buckets (Record : Type u) where
  chains : List (List Record)
deriving DecidableEq

namespace Buckets

/-- A table of `size` empty buckets. -/
def empty (size : Nat) : Buckets Record := ⟨List.replicate size []⟩

/-- The bucket at the index, or a fault outside the allocated table. -/
def bucket (table : Buckets Record) (index : Nat) : Option (List Record) := table.chains[index]?

/-- The table with another bucket at the index. -/
def set (table : Buckets Record) (index : Nat) (chain : List Record) : Buckets Record :=
  ⟨table.chains.set index chain⟩

/-- The first record of the bucket that passes the test; the outer `none` is the
    fault of an index outside the table, the inner one the null pointer. -/
def find (table : Buckets Record) (index : Nat) (test : Record → Bool) : Option (Option Record) :=
  (table.bucket index).map (List.find? test)

/-- The table with the record in front of its bucket. -/
def push (table : Buckets Record) (index : Nat) (record : Record) : Option (Buckets Record) :=
  (table.bucket index).map (fun chain => table.set index (record :: chain))

/-- The list with its first element that passes the test changed. -/
def updateFirst (test : Record → Bool) (change : Record → Record) : List Record → List Record
  | [] => []
  | record :: rest => if test record then change record :: rest else record :: updateFirst test change rest

/-- The table with the record that `find` returns changed in place. -/
def update (table : Buckets Record) (index : Nat) (test : Record → Bool) (change : Record → Record) :
    Option (Buckets Record) :=
  (table.bucket index).map (fun chain => table.set index (updateFirst test change chain))

theorem bucket_empty (size index : Nat) :
    (empty size : Buckets Record).bucket index = if index < size then some [] else none := by
  simp [empty,bucket,List.getElem?_replicate]

theorem bucket_set (table : Buckets Record) (index other : Nat) (chain : List Record) :
    (table.set index chain).bucket other =
      if other = index then (table.bucket other).map (fun _ => chain) else table.bucket other := by
  simp only [set,bucket,List.getElem?_set]
  by_cases same : other = index
  · subst same
    by_cases inside : other < table.chains.length <;> simp [inside]
  · simp [same,Ne.symm same]

/-- Every record of the table has the property. -/
def All (holds : Record → Prop) (table : Buckets Record) : Prop :=
  ∀ i chain, table.bucket i = some chain → ∀ record ∈ chain, holds record

theorem All.mono {holds holds' : Record → Prop} {table : Buckets Record} (all : table.All holds)
    (weaker : ∀ record, holds record → holds' record) : table.All holds' :=
  fun i chain at_i record member => weaker record (all i chain at_i record member)

theorem all_empty (holds : Record → Prop) (size : Nat) : (empty size).All holds := by
  intro i chain at_i record member
  rw [bucket_empty] at at_i
  split at at_i
  · cases at_i
    cases member
  · cases at_i

/-- All records, bucket by bucket. -/
def contents (table : Buckets Record) : List Record := table.chains.flatten

/-- Another bucket instead of one changes the records by just those two. -/
theorem contents_set {table : Buckets Record} {index : Nat} {chain : List Record}
    (at_index : table.bucket index = some chain) (chain' : List Record) :
    (chain ++ (table.set index chain').contents).Perm (chain' ++ table.contents) := by
  obtain ⟨chains⟩ := table
  simp only [bucket,set,contents] at at_index ⊢
  induction chains generalizing index with
  | nil => simp at at_index
  | cons head rest ih =>
    cases index with
    | zero =>
      cases at_index
      simpa using List.perm_append_comm_assoc chain chain' rest.flatten
    | succ index =>
      have later := ih (by simpa using at_index)
      have swapped := (List.perm_append_comm_assoc chain head (rest.set index chain').flatten).trans
        ((later.append_left head).trans (List.perm_append_comm_assoc head chain' rest.flatten))
      simpa using swapped

theorem contents_push {table table' : Buckets Record} {index : Nat} {record : Record}
    (pushed : table.push index record = some table') : table'.contents.Perm (record :: table.contents) := by
  obtain ⟨chain,at_index,rfl⟩ := Option.map_eq_some_iff.mp pushed
  have changed := contents_set at_index (record :: chain)
  have front : (record :: chain ++ table.contents).Perm (chain ++ record :: table.contents) := List.perm_middle.symm
  exact (List.perm_append_left_iff chain).mp (changed.trans front)

theorem contents_empty (size : Nat) : (empty size : Buckets Record).contents = [] := by
  simp [contents,empty]

theorem mem_contents {table : Buckets Record} {record : Record} :
    record ∈ table.contents ↔ ∃ i chain, table.bucket i = some chain ∧ record ∈ chain := by
  simp only [contents,bucket,List.mem_flatten]
  constructor
  · rintro ⟨chain,inside,member⟩
    obtain ⟨i,at_i⟩ := List.mem_iff_getElem?.mp inside
    exact ⟨i,chain,at_i,member⟩
  · rintro ⟨i,chain,at_i,member⟩
    exact ⟨chain,List.mem_of_getElem? at_i,member⟩

theorem All.set {holds : Record → Prop} {table : Buckets Record} (all : table.All holds) {index : Nat}
    {chain : List Record} (new : ∀ record ∈ chain, holds record) : (table.set index chain).All holds := by
  intro i chain' at_i
  rw [bucket_set] at at_i
  split at at_i
  · obtain ⟨old,_,rfl⟩ := Option.map_eq_some_iff.mp at_i
    exact new
  · exact all i chain' at_i

theorem All.push {holds : Record → Prop} {table table' : Buckets Record} (all : table.All holds) {index : Nat}
    {record : Record} (new : holds record) (pushed : table.push index record = some table') : table'.All holds := by
  obtain ⟨chain,at_index,rfl⟩ := Option.map_eq_some_iff.mp pushed
  refine all.set (fun record' member => ?_)
  rcases List.mem_cons.mp member with rfl | old
  · exact new
  · exact all index chain at_index record' old

theorem mem_updateFirst {test : Record → Bool} {change : Record → Record} {chain : List Record} {record : Record}
    (member : record ∈ updateFirst test change chain) :
    record ∈ chain ∨ ∃ old ∈ chain, test old = true ∧ record = change old := by
  induction chain with
  | nil => simp [updateFirst] at member
  | cons head rest ih =>
    by_cases passes : test head
    · simp only [updateFirst,passes,if_true,List.mem_cons] at member
      rcases member with same | later
      · exact .inr ⟨head,by simp,passes,same⟩
      · exact .inl (by simp [later])
    · simp only [updateFirst,passes,Bool.false_eq_true,if_false,List.mem_cons] at member
      rcases member with same | later
      · exact .inl (by simp [same])
      · rcases ih later with old | ⟨old,inside,oldPasses,same⟩
        · exact .inl (by simp [old])
        · exact .inr ⟨old,by simp [inside],oldPasses,same⟩

theorem length_updateFirst (test : Record → Bool) (change : Record → Record) (chain : List Record) :
    (updateFirst test change chain).length = chain.length := by
  induction chain with
  | nil => rfl
  | cons head rest ih =>
    unfold updateFirst
    split
    · rfl
    · rw [List.length_cons,ih,List.length_cons]

/-- Looking for the updated record finds it changed, when the change does not
    hide it from the test. -/
theorem find_updateFirst_same (test : Record → Bool) (change : Record → Record)
    (stays : ∀ record, test record = true → test (change record) = true) (chain : List Record) :
    (updateFirst test change chain).find? test = (chain.find? test).map change := by
  induction chain with
  | nil => rfl
  | cons head rest ih =>
    by_cases passes : test head
    · simp [updateFirst,passes,stays head passes]
    · simp [updateFirst,passes,ih]

/-- A search that no changed record can affect finds what it found before. -/
theorem find_updateFirst_other (test other : Record → Bool) (change : Record → Record)
    (before : ∀ record, test record = true → other record = false)
    (after : ∀ record, test record = true → other (change record) = false) (chain : List Record) :
    (updateFirst test change chain).find? other = chain.find? other := by
  induction chain with
  | nil => rfl
  | cons head rest ih =>
    by_cases passes : test head
    · simp [updateFirst,passes,before head passes,after head passes]
    · simp only [updateFirst,passes,Bool.false_eq_true,if_false,List.find?_cons,ih]

/-! ### Records behind pointers -/

section pointers
universe w
variable {Record' : Type w}

/-- The table with every record replaced. -/
def map (f : Record → Record') (table : Buckets Record) : Buckets Record' := ⟨table.chains.map (List.map f)⟩

theorem bucket_map (f : Record → Record') (table : Buckets Record) (index : Nat) :
    (table.map f).bucket index = (table.bucket index).map (List.map f) :=
  List.getElem?_map

theorem find_map (f : Record → Record') (table : Buckets Record) (index : Nat) (test : Record' → Bool) :
    (table.map f).find index test = (table.find index (fun record => test (f record))).map (Option.map f) := by
  simp only [find,bucket_map,Option.map_map]
  congr 1
  funext chain
  exact List.find?_map

theorem push_map (f : Record → Record') (table : Buckets Record) (index : Nat) (record : Record) :
    (table.map f).push index (f record) = (table.push index record).map (map f) := by
  simp only [push,bucket_map,Option.map_map]
  congr 1
  funext chain
  simp only [Function.comp_apply,set,map,List.map_set,List.map_cons]

theorem map_congr {f g : Record → Record'} {table : Buckets Record}
    (same : ∀ record ∈ table.contents, f record = g record) : table.map f = table.map g := by
  simp only [map,mk.injEq]
  refine List.map_congr_left (fun chain inside => List.map_congr_left (fun record member => same record ?_))
  exact List.mem_flatten.mpr ⟨chain,inside,member⟩

section write
variable [DecidableEq Record] {f : Record → Record'} {record : Record}

/-- A write through a pointer that is not in the list changes nothing there. -/
theorem map_write_absent {chain : List Record} (absent : record ∉ chain) (value : Record') :
    chain.map (Function.update f record value) = chain.map f :=
  List.map_congr_left (fun other member => Function.update_of_ne (by rintro rfl; exact absent member) _ _)

/-- In a list of pointers, changing the first record that passes is a write through its
    pointer. -/
theorem updateFirst_map {test : Record' → Bool} {chain : List Record} (distinct : chain.Nodup)
    (found : chain.find? (fun record => test (f record)) = some record) (change : Record' → Record') :
    updateFirst test change (chain.map f) = chain.map (Function.update f record (change (f record))) := by
  induction chain with
  | nil => cases found
  | cons head rest ih =>
    obtain ⟨absent,later⟩ := List.nodup_cons.mp distinct
    by_cases passes : test (f head)
    · simp only [List.find?_cons,passes,Option.some.injEq] at found
      subst found
      simp only [List.map_cons,updateFirst,passes,if_true,Function.update_self,map_write_absent absent]
    · simp only [List.find?_cons,passes] at found
      have other : head ≠ record := fun same => absent (same ▸ List.mem_of_find?_eq_some found)
      simp only [List.map_cons,updateFirst,passes,Bool.false_eq_true,if_false,ih later found,
        Function.update_of_ne other]

/-- A write through a pointer changes only the bucket that has it. -/
theorem map_write {table : Buckets Record} (distinct : table.contents.Nodup) {index : Nat} {chain : List Record}
    (at_index : table.bucket index = some chain) (member : record ∈ chain) (value : Record') :
    table.map (Function.update f record value) =
      (table.map f).set index (chain.map (Function.update f record value)) := by
  obtain ⟨chains⟩ := table
  simp only [contents,bucket,map,set,mk.injEq] at distinct at_index ⊢
  induction chains generalizing index with
  | nil => simp at at_index
  | cons head rest ih =>
    obtain ⟨_,later,apart⟩ := List.nodup_append.mp (List.flatten_cons ▸ distinct)
    cases index with
    | zero =>
      cases at_index
      have absent : ∀ chain' ∈ rest, record ∉ chain' :=
        fun chain' inside member' => apart record member record (List.mem_flatten.mpr ⟨chain',inside,member'⟩) rfl
      simp only [List.map_cons,List.set_cons_zero,List.cons.injEq,true_and]
      exact List.map_congr_left (fun chain' inside => map_write_absent (absent chain' inside) value)
    | succ index =>
      have at_rest : rest[index]? = some chain := by simpa using at_index
      have absent : record ∉ head := fun member' =>
        apart record member' record (List.mem_flatten.mpr ⟨chain,List.mem_of_getElem? at_rest,member⟩) rfl
      simp only [List.map_cons,List.set_cons_succ,map_write_absent absent,ih later at_rest]

/-- Changing the record that is found is a write through its pointer. -/
theorem update_map {table : Buckets Record} (distinct : table.contents.Nodup) {index : Nat} {test : Record' → Bool}
    (found : table.find index (fun record => test (f record)) = some (some record)) (change : Record' → Record') :
    (table.map f).update index test change = some (table.map (Function.update f record (change (f record)))) := by
  obtain ⟨chain,at_index,first⟩ := Option.map_eq_some_iff.mp found
  have one : chain.Nodup := (List.nodup_flatten.mp distinct).1 chain (List.mem_of_getElem? at_index)
  rw [map_write distinct at_index (List.mem_of_find?_eq_some first)]
  simp only [update,bucket_map,at_index,Option.map_some,updateFirst_map one first change]

end write
end pointers

/-! ### Tables with a key

`hash` gives the bucket of a key and `key` the key of a record. As long as every
record is in the bucket of its key, the table is a finite map. -/

section keyed
variable {Key : Type v} (hash : Key → Nat) (key : Record → Key)

/-- Every record is in the bucket of its key, and the only one there with it. -/
structure Kept (table : Buckets Record) : Prop where
  placed : ∀ i chain, table.bucket i = some chain → ∀ record ∈ chain, hash (key record) = i
  distinct : ∀ i chain, table.bucket i = some chain → (chain.map key).Nodup

variable {hash key}

theorem kept_empty (size : Nat) : Kept hash key (empty size : Buckets Record) := by
  have none : ∀ i chain, (empty size : Buckets Record).bucket i = some chain → chain = [] := by
    intro i chain at_i
    rw [bucket_empty] at at_i
    split at at_i
    · exact (Option.some.inj at_i).symm
    · cases at_i
  refine ⟨?_,?_⟩
  · intro i chain at_i record member
    rw [none i chain at_i] at member
    cases member
  · intro i chain at_i
    rw [none i chain at_i]
    exact List.nodup_nil

/-- Replacing a bucket by one that is kept as well keeps the table. -/
theorem Kept.set {table : Buckets Record} (kept : Kept hash key table) {i : Nat} {chain : List Record}
    (placed : ∀ record ∈ chain, hash (key record) = i) (distinct : (chain.map key).Nodup) :
    Kept hash key (table.set i chain) := by
  have cases_of : ∀ j chain', (table.set i chain).bucket j = some chain' →
      j = i ∧ chain' = chain ∨ table.bucket j = some chain' := by
    intro j chain' at_j
    rw [bucket_set] at at_j
    split at at_j
    · obtain ⟨_,_,rfl⟩ := Option.map_eq_some_iff.mp at_j
      exact .inl ⟨‹_›,rfl⟩
    · exact .inr at_j
  refine ⟨?_,?_⟩
  · intro j chain' at_j record member
    rcases cases_of j chain' at_j with ⟨rfl,rfl⟩ | old
    · exact placed record member
    · exact kept.placed j chain' old record member
  · intro j chain' at_j
    rcases cases_of j chain' at_j with ⟨rfl,rfl⟩ | old
    · exact distinct
    · exact kept.distinct j chain' old

theorem map_key_updateFirst {test : Record → Bool} {change : Record → Record}
    (keeps : ∀ record, key (change record) = key record) (chain : List Record) :
    (updateFirst test change chain).map key = chain.map key := by
  induction chain with
  | nil => rfl
  | cons record rest ih =>
    simp only [updateFirst]
    split
    · simp [keeps]
    · simp [ih]

theorem Kept.update {table table' : Buckets Record} (kept : Kept hash key table) {change : Record → Record} {i : Nat}
    {test : Record → Bool} (keeps : ∀ record, key (change record) = key record)
    (updated : table.update i test change = some table') : Kept hash key table' := by
  obtain ⟨chain,at_i,rfl⟩ := Option.map_eq_some_iff.mp updated
  refine kept.set ?_ ?_
  · intro record member
    rcases mem_updateFirst member with old | ⟨old,inside,_,rfl⟩
    · exact kept.placed i chain at_i record old
    · rw [keeps]
      exact kept.placed i chain at_i old inside
  · rw [map_key_updateFirst keeps]
    exact kept.distinct i chain at_i

variable [DecidableEq Key]

variable (hash key) in
/-- The record under the key. -/
def get (table : Buckets Record) (k : Key) : Option (Option Record) :=
  table.find (hash k) (fun record => key record = k)

variable (hash key) in
theorem get_empty (size : Nat) (k : Key) :
    get hash key (empty size : Buckets Record) k = if hash k < size then some none else none := by
  simp only [get,find,bucket_empty]
  split <;> rfl

variable (hash key) in
theorem mem_contents_of_get {table : Buckets Record} {k : Key} {record : Record}
    (found : get hash key table k = some (some record)) : record ∈ table.contents := by
  obtain ⟨chain,at_k,first⟩ := Option.map_eq_some_iff.mp found
  exact mem_contents.mpr ⟨_,chain,at_k,List.mem_of_find?_eq_some first⟩

theorem get_congr {key' : Record → Key} {table : Buckets Record} (same : ∀ record ∈ table.contents, key record = key' record) (k : Key) :
    get hash key table k = get hash key' table k := by
  have chains : ∀ chain, table.bucket (hash k) = some chain →
      chain.find? (fun record => key record = k) = chain.find? (fun record => key' record = k) := by
    intro chain at_k
    refine List.find?_congr (fun record member => ?_)
    rw [same record (mem_contents.mpr ⟨_,chain,at_k,member⟩)]
  simp only [get,find]
  cases at_k : table.bucket (hash k) with
  | none => rfl
  | some chain => simp only [Option.map_some,chains chain at_k]

/-- What a lookup finds after one bucket has been replaced. -/
theorem get_set {table : Buckets Record} {k : Key} {chain : List Record} (at_k : table.bucket (hash k) = some chain)
    (chain' : List Record) (k' : Key) :
    get hash key (table.set (hash k) chain') k' =
      if hash k' = hash k then some (chain'.find? (fun record => key record = k')) else get hash key table k' := by
  simp only [get,find,bucket_set]
  by_cases same : hash k' = hash k
  · simp [same,at_k]
  · simp [same]

variable (hash key) in
theorem get_push {table table' : Buckets Record} {record : Record} {k : Key} (isKey : key record = k)
    (pushed : table.push (hash k) record = some table') (k' : Key) :
    get hash key table' k' = if k' = k then some (some record) else get hash key table k' := by
  obtain ⟨chain,at_k,rfl⟩ := Option.map_eq_some_iff.mp pushed
  rw [get_set at_k]
  by_cases same : k' = k
  · subst same
    simp [isKey]
  · have other : ¬ key record = k' := fun equal => same (equal.symm.trans isKey)
    simp only [same,if_false,List.find?_cons,other,decide_false]
    split
    · rename_i sameBucket
      simp [get,find,sameBucket,at_k]
    · rfl

variable (hash key) in
theorem get_update {table table' : Buckets Record} {change : Record → Record} {k : Key}
    (keeps : ∀ record, key (change record) = key record)
    (updated : table.update (hash k) (fun record => key record = k) change = some table') (k' : Key) :
    get hash key table' k' =
      if k' = k then (get hash key table k).map (Option.map change) else get hash key table k' := by
  obtain ⟨chain,at_k,rfl⟩ := Option.map_eq_some_iff.mp updated
  rw [get_set at_k]
  by_cases same : k' = k
  · subst same
    have stays := find_updateFirst_same (fun record => decide (key record = k')) change (by simp [keeps]) chain
    simp [get,find,at_k,stays]
  · simp only [same,if_false]
    split
    · rename_i sameBucket
      have other := find_updateFirst_other (fun record => decide (key record = k)) (fun record => decide (key record = k')) change
        (by simp only [decide_eq_true_eq,decide_eq_false_iff_not]; rintro record rfl equal; exact same equal.symm)
        (by simp only [decide_eq_true_eq,decide_eq_false_iff_not,keeps]; rintro record rfl equal; exact same equal.symm)
        chain
      simp [get,find,sameBucket,at_k,other]
    · rfl

theorem Kept.push {table table' : Buckets Record} (kept : Kept hash key table) {record : Record} {k : Key}
    (isKey : key record = k) (absent : get hash key table k = some none)
    (pushed : table.push (hash k) record = some table') : Kept hash key table' := by
  obtain ⟨chain,at_k,rfl⟩ := Option.map_eq_some_iff.mp pushed
  have fresh : ∀ other ∈ chain, key other ≠ k := by
    simpa [get,find,at_k] using absent
  refine kept.set ?_ ?_
  · intro other member
    rcases List.mem_cons.mp member with same | later
    · rw [same,isKey]
    · exact kept.placed _ chain at_k other later
  · simp only [List.map_cons,List.nodup_cons,List.mem_map]
    refine ⟨?_,kept.distinct _ chain at_k⟩
    rintro ⟨other,member,equal⟩
    exact fresh other member (equal.trans isKey)

/-- In a kept table every record is what its key finds. -/
theorem Kept.get_eq {table : Buckets Record} (kept : Kept hash key table) {i : Nat} {chain : List Record}
    (at_i : table.bucket i = some chain) {record : Record} (member : record ∈ chain) :
    get hash key table (key record) = some (some record) := by
  have isBucket := kept.placed i chain at_i record member
  have first : chain.find? (fun other => key other = key record) = some record := by
    have distinct := kept.distinct i chain at_i
    clear at_i isBucket
    induction chain with
    | nil => cases member
    | cons head rest ih =>
      simp only [List.map_cons,List.nodup_cons,List.mem_map] at distinct
      rcases List.mem_cons.mp member with same | later
      · simp [same]
      · have other : ¬ key head = key record := fun equal => distinct.1 ⟨record,later,equal.symm⟩
        simp only [List.find?_cons,other,decide_false]
        exact ih later distinct.2
  simp [get,find,isBucket,at_i,first]

variable (hash key) in
theorem key_of_get {table : Buckets Record} {k : Key} {record : Record}
    (found : get hash key table k = some (some record)) : key record = k := by
  obtain ⟨chain,_,first⟩ := Option.map_eq_some_iff.mp found
  simpa using List.find?_some first

/-- The table once the record under the key, a fresh one if there was none, has
    been changed. -/
def put (hash : Key → Nat) (key : Record → Key) (table : Buckets Record) (k : Key) (fresh : Record)
    (change : Record → Record) : Option (Buckets Record) :=
  (get hash key table k).bind (fun found =>
    (if found.isSome then some table else table.push (hash k) fresh).bind (fun table =>
      table.update (hash k) (fun record => key record = k) change))

theorem get_put {table table' : Buckets Record} {k : Key} {fresh : Record} {change : Record → Record}
    (isKey : key fresh = k) (keeps : ∀ record, key (change record) = key record)
    (done : put hash key table k fresh change = some table') (k' : Key) :
    get hash key table' k' =
      if k' = k then some (some (change ((get hash key table k).join.getD fresh))) else get hash key table k' := by
  obtain ⟨found,isFound,rest⟩ := Option.bind_eq_some_iff.mp done
  obtain ⟨middle,pushed,updated⟩ := Option.bind_eq_some_iff.mp rest
  rw [get_update hash key keeps updated k']
  cases found with
  | some record =>
    cases pushed
    simp [isFound]
  | none =>
    rw [get_push hash key isKey pushed,get_push hash key isKey pushed]
    by_cases same : k' = k
    · simp [same,isFound]
    · simp [same]

theorem Kept.put {table table' : Buckets Record} (kept : Kept hash key table) {k : Key} {fresh : Record}
    {change : Record → Record} (isKey : key fresh = k) (keeps : ∀ record, key (change record) = key record)
    (done : put hash key table k fresh change = some table') : Kept hash key table' := by
  obtain ⟨found,isFound,rest⟩ := Option.bind_eq_some_iff.mp done
  obtain ⟨middle,pushed,updated⟩ := Option.bind_eq_some_iff.mp rest
  refine Kept.update ?_ keeps updated
  cases found with
  | some record => cases pushed; exact kept
  | none => exact kept.push isKey isFound pushed

end keyed
end Buckets
end buckets
end Handover
