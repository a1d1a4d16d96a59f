import Handover.Tables

/-!
Hash tables as finite maps, and what it means that a table implements one: whatever
calls are made in a row, each of them stays inside the table, answers what the map
says and leaves a table that holds the map after the call.
-/
namespace Handover
universe u v w x

/-! ### Calls in a row -/

section refinement
variable {Table : Type u} {Call : Type v} {Result : Type w} {Spec : Type x}

/-- The calls return, one after the other, with the answers of the specification, and the
    table holds the state of the specification after each. -/
def Refines (call : Table → Call → Option (Table × Result)) (answers : Spec → Call → Result → Spec → Prop)
    (holds : Spec → Table → Prop) : Spec → Table → List Call → Prop
  | m, table, [] => holds m table
  | m, table, c :: rest => holds m table ∧ ∃ table' result m',
      call table c = some (table',result) ∧ answers m c result m' ∧ Refines call answers holds m' table' rest

variable {call : Table → Call → Option (Table × Result)} {answers : Spec → Call → Result → Spec → Prop}
  {holds : Spec → Table → Prop} {inside : Call → Prop}

theorem Refines.start {m : Spec} {table : Table} {calls : List Call} (refines : Refines call answers holds m table calls) :
    holds m table := by
  cases calls with
  | nil => exact refines
  | cons c rest => exact refines.1

/-- Where calls answer exactly inside the table, a sequence of them does if all are inside. -/
theorem refines_iff
    (returns : ∀ m table c, holds m table → inside c →
      ∃ table' result m', call table c = some (table',result) ∧ answers m c result m' ∧ holds m' table')
    (faults : ∀ m table c, holds m table → ¬ inside c → call table c = none)
    {m : Spec} {table : Table} (start : holds m table) (calls : List Call) :
    Refines call answers holds m table calls ↔ ∀ c ∈ calls, inside c := by
  induction calls generalizing m table with
  | nil => simp [Refines,start]
  | cons c rest ih =>
    rw [List.forall_mem_cons]
    constructor
    · rintro ⟨_,table',result,m',returned,_,later⟩
      refine ⟨?_,(ih later.start).mp later⟩
      by_contra outside
      rw [faults m table c start outside] at returned
      cases returned
    · rintro ⟨here,later⟩
      obtain ⟨table',result,m',returned,answered,held⟩ := returns m table c start here
      exact ⟨start,table',result,m',returned,answered,(ih held).mpr later⟩

end refinement

namespace Buckets

/-- A change in place leaves the number of records. -/
theorem length_contents_update {Record : Type u} {table table' : Buckets Record} {index : Nat} {test : Record → Bool}
    {change : Record → Record} (updated : table.update index test change = some table') :
    table'.contents.length = table.contents.length := by
  obtain ⟨chain,at_index,rfl⟩ := Option.map_eq_some_iff.mp updated
  have changed := (contents_set at_index (updateFirst test change chain)).length_eq
  rw [List.length_append,List.length_append,length_updateFirst] at changed
  omega

variable {Record : Type u} {Key : Type v} [DecidableEq Key] (hash : Key → Nat) (key : Record → Key)

/-- The table has `size` buckets and holds the map. -/
structure Represents (size : Nat) (m : Key → Option Record) (table : Buckets Record) : Prop where
  kept : Kept hash key table
  found : ∀ k, get hash key table k = if hash k < size then some (m k) else none
  outside : ∀ k, ¬ hash k < size → m k = none

variable {hash key} {size : Nat} {m : Key → Option Record} {table : Buckets Record}

theorem represents_empty (size : Nat) : Represents hash key size (fun _ => none) (empty size) where
  kept := kept_empty size
  found := get_empty hash key size
  outside := fun _ _ => rfl

namespace Represents

theorem get_inside (represents : Represents hash key size m table) {k : Key} (inside : hash k < size) :
    get hash key table k = some (m k) := by
  rw [represents.found,if_pos inside]

theorem get_outside (represents : Represents hash key size m table) {k : Key} (outside : ¬ hash k < size) :
    get hash key table k = none := by
  rw [represents.found,if_neg outside]

theorem inside_of_some (represents : Represents hash key size m table) {k : Key} {record : Record}
    (isSome : m k = some record) : hash k < size := by
  by_contra outside
  rw [represents.outside k outside] at isSome
  cases isSome

theorem get_of_some (represents : Represents hash key size m table) {k : Key} {record : Record}
    (isSome : m k = some record) : get hash key table k = some (some record) := by
  rw [represents.get_inside (represents.inside_of_some isSome),isSome]

/-- The records of the table are those of the map. -/
theorem mem_contents_iff (represents : Represents hash key size m table) {record : Record} :
    record ∈ table.contents ↔ m (key record) = some record := by
  constructor
  · intro member
    obtain ⟨i,chain,at_i,inChain⟩ := mem_contents.mp member
    have itself := represents.kept.get_eq at_i inChain
    rw [represents.found] at itself
    split at itself
    · exact Option.some.inj itself
    · cases itself
  · intro isSome
    exact mem_contents_of_get hash key (represents.get_of_some isSome)

/-- A bucket of the table is there. -/
theorem bucket_inside (represents : Represents hash key size m table) {k : Key} (inside : hash k < size) :
    ∃ chain, table.bucket (hash k) = some chain := by
  obtain ⟨chain,at_k,_⟩ := Option.map_eq_some_iff.mp (represents.get_inside inside)
  exact ⟨chain,at_k⟩

theorem bucket_outside (represents : Represents hash key size m table) {k : Key} (outside : ¬ hash k < size) :
    table.bucket (hash k) = none :=
  Option.map_eq_none_iff.mp (represents.get_outside outside)

/-- A new record in front of its bucket. -/
theorem push (represents : Represents hash key size m table) (record : Record) {k : Key} (isKey : key record = k)
    (inside : hash k < size) (absent : m k = none) :
    ∃ table', table.push (hash k) record = some table' ∧
      Represents hash key size (Function.update m k (some record)) table' := by
  obtain ⟨chain,at_k⟩ := represents.bucket_inside inside
  have pushed : table.push (hash k) record = some (table.set (hash k) (record :: chain)) := by
    rw [Buckets.push,at_k,Option.map_some]
  refine ⟨_,pushed,represents.kept.push isKey (by rw [represents.get_inside inside,absent]) pushed,fun k' => ?_,fun k' out => ?_⟩
  · rw [get_push hash key isKey pushed,represents.found,Function.update_apply]
    by_cases same : k' = k
    · simp [same,inside]
    · simp [same]
  · rw [Function.update_of_ne (by rintro rfl; exact out inside)]
    exact represents.outside k' out

/-- The record under the key, if there is one, changed in place. -/
theorem update (represents : Represents hash key size m table) (change : Record → Record)
    (keeps : ∀ record, key (change record) = key record) {k : Key} (inside : hash k < size) :
    ∃ table', table.update (hash k) (fun record => key record = k) change = some table' ∧
      Represents hash key size (Function.update m k ((m k).map change)) table' := by
  obtain ⟨chain,at_k⟩ := represents.bucket_inside inside
  have updated : table.update (hash k) (fun record => key record = k) change =
      some (table.set (hash k) (updateFirst (fun record => key record = k) change chain)) := by
    rw [Buckets.update,at_k,Option.map_some]
  refine ⟨_,updated,represents.kept.update keeps updated,fun k' => ?_,fun k' out => ?_⟩
  · rw [get_update hash key keeps updated,represents.found,represents.found,Function.update_apply]
    by_cases same : k' = k
    · simp [same,inside]
    · simp [same]
  · rw [Function.update_of_ne (by rintro rfl; exact out inside)]
    exact represents.outside k' out

/-- A search of one bucket by other fields than the key finds a record of the map that
    has them, if there is one at all. -/
theorem search (represents : Represents hash key size m table) (test : Record → Bool) {k : Key} (inside : hash k < size)
    (bucket : ∀ record, test record = true → hash (key record) = hash k) :
    ∃ found, table.find (hash k) test = some found ∧
      (∀ record, found = some record → test record = true ∧ m (key record) = some record) ∧
      (found = none → ∀ record, m (key record) = some record → test record = false) := by
  obtain ⟨chain,at_k⟩ := represents.bucket_inside inside
  refine ⟨chain.find? test,by rw [find,at_k,Option.map_some],fun record isFound => ?_,fun isNone record isSome => ?_⟩
  · refine ⟨List.find?_some isFound,represents.mem_contents_iff.mp (mem_contents.mpr ⟨_,chain,at_k,?_⟩)⟩
    exact List.mem_of_find?_eq_some isFound
  · by_contra passes
    rw [Bool.not_eq_false] at passes
    obtain ⟨chain',at_record,first⟩ := Option.map_eq_some_iff.mp (represents.get_of_some isSome)
    rw [bucket record passes,at_k] at at_record
    cases at_record
    exact absurd passes (List.find?_eq_none.mp isNone record (List.mem_of_find?_eq_some first))

/-! ### Records made from a key and a value -/

section values
variable {Value : Type w} {make : Key → Value → Record} {values : Key → Option Value}

theorem map_update (make : Key → Value → Record) (values : Key → Option Value) (k : Key) (value : Option Value) :
    (fun k' => (Function.update values k value k').map (make k')) =
      Function.update (fun k' => (values k').map (make k')) k (value.map (make k)) := by
  funext k'
  by_cases same : k' = k
  · subst same
    simp
  · simp [Function.update_of_ne same]

/-- A record under the key with a first value, unless there is one. -/
theorem insert (represents : Represents hash key size (fun k => (values k).map (make k)) table) {k : Key} (first : Value)
    (isKey : key (make k first) = k) (inside : hash k < size) :
    ∃ table', (get hash key table k).bind (fun found =>
        if found.isSome then some table else table.push (hash k) (make k first)) = some table' ∧
      Represents hash key size (fun k' => (Function.update values k (some ((values k).getD first)) k').map (make k')) table' := by
  rw [represents.get_inside inside,Option.bind_some]
  cases known : values k with
  | some value =>
    have same : Function.update values k (some ((some value).getD first)) = values := by
      rw [Option.getD_some,← known,Function.update_eq_self]
    rw [same]
    exact ⟨table,rfl,represents⟩
  | none =>
    obtain ⟨table',pushed,represents'⟩ := represents.push (make k first) isKey inside (by rw [known]; rfl)
    refine ⟨table',pushed,?_⟩
    rw [map_update]
    exact represents'

/-- The value under the key, if there is one, replaced in place. -/
theorem assign (represents : Represents hash key size (fun k => (values k).map (make k)) table) {k : Key} {value : Value}
    (change : Record → Record) (keeps : ∀ record, key (change record) = key record)
    (replaces : ∀ old, change (make k old) = make k value) (inside : hash k < size) :
    ∃ table', table.update (hash k) (fun record => key record = k) change = some table' ∧
      Represents hash key size (fun k' => (Function.update values k ((values k).map (fun _ => value)) k').map (make k')) table' := by
  obtain ⟨table',updated,represents'⟩ := represents.update change keeps inside
  refine ⟨table',updated,?_⟩
  have same : ((values k).map (make k)).map change = ((values k).map (fun _ => value)).map (make k) := by
    rw [Option.map_map,Option.map_map]
    exact congrArg (Option.map · (values k)) (funext replaces)
  rw [map_update,← same]
  exact represents'

end values
end Represents
end Buckets
end Handover
