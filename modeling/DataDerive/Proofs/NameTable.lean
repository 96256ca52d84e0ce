import DataDerive.NameTable
import Mathlib.Data.Finset.Card
import Mathlib.Data.List.Nodup

/-!
# Numbers stand for names one to one

The two sides of a table are inverse to each other: a name has a number exactly
if it stands at that number.  Inserting a name keeps this, and it never moves a
name that is there already.  So after any insertions equal numbers mean equal
names, a number still gives its name back, and the numbers were handed out one
after the other.
-/

namespace DataDerive.NameTable

/-! ## Both sides of a table -/

/-- A name has a number exactly if it stands at that number. -/
def Consistent (table : NameTable) : Prop :=
  ∀ name number, table.number? name = some number ↔ table.names[number]? = some name

section Consistent

variable {table : NameTable} {name other : String} {number : Nat}

theorem number?_add (table : NameTable) (name other : String) :
    (table.add name).number? other =
      if other = name then some table.size else table.number? other := by
  by_cases same : other = name
  · simp [number?, add, same]
  · have differ : (other == name) = false := by simp [same]
    simp [number?, add, same, List.lookup_cons, differ]

theorem size_add (table : NameTable) (name : String) : (table.add name).size = table.size + 1 := by
  simp [size, add]

theorem prefix_add (table : NameTable) (name : String) : table.names <+: (table.add name).names :=
  List.prefix_append table.names [name]

theorem consistent_start : start.Consistent := by
  intro name number
  by_cases empty : name = ""
  · cases number <;> simp [number?, start, empty]
  · have differ : (name == "") = false := by simp [empty]
    have unequal : "" ≠ name := Ne.symm empty
    cases number <;> simp [number?, start, List.lookup_cons, differ, unequal]

theorem Consistent.mem_names_iff (consistent : table.Consistent) :
    name ∈ table.names ↔ table.number? name ≠ none := by
  rw [List.mem_iff_getElem?, Option.ne_none_iff_exists']
  exact exists_congr fun number => (consistent name number).symm

/-- A new name gets the next number, and all others keep theirs. -/
theorem Consistent.add (consistent : table.Consistent) (absent : table.number? name = none) :
    (table.add name).Consistent := by
  intro other number
  have notListed : name ∉ table.names := fun listed => consistent.mem_names_iff.mp listed absent
  rw [number?_add]
  change _ ↔ (table.names ++ [name])[number]? = some other
  by_cases inside : number < table.names.length
  · rw [List.getElem?_append_left inside, ← consistent]
    split
    next same =>
      rw [same, absent]
      simp only [size, Option.some.injEq, reduceCtorEq, iff_false]
      omega
    next => rfl
  · rw [List.getElem?_append_right (Nat.not_lt.mp inside)]
    have old : table.number? other ≠ some number := by
      rw [ne_eq, consistent, List.getElem?_eq_none (Nat.not_lt.mp inside)]
      simp
    split
    next same =>
      rw [same, List.getElem?_singleton]
      simp only [size, Option.some.injEq]
      split <;> simp <;> omega
    next differ =>
      rw [List.getElem?_singleton]
      simp only [old, false_iff]
      split
      · simpa using Ne.symm differ
      · simp

theorem Consistent.nodup_names (consistent : table.Consistent) : table.names.Nodup := by
  rw [List.nodup_iff_getElem?_ne_getElem?]
  intro i j before inside same
  have standsAt : table.names[j]? = some table.names[j] := List.getElem?_eq_getElem inside
  have first := (consistent _ i).mpr (same.trans standsAt)
  rw [(consistent _ j).mpr standsAt] at first
  exact absurd (Option.some.inj first) (Nat.ne_of_gt before)

/-- A table is as large as the set of its names. -/
theorem Consistent.size_eq_card (consistent : table.Consistent) :
    table.size = table.names.toFinset.card :=
  (List.toFinset_card_of_nodup consistent.nodup_names).symm

end Consistent

/-! ## Insertions one after the other -/

/-- An insertion: the name, the number that it gave, and the table after it. -/
structure Insertion where
  name : String
  number : Nat
  table : NameTable

/-- Insert names one after the other. -/
def insertEach (table : NameTable) : List String → Except Overflow (List Insertion)
  | [] => .ok []
  | name :: rest => do
      let (number, next) ← table.tryInsert name
      let later ← next.insertEach rest
      return ⟨name, number, next⟩ :: later

/-- What insertions do: a name that is there keeps its number, any other gets the next one. -/
inductive Insertions : NameTable → List Insertion → Prop
  | nil {table : NameTable} : Insertions table []
  | known
      {table : NameTable}
      {name : String}
      {number : Nat}
      {later : List Insertion}
      (found : table.number? name = some number)
      (onward : Insertions table later) :
      Insertions table (⟨name, number, table⟩ :: later)
  | new
      {table : NameTable}
      {name : String}
      {later : List Insertion}
      (absent : table.number? name = none)
      (onward : Insertions (table.add name) later) :
      Insertions table (⟨name, table.size, table.add name⟩ :: later)

/-- A name that is there can always be inserted, and any other if there is a number for it. -/
theorem tryInsert_eq_insert
    {table : NameTable}
    {name : String}
    (room : table.number? name = none → table.size < UInt32.size) :
    table.tryInsert name = .ok (table.insert name) := by
  rw [tryInsert, insert]
  cases found : table.number? name with
  | some number => rfl
  | none => simp only [if_pos (room found)]

/-- If there are numbers for all names, every insertion succeeds. -/
theorem exists_insertions
    {table : NameTable}
    {names : List String}
    (consistent : table.Consistent)
    (few : (table.names ++ names).toFinset.card ≤ UInt32.size) :
    ∃ calls, table.insertEach names = .ok calls ∧ calls.map Insertion.name = names ∧
      Insertions table calls := by
  induction names generalizing table with
  | nil => exact ⟨[], rfl, rfl, .nil⟩
  | cons name rest ih =>
      cases found : table.number? name with
      | some number =>
          have fewer : (table.names ++ rest).toFinset.card ≤ UInt32.size := by
            refine (Finset.card_le_card fun other => ?_).trans few
            simp only [List.mem_toFinset, List.mem_append, List.mem_cons]
            exact Or.imp_right Or.inr
          rcases ih consistent fewer with ⟨later, succeeds, rfl, onward⟩
          refine ⟨⟨name, number, table⟩ :: later, ?_, rfl, .known found onward⟩
          rw [insertEach, tryInsert_eq_insert (by simp [found]), insert, found]
          simp only [bind, Except.bind, succeeds]
          rfl
      | none =>
          have same : (table.add name).names ++ rest = table.names ++ name :: rest :=
            List.append_assoc _ _ _
          have room : table.size < UInt32.size := by
            have within : (table.add name).names.toFinset.card ≤ UInt32.size := by
              refine (Finset.card_le_card fun other => ?_).trans few
              rw [← same]
              simp only [List.mem_toFinset, List.mem_append]
              exact Or.inl
            rwa [← (consistent.add found).size_eq_card, size_add] at within
          rcases ih (consistent.add found) (same ▸ few) with ⟨later, succeeds, rfl, onward⟩
          refine ⟨⟨name, table.size, table.add name⟩ :: later, ?_, rfl, .new found onward⟩
          rw [insertEach, tryInsert_eq_insert (fun _ => room), insert, found]
          simp only [bind, Except.bind, succeeds]
          rfl

/-- The tables of a sequence of insertions: the first one, and the one after each. -/
def tables (first : NameTable) (calls : List Insertion) : List NameTable :=
  first :: calls.map Insertion.table

section Insertions

variable {table before : NameTable} {calls : List Insertion} {call : Insertion} {i : Nat}

theorem Insertions.consistent_of_mem
    (insertions : Insertions table calls)
    (consistent : table.Consistent) :
    ∀ other ∈ tables table calls, other.Consistent := by
  induction insertions with
  | nil => exact List.forall_mem_singleton.mpr consistent
  | known _ _ ih => exact List.forall_mem_cons.mpr ⟨consistent, ih consistent⟩
  | new absent _ ih =>
      exact List.forall_mem_cons.mpr ⟨consistent, ih (consistent.add absent)⟩

/-- What stands in a table stands there in all later ones. -/
theorem Insertions.pairwise_prefix (insertions : Insertions table calls) :
    (tables table calls).Pairwise fun earlier later => earlier.names <+: later.names := by
  induction insertions with
  | nil => exact List.pairwise_singleton _ _
  | known _ _ ih =>
      have onward := (List.pairwise_cons.mp ih).1
      exact List.pairwise_cons.mpr ⟨List.forall_mem_cons.mpr ⟨List.prefix_rfl, onward⟩, ih⟩
  | @new table name _ _ _ ih =>
      have before := table.prefix_add name
      have onward := (List.pairwise_cons.mp ih).1
      refine List.pairwise_cons.mpr ⟨List.forall_mem_cons.mpr ⟨before, ?_⟩, ih⟩
      exact fun other listed => before.trans (onward other listed)

/-- The name of an insertion stands at the number that it gave. -/
theorem Insertions.standsAt
    (insertions : Insertions table calls)
    (consistent : table.Consistent) :
    ∀ call ∈ calls, call.table.names[call.number]? = some call.name := by
  induction insertions with
  | nil => exact List.forall_mem_nil _
  | known found _ ih =>
      exact List.forall_mem_cons.mpr ⟨(consistent _ _).mp found, ih consistent⟩
  | new absent _ ih =>
      exact List.forall_mem_cons.mpr ⟨List.getElem?_concat_length, ih (consistent.add absent)⟩

/-- After some insertions a table holds their names and those that it held before. -/
theorem Insertions.toFinset_names
    (insertions : Insertions table calls)
    (consistent : table.Consistent)
    (reached : (tables table calls)[i]? = some before) :
    before.names.toFinset = (table.names ++ (calls.map Insertion.name).take i).toFinset := by
  induction insertions generalizing i with
  | nil =>
      rw [List.map_nil, List.take_nil, List.append_nil]
      rw [tables, List.map_nil, List.getElem?_singleton] at reached
      split at reached <;> cases reached
      rfl
  | @known table name _ later found _ ih =>
      cases i with
      | zero =>
          cases reached
          rw [List.take_zero, List.append_nil]
      | succ i =>
          have listed : name ∈ table.names := consistent.mem_names_iff.mpr (by simp [found])
          rw [ih consistent reached, List.map_cons, List.take_succ_cons]
          ext other
          simp only [List.mem_toFinset, List.mem_append, List.mem_cons]
          constructor
          · exact Or.imp_right Or.inr
          · rintro (held | rfl | given)
            · exact Or.inl held
            · exact Or.inl listed
            · exact Or.inr given
  | new absent _ ih =>
      cases i with
      | zero =>
          cases reached
          rw [List.take_zero, List.append_nil]
      | succ i =>
          rw [ih (consistent.add absent) reached, List.map_cons, List.take_succ_cons,
            List.append_cons]
          rfl

/-- A name that is not in a table gets the number of the names in it. -/
theorem Insertions.number_of_absent
    (insertions : Insertions table calls)
    (consistent : table.Consistent)
    (reached : (tables table calls)[i]? = some before)
    (made : calls[i]? = some call)
    (absent : call.name ∉ before.names) :
    call.number = before.size := by
  induction insertions generalizing i with
  | nil => cases made
  | known found _ ih =>
      cases i with
      | zero =>
          cases reached
          cases made
          rw [consistent.mem_names_iff, found] at absent
          exact absurd (Option.some_ne_none _) absent
      | succ i => exact ih consistent reached made
  | new isNew _ ih =>
      cases i with
      | zero =>
          cases reached
          cases made
          rfl
      | succ i => exact ih (consistent.add isNew) reached made

end Insertions

/-! ## Numbers of a new table -/

/-- How many different names other than the empty one there are. -/
def countNames (names : List String) : Nat :=
  (names.toFinset.erase "").card

theorem card_start_append (names : List String) :
    (start.names ++ names).toFinset.card = 1 + countNames names := by
  have same : (start.names ++ names).toFinset = Insert.insert "" (names.toFinset.erase "") := by
    ext name
    by_cases empty : name = "" <;> simp [start, empty]
  rw [same, countNames, Finset.card_insert_of_notMem (Finset.notMem_erase "" _), Nat.add_comm]

/-- What insertions into a new table answer. -/
structure Numbers (calls : List Insertion) : Prop where
  /-- Numbers are equal exactly if the names are. -/
  same_iff : ∀ first ∈ calls, ∀ second ∈ calls,
    (first.number = second.number ↔ first.name = second.name)
  /-- A number gives its name back, at once and after all later insertions. -/
  lookup_eq : ∀ (i j : Nat) (earlier later : Insertion), i ≤ j →
    calls[i]? = some earlier → calls[j]? = some later →
      later.table.lookup earlier.number = earlier.name
  /-- The empty name has the number zero. -/
  number_empty : ∀ call ∈ calls, call.name = "" → call.number = 0
  /-- Any other name gets, when it comes first, the number after those given so far. -/
  number_new : ∀ (i : Nat) (call : Insertion), calls[i]? = some call → call.name ≠ "" →
    call.name ∉ (calls.map Insertion.name).take i →
      call.number = 1 + countNames ((calls.map Insertion.name).take i)
  /-- A table is by one larger than the names given so far are many. -/
  size_eq : ∀ (i : Nat) (table : NameTable), (tables start calls)[i]? = some table →
    table.size = 1 + countNames ((calls.map Insertion.name).take i)

section Start

variable {calls : List Insertion} {earlier later call : Insertion} {table : NameTable} {i j : Nat}

/-- The name of an insertion stands at its number in the tables of all later ones. -/
theorem Insertions.standsLater
    (insertions : Insertions start calls)
    (order : i ≤ j)
    (first : calls[i]? = some earlier)
    (second : calls[j]? = some later) :
    later.table.names[earlier.number]? = some earlier.name := by
  have stands := insertions.standsAt consistent_start earlier (List.mem_of_getElem? first)
  rcases Nat.eq_or_lt_of_le order with rfl | before
  · rw [first] at second
    cases second
    exact stands
  · rw [List.getElem?_eq_some_iff] at first second
    rcases first with ⟨inside, rfl⟩
    rcases second with ⟨reached, rfl⟩
    have keeps := List.pairwise_iff_getElem.mp (List.pairwise_cons.mp insertions.pairwise_prefix).2
      i j (by simpa using inside) (by simpa using reached) before
    rw [List.getElem_map, List.getElem_map] at keeps
    rcases keeps with ⟨more, same⟩
    rw [← same, List.getElem?_append_left (List.getElem?_eq_some_iff.mp stands).1]
    exact stands

/-- Of two insertions, the numbers are equal exactly if the names are. -/
theorem Insertions.number_eq_iff
    (insertions : Insertions start calls)
    (order : i ≤ j)
    (first : calls[i]? = some earlier)
    (second : calls[j]? = some later) :
    earlier.number = later.number ↔ earlier.name = later.name := by
  have consistent : later.table.Consistent :=
    insertions.consistent_of_mem consistent_start _
      (List.mem_cons_of_mem _ (List.mem_map_of_mem (List.mem_of_getElem? second)))
  have stands := insertions.standsLater order first second
  have standsToo := insertions.standsLater (Nat.le_refl j) second second
  constructor
  · intro same
    rw [same, standsToo] at stands
    exact (Option.some.inj stands).symm
  · intro same
    rw [← consistent] at stands standsToo
    rw [same, standsToo] at stands
    exact (Option.some.inj stands).symm

theorem Insertions.number_empty
    (insertions : Insertions start calls)
    (made : call ∈ calls)
    (empty : call.name = "") :
    call.number = 0 := by
  have among : call.table ∈ calls.map Insertion.table := List.mem_map_of_mem made
  have consistent : call.table.Consistent :=
    insertions.consistent_of_mem consistent_start _ (List.mem_cons_of_mem _ among)
  have first : call.table.number? "" = some 0 := by
    rcases (List.pairwise_cons.mp insertions.pairwise_prefix).1 _ among with ⟨more, same⟩
    rw [consistent, ← same]
    rfl
  have stands := insertions.standsAt consistent_start call made
  rw [empty, ← consistent, first] at stands
  exact (Option.some.inj stands).symm

/-- A table is by one larger than the names given so far are many. -/
theorem Insertions.size_eq
    (insertions : Insertions start calls)
    (reached : (tables start calls)[i]? = some table) :
    table.size = 1 + countNames ((calls.map Insertion.name).take i) := by
  have consistent := insertions.consistent_of_mem consistent_start table
    (List.mem_of_getElem? reached)
  rw [consistent.size_eq_card, insertions.toFinset_names consistent_start reached,
    card_start_append]

/-- A name that comes first gets the number after the names given so far. -/
theorem Insertions.number_new
    (insertions : Insertions start calls)
    (made : calls[i]? = some call)
    (filled : call.name ≠ "")
    (absent : call.name ∉ (calls.map Insertion.name).take i) :
    call.number = 1 + countNames ((calls.map Insertion.name).take i) := by
  have inside : i < (tables start calls).length := by
    rw [tables, List.length_cons, List.length_map]
    exact Nat.lt_succ_of_lt (List.getElem?_eq_some_iff.mp made).1
  have reached := List.getElem?_eq_getElem inside
  rw [← insertions.size_eq reached]
  refine insertions.number_of_absent consistent_start reached made ?_
  rw [← List.mem_toFinset, insertions.toFinset_names consistent_start reached]
  simpa [start, filled] using absent

end Start

/--
With fewer distinct names than numbers, every insertion into a new table
succeeds.  Numbers stand for names one to one and for ever, and they are handed
out one after the other.
-/
theorem numbers_insertEach
    (names : List String)
    (few : names.toFinset.card < UInt32.size) :
    ∃ calls, start.insertEach names = .ok calls ∧ calls.map Insertion.name = names ∧
      Numbers calls := by
  have enough : (start.names ++ names).toFinset.card ≤ UInt32.size := by
    have erased : countNames names ≤ names.toFinset.card := Finset.card_erase_le
    rw [card_start_append]
    omega
  rcases exists_insertions consistent_start enough with ⟨calls, succeeds, given, insertions⟩
  refine ⟨calls, succeeds, given, ?_, ?_, ?_, ?_, ?_⟩
  · intro first firstMade second secondMade
    rcases List.getElem?_of_mem firstMade with ⟨i, firstAt⟩
    rcases List.getElem?_of_mem secondMade with ⟨j, secondAt⟩
    rcases Nat.le_total i j with order | order
    · exact insertions.number_eq_iff order firstAt secondAt
    · have same := insertions.number_eq_iff order secondAt firstAt
      rw [eq_comm, same, eq_comm]
  · intro i j earlier later order first second
    rw [lookup, insertions.standsLater order first second]
    rfl
  · exact fun call made empty => insertions.number_empty made empty
  · exact fun i call made filled absent => insertions.number_new made filled absent
  · exact fun i table reached => insertions.size_eq reached

/-- Four insertions with a repetition and the empty name among them. -/
theorem numbers_insertEach_repeated :
    ["Expr", "", "Add", "Expr"].toFinset.card < UInt32.size ∧
      ∃ calls, start.insertEach ["Expr", "", "Add", "Expr"] = .ok calls ∧
        calls.map Insertion.name = ["Expr", "", "Add", "Expr"] ∧ Numbers calls :=
  have few : ["Expr", "", "Add", "Expr"].toFinset.card < UInt32.size := by decide
  ⟨few, numbers_insertEach _ few⟩

end DataDerive.NameTable
