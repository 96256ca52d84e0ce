import DataDerive.Proofs.Model.Faults
import DataDerive.Proofs.Model.WellFormed
import Mathlib.Data.List.NodupEquivFin
import Mathlib.Data.List.Perm.Subperm
import Std.Data.String.ToNat

/-!
# Names for unnamed fields

Fields that are not named are named after their types, from left to right.  A name
that one type alone suggests is given to it.  A name that several types suggest is
followed by the first number that makes it free: it must be none of the names that
one type alone suggests and none of the numbered names given before.  Among one
more candidate than there are taken names one is free, so the search for a number
ends.

Two names that are given are never equal, because a numbered name is compared with
all names that it could meet.  Hence a build that ends because of a repeated field
has found it in a case whose fields were named by hand.
-/

namespace DataDerive

namespace FieldName

variable {taken bases : List String} {suggested name : String} {position : Nat}

/-! ## The first free number -/

/-- A name is the first numbered form of another one that is not taken. -/
def IsFirstFree (isTaken : String → Prop) (suggested name : String) : Prop :=
  ∃ number, 0 < number ∧ name = numbered suggested number ∧ ¬ isTaken name ∧
    ∀ smaller, 0 < smaller → smaller < number → isTaken (numbered suggested smaller)

theorem numbered_injective (name : String) : Function.Injective (numbered name) := by
  intro first second same
  rw [numbered, numbered, String.append_right_inj] at same
  exact Nat.repr_injective same

/-- One more number than there are taken names is enough. -/
theorem exists_free (taken : List String) (name : String) :
    ∃ count < taken.length + 1, numbered name (count + 1) ∉ taken := by
  by_contra none
  push Not at none
  let candidates := (List.range (taken.length + 1)).map fun count => numbered name (count + 1)
  have distinct : candidates.Nodup :=
    List.nodup_range.map fun _ _ same => Nat.succ.inj (numbered_injective name same)
  have included : candidates ⊆ taken := by
    refine List.forall_mem_map.mpr fun count listed => ?_
    exact none count (List.mem_range.mp listed)
  have short := (List.subperm_of_subset distinct included).length_le
  rw [List.length_map, List.length_range] at short
  omega

theorem isFirstFree_firstFree (taken : List String) (name : String) :
    IsFirstFree (· ∈ taken) name (firstFree taken name) := by
  let free (count : Nat) : Bool := !taken.contains (numbered name (count + 1))
  have free_iff (count : Nat) : free count = true ↔ numbered name (count + 1) ∉ taken := by
    simp [free]
  obtain ⟨count, found⟩ :
      ∃ count, (List.range (taken.length + 1)).find? free = some count := by
    rcases exists_free taken name with ⟨count, inside, unused⟩
    refine Option.isSome_iff_exists.mp (List.find?_isSome.mpr ?_)
    exact ⟨count, List.mem_range.mpr inside, (free_iff count).mpr unused⟩
  have first : firstFree taken name = numbered name (count + 1) := by
    rw [firstFree, List.find?_map]
    change (((List.range (taken.length + 1)).find? free).map _).getD "" = _
    rw [found]
    rfl
  rcases List.find?_range_eq_some.mp found with ⟨unused, -, before⟩
  refine ⟨count + 1, Nat.succ_pos count, first, ?_, fun smaller positive below => ?_⟩
  · rw [first]
    exact (free_iff count).mp unused
  · have used := before (smaller - 1) (by omega)
    rw [Bool.not_eq_true', ← Bool.not_eq_true, free_iff, not_not] at used
    rwa [Nat.sub_add_cancel positive] at used

/-! ## Names given from left to right -/

section Assign

variable {isRepeated : String → Bool}

/-- A name is not free any more when the name at a position is given. -/
def IsTaken
    (isRepeated : String → Bool)
    (taken bases names : List String)
    (position : Nat)
    (name : String) : Prop :=
  name ∈ taken ∨ ∃ earlier < position, names[earlier]? = some name ∧
    ∃ suggested, bases[earlier]? = some suggested ∧ isRepeated suggested = true

theorem length_assign : (assign isRepeated taken bases).length = bases.length := by
  induction bases generalizing taken with
  | nil => rfl
  | cons first rest ih =>
      rw [assign]
      split
      next => exact congrArg Nat.succ ih
      next => exact congrArg Nat.succ ih

variable {first : String} {rest names : List String}

theorem isTaken_zero :
    IsTaken isRepeated taken bases names 0 name ↔ name ∈ taken :=
  or_iff_left fun ⟨_, before, _⟩ => Nat.not_lt_zero _ before

/-- A numbered name is taken for all names after it. -/
theorem isTaken_succ_of_repeated (repeated : isRepeated first = true) {given : String} :
    IsTaken isRepeated taken (first :: rest) (given :: names) (position + 1) name ↔
      IsTaken isRepeated (given :: taken) rest names position name := by
  rw [IsTaken, IsTaken, Nat.exists_lt_succ_left, List.mem_cons, eq_comm (a := name), or_assoc]
  simp only [List.getElem?_cons_zero, List.getElem?_cons_succ, Option.some_inj, exists_eq_left',
    repeated, and_true]
  exact or_left_comm

/-- A name that is not repeated takes nothing that was free. -/
theorem isTaken_succ_of_single (single : ¬ isRepeated first = true) {given : String} :
    IsTaken isRepeated taken (first :: rest) (given :: names) (position + 1) name ↔
      IsTaken isRepeated taken rest names position name := by
  rw [IsTaken, IsTaken, Nat.exists_lt_succ_left]
  simp only [List.getElem?_cons_zero, List.getElem?_cons_succ, Option.some_inj, exists_eq_left',
    single, Bool.false_eq_true, and_false, false_or]

theorem IsFirstFree.congr {isTaken other : String → Prop}
    (free : IsFirstFree isTaken suggested name)
    (same : ∀ candidate, isTaken candidate ↔ other candidate) :
    IsFirstFree other suggested name := by
  rwa [← funext fun candidate => propext (same candidate)]

/-- What is given at a position depends on what the names before it have taken. -/
theorem exists_getElem?_assign
    (isRepeated : String → Bool)
    (taken : List String)
    (found : bases[position]? = some suggested) :
    ∃ name, (assign isRepeated taken bases)[position]? = some name ∧
      (isRepeated suggested = true → IsFirstFree
        (IsTaken isRepeated taken bases (assign isRepeated taken bases) position)
        suggested name) ∧
      (¬ isRepeated suggested = true → name = suggested) := by
  induction bases generalizing taken position with
  | nil => cases found
  | cons first rest ih =>
      rw [assign]
      cases position with
      | zero =>
          cases found
          split
          next repeated =>
            refine ⟨_, rfl, fun _ => ?_, fun single => absurd repeated single⟩
            exact (isFirstFree_firstFree taken _).congr fun _ => isTaken_zero.symm
          next single => exact ⟨_, rfl, fun repeated => absurd repeated single, fun _ => rfl⟩
      | succ position =>
          split
          next repeated =>
            rcases ih _ found with ⟨name, given, free, own⟩
            refine ⟨name, given, fun numbers => (free numbers).congr fun _ => ?_, own⟩
            exact (isTaken_succ_of_repeated repeated).symm
          next single =>
            rcases ih _ found with ⟨name, given, free, own⟩
            refine ⟨name, given, fun numbers => (free numbers).congr fun _ => ?_, own⟩
            exact (isTaken_succ_of_single single).symm

end Assign

/-! ## Names given to types -/

/-- The name that stands at a position stands at another one as well. -/
def Repeats (bases : List String) (position : Nat) : Prop :=
  ∃ other ≠ position, ∃ name, bases[position]? = some name ∧ bases[other]? = some name

theorem isRepeated_iff (found : bases[position]? = some suggested) :
    isRepeated bases suggested = true ↔ Repeats bases position := by
  rw [isRepeated, decide_eq_true_iff, ← Nat.succ_le_iff, ← List.duplicate_iff_two_le_count,
    List.duplicate_iff_exists_distinct_get]
  constructor
  · rintro ⟨first, second, before, isFirst, isSecond⟩
    have apart : first.val ≠ second.val := Nat.ne_of_lt before
    have at_ (index : Fin bases.length) (same : suggested = bases.get index) :
        bases[index.val]? = some suggested := by
      rw [same]
      exact List.getElem?_eq_getElem index.isLt
    -- One of the two positions is not the given one.
    by_cases here : first.val = position
    · exact ⟨second, fun same => apart (here.trans same.symm), suggested, found,
        at_ second isSecond⟩
    · exact ⟨first, here, suggested, found, at_ first isFirst⟩
  · rintro ⟨other, apart, name, isName, again⟩
    cases Option.some.inj (isName.symm.trans found)
    rcases List.getElem?_eq_some_iff.mp found with ⟨inside, here⟩
    rcases List.getElem?_eq_some_iff.mp again with ⟨otherInside, there⟩
    rcases Nat.lt_or_gt_of_ne apart with before | after
    · exact ⟨⟨other, otherInside⟩, ⟨position, inside⟩, before, there.symm, here.symm⟩
    · exact ⟨⟨position, inside⟩, ⟨other, otherInside⟩, after, here.symm, there.symm⟩

/-- A name that one type alone suggests, or a numbered name given before a position. -/
def IsGiven (bases names : List String) (position : Nat) (name : String) : Prop :=
  (∃ other, bases[other]? = some name ∧ ¬ Repeats bases other) ∨
    ∃ earlier < position, names[earlier]? = some name ∧ Repeats bases earlier

/-- Names for the fields of types, which suggest some names. -/
structure Names (types : List TypeExpr) (names : List String) : Prop where
  length_eq : names.length = types.length
  nodup : names.Nodup
  /-- A name that one type alone suggests is given as it is. -/
  single : ∀ position type, types[position]? = some type →
    ¬ Repeats (types.map base) position → names[position]? = some (base type)
  /-- A name that several types suggest is given with the first number that makes it free. -/
  repeated : ∀ position type, types[position]? = some type →
    Repeats (types.map base) position → ∃ name, names[position]? = some name ∧
      IsFirstFree (IsGiven (types.map base) names position) (base type) name

theorem mem_singles {name : String} :
    name ∈ (bases.filter fun name => !isRepeated bases name) ↔
      ∃ other, bases[other]? = some name ∧ ¬ Repeats bases other := by
  rw [List.mem_filter, List.mem_iff_getElem?, Bool.not_eq_true', ← Bool.not_eq_true]
  constructor
  · rintro ⟨⟨other, found⟩, single⟩
    exact ⟨other, found, fun again => single ((isRepeated_iff found).mpr again)⟩
  · rintro ⟨other, found, single⟩
    exact ⟨⟨other, found⟩, fun again => single ((isRepeated_iff found).mp again)⟩

theorem isTaken_iff_isGiven {names : List String} :
    IsTaken (isRepeated bases) (bases.filter fun name => !isRepeated bases name) bases names
        position name ↔
      IsGiven bases names position name := by
  have repeats (earlier : Nat) : (∃ suggested, bases[earlier]? = some suggested ∧
      isRepeated bases suggested = true) ↔ Repeats bases earlier := by
    constructor
    · rintro ⟨suggested, found, again⟩
      exact (isRepeated_iff found).mp again
    · rintro ⟨other, apart, suggested, found, again⟩
      exact ⟨suggested, found, (isRepeated_iff found).mpr ⟨other, apart, suggested, found, again⟩⟩
  simp only [IsTaken, IsGiven, mem_singles, repeats]

section Given

variable (types : List TypeExpr)

/-- What stands at a position of the names that are given. -/
theorem exists_getElem?_ofTypes (found : (types.map base)[position]? = some suggested) :
    ∃ name, (ofTypes types)[position]? = some name ∧
      (Repeats (types.map base) position →
        IsFirstFree (IsGiven (types.map base) (ofTypes types) position) suggested name) ∧
      (¬ Repeats (types.map base) position → name = suggested) := by
  rcases exists_getElem?_assign (isRepeated (types.map base))
      ((types.map base).filter fun name => !isRepeated (types.map base) name) found with
    ⟨name, given, free, own⟩
  rw [isRepeated_iff found] at free own
  exact ⟨name, given, fun again => (free again).congr fun _ => isTaken_iff_isGiven, own⟩

variable {types}

/-- A name that is numbered is none of those given before. -/
theorem not_isGiven_of_repeats
    (given : (ofTypes types)[position]? = some name)
    (again : Repeats (types.map base) position) :
    ¬ IsGiven (types.map base) (ofTypes types) position name := by
  rcases again with ⟨other, apart, suggested, found, isOther⟩
  rcases exists_getElem?_ofTypes types found with ⟨_, same, free, -⟩
  cases Option.some.inj (given.symm.trans same)
  rcases free ⟨other, apart, suggested, found, isOther⟩ with ⟨_, -, -, unused, -⟩
  exact unused

/-- A name that is not numbered is the suggested one. -/
theorem getElem?_bases_of_single
    (given : (ofTypes types)[position]? = some name)
    (single : ¬ Repeats (types.map base) position) :
    (types.map base)[position]? = some name := by
  have inside := (List.getElem?_eq_some_iff.mp given).1
  rw [ofTypes, length_assign] at inside
  have found := List.getElem?_eq_getElem inside
  rcases exists_getElem?_ofTypes types found with ⟨_, same, -, own⟩
  cases Option.some.inj (given.symm.trans same)
  rw [found, own single]

theorem nodup_ofTypes (types : List TypeExpr) : (ofTypes types).Nodup := by
  rw [List.nodup_iff_getElem?_ne_getElem?]
  intro earlier later before inside same
  obtain ⟨name, second⟩ : ∃ name, (ofTypes types)[later]? = some name :=
    ⟨_, List.getElem?_eq_getElem inside⟩
  have first := same.trans second
  by_cases firstAgain : Repeats (types.map base) earlier
  · by_cases again : Repeats (types.map base) later
    · exact not_isGiven_of_repeats second again (.inr ⟨earlier, before, first, firstAgain⟩)
    · exact not_isGiven_of_repeats first firstAgain
        (.inl ⟨later, getElem?_bases_of_single second again, again⟩)
  · have alone := getElem?_bases_of_single first firstAgain
    by_cases again : Repeats (types.map base) later
    · exact not_isGiven_of_repeats second again (.inl ⟨earlier, alone, firstAgain⟩)
    · exact again ⟨earlier, Nat.ne_of_lt before, name,
        getElem?_bases_of_single second again, alone⟩

theorem names_ofTypes (types : List TypeExpr) : Names types (ofTypes types) where
  length_eq := length_assign.trans (List.length_map base)
  nodup := nodup_ofTypes types
  single position type found single := by
    have suggested : (types.map base)[position]? = some (base type) := by
      rw [List.getElem?_map, found]
      rfl
    rcases exists_getElem?_ofTypes types suggested with ⟨name, given, -, own⟩
    rw [given, own single]
  repeated position type found again := by
    have suggested : (types.map base)[position]? = some (base type) := by
      rw [List.getElem?_map, found]
      rfl
    rcases exists_getElem?_ofTypes types suggested with ⟨name, given, free, -⟩
    exact ⟨name, given, free again⟩

/-- A suggested name with a number can be another suggested name, which is left out. -/
example : ofTypes [.atom "Expr", .atom "Expr", .atom "Expr1"] = ["expr2", "expr3", "expr1"] := by
  decide

end Given

end FieldName

/-! ## Cases whose fields are not named -/

namespace Declaration

open Derived

variable {declaration : Declaration} {snapshot : Snapshot}

/-- The fields of a case that is a parameter have the names that it lists, or names of their own. -/
theorem exists_types_of_lambdaCase
    {resultVar : String}
    {parameter : Parameter}
    {case : Case}
    (read : declaration.lambdaCase resultVar parameter = .ok case) :
    case.name = parameter.name ∧ (∀ field ∈ case.fields, field.span = parameter.span) ∧
      ∃ types, case.fields.map Field.name =
        if parameter.fieldNames.isEmpty then FieldName.ofTypes types
        else parameter.fieldNames := by
  rw [lambdaCase] at read
  split at read
  next types _ _ =>
    split at read
    next =>
      rcases bind_eq_ok_iff.mp read with ⟨names, named, same⟩
      cases same
      refine ⟨rfl, List.forall_mem_map.mpr fun _ _ => rfl, types, ?_⟩
      have both : names.length = types.length ∧ names =
          if parameter.fieldNames.isEmpty then FieldName.ofTypes types
          else parameter.fieldNames := by
        rw [fieldNames] at named
        split at named
        next unnamed =>
          cases named
          rw [if_pos unnamed]
          exact ⟨(FieldName.names_ofTypes types).length_eq, rfl⟩
        next listed =>
          split at named
          next enough =>
            cases named
            rw [if_neg listed]
            exact ⟨enough, rfl⟩
          next => cases named
      rw [← both.2, List.map_map]
      exact List.map_fst_zip (Nat.le_of_eq both.1)
    next => cases read
  next => cases read

/--
Fields that are not named get a name each: the one that its type suggests if no other
type does, and otherwise the first numbered form of it that is free.  These names
differ, so of the cases that are parameters a build refuses only one that names its
fields, two of them alike, because of a repeated field.
-/
theorem unnamedFields_apart :
    (∀ types, FieldName.Names types (FieldName.ofTypes types)) ∧
    ∀ (declaration : Declaration) (snapshot : Snapshot) (message : Message),
      declaration.toDataType snapshot = .error message → message.code = .repeatedField →
      ∃ matcher resultVar encoding cases,
        declaration.matcher = .ok matcher ∧ declaration.resultVar matcher = .ok resultVar ∧
        declaration.readCases snapshot matcher resultVar = .ok (encoding, cases) ∧
        (encoding = .lambdas → ∃ parameter ∈ matcher.parameters,
          parameter.fieldNames ≠ [] ∧ ¬ parameter.fieldNames.Nodup ∧
            ∃ name ∈ parameter.fieldNames,
              message = declaration.fault .repeatedField parameter.span
                s!"constructor `{parameter.name}` has two fields named `{name}`") := by
  refine ⟨FieldName.names_ofTypes, fun declaration snapshot message fails code => ?_⟩
  rcases exists_case_of_repeatedField fails code with
    ⟨matcher, resultVar, encoding, cases, single, generic, read, case, listed, repeats, field,
      among, same⟩
  refine ⟨matcher, resultVar, encoding, cases, single, generic, read, ?_⟩
  rintro rfl
  rcases exists_parameter_of_readCases read listed with ⟨parameter, isParameter, lambda⟩
  rcases exists_types_of_lambdaCase lambda with ⟨caseName, spans, types, names⟩
  have named : ¬ parameter.fieldNames.isEmpty = true := by
    intro unnamed
    rw [if_pos unnamed] at names
    exact repeats (names ▸ FieldName.nodup_ofTypes types)
  rw [if_neg named] at names
  rw [caseName, spans field among] at same
  refine ⟨parameter, isParameter, fun none => named (List.isEmpty_iff.mpr none), ?_, field.name,
    ?_, same⟩
  · rwa [← names]
  · rw [← names]
    exact List.mem_map_of_mem among

/-- Pairs of which one kind names both parts alike. -/
def twins : Declaration where
  name := "Pair"
  span := ⟨0, 4⟩
  typeParams := []
  request := default
  methods :=
    [{ name := "match"
       span := ⟨20, 25⟩
       typeParams := [⟨"R", ⟨26, 27⟩⟩]
       parameters :=
         [⟨"Plain", ⟨30, 35⟩, .arrow [.atom "Pair", .atom "Pair"] (.var "R"), []⟩,
          ⟨"Twins", ⟨40, 45⟩, .arrow [.atom "Pair", .atom "Pair"] (.var "R"), ["part", "part"]⟩]
       result := .var "R"
       isAbstract := true }]
  statics := []

/-- The case with names of its own is refused, and the one without is not. -/
theorem unnamedFields_apart_twins :
    twins.toDataType default = .error (twins.fault .repeatedField ⟨40, 45⟩
        "constructor `Twins` has two fields named `part`") ∧
      FieldName.Names [.atom "Pair", .atom "Pair"] ["pair1", "pair2"] ∧
      ∃ matcher resultVar encoding cases,
        twins.matcher = .ok matcher ∧ twins.resultVar matcher = .ok resultVar ∧
        twins.readCases default matcher resultVar = .ok (encoding, cases) ∧
        (encoding = .lambdas → ∃ parameter ∈ matcher.parameters,
          parameter.fieldNames ≠ [] ∧ ¬ parameter.fieldNames.Nodup ∧
            ∃ name ∈ parameter.fieldNames,
              twins.fault .repeatedField ⟨40, 45⟩
                  "constructor `Twins` has two fields named `part`" =
                twins.fault .repeatedField parameter.span
                  s!"constructor `{parameter.name}` has two fields named `{name}`") := by
  have refused : twins.toDataType default = .error (twins.fault .repeatedField ⟨40, 45⟩
      "constructor `Twins` has two fields named `part`") := rfl
  have given : FieldName.ofTypes [.atom "Pair", .atom "Pair"] = ["pair1", "pair2"] := by decide
  refine ⟨refused, ?_, unnamedFields_apart.2 twins default _ refused rfl⟩
  have names := unnamedFields_apart.1 [.atom "Pair", .atom "Pair"]
  rwa [given] at names

end Declaration

end DataDerive
