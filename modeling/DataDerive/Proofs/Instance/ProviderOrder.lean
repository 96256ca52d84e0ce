import DataDerive.Proofs.Instance.Providers
import Mathlib.Data.List.Nodup

/-!
# The order of the normal tier

The class and the type constructors of the targets choose sources by name, each the
first one of its name that is not listed yet.  All others should follow as they
stand in the snapshot.  They are taken by name as well, however: where a source
stands, the first one of its name that is left is taken, which stands as many
sources of that name further on as were chosen.  So a source whose name has chosen
others moves ahead of those between, and everything else keeps its place.

Sources are told apart by their positions, since equal ones may stand in a snapshot.
-/

namespace DataDerive.Provider

variable {snapshot : Snapshot} {name other : String} {names : List String}
variable {listed chosen rest : List (Provider × Nat)}

/-! ## The documented order -/

/-- Whether the source at a place has a name. -/
def named (name : String) (place : Provider × Nat) : Bool :=
  place.1.name == name

theorem named_iff {place : Provider × Nat} : named name place = true ↔ place.1.name = name :=
  beq_iff_eq

/-- The sources that are neither of low priority nor listed, as they stand in the snapshot. -/
def unlisted (snapshot : Snapshot) (listed : List (Provider × Nat)) : List (Provider × Nat) :=
  snapshot.providers.zipIdx.filter fun place => isNormal snapshot place.1 && place ∉ listed

/-- What names choose one after the other: the first source of the name that is not listed. -/
def choose (snapshot : Snapshot) :
    (names : List String) → (listed : List (Provider × Nat)) → List (Provider × Nat)
  | [], _ => []
  | name :: rest, listed =>
      let found := ((unlisted snapshot listed).find? (named name)).toList
      found ++ choose snapshot rest (listed ++ found)

/-- What the class and then each type constructor of the targets choose. -/
def chosenFor
    (snapshot : Snapshot)
    (className : String)
    (targets : List TypeExpr) : List (Provider × Nat) :=
  choose snapshot (className :: distinct (targets.flatMap TypeExpr.constructors)) []

/-! ## Choosing one source -/

theorem isNormal_of_mem_unlisted
    {place : Provider × Nat}
    (unchosen : place ∈ unlisted snapshot listed) :
    isNormal snapshot place.1 = true :=
  (Bool.and_eq_true_iff.mp (List.mem_filter.mp unchosen).2).1

theorem nodup_unlisted (snapshot : Snapshot) (listed : List (Provider × Nat)) :
    (unlisted snapshot listed).Nodup := by
  refine List.Nodup.sublist List.filter_sublist (List.Nodup.of_map Prod.snd ?_)
  rw [List.zipIdx_map_snd]
  exact List.nodup_range'

/-- Without repetitions, to erase the first match is to keep all but it. -/
theorem eraseP_eq_filter_of_nodup
    {places : List (Provider × Nat)}
    (once : places.Nodup)
    (keeps : Provider × Nat → Bool) :
    places.eraseP keeps = places.filter fun place => place ∉ (places.find? keeps).toList := by
  induction places with
  | nil => rfl
  | cons place rest ih =>
      rw [List.nodup_cons] at once
      cases kept : keeps place with
      | true =>
          rw [List.eraseP_cons_of_pos kept, List.find?_cons_of_pos kept,
            List.filter_cons_of_neg (by simp), List.filter_eq_self.mpr]
          rintro other later
          rw [decide_eq_true_iff, Option.mem_toList]
          rintro ⟨⟩
          exact once.1 later
      | false =>
          have drop : ¬ keeps place = true := by simp [kept]
          rw [List.eraseP_cons_of_neg drop, List.find?_cons_of_neg drop, ih once.2,
            List.filter_cons_of_pos]
          rw [decide_eq_true_iff, Option.mem_toList]
          exact fun found => once.1 (List.mem_of_find?_eq_some found)

theorem unlisted_append (snapshot : Snapshot) (listed found : List (Provider × Nat)) :
    unlisted snapshot (listed ++ found) =
      (unlisted snapshot listed).filter fun place => place ∉ found := by
  rw [unlisted, unlisted, List.filter_filter]
  refine List.filter_congr fun place _ => ?_
  simp only [List.mem_append, not_or, Bool.decide_and, Bool.and_assoc, Bool.and_comm,
    Bool.and_left_comm]

/-- When a name has chosen, all but its first source is left. -/
theorem unlisted_append_find? (snapshot : Snapshot) (listed : List (Provider × Nat))
    (name : String) :
    unlisted snapshot (listed ++ ((unlisted snapshot listed).find? (named name)).toList) =
      (unlisted snapshot listed).eraseP (named name) := by
  rw [unlisted_append, eraseP_eq_filter_of_nodup (nodup_unlisted snapshot listed)]

/-- A name takes what it chooses, and what is left then is not listed. -/
theorem take_eq_of_unlisted
    {left : List Provider}
    (same : left.filter (isNormal snapshot) = (unlisted snapshot listed).map Prod.fst)
    (name : String) :
    (take snapshot name left).1 =
        ((unlisted snapshot listed).find? (named name)).map Prod.fst ∧
      (take snapshot name left).2.filter (isNormal snapshot) =
        (unlisted snapshot
          (listed ++ ((unlisted snapshot listed).find? (named name)).toList)).map Prod.fst := by
  rw [unlisted_append_find?]
  cases low : snapshot.isLowPriority name with
  | true =>
      have apart : ∀ place ∈ unlisted snapshot listed, ¬ named name place = true := by
        intro place unchosen sameName
        have normal := isNormal_of_mem_unlisted unchosen
        rw [isNormal, named_iff.mp sameName, low] at normal
        cases normal
      rw [take_of_lowPriority low, List.find?_eq_none.mpr apart, List.eraseP_of_forall_not apart]
      exact ⟨rfl, same⟩
  | false =>
      let hasName (source : Provider) : Bool := source.name == name
      have kept (source : Provider) (sameName : hasName source = true) :
          isNormal snapshot source = true := by
        rw [isNormal, beq_iff_eq.mp sameName, low]
        rfl
      have found : left.find? hasName = (left.filter (isNormal snapshot)).find? hasName := by
        rw [List.find?_filter]
        congr 1
        funext source
        rw [Bool.eq_iff_iff, decide_eq_true_iff]
        exact (and_iff_right_of_imp (kept source)).symm
      have erased : (left.eraseP hasName).filter (isNormal snapshot) =
          (left.filter (isNormal snapshot)).eraseP hasName := by
        rw [List.eraseP_filter]
        congr 2
        funext source
        rw [Bool.eq_iff_iff, Bool.and_eq_true]
        exact (and_iff_left_of_imp (kept source)).symm
      rw [take_of_normal low, found, erased, same, List.find?_map, List.eraseP_map]
      exact ⟨rfl, rfl⟩

/-- Sources are taken as the names choose them. -/
theorem takeAll_eq_choose
    {left : List Provider}
    (same : left.filter (isNormal snapshot) = (unlisted snapshot listed).map Prod.fst) :
    takeAll snapshot names left = (choose snapshot names listed).map Prod.fst := by
  induction names generalizing left listed with
  | nil => rfl
  | cons name rest ih =>
      obtain ⟨found, remains⟩ := take_eq_of_unlisted same name
      rw [takeAll, choose, List.map_append]
      generalize take snapshot name left = outcome at found remains ⊢
      refine congrArg₂ (· ++ ·) ?_ (ih remains)
      rw [found]
      cases (unlisted snapshot listed).find? (named name) <;> rfl

/-! ## What is left of a name -/

/-- To erase the first source of a name drops it from the sources of that name. -/
theorem filter_named_eraseP (name other : String) (places : List (Provider × Nat)) :
    (places.eraseP (named name)).filter (named other) =
      (places.filter (named other)).drop (if name = other then 1 else 0) := by
  induction places with
  | nil => rw [List.eraseP_nil, List.filter_nil, List.drop_nil]
  | cons place rest ih =>
      cases first : named name place with
      | true =>
          rw [List.eraseP_cons_of_pos first]
          split
          next same => rw [← same, List.filter_cons_of_pos first, List.drop_one, List.tail_cons]
          next apart =>
            rw [List.filter_cons_of_neg, List.drop_zero]
            exact fun second => apart ((named_iff.mp first).symm.trans (named_iff.mp second))
      | false =>
          rw [List.eraseP_cons_of_neg (by simp [first])]
          cases second : named other place with
          | true =>
              have apart : name ≠ other := by
                rintro rfl
                rw [first] at second
                cases second
              rw [if_neg apart] at ih ⊢
              rw [List.filter_cons_of_pos second, List.filter_cons_of_pos second, ih,
                List.drop_zero, List.drop_zero]
          | false =>
              rw [List.filter_cons_of_neg (by simp [second]), ih,
                List.filter_cons_of_neg (by simp [second])]

/-- What a name chooses is dropped from the sources of its name. -/
theorem filter_named_unlisted_find?
    (snapshot : Snapshot)
    (listed : List (Provider × Nat))
    (name other : String) :
    let found := ((unlisted snapshot listed).find? (named name)).toList
    (unlisted snapshot (listed ++ found)).filter (named other) =
      ((unlisted snapshot listed).filter (named other)).drop (found.countP (named other)) := by
  intro found
  have erased := unlisted_append_find? snapshot listed name
  cases first : (unlisted snapshot listed).find? (named name) with
  | none =>
      have empty : found = [] := congrArg Option.toList first
      rw [empty, List.append_nil, List.countP_nil, List.drop_zero]
  | some place =>
      have single : found = [place] := congrArg Option.toList first
      have hasName : place.1.name = name := named_iff.mp (List.find?_some first)
      rw [erased, filter_named_eraseP, single, List.countP_singleton, named, hasName]
      simp only [beq_iff_eq]

/-- Of each name the first sources are chosen, as many as there are choices for it. -/
theorem filter_named_unlisted_choose
    (snapshot : Snapshot)
    (names : List String)
    (listed : List (Provider × Nat))
    (other : String) :
    (unlisted snapshot (listed ++ choose snapshot names listed)).filter (named other) =
      ((unlisted snapshot listed).filter (named other)).drop
        ((choose snapshot names listed).countP (named other)) := by
  induction names generalizing listed with
  | nil => rw [choose, List.append_nil, List.countP_nil, List.drop_zero]
  | cons name rest ih =>
      rw [choose, ← List.append_assoc, ih, filter_named_unlisted_find?, List.drop_drop,
        List.countP_append]

theorem choose_append (snapshot : Snapshot) (names others : List String)
    (listed : List (Provider × Nat)) :
    choose snapshot (names ++ others) listed =
      choose snapshot names listed ++
        choose snapshot others (listed ++ choose snapshot names listed) := by
  induction names generalizing listed with
  | nil => rw [List.nil_append, choose, List.nil_append, List.append_nil]
  | cons name rest ih =>
      rw [List.cons_append, choose, choose, ih, List.append_assoc, List.append_assoc]

/-! ## All others -/

/--
Where a source stands, the one of its name that stands as many such sources further
on as are chosen.
-/
def inTurn (chosen : List (Provider × Nat)) : List (Provider × Nat) → List (Provider × Nat)
  | [] => []
  | place :: rest =>
      let sameName := named place.1.name
      ((place :: rest).filter sameName)[chosen.countP sameName]?.toList ++ inTurn chosen rest

/-- Names of low priority choose nothing. -/
theorem choose_filter_isNormal
    (snapshot : Snapshot)
    (sources listed : List (Provider × Nat)) :
    choose snapshot (sources.map fun place => place.1.name) listed =
      choose snapshot ((sources.filter fun place => isNormal snapshot place.1).map
        fun place => place.1.name) listed := by
  induction sources generalizing listed with
  | nil => rfl
  | cons place rest ih =>
      rw [List.map_cons, choose, List.filter_cons]
      split
      next normal => rw [List.map_cons, choose, ih]
      next low =>
        have nothing : (unlisted snapshot listed).find? (named place.1.name) = none := by
          refine List.find?_eq_none.mpr fun found unchosen sameName => low ?_
          have normal := isNormal_of_mem_unlisted unchosen
          rwa [isNormal, named_iff.mp sameName] at normal
        rw [nothing, ← ih, Option.toList_none, List.nil_append, List.append_nil]

/-- If as many sources of each name are gone as were chosen, the names choose in turn. -/
theorem choose_eq_inTurn
    (gone : ∀ name, (unlisted snapshot listed).filter (named name) =
      (rest.filter (named name)).drop (chosen.countP (named name))) :
    choose snapshot (rest.map fun place => place.1.name) listed = inTurn chosen rest := by
  induction rest generalizing listed with
  | nil => rfl
  | cons place rest ih =>
      have found : (unlisted snapshot listed).find? (named place.1.name) =
          ((place :: rest).filter (named place.1.name))[
            chosen.countP (named place.1.name)]? := by
        rw [← List.head?_filter, gone, List.head?_drop]
      rw [List.map_cons, choose, inTurn, ← found]
      refine congrArg _ (ih fun name => ?_)
      rw [unlisted_append_find?, filter_named_eraseP, gone, List.drop_drop]
      split
      next same =>
        subst same
        rw [List.filter_cons_of_pos (named_iff.mpr rfl), List.drop_succ_cons]
      next apart =>
        rw [List.filter_cons_of_neg (mt named_iff.mp apart), Nat.add_zero]

/-- What is listed where a source stands has its name. -/
theorem name_of_turn
    {place found : Provider × Nat}
    {index : Nat}
    (turn : found ∈ (((place :: rest).filter (named place.1.name))[index]?).toList) :
    found.1.name = place.1.name := by
  rw [Option.mem_toList] at turn
  exact named_iff.mp (List.mem_filter.mp (List.mem_of_getElem? turn)).2

/-- Sources of one name keep their order, but for those that were chosen. -/
theorem filter_named_inTurn (chosen rest : List (Provider × Nat)) (name : String) :
    (inTurn chosen rest).filter (named name) =
      (rest.filter (named name)).drop (chosen.countP (named name)) := by
  induction rest with
  | nil => rw [inTurn, List.filter_nil, List.drop_nil]
  | cons place rest ih =>
      rw [inTurn, List.filter_append, ih]
      by_cases same : place.1.name = name
      · have kept := named_iff.mpr same
        subst same
        rw [List.filter_eq_self.mpr fun found turn => named_iff.mpr (name_of_turn turn),
          List.drop_eq_getElem?_toList_append (l := (place :: rest).filter _),
          List.filter_cons_of_pos kept, List.drop_succ_cons]
      · rw [List.filter_eq_nil_iff.mpr fun found turn hasName =>
            same ((name_of_turn turn).symm.trans (named_iff.mp hasName)),
          List.filter_cons_of_neg (mt named_iff.mp same), List.nil_append]

/-- Whether no chosen source has the name of a source. -/
def unshared (chosen : List (Provider × Nat)) (place : Provider × Nat) : Bool :=
  !chosen.any (named place.1.name)

/-- Sources whose names have chosen nothing are listed where they stand. -/
theorem filter_unshared_inTurn (chosen rest : List (Provider × Nat)) :
    (inTurn chosen rest).filter (unshared chosen) = rest.filter (unshared chosen) := by
  induction rest with
  | nil => rfl
  | cons place rest ih =>
      rw [inTurn, List.filter_append, ih]
      cases free : unshared chosen place with
      | true =>
          have none : chosen.countP (named place.1.name) = 0 := by
            rw [List.countP_eq_zero, ← List.any_eq_false]
            exact (Bool.not_eq_true' _).mp free
          rw [none, List.filter_cons_of_pos (named_iff.mpr rfl), List.filter_cons_of_pos free]
          exact congrArg (· ++ _) (List.filter_cons_of_pos free)
      | false =>
          have dropped : ¬ unshared chosen place = true := Bool.eq_false_iff.mp free
          rw [List.filter_cons_of_neg dropped, List.filter_eq_nil_iff.mpr fun found turn kept =>
            dropped (by rwa [unshared, ← name_of_turn turn]), List.nil_append]

theorem filter_unshared_unlisted (snapshot : Snapshot) (chosen : List (Provider × Nat)) :
    (unlisted snapshot chosen).filter (unshared chosen) =
      (unlisted snapshot []).filter (unshared chosen) := by
  have apart := unlisted_append snapshot [] chosen
  rw [List.nil_append] at apart
  rw [apart, List.filter_filter]
  refine List.filter_congr fun place _ => ?_
  rw [Bool.eq_iff_iff, Bool.and_eq_true, decide_eq_true_iff]
  refine and_iff_left_of_imp fun free isChosen => ?_
  rw [unshared, Bool.not_eq_true', List.any_eq_false] at free
  exact free place isChosen (named_iff.mpr rfl)

/-! ## Lists with the same sources of each name -/

section SameSources

variable {first second : List (Provider × Nat)}

theorem perm_of_filter_named
    (each : ∀ name, first.filter (named name) = second.filter (named name)) :
    first.Perm second := by
  rw [List.perm_iff_count]
  intro place
  have own : named place.1.name place = true := named_iff.mpr rfl
  rw [← List.count_filter own, each, List.count_filter own]

/-- Two lists are equal if their names are and each name has the same sources in both. -/
theorem eq_of_filter_named
    (each : ∀ name, first.filter (named name) = second.filter (named name))
    (names : first.map (fun place => place.1.name) = second.map fun place => place.1.name) :
    first = second := by
  induction first generalizing second with
  | nil => exact (List.map_eq_nil_iff.mp names.symm).symm
  | cons place rest ih =>
      cases second with
      | nil => cases names
      | cons other others =>
          obtain ⟨sameName, later⟩ := List.cons.inj names
          have heads := each place.1.name
          rw [List.filter_cons_of_pos (named_iff.mpr rfl),
            List.filter_cons_of_pos (named_iff.mpr sameName.symm)] at heads
          obtain rfl := (List.cons.inj heads).1
          refine congrArg _ (ih (fun name => ?_) later)
          have tails := each name
          rw [List.filter_cons, List.filter_cons] at tails
          split at tails
          next => exact (List.cons.inj tails).2
          next => exact tails

end SameSources

/-- What is not listed stands in the order of the snapshot. -/
theorem pairwise_unlisted (snapshot : Snapshot) (listed : List (Provider × Nat)) :
    (unlisted snapshot listed).Pairwise fun first second => first.2 < second.2 := by
  refine List.Pairwise.sublist List.filter_sublist (List.pairwise_map.mp ?_)
  rw [List.zipIdx_map_snd]
  exact List.pairwise_lt_range'

/-! ## The normal tier -/

theorem unlisted_nil (snapshot : Snapshot) :
    unlisted snapshot [] =
      snapshot.providers.zipIdx.filter fun place => isNormal snapshot place.1 := by
  simp [unlisted]

theorem map_fst_unlisted_nil (snapshot : Snapshot) :
    (unlisted snapshot []).map Prod.fst = snapshot.providers.filter (isNormal snapshot) := by
  have all := List.zipIdx_map_fst 0 snapshot.providers
  calc (unlisted snapshot []).map Prod.fst
      = (snapshot.providers.zipIdx.map Prod.fst).filter (isNormal snapshot) := by
        rw [unlisted_nil, List.filter_map]
        rfl
    _ = snapshot.providers.filter (isNormal snapshot) := by rw [all]

/-- The names of the snapshot choose in turn. -/
theorem choose_names
    (snapshot : Snapshot)
    (names : List String) :
    let chosen := choose snapshot names []
    choose snapshot (snapshot.providers.map Provider.name) chosen =
      inTurn chosen (unlisted snapshot []) := by
  intro chosen
  have all := List.zipIdx_map_fst 0 snapshot.providers
  calc choose snapshot (snapshot.providers.map Provider.name) chosen
      = choose snapshot (snapshot.providers.zipIdx.map fun place => place.1.name) chosen := by
        conv_lhs => rw [← all, List.map_map]
        rfl
    _ = choose snapshot ((unlisted snapshot []).map fun place => place.1.name) chosen := by
        rw [choose_filter_isNormal, unlisted_nil]
    _ = inTurn chosen (unlisted snapshot []) :=
        choose_eq_inTurn (filter_named_unlisted_choose snapshot names [])

/--
The normal tier is the declaration, what the class and the type constructors of the
targets choose, and then every other source in turn: where a source of the snapshot
stands, the one that stands as many of its name further on as were chosen.  These are
the sources that are not chosen, each once, those of one name in their order, and
those whose name has chosen nothing as they stand in the snapshot.  All of them stand
as in the snapshot exactly when no turn brings one ahead of another.
-/
theorem forDerivation_order
    (snapshot : Snapshot)
    (declaration : Declaration)
    (className : String)
    (targets : List TypeExpr) :
    let chosen := chosenFor snapshot className targets
    let others := unlisted snapshot chosen
    let last := inTurn chosen (unlisted snapshot [])
    let order := forDerivation snapshot declaration className targets
    order = ofDeclaration declaration :: (chosen ++ last).map Prod.fst ∧
      last.Perm others ∧
      (∀ name, last.filter (named name) = others.filter (named name)) ∧
      last.filter (unshared chosen) = others.filter (unshared chosen) ∧
      (order = ofDeclaration declaration :: (chosen ++ others).map Prod.fst ↔
        last.Pairwise fun first second => first.2 < second.2) := by
  intro chosen others last order
  have taken : order = ofDeclaration declaration :: (chosen ++ last).map Prod.fst := by
    refine congrArg _ ((takeAll_eq_choose (map_fst_unlisted_nil snapshot).symm).trans ?_)
    rw [takingOrder, choose_append, List.nil_append, choose_names]
    rfl
  have each (name : String) : last.filter (named name) = others.filter (named name) := by
    rw [filter_named_inTurn]
    exact (filter_named_unlisted_choose snapshot _ [] name).symm
  have perm : last.Perm others := perm_of_filter_named each
  have free : last.filter (unshared chosen) = others.filter (unshared chosen) :=
    (filter_unshared_inTurn _ _).trans (filter_unshared_unlisted snapshot chosen).symm
  refine ⟨taken, perm, each, free, ?_, fun increasing => ?_⟩
  · intro documented
    rw [taken, List.map_append, List.map_append] at documented
    have sources := List.append_cancel_left (List.cons.inj documented).2
    have names := congrArg (List.map Provider.name) sources
    rw [List.map_map, List.map_map] at names
    rw [eq_of_filter_named each names]
    exact pairwise_unlisted snapshot chosen
  · have same : last = others := perm.eq_of_pairwise
      (fun _ _ _ _ before after => absurd after (Nat.lt_asymm before))
      increasing (pairwise_unlisted snapshot chosen)
    rw [taken, same]

/-- A second source named after the class moves ahead of a source that stands between. -/
example :
    forDerivation
      { path := none, source := none, declarations := [], interfaces := []
        providers := [⟨"Eq", ⟨0, 2⟩, []⟩, ⟨"Other", ⟨3, 8⟩, []⟩, ⟨"Eq", ⟨9, 11⟩, []⟩]
        lowPriority := [] }
      ⟨"Shape", ⟨12, 17⟩, [], ⟨⟨18, 19⟩, none, []⟩, [], []⟩ "Eq" [.atom "i32"] =
      [⟨"Shape", ⟨12, 17⟩, []⟩, ⟨"Eq", ⟨0, 2⟩, []⟩, ⟨"Eq", ⟨9, 11⟩, []⟩,
        ⟨"Other", ⟨3, 8⟩, []⟩] := by
  decide

end DataDerive.Provider
