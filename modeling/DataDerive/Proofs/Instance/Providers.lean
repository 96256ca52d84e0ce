import DataDerive.Instance.Provider
import Mathlib.Data.List.Count
import Mathlib.Data.List.Perm.Basic

/-!
# Sources in the two tiers of providers

Taking a source by name moves it from those that are left to those that are
taken, so nothing is lost or repeated while names take their sources.  A name
that is not of low priority finds nothing left once it has been taken as often as
it occurs, and the taking order has it at least that often.  Hence the normal tier
is a rearrangement of the sources that are not of low priority.

The low tier looks each listed name up again and always finds the first source of
that name.  The main result says how often each source is searched there, and
exactly when every source of the snapshot is searched once.
-/

namespace DataDerive.Provider

variable {snapshot : Snapshot} {name other : String} {names : List String}
variable {source : Provider} {left : List Provider}

/-- Whether a source is searched in the normal tier. -/
def isNormal (snapshot : Snapshot) (source : Provider) : Bool :=
  !snapshot.isLowPriority source.name

/-! ## Taking one source -/

theorem take_of_lowPriority (low : snapshot.isLowPriority name = true) :
    take snapshot name left = (none, left) := by
  rw [take, if_pos low]

theorem take_of_normal (normal : snapshot.isLowPriority name = false) :
    take snapshot name left =
      (left.find? fun source => source.name == name,
        left.eraseP fun source => source.name == name) := by
  rw [take, if_neg (Bool.eq_false_iff.mp normal)]

theorem perm_find?_eraseP (keeps : Provider → Bool) (left : List Provider) :
    ((left.find? keeps).toList ++ left.eraseP keeps).Perm left := by
  induction left with
  | nil => exact .nil
  | cons first rest ih =>
      cases kept : keeps first with
      | true =>
          rw [List.find?_cons_of_pos kept, List.eraseP_cons_of_pos kept]
          exact .refl _
      | false =>
          rw [List.find?_cons_of_neg (by simp [kept]), List.eraseP_cons_of_neg (by simp [kept])]
          exact List.perm_middle.trans (ih.cons first)

theorem perm_take (snapshot : Snapshot) (name : String) (left : List Provider) :
    ((take snapshot name left).1.toList ++ (take snapshot name left).2).Perm left := by
  cases low : snapshot.isLowPriority name with
  | true =>
      rw [take_of_lowPriority low]
      exact .refl _
  | false =>
      rw [take_of_normal low]
      exact perm_find?_eraseP _ left

theorem isNormal_of_take (taken : (take snapshot name left).1 = some source) :
    isNormal snapshot source = true := by
  cases low : snapshot.isLowPriority name with
  | true =>
      rw [take_of_lowPriority low] at taken
      cases taken
  | false =>
      rw [take_of_normal low] at taken
      have named := List.find?_some taken
      rw [beq_iff_eq] at named
      rw [isNormal, named, low]
      rfl

/-- A name that is not of low priority takes one source of its own name, if there is one. -/
theorem map_name_take_of_normal (normal : snapshot.isLowPriority name = false) :
    (take snapshot name left).2.map Provider.name = (left.map Provider.name).erase name := by
  rw [take_of_normal normal, List.erase_eq_eraseP', List.eraseP_map]
  rfl

/-! ## Taking all sources -/

/-- The sources that are left when names have taken theirs. -/
def leftAfter (snapshot : Snapshot) : (names : List String) → List Provider → List Provider
  | [], left => left
  | name :: rest, left => leftAfter snapshot rest (take snapshot name left).2

theorem perm_takeAll (snapshot : Snapshot) (names : List String) (left : List Provider) :
    (takeAll snapshot names left ++ leftAfter snapshot names left).Perm left := by
  induction names generalizing left with
  | nil => exact .refl _
  | cons name rest ih =>
      rw [takeAll, leftAfter, List.append_assoc]
      exact ((ih _).append_left _).trans (perm_take snapshot name left)

theorem isNormal_of_mem_takeAll (taken : source ∈ takeAll snapshot names left) :
    isNormal snapshot source = true := by
  induction names generalizing left with
  | nil => cases taken
  | cons name rest ih =>
      rw [takeAll, List.mem_append, Option.mem_toList] at taken
      exact taken.elim isNormal_of_take ih

/-- A name that is not of low priority leaves as many sources as it has not taken. -/
theorem count_name_leftAfter
    (normal : snapshot.isLowPriority name = false)
    (names : List String)
    (left : List Provider) :
    ((leftAfter snapshot names left).map Provider.name).count name =
      (left.map Provider.name).count name - names.count name := by
  induction names generalizing left with
  | nil => rfl
  | cons first rest ih =>
      rw [leftAfter, ih]
      -- A name of low priority takes nothing; another one takes a source of its own name.
      cases low : snapshot.isLowPriority first with
      | true =>
          have apart : first ≠ name := fun same => by
            rw [same, normal] at low
            cases low
          rw [take_of_lowPriority low, List.count_cons_of_ne apart]
      | false =>
          rw [map_name_take_of_normal low, List.count_erase, List.count_cons]
          omega

/-! ## The normal tier -/

/-- Every name takes its sources often enough in the taking order. -/
theorem count_le_count_takingOrder
    (snapshot : Snapshot)
    (className : String)
    (targets : List TypeExpr)
    (name : String) :
    (snapshot.providers.map Provider.name).count name ≤
      (takingOrder snapshot className targets).count name := by
  rw [takingOrder, List.count_append]
  exact Nat.le_add_left _ _

theorem isNormal_eq_false_of_mem_leftAfter
    {className : String}
    {targets : List TypeExpr}
    (remains : source ∈
      leftAfter snapshot (takingOrder snapshot className targets) snapshot.providers) :
    isNormal snapshot source = false := by
  refine Bool.eq_false_iff.mpr fun normal => ?_
  rw [isNormal, Bool.not_eq_true'] at normal
  have none := count_name_leftAfter normal
    (takingOrder snapshot className targets) snapshot.providers
  rw [Nat.sub_eq_zero_of_le (count_le_count_takingOrder ..), List.count_eq_zero] at none
  exact none (List.mem_map_of_mem remains)

/-- The sources taken for a derivation are the normal ones, each once. -/
theorem perm_takeAll_takingOrder
    (snapshot : Snapshot)
    (className : String)
    (targets : List TypeExpr) :
    (takeAll snapshot (takingOrder snapshot className targets) snapshot.providers).Perm
      (snapshot.providers.filter (isNormal snapshot)) := by
  have split := (perm_takeAll snapshot (takingOrder snapshot className targets)
    snapshot.providers).filter (isNormal snapshot)
  rw [List.filter_append,
    List.filter_eq_self.mpr fun _ taken => isNormal_of_mem_takeAll taken,
    List.filter_eq_nil_iff.mpr fun _ remains =>
      Bool.eq_false_iff.mp (isNormal_eq_false_of_mem_leftAfter remains),
    List.append_nil] at split
  exact split

theorem isNormal_iff : isNormal snapshot source = true ↔ source.name ∉ snapshot.lowPriority := by
  rw [isNormal, Bool.not_eq_true', ← Bool.not_eq_true, Snapshot.isLowPriority,
    List.contains_iff_mem]

/-- A rearrangement of some members of a list visits each of their positions once. -/
theorem exists_positions_of_perm
    {keeps : Provider → Bool}
    {sources taken : List Provider}
    (perm : taken.Perm (sources.filter keeps)) :
    ∃ positions : List Nat,
      List.Forall₂ (fun position source => sources[position]? = some source) positions taken ∧
      positions.Nodup ∧
      ∀ position source, sources[position]? = some source →
        (position ∈ positions ↔ keeps source = true) := by
  let kept := sources.zipIdx.filter fun place => keeps place.1
  have values : sources.filter keeps = kept.map Prod.fst := by
    have all := List.zipIdx_map_fst 0 sources
    calc sources.filter keeps
        = (sources.zipIdx.map Prod.fst).filter keeps := by rw [all]
      _ = kept.map Prod.fst := List.filter_map
  -- The kept places are rearranged as their sources are.
  obtain ⟨places, rfl, rearranged⟩ :
      Relation.Comp (fun taken places => taken = places.map Prod.fst) List.Perm taken kept := by
    have images : taken.Perm (kept.map Prod.fst) := values ▸ perm
    rw [List.eq_map_comp_perm]
    exact images
  have mem_places (source : Provider) (position : Nat) : (source, position) ∈ places ↔
      sources[position]? = some source ∧ keeps source = true := by
    rw [rearranged.mem_iff, List.mem_filter, List.mem_zipIdx_iff_getElem?]
  refine ⟨places.map Prod.snd, ?_, ?_, fun position source found => ?_⟩
  · rw [List.forall₂_map_left_iff, List.forall₂_map_right_iff, List.forall₂_same]
    exact fun place listed => ((mem_places _ _).mp listed).1
  · refine (rearranged.map Prod.snd).nodup_iff.mpr ?_
    refine List.Nodup.sublist (List.filter_sublist.map Prod.snd) ?_
    rw [List.zipIdx_map_snd]
    exact List.nodup_range'
  · rw [List.mem_map]
    constructor
    · rintro ⟨⟨other, _⟩, listed, rfl⟩
      rcases (mem_places _ _).mp listed with ⟨same, kept⟩
      cases Option.some.inj (same.symm.trans found)
      exact kept
    · exact fun kept => ⟨(source, position), (mem_places _ _).mpr ⟨found, kept⟩, rfl⟩

/--
The providers of a derivation are the declaration itself and then the sources of the
snapshot that are not marked as low priority, each position of the snapshot once.
Neither names that several sources share nor a class that is also a type constructor
of the targets makes a difference.
-/
theorem forDerivation_perm
    (snapshot : Snapshot)
    (declaration : Declaration)
    (className : String)
    (targets : List TypeExpr) :
    ∃ taken positions,
      forDerivation snapshot declaration className targets =
        ofDeclaration declaration :: taken ∧
      taken.Perm (snapshot.providers.filter fun source => source.name ∉ snapshot.lowPriority) ∧
      List.Forall₂ (fun position source => snapshot.providers[position]? = some source)
        positions taken ∧
      positions.Nodup ∧
      ∀ (position : Nat) (source : Provider), snapshot.providers[position]? = some source →
        (position ∈ positions ↔ source.name ∉ snapshot.lowPriority) := by
  have same : isNormal snapshot =
      fun source : Provider => decide (source.name ∉ snapshot.lowPriority) :=
    funext fun source => Bool.eq_iff_iff.mpr (isNormal_iff.trans decide_eq_true_iff.symm)
  have normal := perm_takeAll_takingOrder snapshot className targets
  rcases exists_positions_of_perm normal with ⟨positions, placed, once, visited⟩
  simp only [isNormal_iff] at visited
  exact ⟨_, positions, rfl, same ▸ normal, placed, once, visited⟩

/-! ## The low tier -/

/-- Whether a source is the first of its name in the snapshot. -/
def IsFirst (snapshot : Snapshot) (source : Provider) : Prop :=
  (snapshot.providers.find? fun other => other.name == source.name) = some source

instance (snapshot : Snapshot) (source : Provider) : Decidable (IsFirst snapshot source) :=
  inferInstanceAs (Decidable (_ = _))

theorem IsFirst.mem (first : IsFirst snapshot source) : source ∈ snapshot.providers :=
  List.mem_of_find?_eq_some first

/-- A source is the first of its name if no other source has it. -/
theorem isFirst_of_unique
    (provided : source ∈ snapshot.providers)
    (unique : ∀ rival ∈ snapshot.providers, rival.name = source.name → rival = source) :
    IsFirst snapshot source := by
  rcases found : snapshot.providers.find? fun rival => rival.name == source.name with _ | first
  · have other := List.find?_eq_none.mp found source provided
    simp at other
  · have named := List.find?_some found
    rw [beq_iff_eq] at named
    rw [IsFirst, found, unique first (List.mem_of_find?_eq_some found) named]

/-- A listed name finds a source if it is its name and the source is the first of that name. -/
theorem find?_eq_some_iff_isFirst :
    (snapshot.providers.find? fun rival => rival.name == name) = some source ↔
      name = source.name ∧ IsFirst snapshot source := by
  constructor
  · intro found
    have named := List.find?_some found
    rw [beq_iff_eq] at named
    subst named
    exact ⟨rfl, found⟩
  · rintro ⟨rfl, first⟩
    exact first

theorem count_lowPriority (snapshot : Snapshot) (source : Provider) :
    (lowPriority snapshot).count source =
      if IsFirst snapshot source then snapshot.lowPriority.count source.name else 0 := by
  rw [lowPriority, List.count_filterMap]
  split
  next first =>
    refine List.countP_congr fun name _ => ?_
    rw [beq_iff_eq, beq_iff_eq, find?_eq_some_iff_isFirst]
    exact and_iff_left first
  next later =>
    refine List.countP_eq_zero.mpr fun name _ found => ?_
    rw [beq_iff_eq] at found
    exact later (find?_eq_some_iff_isFirst.mp found).2

theorem isNormal_of_mem_lowPriority (searched : source ∈ lowPriority snapshot) :
    isNormal snapshot source = false := by
  obtain ⟨name, listed, found⟩ := List.mem_filterMap.mp searched
  rw [(find?_eq_some_iff_isFirst.mp found).1] at listed
  rw [isNormal, Snapshot.isLowPriority, List.contains_iff_mem.mpr listed]
  rfl

/-- No other source has the name of a low priority source, which is listed as often as it stands. -/
def SearchesLowOnce (snapshot : Snapshot) : Prop :=
  ∀ source ∈ snapshot.providers, isNormal snapshot source = false →
    snapshot.lowPriority.count source.name = snapshot.providers.count source ∧
      ∀ rival ∈ snapshot.providers, rival.name = source.name → rival = source

theorem count_lowPriority_eq_of_searchesLowOnce
    (once : SearchesLowOnce snapshot)
    (low : isNormal snapshot source = false) :
    (lowPriority snapshot).count source = snapshot.providers.count source := by
  rw [count_lowPriority]
  by_cases provided : source ∈ snapshot.providers
  · obtain ⟨listed, unique⟩ := once source provided low
    rw [if_pos (isFirst_of_unique provided unique), listed]
  · rw [if_neg fun first => provided first.mem, List.count_eq_zero.mpr provided]

theorem searchesLowOnce_of_count
    (counts : ∀ source, isNormal snapshot source = false →
      (lowPriority snapshot).count source = snapshot.providers.count source) :
    SearchesLowOnce snapshot := by
  -- A source of the snapshot that is searched at all is the first of its name.
  have first (source : Provider)
      (provided : source ∈ snapshot.providers)
      (low : isNormal snapshot source = false) : IsFirst snapshot source := by
    have searched := counts source low
    rw [count_lowPriority] at searched
    by_contra later
    rw [if_neg later] at searched
    exact List.count_eq_zero.mp searched.symm provided
  intro source provided low
  constructor
  · rw [← counts source low, count_lowPriority, if_pos (first source provided low)]
  · intro rival rivals named
    have lowRival : isNormal snapshot rival = false := by
      rw [isNormal, named]
      exact low
    have found := first rival rivals lowRival
    rw [IsFirst, named] at found
    exact Option.some.inj (found.symm.trans (first source provided low))

/-! ## Both tiers -/

/-- The sources of the two tiers are those of the snapshot exactly when the low tier is faithful. -/
theorem perm_tiers_iff
    {taken : List Provider}
    (normal : taken.Perm (snapshot.providers.filter (isNormal snapshot))) :
    (taken ++ lowPriority snapshot).Perm snapshot.providers ↔ SearchesLowOnce snapshot := by
  have count_taken (source : Provider) :
      taken.count source =
        if isNormal snapshot source then snapshot.providers.count source else 0 := by
    rw [normal.count_eq]
    split
    next kept => exact List.count_filter kept
    next dropped => exact List.count_eq_zero.mpr fun kept => dropped (List.mem_filter.mp kept).2
  rw [List.perm_iff_count]
  constructor
  · intro counts
    refine searchesLowOnce_of_count fun source low => ?_
    rw [← counts source, List.count_append, count_taken, low, if_neg Bool.false_ne_true,
      Nat.zero_add]
  · intro once source
    rw [List.count_append, count_taken]
    cases kind : isNormal snapshot source with
    | true =>
        have absent : (lowPriority snapshot).count source = 0 :=
          List.count_eq_zero.mpr fun searched => by
            rw [isNormal_of_mem_lowPriority searched] at kind
            cases kind
        rw [absent, if_pos rfl, Nat.add_zero]
    | false =>
        rw [count_lowPriority_eq_of_searchesLowOnce once kind, if_neg Bool.false_ne_true,
          Nat.zero_add]

/-- The normal tier searches every source that is not of low priority once, whatever the names are;
the low tier searches the first source of a listed name as often as the name is listed and no
other.  So every source is searched once, and in one tier, exactly when low priority sources do
not share their names and are listed once for each time that they stand in the snapshot. -/
theorem searched_once_iff
    (snapshot : Snapshot)
    (declaration : Declaration)
    (className : String)
    (targets : List TypeExpr) :
    ∃ taken,
      forDerivation snapshot declaration className targets =
        ofDeclaration declaration :: taken ∧
      taken.Perm (snapshot.providers.filter (isNormal snapshot)) ∧
      (∀ source ∈ lowPriority snapshot, isNormal snapshot source = false) ∧
      (∀ source, (lowPriority snapshot).count source =
        if IsFirst snapshot source then snapshot.lowPriority.count source.name else 0) ∧
      ((taken ++ lowPriority snapshot).Perm snapshot.providers ↔ SearchesLowOnce snapshot) := by
  have normal := perm_takeAll_takingOrder snapshot className targets
  exact ⟨_, rfl, normal, fun _ => isNormal_of_mem_lowPriority, count_lowPriority snapshot,
    perm_tiers_iff normal⟩

/-- Of two sources that share a listed name only the first is searched. -/
example :
    lowPriority
      { path := none, source := none, declarations := [], interfaces := []
        providers := [⟨"Slow", ⟨0, 4⟩, []⟩, ⟨"Slow", ⟨5, 9⟩, []⟩]
        lowPriority := ["Slow"] } =
      [⟨"Slow", ⟨0, 4⟩, []⟩] := by
  decide

end DataDerive.Provider
