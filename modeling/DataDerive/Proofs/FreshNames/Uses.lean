import DataDerive.Proofs.FreshNames

/-!
# Sequences of uses of a supply

A supply is used for single variables and for renamings, one after the other and in
any order.  Each use takes one variable for each name that it is given, which may be
a variable taken before, and the numbers of the variables go on from use to use.  So
all variables of a sequence are distinct, although different names may have one base.
A renaming of distinct names is injective and binds these names and no others.

The numbers have thirty-two bits, which is enough for fewer variables than there are
such numbers.
-/

namespace DataDerive.FreshNames

open TypeExpr Substitution

/-! ## Uses -/

/-- A use of a supply. -/
inductive Use where
  /-- One variable, named after a name. -/
  | fresh (name : String)
  /-- A renaming of some names. -/
  | renameApart (names : List String)
  deriving DecidableEq

/-- The names after which a use names its variables. -/
def Use.names : Use → List String
  | .fresh name => [name]
  | .renameApart names => names

/-- The variables that a use takes, and the supply without them. -/
def take (supply : FreshNames) : Use → List String × FreshNames
  | .fresh name => ([(supply.fresh name).1], (supply.fresh name).2)
  | .renameApart names =>
      ((supply.freshAll names).1.map Prod.snd, (supply.renameApart names).2)

/-- The variables that several uses take, one use after the other, and the supply without them. -/
def takeAll (supply : FreshNames) : List Use → List String × FreshNames
  | [] => ([], supply)
  | use :: rest =>
      ((supply.take use).1 ++ ((supply.take use).2.takeAll rest).1,
        ((supply.take use).2.takeAll rest).2)

theorem freshAll_append (supply : FreshNames) (names others : List String) :
    supply.freshAll (names ++ others) =
      ((supply.freshAll names).1 ++ ((supply.freshAll names).2.freshAll others).1,
        ((supply.freshAll names).2.freshAll others).2) := by
  induction names generalizing supply with
  | nil => rfl
  | cons name rest ih => rw [List.cons_append, freshAll_cons, freshAll_cons, ih, List.cons_append]

theorem take_eq (supply : FreshNames) (use : Use) :
    supply.take use =
      ((supply.freshAll use.names).1.map Prod.snd, (supply.freshAll use.names).2) := by
  cases use with
  | fresh name => rfl
  | renameApart names => rfl

/-- A sequence of uses takes a variable for each name of all uses. -/
theorem takeAll_eq (supply : FreshNames) (uses : List Use) :
    supply.takeAll uses =
      ((supply.freshAll (uses.flatMap Use.names)).1.map Prod.snd,
        (supply.freshAll (uses.flatMap Use.names)).2) := by
  induction uses generalizing supply with
  | nil => rfl
  | cons use rest ih =>
      rw [takeAll, take_eq, ih, List.flatMap_cons, freshAll_append, List.map_append]

theorem takeAll_append (supply : FreshNames) (uses others : List Use) :
    supply.takeAll (uses ++ others) =
      ((supply.takeAll uses).1 ++ ((supply.takeAll uses).2.takeAll others).1,
        ((supply.takeAll uses).2.takeAll others).2) := by
  simp only [takeAll_eq, List.flatMap_append, freshAll_append, List.map_append]

theorem length_takeAll (supply : FreshNames) (uses : List Use) :
    (supply.takeAll uses).1.length = (uses.flatMap Use.names).length := by
  rw [takeAll_eq, List.length_map, ← List.length_map Prod.fst, map_fst_freshAll]

/-! ## Variables of a sequence -/

theorem nodup_map_snd_freshAll (supply : FreshNames) (names : List String) :
    ((supply.freshAll names).1.map Prod.snd).Nodup := by
  induction names generalizing supply with
  | nil => exact List.nodup_nil
  | cons name rest ih =>
      rw [freshAll_cons, List.map_cons, List.nodup_cons]
      refine ⟨fun again => ?_, ih _⟩
      rcases List.mem_map.mp again with ⟨pair, paired, same⟩
      exact (takenBetween_freshAll paired).ne (below_fresh supply name) same

theorem takenBetween_of_mem_takeAll
    {supply : FreshNames}
    {uses : List Use}
    {name : String}
    (taken : name ∈ (supply.takeAll uses).1) :
    TakenBetween supply (supply.takeAll uses).2 name := by
  rw [takeAll_eq] at taken ⊢
  rcases List.mem_map.mp taken with ⟨pair, paired, rfl⟩
  exact takenBetween_freshAll paired

/-! ## Numbers of thirty-two bits -/

/--
A variable for each name, numbered by a counter of thirty-two bits, which goes on
with zero after its last number.
-/
def counted (counter : UInt32) : List String → List String
  | [] => []
  | name :: rest =>
      (base name ++ "#" ++ toString (counter + 1)) :: counted (counter + 1) rest

theorem map_snd_freshAll_eq_counted
    {supply : FreshNames}
    {names : List String}
    (few : supply.taken + names.length < UInt32.size) :
    (supply.freshAll names).1.map Prod.snd = counted (UInt32.ofNat supply.taken) names := by
  induction names generalizing supply with
  | nil => rfl
  | cons name rest ih =>
      rw [List.length_cons] at few
      have next : UInt32.ofNat supply.taken + 1 = UInt32.ofNat (supply.taken + 1) :=
        (UInt32.ofNat_add supply.taken 1).symm
      have shown : toString (UInt32.ofNat (supply.taken + 1)) = toString (supply.taken + 1) := by
        change toString (UInt32.ofNat (supply.taken + 1)).toNat = _
        rw [UInt32.toNat_ofNat_of_lt' (by omega)]
      have onward := @ih (supply.fresh name).2 (by change supply.taken + 1 + _ < _; omega)
      rw [freshAll_cons, List.map_cons, onward, counted, next, shown]
      rfl

/-! ## Renamings -/

/-- A substitution binds some names, each to a variable of its own. -/
structure Renames (renamed : Substitution) (names variants : List String) : Prop where
  contains_iff : ∀ name, renamed.contains name = true ↔ name ∈ names
  size_eq : renamed.size = names.length
  variants : List.Forall₂ (fun name variant => renamed.get? name = some (.var variant))
    names variants
  injective : ∀ name other target, renamed.get? name = some target →
    renamed.get? other = some target → name = other

/-- A renaming of distinct names binds each of them to the variable taken for it. -/
theorem renames_renameApart (supply : FreshNames) {names : List String} (distinct : names.Nodup) :
    Renames (supply.renameApart names).1 names (supply.take (.renameApart names)).1 := by
  rcases supply.renameApart_spec names with ⟨variant, renames⟩
  have keys : ((supply.freshAll names).1.map fun pair => (pair.1, TypeExpr.var pair.2)).map
      Prod.fst = names := by
    rw [List.map_map]
    exact map_fst_freshAll supply names
  have listed {name : String} {target : TypeExpr}
      (found : (supply.renameApart names).1.get? name = some target) : name ∈ names := by
    rw [← keys]
    exact List.mem_map_of_mem (mem_of_get?_ofPairs found)
  have contains_iff (name : String) :
      (supply.renameApart names).1.contains name = true ↔ name ∈ names := by
    rw [contains, Option.isSome_iff_exists]
    exact ⟨fun bound => listed bound.choose_spec, fun member => ⟨_, renames.get? name member⟩⟩
  refine ⟨contains_iff, ?size_eq, ?variants, ?injective⟩
  case size_eq =>
    have perm : ((supply.renameApart names).1.bindings.map Prod.fst).Perm names := by
      refine (List.perm_ext_iff_of_nodup (supply.renameApart names).1.nodup distinct).mpr ?_
      intro name
      rw [← contains_iff, contains_iff_mem_keys]
    rw [size, ← List.length_map Prod.fst, perm.length_eq]
  case variants =>
    have paired : List.Forall₂
        (fun name variant => (supply.renameApart names).1.get? name = some (.var variant))
        ((supply.freshAll names).1.map Prod.fst) ((supply.freshAll names).1.map Prod.snd) := by
      rw [List.forall₂_map_left_iff, List.forall₂_map_right_iff, List.forall₂_same]
      intro pair member
      refine get?_ofPairs_of_mem (keys.symm ▸ distinct) ?_
      exact List.mem_map.mpr ⟨pair, member, rfl⟩
    rwa [map_fst_freshAll] at paired
  case injective =>
    intro name other target isTarget isOther
    have first := listed isTarget
    rw [renames.get? name first, ← isOther,
      renames.get? other (listed isOther)] at isTarget
    exact renames.injective name first other (listed isOther)
      (TypeExpr.var.inj (Option.some.inj isTarget))

/-! ## Sequences -/

/-- A renaming takes its variables where it stands in a sequence. -/
theorem prefix_takeAll (supply : FreshNames) (earlier : List Use) (use : Use) (later : List Use) :
    (supply.takeAll earlier).1 ++ ((supply.takeAll earlier).2.take use).1 <+:
      (supply.takeAll (earlier ++ use :: later)).1 := by
  rw [takeAll_append, takeAll, ← List.append_assoc]
  exact List.prefix_append _ _

/--
In a sequence of uses that takes fewer variables than there are numbers of thirty-two
bits, the variables are numbered one after the other.  They are distinct, all have the
form of a fresh variable, and none is a name without that form.  Where distinct names
are renamed, the renaming is injective, its domain is these names, and it puts the
variables for them that are taken next.
-/
theorem takeAll_apart
    (uses : List Use)
    (few : (start.takeAll uses).1.length < UInt32.size) :
    let variants := (start.takeAll uses).1
    variants = counted 0 (uses.flatMap Use.names) ∧
      variants.Nodup ∧
      (∀ variant ∈ variants, isFresh variant = true) ∧
      (∀ variant ∈ variants, ∀ name, isFresh name = false → variant ≠ name) ∧
      ∀ earlier names later, uses = earlier ++ .renameApart names :: later → names.Nodup →
        ∃ own, (start.takeAll earlier).1 ++ own <+: variants ∧
          Renames ((start.takeAll earlier).2.renameApart names).1 names own := by
  intro variants
  have fresh (variant : String) (taken : variant ∈ variants) : isFresh variant = true := by
    rcases takenBetween_of_mem_takeAll taken with ⟨number, numbered, -, -⟩
    exact numbered.isFresh
  refine ⟨?_, ?_, fresh, ?_, ?_⟩
  · rw [length_takeAll] at few
    have fits : start.taken + (uses.flatMap Use.names).length < UInt32.size := by
      rwa [start, Nat.zero_add]
    exact (congrArg Prod.fst (start.takeAll_eq uses)).trans (map_snd_freshAll_eq_counted fits)
  · change (start.takeAll uses).1.Nodup
    rw [takeAll_eq]
    exact nodup_map_snd_freshAll start _
  · rintro variant taken _ written rfl
    exact Bool.false_ne_true (written.symm.trans (fresh variant taken))
  · rintro earlier names later rfl distinct
    exact ⟨_, prefix_takeAll start earlier (.renameApart names) later,
      renames_renameApart _ distinct⟩

/-- Variables of variables, and a renaming of names with one base and with none. -/
def nestedUses : List Use :=
  [.fresh "A", .fresh "A#1", .renameApart ["A#2", "B", "#", "B#7"], .fresh "B#4"]

theorem takeAll_apart_nested :
    (start.takeAll nestedUses).1 = ["A#1", "A#2", "A#3", "B#4", "#5", "B#6", "B#7"] ∧
      (start.takeAll nestedUses).1.length < UInt32.size ∧
      (start.takeAll nestedUses).1.Nodup ∧
      ["A#2", "B", "#", "B#7"].Nodup ∧
      ∃ own, ["A#1", "A#2"] ++ own <+: (start.takeAll nestedUses).1 ∧
        Renames (FreshNames.renameApart ⟨2⟩ ["A#2", "B", "#", "B#7"]).1
          ["A#2", "B", "#", "B#7"] own := by
  have taken : (start.takeAll nestedUses).1 =
      ["A#1", "A#2", "A#3", "B#4", "#5", "B#6", "B#7"] := by
    decide
  have few : (start.takeAll nestedUses).1.length < UInt32.size := by
    rw [taken]
    decide
  have distinct : ["A#2", "B", "#", "B#7"].Nodup := by decide
  obtain ⟨-, apart, -, -, renamings⟩ := takeAll_apart nestedUses few
  exact ⟨taken, few, apart, distinct,
    renamings [.fresh "A", .fresh "A#1"] _ [.fresh "B#4"] rfl distinct⟩

end DataDerive.FreshNames
