import DataDerive.CommandLine.FileTree
import Mathlib.Data.List.Basic

/-!
# Reading what was written

A text is written at the route that a path leads to.  Which route that is depends
on the directories only, so writing one file changes neither where other texts
go nor what other files say.  The route ends in the last name of the path.
-/

namespace DataDerive

/-! ## Parts of a text -/

namespace Text

variable {separator : Char}

theorem partsFrom_of_not_mem {current characters : List Char} (absent : separator ∉ characters) :
    partsFrom separator current characters = [current ++ characters] := by
  induction characters generalizing current with
  | nil => rw [partsFrom, List.append_nil]
  | cons first rest ih =>
      rw [List.mem_cons, not_or] at absent
      rw [partsFrom, if_neg (Ne.symm absent.1), ih absent.2, List.append_assoc,
        List.singleton_append]

theorem partsFrom_append (current before after : List Char) :
    partsFrom separator current (before ++ separator :: after) =
      partsFrom separator current before ++ partsFrom separator [] after := by
  induction before generalizing current with
  | nil => simp [partsFrom]
  | cons first rest ih =>
      rw [List.cons_append, partsFrom, partsFrom]
      split
      next => rw [ih, List.cons_append]
      next => rw [ih]

theorem nonemptyParts_of_not_mem
    {text : String}
    (absent : separator ∉ text.toList)
    (nonempty : text ≠ "") :
    nonemptyParts separator text = [text] := by
  rw [nonemptyParts, partsFrom_of_not_mem absent, List.nil_append]
  simp [nonempty]

theorem nonemptyParts_append (before after : String) :
    nonemptyParts '/' (before ++ "/" ++ after) =
      nonemptyParts '/' before ++ nonemptyParts '/' after := by
  have characters : (before ++ "/" ++ after).toList = before.toList ++ '/' :: after.toList := by
    simp
  rw [nonemptyParts, characters, partsFrom_append, List.filter_append, List.map_append]
  rfl

end Text

namespace FileTree

variable {tree : FileTree} {here route other : Route} {way : List String}
variable {path text : String}

/-! ## Routes -/

/-- The route along names from a directory, if it leads through directories and not to one. -/
def reach (tree : FileTree) (here : Route) : List String → Option Route
  | [] => none
  | ".." :: rest => if here.isEmpty then none else tree.reach here.dropLast rest
  | name :: rest =>
      let route := here ++ [name]
      if tree.isDirectory route then
        tree.reach route rest
      else if rest.isEmpty then
        some route
      else
        none

/-- What a route that leads to no directory leads to. -/
def entryAt (tree : FileTree) (route : Route) : FileEntry :=
  match tree.file? route with
  | some text => .file route text
  | none => .missing route

theorem follow_of_reach (leads : tree.reach here way = some route) :
    tree.follow here way = .ok (tree.entryAt route) := by
  fun_induction FileTree.reach tree here way with
  | case1 => cases leads
  | case2 => cases leads
  | case3 here rest inside ih => rw [follow, if_neg inside, ih leads]
  | case4 here name rest forward next directory ih =>
      rw [follow.eq_3 _ _ _ _ forward, if_pos directory, ih leads]
  | case5 here name rest forward next plain last =>
      rw [← Option.some.inj leads, follow.eq_3 _ _ _ _ forward, if_neg plain, entryAt]
      split
      next found => rw [found, if_pos last]
      next found => rw [found, if_pos last]
  | case6 => cases leads

theorem exists_reach_of_follow
    {entry : FileEntry}
    (ends : tree.follow here way = .ok entry)
    (plain : ∀ directory, entry ≠ .directory directory) :
    ∃ route, tree.reach here way = some route ∧ entry = tree.entryAt route := by
  fun_induction FileTree.follow tree here way with
  | case1 here =>
      cases ends
      exact absurd rfl (plain here)
  | case2 => cases ends
  | case3 here rest inside ih =>
      rw [reach, if_neg inside]
      exact ih ends
  | case4 here name rest forward next directory ih =>
      rw [reach.eq_3 _ _ _ _ forward, if_pos directory]
      exact ih ends
  | case5 here name rest forward next file text found last =>
      cases ends
      rw [reach.eq_3 _ _ _ _ forward, if_neg file, if_pos last]
      exact ⟨next, rfl, by rw [entryAt, found]⟩
  | case6 => cases ends
  | case7 here name rest forward next file found last =>
      cases ends
      rw [reach.eq_3 _ _ _ _ forward, if_neg file, if_pos last]
      exact ⟨next, rfl, by rw [entryAt, found]⟩
  | case8 => cases ends

/-- A route ends in the last of the names that lead to it. -/
theorem getLast?_of_reach (leads : tree.reach here way = some route) :
    route.getLast? = way.getLast? := by
  fun_induction FileTree.reach tree here way with
  | case1 => cases leads
  | case2 => cases leads
  | case3 here rest inside ih =>
      rw [ih leads]
      cases rest with
      | nil => cases leads
      | cons => rfl
  | case4 here name rest forward next directory ih =>
      rw [ih leads]
      cases rest with
      | nil => cases leads
      | cons => rfl
  | case5 here name rest forward next plain last =>
      rw [← Option.some.inj leads, List.isEmpty_iff.mp last, List.getLast?_concat,
        List.getLast?_singleton]
  | case6 => cases leads

/-- The route at which a text is written to a path, if it can be written. -/
def place? (tree : FileTree) (path : String) : Option Route :=
  if endsInDirectory path then
    none
  else
    match steps path with
    | .ok names => tree.reach [] names
    | .error _ => none

theorem eq_names_of_steps (possible : steps path = .ok way) : way = names path := by
  rw [steps] at possible
  split at possible
  next => cases possible
  next =>
    split at possible
    next => cases possible
    next => exact (Except.ok.inj possible).symm

theorem place?_eq_some_iff :
    tree.place? path = some route ↔
      endsInDirectory path = false ∧ steps path = .ok (names path) ∧
        tree.reach [] (names path) = some route := by
  rw [place?]
  cases endsInDirectory path with
  | true => simp
  | false =>
      rcases possible : steps path with fault | way
      · simp
      · rw [eq_names_of_steps possible]
        simp

theorem getLast?_of_place? (placed : tree.place? path = some route) :
    route.getLast? = (names path).getLast? :=
  getLast?_of_reach (place?_eq_some_iff.mp placed).2.2

theorem entry_of_place? (placed : tree.place? path = some route) :
    tree.entry path = .ok (tree.entryAt route) := by
  obtain ⟨-, possible, leads⟩ := place?_eq_some_iff.mp placed
  rw [entry, possible]
  exact follow_of_reach leads

/-! ## Writing one file -/

@[simp]
theorem isDirectory_put (tree : FileTree) (written : Route) (text : String) (route : Route) :
    (tree.put written text).isDirectory route = tree.isDirectory route :=
  rfl

theorem reach_put
    (tree : FileTree)
    (written : Route)
    (text : String)
    (here : Route)
    (way : List String) :
    (tree.put written text).reach here way = tree.reach here way := by
  fun_induction FileTree.reach tree here way with
  | case1 => rfl
  | case2 here rest top => rw [reach, if_pos top]
  | case3 here rest inside ih => rw [reach, if_neg inside, ih]
  | case4 here name rest forward next directory ih =>
      rw [reach.eq_3 _ _ _ _ forward, isDirectory_put, if_pos directory, ih]
  | case5 here name rest forward next plain last =>
      rw [reach.eq_3 _ _ _ _ forward, isDirectory_put, if_neg plain, if_pos last]
  | case6 here name rest forward next plain further =>
      rw [reach.eq_3 _ _ _ _ forward, isDirectory_put, if_neg plain, if_neg further]

theorem file?_put_self (tree : FileTree) (route : Route) (text : String) :
    (tree.put route text).file? route = some text := by
  have absent : (tree.files.filter fun file => file.1 != route).find?
      (fun file => file.1 == route) = none := by
    simp
  rw [file?, put, List.find?_append, absent, Option.none_or, List.find?_singleton]
  simp

theorem file?_put_of_ne (apart : other ≠ route) (text : String) :
    (tree.put route text).file? other = tree.file? other := by
  have last : [(route, text)].find? (fun file => file.1 == other) = none := by
    simp [Ne.symm apart]
  have kept : (tree.files.filter fun file => file.1 != route).find?
      (fun file => file.1 == other) = tree.files.find? fun file => file.1 == other := by
    rw [List.find?_filter]
    congr 1
    funext file
    by_cases same : file.1 = other
    · simp [same, apart]
    · simp [same]
  rw [file?, put, List.find?_append, last, Option.or_none, kept, file?]

theorem place?_put (tree : FileTree) (written : Route) (text path : String) :
    (tree.put written text).place? path = tree.place? path := by
  rw [place?, place?]
  simp only [reach_put]

/-- A path that leads to a file or to a place for one has that route as its place. -/
theorem place?_of_entry
    {found : FileEntry}
    (ends : tree.entry path = .ok found)
    (leads : found = .missing route ∨ ∃ old, found = .file route old)
    (file : endsInDirectory path = false) :
    tree.place? path = some route := by
  have plain (directory : Route) : found ≠ .directory directory := by
    rcases leads with rfl | ⟨old, rfl⟩ <;> nofun
  rw [entry] at ends
  rcases possible : steps path with fault | way
  · rw [possible] at ends
    cases ends
  · rw [possible] at ends
    rw [eq_names_of_steps possible] at ends possible
    obtain ⟨next, reaches, same⟩ := exists_reach_of_follow ends plain
    have ofNext : next = route := by
      rw [same, entryAt] at leads
      split at leads <;> simpa using leads
    exact place?_eq_some_iff.mpr ⟨file, possible, ofNext ▸ reaches⟩

/-- Writing a text puts it at the place of the path. -/
theorem exists_place?_of_writeText
    {changed : FileTree}
    (written : tree.writeText path text = .ok changed) :
    ∃ route, tree.place? path = some route ∧ changed = tree.put route text := by
  rw [writeText] at written
  rcases ends : tree.entry path with fault | found
  · rw [ends] at written
    cases written
  · rw [ends] at written
    cases found with
    | directory => cases written
    | missing next =>
        change (if endsInDirectory path then throw FileFault.isDirectory else
          pure (tree.put next text)) = Except.ok changed at written
        split at written
        next => cases written
        next file =>
          cases written
          exact ⟨next, place?_of_entry ends (.inl rfl) (Bool.eq_false_iff.mpr file), rfl⟩
    | file next old =>
        change (if endsInDirectory path then throw FileFault.notDirectory else
          pure (tree.put next text)) = Except.ok changed at written
        split at written
        next => cases written
        next file =>
          cases written
          exact ⟨next, place?_of_entry ends (.inr ⟨old, rfl⟩) (Bool.eq_false_iff.mpr file), rfl⟩

/-- Reading gives the text at the place of the path. -/
theorem readText_of_place?
    (placed : tree.place? path = some route)
    (found : tree.file? route = some text) :
    tree.readText path = .ok text := by
  rw [readText, entry_of_place? placed, entryAt, found]
  change (if endsInDirectory path then throw FileFault.notDirectory else pure text) = _
  rw [(place?_eq_some_iff.mp placed).1]
  rfl

end FileTree

end DataDerive
