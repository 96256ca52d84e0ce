import DataDerive.CommandLine.Command
import DataDerive.Proofs.CommandLine.FileTree
import DataDerive.Proofs.Run.Outcome

/-!
# The files of the modules

The modules of a run are written to one directory, one after the other, each
under the snake case of the name of its declaration.  Different stems give
different files and equal stems the same file, in which the last module stays.
So every module has a file of its own exactly if the names of the declarations
that succeed differ in snake case; nothing looks whether they do.
-/

namespace DataDerive

open FileTree

/-! ## Paths -/

theorem Text.exists_of_endsWith {text ending : String} (ends : text.endsWith ending = true) :
    ∃ front, text = front ++ ending := by
  have suffix : ending.toList <:+ text.toList := by
    simpa using String.Slice.endsWith_string_iff.mp ends
  obtain ⟨front, whole⟩ := suffix
  exact ⟨String.ofList front, by rw [← String.toList_inj]; simp [whole]⟩

namespace GeneratedModule

variable {directory : String} {module other : GeneratedModule}

/-- The stem of the file is a single name. -/
def IsPlain (module : GeneratedModule) : Prop :=
  '/' ∉ module.fileStem.toList

/-- The name of the file. -/
def fileName (module : GeneratedModule) : String :=
  module.fileStem ++ ".rs"

theorem fileName_inj : module.fileName = other.fileName ↔ module.fileStem = other.fileStem :=
  String.append_left_inj ".rs"

theorem names_fileName (plain : module.IsPlain) : names module.fileName = [module.fileName] := by
  have characters : module.fileName.toList = module.fileStem.toList ++ ['.', 'r', 's'] := by
    simp [fileName]
  have absent : '/' ∉ module.fileName.toList := by
    rw [characters, List.mem_append, not_or]
    exact ⟨plain, by decide⟩
  have nonempty : module.fileName ≠ "" := by
    rw [ne_eq, ← String.toList_inj, characters]
    simp
  have moves : module.fileName ≠ "." := by
    rw [ne_eq, ← String.toList_inj, characters]
    intro same
    simpa using congrArg List.length same
  rw [names, Text.nonemptyParts_of_not_mem absent nonempty]
  simp [moves]

/-- The path of a module ends in the name of its file. -/
theorem exists_names_path (directory : String) (plain : module.IsPlain) :
    ∃ front, names (module.path directory) = front ++ [module.fileName] := by
  have inside (outer : String) :
      names (outer ++ "/" ++ module.fileName) = names outer ++ [module.fileName] := by
    rw [names, Text.nonemptyParts_append, List.filter_append, ← names, ← names,
      names_fileName plain]
  change ∃ front, names (pathInside directory module.fileName) = _
  rw [pathInside]
  split
  next => exact ⟨[], names_fileName plain⟩
  next =>
    split
    next closed =>
      rw [Bool.or_eq_true] at closed
      rcases closed with none | ends
      · rw [String.isEmpty_iff.mp none, String.empty_append]
        exact ⟨[], names_fileName plain⟩
      · obtain ⟨outer, rfl⟩ := Text.exists_of_endsWith ends
        exact ⟨_, inside outer⟩
    next => exact ⟨_, inside directory⟩

theorem path_inj (plain : module.IsPlain) (otherPlain : other.IsPlain) :
    module.path directory = other.path directory ↔ module.fileStem = other.fileStem := by
  constructor
  · intro same
    obtain ⟨front, ends⟩ := exists_names_path directory plain
    obtain ⟨otherFront, otherEnds⟩ := exists_names_path directory otherPlain
    rw [same, otherEnds] at ends
    exact fileName_inj.mp (List.append_inj_right' ends rfl |> List.singleton_inj.mp).symm
  · intro same
    rw [path, path, same]

/-- Modules whose files are at the same place have the same stem. -/
theorem fileStem_eq_of_place?
    {tree : FileTree}
    {route : Route}
    (plain : module.IsPlain)
    (otherPlain : other.IsPlain)
    (placed : tree.place? (module.path directory) = some route)
    (otherPlaced : tree.place? (other.path directory) = some route) :
    module.fileStem = other.fileStem := by
  obtain ⟨front, ends⟩ := exists_names_path directory plain
  obtain ⟨otherFront, otherEnds⟩ := exists_names_path directory otherPlain
  have last := getLast?_of_place? placed
  rw [getLast?_of_place? otherPlaced, ends, otherEnds, List.getLast?_concat,
    List.getLast?_concat] at last
  exact fileName_inj.mp (Option.some.inj last).symm

end GeneratedModule

/-! ## Writing -/

namespace FileProgram

variable {directory path : String} {response : Response} {tree : FileTree}
variable {module : GeneratedModule} {modules earlier later : List GeneratedModule}

/-- Modules are written from a tree of files if the program does not end in a fault. -/
def Writes
    (directory : String)
    (response : Response)
    (modules : List GeneratedModule)
    (tree : FileTree) : Prop :=
  ((writeModules directory response modules).runOn tree).1.status ≠ .fault

/-- The first module is put at the place of its path, and the others are written after it. -/
theorem Writes.exists_place?
    (writes : Writes directory response (module :: later) tree) :
    ∃ route, tree.place? (module.path directory) = some route ∧
      (writeModules directory response (module :: later)).runOn tree =
        (writeModules directory response later).runOn (tree.put route module.text) ∧
      Writes directory response later (tree.put route module.text) := by
  rcases written : tree.writeText (module.path directory) module.text with fault | changed
  · rw [Writes, writeModules, runOn, written] at writes
    exact absurd rfl writes
  · obtain ⟨route, placed, rfl⟩ := exists_place?_of_writeText written
    have onward : (writeModules directory response (module :: later)).runOn tree =
        (writeModules directory response later).runOn (tree.put route module.text) := by
      rw [writeModules, runOn, written]
      rfl
    rw [Writes, onward] at writes
    exact ⟨route, placed, onward, writes⟩

theorem place?_writeModules
    (writes : Writes directory response modules tree)
    (path : String) :
    ((writeModules directory response modules).runOn tree).2.place? path = tree.place? path := by
  induction modules generalizing tree with
  | nil => rfl
  | cons module rest ih =>
      obtain ⟨route, placed, onward, others⟩ := writes.exists_place?
      rw [onward, ih others, place?_put]

/-- A file at whose place no module is written stays as it is. -/
theorem file?_writeModules
    {route : Route}
    (writes : Writes directory response modules tree)
    (apart : ∀ module ∈ modules, tree.place? (module.path directory) ≠ some route) :
    ((writeModules directory response modules).runOn tree).2.file? route = tree.file? route := by
  induction modules generalizing tree with
  | nil => rfl
  | cons module rest ih =>
      obtain ⟨written, placed, onward, others⟩ := writes.exists_place?
      rw [List.forall_mem_cons, placed] at apart
      have elsewhere : ∀ other ∈ rest,
          (tree.put written module.text).place? (other.path directory) ≠ some route :=
        fun other listed => place?_put tree _ _ _ ▸ apart.2 other listed
      rw [onward, ih others elsewhere,
        file?_put_of_ne fun same => apart.1 (congrArg some same.symm)]

theorem exists_place?_of_mem
    (writes : Writes directory response modules tree)
    (listed : module ∈ modules) :
    ∃ route, tree.place? (module.path directory) = some route := by
  induction modules generalizing tree with
  | nil => cases listed
  | cons first rest ih =>
      obtain ⟨route, placed, -, others⟩ := writes.exists_place?
      rcases List.mem_cons.mp listed with rfl | among
      · exact ⟨route, placed⟩
      · obtain ⟨next, found⟩ := ih others among
        exact ⟨next, place?_put tree _ _ _ ▸ found⟩

/-- A file says what the last module written at its place says. -/
theorem readText_writeModules
    (writes : Writes directory response (earlier ++ module :: later) tree)
    (apart : ∀ other ∈ later,
      tree.place? (other.path directory) ≠ tree.place? (module.path directory)) :
    ((writeModules directory response (earlier ++ module :: later)).runOn tree).2.readText
      (module.path directory) = .ok module.text := by
  induction earlier generalizing tree with
  | nil =>
      rw [List.nil_append] at writes ⊢
      obtain ⟨route, placed, onward, others⟩ := writes.exists_place?
      rw [onward]
      have elsewhere : ∀ other ∈ later,
          (tree.put route module.text).place? (other.path directory) ≠ some route :=
        fun other listed => place?_put tree _ _ _ ▸ placed ▸ apart other listed
      -- The modules after it leave its file alone, and its path leads where it led.
      have kept := file?_writeModules others elsewhere
      rw [file?_put_self] at kept
      have stays := place?_writeModules others (module.path directory)
      rw [place?_put, placed] at stays
      exact readText_of_place? stays kept
  | cons first rest ih =>
      rw [List.cons_append] at writes ⊢
      obtain ⟨route, placed, onward, others⟩ := writes.exists_place?
      rw [onward]
      refine ih others fun other listed => ?_
      rw [place?_put, place?_put]
      exact apart other listed

end FileProgram

/-! ## Generating -/

open FileProgram Run

section Generate

variable {snapshot : Snapshot} {standard : List Derivation} {registry : GeneratorRegistry}

/-- Whether a declaration gives a module. -/
def Declaration.succeeds
    (declaration : Declaration)
    (snapshot : Snapshot)
    (standard : List Derivation)
    (registry : GeneratorRegistry) : Bool :=
  (moduleOf (declaration.derive snapshot standard registry)).isSome

theorem fileStem_of_derive
    {declaration : Declaration}
    {module : GeneratedModule}
    (derives : moduleOf (declaration.derive snapshot standard registry) = some module) :
    module.fileStem = Identifier.snakeCase declaration.name := by
  rcases ends : declaration.derive snapshot standard registry with message | ⟨found, messages⟩
  · rw [ends] at derives
    cases derives
  · rw [ends] at derives
    cases derives
    obtain ⟨derivations, -, data, built, code, -, instances, -, same⟩ := by
      simpa only [Declaration.derive, Derived.bind_eq_ok_iff] using ends
    cases same
    rw [DataType.snake, Declaration.name_of_toDataType built]

/-- The stems are the names of the declarations that succeed in snake case, in their order. -/
theorem map_fileStem_modules (snapshot : Snapshot) :
    (snapshot.run standard registry).modules.map GeneratedModule.fileStem =
      (snapshot.declarations.filter fun declaration =>
        declaration.succeeds snapshot standard registry).map fun declaration =>
          Identifier.snakeCase declaration.name := by
  rw [Snapshot.modules_run]
  induction snapshot.declarations with
  | nil => rfl
  | cons declaration rest ih =>
      rw [List.filterMap_cons, List.filter_cons, Declaration.succeeds]
      cases derives : moduleOf (declaration.derive snapshot standard registry) with
      | none => exact ih
      | some module =>
          rw [Option.isSome_some, if_pos rfl, List.map_cons, List.map_cons, ih,
            fileStem_of_derive derives]

/-- Paths in a directory repeat where stems do, if these are single names. -/
theorem nodup_map_path_iff
    (directory : String)
    {modules : List GeneratedModule}
    (plain : ∀ module ∈ modules, module.IsPlain) :
    (modules.map fun module => module.path directory).Nodup ↔
      (modules.map GeneratedModule.fileStem).Nodup := by
  rw [List.nodup_iff_pairwise_ne, List.nodup_iff_pairwise_ne, List.pairwise_map, List.pairwise_map]
  refine List.Pairwise.iff_of_mem fun listed otherListed => ?_
  exact not_congr (GeneratedModule.path_inj (plain _ listed) (plain _ otherListed))

/-- What generating does with a snapshot that was read. -/
def Invocation.generateFrom
    (invocation : Invocation)
    (terminal : Bool)
    (snapshot : Snapshot) : FileProgram :=
  let run := invocation.run snapshot
  let report := invocation.report terminal snapshot run
  let status := ExitStatus.ofErrors report.counts.errors
  match invocation.directory with
  | none => .finish ⟨status, run.text, report.text⟩
  | some directory =>
      .makeDirectory directory fun
        | .ok () => .writeModules directory ⟨status, "", report.text⟩ run.modules
        | .error fault => .cannotWrite directory fault

variable {invocation : Invocation} {terminal : Bool} {tree : FileTree} {directory text : String}

theorem runOn_generate
    (terminal : Bool)
    (reads : tree.readText invocation.snapshot = .ok text)
    (loads : Snapshot.load text = .ok snapshot) :
    (invocation.generate terminal).runOn tree =
      (invocation.generateFrom terminal (snapshot.withPath invocation.snapshot)).runOn tree := by
  rw [Invocation.generate, withSnapshot, runOn, reads]
  dsimp only
  rw [loads]
  rfl

/-- Once the snapshot is read and the directory is made, the modules are written. -/
theorem exists_writeModules_of_generate
    (reads : tree.readText invocation.snapshot = .ok text)
    (loads : Snapshot.load text = .ok snapshot)
    (chosen : invocation.directory = some directory)
    (works : ((invocation.generate terminal).runOn tree).1.status ≠ .fault) :
    ∃ response start,
      (invocation.generate terminal).runOn tree =
        (writeModules directory response
          (invocation.run (snapshot.withPath invocation.snapshot)).modules).runOn start := by
  rw [runOn_generate terminal reads loads, Invocation.generateFrom, chosen] at works ⊢
  dsimp only at works ⊢
  rw [runOn] at works ⊢
  rcases made : tree.makeDirectory directory with fault | start
  · rw [made] at works
    exact absurd rfl works
  · exact ⟨_, start, rfl⟩

/--
The stems are the names of the declarations that succeed in snake case, the file
of a module says what the last module with its stem says, and the paths are all
different exactly if those names are different in snake case.
-/
theorem readText_generate
    (reads : tree.readText invocation.snapshot = .ok text)
    (loads : Snapshot.load text = .ok snapshot)
    (chosen : invocation.directory = some directory)
    (plain : ∀ declaration ∈ snapshot.declarations,
      '/' ∉ (Identifier.snakeCase declaration.name).toList)
    (works : ((invocation.generate terminal).runOn tree).1.status ≠ .fault) :
    let modules := (invocation.run (snapshot.withPath invocation.snapshot)).modules
    let spellings := (snapshot.declarations.filter fun declaration =>
      declaration.succeeds (snapshot.withPath invocation.snapshot)
        invocation.configuration.derivations .full).map
          fun declaration => Identifier.snakeCase declaration.name
    modules.map GeneratedModule.fileStem = spellings ∧
      (∀ earlier module later, modules = earlier ++ module :: later →
        module.fileStem ∉ later.map GeneratedModule.fileStem →
          ((invocation.generate terminal).runOn tree).2.readText (module.path directory) =
            .ok module.text) ∧
      ((modules.map fun module => module.path directory).Nodup ↔ spellings.Nodup) := by
  intro modules spellings
  have stems : modules.map GeneratedModule.fileStem = spellings :=
    map_fileStem_modules (snapshot.withPath invocation.snapshot)
  have plainModules : ∀ module ∈ modules, module.IsPlain := by
    intro module listed
    have spelled : module.fileStem ∈ spellings := stems ▸ List.mem_map_of_mem listed
    obtain ⟨declaration, succeeding, same⟩ := List.mem_map.mp spelled
    rw [GeneratedModule.IsPlain, ← same]
    exact plain declaration (List.mem_filter.mp succeeding).1
  refine ⟨stems, ?_, (nodup_map_path_iff directory plainModules).trans (by rw [stems])⟩
  intro earlier module later cut last
  obtain ⟨response, start, onward⟩ := exists_writeModules_of_generate reads loads chosen works
  have writes : Writes directory response modules start := by
    rw [onward] at works
    exact works
  have listed : module ∈ modules := by simp [cut]
  obtain ⟨route, placed⟩ := exists_place?_of_mem writes listed
  rw [onward]
  change ((writeModules directory response modules).runOn start).2.readText _ = _
  rw [cut] at writes ⊢
  -- A later module at the same place would have the same stem.
  refine readText_writeModules writes fun other among same => last ?_
  have otherListed : other ∈ modules := by simp [cut, among]
  rw [GeneratedModule.fileStem_eq_of_place? (plainModules module listed)
    (plainModules other otherListed) placed (same.trans placed)]
  exact List.mem_map_of_mem among

/-- A declaration with a matcher for one case. -/
def singleCase (name case : String) : Declaration where
  name := name
  span := ⟨1, 5⟩
  typeParams := []
  request := ⟨⟨6, 9⟩, none, []⟩
  methods := [{
    name := "match"
    span := ⟨11, 16⟩
    typeParams := [⟨"R", ⟨0, 0⟩⟩]
    parameters := [⟨case, ⟨20, 25⟩, .arrow [] (.var "R"), []⟩]
    result := .var "R"
    isAbstract := true }]
  statics := []

/-- The document of such a declaration. -/
def singleCaseDocument (name case : String) : Json :=
  .object [
    ("name", .string name),
    ("span", .array [.nat 1, .nat 5]),
    ("annotation", .object [("span", .array [.nat 6, .nat 9])]),
    ("methods", .array [.object [
      ("name", .string "match"),
      ("span", .array [.nat 11, .nat 16]),
      ("type_params", .array [.string "R"]),
      ("params", .array [.object [
        ("name", .string case),
        ("span", .array [.nat 20, .nat 25]),
        ("type", .string "fn() -> R")]]),
      ("returns", .string "R")]])]

/-- Two declarations whose names differ in case only. -/
def twins : Snapshot :=
  { (default : Snapshot) with declarations := [singleCase "Expr" "Lit", singleCase "expr" "Neg"] }

/-- The text of the document of the twins. -/
def twinsText : String :=
  Json.write (.object [("declarations",
    .array [singleCaseDocument "Expr" "Lit", singleCaseDocument "expr" "Neg"])])

/-- A tree of files with the document. -/
def twinTree : FileTree :=
  FileTree.empty.put ["twins.json"] twinsText

/-- Generating enums only, to a directory. -/
def toDirectory : Invocation :=
  ⟨"twins.json", some "gen", { Configuration.standard with derivations := [] }⟩

theorem readText_generate_twins :
    twinTree.readText toDirectory.snapshot = .ok twinsText ∧
      Snapshot.load twinsText = .ok twins ∧
      toDirectory.directory = some "gen" ∧
      (∀ declaration ∈ twins.declarations,
        '/' ∉ (Identifier.snakeCase declaration.name).toList) ∧
      ((toDirectory.generate false).runOn twinTree).1.status ≠ .fault ∧
      let modules := (toDirectory.run (twins.withPath toDirectory.snapshot)).modules
      modules.map GeneratedModule.fileStem = ["expr", "expr"] ∧
        ¬ (modules.map fun module => module.path "gen").Nodup := by
  have placed : twinTree.place? toDirectory.snapshot = some ["twins.json"] := by decide +kernel
  have reads : twinTree.readText toDirectory.snapshot = .ok twinsText :=
    readText_of_place? placed (file?_put_self .empty _ twinsText)
  have loads : Snapshot.load twinsText = .ok twins := by
    rw [twinsText, Snapshot.load, Json.read, Json.write, String.toList_ofList]
    decide +kernel
  have plain : ∀ declaration ∈ twins.declarations,
      '/' ∉ (Identifier.snakeCase declaration.name).toList := by decide
  have works : ((toDirectory.generate false).runOn twinTree).1.status ≠ .fault := by
    rw [runOn_generate false reads loads]
    decide +kernel
  have spelled : (twins.declarations.filter fun declaration =>
      declaration.succeeds (twins.withPath toDirectory.snapshot)
        toDirectory.configuration.derivations .full).map
          (fun declaration => Identifier.snakeCase declaration.name) = ["expr", "expr"] := by
    decide +kernel
  obtain ⟨stems, -, distinct⟩ := readText_generate reads loads rfl plain works
  refine ⟨reads, loads, rfl, plain, works, stems.trans spelled, fun apart => ?_⟩
  rw [distinct, spelled] at apart
  exact absurd apart (by decide)

end Generate

end DataDerive
