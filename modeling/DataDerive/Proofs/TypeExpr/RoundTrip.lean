import DataDerive.Proofs.TypeExpr.Reading
import DataDerive.TypeExpr.Text

/-!
# Reading the text of a type

Not every type has a text that can be read.  A type that was read is `Written`:
its names are paths, and a path without arguments is a variable exactly if it is
in scope.  Such a type is read from its own text, whatever follows it inside a
larger text: the end of the text, a comma, or a closing bracket.
-/

namespace DataDerive.TypeExpr

open Text

/-- A type that a text can stand for if the names in scope are the variables. -/
inductive Written (scope : List String) : TypeExpr → Prop
  | var
      {name : String}
      (isPath : IsPath name)
      (inScope : name ∈ scope) :
      Written scope (.var name)
  | atom
      {name : String}
      (isPath : IsPath name)
      (outside : name ∉ scope) :
      Written scope (.con name [])
  | applied
      {name : String}
      {first : TypeExpr}
      {rest : List TypeExpr}
      (isPath : IsPath name)
      (arguments : ∀ argument ∈ first :: rest, Written scope argument) :
      Written scope (.con name (first :: rest))
  | arrow
      {parameters : List TypeExpr}
      {result : TypeExpr}
      (inputs : ∀ parameter ∈ parameters, Written scope parameter)
      (output : Written scope result) :
      Written scope (.arrow parameters result)

/-! ## Names of tuples -/

theorem continuesSegment_of_isDigit {c : Char} (digit : c.isDigit = true) :
    continuesSegment c = true := by
  have ascii : c.toNat < 128 := by
    have bounds := digit
    simp only [Char.isDigit, Bool.and_eq_true, decide_eq_true_eq] at bounds
    exact Nat.lt_of_le_of_lt bounds.2 (by decide)
  simp [continuesSegment, isAlphanumeric, isNumeric, ascii, digit]

theorem pathFrom_of_continuesSegment
    {path : List Char}
    (continues : ∀ c ∈ path, continuesSegment c = true) :
    PathFrom true path := by
  induction path with
  | nil => exact .nil
  | cons c rest ih =>
      rw [List.forall_mem_cons] at continues
      exact .next continues.1 (ih continues.2)

theorem isPath_tuple (arity : Nat) : IsPath ("Tuple" ++ toString arity) := by
  have letters : ∀ c ∈ "uple".toList, continuesSegment c = true :=
    List.all_eq_true.mp (by decide)
  have digits : ∀ c ∈ (toString arity).toList, continuesSegment c = true := by
    rw [Nat.toString_eq_repr, Nat.toList_repr]
    intro c listed
    exact continuesSegment_of_isDigit
      (Nat.isDigit_of_mem_toDigits (by decide) (by decide) listed)
  rw [IsPath, String.toList_append]
  refine .start (by decide) (pathFrom_of_continuesSegment fun c listed => ?_)
  exact (List.mem_append.mp listed).elim (letters c) (digits c)

/-! ## What is read can be written -/

variable {scope : List String}

theorem written_ofPath {name : String} (isPath : IsPath name) :
    Written scope (ofPath scope name) := by
  rw [ofPath]
  split
  next inScope => exact .var isPath (List.contains_iff_mem.mp inScope)
  next outside => exact .atom isPath fun inScope => outside (List.contains_iff_mem.mpr inScope)

theorem written_ofParenthesized
    {items : List TypeExpr}
    {input rest : List Char}
    {type : TypeExpr}
    (written : ∀ item ∈ items, Written scope item)
    (reads : ofParenthesized items input = .ok (type, rest)) :
    Written scope type := by
  rw [ofParenthesized.eq_def] at reads
  split at reads
  next => cases reads
  next =>
    cases reads
    exact written type List.mem_cons_self
  next =>
    cases reads
    match items with
    | [] => contradiction
    | first :: others => exact .applied (isPath_tuple _) written

theorem written_of_readAt
    {budget : Nat}
    {input rest : List Char}
    {type : TypeExpr}
    (reads : readAt scope budget input = .ok (type, rest)) :
    Written scope type := by
  induction budget generalizing input type rest with
  | zero => cases reads
  | succ budget ih =>
      have item (input : List Char) (type : TypeExpr) (rest : List Char) :
          readAt scope budget input = .ok (type, rest) → Written scope type := ih
      rw [readAt] at reads
      split at reads
      next =>
        rcases Reading.bind_eq_ok_iff.mp reads with ⟨⟨items, left⟩, itemsRead, reads⟩
        exact written_ofParenthesized (forall_of_readList item itemsRead) reads
      next =>
        rcases Reading.bind_eq_ok_iff.mp reads with ⟨⟨path, left⟩, pathRead, reads⟩
        have isPath : IsPath (String.ofList path) := by
          rw [IsPath, String.toList_ofList]
          exact pathFrom_of_readPathFrom pathRead
        dsimp only at reads
        split at reads
        next =>
          rcases Reading.bind_eq_ok_iff.mp reads with ⟨⟨inputs, _⟩, inputsRead, reads⟩
          rcases Reading.bind_eq_ok_iff.mp reads with ⟨_, -, reads⟩
          rcases Reading.bind_eq_ok_iff.mp reads with ⟨⟨output, _⟩, outputRead, same⟩
          cases same
          exact .arrow (forall_of_readList item inputsRead) (ih outputRead)
        next =>
          split at reads
          next =>
            rcases Reading.bind_eq_ok_iff.mp reads with ⟨⟨arguments, _⟩, argumentsRead, reads⟩
            have written := forall_of_readList item argumentsRead
            cases arguments with
            | nil => cases reads
            | cons first others =>
                cases reads
                exact .applied isPath written
          next =>
            cases reads
            exact written_ofPath isPath

/-! ## What is written can be read -/

/-- The characters that may follow a type inside the text of another one. -/
def typeEnds : List Char :=
  [',', ')', '>']

/-- A text in which nothing continues a type that stands before it. -/
def Ends (rest : List Char) : Prop :=
  ∀ c ∈ rest.head?, c ∈ typeEnds

theorem isBlank_of_mem_typeEnds {c : Char} (ends : c ∈ typeEnds) : isBlank c = false := by
  fin_cases ends <;> rfl

theorem Ends.pathEnds {rest : List Char} (ends : Ends rest) :
    ∀ c ∈ rest.head?, c ∈ pathEnds :=
  fun c first => (by decide : typeEnds ⊆ TypeExpr.pathEnds) (ends c first)

theorem Ends.afterToken?_eq_none
    {rest : List Char}
    (ends : Ends rest)
    {t : Char}
    (other : t ∉ typeEnds) :
    afterToken? [t] rest = none := by
  cases rest with
  | nil => rfl
  | cons c tail =>
      have listed := ends c rfl
      rw [afterToken?_dark (isBlank_of_mem_typeEnds listed), if_neg]
      rintro rfl
      exact other listed

/-- A text that starts with a character that neither is skipped nor ends a type. -/
def Opens (text : List Char) : Prop :=
  ∃ c tail, text = c :: tail ∧ isBlank c = false ∧ c ∉ typeEnds

theorem IsPath.exists_cons {name : String} (isPath : IsPath name) :
    ∃ c tail, name.toList = c :: tail ∧ startsSegment c = true := by
  rw [IsPath] at isPath
  generalize name.toList = path at isPath
  cases isPath with
  | @start c tail starts onward => exact ⟨c, tail, rfl, starts⟩

theorem IsPath.opens {name : String} (isPath : IsPath name) (rest : List Char) :
    Opens (name.toList ++ rest) := by
  rcases isPath.exists_cons with ⟨c, tail, same, starts⟩
  refine ⟨c, tail ++ rest, by rw [same]; rfl, ?_, ?_⟩
  · exact isBlank_of_continuesSegment (continuesSegment_of_startsSegment starts)
  · intro listed
    fin_cases listed <;> exact absurd starts (by decide)

theorem chars_applied (name : String) (first : TypeExpr) (rest : List TypeExpr) :
    (TypeExpr.con name (first :: rest)).chars =
      if isTupleName name (rest.length + 1) then
        '(' :: commaSeparated (charsAll (first :: rest)) ++ [')']
      else
        name.toList ++ '<' :: commaSeparated (charsAll (first :: rest)) ++ ['>'] := by
  rw [chars, charsAll]

theorem Written.opens {type : TypeExpr} (written : Written scope type) : Opens type.chars := by
  cases written with
  | @var name isPath inScope =>
      have opens := isPath.opens []
      rwa [List.append_nil] at opens
  | @atom name isPath outside =>
      have opens := isPath.opens []
      rwa [List.append_nil] at opens
  | applied isPath arguments =>
      rw [chars_applied]
      split
      next => exact ⟨'(', _, rfl, by decide, by decide⟩
      next =>
        rw [List.append_assoc]
        exact isPath.opens _
  | arrow inputs output =>
      rw [chars]
      exact ⟨'f', _, rfl, by decide, by decide⟩

/-! ## Lists -/

/-- The texts of the later items of a list, each after a comma and a space. -/
def moreChars : List TypeExpr → List Char
  | [] => []
  | type :: rest => ',' :: ' ' :: (type.chars ++ moreChars rest)

theorem commaSeparated_charsAll (first : TypeExpr) (rest : List TypeExpr) :
    commaSeparated (charsAll (first :: rest)) = first.chars ++ moreChars rest := by
  induction rest generalizing first with
  | nil => exact (List.append_nil _).symm
  | cons second rest ih =>
      calc
        commaSeparated (charsAll (first :: second :: rest)) =
            first.chars ++ ", ".toList ++ commaSeparated (charsAll (second :: rest)) := rfl
        _ = first.chars ++ moreChars (second :: rest) := by
            rw [ih second, List.append_assoc]
            rfl

theorem length_le_moreChars (types : List TypeExpr) : types.length ≤ (moreChars types).length := by
  induction types with
  | nil => exact Nat.zero_le _
  | cons type rest ih =>
      rw [moreChars, List.length_cons, List.length_cons, List.length_cons, List.length_append]
      omega

theorem length_chars_le_moreChars
    {type : TypeExpr}
    {types : List TypeExpr}
    (listed : type ∈ types) :
    type.chars.length ≤ (moreChars types).length := by
  induction types with
  | nil => cases listed
  | cons first rest ih =>
      rw [moreChars, List.length_cons, List.length_cons, List.length_append]
      rcases List.mem_cons.mp listed with rfl | later
      · omega
      · have inRest := ih later
        omega

theorem length_chars_le
    {type : TypeExpr}
    {types : List TypeExpr}
    (listed : type ∈ types) :
    type.chars.length ≤ (commaSeparated (charsAll types)).length := by
  cases types with
  | nil => cases listed
  | cons first rest =>
      rw [commaSeparated_charsAll, List.length_append]
      rcases List.mem_cons.mp listed with rfl | later
      · omega
      · have inRest := length_chars_le_moreChars later
        omega

section Lists

variable {item : List Char → Reading (TypeExpr × List Char)} {close : String} {c : Char}
variable {types : List TypeExpr}

/-- A reader of items reads a type from its text. -/
def ReadsBack (item : List Char → Reading (TypeExpr × List Char)) (type : TypeExpr) : Prop :=
  ∀ rest, Ends rest → item (type.chars ++ rest) = .ok (type, rest)

theorem ends_moreChars (closes : c ∈ [')', '>']) (types : List TypeExpr) (rest : List Char) :
    Ends (moreChars types ++ c :: rest) := by
  cases types with
  | nil =>
      rintro _ ⟨⟩
      exact List.mem_cons_of_mem _ closes
  | cons type others =>
      rintro _ ⟨⟩
      exact List.mem_cons_self

theorem afterToken?_close
    (isClose : close.toList = [c])
    (closes : c ∈ [')', '>'])
    (rest : List Char) :
    afterToken? close.toList (c :: rest) = some rest := by
  have dark := isBlank_of_mem_typeEnds (List.mem_cons_of_mem _ closes)
  rw [isClose, afterToken?_dark dark, if_pos rfl]

theorem readMore_chars
    (isClose : close.toList = [c])
    (closes : c ∈ [')', '>'])
    (skips : ∀ input, item (' ' :: input) = item input)
    (items : ∀ type ∈ types, ReadsBack item type)
    {budget : Nat}
    (enough : types.length < budget)
    (rest : List Char) :
    readMore item close budget (moreChars types ++ c :: rest) = .ok (types, rest) := by
  induction types generalizing budget with
  | nil =>
      rcases Nat.exists_eq_add_of_lt enough with ⟨left, rfl⟩
      rw [moreChars, List.nil_append, List.length_nil, readMore,
        afterToken?_close isClose closes rest]
  | cons type others ih =>
      rw [List.forall_mem_cons] at items
      rcases Nat.exists_eq_add_of_lt enough with ⟨left, rfl⟩
      have onward : moreChars (type :: others) ++ c :: rest =
          ',' :: ' ' :: (type.chars ++ (moreChars others ++ c :: rest)) := by
        simp [moreChars]
      have notClosed : afterToken? close.toList (',' ::
          ' ' :: (type.chars ++ (moreChars others ++ c :: rest))) = none := by
        rw [isClose, afterToken?_dark (by decide), if_neg]
        rintro rfl
        exact absurd closes (by decide)
      have first := items.1 _ (ends_moreChars closes others rest)
      have enough' : others.length < others.length + 1 + left := by omega
      have later := ih items.2 enough'
      rw [onward, List.length_cons, readMore, notClosed]
      change item (' ' :: _) >>= _ = _
      rw [skips, first]
      change readMore item close _ _ >>= _ = _
      rw [later]
      rfl

/-- A list is read from the text of its items up to the character that closes it. -/
theorem readList_chars
    (isClose : close.toList = [c])
    (closes : c ∈ [')', '>'])
    (skips : ∀ input, item (' ' :: input) = item input)
    (items : ∀ type ∈ types, ReadsBack item type)
    (opens : ∀ type ∈ types, Opens type.chars)
    (rest : List Char) :
    readList item close (commaSeparated (charsAll types) ++ c :: rest) = .ok (types, rest) := by
  cases types with
  | nil =>
      rw [charsAll, commaSeparated, List.nil_append, readList,
        afterToken?_close isClose closes rest]
  | cons first others =>
      rw [List.forall_mem_cons] at items opens
      rcases opens.1 with ⟨d, tail, same, dark, opening⟩
      have notClosed : afterToken? close.toList
          (first.chars ++ (moreChars others ++ c :: rest)) = none := by
        rw [isClose, same, List.cons_append, afterToken?_dark dark, if_neg]
        rintro rfl
        exact opening (List.mem_cons_of_mem _ closes)
      have enough : others.length < (moreChars others ++ c :: rest).length + 1 := by
        have bound := length_le_moreChars others
        rw [List.length_append]
        omega
      rw [commaSeparated_charsAll, List.append_assoc, readList, notClosed]
      change item _ >>= _ = _
      rw [items.1 _ (ends_moreChars closes others rest)]
      change readMore item close _ _ >>= _ = _
      rw [readMore_chars isClose closes skips items.2 enough]
      rfl

end Lists

/-! ## Types -/

theorem readAt_blank
    {c : Char}
    (blank : isBlank c = true)
    (budget : Nat)
    (input : List Char) :
    readAt scope budget (c :: input) = readAt scope budget input := by
  cases budget with
  | zero => rw [readAt, readAt, trimStart_cons_blank blank]
  | succ budget =>
      rw [readAt, readAt, afterToken?_blank blank, readPath, readPath, trimStart_cons_blank blank]

theorem readPath_append
    {name : String}
    (isPath : IsPath name)
    {rest : List Char}
    (stops : readPathFrom true rest = .ok ([], rest)) :
    readPath (name.toList ++ rest) = .ok (name.toList, rest) := by
  rcases isPath.opens rest with ⟨c, tail, same, dark, -⟩
  rw [readPath, same, trimStart_cons_dark dark, ← same]
  exact readPathFrom_append_of_stops isPath stops

theorem IsPath.afterToken?_opening_eq_none {name : String} (isPath : IsPath name)
    (rest : List Char) :
    afterToken? ['('] (name.toList ++ rest) = none := by
  rcases isPath.exists_cons with ⟨c, tail, same, starts⟩
  rw [same, List.cons_append, afterToken?_dark, if_neg]
  · rintro rfl
    exact absurd starts (by decide)
  · exact isBlank_of_continuesSegment (continuesSegment_of_startsSegment starts)

/-- A path that is no keyword is read as a name, with arguments in angle brackets if some follow. -/
theorem readAt_path
    {name : String}
    (isPath : IsPath name)
    {rest : List Char}
    (stops : readPathFrom true rest = .ok ([], rest))
    (noCall : afterToken? ['('] rest = none)
    (budget : Nat) :
    readAt scope (budget + 1) (name.toList ++ rest) =
      match afterToken? ['<'] rest with
      | some rest => do
          let (arguments, rest) ← readList (readAt scope budget) ">" rest
          if arguments.isEmpty then
            .error ⟨.noArguments, rest⟩
          else
            return (.con name arguments, rest)
      | none => return (ofPath scope name, rest) := by
  rw [readAt, isPath.afterToken?_opening_eq_none]
  change readPath _ >>= _ = _
  rw [readPath_append isPath stops]
  dsimp only [bind, Except.bind]
  simp only [String.ofList_toList]
  generalize afterToken? ['('] rest = call at noCall
  subst noCall
  rfl

theorem readAt_tuple (budget : Nat) (input : List Char) :
    readAt scope (budget + 1) ('(' :: input) =
      readList (readAt scope budget) ")" input >>= fun (items, rest) =>
        ofParenthesized items rest := by
  rw [readAt, afterToken?_dark (by decide), if_pos rfl]

theorem readAt_arrow (budget : Nat) (input : List Char) :
    readAt scope (budget + 1) ("fn(".toList ++ input) =
      readList (readAt scope budget) ")" input >>= fun (parameters, rest) =>
        afterToken "->" rest >>= fun rest =>
          readAt scope budget rest >>= fun (result, rest) =>
            .ok (.arrow parameters result, rest) := by
  rfl

/-! ### One level -/

section Levels

variable {budget : Nat} {name : String} {first result : TypeExpr}
variable {others parameters : List TypeExpr}

/-- A list of types is read from its text by a reader of types. -/
def ListReadsBack (scope : List String) (budget : Nat) (types : List TypeExpr) : Prop :=
  ∀ close c, close.toList = [c] → c ∈ [')', '>'] → ∀ rest,
    readList (readAt scope budget) close (commaSeparated (charsAll types) ++ c :: rest) =
      .ok (types, rest)

theorem readsBack_name
    (isPath : IsPath name)
    {type : TypeExpr}
    (text : type.chars = name.toList)
    (same : ofPath scope name = type) :
    ReadsBack (readAt scope (budget + 1)) type := by
  intro rest ends
  rw [text, readAt_path isPath (readPathFrom_of_ends ends.pathEnds)
    (ends.afterToken?_eq_none (by decide)), ends.afterToken?_eq_none (by decide), same]
  rfl

theorem readsBack_tuple
    (isTuple : isTupleName name (others.length + 1) = true)
    (arguments : ListReadsBack scope budget (first :: others)) :
    ReadsBack (readAt scope (budget + 1)) (.con name (first :: others)) := by
  intro rest _
  have text : (TypeExpr.con name (first :: others)).chars ++ rest =
      '(' :: (commaSeparated (charsAll (first :: others)) ++ ')' :: rest) := by
    rw [chars_applied, if_pos isTuple]
    simp
  rw [text, readAt_tuple, arguments _ _ rfl (by decide)]
  rw [isTupleName, Bool.and_eq_true, decide_eq_true_iff, beq_iff_eq] at isTuple
  rcases isTuple with ⟨several, rfl⟩
  cases others with
  | nil => exact absurd several (by decide)
  | cons second others => rfl

theorem readsBack_applied
    (isPath : IsPath name)
    (noTuple : isTupleName name (others.length + 1) ≠ true)
    (arguments : ListReadsBack scope budget (first :: others)) :
    ReadsBack (readAt scope (budget + 1)) (.con name (first :: others)) := by
  intro rest _
  have text : (TypeExpr.con name (first :: others)).chars ++ rest =
      name.toList ++ '<' :: (commaSeparated (charsAll (first :: others)) ++ '>' :: rest) := by
    rw [chars_applied, if_neg noTuple]
    simp
  rw [text, readAt_path isPath, afterToken?_dark (by decide), if_pos rfl]
  · change readList _ _ _ >>= _ = _
    rw [arguments _ _ rfl (by decide)]
    rfl
  · rfl
  · rw [afterToken?_dark (by decide), if_neg (by decide)]

theorem readsBack_arrow
    (inputs : ListReadsBack scope budget parameters)
    (output : ReadsBack (readAt scope budget) result) :
    ReadsBack (readAt scope (budget + 1)) (.arrow parameters result) := by
  intro rest ends
  have text : (TypeExpr.arrow parameters result).chars ++ rest =
      "fn(".toList ++ (commaSeparated (charsAll parameters) ++ ')' ::
        (" -> ".toList ++ (result.chars ++ rest))) := by
    rw [chars]
    simp
  have arrow (input : List Char) :
      afterToken "->" (" -> ".toList ++ input) = .ok (' ' :: input) := rfl
  rw [text, readAt_arrow, inputs _ _ rfl (by decide)]
  change (afterToken "->" (" -> ".toList ++ (result.chars ++ rest)) >>= fun rest =>
    readAt scope budget rest >>= fun (result, rest) =>
      .ok (TypeExpr.arrow parameters result, rest)) = _
  rw [arrow]
  change (readAt scope budget (' ' :: (result.chars ++ rest)) >>= fun (result, rest) =>
    .ok (TypeExpr.arrow parameters result, rest)) = _
  rw [readAt_blank (by decide), output rest ends]
  rfl

/-- The types of a list have texts within its text, so what reads those reads the list. -/
theorem listReadsBack_of_parts
    {types : List TypeExpr}
    (written : ∀ type ∈ types, Written scope type)
    (reads : ∀ type ∈ types, type.chars.length < budget →
      ReadsBack (readAt scope budget) type)
    (enough : (commaSeparated (charsAll types)).length < budget) :
    ListReadsBack scope budget types := by
  intro close c isClose closes rest
  refine readList_chars isClose closes (readAt_blank (by decide) budget) ?_ ?_ rest
  · intro type listed
    exact reads type listed (Nat.lt_of_le_of_lt (length_chars_le listed) enough)
  · exact fun type listed => (written type listed).opens

end Levels

/-- A written type is read from its text in front of anything that ends it. -/
theorem Written.readsBack
    {type : TypeExpr}
    (written : Written scope type)
    {budget : Nat}
    (enough : type.chars.length < budget) :
    ReadsBack (readAt scope budget) type := by
  induction written generalizing budget with
  | @var name isPath inScope =>
      rcases Nat.exists_eq_add_of_lt enough with ⟨left, rfl⟩
      refine readsBack_name isPath (by rw [chars]) ?_
      rw [ofPath, if_pos (List.contains_iff_mem.mpr inScope)]
  | @atom name isPath outside =>
      rcases Nat.exists_eq_add_of_lt enough with ⟨left, rfl⟩
      refine readsBack_name isPath (by rw [chars]) ?_
      rw [ofPath, if_neg fun inScope => outside (List.contains_iff_mem.mp inScope)]
      rfl
  | @applied name first others isPath arguments ih =>
      rcases Nat.exists_eq_add_of_lt enough with ⟨left, rfl⟩
      by_cases isTuple : isTupleName name (others.length + 1) = true
      · refine readsBack_tuple isTuple (listReadsBack_of_parts arguments ?_ ?_)
        · exact fun argument listed => ih argument listed
        · rw [chars_applied, if_pos isTuple]
          simp only [List.length_append, List.length_cons]
          omega
      · refine readsBack_applied isPath isTuple (listReadsBack_of_parts arguments ?_ ?_)
        · exact fun argument listed => ih argument listed
        · rw [chars_applied, if_neg isTuple]
          simp only [List.length_append, List.length_cons]
          omega
  | @arrow parameters result inputs output ih ihResult =>
      rcases Nat.exists_eq_add_of_lt enough with ⟨left, rfl⟩
      have longer : (commaSeparated (charsAll parameters)).length + result.chars.length <
          (TypeExpr.arrow parameters result).chars.length := by
        have opening : "fn(".toList.length = 3 := rfl
        simp only [chars, List.length_append]
        omega
      refine readsBack_arrow (listReadsBack_of_parts inputs ?_ ?_) (ihResult ?_)
      · exact fun parameter listed => ih parameter listed
      · omega
      · omega

/--
Reading the text of a type that was read gives the type again, with the same
names in scope.
-/
theorem read_text
    {scope : List String}
    {text : String}
    {type : TypeExpr}
    (reads : read scope text = .ok type) :
    read scope type.text = .ok type := by
  have written : Written scope type := by
    rw [read] at reads
    dsimp only at reads
    split at reads
    next => cases reads
    next found rest success =>
      split at reads
      next =>
        cases reads
        exact written_of_readAt success
      next => cases reads
  have whole := written.readsBack (Nat.lt_succ_self _) [] nofun
  rw [List.append_nil] at whole
  rw [read]
  dsimp only
  rw [TypeExpr.text, String.toList_ofList, whole]
  rfl

/-- A table with a keyword as a name, and a name in scope that is applied to arguments. -/
def callbackTable : TypeExpr :=
  .con "std::Map"
    [.var "fn",
      .con "Tuple2"
        [.con "T" [.con "fn" [.var "T"]],
          .arrow [.arrow [] (.var "fn"), .atom "i32"]
            (.con "Option" [.arrow [.var "T"] (.var "fn")])]]

/-- The tuple is written out, and its text is short; both are read as the same type. -/
theorem read_text_callbackTable :
    read ["T", "fn"] "std::Map< fn, Tuple2<T<fn<T>>, fn (fn()->fn,((i32)))->Option<fn(T)->fn>>>" =
        .ok callbackTable ∧
      callbackTable.text = "std::Map<fn, (T<fn<T>>, fn(fn() -> fn, i32) -> Option<fn(T) -> fn>)>" ∧
      read ["T", "fn"] callbackTable.text = .ok callbackTable := by
  have reads : read ["T", "fn"]
      "std::Map< fn, Tuple2<T<fn<T>>, fn (fn()->fn,((i32)))->Option<fn(T)->fn>>>" =
        .ok callbackTable := rfl
  exact ⟨reads, rfl, read_text reads⟩

end DataDerive.TypeExpr
