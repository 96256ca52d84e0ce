import DataDerive.Proofs.TypeExpr.Bounds
import DataDerive.Proofs.TypeExpr.Grammar
import Mathlib.Data.List.DropRight

/-!
# Reading accepts the grammar

The reader accepts exactly the texts that the grammar derives, with the type that
they stand for.  What a reading step consumes spells tokens of the grammar;
conversely, tokens that stand for a type are read as that type in front of
everything that cannot continue it.  A step cannot see the white space that it
skips, so it is only determined up to white space what is left after it.

The offset of a failure lies between two characters of the text, since it is where
an end of the text begins.
-/

namespace DataDerive.TypeExpr

open Text

/-! ## What a step consumes -/

theorem consumes_of_afterToken?
    {token : Token}
    {input rest : List Char}
    (found : afterToken? token.chars input = some rest) :
    Consumes [token] input rest :=
  .of_trimStart (afterToken?_eq_some_iff.mp found)

theorem consumes_of_readPath
    {input path rest : List Char}
    (reads : readPath input = .ok (path, rest)) :
    QualifiedName path ∧ Consumes [.name (String.ofList path)] input rest := by
  have isName : QualifiedName path := pathFrom_iff.mp (pathFrom_of_readPathFrom reads)
  have trims : trimStart input = path ++ rest := append_of_readPathFrom reads
  refine ⟨isName, .of_trimStart ?_⟩
  rw [trims, Token.chars, String.toList_ofList]

/-! ## What is read is derived -/

section Sound

variable {scope : List String} {item : List Char → Reading (TypeExpr × List Char)}
variable {close : String} {mark : Token} {types : List TypeExpr} {input rest : List Char}

/-- The text that closes a list, and its token. -/
inductive Closes : String → Token → Prop
  | parenthesis : Closes ")" .closing
  | bracket : Closes ">" .greater

theorem Closes.toList_eq {close : String} {mark : Token} (closes : Closes close mark) :
    close.toList = mark.chars := by
  cases closes <;> rfl

/-- A reader of items consumes tokens that stand for what it reads. -/
def ReadsSoundly (scope : List String) (item : List Char → Reading (TypeExpr × List Char)) :
    Prop :=
  ∀ input type rest, item input = .ok (type, rest) →
    ∃ tokens, Denotes scope tokens type ∧ Consumes tokens input rest

theorem denotesList_of_readMore
    (sound : ReadsSoundly scope item)
    (closes : Closes close mark)
    {first : TypeExpr}
    {tokens : List Token}
    (denotes : Denotes scope tokens first)
    {before : List Char}
    (consumes : Consumes tokens before input)
    {budget : Nat}
    (reads : readMore item close budget input = .ok (types, rest)) :
    ∃ all, DenotesList scope all (first :: types) ∧ Consumes (all ++ [mark]) before rest := by
  induction budget generalizing first tokens before input types with
  | zero => cases reads
  | succ budget ih =>
      rw [readMore, closes.toList_eq] at reads
      split at reads
      next left found =>
        cases reads
        exact ⟨tokens, .one denotes, consumes.trans (consumes_of_afterToken? found)⟩
      next =>
        rcases Reading.bind_eq_ok_iff.mp reads with ⟨afterComma, found, reads⟩
        rcases Reading.bind_eq_ok_iff.mp reads with ⟨⟨second, left⟩, secondRead, reads⟩
        rcases Reading.bind_eq_ok_iff.mp reads with ⟨⟨others, last⟩, othersRead, same⟩
        cases same
        rcases sound _ _ _ secondRead with ⟨more, secondDenotes, secondConsumes⟩
        rcases ih secondDenotes secondConsumes othersRead with ⟨all, allDenote, allConsumes⟩
        have comma : Consumes [.comma] input afterComma :=
          consumes_of_afterToken? (afterToken_eq_ok_iff.mp found)
        refine ⟨tokens ++ .comma :: all, .more denotes allDenote, ?_⟩
        rw [List.append_assoc]
        exact consumes.trans (comma.trans allConsumes)

/-- A list that is read is empty, or its tokens stand for its types. -/
theorem denotesList_of_readList
    (sound : ReadsSoundly scope item)
    (closes : Closes close mark)
    (reads : readList item close input = .ok (types, rest)) :
    (types = [] ∧ Consumes [mark] input rest) ∨
      ∃ tokens, DenotesList scope tokens types ∧ Consumes (tokens ++ [mark]) input rest := by
  rw [readList, closes.toList_eq] at reads
  split at reads
  next left found =>
    cases reads
    exact Or.inl ⟨rfl, consumes_of_afterToken? found⟩
  next =>
    rcases Reading.bind_eq_ok_iff.mp reads with ⟨⟨first, left⟩, firstRead, reads⟩
    rcases Reading.bind_eq_ok_iff.mp reads with ⟨⟨others, last⟩, othersRead, same⟩
    cases same
    rcases sound _ _ _ firstRead with ⟨tokens, denotes, consumes⟩
    exact Or.inr (denotesList_of_readMore sound closes denotes consumes othersRead)

theorem denotes_ofParenthesized
    {tokens : List Token}
    (listed : DenotesList scope tokens types)
    {type : TypeExpr}
    {left : List Char}
    (reads : ofParenthesized types left = .ok (type, rest)) :
    left = rest ∧ Denotes scope (.opening :: (tokens ++ [.closing])) type := by
  rw [ofParenthesized.eq_def] at reads
  split at reads
  next => cases reads
  next =>
    cases reads
    cases listed with
    | one item => exact ⟨rfl, .group item⟩
    | more item items => cases items
  next _ notSingle =>
    cases reads
    rcases types with _ | ⟨first, _ | ⟨second, others⟩⟩
    · cases listed
    · exact absurd rfl (notSingle first)
    · exact ⟨rfl, .tuple listed⟩

theorem denotes_ofPath {name : String} (isName : QualifiedName name.toList) :
    Denotes scope [.name name] (ofPath scope name) := by
  rw [ofPath]
  split
  next inScope => exact .var isName (List.contains_iff_mem.mp inScope)
  next outside =>
    exact .atom isName fun inScope => outside (List.contains_iff_mem.mpr inScope)

/-- The parts of a parenthesized list are read as tokens of a type. -/
theorem denotes_of_parenthesized
    (sound : ReadsSoundly scope item)
    {inner left : List Char}
    (opening : Consumes [.opening] input inner)
    (itemsRead : readList item ")" inner = .ok (types, left))
    {type : TypeExpr}
    (reads : ofParenthesized types left = .ok (type, rest)) :
    ∃ tokens, Denotes scope tokens type ∧ Consumes tokens input rest := by
  have listed := denotesList_of_readList sound .parenthesis itemsRead
  rcases listed with ⟨rfl, -⟩ | ⟨tokens, denote, consumes⟩
  · cases reads
  · rcases denotes_ofParenthesized denote reads with ⟨rfl, denotes⟩
    exact ⟨_, denotes, opening.trans consumes⟩

theorem denotes_of_parameters
    (sound : ReadsSoundly scope item)
    {inner middle after : List Char}
    {result : TypeExpr}
    (head : Consumes [.name "fn", .opening] input inner)
    (inputsRead : readList item ")" inner = .ok (types, middle))
    (becomes : Consumes [.becomes] middle after)
    (resultRead : item after = .ok (result, rest)) :
    ∃ tokens, Denotes scope tokens (.arrow types result) ∧ Consumes tokens input rest := by
  rcases sound _ _ _ resultRead with ⟨others, output, outputConsumes⟩
  have onward := becomes.trans outputConsumes
  have listed := denotesList_of_readList sound .parenthesis inputsRead
  rcases listed with ⟨rfl, closes⟩ | ⟨tokens, inputs, consumes⟩
  · exact ⟨_, .thunk output, head.trans (closes.trans onward)⟩
  · refine ⟨_, .function inputs output, ?_⟩
    have whole := head.trans (consumes.trans onward)
    simpa using whole

theorem denotes_of_arguments
    (sound : ReadsSoundly scope item)
    {name : String}
    (isName : QualifiedName name.toList)
    {inner : List Char}
    (head : Consumes [.name name, .less] input inner)
    (argumentsRead : readList item ">" inner = .ok (types, rest))
    (some : types ≠ []) :
    ∃ tokens, Denotes scope tokens (.con name types) ∧ Consumes tokens input rest := by
  have listed := denotesList_of_readList sound .bracket argumentsRead
  rcases listed with ⟨empty, -⟩ | ⟨tokens, arguments, consumes⟩
  · exact absurd empty some
  · exact ⟨_, .applied isName arguments, head.trans consumes⟩

theorem readAt_sound (scope : List String) (budget : Nat) :
    ReadsSoundly scope (readAt scope budget) := by
  induction budget with
  | zero =>
      intro input type rest reads
      rw [readAt] at reads
      cases reads
  | succ budget ih =>
      intro input type rest reads
      rw [readAt] at reads
      split at reads
      next inner found =>
        rcases Reading.bind_eq_ok_iff.mp reads with ⟨⟨items, left⟩, itemsRead, reads⟩
        have opening : Consumes [.opening] input inner := consumes_of_afterToken? found
        exact denotes_of_parenthesized ih opening itemsRead reads
      next =>
        rcases Reading.bind_eq_ok_iff.mp reads with ⟨⟨path, left⟩, pathRead, reads⟩
        rcases consumes_of_readPath pathRead with ⟨isPath, named⟩
        have isName : QualifiedName (String.ofList path).toList := by
          rwa [String.toList_ofList]
        dsimp only at reads
        split at reads
        next _ _ inner found isKeyword =>
          have opening : Consumes [.opening] left inner := consumes_of_afterToken? found
          have isFn : String.ofList path = "fn" := by
            rw [eq_of_beq isKeyword]
          rw [isFn] at named
          rcases Reading.bind_eq_ok_iff.mp reads with ⟨⟨inputs, middle⟩, inputsRead, reads⟩
          rcases Reading.bind_eq_ok_iff.mp reads with ⟨after, arrow, reads⟩
          rcases Reading.bind_eq_ok_iff.mp reads with ⟨⟨output, last⟩, outputRead, same⟩
          cases same
          have becomes : Consumes [.becomes] middle after :=
            consumes_of_afterToken? (afterToken_eq_ok_iff.mp arrow)
          exact denotes_of_parameters ih (named.trans opening) inputsRead becomes outputRead
        next =>
          split at reads
          next inner found =>
            have less : Consumes [.less] left inner := consumes_of_afterToken? found
            rcases Reading.bind_eq_ok_iff.mp reads with ⟨⟨arguments, last⟩, argumentsRead, reads⟩
            cases arguments with
            | nil => cases reads
            | cons first others =>
                cases reads
                exact denotes_of_arguments ih isName (named.trans less) argumentsRead
                  (List.cons_ne_nil first others)
          next =>
            cases reads
            exact ⟨_, denotes_ofPath isName, named⟩

end Sound

/-! ## What is derived is read -/

theorem trimStart_trimStart (input : List Char) : trimStart (trimStart input) = trimStart input :=
  List.dropWhile_idempotent isBlank input

theorem afterToken?_trimStart (token input : List Char) :
    afterToken? token (trimStart input) = afterToken? token input := by
  rw [afterToken?, afterToken?, trimStart_trimStart]

theorem afterToken?_eq_none_of_ne
    {t d : Char}
    {input tail : List Char}
    (trims : trimStart input = d :: tail)
    (differ : t ≠ d) :
    afterToken? [t] input = none := by
  rw [afterToken?, trims, dropToken, if_neg differ]

/-- A path ends in front of white space as well. -/
theorem readPathFrom_of_trimStart
    {rest : List Char}
    (ends : ∀ c ∈ (trimStart rest).head?, c ∈ pathEnds) :
    readPathFrom true rest = .ok ([], rest) := by
  cases rest with
  | nil => rfl
  | cons c tail =>
      cases blank : isBlank c with
      | false =>
          rw [trimStart_cons_dark blank] at ends
          exact readPathFrom_of_ends ends
      | true =>
          have outside : continuesSegment c ≠ true := by
            intro continues
            rw [isBlank_of_continuesSegment continues] at blank
            cases blank
          rw [readPathFrom, if_neg outside]
          rintro colons rfl
          exact absurd blank (by decide)

/-- A reading step sees nothing of the white space in front of a type. -/
theorem readAt_trimStart (scope : List String) (budget : Nat) (input : List Char) :
    readAt scope budget (trimStart input) = readAt scope budget input := by
  cases budget with
  | zero => rw [readAt, readAt, trimStart_trimStart]
  | succ budget =>
      rw [readAt, readAt, afterToken?_trimStart, readPath, readPath, trimStart_trimStart]

section Complete

variable {scope : List String} {tokens : List Token} {type : TypeExpr} {types : List TypeExpr}
variable {input rest : List Char} {budget : Nat}

/-- Tokens that end a type in front of them. -/
def endingTokens : List Token :=
  [.comma, .closing, .greater]

theorem ends_of_consumes
    {token : Token}
    (ending : token ∈ endingTokens)
    (consumes : Consumes (token :: tokens) input rest) :
    Ends (trimStart input) := by
  fin_cases ending
  · rcases consumes.exists_token Token.dark_comma with ⟨after, trims, -⟩
    rw [trims]
    rintro _ ⟨⟩
    decide
  · rcases consumes.exists_token Token.dark_closing with ⟨after, trims, -⟩
    rw [trims]
    rintro _ ⟨⟩
    decide
  · rcases consumes.exists_token Token.dark_greater with ⟨after, trims, -⟩
    rw [trims]
    rintro _ ⟨⟩
    decide

/-- No token that ends a type comes in front of one. -/
theorem Denotes.afterToken?_eq_none
    (denotes : Denotes scope tokens type)
    (consumes : Consumes tokens input rest)
    {c : Char}
    (ending : c ∈ typeEnds) :
    afterToken? [c] input = none := by
  have named
      {name : String}
      {others : List Token}
      (isName : QualifiedName name.toList)
      (consumes : Consumes (.name name :: others) input rest) :
      afterToken? [c] input = none := by
    rcases consumes.exists_token (Token.dark_name isName) with ⟨after, trims, -⟩
    rcases IsPath.exists_cons (pathFrom_iff.mpr isName) with ⟨d, tail, same, starts⟩
    rw [Token.chars, same] at trims
    refine afterToken?_eq_none_of_ne trims ?_
    rintro rfl
    fin_cases ending <;> exact absurd starts (by decide)
  have opened
      {others : List Token}
      (consumes : Consumes (.opening :: others) input rest) :
      afterToken? [c] input = none := by
    rcases consumes.exists_token Token.dark_opening with ⟨after, trims, -⟩
    refine afterToken?_eq_none_of_ne trims ?_
    rintro rfl
    exact absurd ending (by decide)
  cases denotes with
  | var isName => exact named isName consumes
  | atom isName => exact named isName consumes
  | applied isName => exact named isName consumes
  | thunk => exact named qualifiedName_fn consumes
  | function => exact named qualifiedName_fn consumes
  | group => exact opened consumes
  | tuple => exact opened consumes

/--
A reader of types reads a type from its tokens, if fewer characters are left than
a bound and nothing of what comes after the tokens continues a type.
-/
def ReadsTokens
    (item : List Char → Reading (TypeExpr × List Char))
    (bound : Nat)
    (tokens : List Token)
    (type : TypeExpr) : Prop :=
  ∀ input rest, input.length < bound → Consumes tokens input rest → Ends (trimStart rest) →
    ∃ left, item input = .ok (type, left) ∧ trimStart left = trimStart rest

/--
A reader of types reads the first type of a list and then the others, whatever
bound above the length of the text is put on the number of these.
-/
def ReadsListTokens
    (item : List Char → Reading (TypeExpr × List Char))
    (bound : Nat)
    (tokens : List Token)
    (types : List TypeExpr) : Prop :=
  ∀ close mark input rest, Closes close mark → input.length < bound →
    Consumes (tokens ++ [mark]) input rest →
      ∃ first others left, types = first :: others ∧ item input = .ok (first, left) ∧
        ∀ budget, left.length < budget →
          ∃ last, readMore item close budget left = .ok (others, last) ∧
            trimStart last = trimStart rest

/-- Up to white space a text begins with the first of its tokens. -/
theorem Consumes.afterToken?_eq_some
    {token : Token}
    (dark : token.Dark)
    {left : List Char}
    (consumes : Consumes (token :: tokens) input rest)
    (same : trimStart left = trimStart input) :
    ∃ after, afterToken? token.chars left = some after ∧ Consumes tokens after rest := by
  rcases consumes.exists_token dark with ⟨after, trims, onward⟩
  exact ⟨after, afterToken?_eq_some_iff.mpr (same.trans trims), onward⟩

theorem Token.Dark.length_lt_of_trimStart
    {token : Token}
    (dark : token.Dark)
    {after : List Char}
    (trims : trimStart input = token.chars ++ after) :
    after.length < input.length := by
  rcases dark with ⟨c, tail, isChars, -⟩
  have shorter := (trimStart_suffix input).length_le
  rw [trims, isChars, List.length_append, List.length_cons] at shorter
  omega

section Closing

variable {close : String} {mark : Token}

theorem Closes.dark (closes : Closes close mark) : mark.Dark := by
  cases closes with
  | parenthesis => exact Token.dark_closing
  | bracket => exact Token.dark_greater

theorem Closes.ending (closes : Closes close mark) : mark ∈ endingTokens := by
  cases closes <;> decide

/-- A comma does not close a list. -/
theorem Closes.afterToken?_eq_none
    (closes : Closes close mark)
    {after : List Char}
    (comma : afterToken? Token.comma.chars input = some after) :
    afterToken? close.toList input = none := by
  have trims := afterToken?_eq_some_iff.mp comma
  cases closes with
  | parenthesis => exact afterToken?_eq_none_of_ne trims (by decide)
  | bracket => exact afterToken?_eq_none_of_ne trims (by decide)

/-- No list closes where a type begins. -/
theorem Closes.afterToken?_eq_none_of_denotes
    (closes : Closes close mark)
    (denotes : Denotes scope tokens type)
    (consumes : Consumes tokens input rest) :
    afterToken? close.toList input = none := by
  cases closes with
  | parenthesis => exact denotes.afterToken?_eq_none consumes (by decide)
  | bracket => exact denotes.afterToken?_eq_none consumes (by decide)

end Closing

theorem readsListTokens_one (item : ReadsTokens (readAt scope budget) budget tokens type) :
    ReadsListTokens (readAt scope budget) budget tokens [type] := by
  intro close mark input rest closes enough consumes
  rcases consumes.exists_append with ⟨middle, first, closing⟩
  have ends := ends_of_consumes closes.ending closing
  rcases item input middle enough first ends with ⟨left, reads, same⟩
  refine ⟨type, [], left, rfl, reads, fun bound above => ?_⟩
  rcases closing.afterToken?_eq_some closes.dark same with ⟨after, found, onward⟩
  rcases Nat.exists_eq_add_of_lt above with ⟨more, rfl⟩
  refine ⟨after, ?_, onward.trimStart_eq⟩
  rw [readMore, closes.toList_eq, found]

theorem readsListTokens_more
    {others : List Token}
    (item : ReadsTokens (readAt scope budget) budget tokens type)
    (items : ReadsListTokens (readAt scope budget) budget others types) :
    ReadsListTokens (readAt scope budget) budget (tokens ++ .comma :: others) (type :: types) := by
  intro close mark input rest closes enough consumes
  rw [List.append_assoc] at consumes
  rcases consumes.exists_append with ⟨middle, firstPart, continues⟩
  have comma : Ends (trimStart middle) := ends_of_consumes List.mem_cons_self continues
  rcases item input middle enough firstPart comma with ⟨left, firstRead, same⟩
  rcases continues.afterToken?_eq_some Token.dark_comma same with ⟨after, found, onward⟩
  have commaRead : afterToken "," left = .ok after := afterToken_eq_ok_iff.mpr found
  have leftShorter := ((within_readAt scope _ input).suffix firstRead).length_le
  have afterShorter := length_lt_of_afterToken? found
  rcases items close mark after rest closes (by omega) onward with
    ⟨second, more, last, rfl, secondRead, moreRead⟩
  have lastShorter := ((within_readAt scope _ after).suffix secondRead).length_le
  refine ⟨type, second :: more, left, rfl, firstRead, fun bound above => ?_⟩
  rcases Nat.exists_eq_add_of_lt above with ⟨slack, rfl⟩
  rcases moreRead (left.length + slack) (by omega) with ⟨final, finalRead, finalSame⟩
  refine ⟨final, ?_, finalSame⟩
  rw [readMore, closes.afterToken?_eq_none found]
  apply Reading.bind_eq_ok_iff.mpr ⟨after, commaRead, ?_⟩
  apply Reading.bind_eq_ok_iff.mpr ⟨(second, last), secondRead, ?_⟩
  exact Reading.bind_eq_ok_iff.mpr ⟨(more, final), finalRead, rfl⟩

theorem DenotesList.exists_first (listed : DenotesList scope tokens types) :
    ∃ front back type, tokens = front ++ back ∧ Denotes scope front type := by
  cases listed with
  | one item => exact ⟨tokens, [], _, (List.append_nil _).symm, item⟩
  | more item items => exact ⟨_, _, _, rfl, item⟩

/-- A list is read from its tokens and the token that closes it. -/
theorem readList_of_tokens
    {close : String}
    {mark : Token}
    (closes : Closes close mark)
    (listed : DenotesList scope tokens types)
    (items : ReadsListTokens (readAt scope budget) budget tokens types)
    (enough : input.length < budget)
    (consumes : Consumes (tokens ++ [mark]) input rest) :
    ∃ left, readList (readAt scope budget) close input = .ok (types, left) ∧
      trimStart left = trimStart rest := by
  have notClosed : afterToken? close.toList input = none := by
    rcases listed.exists_first with ⟨front, back, type, rfl, first⟩
    rw [List.append_assoc] at consumes
    rcases consumes.exists_append with ⟨middle, firstPart, -⟩
    exact closes.afterToken?_eq_none_of_denotes first firstPart
  rcases items close mark input rest closes enough consumes with
    ⟨first, others, left, rfl, firstRead, othersRead⟩
  rcases othersRead (left.length + 1) (Nat.lt_succ_self _) with ⟨last, lastRead, same⟩
  refine ⟨last, ?_, same⟩
  rw [readList, notClosed]
  apply Reading.bind_eq_ok_iff.mpr ⟨(first, left), firstRead, ?_⟩
  exact Reading.bind_eq_ok_iff.mpr ⟨(others, last), lastRead, rfl⟩

/-! ### One level -/

section Levels

theorem readAt_of_opening
    {inner : List Char}
    (found : afterToken? ['('] input = some inner) :
    readAt scope (budget + 1) input =
      readList (readAt scope budget) ")" inner >>= fun (items, rest) =>
        ofParenthesized items rest := by
  rw [readAt, found]

/-- Reading a name that is no keyword, up to white space. -/
theorem readAt_of_name
    {name : String}
    {after : List Char}
    (isName : QualifiedName name.toList)
    (trims : trimStart input = name.toList ++ after)
    (ends : ∀ c ∈ (trimStart after).head?, c ∈ pathEnds)
    (noCall : afterToken? ['('] after = none) :
    readAt scope (budget + 1) input =
      match afterToken? ['<'] after with
      | some rest => do
          let (arguments, rest) ← readList (readAt scope budget) ">" rest
          if arguments.isEmpty then
            .error ⟨.noArguments, rest⟩
          else
            return (.con name arguments, rest)
      | none => return (ofPath scope name, after) := by
  rw [← readAt_trimStart, trims]
  exact readAt_path (pathFrom_iff.mpr isName) (readPathFrom_of_trimStart ends) noCall budget

/-- Reading a function type up to its parameters. -/
theorem readAt_of_call
    {after inner : List Char}
    (trims : trimStart input = "fn".toList ++ after)
    (opens : afterToken? ['('] after = some inner) :
    readAt scope (budget + 1) input =
      readList (readAt scope budget) ")" inner >>= fun (parameters, rest) =>
        afterToken "->" rest >>= fun rest =>
          readAt scope budget rest >>= fun (result, rest) =>
            .ok (.arrow parameters result, rest) := by
  have ends : ∀ c ∈ (trimStart after).head?, c ∈ pathEnds := by
    rw [afterToken?_eq_some_iff.mp opens]
    rintro _ ⟨⟩
    decide
  have isFn : IsPath "fn" := .start (by decide) (.next (by decide) .nil)
  have pathRead := readPath_append isFn (readPathFrom_of_trimStart ends)
  rw [← readAt_trimStart, trims, readAt, isFn.afterToken?_opening_eq_none]
  change readPath _ >>= _ = _
  rw [pathRead]
  dsimp only [bind, Except.bind]
  rw [opens]
  rfl

theorem readsTokens_name
    {name : String}
    (isName : QualifiedName name.toList)
    (same : ofPath scope name = type) :
    ReadsTokens (readAt scope (budget + 1)) (budget + 1) [.name name] type := by
  intro input rest _ consumes ends
  rcases consumes.exists_token (Token.dark_name isName) with ⟨after, trims, nothing⟩
  have ends' : Ends (trimStart after) := by
    rwa [nothing.trimStart_eq]
  have noToken {t : Char} (other : t ∉ typeEnds) : afterToken? [t] after = none := by
    rw [← afterToken?_trimStart]
    exact ends'.afterToken?_eq_none other
  refine ⟨after, ?_, nothing.trimStart_eq⟩
  rw [readAt_of_name isName trims ends'.pathEnds (noToken (by decide)), noToken (by decide), same]
  rfl

theorem readsTokens_applied
    {name : String}
    (isName : QualifiedName name.toList)
    (listed : DenotesList scope tokens types)
    (items : ReadsListTokens (readAt scope budget) budget tokens types) :
    ReadsTokens (readAt scope (budget + 1)) (budget + 1)
      (.name name :: .less :: (tokens ++ [.greater])) (.con name types) := by
  intro input rest enough consumes _
  have dark := Token.dark_name isName
  rcases consumes.exists_token dark with ⟨after, trims, onward⟩
  rcases onward.afterToken?_eq_some Token.dark_less rfl with ⟨inner, opens, arguments⟩
  have nameShorter := dark.length_lt_of_trimStart trims
  have lessShorter := length_lt_of_afterToken? opens
  rcases readList_of_tokens .bracket listed items (by omega) arguments with
    ⟨left, argumentsRead, same⟩
  refine ⟨left, ?_, same⟩
  have less : trimStart after = '<' :: inner := afterToken?_eq_some_iff.mp opens
  have noCall : afterToken? ['('] after = none := afterToken?_eq_none_of_ne less (by decide)
  have ends : ∀ c ∈ (trimStart after).head?, c ∈ pathEnds := by
    rw [less]
    rintro _ ⟨⟩
    decide
  have opens' : afterToken? ['<'] after = some inner := opens
  rw [readAt_of_name isName trims ends noCall, opens']
  apply Reading.bind_eq_ok_iff.mpr ⟨(types, left), argumentsRead, ?_⟩
  cases listed <;> rfl

/-- A function type is read if its parameters are read and its result follows an arrow. -/
theorem readAt_arrow_of_parameters
    {after inner left middle : List Char}
    {parameters : List TypeExpr}
    {others : List Token}
    (trims : trimStart input = "fn".toList ++ after)
    (opens : afterToken? ['('] after = some inner)
    (inputsRead : readList (readAt scope budget) ")" inner = .ok (parameters, left))
    (same : trimStart left = trimStart middle)
    (onward : Consumes (.becomes :: others) middle rest)
    (output : ReadsTokens (readAt scope budget) budget others type)
    (enough : left.length < budget)
    (ends : Ends (trimStart rest)) :
    ∃ last, readAt scope (budget + 1) input = .ok (.arrow parameters type, last) ∧
      trimStart last = trimStart rest := by
  rcases onward.afterToken?_eq_some Token.dark_becomes same with ⟨target, found, result⟩
  have arrowRead : afterToken "->" left = .ok target := afterToken_eq_ok_iff.mpr found
  have shorter := length_lt_of_afterToken? found
  rcases output target rest (by omega) result ends with ⟨last, resultRead, lastSame⟩
  refine ⟨last, ?_, lastSame⟩
  rw [readAt_of_call trims opens]
  apply Reading.bind_eq_ok_iff.mpr ⟨(parameters, left), inputsRead, ?_⟩
  apply Reading.bind_eq_ok_iff.mpr ⟨target, arrowRead, ?_⟩
  exact Reading.bind_eq_ok_iff.mpr ⟨(type, last), resultRead, rfl⟩

theorem readsTokens_thunk
    (output : ReadsTokens (readAt scope budget) budget tokens type) :
    ReadsTokens (readAt scope (budget + 1)) (budget + 1)
      (.name "fn" :: .opening :: .closing :: .becomes :: tokens) (.arrow [] type) := by
  intro input rest enough consumes ends
  have dark := Token.dark_name qualifiedName_fn
  rcases consumes.exists_token dark with ⟨after, trims, onward⟩
  rcases onward.afterToken?_eq_some Token.dark_opening rfl with ⟨inner, opens, parameters⟩
  rcases parameters.afterToken?_eq_some Token.dark_closing rfl with ⟨left, closes, arrow⟩
  have nameShorter := dark.length_lt_of_trimStart trims
  have openShorter := length_lt_of_afterToken? opens
  have closeShorter := length_lt_of_afterToken? closes
  have closes' : afterToken? ")".toList inner = some left := closes
  have inputsRead : readList (readAt scope budget) ")" inner = .ok ([], left) := by
    rw [readList, closes']
  exact readAt_arrow_of_parameters trims opens inputsRead rfl arrow output (by omega) ends

theorem readsTokens_function
    {others : List Token}
    (listed : DenotesList scope tokens types)
    (items : ReadsListTokens (readAt scope budget) budget tokens types)
    (output : ReadsTokens (readAt scope budget) budget others type) :
    ReadsTokens (readAt scope (budget + 1)) (budget + 1)
      (.name "fn" :: .opening :: (tokens ++ .closing :: .becomes :: others))
      (.arrow types type) := by
  intro input rest enough consumes ends
  have dark := Token.dark_name qualifiedName_fn
  rcases consumes.exists_token dark with ⟨after, trims, onward⟩
  rcases onward.afterToken?_eq_some Token.dark_opening rfl with ⟨inner, opens, parameters⟩
  rw [List.append_cons] at parameters
  rcases parameters.exists_append with ⟨middle, parametersPart, arrow⟩
  have nameShorter := dark.length_lt_of_trimStart trims
  have openShorter := length_lt_of_afterToken? opens
  rcases readList_of_tokens .parenthesis listed items (by omega) parametersPart with
    ⟨left, inputsRead, same⟩
  have leftShorter :=
    ((within_readList (within_readAt scope _) inner).suffix inputsRead).length_le
  exact readAt_arrow_of_parameters trims opens inputsRead same arrow output (by omega) ends

theorem readsTokens_group
    (listed : DenotesList scope tokens types)
    (items : ReadsListTokens (readAt scope budget) budget tokens types)
    (stands : ∀ rest, ofParenthesized types rest = .ok (type, rest)) :
    ReadsTokens (readAt scope (budget + 1)) (budget + 1)
      (.opening :: (tokens ++ [.closing])) type := by
  intro input rest enough consumes _
  rcases consumes.afterToken?_eq_some Token.dark_opening rfl with ⟨inner, opens, listed'⟩
  have shorter := length_lt_of_afterToken? opens
  rcases readList_of_tokens .parenthesis listed items (by omega) listed' with
    ⟨left, itemsRead, same⟩
  refine ⟨left, ?_, same⟩
  rw [readAt_of_opening opens]
  exact Reading.bind_eq_ok_iff.mpr ⟨(types, left), itemsRead, stands left⟩

end Levels

mutual

/-- Tokens that stand for a type are read as that type. -/
theorem Denotes.readsTokens {tokens : List Token} {type : TypeExpr} :
    Denotes scope tokens type → ∀ budget, ReadsTokens (readAt scope budget) budget tokens type
  | _, 0 => fun _ _ enough => absurd enough (Nat.not_lt_zero _)
  | .var isName inScope, _ + 1 => readsTokens_name isName (by
      rw [ofPath, if_pos (List.contains_iff_mem.mpr inScope)])
  | .atom isName outside, _ + 1 => readsTokens_name isName (by
      rw [ofPath, if_neg fun inScope => outside (List.contains_iff_mem.mp inScope)]
      rfl)
  | .applied isName listed, budget + 1 =>
      readsTokens_applied isName listed (listed.readsListTokens budget)
  | .thunk output, budget + 1 => readsTokens_thunk (output.readsTokens budget)
  | .function inputs output, budget + 1 =>
      readsTokens_function inputs (inputs.readsListTokens budget) (output.readsTokens budget)
  | .group inner, budget + 1 =>
      readsTokens_group (.one inner) (readsListTokens_one (inner.readsTokens budget))
        fun _ => rfl
  | .tuple listed, budget + 1 =>
      readsTokens_group listed (listed.readsListTokens budget) fun _ => rfl

/-- Tokens that stand for a list of types are read as these. -/
theorem DenotesList.readsListTokens {tokens : List Token} {types : List TypeExpr} :
    DenotesList scope tokens types →
      ∀ budget, ReadsListTokens (readAt scope budget) budget tokens types
  | .one item, budget => readsListTokens_one (item.readsTokens budget)
  | .more item items, budget =>
      readsListTokens_more (item.readsTokens budget) (items.readsListTokens budget)

end

end Complete

/-! ## Whole texts -/

theorem spells_of_consumes_blank
    {tokens : List Token}
    {input rest : List Char}
    (consumes : Consumes tokens input rest)
    (blank : trimStart rest = []) :
    Spells tokens input := by
  rcases consumes with ⟨text, spells, rfl⟩
  have blanks : Spells [] rest :=
    .of_blank fun c listed => by simpa using List.dropWhile_eq_nil_iff.mp blank c listed
  simpa using spells.append blanks

/-- A text is read as a type when the first step reads it and leaves white space only. -/
theorem read_eq_ok_iff
    {scope : List String}
    {text : String}
    {type : TypeExpr} :
    read scope text = .ok type ↔
      ∃ rest, readAt scope (text.toList.length + 1) text.toList = .ok (type, rest) ∧
        trimStart rest = [] := by
  rw [read]
  dsimp only
  split
  next failure fails =>
    refine iff_of_false (by simp) ?_
    rintro ⟨rest, reads, -⟩
    cases fails.symm.trans reads
  next found rest reads =>
    rw [reads]
    split
    next blank => simp [blank]
    next left =>
      refine iff_of_false (by simp) ?_
      rintro ⟨_, ⟨⟩, blank⟩
      exact left blank

theorem ends_nil : Ends [] := by
  rintro c ⟨⟩

/-- The offset of an end of a text is where the text is cut in front of it. -/
theorem exists_cut {text : String} {rest : List Char} (suffix : rest <:+ text.toList) :
    ∃ before after : String, text = before ++ after ∧
      text.utf8ByteSize - (String.ofList rest).utf8ByteSize = before.utf8ByteSize := by
  rcases suffix with ⟨front, whole⟩
  have cut : text = String.ofList front ++ String.ofList rest := by
    rw [← String.ofList_append, whole, String.ofList_toList]
  refine ⟨String.ofList front, String.ofList rest, cut, ?_⟩
  rw [cut, String.utf8ByteSize_append, Nat.add_sub_cancel]

/-- A text that is not read as a type is cut in two where the fault is. -/
theorem exists_cut_of_read_eq_error
    {scope : List String}
    {text : String}
    {error : SyntaxError}
    (fails : read scope text = .error error) :
    error.text = text ∧
      ∃ before after : String, text = before ++ after ∧ error.offset = before.utf8ByteSize := by
  have within := within_readAt scope (text.toList.length + 1) text.toList
  rw [read] at fails
  dsimp only at fails
  split at fails
  next failure stops =>
    rw [stops] at within
    cases fails
    exact ⟨rfl, exists_cut within⟩
  next type rest reads =>
    split at fails
    next => cases fails
    next =>
      cases fails
      exact ⟨rfl, exists_cut ((trimStart_suffix rest).trans (within.suffix reads))⟩

/--
The reader accepts the texts of the grammar and no others, with the type that
their tokens stand for.  On any other text it names a place between two
characters.  It ends on every text on its own account: larger bounds on how deep
types nest and on how many items a list has change nothing.
-/
theorem read_eq_ok_iff_denotes (scope : List String) (text : String) :
    (∀ type, read scope text = .ok type ↔
        ∃ tokens, Spells tokens text.toList ∧ Denotes scope tokens type) ∧
      (∀ error, read scope text = .error error →
        error.text = text ∧ error.offset ≤ text.utf8ByteSize ∧
          ∃ before after : String, text = before ++ after ∧
            error.offset = before.utf8ByteSize) ∧
      (∀ budget, text.toList.length < budget →
        readAt scope budget text.toList =
          readAt scope (text.toList.length + 1) text.toList) ∧
      ∀ depth close input budget, input.length < budget →
        readMore (readAt scope depth) close budget input =
          readMore (readAt scope depth) close (input.length + 1) input := by
  refine ⟨fun type => ⟨fun reads => ?accepted, fun derived => ?derived⟩, ?_, ?_, ?_⟩
  case accepted =>
    rcases read_eq_ok_iff.mp reads with ⟨rest, readsAt, blank⟩
    rcases readAt_sound scope _ _ _ _ readsAt with ⟨tokens, denotes, consumes⟩
    exact ⟨tokens, spells_of_consumes_blank consumes blank, denotes⟩
  case derived =>
    rcases derived with ⟨tokens, spells, denotes⟩
    have consumes : Consumes tokens text.toList [] :=
      ⟨text.toList, spells, (List.append_nil _).symm⟩
    rcases denotes.readsTokens _ text.toList [] (Nat.lt_succ_self _) consumes ends_nil with
      ⟨left, reads, same⟩
    exact read_eq_ok_iff.mpr ⟨left, reads, same⟩
  · intro error fails
    rcases exists_cut_of_read_eq_error fails with ⟨same, before, after, cut, offset⟩
    refine ⟨same, ?_, before, after, cut, offset⟩
    rw [offset, cut, String.utf8ByteSize_append]
    exact Nat.le_add_right _ _
  · intro budget enough
    exact readAt_stable scope enough (Nat.lt_succ_self _)
  · intro depth close input budget enough
    exact readMore_congr (within_readAt scope depth) enough (Nat.lt_succ_self _) fun _ _ => rfl

end DataDerive.TypeExpr
