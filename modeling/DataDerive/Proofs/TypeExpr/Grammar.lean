import DataDerive.Proofs.TypeExpr.RoundTrip

/-!
# The grammar of types

A type text is a sequence of tokens with white space anywhere between them: names
and punctuation marks.  A name consists of segments separated by double colons
and is one token, so no white space may stand inside it.  `Denotes` says which
type a sequence of tokens stands for.

Nothing here reads a text.  `Consumes` puts the two layers together for a part of
a text: what lies in front of the rest spells the tokens.
-/

namespace DataDerive.TypeExpr

open Text

/-! ## Names -/

/-- A segment of a name. -/
inductive Segment : List Char → Prop
  | mk
      {c : Char}
      {rest : List Char}
      (starts : startsSegment c = true)
      (continues : ∀ d ∈ rest, continuesSegment d = true) :
      Segment (c :: rest)

/-- Segments separated by double colons. -/
inductive QualifiedName : List Char → Prop
  | segment
      {segment : List Char}
      (one : Segment segment) :
      QualifiedName segment
  | qualified
      {segment rest : List Char}
      (first : Segment segment)
      (onward : QualifiedName rest) :
      QualifiedName (segment ++ ':' :: ':' :: rest)

theorem pathFrom_append
    {front rest : List Char}
    (continues : ∀ c ∈ front, continuesSegment c = true)
    (onward : PathFrom true rest) :
    PathFrom true (front ++ rest) := by
  induction front with
  | nil => exact onward
  | cons c front ih =>
      rw [List.forall_mem_cons] at continues
      exact .next continues.1 (ih continues.2)

theorem Segment.pathFrom
    {segment rest : List Char}
    (one : Segment segment)
    (onward : PathFrom true rest) :
    PathFrom false (segment ++ rest) := by
  cases one with
  | mk starts continues => exact .start starts (pathFrom_append continues onward)

/-- What a path amounts to: a name, or the rest of a name after the beginning of a segment. -/
def NamePart : Bool → List Char → Prop
  | false, path => QualifiedName path
  | true, path => ∀ segment, Segment segment → QualifiedName (segment ++ path)

theorem PathFrom.namePart
    {inside : Bool}
    {path : List Char}
    (isPath : PathFrom inside path) :
    NamePart inside path := by
  induction isPath with
  | nil =>
      intro segment one
      rw [List.append_nil]
      exact .segment one
  | @start c rest starts onward ih => exact ih [c] (.mk starts (List.forall_mem_nil _))
  | @next d rest continues onward ih =>
      intro segment one
      cases one with
      | @mk c front starts before =>
          have extended : Segment (c :: (front ++ [d])) := by
            refine .mk starts (List.forall_mem_append.mpr ⟨before, ?_⟩)
            simpa using continues
          simpa using ih _ extended
  | separator onward ih =>
      intro segment one
      exact .qualified one ih

/-- Paths are names. -/
theorem pathFrom_iff {path : List Char} : PathFrom false path ↔ QualifiedName path := by
  constructor
  · exact fun isPath => isPath.namePart
  · intro isName
    induction isName with
    | segment one =>
        have isPath := one.pathFrom .nil
        rwa [List.append_nil] at isPath
    | qualified first onward ih => exact first.pathFrom (.separator ih)

theorem qualifiedName_fn : QualifiedName "fn".toList := by
  have spelled : "fn".toList = ['f', 'n'] := rfl
  have continues : ∀ d ∈ ['n'], continuesSegment d = true :=
    List.forall_mem_singleton.mpr (by decide)
  rw [spelled]
  exact .segment (.mk (by decide) continues)

/-! ## Tokens -/

/-- A token of a type text. -/
inductive Token where
  | name (text : String)
  | opening
  | closing
  | less
  | greater
  | comma
  | becomes
  deriving DecidableEq

namespace Token

/-- The characters of a token. -/
def chars : Token → List Char
  | .name text => text.toList
  | .opening => ['(']
  | .closing => [')']
  | .less => ['<']
  | .greater => ['>']
  | .comma => [',']
  | .becomes => ['-', '>']

/-- A token that begins with a character that is no white space. -/
def Dark (token : Token) : Prop :=
  ∃ c tail, token.chars = c :: tail ∧ isBlank c = false

theorem dark_name {text : String} (isName : QualifiedName text.toList) :
    (Token.name text).Dark := by
  rcases IsPath.exists_cons (pathFrom_iff.mpr isName) with ⟨c, tail, same, starts⟩
  exact ⟨c, tail, same, isBlank_of_continuesSegment (continuesSegment_of_startsSegment starts)⟩

theorem dark_opening : Token.opening.Dark := ⟨'(', [], rfl, by decide⟩

theorem dark_closing : Token.closing.Dark := ⟨')', [], rfl, by decide⟩

theorem dark_less : Token.less.Dark := ⟨'<', [], rfl, by decide⟩

theorem dark_greater : Token.greater.Dark := ⟨'>', [], rfl, by decide⟩

theorem dark_comma : Token.comma.Dark := ⟨',', [], rfl, by decide⟩

theorem dark_becomes : Token.becomes.Dark := ⟨'-', ['>'], rfl, by decide⟩

end Token

/-- A text is made of the texts of tokens in their order, with white space anywhere between them. -/
inductive Spells : List Token → List Char → Prop
  | nil : Spells [] []
  | blank
      {c : Char}
      {tokens : List Token}
      {text : List Char}
      (blank : isBlank c = true)
      (onward : Spells tokens text) :
      Spells tokens (c :: text)
  | token
      (token : Token)
      {tokens : List Token}
      {text : List Char}
      (onward : Spells tokens text) :
      Spells (token :: tokens) (token.chars ++ text)

theorem Spells.append
    {front back : List Token}
    {left right : List Char}
    (first : Spells front left)
    (second : Spells back right) :
    Spells (front ++ back) (left ++ right) := by
  induction first with
  | nil => exact second
  | blank blank onward ih => exact .blank blank ih
  | token token onward ih =>
      rw [List.cons_append, List.append_assoc]
      exact .token token ih

theorem Spells.exists_append
    {front back tokens : List Token}
    {text : List Char}
    (spells : Spells tokens text)
    (split : tokens = front ++ back) :
    ∃ left right, text = left ++ right ∧ Spells front left ∧ Spells back right := by
  induction spells generalizing front with
  | nil =>
      rcases List.append_eq_nil_iff.mp split.symm with ⟨rfl, rfl⟩
      exact ⟨[], [], rfl, .nil, .nil⟩
  | @blank c tokens text blank onward ih =>
      rcases ih split with ⟨left, right, rfl, first, second⟩
      exact ⟨c :: left, right, rfl, .blank blank first, second⟩
  | @token token tokens text onward ih =>
      cases front with
      | nil =>
          cases split
          exact ⟨[], _, rfl, .nil, .token token onward⟩
      | cons other front =>
          cases split
          rcases ih rfl with ⟨left, right, rfl, first, second⟩
          exact ⟨_, right, (List.append_assoc _ _ _).symm, .token token first, second⟩

theorem Spells.of_blank {blanks : List Char} (blank : ∀ c ∈ blanks, isBlank c = true) :
    Spells [] blanks := by
  induction blanks with
  | nil => exact .nil
  | cons c rest ih =>
      rw [List.forall_mem_cons] at blank
      exact .blank blank.1 (ih blank.2)

theorem Spells.trimStart_append
    {text : List Char}
    (spells : Spells [] text)
    (rest : List Char) :
    trimStart (text ++ rest) = trimStart rest := by
  generalize same : ([] : List Token) = tokens at spells
  induction spells with
  | nil => rfl
  | blank blank onward ih => exact (trimStart_cons_blank blank _).trans (ih same)
  | token => cases same

/-- The first token comes after white space only. -/
theorem Spells.exists_token
    {token : Token}
    {tokens : List Token}
    {text : List Char}
    (dark : token.Dark)
    (spells : Spells (token :: tokens) text) :
    ∃ after, Spells tokens after ∧
      ∀ rest, trimStart (text ++ rest) = token.chars ++ (after ++ rest) := by
  generalize same : token :: tokens = all at spells
  induction spells with
  | nil => cases same
  | blank blank onward ih =>
      rcases ih same with ⟨after, spelled, trims⟩
      exact ⟨after, spelled, fun rest => (trimStart_cons_blank blank _).trans (trims rest)⟩
  | @token _ _ text onward =>
      cases same
      rcases dark with ⟨c, tail, isChars, isDark⟩
      refine ⟨text, onward, fun rest => ?_⟩
      rw [isChars, List.cons_append, List.cons_append, trimStart_cons_dark isDark,
        List.cons_append, List.append_assoc]

/-! ## Parts of a text -/

/-- What lies in front of the rest of a text spells tokens. -/
def Consumes (tokens : List Token) (input rest : List Char) : Prop :=
  ∃ text, Spells tokens text ∧ input = text ++ rest

namespace Consumes

variable {front back tokens : List Token} {token : Token} {input middle rest : List Char}

theorem trans (first : Consumes front input middle) (second : Consumes back middle rest) :
    Consumes (front ++ back) input rest := by
  rcases first with ⟨left, leftSpells, rfl⟩
  rcases second with ⟨right, rightSpells, rfl⟩
  exact ⟨left ++ right, leftSpells.append rightSpells, (List.append_assoc _ _ _).symm⟩

theorem exists_append (consumes : Consumes (front ++ back) input rest) :
    ∃ middle, Consumes front input middle ∧ Consumes back middle rest := by
  rcases consumes with ⟨text, spells, rfl⟩
  rcases spells.exists_append rfl with ⟨left, right, rfl, first, second⟩
  exact ⟨right ++ rest, ⟨left, first, List.append_assoc _ _ _⟩, ⟨right, second, rfl⟩⟩

theorem suffix (consumes : Consumes tokens input rest) : rest <:+ input := by
  rcases consumes with ⟨text, -, rfl⟩
  exact List.suffix_append text rest

theorem trimStart_eq (consumes : Consumes [] input rest) : trimStart input = trimStart rest := by
  rcases consumes with ⟨text, spells, rfl⟩
  exact spells.trimStart_append rest

theorem exists_token (dark : token.Dark) (consumes : Consumes (token :: tokens) input rest) :
    ∃ after, trimStart input = token.chars ++ after ∧ Consumes tokens after rest := by
  rcases consumes with ⟨text, spells, rfl⟩
  rcases spells.exists_token dark with ⟨after, spelled, trims⟩
  exact ⟨after ++ rest, trims rest, after, spelled, rfl⟩

/-- Tokens are consumed by skipping white space in front of the first one. -/
theorem of_trimStart (trims : trimStart input = token.chars ++ rest) :
    Consumes [token] input rest := by
  have blanks : Spells [] (input.takeWhile isBlank) :=
    .of_blank fun c listed => List.all_eq_true.mp List.all_takeWhile c listed
  have text : Spells [token] (input.takeWhile isBlank ++ (token.chars ++ [])) :=
    blanks.append (.token token .nil)
  refine ⟨_, text, ?_⟩
  rw [List.append_nil, List.append_assoc, ← trims]
  exact List.takeWhile_append_dropWhile.symm

end Consumes

/-! ## Types -/

section Types

variable (scope : List String)

mutual

/-- A sequence of tokens stands for a type, in which the names in scope are variables. -/
inductive Denotes : List Token → TypeExpr → Prop
  | var
      {name : String}
      (isName : QualifiedName name.toList)
      (inScope : name ∈ scope) :
      Denotes [.name name] (.var name)
  | atom
      {name : String}
      (isName : QualifiedName name.toList)
      (outside : name ∉ scope) :
      Denotes [.name name] (.con name [])
  | applied
      {name : String}
      {tokens : List Token}
      {arguments : List TypeExpr}
      (isName : QualifiedName name.toList)
      (listed : DenotesList tokens arguments) :
      Denotes (.name name :: .less :: (tokens ++ [.greater])) (.con name arguments)
  | thunk
      {tokens : List Token}
      {result : TypeExpr}
      (output : Denotes tokens result) :
      Denotes (.name "fn" :: .opening :: .closing :: .becomes :: tokens) (.arrow [] result)
  | function
      {tokens others : List Token}
      {parameters : List TypeExpr}
      {result : TypeExpr}
      (inputs : DenotesList tokens parameters)
      (output : Denotes others result) :
      Denotes (.name "fn" :: .opening :: (tokens ++ .closing :: .becomes :: others))
        (.arrow parameters result)
  | group
      {tokens : List Token}
      {type : TypeExpr}
      (inner : Denotes tokens type) :
      Denotes (.opening :: (tokens ++ [.closing])) type
  | tuple
      {tokens : List Token}
      {first second : TypeExpr}
      {others : List TypeExpr}
      (listed : DenotesList tokens (first :: second :: others)) :
      Denotes (.opening :: (tokens ++ [.closing]))
        (.con ("Tuple" ++ toString (others.length + 2)) (first :: second :: others))

/-- A sequence of tokens stands for one or more types, separated by commas. -/
inductive DenotesList : List Token → List TypeExpr → Prop
  | one
      {tokens : List Token}
      {type : TypeExpr}
      (item : Denotes tokens type) :
      DenotesList tokens [type]
  | more
      {tokens others : List Token}
      {type : TypeExpr}
      {types : List TypeExpr}
      (item : Denotes tokens type)
      (items : DenotesList others types) :
      DenotesList (tokens ++ .comma :: others) (type :: types)

end

end Types

end DataDerive.TypeExpr
