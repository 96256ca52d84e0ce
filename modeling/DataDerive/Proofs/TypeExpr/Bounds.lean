import DataDerive.Proofs.TypeExpr.Reading

/-!
# Where reading ends

Every reading step ends at an end of the text that it was given, and so does a
step that fails: `Within`.  A step that reads a part of a type first passes a
token, so the parts of a type are read from shorter texts.

The reader carries bounds on how deep types nest and on how many items a list
has.  Once a bound is above the length of the text it makes no difference, so
the bounds that are used are never reached.
-/

namespace DataDerive.TypeExpr

open Text

/-! ## Tokens and paths -/

theorem append_of_dropToken
    {token input rest : List Char}
    (drops : dropToken token input = some rest) :
    input = token ++ rest := by
  fun_induction dropToken token input with
  | case1 => simpa using drops
  | case2 => cases drops
  | case3 t token input ih =>
      rw [ih drops]
      rfl
  | case4 => cases drops

theorem dropToken_append (token rest : List Char) :
    dropToken token (token ++ rest) = some rest := by
  induction token with
  | nil => rfl
  | cons t token ih =>
      rw [List.cons_append, dropToken, if_pos rfl]
      exact ih

theorem afterToken?_eq_some_iff {token input rest : List Char} :
    afterToken? token input = some rest ↔ trimStart input = token ++ rest := by
  constructor
  · exact append_of_dropToken
  · intro trims
    rw [afterToken?, trims, dropToken_append]

theorem afterToken_eq_ok_iff {token : String} {input rest : List Char} :
    afterToken token input = .ok rest ↔ afterToken? token.toList input = some rest := by
  rw [afterToken]
  cases afterToken? token.toList input <;> simp

theorem suffix_of_afterToken?
    {token input rest : List Char}
    (found : afterToken? token input = some rest) :
    rest <:+ input := by
  apply List.IsSuffix.trans _ (trimStart_suffix input)
  rw [afterToken?_eq_some_iff.mp found]
  exact List.suffix_append token rest

/-- A token takes at least one character. -/
theorem length_lt_of_afterToken?
    {c : Char}
    {token input rest : List Char}
    (found : afterToken? (c :: token) input = some rest) :
    rest.length < input.length := by
  have shorter := (trimStart_suffix input).length_le
  rw [afterToken?_eq_some_iff.mp found, List.length_append, List.length_cons] at shorter
  omega

theorem append_of_readPathFrom
    {inside : Bool}
    {input path rest : List Char}
    (reads : readPathFrom inside input = .ok (path, rest)) :
    input = path ++ rest := by
  fun_induction readPathFrom inside input generalizing path with
  | case1 => cases reads
  | case2 c input starts ih =>
      rcases consRead_eq_ok_iff.mp reads with ⟨tail, onward, rfl⟩
      rw [ih onward]
      rfl
  | case3 => cases reads
  | case4 =>
      cases reads
      rfl
  | case5 input ih =>
      rcases consRead_eq_ok_iff.mp reads with ⟨colon, onward, rfl⟩
      rcases consRead_eq_ok_iff.mp onward with ⟨tail, after, rfl⟩
      rw [ih after]
      rfl
  | case6 c input _ continues ih =>
      rcases consRead_eq_ok_iff.mp reads with ⟨tail, onward, rfl⟩
      rw [ih onward]
      rfl
  | case7 =>
      cases reads
      rfl

/-- A path has at least one character. -/
theorem length_lt_of_readPath
    {input path rest : List Char}
    (reads : readPath input = .ok (path, rest)) :
    rest.length < input.length := by
  have shorter := (trimStart_suffix input).length_le
  rw [append_of_readPathFrom reads, List.length_append] at shorter
  cases pathFrom_of_readPathFrom reads with
  | start =>
      rw [List.length_cons] at shorter
      omega

/-! ## Ends of a text -/

section Within

variable {α β : Type} {input middle : List Char}

/-- A step ends at an end of a text, whether it fails or not. -/
def Within (input : List Char) : Reading (α × List Char) → Prop
  | .ok (_, rest) => rest <:+ input
  | .error failure => failure.rest <:+ input

theorem Within.mono
    {reading : Reading (α × List Char)}
    (within : Within middle reading)
    (suffix : middle <:+ input) :
    Within input reading := by
  cases reading with
  | error failure => exact List.IsSuffix.trans within suffix
  | ok result => exact List.IsSuffix.trans within suffix

theorem Within.suffix
    {reading : Reading (α × List Char)}
    (within : Within input reading)
    {value : α}
    {rest : List Char}
    (reads : reading = .ok (value, rest)) :
    rest <:+ input := by
  rw [reads] at within
  exact within

theorem Within.bind
    {step : Reading (α × List Char)}
    {next : α × List Char → Reading (β × List Char)}
    (first : Within input step)
    (onward : ∀ value rest, step = .ok (value, rest) → Within rest (next (value, rest))) :
    Within input (step >>= next) := by
  cases step with
  | error failure => exact first
  | ok result => exact (onward result.1 result.2 rfl).mono first

theorem within_afterToken_bind
    {token : String}
    {next : List Char → Reading (β × List Char)}
    (onward : ∀ rest, Within rest (next rest)) :
    Within input (afterToken token input >>= next) := by
  rw [afterToken]
  cases found : afterToken? token.toList input with
  | none => exact trimStart_suffix input
  | some rest => exact (onward rest).mono (suffix_of_afterToken? found)

theorem within_consRead
    {c : Char}
    {reading : Reading (List Char × List Char)}
    (within : Within input reading) :
    Within input (consRead c reading) := by
  cases reading with
  | error failure => exact within
  | ok result => exact within

theorem within_readPathFrom (inside : Bool) (input : List Char) :
    Within input (readPathFrom inside input) := by
  fun_induction readPathFrom inside input with
  | case1 => exact List.suffix_refl _
  | case2 c input starts ih => exact (within_consRead ih).mono (List.suffix_cons c input)
  | case3 => exact List.suffix_refl _
  | case4 => exact List.suffix_refl _
  | case5 input ih =>
      exact (within_consRead (within_consRead ih)).mono
        ((List.suffix_cons ':' input).trans (List.suffix_cons ':' (':' :: input)))
  | case6 c input _ continues ih => exact (within_consRead ih).mono (List.suffix_cons c input)
  | case7 => exact List.suffix_refl _

theorem within_readPath (input : List Char) : Within input (readPath input) :=
  (within_readPathFrom false _).mono (trimStart_suffix input)

end Within

section Lists

variable {item other : List Char → Reading (TypeExpr × List Char)} {close : String}

theorem within_readMore
    (items : ∀ input, Within input (item input))
    (budget : Nat)
    (input : List Char) :
    Within input (readMore item close budget input) := by
  induction budget generalizing input with
  | zero => exact trimStart_suffix input
  | succ budget ih =>
      rw [readMore]
      split
      next rest found => exact suffix_of_afterToken? found
      next =>
        apply within_afterToken_bind
        intro afterComma
        apply (items afterComma).bind
        intro first left _
        apply (ih left).bind
        intro others last _
        exact List.suffix_refl last

theorem within_readList (items : ∀ input, Within input (item input)) (input : List Char) :
    Within input (readList item close input) := by
  rw [readList]
  split
  next rest found => exact suffix_of_afterToken? found
  next =>
    apply (items input).bind
    intro first left _
    apply (within_readMore items _ left).bind
    intro others last _
    exact List.suffix_refl last

theorem within_ofParenthesized (items : List TypeExpr) (rest : List Char) :
    Within rest (ofParenthesized items rest) := by
  rw [ofParenthesized.eq_def]
  split
  next => exact List.suffix_refl rest
  next => exact List.suffix_refl rest
  next => exact List.suffix_refl rest

theorem within_readAt (scope : List String) (budget : Nat) (input : List Char) :
    Within input (readAt scope budget input) := by
  induction budget generalizing input with
  | zero => exact trimStart_suffix input
  | succ budget ih =>
      rw [readAt]
      split
      next inner found =>
        apply Within.mono _ (suffix_of_afterToken? found)
        apply (within_readList ih inner).bind
        intro items left _
        exact within_ofParenthesized items left
      next =>
        apply (within_readPath input).bind
        intro path left _
        dsimp only
        split
        next _ _ inner found _ =>
          apply Within.mono _ (suffix_of_afterToken? found)
          apply (within_readList ih inner).bind
          intro parameters middle _
          apply within_afterToken_bind
          intro target
          apply (ih target).bind
          intro result last _
          exact List.suffix_refl last
        next =>
          split
          next inner found =>
            apply Within.mono _ (suffix_of_afterToken? found)
            apply (within_readList ih inner).bind
            intro arguments last _
            dsimp only
            split
            next => exact List.suffix_refl last
            next => exact List.suffix_refl last
          next => exact List.suffix_refl left

/-! ## Bounds that are not reached -/

theorem Reading.bind_congr
    {α β : Type}
    {step : Reading α}
    {next other : α → Reading β}
    (same : ∀ value, step = .ok value → next value = other value) :
    step >>= next = step >>= other := by
  cases step with
  | error failure => rfl
  | ok value => exact same value rfl

/-- Two readers of items that agree on shorter texts read the same lists, whatever the bounds. -/
theorem readMore_congr
    (items : ∀ input, Within input (item input))
    {budget bound : Nat}
    {input : List Char}
    (enough : input.length < budget)
    (ample : input.length < bound)
    (agree : ∀ rest, rest.length ≤ input.length → item rest = other rest) :
    readMore item close budget input = readMore other close bound input := by
  induction budget generalizing bound input with
  | zero => exact absurd enough (Nat.not_lt_zero _)
  | succ budget ih =>
      rcases Nat.exists_eq_add_of_lt ample with ⟨slack, rfl⟩
      rw [readMore, readMore]
      split
      next => rfl
      next =>
        apply Reading.bind_congr
        intro afterComma comma
        have shorter : afterComma.length < input.length :=
          length_lt_of_afterToken? (afterToken_eq_ok_iff.mp comma)
        rw [agree afterComma (Nat.le_of_lt shorter)]
        apply Reading.bind_congr
        rintro ⟨first, left⟩ firstRead
        rw [← agree afterComma (Nat.le_of_lt shorter)] at firstRead
        have leftShorter := ((items afterComma).suffix firstRead).length_le
        have onward :
            readMore item close budget left = readMore other close (input.length + slack) left :=
          ih (by omega) (by omega) fun rest below => agree rest (by omega)
        dsimp only
        rw [onward]

theorem readList_congr
    (items : ∀ input, Within input (item input))
    {input : List Char}
    (agree : ∀ rest, rest.length ≤ input.length → item rest = other rest) :
    readList item close input = readList other close input := by
  rw [readList, readList, agree input (Nat.le_refl _)]
  split
  next => rfl
  next =>
    apply Reading.bind_congr
    rintro ⟨first, left⟩ firstRead
    rw [← agree input (Nat.le_refl _)] at firstRead
    have shorter := ((items input).suffix firstRead).length_le
    dsimp only
    rw [readMore_congr items (Nat.lt_succ_self _) (Nat.lt_succ_self _)
      fun rest below => agree rest (by omega)]

/-- Any two bounds above the length of a text give the same. -/
theorem readAt_stable
    (scope : List String)
    {budget bound : Nat}
    {input : List Char}
    (enough : input.length < budget)
    (ample : input.length < bound) :
    readAt scope budget input = readAt scope bound input := by
  induction budget generalizing bound input with
  | zero => exact absurd enough (Nat.not_lt_zero _)
  | succ budget ih =>
      rcases Nat.exists_eq_add_of_lt ample with ⟨slack, rfl⟩
      have lists (close : String) {inner : List Char} (shorter : inner.length < input.length) :
          readList (readAt scope budget) close inner =
            readList (readAt scope (input.length + slack)) close inner :=
        readList_congr (within_readAt scope budget) fun rest below => ih (by omega) (by omega)
      rw [readAt, readAt]
      split
      next inner found => rw [lists ")" (length_lt_of_afterToken? found)]
      next =>
        apply Reading.bind_congr
        rintro ⟨path, left⟩ pathRead
        have pathShorter := length_lt_of_readPath pathRead
        dsimp only
        split
        next _ _ inner found _ =>
          have shorter := length_lt_of_afterToken? found
          rw [lists ")" (by omega)]
          apply Reading.bind_congr
          rintro ⟨parameters, middle⟩ parametersRead
          apply Reading.bind_congr
          intro target arrow
          have middleShorter :=
            ((within_readList (within_readAt scope _) inner).suffix parametersRead).length_le
          have targetShorter : target.length < middle.length :=
            length_lt_of_afterToken? (afterToken_eq_ok_iff.mp arrow)
          have result :
              readAt scope budget target = readAt scope (input.length + slack) target :=
            ih (by omega) (by omega)
          rw [result]
        next =>
          split
          next inner found =>
            have shorter := length_lt_of_afterToken? found
            rw [lists ">" (by omega)]
          next => rfl

end Lists

end DataDerive.TypeExpr
