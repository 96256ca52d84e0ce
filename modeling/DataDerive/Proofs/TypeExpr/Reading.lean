import DataDerive.Proofs.Fallible
import DataDerive.TypeExpr.Reader
import Mathlib.Tactic.ByContra
import Mathlib.Tactic.FinCases

/-!
# Steps of reading a type

What a step of the reader consumes, for tokens, paths and lists.  A path ends in
front of every character that is neither part of a segment nor a colon, and no
such character is white space, so a path can be read wherever it was written.  A
list of types is read with the same reader for each of its items; what that
reader promises of an item holds of all items.
-/

namespace DataDerive

namespace Text

/-- The code points that are white space. -/
def blankPoints : List Nat :=
  blankIntervals.flatMap fun interval => List.range' interval.1 (interval.2 + 1 - interval.1)

theorem toNat_mem_blankPoints {c : Char} (blank : isBlank c = true) : c.toNat ∈ blankPoints := by
  rw [isBlank, inIntervals_iff] at blank
  rcases blank with ⟨interval, listed, above, below⟩
  refine List.mem_flatMap.mpr ⟨interval, listed, ?_⟩
  rw [List.mem_range'_1]
  omega

/-- White space is neither a letter nor a number. -/
theorem isAlphanumeric_of_isBlank {c : Char} (blank : isBlank c = true) :
    isAlphanumeric c = false := by
  have points : ∀ point ∈ blankPoints, isAlphanumeric (Char.ofNat point) = false := by
    decide +kernel
  have dark := points c.toNat (toNat_mem_blankPoints blank)
  rwa [Char.ofNat_toNat] at dark

end Text

namespace TypeExpr

open Text

/-! ## Readings -/

namespace Reading

export Except (bind_eq_ok_iff)

end Reading

theorem consRead_eq_ok_iff
    {c : Char}
    {reading : Reading (List Char × List Char)}
    {read rest : List Char} :
    consRead c reading = .ok (read, rest) ↔
      ∃ tail, reading = .ok (tail, rest) ∧ c :: tail = read := by
  cases reading with
  | error failure => exact iff_of_false nofun fun ⟨_, impossible, _⟩ => nomatch impossible
  | ok result =>
      rcases result with ⟨tail, left⟩
      constructor
      · intro same
        cases same
        exact ⟨tail, rfl, rfl⟩
      · rintro ⟨other, same, rfl⟩
        cases same
        rfl

/-! ## Tokens -/

theorem afterToken?_blank
    {c : Char}
    (blank : isBlank c = true)
    (token input : List Char) :
    afterToken? token (c :: input) = afterToken? token input := by
  rw [afterToken?, afterToken?, trimStart_cons_blank blank]

theorem afterToken?_dark
    {c : Char}
    (dark : isBlank c = false)
    (t : Char)
    (input : List Char) :
    afterToken? [t] (c :: input) = if t = c then some input else none := by
  rw [afterToken?, trimStart_cons_dark dark]
  rfl

/-! ## Paths -/

/-- The characters of a path, from inside a segment (`true`) or before one (`false`). -/
inductive PathFrom : Bool → List Char → Prop
  | nil : PathFrom true []
  | start
      {c : Char}
      {rest : List Char}
      (starts : startsSegment c = true)
      (onward : PathFrom true rest) :
      PathFrom false (c :: rest)
  | next
      {c : Char}
      {rest : List Char}
      (continues : continuesSegment c = true)
      (onward : PathFrom true rest) :
      PathFrom true (c :: rest)
  | separator
      {rest : List Char}
      (onward : PathFrom false rest) :
      PathFrom true (':' :: ':' :: rest)

/-- A name that is a path. -/
def IsPath (name : String) : Prop :=
  PathFrom false name.toList

theorem continuesSegment_of_startsSegment {c : Char} (starts : startsSegment c = true) :
    continuesSegment c = true := by
  simp only [startsSegment, continuesSegment, Bool.or_eq_true, Bool.and_eq_true] at starts ⊢
  exact starts.imp_right And.left

theorem isBlank_of_continuesSegment {c : Char} (continues : continuesSegment c = true) :
    isBlank c = false := by
  by_contra blank
  rw [Bool.not_eq_false] at blank
  rw [continuesSegment, isAlphanumeric_of_isBlank blank, Bool.or_false, beq_iff_eq] at continues
  subst continues
  exact absurd blank (by decide)

/-- The characters that may follow a path in the text of a type. -/
def pathEnds : List Char :=
  [',', ')', '>', '<', '(']

theorem readPathFrom_of_ends
    {rest : List Char}
    (ends : ∀ c ∈ rest.head?, c ∈ pathEnds) :
    readPathFrom true rest = .ok ([], rest) := by
  cases rest with
  | nil => rfl
  | cons c tail =>
      have listed : c ∈ pathEnds := ends c rfl
      fin_cases listed <;> rfl

/-- A path is read to its end if nothing of what follows it continues it. -/
theorem readPathFrom_append_of_stops
    {inside : Bool}
    {path rest : List Char}
    (isPath : PathFrom inside path)
    (stops : readPathFrom true rest = .ok ([], rest)) :
    readPathFrom inside (path ++ rest) = .ok (path, rest) := by
  induction isPath with
  | nil => exact stops
  | start starts onward ih =>
      rw [List.cons_append, readPathFrom, if_pos starts, ih]
      rfl
  | @next c tail continues onward ih =>
      rw [List.cons_append, readPathFrom, if_pos continues, ih]
      · rfl
      · rintro colons rfl
        exact absurd continues (by decide)
  | separator onward ih =>
      rw [List.cons_append, List.cons_append, readPathFrom, ih]
      rfl

/-- What is read as a path is one. -/
theorem pathFrom_of_readPathFrom
    {inside : Bool}
    {input path rest : List Char}
    (reads : readPathFrom inside input = .ok (path, rest)) :
    PathFrom inside path := by
  fun_induction readPathFrom inside input generalizing path with
  | case1 => cases reads
  | case2 c input starts ih =>
      rcases consRead_eq_ok_iff.mp reads with ⟨tail, onward, rfl⟩
      exact .start starts (ih onward)
  | case3 => cases reads
  | case4 =>
      cases reads
      exact .nil
  | case5 input ih =>
      rcases consRead_eq_ok_iff.mp reads with ⟨colon, onward, rfl⟩
      rcases consRead_eq_ok_iff.mp onward with ⟨tail, after, rfl⟩
      exact .separator (ih after)
  | case6 c input _ continues ih =>
      rcases consRead_eq_ok_iff.mp reads with ⟨tail, onward, rfl⟩
      exact .next continues (ih onward)
  | case7 =>
      cases reads
      exact .nil

/-! ## Lists -/

section Lists

variable {item : List Char → Reading (TypeExpr × List Char)} {close : String}
variable {holds : TypeExpr → Prop} {types : List TypeExpr} {input rest : List Char}

theorem forall_of_readMore
    (one : ∀ input type rest, item input = .ok (type, rest) → holds type)
    {budget : Nat}
    (reads : readMore item close budget input = .ok (types, rest)) :
    ∀ type ∈ types, holds type := by
  induction budget generalizing input types with
  | zero => cases reads
  | succ budget ih =>
      rw [readMore] at reads
      split at reads
      next =>
        cases reads
        simp
      next =>
        rcases Reading.bind_eq_ok_iff.mp reads with ⟨afterComma, -, reads⟩
        rcases Reading.bind_eq_ok_iff.mp reads with ⟨⟨first, left⟩, firstRead, reads⟩
        rcases Reading.bind_eq_ok_iff.mp reads with ⟨⟨others, last⟩, othersRead, same⟩
        cases same
        rw [List.forall_mem_cons]
        exact ⟨one _ _ _ firstRead, ih othersRead⟩

/-- What every item promises holds of all items of a list that is read. -/
theorem forall_of_readList
    (one : ∀ input type rest, item input = .ok (type, rest) → holds type)
    (reads : readList item close input = .ok (types, rest)) :
    ∀ type ∈ types, holds type := by
  rw [readList] at reads
  split at reads
  next =>
    cases reads
    simp
  next =>
    rcases Reading.bind_eq_ok_iff.mp reads with ⟨⟨first, left⟩, firstRead, reads⟩
    rcases Reading.bind_eq_ok_iff.mp reads with ⟨⟨others, last⟩, othersRead, same⟩
    cases same
    rw [List.forall_mem_cons]
    exact ⟨one _ _ _ firstRead, forall_of_readMore one othersRead⟩

end Lists

end TypeExpr

end DataDerive
