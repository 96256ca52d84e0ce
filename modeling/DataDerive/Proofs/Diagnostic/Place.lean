import DataDerive.Diagnostic.Report
import DataDerive.Proofs.FreshNames
import Mathlib.Data.List.TakeWhile
import Mathlib.Data.String.Basic

/-!
# Positions in the source

A report names a place by the line and the column at which its span starts.  The
characters before the start are stepped over one after the other, whatever their
number of bytes, and every step goes forward: to the next line or to the next
column.  So the positions between the characters of a text are in the order of their
offsets, and no two of them are reported alike.

Lines and columns are counted in thirty-two bits, as offsets are.  But they start at
one, so the last offset can have a line or a column for which there is no number.
This happens at the end of a longest text only, if it is one line of characters of
one byte or if it has nothing but line feeds.  The counter is at zero then.
-/

namespace DataDerive

namespace Position

/-- A position is on an earlier line, or further to the left on the same line. -/
def Before (first second : Position) : Prop :=
  first.line < second.line ∨ first.line = second.line ∧ first.column < second.column

instance (first second : Position) : Decidable (first.Before second) :=
  inferInstanceAs (Decidable (_ ∨ _ ∧ _))

theorem Before.ne {first second : Position} (before : first.Before second) : first ≠ second := by
  rintro rfl
  rw [Before] at before
  omega

/-- The line after a text, counted from one. -/
def lineAfter (text : List Char) : Nat :=
  1 + text.count '\n'

/-- The column after a text, counted from one by the characters since the last line feed. -/
def columnAfter (text : List Char) : Nat :=
  1 + (text.reverse.takeWhile (· ≠ '\n')).length

theorem lineAfter_concat (text : List Char) (c : Char) :
    lineAfter (text ++ [c]) = lineAfter text + if c = '\n' then 1 else 0 := by
  rw [lineAfter, lineAfter, List.count_append, List.count_singleton, Nat.add_assoc]
  simp only [beq_iff_eq]

theorem columnAfter_concat (text : List Char) (c : Char) :
    columnAfter (text ++ [c]) = if c = '\n' then 1 else columnAfter text + 1 := by
  rw [columnAfter, columnAfter, List.reverse_append]
  by_cases feeds : c = '\n'
  · simp [feeds]
  · simp [feeds, Nat.add_assoc]

/-- One text ends on an earlier line than another, or further to the left on the same line. -/
def Ahead (first second : List Char) : Prop :=
  lineAfter first < lineAfter second ∨
    lineAfter first = lineAfter second ∧ columnAfter first < columnAfter second

theorem Ahead.trans
    {first second third : List Char}
    (one : Ahead first second)
    (other : Ahead second third) :
    Ahead first third := by
  rw [Ahead] at one other ⊢
  omega

/-- Every character leads to the next line or to the next column. -/
theorem ahead_concat (text : List Char) (c : Char) : Ahead text (text ++ [c]) := by
  rw [Ahead, lineAfter_concat, columnAfter_concat]
  split
  next => exact .inl (Nat.lt_succ_self _)
  next => exact .inr ⟨rfl, Nat.lt_succ_self _⟩

theorem ahead_append_cons (text : List Char) (c : Char) (more : List Char) :
    Ahead text (text ++ c :: more) := by
  induction more generalizing text c with
  | nil => exact ahead_concat text c
  | cons next more ih =>
      have onward := ih (text ++ [c]) next
      rw [List.append_assoc] at onward
      exact (ahead_concat text c).trans onward

/-! ## Counting in thirty-two bits -/

/-- The position after a text. -/
def after (text : List Char) : Position :=
  text.foldl step first

theorem after_concat (text : List Char) (c : Char) : after (text ++ [c]) = (after text).step c :=
  List.foldl_concat ..

/-- The counters are those of all lines and columns, less the numbers that there are not. -/
theorem after_eq (text : List Char) :
    after text = ⟨UInt32.ofNat (lineAfter text), UInt32.ofNat (columnAfter text)⟩ := by
  induction text using List.reverseRecOn with
  | nil => rfl
  | append_singleton text c ih =>
      rw [after_concat, ih, lineAfter_concat, columnAfter_concat, step]
      by_cases feeds : c = '\n'
      · rw [if_pos feeds, if_pos feeds, if_pos feeds, UInt32.ofNat_add]
        rfl
      · rw [if_neg feeds, if_neg feeds, if_neg feeds, UInt32.ofNat_add (columnAfter text)]
        rfl

theorem line_after (text : List Char) : (after text).line = lineAfter text % UInt32.size := by
  rw [line, after_eq, UInt32.toNat_ofNat']

theorem column_after (text : List Char) :
    (after text).column = columnAfter text % UInt32.size := by
  rw [column, after_eq, UInt32.toNat_ofNat']

/-- There are numbers of thirty-two bits for the line and the column after a text. -/
def HasNumbers (text : List Char) : Prop :=
  lineAfter text < UInt32.size ∧ columnAfter text < UInt32.size

theorem before_after_iff_ahead
    {first second : List Char}
    (firstHas : HasNumbers first)
    (secondHas : HasNumbers second) :
    (after first).Before (after second) ↔ Ahead first second := by
  rw [Before, Ahead, line_after, line_after, column_after, column_after,
    Nat.mod_eq_of_lt firstHas.1, Nat.mod_eq_of_lt firstHas.2, Nat.mod_eq_of_lt secondHas.1,
    Nat.mod_eq_of_lt secondHas.2]

/-! ## Texts of which the numbers run out -/

/-- A character takes at least one byte. -/
theorem length_le_utf8Len (text : List Char) : text.length ≤ String.utf8Len text := by
  induction text with
  | nil => exact Nat.zero_le _
  | cons c text ih =>
      rw [List.length_cons, String.utf8Len_cons]
      exact Nat.add_le_add ih c.utf8Size_pos

theorem length_takeWhile_le (text : List Char) :
    (text.reverse.takeWhile (· ≠ '\n')).length ≤ text.length := by
  rw [← @List.length_reverse _ text]
  exact (List.takeWhile_sublist _).length_le

theorem hasNumbers_of_lt {text : List Char} (short : String.utf8Len text + 1 < UInt32.size) :
    HasNumbers text := by
  have characters := length_le_utf8Len text
  have feeds : text.count '\n' ≤ text.length := List.count_le_length
  have columns := length_takeWhile_le text
  rw [HasNumbers, lineAfter, columnAfter]
  omega

/-- The text is one line. -/
theorem length_takeWhile_eq_iff {text : List Char} :
    (text.reverse.takeWhile (· ≠ '\n')).length = text.length ↔ '\n' ∉ text := by
  rw [← @List.length_reverse _ text, ← List.mem_reverse]
  have line_iff : text.reverse.takeWhile (· ≠ '\n') = text.reverse ↔ '\n' ∉ text.reverse := by
    rw [List.takeWhile_eq_self_iff]
    simp only [decide_eq_true_eq]
    exact ⟨fun other feeds => other _ feeds rfl, fun line c listed same => line (same ▸ listed)⟩
  rw [← line_iff]
  exact ⟨(List.takeWhile_prefix _).eq_of_length, congrArg List.length⟩

/-- A longest text is one line of characters of one byte, or has nothing but line feeds. -/
def Exhausts (text : List Char) : Prop :=
  String.utf8Len text + 1 = UInt32.size ∧
    (text.length = String.utf8Len text ∧ '\n' ∉ text ∨
      text.count '\n' = String.utf8Len text)

theorem not_hasNumbers_iff {text : List Char} (short : String.utf8Len text < UInt32.size) :
    ¬ HasNumbers text ↔ Exhausts text := by
  have characters := length_le_utf8Len text
  have feeds : text.count '\n' ≤ text.length := List.count_le_length
  have columns := length_takeWhile_le text
  rw [HasNumbers, lineAfter, columnAfter, not_and_or, Nat.not_lt, Nat.not_lt]
  constructor
  · rintro (lines | wide)
    · exact ⟨by omega, .inr (by omega)⟩
    · exact ⟨by omega, .inl ⟨by omega, length_takeWhile_eq_iff.mp (by omega)⟩⟩
  · rintro ⟨longest, ⟨bytes, line⟩ | lines⟩
    · right
      rw [length_takeWhile_eq_iff.mpr line]
      omega
    · left
      omega

/-- A counter that has run out is at zero, and that of the lines is at one if it has not. -/
theorem Exhausts.after_eq {text : List Char} (exhausts : Exhausts text) :
    (after text).line = 1 ∧ (after text).column = 0 ∧ '\n' ∉ text ∨ (after text).line = 0 := by
  rcases exhausts with ⟨longest, ⟨bytes, line⟩ | lines⟩
  · left
    rw [line_after, column_after, lineAfter, columnAfter, length_takeWhile_eq_iff.mpr line, bytes,
      Nat.add_comm 1 (String.utf8Len text), longest, Nat.mod_self, List.count_eq_zero.mpr line]
    exact ⟨rfl, rfl, line⟩
  · right
    rw [line_after, lineAfter, lines, Nat.add_comm, longest, Nat.mod_self]

/-- Where the counters have numbers they are not at zero. -/
theorem HasNumbers.pos {text : List Char} (has : HasNumbers text) :
    0 < (after text).line ∧ 0 < (after text).column := by
  rw [line_after, column_after, Nat.mod_eq_of_lt has.1, Nat.mod_eq_of_lt has.2, lineAfter,
    columnAfter]
  omega

section Longer

variable {text more : List Char} {c : Char}

theorem hasNumbers_of_append_cons
    (short : String.utf8Len (text ++ c :: more) < UInt32.size) :
    HasNumbers text := by
  have wide := c.utf8Size_pos
  rw [String.utf8Len_append, String.utf8Len_cons] at short
  exact hasNumbers_of_lt (by omega)

/-- A longer text ends later as long as there are numbers. -/
theorem before_after_iff (short : String.utf8Len (text ++ c :: more) < UInt32.size) :
    (after text).Before (after (text ++ c :: more)) ↔ HasNumbers (text ++ c :: more) := by
  have has := hasNumbers_of_append_cons short
  refine ⟨fun before => ?_, fun longerHas => ?_⟩
  · by_contra none
    have positive := has.pos
    rw [Before] at before
    rcases ((not_hasNumbers_iff short).mp none).after_eq with ⟨line, column, -⟩ | line
    · omega
    · omega
  · exact (before_after_iff_ahead has longerHas).mpr (ahead_append_cons text c more)

theorem after_ne (short : String.utf8Len (text ++ c :: more) < UInt32.size) :
    after text ≠ after (text ++ c :: more) := by
  by_cases longerHas : HasNumbers (text ++ c :: more)
  · exact ((before_after_iff short).mpr longerHas).ne
  · intro same
    have positive := (hasNumbers_of_append_cons short).pos
    rw [same] at positive
    rcases ((not_hasNumbers_iff short).mp longerHas).after_eq with ⟨-, column, -⟩ | line
    · omega
    · omega

end Longer

/-! ## Walking to an offset -/

/-- The walk to an offset between two characters steps over exactly those before it. -/
theorem advance_append
    {offset index : Nat}
    {before : List Char}
    (reaches : index + String.utf8Len before = offset)
    (position : Position)
    (rest : List Char) :
    advance offset index position (before ++ rest) = before.foldl step position := by
  induction before generalizing index position with
  | nil =>
      cases rest with
      | nil => rfl
      | cons c rest => exact if_pos (Nat.le_of_eq reaches.symm)
  | cons c before ih =>
      rw [String.utf8Len_cons] at reaches
      have sooner : ¬ offset ≤ index := by
        have wide := c.utf8Size_pos
        omega
      rw [List.cons_append, advance, if_neg sooner, ih (by omega), List.foldl_cons]

/-- The walk to an offset that is not before the end steps over everything. -/
theorem advance_of_le
    {offset index : Nat}
    {text : List Char}
    (beyond : index + String.utf8Len text ≤ offset)
    (position : Position) :
    advance offset index position text = text.foldl step position := by
  induction text generalizing index position with
  | nil => rfl
  | cons c text ih =>
      rw [String.utf8Len_cons] at beyond
      have sooner : ¬ offset ≤ index := by
        have wide := c.utf8Size_pos
        omega
      rw [advance, if_neg sooner, ih (by omega), List.foldl_cons]

end Position

namespace Span

/-- A text is what stands before a span in a source text. -/
def Follows (source : String) (span : Span) (before : String) : Prop :=
  ∃ rest : String, source = before ++ rest ∧ before.utf8ByteSize = span.start

/-- A span starts between two characters of a text or at one of its ends. -/
def StartsIn (source : String) (span : Span) : Prop :=
  (⟨span.start⟩ : String.Pos.Raw).IsValid source

variable {source before longer : String} {span left right : Span}

theorem startsIn_iff : span.StartsIn source ↔ ∃ before, span.Follows source before := by
  rw [StartsIn, String.Pos.Raw.isValid_iff_exists_append]
  simp only [Follows, String.Pos.Raw.ext_iff, String.byteIdx_rawEndPos, eq_comm]

theorem utf8Len_toList (text : String) : String.utf8Len text.toList = text.utf8ByteSize := by
  rw [← String.utf8ByteSize_ofList, String.ofList_toList]

theorem Follows.position_eq (follows : span.Follows source before) :
    span.position source = Position.after before.toList := by
  rcases follows with ⟨rest, splits, starts⟩
  have size : 0 + String.utf8Len before.toList = span.start := by
    rw [Nat.zero_add, utf8Len_toList, starts]
  rw [position, splits, String.toList_append]
  exact Position.advance_append size Position.first rest.toList

theorem Follows.size_le (follows : span.Follows source before) :
    before.utf8ByteSize ≤ source.utf8ByteSize := by
  rcases follows with ⟨rest, rfl, -⟩
  rw [String.utf8ByteSize_append]
  exact Nat.le_add_right _ _

/-- A span that starts at the end or beyond is reported at the end. -/
theorem position_of_le (beyond : source.utf8ByteSize ≤ span.start) :
    span.position source = Position.after source.toList := by
  refine Position.advance_of_le ?_ Position.first
  rwa [Nat.zero_add, utf8Len_toList]

/-- Of two texts before spans the one before the earlier span is a part of the other. -/
theorem Follows.exists_append
    (leftFollows : left.Follows source before)
    (rightFollows : right.Follows source longer)
    (sooner : left.start < right.start) :
    ∃ c more, longer.toList = before.toList ++ c :: more := by
  rcases leftFollows with ⟨rest, splits, starts⟩
  rcases rightFollows with ⟨ending, splitsToo, startsLater⟩
  have lists := congrArg String.toList (splits.symm.trans splitsToo)
  rw [String.toList_append, String.toList_append] at lists
  rcases List.append_eq_append_iff.mp lists with ⟨part, whole, -⟩ | ⟨part, whole, -⟩
  · cases part with
    | nil =>
        rw [List.append_nil] at whole
        rw [String.toList_injective whole] at startsLater
        omega
    | cons c more => exact ⟨c, more, whole⟩
  · have size := congrArg String.utf8Len whole
    rw [String.utf8Len_append, utf8Len_toList, utf8Len_toList] at size
    omega

section Short

variable (short : source.utf8ByteSize < UInt32.size)

include short

theorem Follows.utf8Len_lt (follows : span.Follows source before) :
    String.utf8Len before.toList < UInt32.size := by
  rw [utf8Len_toList]
  exact Nat.lt_of_le_of_lt follows.size_le short

theorem Follows.before_iff
    (leftFollows : left.Follows source before)
    (rightFollows : right.Follows source longer)
    (sooner : left.start < right.start) :
    (left.position source).Before (right.position source) ↔
      ¬ Position.Exhausts longer.toList := by
  have bound := rightFollows.utf8Len_lt short
  rw [← Position.not_hasNumbers_iff bound, not_not, leftFollows.position_eq,
    rightFollows.position_eq]
  rcases leftFollows.exists_append rightFollows sooner with ⟨c, more, whole⟩
  rw [whole] at bound ⊢
  exact Position.before_after_iff bound

theorem position_ne
    (leftStarts : left.StartsIn source)
    (rightStarts : right.StartsIn source)
    (sooner : left.start < right.start) :
    left.position source ≠ right.position source := by
  rcases startsIn_iff.mp leftStarts with ⟨before, leftFollows⟩
  rcases startsIn_iff.mp rightStarts with ⟨longer, rightFollows⟩
  have bound := rightFollows.utf8Len_lt short
  rcases leftFollows.exists_append rightFollows sooner with ⟨c, more, whole⟩
  rw [leftFollows.position_eq, rightFollows.position_eq]
  rw [whole] at bound ⊢
  exact Position.after_ne bound

end Short

/-! ## The text of a place -/

theorem colon_notMem_toString (number : Nat) : ':' ∉ (toString number).toList := by
  intro listed
  rw [Nat.toString_eq_repr, Nat.toList_repr] at listed
  exact absurd (Nat.isDigit_of_mem_toDigits (by decide) (by decide) listed) (by decide)

/-- The text of a place tells its line and its column. -/
theorem position_eq_of_placeText_eq
    {path : String}
    (same : left.placeText (some ⟨path, source⟩) = right.placeText (some ⟨path, source⟩)) :
    left.position source = right.position source := by
  have lists := congrArg String.toList same
  simp only [placeText, String.toList_append, List.append_assoc] at lists
  have numbers := List.append_cancel_left (List.append_cancel_left lists)
  have columns : (toString (left.position source).column).toList =
      (toString (right.position source).column).toList :=
    FreshNames.eq_of_append_mark_eq (colon_notMem_toString (left.position source).line)
      (colon_notMem_toString (right.position source).line) numbers
  rw [columns] at numbers
  have lines := List.append_cancel_right numbers
  have sameLine := Nat.repr_injective (String.toList_injective lines)
  have sameColumn := Nat.repr_injective (String.toList_injective columns)
  exact congrArg₂ Position.mk (UInt32.toNat_inj.mp sameLine) (UInt32.toNat_inj.mp sameColumn)

/-! ## The order of positions -/

/--
In a text whose offsets have room in thirty-two bits the positions of spans follow
the offsets at which they start.  Of two spans that start between characters, the one
that starts first has the earlier position, unless there is no number for the line or
the column of the other one.  That is so at the end of a longest text only, which is
one line of characters of one byte or has nothing but line feeds.  The line of a
position is one more than the number of line feeds before it, and its column one more
than the number of characters since the last of them; where there is no number for it
the counter is at zero.  What starts beyond the end is reported at the end, and spans
that start at different places of a text are never reported alike, also not as a text.
-/
theorem position_ordered (source : String) (short : source.utf8ByteSize < UInt32.size) :
    (∀ left right : Span, ∀ before : String, left.StartsIn source → right.Follows source before →
      left.start < right.start →
        ((left.position source).Before (right.position source) ↔
          ¬ (right.start + 1 = UInt32.size ∧
            (before.toList.length = right.start ∧ '\n' ∉ before.toList ∨
              before.toList.count '\n' = right.start)))) ∧
    (∀ span : Span, span.StartsIn source → ∃ before, span.Follows source before ∧
      (span.position source).line = (1 + before.toList.count '\n') % UInt32.size ∧
      (span.position source).column =
        (1 + (before.toList.reverse.takeWhile (· ≠ '\n')).length) % UInt32.size) ∧
    (∀ span : Span, source.utf8ByteSize ≤ span.start →
      span.position source =
        (⟨source.utf8ByteSize, source.utf8ByteSize⟩ : Span).position source) ∧
    ∀ left right : Span, left.StartsIn source → right.StartsIn source →
      left.start ≠ right.start →
        left.position source ≠ right.position source ∧
          ∀ path : String,
            left.placeText (some ⟨path, source⟩) ≠ right.placeText (some ⟨path, source⟩) := by
  refine ⟨fun left right before leftStarts rightFollows sooner => ?_, fun span starts => ?_,
    fun span beyond => ?_, fun left right leftStarts rightStarts apart => ?_⟩
  · rcases startsIn_iff.mp leftStarts with ⟨text, leftFollows⟩
    have size : String.utf8Len before.toList = right.start := by
      rcases rightFollows with ⟨-, -, starts⟩
      rw [utf8Len_toList, starts]
    rw [leftFollows.before_iff short rightFollows sooner, Position.Exhausts, size]
  · rcases startsIn_iff.mp starts with ⟨before, follows⟩
    refine ⟨before, follows, ?_, ?_⟩
    · rw [follows.position_eq, Position.line_after, Position.lineAfter]
    · rw [follows.position_eq, Position.column_after, Position.columnAfter]
  · rw [position_of_le beyond, position_of_le (Nat.le_refl _)]
  · have different : left.position source ≠ right.position source := by
      rcases Nat.lt_or_gt_of_ne apart with sooner | later
      · exact position_ne short leftStarts rightStarts sooner
      · exact (position_ne short rightStarts leftStarts later).symm
    exact ⟨different, fun path same => different (position_eq_of_placeText_eq same)⟩

/-- A text with an empty line, and with characters of two and of four bytes. -/
def staves : String :=
  "é\n\n𝄞x"

theorem position_ordered_staves :
    staves.utf8ByteSize < UInt32.size ∧
      (⟨2, 3⟩ : Span).StartsIn staves ∧ (⟨8, 9⟩ : Span).Follows staves "é\n\n𝄞" ∧
      (⟨2, 3⟩ : Span).position staves = ⟨1, 2⟩ ∧ (⟨8, 9⟩ : Span).position staves = ⟨3, 2⟩ ∧
      ((⟨2, 3⟩ : Span).position staves).Before ((⟨8, 9⟩ : Span).position staves) ∧
      (⟨12, 12⟩ : Span).position staves = (⟨9, 9⟩ : Span).position staves ∧
      (⟨2, 3⟩ : Span).placeText (some ⟨"s", staves⟩) ≠
        (⟨8, 9⟩ : Span).placeText (some ⟨"s", staves⟩) := by
  have short : staves.utf8ByteSize < UInt32.size := by decide
  have early : (⟨2, 3⟩ : Span).StartsIn staves :=
    startsIn_iff.mpr ⟨"é", "\n\n𝄞x", by decide, by decide⟩
  have late : (⟨8, 9⟩ : Span).Follows staves "é\n\n𝄞" := ⟨"x", by decide, by decide⟩
  have law := position_ordered staves short
  have before := (law.1 _ _ _ early late (by decide)).mpr (by decide)
  exact ⟨short, early, late, by decide, by decide, before, law.2.2.1 ⟨12, 12⟩ (by decide),
    (law.2.2.2 _ _ early (startsIn_iff.mpr ⟨_, late⟩) (by decide)).2 "s"⟩

/-- A text of one line. -/
def oneLine (length : Nat) : String :=
  String.ofList (List.replicate length 'x')

theorem toList_oneLine (length : Nat) : (oneLine length).toList = List.replicate length 'x' := by
  rw [oneLine, String.toList_ofList]

theorem utf8ByteSize_oneLine (length : Nat) : (oneLine length).utf8ByteSize = length := by
  rw [← utf8Len_toList, toList_oneLine]
  induction length with
  | zero => rfl
  | succ length ih =>
      rw [List.replicate_succ, String.utf8Len_cons, ih]
      rfl

theorem follows_oneLine (length : Nat) :
    (⟨length, length⟩ : Span).Follows (oneLine length) (oneLine length) :=
  ⟨"", String.append_empty.symm, utf8ByteSize_oneLine length⟩

theorem feed_notMem_oneLine (length : Nat) : '\n' ∉ (oneLine length).toList := by
  rw [toList_oneLine]
  intro listed
  exact absurd (List.eq_of_mem_replicate listed) (by decide)

/-- The end of a line whose columns run out is at column zero. -/
theorem position_oneLine {length : Nat} (longest : length + 1 = UInt32.size) :
    (⟨length, length⟩ : Span).position (oneLine length) = ⟨1, 0⟩ := by
  rw [(follows_oneLine length).position_eq, Position.after_eq, Position.lineAfter,
    Position.columnAfter, List.count_eq_zero.mpr (feed_notMem_oneLine length),
    Position.length_takeWhile_eq_iff.mpr (feed_notMem_oneLine length), toList_oneLine,
    List.length_replicate, Nat.add_comm 1 length, longest]
  rfl

/--
The longest line has fewer bytes than there are offsets.  Its end is reported at column
zero, which is before all that stands in the line.
-/
theorem position_longest_line :
    (oneLine (UInt32.size - 1)).utf8ByteSize < UInt32.size ∧
      (⟨0, 0⟩ : Span).StartsIn (oneLine (UInt32.size - 1)) ∧
      (⟨UInt32.size - 1, UInt32.size - 1⟩ : Span).StartsIn (oneLine (UInt32.size - 1)) ∧
      (⟨0, 0⟩ : Span).position (oneLine (UInt32.size - 1)) = ⟨1, 1⟩ ∧
      (⟨UInt32.size - 1, UInt32.size - 1⟩ : Span).position (oneLine (UInt32.size - 1)) = ⟨1, 0⟩ ∧
      ¬ ((⟨0, 0⟩ : Span).position (oneLine (UInt32.size - 1))).Before
        ((⟨UInt32.size - 1, UInt32.size - 1⟩ : Span).position (oneLine (UInt32.size - 1))) := by
  have longest : UInt32.size - 1 + 1 = UInt32.size := by decide
  generalize UInt32.size - 1 = length at longest ⊢
  have start : (⟨0, 0⟩ : Span).Follows (oneLine length) "" :=
    ⟨oneLine length, String.empty_append.symm, rfl⟩
  have first : (⟨0, 0⟩ : Span).position (oneLine length) = ⟨1, 1⟩ := start.position_eq
  have last := position_oneLine longest
  refine ⟨?_, startsIn_iff.mpr ⟨_, start⟩, startsIn_iff.mpr ⟨_, follows_oneLine length⟩, first,
    last, ?_⟩
  · rw [utf8ByteSize_oneLine, ← longest]
    exact Nat.lt_succ_self length
  · rw [first, last]
    decide

end Span

end DataDerive
