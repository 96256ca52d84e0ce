import DataDerive.Json.Reader
import DataDerive.Json.Writer

/-!
# Reading what was written

The reader takes every text that the writer makes and gives back the value that
was written, whatever characters its strings and keys have.  Two things limit
this: what the reader refuses, which is deep nesting and numbers beyond its range,
and numbers that are kept as they were written, which may be written in more than
one way.

All statements are about what is left of a text: a written value is read and the
text after it remains.
-/

namespace DataDerive.Json

/-! ## Quoted strings -/

theorem hexValue?_hexDigit : ∀ value < 16, hexValue? (hexDigit value) = some value := by
  decide

theorem hexNumber?_hexDigits {value : Nat} (small : value < 65536) :
    hexNumber? (hexDigits value) = some value := by
  have digit (shifted : Nat) : hexValue? (hexDigit (shifted % 16)) = some (shifted % 16) :=
    hexValue?_hexDigit _ (Nat.mod_lt _ (by decide))
  simp only [hexDigits, hexNumber?, List.foldlM_cons, List.foldlM_nil, digit, Option.map_some,
    Option.bind_eq_bind, Option.bind_some, Option.pure_def, Option.some.injEq]
  omega

theorem toNat_lt_of_isControl {c : Char} (control : isControl c = true) : c.toNat < 160 := by
  simp only [isControl, Bool.or_eq_true, Bool.and_eq_true, decide_eq_true_eq] at control
  omega

/-- One written character is read back. -/
theorem readQuoted_escapeChar (c : Char) (rest : List Char) :
    readQuoted (escapeChar c ++ rest) = consText c (readQuoted rest) := by
  rw [escapeChar]
  split
  next same => subst same; simp [readQuoted, simpleEscape?]
  split
  next same => subst same; simp [readQuoted, simpleEscape?]
  split
  next same => subst same; simp [readQuoted, simpleEscape?]
  split
  next same => subst same; simp [readQuoted, simpleEscape?]
  split
  next same => subst same; simp [readQuoted, simpleEscape?]
  split
  next control =>
    have small := toNat_lt_of_isControl control
    have number : hexNumber? (hexDigits c.toNat) = some c.toNat :=
      hexNumber?_hexDigits (by omega)
    have high : isHighSurrogate c.toNat = false := by simp [isHighSurrogate]; omega
    have low : isLowSurrogate c.toNat = false := by simp [isLowSurrogate]; omega
    rw [hexDigits] at number ⊢
    simp only [List.cons_append, List.nil_append]
    rw [readQuoted]
    simp only [number, high, low, Bool.false_eq_true, if_false, Char.ofNat_toNat]
  next noQuote noBackslash _ _ _ plain =>
    have visible : ¬ (c.toNat < 0x20 ∨ c = '\\') := by
      rintro (low | same)
      · exact plain (by simp [isControl, low])
      · exact noBackslash same
    rw [List.singleton_append, readQuoted.eq_def]
    -- The patterns for marks and escapes are out; what is left takes the character as it is.
    split
    next same => cases same
    next same => exact absurd (List.cons.inj same).1 noQuote
    next same => exact absurd (List.cons.inj same).1 noBackslash
    next same => exact absurd (List.cons.inj same).1 noBackslash
    next same =>
      cases same
      rw [if_neg visible]

theorem readQuoted_escape (text rest : List Char) :
    readQuoted (escape text ++ '"' :: rest) = some (text, rest) := by
  induction text with
  | nil => rfl
  | cons c text ih =>
      rw [escape, List.flatMap_cons, List.append_assoc, readQuoted_escapeChar, ← escape, ih]
      rfl

/-! ## Numbers -/

/-- A text that does not go on with a number. -/
def EndsNumber (rest : List Char) : Prop :=
  ∀ c ∈ rest.head?, c.isDigit = false ∧ c ≠ '.' ∧ c ≠ 'e' ∧ c ≠ 'E'

theorem takeDigits_append
    {digits rest : List Char}
    (all : ∀ c ∈ digits, c.isDigit = true)
    (ends : EndsNumber rest) :
    takeDigits (digits ++ rest) = (digits, rest) := by
  have stops : rest.takeWhile Char.isDigit = [] ∧ rest.dropWhile Char.isDigit = rest := by
    cases rest with
    | nil => exact ⟨rfl, rfl⟩
    | cons c rest =>
        have noDigit : c.isDigit = false := (ends c rfl).1
        exact ⟨by simp [noDigit], by simp [noDigit]⟩
  rw [takeDigits, List.takeWhile_append_of_pos all, List.dropWhile_append_of_pos all, stops.1,
    stops.2, List.append_nil]

theorem isDigit_of_mem_toDigits {value : Nat} {c : Char} (listed : c ∈ Nat.toDigits 10 value) :
    c.isDigit = true :=
  Nat.isDigit_of_mem_toDigits (by decide) (by decide) listed

/-- Only zero is written with a zero in front. -/
theorem head?_toDigits_ne_zero {value : Nat} (positive : 0 < value) :
    (Nat.toDigits 10 value).head? ≠ some '0' := by
  induction value using Nat.strongRecOn with
  | _ value ih =>
      rw [Nat.toDigits_eq_if (by decide)]
      split
      next small => simpa using Nat.ne_of_gt positive
      next large =>
        rw [List.head?_append, Option.or_of_isSome (by simp)]
        exact ih (value / 10) (by omega) (by omega)

theorem readWhole_toDigits (value : Nat) {rest : List Char} (ends : EndsNumber rest) :
    readWhole (Nat.toDigits 10 value ++ rest) = some (Nat.toDigits 10 value, rest) := by
  rcases Nat.eq_zero_or_pos value with rfl | positive
  · cases rest with
    | nil => rfl
    | cons c rest => simp [readWhole, (ends c rfl).1]
  · have each : ∀ c ∈ Nat.toDigits 10 value, c.isDigit = true :=
      fun _ => isDigit_of_mem_toDigits
    have taken := takeDigits_append each ends
    have noZero := head?_toDigits_ne_zero positive
    have nonempty : Nat.toDigits 10 value ≠ [] := Nat.toDigits_ne_nil
    rw [readWhole.eq_def]
    generalize Nat.toDigits 10 value = digits at *
    cases digits with
    | nil => exact absurd rfl nonempty
    | cons first digits =>
        split
        next zero => simp_all
        next => rw [taken]

theorem decimal_toDigits (value : Nat) : Text.decimal (Nat.toDigits 10 value) = value := by
  have read := Nat.ofDigitChars_ten_toDigits (n := value)
  rw [Nat.ofDigitChars_eq_foldl] at read
  simp only [Nat.mul_comm 10] at read
  exact read

/-- A natural number in the range of double precision is read. -/
theorem inRange_toDigits {value : Nat} (below : value < NumberParts.infinity) :
    NumberParts.inRange ⟨false, Nat.toDigits 10 value, none, none⟩ = true := by
  have scale : NumberParts.scale ⟨false, Nat.toDigits 10 value, none, none⟩ = 0 := rfl
  have digits : (Nat.toDigits 10 value).length ≤ 310 := by
    rw [Nat.length_toDigits_le_iff (by decide) (by decide)]
    exact Nat.lt_trans below (by decide +kernel)
  rcases Nat.eq_zero_or_pos value with rfl | positive
  · rfl
  · have kept : (Nat.toDigits 10 value).dropWhile (fun c => decide (c = '0')) =
        Nat.toDigits 10 value := by
      have noZero := head?_toDigits_ne_zero positive
      generalize Nat.toDigits 10 value = digits at noZero ⊢
      cases digits with
      | nil => rfl
      | cons first digits => simp_all
    rw [NumberParts.inRange, scale]
    simp only [Option.getD_none, List.append_nil, kept, decimal_toDigits, Int.add_zero,
      Int.lt_irrefl, if_false]
    split
    next => rfl
    next =>
      rw [if_neg (by omega)]
      have unscaled : value * Nat.pow 10 (Int.toNat 0) = value := Nat.mul_one value
      exact decide_eq_true (unscaled.symm ▸ below)

theorem readNumber_toDigits
    {value : Nat}
    (below : value < NumberParts.infinity)
    {rest : List Char}
    (ends : EndsNumber rest) :
    readNumber (Nat.toDigits 10 value ++ rest) = some (.natural value, rest) := by
  have sign : ∀ text, Nat.toDigits 10 value ++ rest ≠ '-' :: text := by
    intro text same
    cases digits : Nat.toDigits 10 value with
    | nil => exact Nat.toDigits_ne_nil digits
    | cons first more =>
        have isDigit := isDigit_of_mem_toDigits (digits ▸ List.mem_cons_self (a := first))
        rw [digits] at same
        cases same
        exact absurd isDigit (by decide)
  have fraction : readFraction rest = some (none, rest) := by
    rw [readFraction.eq_def]
    split
    next => exact absurd rfl (ends '.' rfl).2.1
    next => rfl
  have exponent : readExponent rest = some (none, rest) := by
    cases rest with
    | nil => rfl
    | cons c rest => simp [readExponent, (ends c rfl).2.2]
  rw [readNumber]
  · rw [readWhole_toDigits value ends, Option.bind_eq_bind, Option.bind_some]
    simp only [fraction, exponent, Option.bind_eq_bind, Option.bind_some, inRange_toDigits below,
      if_true, NumberParts.number, decimal_toDigits]
  · exact sign

theorem endsNumber_cons {c : Char} {rest : List Char}
    (ends : c.isDigit = false ∧ c ≠ '.' ∧ c ≠ 'e' ∧ c ≠ 'E') :
    EndsNumber (c :: rest) := by
  rintro _ ⟨⟩
  exact ends

/-! ## Lists of entries -/

/-- A text that starts with no white space and not with the end of a list. -/
def StartsEntry (close : Char) (text : List Char) : Prop :=
  ∃ c rest, text = c :: rest ∧ c ≠ close ∧ c ≠ ' ' ∧ c ≠ '\t' ∧ c ≠ '\n' ∧ c ≠ '\r'

theorem StartsEntry.append {close : Char} {text : List Char} (starts : StartsEntry close text)
    (more : List Char) : StartsEntry close (text ++ more) := by
  obtain ⟨c, rest, rfl, visible⟩ := starts
  exact ⟨c, rest ++ more, rfl, visible⟩

theorem StartsEntry.skipBlank {close : Char} {text : List Char} (starts : StartsEntry close text) :
    skipBlank text = text := by
  obtain ⟨c, rest, rfl, -, visible⟩ := starts
  simp [Json.skipBlank, visible]

section Entries

variable {α : Type} {entry : List Char → Option (α × List Char)} {write : α → List Char}
variable {close : Char} {items : List α}

/-- A comma before each entry. -/
def afterCommas (write : α → List Char) (items : List α) : List Char :=
  items.flatMap fun item => ',' :: write item

theorem separated_cons (first : α) (others : List α) :
    separated ((first :: others).map write) = write first ++ afterCommas write others := by
  induction others generalizing first with
  | nil => exact (List.append_nil _).symm
  | cons second others ih =>
      rw [List.map_cons, List.map_cons, separated, ← List.map_cons, ih, afterCommas, afterCommas,
        List.flatMap_cons, List.cons_append]
      exact fun same => List.cons_ne_nil _ _ same

theorem length_le_afterCommas (write : α → List Char) (items : List α) :
    items.length ≤ (afterCommas write items).length := by
  rw [afterCommas, List.length_flatMap]
  induction items with
  | nil => exact Nat.zero_le _
  | cons first others ih =>
      rw [List.length_cons, List.map_cons, List.sum_cons, List.length_cons]
      omega

variable (closes : close = ']' ∨ close = '\x7d')
variable (starts : ∀ item ∈ items, StartsEntry close (write item))
variable (reads : ∀ item ∈ items, ∀ rest, EndsNumber rest →
  entry (write item ++ rest) = some (item, rest))

include closes starts reads

theorem endsNumber_afterCommas (rest : List Char) :
    EndsNumber (afterCommas write items ++ close :: rest) := by
  cases items with
  | nil => rcases closes with rfl | rfl <;> exact endsNumber_cons (by decide)
  | cons first others => exact endsNumber_cons (by decide)

theorem readMore_afterCommas (rest : List Char) {budget : Nat} (enough : items.length < budget) :
    readMore entry close budget (afterCommas write items ++ close :: rest) =
      some (items, rest) := by
  induction items generalizing budget with
  | nil =>
      obtain ⟨budget, rfl⟩ := Nat.exists_eq_add_one_of_ne_zero (Nat.ne_of_gt enough)
      rcases closes with rfl | rfl <;> simp [readMore, afterCommas, skipBlank]
  | cons first others ih =>
      obtain ⟨budget, rfl⟩ := Nat.exists_eq_add_one_of_ne_zero (Nat.ne_zero_of_lt enough)
      rw [List.forall_mem_cons] at starts reads
      have onward := ih starts.2 reads.2 (Nat.lt_of_succ_lt_succ enough)
      have comma : skipBlank (',' :: (write first ++ (afterCommas write others ++ close :: rest))) =
          ',' :: (write first ++ (afterCommas write others ++ close :: rest)) := by
        simp [skipBlank]
      have noEnd : ',' ≠ close := by rcases closes with rfl | rfl <;> decide
      rw [afterCommas, List.flatMap_cons, List.cons_append, List.cons_append, List.append_assoc,
        ← afterCommas, readMore, comma]
      simp only [noEnd, if_false, if_true, (starts.1.append _).skipBlank,
        reads.1 _ (endsNumber_afterCommas closes starts.2 reads.2 rest), Option.bind_eq_bind,
        Option.bind_some, onward]

/-- Written entries are read if each of them is. -/
theorem readEntries_separated (rest : List Char) :
    readEntries entry close (separated (items.map write) ++ close :: rest) =
      some (items, rest) := by
  cases items with
  | nil => rcases closes with rfl | rfl <;> simp [readEntries, separated, skipBlank]
  | cons first others =>
      rw [List.forall_mem_cons] at starts reads
      have startsFirst := starts.1.append (afterCommas write others ++ close :: rest)
      have read := reads.1 _ (endsNumber_afterCommas closes starts.2 reads.2 rest)
      -- Every entry comes after a comma, so there are no more of them than characters.
      have enough : others.length < (afterCommas write others ++ close :: rest).length + 1 := by
        rw [List.length_append]
        have := length_le_afterCommas write others
        omega
      have more := readMore_afterCommas closes starts.2 reads.2 rest enough
      rw [separated_cons, List.append_assoc, readEntries, startsFirst.skipBlank]
      obtain ⟨c, text, same, noEnd, -⟩ := startsFirst
      rw [same] at read ⊢
      simp only [noEnd, if_false, read, Option.bind_eq_bind, Option.bind_some, more]

end Entries

/-! ## Values -/

/-- A value that the reader takes: it nests at most so deep, and its numbers are in range. -/
inductive Fits : Nat → Json → Prop where
  | null {depth : Nat} : Fits depth .null
  | bool {depth : Nat} {value : Bool} : Fits depth (.bool value)
  | natural {depth value : Nat} (below : value < NumberParts.infinity) : Fits depth (.nat value)
  | string {depth : Nat} {value : String} : Fits depth (.string value)
  | array {depth : Nat} {items : List Json} (each : ∀ item ∈ items, Fits depth item) :
      Fits (depth + 1) (.array items)
  | object {depth : Nat} {members : List (String × Json)}
      (each : ∀ member ∈ members, Fits depth member.2) :
      Fits (depth + 1) (.object members)

theorem itemChars_eq_map (items : List Json) : itemChars items = items.map chars := by
  induction items with
  | nil => rfl
  | cons item rest ih => exact congrArg (item.chars :: ·) ih

theorem memberChars_eq_map (members : List (String × Json)) :
    memberChars members = members.map entryChars := by
  induction members with
  | nil => rfl
  | cons member rest ih => exact congrArg (entryChars member :: ·) ih

theorem startsEntry_toDigits (value : Nat) {close : Char} (closes : close = ']' ∨ close = '\x7d') :
    StartsEntry close (Nat.toDigits 10 value) := by
  cases digits : Nat.toDigits 10 value with
  | nil => exact absurd digits Nat.toDigits_ne_nil
  | cons c rest =>
      have isDigit : c.isDigit = true :=
        isDigit_of_mem_toDigits (digits ▸ List.mem_cons_self (a := c))
      refine ⟨c, rest, rfl, ?_, ?_, ?_, ?_, ?_⟩
      · rcases closes with rfl | rfl <;> exact ne_of_apply_ne Char.isDigit (by simp [isDigit])
      all_goals exact ne_of_apply_ne Char.isDigit (by simp [isDigit])

theorem startsEntry_chars {depth : Nat} {value : Json} (fits : Fits depth value) {close : Char}
    (closes : close = ']' ∨ close = '\x7d') :
    StartsEntry close value.chars := by
  cases fits with
  | null => rcases closes with rfl | rfl <;> exact ⟨_, _, rfl, by decide⟩
  | @bool _ value => rcases closes with rfl | rfl <;> cases value <;> exact ⟨_, _, rfl, by decide⟩
  | natural below => exact startsEntry_toDigits _ closes
  | string => rcases closes with rfl | rfl <;> exact ⟨_, _, rfl, by decide⟩
  | array each => rcases closes with rfl | rfl <;> exact ⟨_, _, rfl, by decide⟩
  | object each => rcases closes with rfl | rfl <;> exact ⟨_, _, rfl, by decide⟩

theorem startsEntry_entryChars (member : String × Json) {close : Char}
    (closes : close = ']' ∨ close = '\x7d') :
    StartsEntry close (entryChars member) := by
  rw [entryChars, quotedChars]
  rcases closes with rfl | rfl <;> exact ⟨'"', _, rfl, by decide⟩

/-- A value that is no array and no object is read in the same way at every depth. -/
theorem readValue_eq_readScalar {depth : Nat} {c : Char} {text : List Char}
    (noArray : c ≠ '[') (noObject : c ≠ '\x7b') :
    readValue depth (c :: text) = readScalar (c :: text) := by
  cases depth with
  | zero => rfl
  | succ depth =>
      rw [readValue]
      · exact fun _ same => noArray (List.cons.inj same).1
      · exact fun _ same => noObject (List.cons.inj same).1

theorem readValue_toDigits {depth value : Nat} (below : value < NumberParts.infinity)
    {rest : List Char} (ends : EndsNumber rest) :
    readValue depth (Nat.toDigits 10 value ++ rest) = some (.nat value, rest) := by
  have read := readNumber_toDigits below ends
  cases digits : Nat.toDigits 10 value with
  | nil => exact absurd digits Nat.toDigits_ne_nil
  | cons c more =>
      have isDigit : c.isDigit = true :=
        isDigit_of_mem_toDigits (digits ▸ List.mem_cons_self (a := c))
      have other {sign : Char} (noDigit : sign.isDigit = false) : c ≠ sign :=
        ne_of_apply_ne Char.isDigit (by simp [isDigit, noDigit])
      rw [digits, List.cons_append] at read
      rw [List.cons_append, readValue_eq_readScalar (other (by decide)) (other (by decide)),
        readScalar, read]
      · rfl
      all_goals exact fun _ same => other (by decide) (List.cons.inj same).1

/-- A quoted text is read up to its closing mark. -/
theorem readQuoted_quotedChars (text : String) (rest : List Char) :
    readQuoted (escape text.toList ++ ['"'] ++ rest) = some (text.toList, rest) := by
  rw [List.append_assoc]
  exact readQuoted_escape text.toList rest

theorem readEntry_entryChars {depth : Nat} {member : String × Json}
    (reads : ∀ rest, EndsNumber rest →
      readValue depth (member.2.chars ++ rest) = some (member.2, rest))
    (fits : Fits depth member.2)
    {rest : List Char}
    (ends : EndsNumber rest) :
    readEntry (readValue depth) (entryChars member ++ rest) = some (member, rest) := by
  have starts := (startsEntry_chars fits (.inl rfl)).append rest
  have colon (more : List Char) : skipBlank (':' :: more) = ':' :: more := by simp [skipBlank]
  rw [entryChars, quotedChars, List.append_assoc, List.cons_append, List.cons_append, readEntry,
    readQuoted_quotedChars, Option.bind_eq_bind, Option.bind_some]
  simp only [colon, List.cons_append, starts.skipBlank, reads rest ends, Option.bind_eq_bind,
    Option.bind_some, String.ofList_toList]

/-- A written value is read, whatever comes after it. -/
theorem readValue_chars {depth : Nat} {value : Json} (fits : Fits depth value) :
    ∀ rest, EndsNumber rest → readValue depth (value.chars ++ rest) = some (value, rest) := by
  induction fits with
  | null =>
      intro rest _
      exact readValue_eq_readScalar (by decide) (by decide)
  | @bool _ value =>
      intro rest _
      cases value <;> exact readValue_eq_readScalar (by decide) (by decide)
  | @natural depth value below =>
      intro rest ends
      exact readValue_toDigits below ends
  | @string depth value =>
      intro rest _
      rw [chars, quotedChars, List.cons_append, List.cons_append,
        readValue_eq_readScalar (by decide) (by decide), readScalar, readQuoted_quotedChars,
        Option.map_some]
      simp only [String.ofList_toList]
  | @array depth items each ih =>
      intro rest _
      have starts : ∀ item ∈ items, StartsEntry ']' item.chars :=
        fun item listed => startsEntry_chars (each item listed) (.inl rfl)
      have read := readEntries_separated (.inl rfl) starts ih rest
      rw [chars, itemChars_eq_map, List.cons_append, List.cons_append, List.append_assoc,
        List.singleton_append, readValue, read, Option.map_some]
  | @object depth members each ih =>
      intro rest _
      have starts : ∀ member ∈ members, StartsEntry '\x7d' (entryChars member) :=
        fun member _ => startsEntry_entryChars member (.inr rfl)
      have reads : ∀ member ∈ members, ∀ rest, EndsNumber rest →
          readEntry (readValue depth) (entryChars member ++ rest) = some (member, rest) :=
        fun member listed _ ends =>
          readEntry_entryChars (ih member listed) (each member listed) ends
      have read := readEntries_separated (.inr rfl) starts reads rest
      rw [chars, memberChars_eq_map, List.cons_append, List.cons_append, List.append_assoc,
        List.singleton_append, readValue, read, Option.map_some]

/-- A written document is read back, also with a line feed after it. -/
theorem read_write {value : Json} (fits : Fits deepest value) {ending : List Char}
    (blank : ending = [] ∨ ending = ['\n']) :
    read (value.write ++ String.ofList ending) = some value := by
  have ends : EndsNumber ending := by
    rcases blank with rfl | rfl
    · rintro _ ⟨⟩
    · exact endsNumber_cons (by decide)
  have none : skipBlank ending = [] := by rcases blank with rfl | rfl <;> rfl
  have starts := (startsEntry_chars fits (.inl rfl)).append ending
  have text : (value.write ++ String.ofList ending).toList = value.chars ++ ending := by
    rw [String.toList_append, write, String.toList_ofList, String.toList_ofList]
  rw [read, text, starts.skipBlank, readValue_chars fits ending ends, Option.bind_eq_bind,
    Option.bind_some]
  simp only [none]

end DataDerive.Json
