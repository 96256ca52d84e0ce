import DataDerive.Identifier
import Mathlib.Data.List.Basic

/-!
# Capital letters in identifiers

Snake case has no capital letter of ASCII: lower cases have none, and every other
letter is kept only if it is no capital.  Escaping a name adds none.
-/

namespace DataDerive

namespace Text

theorem isUpper_iff {c : Char} : c.isUpper = true ↔ 65 ≤ c.toNat ∧ c.toNat ≤ 90 := by
  change decide (65 ≤ c.toNat ∧ c.toNat ≤ 90) = true ↔ _
  exact decide_eq_true_iff

theorem isUpper_ofNat {point : Nat} (above : 90 < point) : (Char.ofNat point).isUpper = false := by
  rw [← Bool.not_eq_true, isUpper_iff]
  by_cases valid : point.isValidChar
  · have same : (Char.ofNat point).toNat = point := congrArg Char.toNat (dif_pos valid)
    omega
  · have same : (Char.ofNat point).toNat = 0 := congrArg Char.toNat (dif_neg valid)
    omega

theorem isUpper_toLower_ascii : ∀ point < 128, (Char.ofNat point).toLower.isUpper = false := by
  decide

/-- The lower cases that are several characters lie above the capital letters. -/
theorem lowerExpansions_above :
    ∀ row ∈ lowerExpansions, ∀ point ∈ row.2, 90 < point := by
  decide +kernel

/-- No shift to a lower case reaches down to a capital letter. -/
theorem lowerShifts_above : ∀ row ∈ lowerShifts, 90 < (row.1 : Int) + row.2.2.2 := by
  decide +kernel

theorem add_shiftOf_lowerShifts {point : Nat} (beyond : 128 ≤ point) :
    90 < (point : Int) + shiftOf lowerShifts point := by
  rw [shiftOf]
  split
  next first last step distance found =>
    have above := lowerShifts_above _ (List.mem_of_find?_eq_some found)
    have inside := List.find?_some found
    simp only [CodeRange.contains, Bool.and_eq_true, decide_eq_true_eq] at inside
    have least : first ≤ point := inside.1.1
    dsimp only at above
    omega
  next => omega

theorem isUpper_of_mem_toLowercase {c lower : Char} (listed : lower ∈ toLowercase c) :
    lower.isUpper = false := by
  rw [toLowercase] at listed
  split at listed
  next ascii =>
    cases List.mem_singleton.mp listed
    rw [← Char.ofNat_toNat c]
    exact isUpper_toLower_ascii _ ascii
  next beyond =>
    rw [mapCase] at listed
    split at listed
    next points found =>
      rcases List.mem_map.mp listed with ⟨point, among, rfl⟩
      rcases List.lookup_eq_some_iff.mp found with ⟨before, after, rows, -⟩
      have row : (c.toNat, points) ∈ lowerExpansions := by simp [rows]
      exact isUpper_ofNat (lowerExpansions_above _ row point among)
    next =>
      cases List.mem_singleton.mp listed
      have above := add_shiftOf_lowerShifts (Nat.le_of_not_lt beyond)
      exact isUpper_ofNat (by omega)

theorem isUpper_of_not_isUppercase {c : Char} (small : ¬ isUppercase c = true) :
    c.isUpper = false := by
  rw [isUppercase] at small
  split at small
  next => exact Bool.not_eq_true _ ▸ small
  next beyond =>
    rw [← Bool.not_eq_true, isUpper_iff]
    omega

end Text

namespace Identifier

theorem isUpper_of_mem_snakeFrom {c : Char} {previous : Option Char} {name : List Char}
    (listed : c ∈ snakeFrom previous name) :
    c.isUpper = false := by
  induction name generalizing previous with
  | nil => cases listed
  | cons first rest ih =>
      rw [snakeFrom] at listed
      split at listed
      next =>
        split at listed
        next =>
          rcases List.mem_cons.mp listed with rfl | listed
          · rfl
          · rcases List.mem_append.mp listed with lower | later
            · exact Text.isUpper_of_mem_toLowercase lower
            · exact ih later
        next =>
          rcases List.mem_append.mp listed with lower | later
          · exact Text.isUpper_of_mem_toLowercase lower
          · exact ih later
      next small =>
        rcases List.mem_cons.mp listed with rfl | later
        · exact Text.isUpper_of_not_isUppercase small
        · exact ih later

theorem isUpper_of_mem_snakeName {c : Char} {name : String}
    (listed : c ∈ (snakeName name).toList) :
    c.isUpper = false := by
  have plain (among : c ∈ (snakeCase name).toList) : c.isUpper = false := by
    rw [snakeCase, String.toList_ofList] at among
    exact isUpper_of_mem_snakeFrom among
  rw [snakeName, escape] at listed
  split at listed
  next =>
    rw [String.toList_append] at listed
    rcases List.mem_append.mp listed with among | added
    · exact plain among
    · cases List.mem_singleton.mp added
      rfl
  next =>
    split at listed
    next =>
      rw [String.toList_append] at listed
      rcases List.mem_append.mp listed with added | among
      · rcases List.mem_pair.mp added with rfl | rfl <;> rfl
      · exact plain among
    next => exact plain listed

/-- The variant for a value that is there is spelled with a capital letter. -/
theorem snakeName_ne_some (name : String) : snakeName name ≠ "Some" := by
  intro same
  have capital : 'S' ∈ (snakeName name).toList := by
    rw [same]
    decide
  exact absurd (isUpper_of_mem_snakeName capital) (by decide)

end Identifier

end DataDerive
