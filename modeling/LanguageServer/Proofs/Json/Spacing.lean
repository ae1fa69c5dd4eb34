import LanguageServer.Json.Reader
import LanguageServer.Json.Writer

/-! Both texts of a value as one. The text on one line and the text on indented lines differ in the blanks
    between their parts alone, so both are the text that is written with some blanks (`Spacing`), and what
    holds of it whatever the blanks are holds of both. -/

namespace LanguageServer.Json

/-- The blanks before an item, a key or a closing bracket of a level, and those behind a colon. -/
structure Spacing where
  line : Nat → List Char
  gap : List Char
  line_blank : ∀ level, ∀ c ∈ line level, Reader.isSpace c = true
  gap_blank : ∀ c ∈ gap, Reader.isSpace c = true

namespace Spacing

/-- No blanks at all. -/
def none : Spacing where
  line _ := []
  gap := []
  line_blank := nofun
  gap_blank := nofun

theorem isSpace_of_mem_indent {level : Nat} {c : Char} (h : c ∈ indent level) : Reader.isSpace c = true := by
  rcases List.mem_cons.mp h with rfl | h
  · rfl
  · rw [List.eq_of_mem_replicate h]
    rfl

/-- A line for every item and member. -/
def indented : Spacing where
  line := indent
  gap := [' ']
  line_blank _ _ := isSpace_of_mem_indent
  gap_blank := List.forall_mem_singleton.mpr rfl

end Spacing

variable (b : Spacing)

mutual

/-- The text of a value with some blanks between its parts. -/
def spacedChars (level : Nat) : Json → List Char
  | .null => nullText
  | .bool b => boolText b
  | .num n => n.text
  | .str s => quote s
  | .arr [] => ['[', ']']
  | .arr (v :: rest) =>
    '[' :: b.line (level + 1) ++ spacedChars (level + 1) v ++ spacedItems level rest
  | .obj [] => ['{', '}']
  | .obj ((k, v) :: rest) =>
    '{' :: b.line (level + 1) ++ quote k ++ ':' :: b.gap ++ spacedChars (level + 1) v ++
      spacedMembers level rest

/-- The items after the first, and the closing bracket. -/
def spacedItems (level : Nat) : List Json → List Char
  | [] => b.line level ++ [']']
  | v :: rest =>
    ',' :: b.line (level + 1) ++ spacedChars (level + 1) v ++ spacedItems level rest

/-- The members after the first, and the closing brace. -/
def spacedMembers (level : Nat) : Members → List Char
  | [] => b.line level ++ ['}']
  | (k, v) :: rest =>
    ',' :: b.line (level + 1) ++ quote k ++ ':' :: b.gap ++ spacedChars (level + 1) v ++
      spacedMembers level rest

end

mutual

theorem compactChars_eq : (v : Json) → (level : Nat) → compactChars v = spacedChars .none level v
  | .null, _ | .bool _, _ | .num _, _ | .str _, _ | .arr [], _ | .obj [], _ => rfl
  | .arr (v :: items), level => by
    rw [compactChars, spacedChars, compactChars_eq v (level + 1), compactItems_eq items level]
    rfl
  | .obj ((k, v) :: members), level => by
    rw [compactChars, spacedChars, compactChars_eq v (level + 1), compactMembers_eq members level]
    simp [Spacing.none]

theorem compactItems_eq : (items : List Json) → (level : Nat) →
    compactItems items = spacedItems .none level items
  | [], _ => rfl
  | v :: items, level => by
    rw [compactItems, spacedItems, compactChars_eq v (level + 1), compactItems_eq items level]
    rfl

theorem compactMembers_eq : (members : Members) → (level : Nat) →
    compactMembers members = spacedMembers .none level members
  | [], _ => rfl
  | (k, v) :: members, level => by
    rw [compactMembers, spacedMembers, compactChars_eq v (level + 1), compactMembers_eq members level]
    simp [Spacing.none]

end

mutual

theorem prettyChars_eq : (v : Json) → (level : Nat) → prettyChars level v = spacedChars .indented level v
  | .null, _ | .bool _, _ | .num _, _ | .str _, _ | .arr [], _ | .obj [], _ => rfl
  | .arr (v :: items), level => by
    rw [prettyChars, spacedChars, prettyChars_eq v (level + 1), prettyItems_eq items level]
    rfl
  | .obj ((k, v) :: members), level => by
    rw [prettyChars, spacedChars, prettyChars_eq v (level + 1), prettyMembers_eq members level]
    simp [Spacing.indented]

theorem prettyItems_eq : (items : List Json) → (level : Nat) →
    prettyItems level items = spacedItems .indented level items
  | [], _ => rfl
  | v :: items, level => by
    rw [prettyItems, spacedItems, prettyChars_eq v (level + 1), prettyItems_eq items level]
    rfl

theorem prettyMembers_eq : (members : Members) → (level : Nat) →
    prettyMembers level members = spacedMembers .indented level members
  | [], _ => rfl
  | (k, v) :: members, level => by
    rw [prettyMembers, spacedMembers, prettyChars_eq v (level + 1), prettyMembers_eq members level]
    simp [Spacing.indented]

end

end LanguageServer.Json
