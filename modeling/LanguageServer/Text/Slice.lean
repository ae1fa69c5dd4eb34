/-! Cuts of a text at places that are counted in bytes of UTF-8. A place inside a character is no place to
    cut at, and neither is one behind the end. -/

namespace LanguageServer.Text

/-- The number of bytes of a text. -/
def byteLength : List Char → Nat
  | [] => 0
  | c :: cs => c.utf8Size + byteLength cs

/-- The characters up to a place. -/
def takeBytes? : Nat → List Char → Option (List Char)
  | 0, _ => some []
  | _ + 1, [] => none
  | n + 1, c :: cs =>
    if c.utf8Size ≤ n + 1 then (takeBytes? (n + 1 - c.utf8Size) cs).map (c :: ·) else none

/-- The characters from a place on. -/
def dropBytes? : Nat → List Char → Option (List Char)
  | 0, cs => some cs
  | _ + 1, [] => none
  | n + 1, c :: cs => if c.utf8Size ≤ n + 1 then dropBytes? (n + 1 - c.utf8Size) cs else none

/-- The characters between two places. -/
def slice? (start stop : Nat) (cs : List Char) : Option (List Char) :=
  (dropBytes? start cs).bind (takeBytes? (stop - start))

/-- What is taken has as many bytes as were asked for. -/
theorem byteLength_of_takeBytes? {n : Nat} {cs front : List Char}
    (h : takeBytes? n cs = some front) : byteLength front = n := by
  fun_induction takeBytes? n cs generalizing front with
  | case1 => cases h; rfl
  | case2 => cases h
  | case3 n c cs hc ih =>
    obtain ⟨rest, hr, rfl⟩ := Option.map_eq_some_iff.1 h
    have := ih hr
    simp only [byteLength]
    omega
  | case4 => cases h

/-- A text can be cut at a place for its front exactly when it can for its back, and the two make up the
    text. -/
theorem takeBytes?_append_dropBytes? (n : Nat) (cs : List Char) :
    (takeBytes? n cs = none ∧ dropBytes? n cs = none) ∨
      ∃ front back, takeBytes? n cs = some front ∧ dropBytes? n cs = some back ∧
        front ++ back = cs := by
  fun_induction takeBytes? n cs with
  | case1 cs => exact .inr ⟨[], cs, rfl, by simp [dropBytes?], rfl⟩
  | case2 => exact .inl ⟨rfl, rfl⟩
  | case3 n c cs hc ih =>
    rcases ih with ⟨hf, hb⟩ | ⟨front, back, hf, hb, rfl⟩
    · exact .inl ⟨by simp [hf], by simp [dropBytes?, hc, hb]⟩
    · exact .inr ⟨c :: front, back, by simp [hf], by simp [dropBytes?, hc, hb], rfl⟩
  | case4 n c cs hc => exact .inl ⟨rfl, by simp [dropBytes?, hc]⟩

example : slice? 1 3 ['a', 'é', 'b'] = some ['é'] := by decide +kernel
example : slice? 2 3 ['a', 'é', 'b'] = none := by decide +kernel

end LanguageServer.Text
