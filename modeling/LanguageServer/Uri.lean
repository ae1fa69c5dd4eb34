import LanguageServer.Text.Blank

/-! Document URIs. A URI is a scheme, a colon and the rest: an authority behind `//`, a path, a query behind
    the first `?` and a fragment behind the first `#`. Nothing is decoded or normalised, so the parts
    written one after the other give back the text that was read (`Parts.text_of_split?`), and a URI is no
    more than parts whose text comes apart into them again. A text with a blank in it is no URI. -/

namespace LanguageServer

namespace Uri

/-- The parts of a URI; a part that is absent differs from one that is empty. -/
structure Parts where
  scheme : String
  authority : Option String
  path : String
  query : Option String
  fragment : Option String
deriving DecidableEq

/-- A letter that can start a scheme. -/
def isSchemeStart (c : Char) : Bool := c.isAlpha

/-- A character that can stand in a scheme. -/
def isSchemeChar (c : Char) : Bool := c.isAlphanum || c == '+' || c == '.' || c == '-'

/-- A character that ends no authority. -/
def isAuthorityChar (c : Char) : Bool := !(c == '/' || c == '?' || c == '#')

/-- A character that ends no path. -/
def isPathChar (c : Char) : Bool := !(c == '?' || c == '#')

/-- A character that ends no query. -/
def isQueryChar (c : Char) : Bool := !(c == '#')

/-- The scheme and what follows its colon. -/
def splitScheme? (cs : List Char) : Option (List Char × List Char) :=
  match cs with
  | [] => none
  | c :: _ =>
    if isSchemeStart c then
      match cs.dropWhile isSchemeChar with
      | ':' :: rest => some (cs.takeWhile isSchemeChar, rest)
      | _ => none
    else none

/-- The authority and what follows it. -/
def splitAuthority (cs : List Char) : Option (List Char) × List Char :=
  match cs with
  | '/' :: '/' :: rest => (some (rest.takeWhile isAuthorityChar), rest.dropWhile isAuthorityChar)
  | _ => (none, cs)

/-- The query and what follows it. -/
def splitQuery (cs : List Char) : Option (List Char) × List Char :=
  match cs with
  | '?' :: rest => (some (rest.takeWhile isQueryChar), rest.dropWhile isQueryChar)
  | _ => (none, cs)

/-- The fragment; only a text that is empty or starts with its mark is all fragment. -/
def splitFragment (cs : List Char) : Option (List Char) :=
  match cs with
  | '#' :: rest => some rest
  | _ => none

namespace Parts

/-- The parts with a scheme and what follows its colon. -/
def ofScheme (scheme rest : List Char) : Parts :=
  let (authority, rest) := splitAuthority rest
  let path := rest.takeWhile isPathChar
  let (query, rest) := splitQuery (rest.dropWhile isPathChar)
  { scheme := String.ofList scheme
    authority := authority.map String.ofList
    path := String.ofList path
    query := query.map String.ofList
    fragment := (splitFragment rest).map String.ofList }

/-- Takes a text apart; there has to be a scheme. -/
def split? (text : String) : Option Parts :=
  (splitScheme? text.toList).map fun (scheme, rest) => ofScheme scheme rest

/-- A part behind its mark, if it is present. -/
def marked (mark : String) : Option String → String
  | none => ""
  | some part => mark ++ part

/-- The parts written one after the other. -/
def text (p : Parts) : String :=
  p.scheme ++ ":" ++ marked "//" p.authority ++ p.path ++ marked "?" p.query ++
    marked "#" p.fragment

/-- There is no blank in the text of the parts, and it comes apart into them again. -/
def WellFormed (p : Parts) : Prop := p.text.toList.any Text.isBlank = false ∧ split? p.text = some p

/-! ### The text of parts that were taken from a text -/

theorem toList_marked_ofList (mark : String) (part : Option (List Char)) :
    (marked mark (part.map String.ofList)).toList =
      (part.map fun cs => mark.toList ++ cs).getD [] := by
  cases part <;> simp [marked]

theorem eq_of_splitScheme? {cs scheme rest : List Char}
    (h : splitScheme? cs = some (scheme, rest)) : cs = scheme ++ ':' :: rest := by
  unfold splitScheme? at h
  split at h
  · simp at h
  · split at h
    · split at h
      · rename_i hd
        simp only [Option.some.injEq, Prod.mk.injEq] at h
        rw [← h.1, ← h.2, ← hd, List.takeWhile_append_dropWhile]
      · simp at h
    · simp at h

theorem eq_splitAuthority (cs : List Char) :
    cs = ((splitAuthority cs).1.map fun a => "//".toList ++ a).getD [] ++ (splitAuthority cs).2 :=
  by
  unfold splitAuthority
  split <;> simp

theorem eq_splitQuery (cs : List Char) :
    cs = ((splitQuery cs).1.map fun q => "?".toList ++ q).getD [] ++ (splitQuery cs).2 := by
  unfold splitQuery
  split <;> simp

/-- What follows the query is empty or starts with the mark of a fragment. -/
theorem eq_splitFragment {cs : List Char} (h : ∀ c, cs.head? = some c → c = '#') :
    cs = ((splitFragment cs).map fun f => "#".toList ++ f).getD [] := by
  unfold splitFragment
  split
  · simp
  · rename_i hne
    cases cs with
    | nil => rfl
    | cons c rest => exact absurd (congrArg (· :: rest) (h c rfl)) (hne rest)

theorem head?_dropWhile_of_some {p : Char → Bool} {cs : List Char} {c : Char}
    (h : (cs.dropWhile p).head? = some c) : p c = false := by
  induction cs with
  | nil => simp at h
  | cons d rest ih =>
    cases hd : p d with
    | true => exact ih (by simpa [List.dropWhile_cons, hd] using h)
    | false =>
      simp only [List.dropWhile_cons, hd, Bool.false_eq_true, if_false, List.head?_cons,
        Option.some.injEq] at h
      exact h ▸ hd

theorem head?_splitQuery {cs : List Char} (h : ∀ c, cs.head? = some c → isPathChar c = false)
    (c : Char) (hc : (splitQuery cs).2.head? = some c) : c = '#' := by
  unfold splitQuery at hc
  split at hc
  · simpa [isQueryChar] using head?_dropWhile_of_some hc
  · rename_i hne
    have hmark : c = '?' ∨ c = '#' := by
      have hc' := h c hc
      simp only [isPathChar, Bool.not_eq_false', Bool.or_eq_true, beq_iff_eq] at hc'
      exact hc'
    rcases hmark with rfl | rfl
    · cases cs with
      | nil => simp at hc
      | cons d rest =>
        simp only [List.head?_cons, Option.some.injEq] at hc
        exact absurd (congrArg (· :: rest) hc) (hne rest)
    · rfl

theorem toList_text_ofScheme (scheme rest : List Char) :
    (ofScheme scheme rest).text.toList = scheme ++ ':' :: rest := by
  have hd : ∀ c, ((splitAuthority rest).2.dropWhile isPathChar).head? = some c →
      isPathChar c = false := fun _ => head?_dropWhile_of_some
  have hq := eq_splitQuery ((splitAuthority rest).2.dropWhile isPathChar)
  have hf := eq_splitFragment (head?_splitQuery hd)
  have hp := List.takeWhile_append_dropWhile (p := isPathChar) (l := (splitAuthority rest).2)
  simp only [text, ofScheme, String.toList_append, toList_marked_ofList, String.toList_ofList]
  rw [← hf, List.append_assoc _ _ (splitQuery _).2, ← hq,
    List.append_assoc _ _ (List.dropWhile _ _), hp,
    List.append_assoc _ _ (splitAuthority rest).2, ← eq_splitAuthority]
  simp

/-- Parts that were taken from a text give the text back. -/
theorem text_of_split? {s : String} {p : Parts} (h : split? s = some p) : p.text = s := by
  obtain ⟨⟨scheme, rest⟩, hs, rfl⟩ := Option.map_eq_some_iff.1 h
  apply String.toList_injective
  rw [toList_text_ofScheme, ← eq_of_splitScheme? hs]

theorem wellFormed_of_split? {s : String} {p : Parts} (hb : s.toList.any Text.isBlank = false)
    (h : split? s = some p) : p.WellFormed := by
  have ht := text_of_split? h
  exact ⟨ht ▸ hb, by rw [ht, h]⟩

end Parts

end Uri

/-- A URI: parts whose text, without a blank in it, comes apart into them again. -/
structure Uri extends Uri.Parts where
  wellFormed : toParts.WellFormed
deriving DecidableEq

namespace Uri

/-- Why a text is no URI. -/
inductive Fault where
  | empty
  | blank (text : String)
  | malformed (text : String)
deriving DecidableEq

/-- The message of a fault. -/
def Fault.message : Fault → String
  | .empty => "empty URI"
  | .blank text => s!"URI contains whitespace: '{text}'"
  | .malformed text => s!"malformed URI (missing scheme?): '{text}'"

/-- Reads a URI. -/
def parse (text : String) : Except Fault Uri :=
  if text.toList.isEmpty then .error .empty
  else if hb : text.toList.any Text.isBlank then .error (.blank text)
  else
    match h : Parts.split? text with
    | some p => .ok ⟨p, Parts.wellFormed_of_split? (Bool.eq_false_iff.2 hb) h⟩
    | none => .error (.malformed text)

/-- The text is a URI. -/
def isUri (text : String) : Bool := (parse text).toBool

/-- The text of a URI. -/
def text (u : Uri) : String := u.toParts.text

/-- The URI of a file, from its path. -/
def ofFilePath (path : String) : Except Fault Uri :=
  if path.toList.head? = some '/' then parse ("file://" ++ path) else parse ("file:///" ++ path)

/-- The scheme is `file`, in small or capital letters. -/
def isFile (u : Uri) : Bool := u.scheme.toList.map Char.toLower == ['f', 'i', 'l', 'e']

/-- A text that is read gives its URI's text. -/
theorem text_of_parse {s : String} {u : Uri} (h : parse s = .ok u) : u.text = s := by
  unfold parse at h
  split at h
  · simp at h
  · split at h
    · simp at h
    · split at h
      · rename_i hp
        simp only [Except.ok.injEq] at h
        exact h ▸ Parts.text_of_split? hp
      · simp at h

/-- The text of a URI reads as the URI. -/
theorem parse_text (u : Uri) : parse u.text = .ok u := by
  obtain ⟨p, hb, hs⟩ := u
  unfold parse text
  rw [if_neg, dif_neg (by simp [hb])]
  · split
    · rename_i hp
      rw [hs] at hp
      simp only [Option.some.injEq] at hp
      subst hp
      rfl
    · rename_i hp
      rw [hs] at hp
      simp at hp
  · intro he
    have hn : p.text.toList = [] := List.isEmpty_iff.1 he
    simp [Parts.text] at hn

theorem text_injective : Function.Injective text := fun u v h => by
  have hv := parse_text v
  rw [← h, parse_text] at hv
  exact Except.ok.inj hv

example : ((parse "file://?#").toOption.map (·.toParts)) =
    some ⟨"file", some "", "", some "", some ""⟩ := by decide +kernel
example : ((parse "a:b#c?d").toOption.map (·.toParts)) =
    some ⟨"a", none, "b", none, some "c?d"⟩ := by decide +kernel
example : ((ofFilePath "x/y").toOption.map (·.toParts)) =
    some ⟨"file", some "", "/x/y", none, none⟩ := by decide +kernel

end Uri

end LanguageServer
