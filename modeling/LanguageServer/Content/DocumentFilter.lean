import LanguageServer.Content

/-! Filters that pick documents by language, scheme and pattern. -/

namespace LanguageServer

open Content

/-- The documents of a language, of a scheme, and with a path of a pattern. -/
structure DocumentFilter where
  language : Option String := none
  scheme : Option String := none
  pattern : Option String := none
deriving DecidableEq

/-- The form of `DocumentFilter`. -/
def DocumentFilter.schema : Schema :=
  .record "DocumentFilter" <|
    .optional "language" (.plain .string) <|
    .optional "scheme" (.plain .string) <|
    .optional "pattern" (.plain .string) <|
    .nil

instance : Content DocumentFilter where
  schema := DocumentFilter.schema
  pack x := (x.language, x.scheme, x.pattern, ())
  unpack := fun (language, scheme, pattern, _) => { language, scheme, pattern }
  unpack_pack _ := rfl
  pack_unpack _ := rfl

/-- The documents that one of some filters picks. -/
structure DocumentSelector where
  filters : List DocumentFilter
deriving DecidableEq

/-- The form of `DocumentSelector`. -/
def DocumentSelector.schema : Schema := .list (some "DocumentSelector") DocumentFilter.schema

instance : Content DocumentSelector where
  schema := DocumentSelector.schema
  pack x := packMany x.filters
  unpack v := ⟨unpackMany v⟩
  unpack_pack _ := by simp
  pack_unpack _ := packMany_unpackMany _

end LanguageServer
