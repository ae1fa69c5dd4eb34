import LanguageServer.Proofs.Uri.Grammar

/-! URIs of files. The URI of a file has the path of the file behind `file://`, with a slash in front if
    there is none. It is a file's URI without a host, whatever the path is. The path comes through as it is
    just if there is neither a question mark nor a hash in it: these start a query or a fragment, and the
    path of the URI ends before the first of them. -/

namespace LanguageServer.Uri

variable {path other : String} {u v : Uri}

/-- A path with a slash in front. -/
def rooted (path : String) : String :=
  if path.toList.head? = some '/' then path else "/" ++ path

/-- The path has a slash in front by itself. -/
def Absolute (path : String) : Prop := path.toList.head? = some '/'

/-- There is neither a question mark nor a hash in the text. -/
def Unmarked (text : String) : Prop := ∀ c ∈ text.toList, c ≠ '?' ∧ c ≠ '#'

theorem ofFilePath_eq (path : String) : ofFilePath path = parse ("file://" ++ rooted path) := by
  unfold ofFilePath rooted
  split
  · rfl
  · rw [← String.append_assoc]
    rfl

theorem rooted_of_absolute (h : Absolute path) : rooted path = path := if_pos h

theorem exists_toList_rooted (path : String) : ∃ tail, (rooted path).toList = '/' :: tail := by
  unfold rooted
  split
  · rename_i h
    obtain ⟨tail, h⟩ := List.head?_eq_some_iff.mp h
    exact ⟨tail, h⟩
  · exact ⟨path.toList, by simp⟩

theorem forall_mem_rooted_iff (path : String) {P : Char → Prop} (h : P '/') :
    (∀ c ∈ (rooted path).toList, P c) ↔ ∀ c ∈ path.toList, P c := by
  unfold rooted
  split
  · rfl
  · simp [h]

theorem unmarked_rooted_iff : Unmarked (rooted path) ↔ Unmarked path :=
  forall_mem_rooted_iff path (by decide)

/-- The parts that a path behind `file://` is split into. -/
def fileParts (path : String) : Parts :=
  .ofScheme "file".toList ('/' :: '/' :: (rooted path).toList)

theorem split?_rooted (path : String) : Parts.split? ("file://" ++ rooted path) = some (fileParts path) := by
  have hs : splitScheme? ("file://" ++ rooted path).toList =
      some ("file".toList, '/' :: '/' :: (rooted path).toList) := by
    refine splitScheme?_eq_some_iff.mpr ⟨by simp, 'f', "ile".toList, rfl, rfl, ?_⟩
    simp
  rw [Parts.split?, hs]
  rfl

/-- A path without a blank in it makes a URI. -/
theorem exists_ofFilePath (hb : ∀ c ∈ path.toList, Text.isBlank c = false) :
    ∃ u, ofFilePath path = .ok u ∧ u.toParts = fileParts path := by
  have hrooted := (forall_mem_rooted_iff path (P := fun c => Text.isBlank c = false) rfl).mpr hb
  have hall : ∀ c ∈ ("file://" ++ rooted path).toList, Text.isBlank c = false := by
    simp only [String.toList_append, List.mem_append]
    rintro c (hc | hc)
    · have hfront : ∀ c ∈ "file://".toList, Text.isBlank c = false := by
        simp [Text.isBlank, Text.blankCodes]
      exact hfront c hc
    · exact hrooted c hc
  rw [ofFilePath_eq]
  have hsplit := split?_rooted path
  rcases parse_cases ("file://" ++ rooted path) with ⟨h, -⟩ | ⟨-, ⟨⟨c, hc, h⟩, -⟩ | ⟨-, ⟨h, -⟩ | ⟨u, hu, h⟩⟩⟩
  · simp at h
  · exact absurd ((hall c hc).symm.trans h) Bool.false_ne_true
  · cases hsplit.symm.trans h
  · exact ⟨u, h, Option.some.inj (hu.symm.trans hsplit)⟩

theorem forall_not_blank (h : ofFilePath path = .ok u) : ∀ c ∈ path.toList, Text.isBlank c = false := by
  rw [ofFilePath_eq] at h
  obtain ⟨hb, -⟩ := exists_parse_iff.mp ⟨u, h⟩
  refine (forall_mem_rooted_iff path (P := fun c => Text.isBlank c = false) rfl).mp fun c hc => hb c ?_
  rw [String.toList_append]
  exact List.mem_append_right _ hc

/-- The path ends before the first mark. -/
theorem toList_path_fileParts (path : String) :
    (fileParts path).authority = some "" ∧
      (fileParts path).path.toList = (rooted path).toList.takeWhile isPathChar := by
  obtain ⟨tail, h⟩ := exists_toList_rooted path
  rw [fileParts, h]
  exact ⟨rfl, String.toList_ofList⟩

theorem path_fileParts_iff : (fileParts path).path = rooted path ↔ Unmarked path := by
  obtain ⟨-, hpath⟩ := toList_path_fileParts path
  rw [← unmarked_rooted_iff, ← String.toList_inj, hpath, List.takeWhile_eq_self_iff]
  exact forall₂_congr fun _ _ => isPathChar_iff

theorem marks_fileParts_iff :
    (fileParts path).query = none ∧ (fileParts path).fragment = none ↔ Unmarked path := by
  have hsplits := Parts.splits_ofScheme "file".toList ('/' :: '/' :: (rooted path).toList)
  rw [← unmarked_rooted_iff, ← Option.not_isSome_iff_eq_none, ← Option.not_isSome_iff_eq_none]
  unfold fileParts
  rw [hsplits.query_isSome, hsplits.fragment_isSome]
  have hmem : ∀ c, c ≠ '/' → (c ∈ '/' :: '/' :: (rooted path).toList ↔ c ∈ (rooted path).toList) :=
    fun c hc => by simp [hc]
  rw [hmem '#' (by decide)]
  constructor
  · rintro ⟨hq, hf⟩ c hc
    refine ⟨?_, fun e => hf (e ▸ hc)⟩
    rintro rfl
    obtain ⟨before, after, hsplit⟩ := List.append_of_mem ((hmem '?' (by decide)).mpr hc)
    refine hq ⟨before, after, hsplit, fun hb => hf ((hmem '#' (by decide)).mp ?_)⟩
    rw [hsplit]
    exact List.mem_append_left _ hb
  · intro h
    refine ⟨?_, fun hf => (h '#' hf).2 rfl⟩
    rintro ⟨before, after, hsplit, -⟩
    have hq : '?' ∈ '/' :: '/' :: (rooted path).toList := hsplit ▸ by simp
    exact (h '?' ((hmem '?' (by decide)).mp hq)).1 rfl

/-- Of every path without a blank in it: it makes the URI of a file without a host, the path of the URI is
    the path with a slash in front, up to the first mark, and the whole path comes through, with neither
    query nor fragment, just if there is no mark in it. Different absolute paths without a mark make URIs
    with different paths. -/
theorem ofFilePath_path (path : String) (hb : ∀ c ∈ path.toList, Text.isBlank c = false) :
    ∃ u, ofFilePath path = .ok u ∧ u.isFile = true ∧ u.authority = some "" ∧
      u.path.toList = (rooted path).toList.takeWhile isPathChar ∧
      (u.path = rooted path ↔ Unmarked path) ∧
      (u.query = none ∧ u.fragment = none ↔ Unmarked path) ∧
      (Absolute path → rooted path = path) ∧
      ∀ other v, ofFilePath other = .ok v → Absolute path → Absolute other →
        Unmarked path → Unmarked other → u.path = v.path → path = other := by
  obtain ⟨u, hu, hparts⟩ := exists_ofFilePath hb
  obtain ⟨hauthority, hpath⟩ := toList_path_fileParts path
  have hwhole : u.path = rooted path ↔ Unmarked path := hparts ▸ path_fileParts_iff
  refine ⟨u, hu, ?_, ?_, ?_, hwhole, ?_, rooted_of_absolute, fun other v hv ha hao hm hmo he => ?_⟩
  · have hscheme : (fileParts path).scheme = "file" := String.ofList_toList
    rw [isFile, hparts, hscheme]
    decide
  · rw [hparts, hauthority]
  · rw [hparts, hpath]
  · rw [hparts]
    exact marks_fileParts_iff
  · obtain ⟨w, hw, hwparts⟩ := exists_ofFilePath (forall_not_blank hv)
    cases hv.symm.trans hw
    calc path = u.path := by rw [hwhole.mpr hm, rooted_of_absolute ha]
      _ = v.path := he
      _ = other := by rw [hwparts, path_fileParts_iff.mpr hmo, rooted_of_absolute hao]

/-- A path with a colon and a percent sign in it, and with two slashes in front. -/
theorem ofFilePath_path_slashes :
    (∀ c ∈ "//a:/%20".toList, Text.isBlank c = false) ∧ Unmarked "//a:/%20" ∧
      ∃ u, ofFilePath "//a:/%20" = .ok u ∧ u.authority = some "" ∧ u.path = "//a:/%20" := by
  have hb : ∀ c ∈ "//a:/%20".toList, Text.isBlank c = false := by
    simp [Text.isBlank, Text.blankCodes]
  have hm : Unmarked "//a:/%20" := by simp [Unmarked]
  have ha : Absolute "//a:/%20" := by simp [Absolute]
  obtain ⟨u, hu, -, hauthority, -, hpath, -, hrooted, -⟩ := ofFilePath_path "//a:/%20" hb
  exact ⟨hb, hm, u, hu, hauthority, (hpath.mpr hm).trans (hrooted ha)⟩

/-- A path with a hash in it is cut before the hash, and so is one with a question mark. The two make URIs
    with the same path. -/
theorem ofFilePath_marked :
    ((ofFilePath "/c#/a.rs").toOption.map (·.toParts) = some ⟨"file", some "", "/c", none, some "/a.rs"⟩) ∧
      (ofFilePath "/c?x").toOption.map (·.toParts) = some ⟨"file", some "", "/c", some "x", none⟩ := by
  decide +kernel

end LanguageServer.Uri
