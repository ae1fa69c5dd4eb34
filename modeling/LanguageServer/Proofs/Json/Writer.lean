import LanguageServer.Proofs.Json.Numeral
import LanguageServer.Proofs.Json.Reader
import LanguageServer.Proofs.Json.Spacing

/-! Reading what was written. The reader takes the text of a value part by part, from wherever it stands,
    and what it makes of the whole is told by recursion on the value (`reread`): a string or a literal is
    read as itself, a number as its digits tell, an array item by item, and the members of an object are put
    in their places as they come. It fails where a value is nested too deeply or a number is refused. The
    blanks between the parts do not matter, so the text on one line and the text on indented lines are read
    as one value or refused alike (`read_pretty`). A bounded value whose numbers are whole is read as
    itself, its members in order (`read_compact`). -/

namespace LanguageServer.Json

mutual

/-- What the text of a value is read as, where so many arrays and objects are open around it. -/
def reread (k : Nat) : Json → Option Json
  | .num n => n.reread.map .num
  | .arr items => if k < Reader.maxDepth then (rereadItems (k + 1) items).map .arr else none
  | .obj members =>
    if k < Reader.maxDepth then (rereadMembers (k + 1) members []).map .obj else none
  | v => some v

/-- What the texts of items are read as. -/
def rereadItems (k : Nat) : List Json → Option (List Json)
  | [] => some []
  | v :: rest => (reread k v).bind fun w => (rereadItems k rest).map (w :: ·)

/-- The members read so far, with those whose texts follow put in their places. -/
def rereadMembers (k : Nat) : Members → Members → Option Members
  | [], read => some read
  | (key, v) :: rest, read =>
    (reread k v).bind fun w => rereadMembers k rest (Members.insert key w read)

end

namespace Reader

variable {s t : State} {stack : List Frame} {role : Role} {read rest tail : List Char} {c : Char} {v : Json}

theorem run_ok (h : step s c = .ok t) : run s (c :: rest) = run t rest := by
  rw [run, List.foldlM_cons, h]
  rfl

theorem run_broken (h : step s c = .error .broken) : run s (c :: rest) = .error .broken := by
  rw [run, List.foldlM_cons, h]
  rfl

/-! ### Strings and literals -/

/-- The four digits of a control character are read as its number. -/
theorem hexNumber?_hexDigit : ∀ n < 0x20,
    (hexDigit (n / 16)).utf8Size = 1 ∧ (hexDigit (n % 16)).utf8Size = 1 ∧
      Text.hexNumber? ['0', '0', hexDigit (n / 16), hexDigit (n % 16)] = some n := by
  decide

theorem run_unit (hc : c.toNat < 0x20) :
    run ⟨stack, .text role read⟩
        ('\\' :: 'u' :: '0' :: '0' :: hexDigit (c.toNat / 16) :: hexDigit (c.toNat % 16) :: rest) =
      run ⟨stack, .text role (c :: read)⟩ rest := by
  obtain ⟨hhigh, hlow, hnumber⟩ := hexNumber?_hexDigit c.toNat hc
  have hbegin : ∀ cs, run ⟨stack, .text role read⟩ ('\\' :: 'u' :: '0' :: '0' :: cs) =
      run ⟨stack, .unit role read none ['0', '0'] 2⟩ cs := fun _ => rfl
  have hthird : step ⟨stack, .unit role read none ['0', '0'] 2⟩ (hexDigit (c.toNat / 16)) =
      .ok ⟨stack, .unit role read none [hexDigit (c.toNat / 16), '0', '0'] 3⟩ := by
    simp only [step, hhigh]
    rfl
  have hfourth : step ⟨stack, .unit role read none [hexDigit (c.toNat / 16), '0', '0'] 3⟩
      (hexDigit (c.toNat % 16)) = .ok ⟨stack, .text role (c :: read)⟩ := by
    -- A control character is no half of a pair, so nothing is waited for after it.
    have hpair : ¬ (0xD800 ≤ c.toNat ∧ c.toNat ≤ 0xDBFF) := by omega
    have hsecond : ¬ (0xDC00 ≤ c.toNat ∧ c.toNat ≤ 0xDFFF) := by omega
    simp only [step, hlow, closeUnit, List.reverse_cons, List.reverse_nil, List.nil_append,
      List.cons_append, hnumber, if_neg hpair, if_neg hsecond, Char.ofNat_toNat]
    rfl
  rw [hbegin, run_ok hthird, run_ok hfourth]

/-- However a character stands in a string, it is read as itself. -/
theorem run_escape (c : Char) :
    run ⟨stack, .text role read⟩ (Json.escape c ++ rest) = run ⟨stack, .text role (c :: read)⟩ rest := by
  unfold Json.escape
  by_cases hquote : c = '"'
  · subst hquote
    rfl
  by_cases hslash : c = '\\'
  · subst hslash
    rfl
  rw [if_neg hquote, if_neg hslash]
  by_cases hplain : 0x20 ≤ c.toNat
  · have hstep : step ⟨stack, .text role read⟩ c = .ok ⟨stack, .text role (c :: read)⟩ := by
      simp only [step, if_neg hquote, if_neg hslash, if_neg (Nat.not_lt.mpr hplain)]
    rw [if_pos hplain, List.singleton_append, run_ok hstep]
  rw [if_neg hplain]
  by_cases hnewline : c = '\n'
  · subst hnewline
    rfl
  by_cases hreturn : c = '\r'
  · subst hreturn
    rfl
  by_cases htab : c = '\t'
  · subst htab
    rfl
  rw [if_neg hnewline, if_neg hreturn, if_neg htab]
  by_cases hback : c.toNat = 8
  · rw [if_pos hback, ← Char.ofNat_toNat c, hback]
    rfl
  by_cases hfeed : c.toNat = 12
  · rw [if_neg hback, if_pos hfeed, ← Char.ofNat_toNat c, hfeed]
    rfl
  rw [if_neg hback, if_neg hfeed]
  exact run_unit (Nat.not_le.mp hplain)

theorem run_escaped (cs : List Char) :
    run ⟨stack, .text role read⟩ (cs.flatMap Json.escape ++ '"' :: rest) =
      run (closeText stack (cs.reverse ++ read) role) rest := by
  induction cs generalizing read with
  | nil => rfl
  | cons c cs ih =>
    rw [List.flatMap_cons, List.append_assoc, run_escape, ih, List.reverse_cons, List.append_assoc]
    rfl

theorem run_quote (s : String) :
    run ⟨stack, .text role []⟩ ((quote s).tail ++ rest) =
      run (closeText stack s.toList.reverse role) rest := by
  rw [quote, List.cons_append, List.tail_cons, List.append_assoc, List.singleton_append, run_escaped,
    List.append_nil]

theorem closeText_value (s : String) :
    closeText stack s.toList.reverse .value = ⟨stack, .done (.str s)⟩ := by
  rw [closeText, List.reverse_reverse, String.ofList_toList]

theorem closeText_key (members : Members) (s : String) :
    closeText stack s.toList.reverse (.key members) = ⟨stack, .colon members s⟩ := by
  rw [closeText, List.reverse_reverse, String.ofList_toList]

theorem run_null : run ⟨stack, .value⟩ (nullText ++ rest) = run ⟨stack, .done .null⟩ rest := rfl

theorem run_bool (b : Bool) :
    run ⟨stack, .value⟩ (boolText b ++ rest) = run ⟨stack, .done (.bool b)⟩ rest := by
  cases b with
  | true => rfl
  | false => rfl

theorem run_str (s : String) :
    run ⟨stack, .value⟩ (quote s ++ rest) = run ⟨stack, .done (.str s)⟩ rest := by
  have hopen : run ⟨stack, .value⟩ (quote s ++ rest) =
      run ⟨stack, .text .value []⟩ ((quote s).tail ++ rest) := rfl
  rw [hopen, run_quote, closeText_value]

/-! ### Numbers -/

/-- The text goes on with a character that ends what stands before it. -/
def Closes (rest : List Char) : Prop :=
  ∃ c cs, rest = c :: cs ∧ (c = ',' ∨ c = ']' ∨ c = '}' ∨ isSpace c = true)

variable {n : Numeral}

theorem isSpace_of_isPart (hc : Number.IsPart c) : isSpace c = false := by
  have hblank : c ≠ ' ' ∧ c ≠ '\t' ∧ c ≠ '\n' ∧ c ≠ '\r' :=
    ⟨hc.ne (by decide), hc.ne (by decide), hc.ne (by decide), hc.ne (by decide)⟩
  simp [isSpace, hblank]

theorem openValue_of_isPart (hc : Number.IsPart c) :
    openValue stack c =
      match Numeral.start? c with
      | some n => .ok ⟨stack, .numeral n⟩
      | none => .error .broken := by
  have hquote : c ≠ '"' := hc.ne (by decide)
  have hopen : c ≠ '[' ∧ c ≠ '{' := ⟨hc.ne (by decide), hc.ne (by decide)⟩
  have hword : c ≠ 'n' ∧ c ≠ 't' ∧ c ≠ 'f' :=
    ⟨hc.ne (by decide), hc.ne (by decide), hc.ne (by decide)⟩
  cases hstart : Numeral.start? c <;> simp [openValue, hstart, hquote, hopen, hword]

theorem afterValue_of_isPart (hc : Number.IsPart c) : afterValue stack v c = .error .broken := by
  have hcomma : c ≠ ',' := hc.ne (by decide)
  have hclose : c ≠ ']' ∧ c ≠ '}' := ⟨hc.ne (by decide), hc.ne (by decide)⟩
  unfold afterValue
  rw [isSpace_of_isPart hc, if_neg Bool.false_ne_true]
  match stack with
  | [] => rfl
  | .items _ :: _ => exact (if_neg hcomma).trans (if_neg hclose.1)
  | .members _ _ :: _ => exact (if_neg hcomma).trans (if_neg hclose.2)

theorem run_start (hc : Number.IsPart c) :
    run ⟨stack, .value⟩ (c :: rest) =
      match Numeral.start? c with
      | some n => run ⟨stack, .numeral n⟩ rest
      | none => .error .broken := by
  have hstep : step ⟨stack, .value⟩ c = openValue stack c := by
    simp [step, isSpace_of_isPart hc]
  rw [openValue_of_isPart hc] at hstep
  cases hstart : Numeral.start? c with
  | some n => exact run_ok (by rw [hstep, hstart])
  | none => exact run_broken (by rw [hstep, hstart])

/-- A character of a number goes on with a number that is open, or breaks it. -/
theorem run_more (hc : Number.IsPart c) :
    run ⟨stack, .numeral n⟩ (c :: rest) =
      match n.more? c with
      | some n => run ⟨stack, .numeral n⟩ rest
      | none => .error .broken := by
  match hnext : n.next c with
  | .more m =>
    have hstep : step ⟨stack, .numeral n⟩ c = .ok ⟨stack, .numeral m⟩ := by simp only [step, hnext]
    rw [run_ok hstep, Numeral.more?, hnext]
  | .wrong =>
    have hstep : step ⟨stack, .numeral n⟩ c = .error .broken := by simp only [step, hnext]
    rw [run_broken hstep, Numeral.more?, hnext]
  | .over =>
    -- A complete number is followed by a comma, a bracket or a blank, and the character is none of these.
    have hstep : step ⟨stack, .numeral n⟩ c = .error .broken := by
      simp only [step, hnext, afterValue_of_isPart hc]
      split <;> rfl
    rw [run_broken hstep, Numeral.more?, hnext]

theorem run_foldlM (cs : List Char) (hcs : ∀ c ∈ cs, Number.IsPart c) :
    run ⟨stack, .numeral n⟩ (cs ++ rest) =
      match cs.foldlM Numeral.more? n with
      | some n => run ⟨stack, .numeral n⟩ rest
      | none => .error .broken := by
  induction cs generalizing n with
  | nil => rfl
  | cons c cs ih =>
    obtain ⟨hc, hcs⟩ := List.forall_mem_cons.mp hcs
    rw [List.cons_append, run_more hc, List.foldlM_cons]
    cases n.more? c with
    | none => rfl
    | some n => exact ih hcs

theorem run_text (n : Number) :
    run ⟨stack, .value⟩ (n.text ++ rest) =
      match Numeral.ofChars? n.text with
      | some m => run ⟨stack, .numeral m⟩ rest
      | none => .error .broken := by
  obtain ⟨c, cs, hchars⟩ := List.exists_cons_of_ne_nil n.text_ne_nil
  obtain ⟨hc, hcs⟩ := List.forall_mem_cons.mp (hchars ▸ n.isPart_text)
  rw [hchars, Numeral.ofChars?, List.cons_append, run_start hc]
  cases Numeral.start? c with
  | none => rfl
  | some m => exact run_foldlM cs hcs

theorem next_of_digit? (hdigit : Numeral.digit? c = none) (hc : ¬ Number.IsPart c) (hbig : c ≠ 'E') :
    n.next c = if n.isWhole then .over else .wrong := by
  have hpoint : c ≠ '.' := fun h => hc (h ▸ by decide)
  have hletter : c ≠ 'e' := fun h => hc (h ▸ by decide)
  have hsign : c ≠ '+' ∧ c ≠ '-' := ⟨fun h => hc (h ▸ by decide), fun h => hc (h ▸ by decide)⟩
  unfold Numeral.next Numeral.isWhole
  cases hpart : n.part <;> simp [hdigit, hpoint, hletter, hsign, hbig]

/-- A number is complete where the text goes on with a comma, a bracket or a blank. -/
theorem run_closes (h : Closes rest) :
    run ⟨stack, .numeral n⟩ rest =
      match n.ended? with
      | some m => run ⟨stack, .done (.num m)⟩ rest
      | none => .error .broken := by
  obtain ⟨c, cs, rfl, hc⟩ := h
  have hnext : n.next c = if n.isWhole then .over else .wrong := by
    have hc : c = ',' ∨ c = ']' ∨ c = '}' ∨ c = ' ' ∨ c = '\t' ∨ c = '\n' ∨ c = '\r' := by
      simpa [isSpace, or_assoc] using hc
    rcases hc with rfl | rfl | rfl | rfl | rfl | rfl | rfl
    all_goals exact next_of_digit? rfl (by decide) (by decide)
  unfold Numeral.ended?
  cases hwhole : n.isWhole with
  | false =>
    have hstep : step ⟨stack, .numeral n⟩ c = .error .broken := by
      simp only [step, hnext, hwhole]
      rfl
    exact run_broken hstep
  | true =>
    cases hvalue : n.value? with
    | none =>
      have hstep : step ⟨stack, .numeral n⟩ c = .error .broken := by
        simp only [step, hnext, hwhole, hvalue]
        rfl
      exact run_broken hstep
    | some m =>
      have hstep : step ⟨stack, .numeral n⟩ c = step ⟨stack, .done (.num m)⟩ c := by
        simp only [step, hnext, hwhole, hvalue]
        rfl
      simp only [run, List.foldlM_cons, hstep]
      rfl

/-- The reader goes on behind a value, or has failed within it. -/
def resume (stack : List Frame) (rest : List Char) : Option Json → Except ReadFault State
  | some v => run ⟨stack, .done v⟩ rest
  | none => .error .broken

theorem run_num (n : Number) (h : Closes rest) :
    run ⟨stack, .value⟩ (n.text ++ rest) = resume stack rest (n.reread.map .num) := by
  rw [run_text, Number.reread]
  cases Numeral.ofChars? n.text with
  | none => rfl
  | some m =>
    rw [Option.bind_some]
    refine (run_closes h).trans ?_
    cases m.ended? <;> rfl

/-- Behind a value that was read, the reader goes on as from that value. -/
theorem resume_bind {above : List Frame} (v : Option Json) {f : Json → Option Json}
    (h : ∀ w, run ⟨above, .done w⟩ rest = resume stack tail (f w)) :
    resume above rest v = resume stack tail (v.bind f) := by
  cases v with
  | none => rfl
  | some w => exact h w

/-! ### Blanks -/

/-- The reader waits for a part of a value, so a blank does not move it. -/
def PassesBlanks (s : State) : Prop := ∀ c, isSpace c = true → step s c = .ok s

theorem run_blanks {blanks : List Char} (h : PassesBlanks s) (hblanks : ∀ c ∈ blanks, isSpace c = true) :
    run s (blanks ++ rest) = run s rest := by
  induction blanks with
  | nil => rfl
  | cons c blanks ih =>
    obtain ⟨hc, hblanks⟩ := List.forall_mem_cons.mp hblanks
    rw [List.cons_append, run_ok (h c hc), ih hblanks]

theorem passesBlanks_value : PassesBlanks ⟨stack, .value⟩ := fun c hc => by simp [step, hc]

theorem passesBlanks_firstItem : PassesBlanks ⟨stack, .firstItem⟩ := fun c hc => by simp [step, hc]

theorem passesBlanks_firstKey : PassesBlanks ⟨stack, .firstKey⟩ := fun c hc => by simp [step, hc]

theorem passesBlanks_nextKey {members : Members} : PassesBlanks ⟨stack, .nextKey members⟩ := fun c hc => by
  simp [step, hc]

theorem passesBlanks_done : PassesBlanks ⟨stack, .done v⟩ := fun c hc => by simp [step, afterValue, hc]

/-! ### Arrays and objects -/

variable {members : Members} {b : Spacing} {level : Nat}

theorem closes_line (hc : c = ',' ∨ c = ']' ∨ c = '}') : Closes (b.line level ++ c :: rest) := by
  cases hline : b.line level with
  | nil => exact ⟨c, rest, rfl, hc.imp_right (Or.imp_right Or.inl)⟩
  | cons d line =>
    have hd : isSpace d = true := b.line_blank level d (hline ▸ List.mem_cons_self)
    exact ⟨d, line ++ c :: rest, rfl, Or.inr (Or.inr (Or.inr hd))⟩

theorem closes_spacedItems (items : List Json) (rest : List Char) :
    Closes (spacedItems b level items ++ rest) := by
  cases items with
  | nil =>
    rw [spacedItems, List.append_assoc]
    exact closes_line (by decide)
  | cons v items => exact ⟨',', _, rfl, by decide⟩

theorem closes_spacedMembers (members : Members) (rest : List Char) :
    Closes (spacedMembers b level members ++ rest) := by
  cases members with
  | nil =>
    rw [spacedMembers, List.append_assoc]
    exact closes_line (by decide)
  | cons m members =>
    obtain ⟨key, v⟩ := m
    exact ⟨',', _, rfl, by decide⟩

/-- No text of a value starts with a blank or the end of an array. -/
theorem head_spacedChars (v : Json) :
    ∃ c cs, spacedChars b level v = c :: cs ∧ isSpace c = false ∧ c ≠ ']' := by
  match v with
  | .null => exact ⟨_, _, rfl, rfl, by decide⟩
  | .bool true | .bool false => exact ⟨_, _, rfl, rfl, by decide⟩
  | .str s => exact ⟨_, _, rfl, rfl, by decide⟩
  | .arr [] | .arr (_ :: _) => exact ⟨_, _, rfl, rfl, by decide⟩
  | .obj [] | .obj (_ :: _) => exact ⟨_, _, rfl, rfl, by decide⟩
  | .num n =>
    obtain ⟨c, cs, hchars⟩ := List.exists_cons_of_ne_nil n.text_ne_nil
    obtain ⟨hc, -⟩ := List.forall_mem_cons.mp (hchars ▸ n.isPart_text)
    exact ⟨c, cs, hchars, isSpace_of_isPart hc, hc.ne (by decide)⟩

/-- The first item of an array is read as any value is. -/
theorem run_firstItem (v : Json) (rest : List Char) :
    run ⟨stack, .firstItem⟩ (spacedChars b level v ++ rest) =
      run ⟨stack, .value⟩ (spacedChars b level v ++ rest) := by
  obtain ⟨c, cs, hchars, hspace, hclose⟩ :
      ∃ c cs, spacedChars b level v = c :: cs ∧ isSpace c = false ∧ c ≠ ']' := head_spacedChars v
  have hstep : step ⟨stack, .firstItem⟩ c = step ⟨stack, .value⟩ c := by
    simp [step, hspace, hclose]
  simp only [hchars, List.cons_append, run, List.foldlM_cons, hstep]

theorem run_openArray :
    run ⟨stack, .value⟩ ('[' :: rest) =
      if stack.length < maxDepth then run ⟨.items [] :: stack, .firstItem⟩ rest else .error .broken := by
  split
  · rename_i hroom
    exact run_ok (if_pos hroom)
  · rename_i hfull
    exact run_broken (if_neg hfull)

theorem run_openObject :
    run ⟨stack, .value⟩ ('{' :: rest) =
      if stack.length < maxDepth then run ⟨stack, .firstKey⟩ rest else .error .broken := by
  split
  · rename_i hroom
    exact run_ok (if_pos hroom)
  · rename_i hfull
    exact run_broken (if_neg hfull)

/-- Behind a key the reader waits for the value, past the blanks behind the colon. -/
theorem run_key (key : String) :
    run ⟨stack, .text (.key members) []⟩ ((quote key).tail ++ ':' :: (b.gap ++ rest)) =
      run ⟨.members members key :: stack, .value⟩ rest := by
  have hgap : run ⟨.members members key :: stack, .value⟩ (b.gap ++ rest) =
      run ⟨.members members key :: stack, .value⟩ rest := run_blanks passesBlanks_value b.gap_blank
  rw [run_quote, closeText_key, ← hgap]
  rfl

theorem run_firstKey (key : String) :
    run ⟨stack, .firstKey⟩ (quote key ++ ':' :: (b.gap ++ rest)) =
      run ⟨.members [] key :: stack, .value⟩ rest := by
  rw [← run_key]
  rfl

theorem run_nextKey (key : String) :
    run ⟨stack, .nextKey members⟩ (quote key ++ ':' :: (b.gap ++ rest)) =
      run ⟨.members members key :: stack, .value⟩ rest := by
  rw [← run_key]
  rfl

mutual

/-- The text of a value is read as `reread` tells, whatever the blanks between its parts are. -/
theorem run_spacedChars : (v : Json) → (level : Nat) → (stack : List Frame) → (rest : List Char) →
    (v.kind = .number → Closes rest) →
    run ⟨stack, .value⟩ (spacedChars b level v ++ rest) = resume stack rest (reread stack.length v)
  | .null, _, _, _, _ => run_null
  | .bool b, _, _, _, _ => run_bool b
  | .str s, _, _, _, _ => run_str s
  | .num n, _, _, _, h => run_num n (h rfl)
  | .arr [], level, stack, rest, _ => by
    rw [reread, spacedChars, List.cons_append, run_openArray]
    split
    · rfl
    · rfl
  | .arr (v :: items), level, stack, rest, _ => by
    have htext : spacedChars b level (.arr (v :: items)) ++ rest =
        '[' :: (b.line (level + 1) ++ (spacedChars b (level + 1) v ++
          (spacedItems b level items ++ rest))) := by simp [spacedChars]
    rw [htext, reread, run_openArray]
    split
    · -- The first item is followed by the other items or the end of the array, so a number there is complete.
      rw [run_blanks passesBlanks_firstItem (b.line_blank _), run_firstItem,
        run_spacedChars v _ _ _ fun _ => closes_spacedItems items rest, rereadItems, Option.map_bind]
      refine resume_bind _ fun w => (run_spacedItems items level [] w stack rest).trans ?_
      rw [Function.comp_apply, Option.map_map]
      rfl
    · rfl
  | .obj [], level, stack, rest, _ => by
    rw [reread, spacedChars, List.cons_append, run_openObject]
    split
    · rfl
    · rfl
  | .obj ((key, v) :: members), level, stack, rest, _ => by
    have htext : spacedChars b level (.obj ((key, v) :: members)) ++ rest =
        '{' :: (b.line (level + 1) ++ (quote key ++ ':' :: (b.gap ++ (spacedChars b (level + 1) v ++
          (spacedMembers b level members ++ rest))))) := by
      simp [spacedChars]
    rw [htext, reread, run_openObject]
    split
    · rw [run_blanks passesBlanks_firstKey (b.line_blank _), run_firstKey,
        run_spacedChars v _ _ _ fun _ => closes_spacedMembers members rest, rereadMembers, Option.map_bind]
      exact resume_bind _ fun w => run_spacedMembers members level [] key w stack rest
    · rfl

/-- An array whose items so far were read goes on with its other items. -/
theorem run_spacedItems : (items : List Json) → (level : Nat) → (read : List Json) → (w : Json) →
    (stack : List Frame) → (rest : List Char) →
    run ⟨.items read :: stack, .done w⟩ (spacedItems b level items ++ rest) =
      resume stack rest ((rereadItems (stack.length + 1) items).map fun ws =>
        .arr ((w :: read).reverse ++ ws))
  | [], level, read, w, stack, rest => by
    rw [rereadItems, Option.map_some, List.append_nil, spacedItems, List.append_assoc,
      run_blanks passesBlanks_done (b.line_blank _)]
    rfl
  | v :: items, level, read, w, stack, rest => by
    have htext : spacedItems b level (v :: items) ++ rest =
        ',' :: (b.line (level + 1) ++ (spacedChars b (level + 1) v ++
          (spacedItems b level items ++ rest))) := by simp [spacedItems]
    have hcomma : step ⟨.items read :: stack, .done w⟩ ',' = .ok ⟨.items (w :: read) :: stack, .value⟩ := rfl
    rw [htext, run_ok hcomma, run_blanks passesBlanks_value (b.line_blank _),
      run_spacedChars v _ _ _ fun _ => closes_spacedItems items rest, rereadItems, Option.map_bind]
    refine resume_bind _ fun u => (run_spacedItems items level (w :: read) u stack rest).trans ?_
    rw [Function.comp_apply, Option.map_map]
    simp [Function.comp_def]

/-- An object whose members so far were read goes on with its other members. -/
theorem run_spacedMembers : (members : Members) → (level : Nat) → (read : Members) → (key : String) →
    (w : Json) → (stack : List Frame) → (rest : List Char) →
    run ⟨.members read key :: stack, .done w⟩ (spacedMembers b level members ++ rest) =
      resume stack rest ((rereadMembers (stack.length + 1) members (Members.insert key w read)).map .obj)
  | [], level, read, key, w, stack, rest => by
    rw [spacedMembers, List.append_assoc, run_blanks passesBlanks_done (b.line_blank _)]
    rfl
  | (next, v) :: members, level, read, key, w, stack, rest => by
    have htext : spacedMembers b level ((next, v) :: members) ++ rest =
        ',' :: (b.line (level + 1) ++ (quote next ++ ':' :: (b.gap ++ (spacedChars b (level + 1) v ++
          (spacedMembers b level members ++ rest))))) := by
      simp [spacedMembers]
    have hcomma : step ⟨.members read key :: stack, .done w⟩ ',' =
        .ok ⟨stack, .nextKey (Members.insert key w read)⟩ := rfl
    rw [htext, run_ok hcomma, run_blanks passesBlanks_nextKey (b.line_blank _), run_nextKey,
      run_spacedChars v _ _ _ fun _ => closes_spacedMembers members rest, rereadMembers, Option.map_bind]
    exact resume_bind _ fun u =>
      run_spacedMembers members level (Members.insert key w read) next u stack rest

end

end Reader

/-! ### What is read of a whole text -/

variable {v : Json} {members read out : Members} {k : Nat}

theorem readChars_spacedChars (b : Spacing) (hv : v.kind ≠ .number) :
    readChars (spacedChars b 0 v) = (reread 0 v).elim (.error .broken) .ok := by
  have hrun := Reader.run_spacedChars (b := b) v 0 [] [] fun h => absurd h hv
  rw [List.append_nil] at hrun
  rw [readChars, Reader.start, hrun]
  cases reread 0 v with
  | none => rfl
  | some w => rfl

/-- The text of a value other than a number is read as `reread` tells, or it is refused. -/
theorem read_compact_eq (hv : v.kind ≠ .number) :
    Json.read (compact v) = (reread 0 v).elim (.error .broken) .ok := by
  rw [Json.read, compact, String.toList_ofList, compactChars_eq v 0]
  exact readChars_spacedChars .none hv

/-- The text on indented lines is read as the text on one line is. -/
theorem read_pretty (v : Json) : Json.read (pretty v) = Json.read (compact v) := by
  by_cases hv : v.kind = .number
  · cases v with
    | num n => rfl
    | _ => cases hv
  · rw [read_compact_eq hv, Json.read, pretty, String.toList_ofList, prettyChars_eq v 0]
    exact readChars_spacedChars .indented hv

/-- The text of a number alone is read as the number is within a value. -/
theorem read_compact_num {n m : Number} (h : n.reread = some m) :
    Json.read (compact (.num n)) = .ok (.num m) := by
  obtain ⟨whole, hwhole, hended⟩ := Option.bind_eq_some_iff.mp h
  have hrun : Reader.run ⟨[], .value⟩ (n.text ++ []) = _ := Reader.run_text n
  rw [List.append_nil, hwhole] at hrun
  have hchars : Json.read (compact (.num n)) = Reader.finish ⟨[], .numeral whole⟩ := by
    rw [Json.read, compact, compactChars, String.toList_ofList, readChars, Reader.start, hrun]
    rfl
  unfold Numeral.ended? at hended
  split at hended
  · rename_i hpart
    rw [hchars, Reader.finish]
    simp [hpart, hended]
  · cases hended

theorem keys_rereadMembers (h : rereadMembers k members read = some out) :
    ∀ key ∈ Members.keys out, key ∈ Members.keys members ∨ key ∈ Members.keys read := by
  induction members generalizing read with
  | nil =>
    cases h
    exact fun key hkey => Or.inr hkey
  | cons m members ih =>
    obtain ⟨name, v⟩ := m
    obtain ⟨w, -, h⟩ := Option.bind_eq_some_iff.mp h
    intro key hkey
    rcases ih h key hkey with hkey | hkey
    · exact Or.inl (List.mem_cons_of_mem _ hkey)
    · obtain ⟨m, hm, rfl⟩ := List.mem_map.mp hkey
      rcases Members.mem_insert hm with rfl | hm
      · exact Or.inl List.mem_cons_self
      · exact Or.inr (List.mem_map_of_mem hm)

/-- An object is read as an object, which has no key that was not written. -/
theorem keys_reread (h : reread k (.obj members) = some v) :
    ∃ out, v = .obj out ∧ ∀ key ∈ Members.keys out, key ∈ Members.keys members := by
  rw [reread] at h
  split at h
  · obtain ⟨out, hout, rfl⟩ := Option.map_eq_some_iff.mp h
    refine ⟨out, rfl, fun key hkey => ?_⟩
    exact (keys_rereadMembers hout key hkey).resolve_right nofun
  · cases h

mutual

/-- A value that fits where it stands is read as itself, its members in order. -/
theorem reread_of_bounded : (v : Json) → (k levels : Nat) → k + levels ≤ Reader.maxDepth →
    v.Bounded levels → (∀ n ∈ v.numbers, n.IsInt) → reread k v = some v.sorted
  | .null, _, _, _, _, _ | .bool _, _, _, _, _, _ | .str _, _, _, _, _, _ => rfl
  | .num n, _, _, _, hb, hn => by
    obtain ⟨i, rfl⟩ := hn n (List.mem_singleton_self n)
    rw [reread, Number.reread_int (bounded_num.mp hb)]
    rfl
  | .arr items, k, 0, _, hb, _ => absurd hb not_bounded_arr
  | .arr items, k, levels + 1, hk, hb, hn => by
    have hitems := rereadItems_of_bounded items (k + 1) levels (by omega) (bounded_arr.mp hb)
      fun v hv n hmem => hn n (mem_numbers_arr.mpr ⟨v, hv, hmem⟩)
    rw [reread, if_pos (by omega), hitems]
    rfl
  | .obj members, k, 0, _, hb, _ => absurd hb not_bounded_obj
  | .obj members, k, levels + 1, hk, hb, hn => by
    have hmembers := rereadMembers_of_bounded members (k + 1) levels [] (by omega) (bounded_obj.mp hb)
      fun m hm n hmem => hn n (mem_numbers_obj.mpr ⟨m, hm, hmem⟩)
    rw [reread, if_pos (by omega), hmembers]
    rfl

theorem rereadItems_of_bounded : (items : List Json) → (k levels : Nat) → k + levels ≤ Reader.maxDepth →
    (∀ v ∈ items, v.Bounded levels) → (∀ v ∈ items, ∀ n ∈ v.numbers, n.IsInt) →
    rereadItems k items = some (sortedItems items)
  | [], _, _, _, _, _ => rfl
  | v :: items, k, levels, hk, hb, hn => by
    obtain ⟨hv, hb⟩ := List.forall_mem_cons.mp hb
    obtain ⟨hvn, hn⟩ := List.forall_mem_cons.mp hn
    rw [rereadItems, reread_of_bounded v k levels hk hv hvn, Option.bind_some,
      rereadItems_of_bounded items k levels hk hb hn]
    rfl

theorem rereadMembers_of_bounded : (members : Members) → (k levels : Nat) → (read : Members) →
    k + levels ≤ Reader.maxDepth → (∀ m ∈ members, m.2.Bounded levels) →
    (∀ m ∈ members, ∀ n ∈ m.2.numbers, n.IsInt) →
    rereadMembers k members read =
      some ((sortedMembers members).foldl (fun sorted m => Members.insert m.1 m.2 sorted) read)
  | [], _, _, _, _, _, _ => rfl
  | (key, v) :: members, k, levels, read, hk, hb, hn => by
    obtain ⟨hv, hb⟩ := List.forall_mem_cons.mp hb
    obtain ⟨hvn, hn⟩ := List.forall_mem_cons.mp hn
    rw [rereadMembers, reread_of_bounded v k levels hk hv hvn, Option.bind_some,
      rereadMembers_of_bounded members k levels _ hk hb hn]
    rfl

end

/-- What the text of a value within is read as, that of the whole is. -/
theorem read_compact_of_reread {w : Json} (h : reread 0 v = some w) : Json.read (compact v) = .ok w := by
  by_cases hv : v.kind = .number
  · cases v with
    | num n =>
      obtain ⟨m, hm, rfl⟩ := Option.map_eq_some_iff.mp h
      exact read_compact_num hm
    | _ => cases hv
  · rw [read_compact_eq hv, h]
    rfl

/-- A value within the bounds of a text whose numbers are whole is read as itself, its members in order. -/
theorem read_compact (hb : v.Bounded Reader.maxDepth) (hn : ∀ n ∈ v.numbers, n.IsInt) :
    Json.read (compact v) = .ok v.sorted :=
  read_compact_of_reread (reread_of_bounded v 0 _ (Nat.zero_add _ ▸ Nat.le_refl _) hb hn)

end LanguageServer.Json
