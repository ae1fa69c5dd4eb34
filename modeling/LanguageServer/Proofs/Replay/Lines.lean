import LanguageServer.Proofs.Text.Blank
import LanguageServer.Replay.Lines

/-! The lines of a recording. Lines of text that are written one after the other, each with a line feed
    behind it, are read back as they were: a line feed is one byte of UTF-8, and this byte is part of no
    other character. -/

namespace LanguageServer.Replay

/-- A line of text. -/
abbrev TextLine := { text : String // '\n' ∉ text.toList }

/-- The bytes of lines, each with a line feed behind it. -/
def recording (ls : List TextLine) : List UInt8 :=
  ls.flatMap fun l => l.1.toUTF8.data.toList ++ [10]

/-! ### The bytes of a text -/

theorem eq_of_ofNat {n : Nat} (h : (10 : UInt8) = UInt8.ofNat n) (hn : n < 256) : n = 10 := by
  have h := congrArg UInt8.toNat h
  rw [UInt8.toNat_ofNat_of_lt' hn] at h
  exact h.symm

theorem feed_ne_ofNat {n : Nat} (hlow : 127 < n) (hhigh : n < 256) : (10 : UInt8) ≠ UInt8.ofNat n := by
  intro h
  have h := eq_of_ofNat h hhigh
  omega

/-- Of a character of several bytes, all are above 127. -/
theorem eq_of_mem_utf8EncodeChar {c : Char} (h : 10 ∈ String.utf8EncodeChar c) : c = '\n' := by
  have hc : c.val.toNat = 10 := by
    rw [String.utf8EncodeChar] at h
    repeat' split at h
    all_goals simp only [List.mem_cons, List.not_mem_nil, or_false] at h
    · exact eq_of_ofNat h (by omega)
    · rcases h with h | h <;> exact absurd h (feed_ne_ofNat (by omega) (by omega))
    · rcases h with h | h | h <;> exact absurd h (feed_ne_ofNat (by omega) (by omega))
    · rcases h with h | h | h | h <;> exact absurd h (feed_ne_ofNat (by omega) (by omega))
  exact Char.ext (UInt32.toNat_inj.mp hc)

theorem data_toUTF8 (text : String) :
    text.toUTF8.data.toList = text.toList.flatMap String.utf8EncodeChar := by
  rw [String.toUTF8_eq_toByteArray, ← String.utf8Encode_toList, List.utf8Encode, List.data_toByteArray]

theorem feed_notMem (l : TextLine) : 10 ∉ l.1.toUTF8.data.toList := by
  intro h
  rw [data_toUTF8] at h
  obtain ⟨c, hc, hmem⟩ := List.mem_flatMap.mp h
  exact l.2 (eq_of_mem_utf8EncodeChar hmem ▸ hc)

theorem decode_toUTF8 (text : String) : decode text.toUTF8.data.toList = some text := by
  have hbytes : text.toUTF8.data.toList.toByteArray = text.toByteArray := by
    rw [data_toUTF8]
    exact String.utf8Encode_toList
  rw [decode, hbytes, String.fromUTF8?, dif_pos text.isValidUTF8]
  rfl

/-! ### Splitting at line feeds -/

theorem splitFrom_append {line rest : List UInt8} (h : 10 ∉ line) (front : List UInt8) :
    splitFrom front (line ++ 10 :: rest) = (front.reverse ++ line) :: splitFrom [] rest := by
  induction line generalizing front with
  | nil => simp [splitFrom]
  | cons b line ih =>
    obtain ⟨hb, hline⟩ := not_or.mp (mt List.mem_cons.mpr h)
    rw [List.cons_append, splitFrom, if_neg (Ne.symm hb), ih hline, List.reverse_cons, List.append_assoc]
    rfl

theorem splitFrom_of_notMem {line : List UInt8} (h : 10 ∉ line) (front : List UInt8) :
    splitFrom front line = if (front.reverse ++ line).isEmpty then [] else [front.reverse ++ line] := by
  induction line generalizing front with
  | nil => simp [splitFrom]
  | cons b line ih =>
    obtain ⟨hb, hline⟩ := not_or.mp (mt List.mem_cons.mpr h)
    rw [splitFrom, if_neg (Ne.symm hb), ih hline, List.reverse_cons, List.append_assoc]
    rfl

theorem lines_recording_append (ls : List TextLine) (rest : List UInt8) :
    lines (recording ls ++ rest) = ls.map (fun l => some l.1) ++ lines rest := by
  induction ls with
  | nil => rfl
  | cons l ls ih =>
    have hcons : recording (l :: ls) ++ rest = l.1.toUTF8.data.toList ++ 10 :: (recording ls ++ rest) := by
      rw [recording, List.flatMap_cons, List.append_assoc, List.append_assoc]
      rfl
    rw [lines, hcons, splitFrom_append (feed_notMem l), List.map_cons, List.map_cons, List.reverse_nil,
      List.nil_append, decode_toUTF8]
    exact congrArg _ ih

theorem lines_recording (ls : List TextLine) : lines (recording ls) = ls.map fun l => some l.1 := by
  have h := lines_recording_append ls []
  rwa [List.append_nil, show lines [] = [] from rfl, List.append_nil] at h

/-- Without a line feed behind it, a line is read back unless there is nothing in it. -/
theorem lines_last (l : TextLine) : lines l.1.toUTF8.data.toList = if l.1 = "" then [] else [some l.1] := by
  rw [lines, splitFrom_of_notMem (feed_notMem l), List.reverse_nil, List.nil_append]
  by_cases h : l.1 = ""
  · rw [if_pos h, h]
    rfl
  · have hbytes : l.1.toUTF8.data.toList ≠ [] := by
      intro hnil
      have hdecode := decode_toUTF8 l.1
      rw [hnil] at hdecode
      exact h (Option.some.inj hdecode).symm
    rw [List.isEmpty_eq_false_iff.mpr hbytes, if_neg h]
    exact congrArg (fun line => [line]) (decode_toUTF8 l.1)

/-! ### The lines of a text -/

/-- A line with one more character before it. -/
def TextLine.cons (c : Char) (h : c ≠ '\n') (l : TextLine) : TextLine :=
  ⟨String.ofList (c :: l.1.toList), by simpa using ⟨h.symm, l.2⟩⟩

/-- A text is made of lines with line feeds behind them, and a last line without. -/
theorem exists_lines (text : List Char) : ∃ (ls : List TextLine) (last : TextLine),
    text = ls.flatMap (fun l => l.1.toList ++ ['\n']) ++ last.1.toList ∧
      text.splitOn '\n' = ls.map (·.1.toList) ++ [last.1.toList] := by
  induction text with
  | nil => exact ⟨[], ⟨"", nofun⟩, rfl, rfl⟩
  | cons c text ih =>
    obtain ⟨ls, last, htext, hsplit⟩ := ih
    rw [List.splitOn_cons_eq_if_modifyHead, hsplit]
    by_cases hc : c = '\n'
    · exact ⟨⟨"", nofun⟩ :: ls, last, by simp [htext, hc], by simp [hc]⟩
    · cases ls with
      | nil => exact ⟨[], .cons c hc last, by simp [htext, TextLine.cons], by simp [hc, TextLine.cons]⟩
      | cons l ls =>
        exact ⟨.cons c hc l :: ls, last, by simp [htext, TextLine.cons], by simp [hc, TextLine.cons]⟩

/-- The lines of a text are what line feeds part it into, but for the last one if there is nothing in it. -/
theorem lines_toUTF8 (text : String) : ∃ (ls : List TextLine) (last : TextLine),
    lines text.toUTF8.data.toList = ls.map (fun l => some l.1) ++ (if last.1 = "" then [] else [some last.1]) ∧
      text.toList.splitOn '\n' = ls.map (·.1.toList) ++ [last.1.toList] := by
  obtain ⟨ls, last, htext, hsplit⟩ := exists_lines text.toList
  refine ⟨ls, last, ?_, hsplit⟩
  rw [← lines_last, ← lines_recording_append, data_toUTF8, htext, List.flatMap_append, List.flatMap_assoc,
    ← data_toUTF8]
  refine congrArg (fun bytes => lines (bytes ++ _)) ?_
  rw [recording]
  refine congrArg (fun g => ls.flatMap g) (funext fun l => ?_)
  rw [List.flatMap_append, data_toUTF8]
  rfl

end LanguageServer.Replay
