import CommandBot.Proofs.Text.Cut
import CommandBot.Text.Lines

namespace CommandBot.Text

/-- The bytes of a text. A byte below 128 is a character of its own, so the line feeds of a stream
are those of the texts in it. -/
def utf8 (text : String) : List UInt8 := text.toList.flatMap String.utf8EncodeChar

@[simp] theorem utf8_append (text later : String) :
    utf8 (text ++ later) = utf8 text ++ utf8 later := by
  simp [utf8]

theorem utf8_join (texts : List String) : utf8 (String.join texts) = texts.flatMap utf8 := by
  rw [utf8, String.toList_join, List.flatMap_assoc]
  rfl

/-! ### Bytes and texts -/

/-- The bytes of an array are read from a position on, behind those that were read before. -/
theorem toList_loop_eq (bytes : ByteArray) (i : Nat) (read : List UInt8) :
    ByteArray.toList.loop bytes i read = read.reverse ++ bytes.data.toList.drop i := by
  induction i, read using ByteArray.toList.loop.induct bytes with
  | case1 i read hi ih =>
    have hnext : bytes.data.toList.drop i = bytes.get! i :: bytes.data.toList.drop (i + 1) := by
      rw [List.drop_eq_getElem_cons (by simpa using hi)]
      simp [ByteArray.get!, hi]
    rw [ByteArray.toList.loop, if_pos hi, ih, hnext]
    simp
  | case2 i read hi =>
    have hend : bytes.data.toList.drop i = [] := List.drop_of_length_le (by simpa using hi)
    rw [ByteArray.toList.loop, if_neg hi, hend, List.append_nil]

/-- The bytes that are sent for a text are its UTF-8. -/
theorem toList_toUTF8 (text : String) : text.toUTF8.toList = utf8 text := by
  rw [ByteArray.toList, toList_loop_eq, String.toUTF8_eq_toByteArray, ← String.utf8Encode_toList,
    List.utf8Encode, List.toList_data_toByteArray, List.drop_zero, List.reverse_nil,
    List.nil_append, utf8]

theorem fromUTF8?_utf8 (text : String) : String.fromUTF8? ⟨(utf8 text).toArray⟩ = some text := by
  have hbytes : (⟨(utf8 text).toArray⟩ : ByteArray) = text.toByteArray := by
    rw [← String.utf8Encode_toList]
    exact ByteArray.ext (by rw [utf8, List.utf8Encode, List.data_toByteArray])
  rw [hbytes, String.fromUTF8?, dif_pos text.isValidUTF8]
  rfl

/-- No byte below 128 is part of a longer encoding. -/
theorem toNat_eq_of_mem_utf8EncodeChar {c : Char} {byte : UInt8} (hlow : byte.toNat < 128)
    (h : byte ∈ String.utf8EncodeChar c) : c.toNat = byte.toNat := by
  have hc : c.val.toNat = c.toNat := Char.toNat_val
  simp only [String.utf8EncodeChar, hc] at h
  split at h
  · rw [List.mem_singleton.1 h, UInt8.toNat_ofNat']
    omega
  -- Every byte of a longer encoding has the top bit.
  all_goals
    repeat' split at h
    all_goals
      simp only [List.mem_cons, List.not_mem_nil, or_false] at h
      rcases h with rfl | rfl | rfl | rfl <;> rw [UInt8.toNat_ofNat'] at hlow <;> omega

/-- The bytes below 128 of a text are its characters below 128. -/
theorem mem_toList_of_mem_utf8 {text : String} {c : Char} (hlow : c.toNat < 128)
    (h : UInt8.ofNat c.toNat ∈ utf8 text) : c ∈ text.toList := by
  obtain ⟨d, hd, hbyte⟩ := List.mem_flatMap.1 h
  have hvalue : (UInt8.ofNat c.toNat).toNat = c.toNat := by
    rw [UInt8.toNat_ofNat']
    omega
  have hsame : d.toNat = c.toNat := by
    rw [toNat_eq_of_mem_utf8EncodeChar (by omega) hbyte, hvalue]
  rwa [← Char.toNat_inj.1 hsame]

/-! ### Lines with their ends -/

theorem dropReturn_append_return (line : List UInt8) : dropReturn (line ++ [13]) = line := by
  simp [dropReturn]

/-- The first line of a stream ends at the first line feed, and the other lines are those of what
follows it. -/
theorem splitLines_append_feed {line : List UInt8} (h : 10 ∉ line) (rest : List UInt8) :
    splitLines (line ++ 10 :: rest) = dropReturn line :: splitLines rest := by
  rw [splitLines, dropLast_splitOn_append_mark h, getLast?_splitOn_append_mark h]
  rfl

/-- What follows the last line feed is a line only if it is not empty. -/
theorem splitLines_of_notMem {last : List UInt8} (h : 10 ∉ last) :
    splitLines last = if last.isEmpty then [] else [last] := by
  simp [splitLines, splitOn_of_notMem h]

/-- Lines that hold no line feed are read back from a stream in which each has its end. -/
theorem splitLines_flatMap_end {lines : List (List UInt8)} (h : ∀ line ∈ lines, 10 ∉ line) :
    splitLines (lines.flatMap (· ++ [13, 10])) = lines := by
  induction lines with
  | nil => rfl
  | cons line lines ih =>
    obtain ⟨hline, hlines⟩ := List.forall_mem_cons.1 h
    have hstream : (line :: lines).flatMap (· ++ [13, 10]) =
        (line ++ [13]) ++ 10 :: lines.flatMap (· ++ [13, 10]) := by
      simp
    rw [hstream, splitLines_append_feed (by simpa using hline), dropReturn_append_return,
      ih hlines]

/-- Lines that are texts are all read, and none breaks the stream. -/
theorem decodeLines_map_utf8 (texts : List String) :
    decodeLines (texts.map utf8) = ⟨texts, false⟩ := by
  induction texts with
  | nil => rfl
  | cons text texts ih => simp [decodeLines, fromUTF8?_utf8, ih]

/-- Texts without line feeds are read back from the stream of their lines, in order. -/
theorem Lines.ofBytes_join_append_end {texts : List String}
    (h : ∀ text ∈ texts, '\n' ∉ text.toList) :
    Lines.ofBytes (String.join (texts.map (· ++ "\r\n"))).toUTF8 = ⟨texts, false⟩ := by
  have hstream : utf8 (String.join (texts.map (· ++ "\r\n"))) =
      (texts.map utf8).flatMap (· ++ [13, 10]) := by
    have hend : utf8 "\r\n" = [13, 10] := by decide
    simp [utf8_join, List.flatMap_map, hend]
  have hclean : ∀ line ∈ texts.map utf8, (10 : UInt8) ∉ line := by
    intro line hline
    obtain ⟨text, htext, rfl⟩ := List.mem_map.1 hline
    exact fun hfeed => h text htext (mem_toList_of_mem_utf8 (by decide) hfeed)
  rw [Lines.ofBytes, toList_toUTF8, hstream, splitLines_flatMap_end hclean, decodeLines_map_utf8]

/-! ### Reading piece by piece -/

/-- The pieces in which a stream is read, each up to a line feed and with it. -/
def pieces (stream : List UInt8) : List (List UInt8) :=
  let parts := splitOn 10 stream
  parts.dropLast.map (· ++ [10]) ++ parts.getLast?.toList

/-- The lines of pieces that are read one after the other, up to the first that holds none. -/
def Lines.ofPieces : List (List UInt8) → Lines
  | [] => ⟨[], false⟩
  | piece :: later =>
    let first := decodeLines (splitLines piece)
    if first.lines.isEmpty then first
    else
      let rest := ofPieces later
      ⟨first.lines ++ rest.lines, rest.broken⟩

/-- The first piece ends with the first line feed. -/
theorem pieces_append_feed {line : List UInt8} (h : 10 ∉ line) (rest : List UInt8) :
    pieces (line ++ 10 :: rest) = (line ++ [10]) :: pieces rest := by
  rw [pieces, dropLast_splitOn_append_mark h, getLast?_splitOn_append_mark h]
  rfl

theorem pieces_of_notMem {last : List UInt8} (h : 10 ∉ last) : pieces last = [last] := by
  simp [pieces, splitOn_of_notMem h]

/-- A program that reads a stream piece by piece, and stops where it finds no line, reads the lines
of the whole stream. A line that is no text stops both. -/
theorem Lines.ofPieces_pieces (stream : List UInt8) :
    Lines.ofPieces (pieces stream) = decodeLines (splitLines stream) := by
  induction hlength : stream.length using Nat.strongRecOn generalizing stream with
  | _ n ih =>
    subst hlength
    by_cases hfeed : 10 ∈ stream
    · obtain ⟨line, rest, rfl, hline⟩ := List.eq_append_cons_of_mem hfeed
      have hrest := ih rest.length (by simp; omega) rest rfl
      rw [pieces_append_feed hline, splitLines_append_feed hline, Lines.ofPieces, hrest,
        splitLines_append_feed hline []]
      cases htext : String.fromUTF8? ⟨(dropReturn line).toArray⟩ <;>
        simp [splitLines, splitOn, decodeLines, htext]
    · rw [pieces_of_notMem hfeed, splitLines_of_notMem hfeed, Lines.ofPieces,
        splitLines_of_notMem hfeed]
      cases stream with
      | nil => rfl
      | cons byte bytes =>
        cases htext : String.fromUTF8? ⟨(byte :: bytes).toArray⟩ <;>
          simp [decodeLines, htext, Lines.ofPieces]

end CommandBot.Text
