import CommandBot.Irc
import CommandBot.Proofs.Text.Lines

namespace CommandBot.Irc

open Text (hasBlank isPrefixOf?_append splitAt?_append_mark)

/-- A character of a line end becomes a space, and any other one stays. -/
def spaced (c : Char) : Char := if c = '\r' ∨ c = '\n' then ' ' else c

theorem spaced_ne_return (c : Char) : spaced c ≠ '\r' := by
  unfold spaced
  split
  · decide
  · simp_all

/-- No character of a line end is left in a text that is said. -/
theorem spaced_ne_feed (c : Char) : spaced c ≠ '\n' := by
  unfold spaced
  split
  · decide
  · simp_all

theorem unbroken_eq (text : String) : unbroken text = String.ofList (text.toList.map spaced) := by
  simp only [unbroken, beq_iff_eq, Bool.or_eq_true]
  rfl

/-- A text that is said has a character for each character of the text, so nothing of it is lost but
line ends. -/
@[simp] theorem toList_unbroken (text : String) :
    (unbroken text).toList = text.toList.map spaced := by
  rw [unbroken_eq, String.toList_ofList]

theorem feed_notMem_header {channel : String} (h : '\n' ∉ channel.toList) :
    '\n' ∉ (header channel).toList := by
  simpa [header] using h

/-- The stream of frames has one line for each text said. -/
theorem ofBytes_frames {channel : String} (h : '\n' ∉ channel.toList) (texts : List String) :
    Text.Lines.ofBytes (String.join (texts.map (frame channel))).toUTF8 =
      ⟨texts.map fun text => header channel ++ unbroken text, false⟩ := by
  have hframes : texts.map (frame channel) =
      (texts.map fun text => header channel ++ unbroken text).map (· ++ "\r\n") := by
    simp [frame]
  rw [hframes]
  refine Text.Lines.ofBytes_join_append_end fun line hline => ?_
  obtain ⟨text, -, rfl⟩ := List.mem_map.1 hline
  simpa using ⟨feed_notMem_header h, fun c _ => spaced_ne_feed c⟩

/-! ### Reading a frame -/

/-- The end of a line goes, and nothing of the characters before it that are not of a line end. -/
theorem dropLineEnd_append_end (lead : List Char) {clean : List Char} (hne : clean ≠ [])
    (h : ∀ c ∈ clean, c ≠ '\r' ∧ c ≠ '\n') :
    dropLineEnd (lead ++ clean ++ ['\r', '\n']) = lead ++ clean := by
  obtain ⟨hreturn, hfeed⟩ := h _ (List.getLast_mem hne)
  rw [← List.dropLast_concat_getLast hne]
  simp [dropLineEnd, hreturn, hfeed]

/-- A frame loses its end and keeps all of its text, whatever ends the text. -/
theorem dropLineEnd_append_frame (lead : List Char) (channel text : String) :
    dropLineEnd (lead ++ (frame channel text).toList) =
      lead ++ ((header channel).toList ++ text.toList.map spaced) := by
  have hclean : ∀ c ∈ ':' :: text.toList.map spaced, c ≠ '\r' ∧ c ≠ '\n' := by
    intro c hc
    rcases List.mem_cons.1 hc with rfl | hc
    · decide
    · obtain ⟨d, -, rfl⟩ := List.mem_map.1 hc
      exact ⟨spaced_ne_return d, spaced_ne_feed d⟩
  have h := dropLineEnd_append_end (lead ++ "PRIVMSG ".toList ++ channel.toList ++ [' '])
    (List.cons_ne_nil _ _) hclean
  simpa [frame, header] using h

/-- A line that a frame makes with a source in front of it is a message: the source up to its first
exclamation mark, and the text said. -/
theorem message?_frame (channel text : String) {source : String} (hspace : ' ' ∉ source.toList)
    (hnick : source.toList.takeWhile (· != '!') ≠ []) :
    message? channel (":" ++ source ++ " " ++ frame channel text) =
      some ⟨String.ofList (source.toList.takeWhile (· != '!')),
        String.ofList (text.toList.map spaced)⟩ := by
  have hline : dropLineEnd (":" ++ source ++ " " ++ frame channel text).toList =
      [':'] ++ (source.toList ++ ' ' :: ((header channel).toList ++ text.toList.map spaced)) := by
    have h := dropLineEnd_append_frame (':' :: (source.toList ++ [' '])) channel text
    simpa using h
  have htags : ∀ cs, afterTags? ([':'] ++ cs) = some ([':'] ++ cs) := fun _ => rfl
  simp only [message?, hline, htags, isPrefixOf?_append, splitAt?_append_mark hspace,
    List.isEmpty_iff, if_neg hnick, Option.bind_eq_bind, Option.bind_some, Option.pure_def]

/-- The nick is what is before the first exclamation mark of a source. -/
theorem takeWhile_source {nick source : String} (hbang : '!' ∉ nick.toList)
    (h : source = nick ∨ ∃ rest, source = nick ++ "!" ++ rest) :
    source.toList.takeWhile (· != '!') = nick.toList := by
  have hnick : ∀ c ∈ nick.toList, (c != '!') = true := by
    intro c hc
    simpa using fun heq : c = '!' => hbang (heq ▸ hc)
  rcases h with rfl | ⟨rest, rfl⟩
  · simpa using @List.takeWhile_append_of_pos _ _ _ [] hnick
  · simp [List.takeWhile_append_of_pos hnick]

/-- No text breaks the framing: the stream of the frames has one line for each text, in order, and
nothing else. And whoever gets a frame with its source in front reads the nick and the text, in
which one space stands for each carriage return and each line feed. -/
theorem frames_read_back {channel : String} (hfeed : '\n' ∉ channel.toList) :
    (∀ texts : List String,
      Text.Lines.ofBytes (String.join (texts.map (frame channel))).toUTF8 =
        ⟨texts.map fun text =>
          "PRIVMSG " ++ channel ++ " :" ++ String.ofList (text.toList.map spaced), false⟩) ∧
    ∀ nick source text : String, nick ≠ "" → '!' ∉ nick.toList →
      (source = nick ∨ ∃ rest, source = nick ++ "!" ++ rest) → hasBlank source = false →
      message? channel (":" ++ source ++ " " ++ frame channel text) =
        some ⟨nick, String.ofList (text.toList.map spaced)⟩ := by
  refine ⟨fun texts => ?_, fun nick source text hne hbang hsource hblank => ?_⟩
  · simpa only [unbroken_eq, header] using ofBytes_frames hfeed texts
  · have hspace : ' ' ∉ source.toList := by
      intro hmem
      have hany : hasBlank source = true := List.any_eq_true.2 ⟨' ', hmem, Text.isBlank_space⟩
      rw [hblank] at hany
      exact Bool.false_ne_true hany
    have hnick := takeWhile_source hbang hsource
    rw [message?_frame channel text hspace (by simpa [hnick] using hne), hnick,
      String.ofList_toList]

/-- A text that tries to join another channel is one line of the stream, and reads as one text. -/
theorem frames_read_back_injection :
    Text.Lines.ofBytes (String.join (["a\r\nJOIN #x", "", "\r"].map (frame "#host"))).toUTF8 =
        ⟨["PRIVMSG #host :a  JOIN #x", "PRIVMSG #host :", "PRIVMSG #host : "], false⟩ ∧
      message? "#host" (":bot!bot@host " ++ frame "#host" "a\r\nJOIN #x") =
        some ⟨"bot", "a  JOIN #x"⟩ := by
  obtain ⟨hlines, hmessage⟩ := @frames_read_back "#host" (by decide)
  refine ⟨(hlines _).trans (congrArg (Text.Lines.mk · false) (by decide)), ?_⟩
  exact hmessage "bot" "bot!bot@host" "a\r\nJOIN #x" (by decide) (by decide)
    (Or.inr ⟨"bot@host", rfl⟩) (by decide)

end CommandBot.Irc
