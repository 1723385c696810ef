import CommandBot.Proofs.Irc.Framing
import CommandBot.Proofs.Text.Words
import Mathlib.Data.List.DropRight

namespace CommandBot

namespace Text

/-- What is dropped from the end does not reach beyond a character that stays. -/
theorem rdropWhile_append_cons {p : Char → Bool} {c : Char} (hc : p c = false)
    (lead cs : List Char) :
    (lead ++ c :: cs).rdropWhile p = lead ++ c :: cs.rdropWhile p := by
  induction cs using List.reverseRecOn with
  | nil =>
    rw [List.rdropWhile_nil, List.rdropWhile_concat_neg p lead c (by simp [hc])]
  | append_singleton cs last ih =>
    rw [← List.cons_append, ← List.append_assoc]
    cases hlast : p last with
    | true => rw [List.rdropWhile_concat_pos p _ last hlast, ih,
        List.rdropWhile_concat_pos p _ last hlast]
    | false =>
      have hstays : ¬ p last = true := by simp [hlast]
      rw [List.rdropWhile_concat_neg p _ last hstays, List.rdropWhile_concat_neg p _ last hstays,
        List.append_assoc, List.cons_append]

theorem rdropWhile_append_of_all {p : Char → Bool} {ending : List Char}
    (h : ∀ c ∈ ending, p c = true) (lead : List Char) :
    (lead ++ ending).rdropWhile p = lead.rdropWhile p := by
  unfold List.rdropWhile
  rw [List.reverse_append,
    List.dropWhile_append_of_pos fun c hc => h c (List.mem_reverse.1 hc)]

theorem isPrefixOf?_eq_none_of_head_ne {c d : Char} (h : c ≠ d) (lead cs : List Char) :
    (c :: lead).isPrefixOf? (d :: cs) = none := by
  rw [isPrefixOf?_cons, if_neg h]

end Text

namespace Irc

open Text (hasBlank isBlank)

/-- A character of a line end. -/
def isLineEnd (c : Char) : Bool := c == '\r' || c == '\n'

theorem dropLineEnd_eq (cs : List Char) : dropLineEnd cs = cs.rdropWhile isLineEnd := rfl

/-- A line that passes a text on to a channel: tags, a source and the text, with any run of
characters of line ends behind it. The source is a nick, alone or with a host behind an exclamation
mark. -/
structure Relayed where
  tags : Option String
  nick : String
  host : Option String
  text : String
  lineEnd : String
  tags_solid : ∀ block, tags = some block → ' ' ∉ block.toList
  nick_ne : nick ≠ ""
  nick_bangless : '!' ∉ nick.toList
  nick_solid : hasBlank nick = false
  host_solid : ∀ rest, host = some rest → hasBlank rest = false
  lineEnd_ends : ∀ c ∈ lineEnd.toList, isLineEnd c = true

namespace Relayed

/-- The tags with their mark and the space behind them. -/
def tagBlock (sent : Relayed) : String :=
  match sent.tags with
  | some block => "@" ++ block ++ " "
  | none => ""

/-- Whom the line comes from. -/
def source (sent : Relayed) : String :=
  match sent.host with
  | some rest => sent.nick ++ "!" ++ rest
  | none => sent.nick

/-- The line as it goes to a channel. -/
def line (sent : Relayed) (channel : String) : String :=
  sent.tagBlock ++ ":" ++ sent.source ++ " PRIVMSG " ++ channel ++ " :" ++ sent.text ++ sent.lineEnd

/-- The text without the line-end characters at its end. -/
def said (sent : Relayed) : String := String.ofList (sent.text.toList.rdropWhile isLineEnd)

variable (sent : Relayed) (channel : String)

/-- What is said is the text without the line ends behind it. -/
theorem toList_said : sent.said.toList = sent.text.toList.rdropWhile isLineEnd :=
  String.toList_ofList

/-- A source has no blanks, so it is one word of its line. -/
theorem source_solid : ∀ c ∈ sent.source.toList, isBlank c = false := by
  have hnick : ∀ c ∈ sent.nick.toList, isBlank c = false := by
    simpa [hasBlank] using sent.nick_solid
  unfold source
  split
  · rename_i rest hhost
    have hrest : ∀ c ∈ rest.toList, isBlank c = false := by
      simpa [hasBlank] using sent.host_solid rest hhost
    have hbang : isBlank '!' = false := by decide
    simpa [or_imp, forall_and, hbang] using ⟨hnick, hrest⟩
  · exact hnick

theorem space_notMem_source : ' ' ∉ sent.source.toList := by
  intro hmem
  have hsolid := sent.source_solid ' ' hmem
  rw [Text.isBlank_space] at hsolid
  cases hsolid

theorem takeWhile_source :
    sent.source.toList.takeWhile (· != '!') = sent.nick.toList := by
  apply Irc.takeWhile_source sent.nick_bangless
  unfold source
  split
  · rename_i rest _
    exact .inr ⟨rest, rfl⟩
  · exact .inl rfl

/-- What stands behind the tags, with `text` at its end. -/
def sourced (text : List Char) : List Char :=
  ':' :: (sent.source.toList ++ ' ' :: ((header channel).toList ++ text))

/-- The line, taken apart at its tags and at the text. -/
theorem toList_line :
    (sent.line channel).toList =
      sent.tagBlock.toList ++ sent.sourced channel (sent.text.toList ++ sent.lineEnd.toList) := by
  simp [line, sourced, header]

/-- The colon before the text is where dropping ends at the latest. -/
theorem dropLineEnd_line :
    dropLineEnd (sent.line channel).toList =
      sent.tagBlock.toList ++ sent.sourced channel sent.said.toList := by
  have hcolon : isLineEnd ':' = false := by decide
  have hsplit (text : List Char) : sent.tagBlock.toList ++ sent.sourced channel text =
      (sent.tagBlock.toList ++ ':' :: (sent.source.toList ++ " PRIVMSG ".toList ++
        channel.toList ++ [' '])) ++ ':' :: text := by
    simp [sourced, header]
  rw [dropLineEnd_eq, toList_line, hsplit, Text.rdropWhile_append_cons hcolon,
    Text.rdropWhile_append_of_all sent.lineEnd_ends, hsplit, toList_said]

/-- With tags or without, what stands behind them is found. -/
theorem afterTags?_tagBlock (text : List Char) :
    afterTags? (sent.tagBlock.toList ++ sent.sourced channel text) =
      some (sent.sourced channel text) := by
  unfold tagBlock
  split
  · rename_i block htags
    have hblock : ("@" ++ block ++ " ").toList ++ sent.sourced channel text =
        '@' :: (block.toList ++ ' ' :: sent.sourced channel text) := by
      simp
    rw [hblock, afterTags?, Text.splitAt?_append_mark (sent.tags_solid block htags)]
    rfl
  · rfl

/-! ### The three recognisers -/

/-- Whether the line is a message hangs on what its channel follows. -/
theorem message?_line (other : String) :
    message? other (sent.line channel) =
      ((header other).toList.isPrefixOf? ((header channel).toList ++ sent.said.toList)).map
        fun text => ⟨sent.nick, String.ofList text⟩ := by
  have hcolon (cs : List Char) : [':'].isPrefixOf? (':' :: cs) = some cs :=
    Text.isPrefixOf?_append [':'] cs
  have hnick : sent.nick.toList ≠ [] := by simpa using sent.nick_ne
  simp only [message?, dropLineEnd_line, afterTags?_tagBlock, Option.bind_eq_bind,
    Option.bind_some, Option.pure_def]
  simp only [sourced, hcolon, Option.bind_some,
    Text.splitAt?_append_mark sent.space_notMem_source, takeWhile_source, List.isEmpty_iff,
    if_neg hnick, String.ofList_toList]
  cases (header other).toList.isPrefixOf? ((header channel).toList ++ sent.said.toList) <;> rfl

/-- In its own channel the line is the message of its user. -/
theorem message?_self : message? channel (sent.line channel) = some ⟨sent.nick, sent.said⟩ := by
  rw [message?_line, Text.isPrefixOf?_append, Option.map_some, String.ofList_toList]

/-- Channel names without spaces are told apart by the space behind them. -/
theorem message?_other {other : String} (hne : other ≠ channel) (hchannel : ' ' ∉ channel.toList)
    (hother : ' ' ∉ other.toList) : message? other (sent.line channel) = none := by
  rw [message?_line, Option.map_eq_none_iff, Option.eq_none_iff_forall_ne_some]
  intro rest hprefix
  have hsame : (header other).toList ++ rest = (header channel).toList ++ sent.said.toList :=
    List.isPrefixOf?_eq_some_iff_append_eq.1 hprefix
  have hnames : other.toList ++ ' ' :: ':' :: rest =
      channel.toList ++ ' ' :: ':' :: sent.said.toList := by
    simpa [header] using hsame
  have hcut := Text.splitAt?_append_mark hother (':' :: rest)
  rw [hnames, Text.splitAt?_append_mark hchannel] at hcut
  exact hne (String.toList_inj.1 (congrArg Prod.fst (Option.some.inj hcut)).symm)

/-- Dropping blanks from its end leaves the first character of the line, which starts no ping. -/
theorem pong?_line : pong? (sent.line channel) = none := by
  obtain ⟨first, rest, hline, hblank, hping⟩ : ∃ first rest,
      (sent.line channel).toList = first :: rest ∧ isBlank first = false ∧ 'P' ≠ first := by
    rw [toList_line]
    unfold tagBlock
    split
    · rename_i block _
      exact ⟨'@', block.toList ++ ' ' :: sent.sourced channel
        (sent.text.toList ++ sent.lineEnd.toList), by simp, by decide, by decide⟩
    · exact ⟨':', _, rfl, by decide, by decide⟩
  have htrim : Text.dropBlankEnd (first :: rest) = first :: rest.rdropWhile isBlank :=
    Text.rdropWhile_append_cons hblank [] rest
  have hnone : ['P', 'I', 'N', 'G', ' '].isPrefixOf? (first :: rest.rdropWhile isBlank) = none :=
    Text.isPrefixOf?_eq_none_of_head_ne hping _ _
  simp [pong?, Text.after?, Text.trimEnd, hline, htrim, hnone]

/-- The second word of the line is the one that messages have. -/
theorem isEndOfNames_line : isEndOfNames (sent.line channel) = false := by
  have hsource : Text.wordsOf (':' :: sent.source.toList) = [':' :: sent.source.toList] := by
    refine Text.wordsOf_eq_self (List.cons_ne_nil _ _) (List.forall_mem_cons.2 ⟨?_, ?_⟩)
    · decide
    · exact sent.source_solid
  have hnumeric : Text.wordsOf "PRIVMSG".toList = ["PRIVMSG".toList] := by decide
  have hwords : Text.wordsOf
      (sent.sourced channel (sent.text.toList ++ sent.lineEnd.toList)) =
        (':' :: sent.source.toList) :: "PRIVMSG".toList ::
          Text.wordsOf (channel.toList ++ " :".toList ++ sent.text.toList ++
            sent.lineEnd.toList) := by
    have hsplit : sent.sourced channel (sent.text.toList ++ sent.lineEnd.toList) =
        (':' :: sent.source.toList) ++ ' ' :: ("PRIVMSG".toList ++ ' ' :: (channel.toList ++
          " :".toList ++ sent.text.toList ++ sent.lineEnd.toList)) := by
      simp [sourced, header]
    rw [hsplit, Text.wordsOf_append_blank Text.isBlank_space,
      Text.wordsOf_append_blank Text.isBlank_space, hsource, hnumeric]
    rfl
  have hother : ("PRIVMSG".toList == "366".toList) = false := by decide
  rw [isEndOfNames, toList_line, afterTags?_tagBlock, Option.getD_some, hwords]
  dsimp only
  rw [hother, Bool.and_false]

end Relayed

/-- Whatever a user says, and with whichever tags and line ends the server passes it on, the line is
read in its channel as that user saying that text, without the line-end characters at its end; it is
no ping and ends no list of names. In another channel it is no message at all, as long as neither
name has a space. -/
theorem Relayed.recognised (sent : Relayed) (channel : String) :
    message? channel (sent.line channel) = some ⟨sent.nick, sent.said⟩ ∧
      pong? (sent.line channel) = none ∧ isEndOfNames (sent.line channel) = false ∧
      ∀ other, other ≠ channel → ' ' ∉ channel.toList → ' ' ∉ other.toList →
        message? other (sent.line channel) = none :=
  ⟨sent.message?_self channel, sent.pong?_line channel, sent.isEndOfNames_line channel,
    fun _ hne hchannel hother => sent.message?_other channel hne hchannel hother⟩

/-- A user who writes tags, a ping, the end of a list of names and a message into a message. -/
def forged : Relayed where
  tags := some "color=#FF0000"
  nick := "eve"
  host := some "eve@eve"
  text := "@a :b 366 PING :x PRIVMSG #other :hi \r\n\n"
  lineEnd := "\r\n"
  tags_solid := by
    rintro _ ⟨⟩
    decide
  nick_ne := by decide
  nick_bangless := by decide
  nick_solid := by decide
  host_solid := by
    rintro _ ⟨⟩
    decide
  lineEnd_ends := List.all_eq_true.1 (by decide)

/-- Nothing that the user wrote is taken for a line's own tags, source or command. -/
theorem forged_recognised :
    message? "#host" (forged.line "#host") =
        some ⟨"eve", "@a :b 366 PING :x PRIVMSG #other :hi "⟩ ∧
      pong? (forged.line "#host") = none ∧ isEndOfNames (forged.line "#host") = false ∧
      message? "#other" (forged.line "#host") = none := by
  obtain ⟨hmessage, hpong, hnames, hother⟩ := forged.recognised "#host"
  have hsaid : forged.said = "@a :b 366 PING :x PRIVMSG #other :hi " := by decide
  exact ⟨hsaid ▸ hmessage, hpong, hnames, hother "#other" (by decide) (by decide) (by decide)⟩

end Irc

end CommandBot
