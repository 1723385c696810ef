import CommandBot.Proofs.Except
import CommandBot.Proofs.Irc.Reading
import CommandBot.Settings

namespace CommandBot.Irc

/-- The commands that a server reads: the pieces between characters of line ends, the empty ones
left out. -/
def commandsOf (sent : String) : List String :=
  ((sent.toList.splitOnP isLineEnd).filter (!·.isEmpty)).map String.ofList

/-- The text holds no character of a line end. -/
def OneLine (text : String) : Prop := ∀ c ∈ text.toList, isLineEnd c = false

instance (text : String) : Decidable (OneLine text) :=
  decidable_of_iff (text.toList.all (!isLineEnd ·) = true) (by simp [OneLine])

/-- A line is one piece exactly if its parts are. -/
theorem oneLine_append {text more : String} :
    OneLine (text ++ more) ↔ OneLine text ∧ OneLine more := by
  simp [OneLine, or_imp, forall_and]

/-- The end of a line parts the commands before it from those after it. -/
theorem commandsOf_append_end (line later : String) :
    commandsOf (line ++ "\r\n" ++ later) = commandsOf line ++ commandsOf later := by
  have hchars : (line ++ "\r\n" ++ later).toList = line.toList ++ '\r' :: '\n' :: later.toList := by
    simp
  have hfeed : ('\n' :: later.toList).splitOnP isLineEnd =
      [] :: later.toList.splitOnP isLineEnd := by
    simpa using List.splitOnP_append_cons [] later.toList (show isLineEnd '\n' = true by decide)
  rw [commandsOf, hchars, List.splitOnP_append_cons _ _ (by decide), hfeed, List.filter_append,
    List.map_append]
  rfl

theorem commandsOf_of_oneLine {line : String} (hne : line ≠ "") (h : OneLine line) :
    commandsOf line = [line] := by
  have hchars : line.toList ≠ [] := by simpa using hne
  simp [commandsOf, List.splitOnP_eq_singleton h, hchars]

/-- No piece holds a character that the text was cut at. -/
theorem eq_false_of_mem_splitOnP {p : Char → Bool} {cs piece : List Char}
    (h : piece ∈ cs.splitOnP p) : ∀ c ∈ piece, p c = false := by
  induction cs generalizing piece with
  | nil =>
    rw [List.splitOnP_nil, List.mem_singleton] at h
    subst h
    simp
  | cons first cs ih =>
    rw [List.splitOnP_cons_eq_if_modifyHead] at h
    cases hfirst : p first with
    | true =>
      simp only [hfirst, if_true, List.mem_cons] at h
      rcases h with rfl | h
      · simp
      · exact ih h
    | false =>
      obtain ⟨head, pieces, hpieces⟩ := List.exists_cons_of_ne_nil (List.splitOnP_ne_nil p cs)
      rw [hpieces] at ih
      simp only [hfirst, hpieces, Bool.false_eq_true, if_false, List.modifyHead_cons,
        List.mem_cons] at h
      rcases h with rfl | h
      · exact List.forall_mem_cons.2 ⟨hfirst, ih List.mem_cons_self⟩
      · exact ih (List.mem_cons_of_mem _ h)

/-- No command that a server reads runs over two lines. -/
theorem oneLine_of_mem_commandsOf {sent command : String} (h : command ∈ commandsOf sent) :
    OneLine command := by
  obtain ⟨piece, hpiece, rfl⟩ := List.mem_map.1 h
  intro c hc
  rw [String.toList_ofList] at hc
  exact eq_false_of_mem_splitOnP (List.mem_filter.1 hpiece).1 c hc

/-! ### The login -/

/-- Each line of the login is read by itself. -/
theorem commandsOf_login (account : Account) :
    commandsOf (String.join account.login) =
      commandsOf ("PASS " ++ account.password) ++ commandsOf ("NICK " ++ account.nick) ++
        commandsOf ("JOIN " ++ account.channel) := by
  have hsent : String.join account.login = "PASS " ++ account.password ++ "\r\n" ++
      ("NICK " ++ account.nick ++ "\r\n" ++ ("JOIN " ++ account.channel ++ "\r\n" ++ "")) := by
    rw [← String.toList_inj]
    simp [Account.login]
  have hnothing : commandsOf "" = [] := by decide
  rw [hsent, commandsOf_append_end, commandsOf_append_end, commandsOf_append_end, hnothing,
    List.append_nil, List.append_assoc]

/-- What goes into an account: the nick and the channel of the settings, and the token or what the
file of the token holds between its outermost blanks. -/
theorem account_fields {settings : Settings} {files : Files} {account : Account}
    (h : settings.account files = .ok account) :
    settings.nick = some account.nick ∧ settings.channel = some account.channel ∧
      settings.password files = .ok account.password := by
  unfold Settings.account at h
  obtain ⟨password, hpassword, h⟩ := bind_eq_ok_iff.1 h
  split at h
  · cases h
  · cases h
  · rename_i nick channel hnick hchannel
    cases h
    exact ⟨hnick, hchannel, hpassword⟩

/-- What a server reads of the login that settings lead to. Each field goes into its command as it
is, whether it was checked, trimmed or neither. So the server reads the three commands of a login
exactly if no field holds a character of a line end; where one does, what follows it is a command of
its own. -/
theorem login_commands_iff {settings : Settings} {files : Files} {account : Account}
    (h : settings.account files = .ok account) :
    (settings.nick = some account.nick ∧ settings.channel = some account.channel ∧
        settings.password files = .ok account.password) ∧
      commandsOf (String.join account.login) =
        commandsOf ("PASS " ++ account.password) ++ commandsOf ("NICK " ++ account.nick) ++
          commandsOf ("JOIN " ++ account.channel) ∧
      (commandsOf (String.join account.login) =
          ["PASS " ++ account.password, "NICK " ++ account.nick, "JOIN " ++ account.channel] ↔
        OneLine account.password ∧ OneLine account.nick ∧ OneLine account.channel) := by
  refine ⟨account_fields h, commandsOf_login account, ?_, ?_⟩
  · intro hthree
    have hsolid (lead : String) {field : String}
        (hmem : lead ++ field ∈
          ["PASS " ++ account.password, "NICK " ++ account.nick, "JOIN " ++ account.channel]) :
        OneLine field := by
      rw [← hthree] at hmem
      exact (oneLine_append.1 (oneLine_of_mem_commandsOf hmem)).2
    exact ⟨hsolid "PASS " (by simp), hsolid "NICK " (by simp), hsolid "JOIN " (by simp)⟩
  · rintro ⟨hpassword, hnick, hchannel⟩
    have hone {lead field : String} (hne : lead ≠ "") (hlead : OneLine lead)
        (hfield : OneLine field) : commandsOf (lead ++ field) = [lead ++ field] := by
      apply commandsOf_of_oneLine
      · simp [hne]
      · exact oneLine_append.2 ⟨hlead, hfield⟩
    rw [commandsOf_login, hone (by decide) (by decide) hpassword,
      hone (by decide) (by decide) hnick, hone (by decide) (by decide) hchannel]
    rfl

/-- Settings for a channel, with the token in a file. -/
def hosted : Settings :=
  { Settings.default with
    nick := some "bot"
    tokenFile := some "token"
    channel := some "#host" }

/-- The blanks around the token do not reach the server. -/
theorem hosted_login :
    let files : Files := ⟨.ofList [("token", .file " secret\r\n".toUTF8)]⟩
    ∃ account, hosted.validate = .ok () ∧ hosted.account files = .ok account ∧
      commandsOf (String.join account.login) = ["PASS secret", "NICK bot", "JOIN #host"] := by
  intro files
  have haccount : hosted.account files =
      .ok ⟨"irc.chat.twitch.tv", 6667, "bot", "secret", "#host"⟩ := by
    decide +kernel
  obtain ⟨_, _, hthree⟩ := login_commands_iff haccount
  exact ⟨_, by decide, haccount, hthree.2 (by decide)⟩

/-- Settings that do, although the nick runs over two lines: the server is told to join another
channel. What is said later cannot do this, since its frames hold no line end inside. -/
theorem login_smuggles_join :
    let settings : Settings :=
      { Settings.default with
        nick := some "bot\nJOIN #other"
        token := some "tok"
        channel := some "#host" }
    ¬ ∀ (files : Files) (account : Account), settings.transport = .irc →
      settings.validate = .ok () → settings.account files = .ok account →
        commandsOf (String.join account.login) =
          ["PASS " ++ account.password, "NICK " ++ account.nick, "JOIN " ++ account.channel] := by
  intro settings hall
  have hthree := hall .empty ⟨"irc.chat.twitch.tv", 6667, "bot\nJOIN #other", "tok", "#host"⟩ rfl
    (by decide) (by decide)
  have hfour : commandsOf (String.join (Account.login
      ⟨"irc.chat.twitch.tv", 6667, "bot\nJOIN #other", "tok", "#host"⟩)) =
        ["PASS tok", "NICK bot", "JOIN #other", "JOIN #host"] := by
    decide
  rw [hfour] at hthree
  exact absurd (congrArg List.length hthree) (by decide)

end CommandBot.Irc
