import CommandBot.Proofs.Irc.Link

namespace CommandBot.Irc.Link

variable {channel : String} {link middle next : Link}

/-- Some run leads from one state to the other. Between two writes the connection can come to rest,
so runs are put together from one state of rest to the next. -/
def Leads (channel : String) (link next : Link) : Prop :=
  ∃ moves, link.run? channel moves = some next

theorem Leads.refl (channel : String) (link : Link) : Leads channel link link := ⟨[], rfl⟩

theorem Leads.step {move : Move} (h : Step channel link move middle)
    (hlater : Leads channel middle next) : Leads channel link next := by
  obtain ⟨moves, hrun⟩ := hlater
  exact ⟨move :: moves, run?_cons_eq_some_iff.2 ⟨middle, h, hrun⟩⟩

/-- Nothing is in a queue, and everyone is at work. -/
def resting (unread : List String) (heard : List ChatMessage) (said wire : List String) : Link :=
  { opened unread with heard, said, wire }

variable {unread : List String} {heard : List ChatMessage} {said wire : List String}

/-- A queue has room when it is empty, so a connection at rest can take one thing in. -/
theorem capacity_pos : 0 < capacity := by decide

theorem messages_append (channel : String) (lines later : List String) :
    messages channel (lines ++ later) = messages channel lines ++ messages channel later := by
  simp [messages]

/-! ### From rest to rest -/

/-- A line that is no ping is read, and heard if it is a message. -/
theorem leads_past_line {line : String} (hpong : pong? line = none)
    (hlater : Leads channel (resting unread (heard ++ (message? channel line).toList) said wire)
      next) :
    Leads channel (resting (line :: unread) heard said wire) next := by
  cases hmessage : message? channel line with
  | none =>
    rw [hmessage, Option.toList_none, List.append_nil] at hlater
    exact .step (.readOther rfl rfl hpong hmessage) hlater
  | some message =>
    rw [hmessage, Option.toList_some] at hlater
    exact .step (.deliver rfl rfl hpong hmessage rfl capacity_pos) (.step (.hear rfl rfl) hlater)

/-- Lines that are no pings are read, and the messages in them heard. -/
theorem leads_past {others : List String} (h : ∀ line ∈ others, pong? line = none)
    (hlater : Leads channel (resting unread (heard ++ messages channel others) said wire) next) :
    Leads channel (resting (others ++ unread) heard said wire) next := by
  induction others generalizing heard with
  | nil => simpa [messages] using hlater
  | cons line others ih =>
    obtain ⟨hpong, hothers⟩ := List.forall_mem_cons.1 h
    refine leads_past_line hpong (ih hothers ?_)
    simpa [messages_cons, hpong] using hlater

/-- A ping is read, and its answer written at once. -/
theorem leads_past_ping {line pong : String} (hpong : pong? line = some pong)
    (hlater : Leads channel (resting unread heard said (wire ++ [pong])) next) :
    Leads channel (resting (line :: unread) heard said wire) next :=
  .step (.answer rfl rfl hpong rfl capacity_pos) (.step (.writePong true rfl rfl) hlater)

/-- A line is said and written at once. -/
theorem leads_to_said (text : String)
    (hlater : Leads channel (resting unread heard (said ++ [text]) (wire ++ [frame channel text]))
      next) :
    Leads channel (resting unread heard said wire) next :=
  .step (.say rfl rfl capacity_pos) (.step (.writeLine true rfl rfl) hlater)

/-- The connection after all has been read, heard and written. -/
def ended (heard : List ChatMessage) (said wire : List String) : Link :=
  { resting [] heard said wire with reading := false, talking := false, writer := .finished }

/-- From rest, with nothing left to read, the connection can end. -/
theorem leads_to_end (channel : String) (heard : List ChatMessage) (said wire : List String) :
    Leads channel (resting [] heard said wire) (ended heard said wire) :=
  .step (.readEnd rfl rfl) (.step (.hangUp rfl) (.step (.finish rfl rfl rfl rfl rfl) (.refl ..)))

/-! ### Whole runs -/

/-- The induction is on the interleaving: what comes next in it is written before the connection
rests again. -/
theorem leads_of_interleaves {answers frames whole texts : List String}
    (h : Interleaves answers frames whole) (hanswers : pongs unread = answers)
    (hframes : texts.map (frame channel) = frames) :
    Leads channel (resting unread heard said wire)
      (ended (heard ++ messages channel unread) (said ++ texts) (wire ++ whole)) := by
  induction h generalizing unread heard said wire texts with
  | nil =>
    obtain rfl : texts = [] := List.map_eq_nil_iff.1 hframes
    rw [← List.append_nil unread]
    refine leads_past (List.filterMap_eq_nil_iff.1 hanswers) ?_
    simpa using leads_to_end channel (heard ++ messages channel unread) said wire
  | left pong _ ih =>
    obtain ⟨others, line, later, rfl, hothers, hpong, hlater⟩ :=
      List.filterMap_eq_cons_iff.1 hanswers
    have hrest : Leads channel
        (resting later (heard ++ messages channel others) said (wire ++ [pong])) (ended _ _ _) :=
      ih hlater hframes
    refine leads_past hothers (leads_past_ping hpong ?_)
    simpa [messages_append, messages_cons, hpong] using hrest
  | right framed _ ih =>
    obtain ⟨text, later, rfl, rfl, hlater⟩ := List.map_eq_cons_iff.1 hframes
    have hrest : Leads channel
        (resting unread heard (said ++ [text]) (wire ++ [frame channel text])) (ended _ _ _) :=
      ih hanswers hlater
    refine leads_to_said text ?_
    simpa using hrest

/-- Whatever the order of the answers and the lines, some undisturbed run writes them in it, and the
bot hears every message in it. -/
theorem exists_run_of_interleaves {server texts whole : List String}
    (h : Interleaves (pongs server) (texts.map (frame channel)) whole) :
    ∃ moves link, (opened server).run? channel moves = some link ∧ link.hearing = true ∧
      link.writer = .finished ∧ link.heard = messages channel server ∧ link.said = texts ∧
      link.wire = whole := by
  obtain ⟨moves, hrun⟩ : Leads channel (resting server [] [] [])
      (ended ([] ++ messages channel server) ([] ++ texts) ([] ++ whole)) :=
    leads_of_interleaves h rfl rfl
  exact ⟨moves, _, hrun, rfl, rfl, rfl, rfl, rfl⟩

end CommandBot.Irc.Link
