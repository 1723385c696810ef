import CommandBot.Proofs.Document.Listeners
import CommandBot.Proofs.Run.Footprint
import CommandBot.Proofs.Session.Script
import CommandBot.Proofs.Template

namespace CommandBot

namespace Document

variable {entries : List (String × Json)} {classes : ClassNames} {scope : Scope} {bot : Bot}

/-- All that is written in a document is sound, in its commands and in its hooks. -/
theorem Origin.written_soundIn (h : Origin entries classes scope bot) {command : Command}
    (hcommand : command ∈ bot.written) : command.SoundIn scope := by
  have hscope := h.scope_sound
  rcases List.mem_append.1 hcommand with hcommand | hcommand
  · obtain ⟨⟨name, outer⟩, hentry, hwritten⟩ := List.mem_flatMap.1 hcommand
    rw [h.commands] at hentry
    obtain ⟨hsound, hnested⟩ := hscope.command name outer (Table.mem_entries_iff.1 hentry)
    rcases List.mem_cons.1 hwritten with rfl | hinner
    · exact hsound
    · exact (hnested command hinner).2
  · obtain ⟨⟨key, step⟩, hentry, hinner⟩ := List.mem_flatMap.1 hcommand
    have hstep := hooks_soundIn hscope.named h.hooked key step (Table.mem_entries_iff.1 hentry)
    exact (hstep.nested command hinner).2

/-- A key that a document stores under can stand in a placeholder if its characters can. -/
theorem Origin.isKey_iff (h : Origin entries classes scope bot) {command : Command}
    (hcommand : command ∈ bot.written) {key : String} (hbody : command.body = .state key) :
    Template.IsKey key ↔ key.toList.all Template.isKeyChar = true := by
  have hne := (h.written_soundIn hcommand).key key hbody
  simp [Template.isKey_iff, hne]

end Document

namespace Session

/-- What is stored is shown, if its key can stand in a placeholder. Once a state command of a loaded
bot has stored a value under a key without a hook, a format command with the key in braces says one
line: with the value in their place if the key is made of ASCII letters, digits and underscores, and
otherwise with the braces and the key as they are. -/
theorem stored_value_shown {document : Json} {bot : Bot}
    (hload : (Document.load document).result = .ok bot) (mark : String) (files : Files)
    (script : List Input) :
    let session := ((start (bot.withMark mark) files).play script).session
    ∀ keeper ∈ bot.written, ∀ display ∈ bot.written, ∀ before key after : String,
      keeper.body = .state key →
      display.body = .format (before ++ Template.placeholder key ++ after) →
      Template.Braceless before → Template.Braceless key → Template.Braceless after →
      bot.hooks.get? key = none →
      ∀ (user : String) (args : List String) (viewer : String) (more : List String),
        let stored := keeper.run (session.bot.hooks.onStore user) args session.world
        let shown := display.run (session.bot.hooks.onStore viewer) more stored.world
        stored.world.store.get? key = some (Text.unwords args) ∧ shown.world = stored.world ∧
          shown.result = .ok [
            if key.toList.all Template.isKeyChar then before ++ Text.unwords args ++ after
            else before ++ Template.placeholder key ++ after] := by
  intro session keeper hkeeper display hdisplay before key after hstate hformat hbefore hbraceless
    hafter hfree user args viewer more stored shown
  obtain ⟨entries, _, hentries⟩ := Document.load_eq_ok hload
  obtain ⟨classes, scope, horigin⟩ := Document.loadEntries_eq_ok hentries
  have hiskey := horigin.isKey_iff hkeeper hstate
  have hhooks : session.bot.hooks = bot.hooks := by
    rw [play_bot]
    rfl
  obtain ⟨_, _, _⟩ := keeper
  obtain ⟨_, _, _⟩ := display
  cases hstate
  cases hformat
  have hvalue : stored.world.store.get? key = some (Text.unwords args) := by
    refine Hooks.get?_onStore ?_ user args session.world
    rw [hhooks, hfree]
    rintro _ ⟨⟩
  refine ⟨hvalue, rfl, ?_⟩
  have hfilled := @Template.fill_braceless stored.world.store _ _ _ hbefore hbraceless hafter
  rw [hvalue, Option.getD_some] at hfilled
  simp only [hiskey] at hfilled
  rw [← hfilled]
  rfl

/-- A document with a key that can stand in a placeholder and one that cannot. -/
def gauge : Json :=
  .object [("classes", .object []), ("approved_users", .array []), ("restricted", .array []),
    ("public", .array []),
    ("commands", .array [
      .array [.string "StateCommand", .string "hp"],
      .array [.string "StateCommand", .string "hp-max"],
      .array [.string "FormatCommand", .string "status",
        .string ("hp: " ++ Template.placeholder "hp" ++ "!")],
      .array [.string "FormatCommand", .string "limit", .string (Template.placeholder "hp-max")]])]

/-- What the document loads to. -/
def gaugeBot : Bot where
  commands := .ofList [
    ("hp", ⟨"hp", "StateCommand", .state "hp"⟩),
    ("hp-max", ⟨"hp-max", "StateCommand", .state "hp-max"⟩),
    ("status", ⟨"status", "FormatCommand", .format ("hp: " ++ Template.placeholder "hp" ++ "!")⟩),
    ("limit", ⟨"limit", "FormatCommand", .format ("" ++ Template.placeholder "hp-max" ++ "")⟩)]
  restricted := []
  unrestricted := []
  approved := []
  store := .empty
  hooks := .empty
  mark := Bot.defaultMark

/-- The document loads to the bot that is written out above. -/
theorem load_gauge : (Document.load gauge).result = .ok gaugeBot := rfl

theorem mem_written_gaugeBot {command : Command}
    (h : gaugeBot.commands.get? command.name = some command) : command ∈ gaugeBot.written := by
  refine List.mem_append_left _ (List.mem_flatMap.2 ⟨_, Table.mem_of_find h, ?_⟩)
  exact List.mem_cons_self

/-- The value has braces itself, and it is shown with them. -/
theorem gauge_shows_hp :
    let session := ((start (gaugeBot.withMark "?") .empty).play [.message "a" "?hp 7"]).session
    let stored := Command.run (session.bot.hooks.onStore "a") ⟨"hp", "StateCommand", .state "hp"⟩
      [Template.placeholder "hp", "of", "9"] session.world
    let shown := Command.run (session.bot.hooks.onStore "b")
      ⟨"status", "FormatCommand", .format ("hp: " ++ Template.placeholder "hp" ++ "!")⟩ ["now"]
      stored.world
    stored.world.store.get? "hp" = some (Template.placeholder "hp" ++ " of 9") ∧
      shown.result = .ok ["hp: " ++ Template.placeholder "hp" ++ " of 9!"] := by
  intro session stored shown
  obtain ⟨hstored, _, hshown⟩ := stored_value_shown load_gauge "?" .empty [.message "a" "?hp 7"]
    ⟨"hp", "StateCommand", .state "hp"⟩ (mem_written_gaugeBot rfl)
    ⟨"status", "FormatCommand", .format ("hp: " ++ Template.placeholder "hp" ++ "!")⟩
    (mem_written_gaugeBot rfl) "hp: " "hp" "!" rfl rfl (by decide) (by decide) (by decide) rfl
    "a" [Template.placeholder "hp", "of", "9"] "b" ["now"]
  rw [if_pos (by decide)] at hshown
  exact ⟨hstored, hshown⟩

/-- A dash in the key is enough for the value not to be shown, although it is stored. -/
theorem gauge_hides_dashed_key :
    let session := start (gaugeBot.withMark "!") .empty
    let keeper : Command := ⟨"hp-max", "StateCommand", .state "hp-max"⟩
    let display : Command :=
      ⟨"limit", "FormatCommand", .format ("" ++ Template.placeholder "hp-max" ++ "")⟩
    let stored := keeper.run (session.bot.hooks.onStore "a") ["10"] session.world
    let shown := display.run (session.bot.hooks.onStore "a") [] stored.world
    (Document.load gauge).result = .ok gaugeBot ∧ keeper ∈ gaugeBot.written ∧
      display ∈ gaugeBot.written ∧ Template.Braceless "hp-max" ∧ Template.Braceless "" ∧
      gaugeBot.hooks.get? "hp-max" = none ∧
      stored.world.store.get? "hp-max" = some (Text.unwords ["10"]) ∧
      shown.result ≠ .ok ["" ++ Text.unwords ["10"] ++ ""] ∧
      (session.play [.message "a" "!hp-max 10", .message "a" "!limit"]).replies =
        [[], [Template.placeholder "hp-max"]] := by
  intro session keeper display stored shown
  have hshown : shown.result = .ok [Template.placeholder "hp-max"] := rfl
  refine ⟨load_gauge, mem_written_gaugeBot rfl, mem_written_gaugeBot rfl, by decide, by decide, rfl,
    by decide +kernel, ?_, by decide +kernel⟩
  rw [hshown]
  intro hsame
  exact absurd (Except.ok.inj hsame) (by decide)

end Session

end CommandBot
