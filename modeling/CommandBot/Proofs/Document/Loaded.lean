import CommandBot.Proofs.Document.Declarations
import Mathlib.Logic.Relation

namespace CommandBot

namespace Bot

/-- The names of a bot, as the document that declares its class names reads them. -/
def scope (classes : ClassNames) (bot : Bot) : Scope := ⟨classes, bot.commands⟩

/-- The command of the first name refers to that of the second one, at some depth. -/
def Refers (bot : Bot) (name target : String) : Prop :=
  ∃ command, bot.commands.get? name = some command ∧
    ∃ referred ∈ command.references, referred.name = target

/-- A bot in which every command stands under its own name and is sound at every depth, as are the
hooks, and whose access lists are apart from each other and list commands only. -/
structure Sound (classes : ClassNames) (bot : Bot) : Prop where
  named : ∀ key command, bot.commands.get? key = some command → command.name = key ∧ key ≠ ""
  command : ∀ key command, bot.commands.get? key = some command →
    command.SoundIn (bot.scope classes) ∧ (bot.scope classes).HoldsInPlace command.nested
  hook : ∀ key step, bot.hooks.get? key = some step → step.SoundIn (bot.scope classes)
  restricted : ∀ name ∈ bot.restricted, ∃ command, bot.commands.get? name = some command
  unrestricted : ∀ name ∈ bot.unrestricted, ∃ command, bot.commands.get? name = some command
  disjoint : ∀ name ∈ bot.restricted, name ∉ bot.unrestricted

end Bot

namespace Document

variable {scope : Scope}

/-- Hooks are read from entries, so their steps are sound like all that an entry resolves to. -/
theorem hooksFrom_soundIn (hnamed : scope.Named) {entries : List (String × Json)}
    {hooks later : Hooks} (hhooks : ∀ key step, hooks.get? key = some step → step.SoundIn scope)
    (h : hooksFrom scope hooks entries = .ok later) :
    ∀ key step, later.get? key = some step → step.SoundIn scope := by
  induction entries generalizing hooks with
  | nil =>
    cases h
    exact hhooks
  | cons entry entries ih =>
    obtain ⟨key, value⟩ := entry
    rw [hooksFrom] at h
    split at h
    · cases h
    · obtain ⟨hooked, hresolve, h⟩ := bind_eq_ok_iff.1 h
      refine ih ?_ h
      intro other step hget
      rw [Table.get?_insert] at hget
      split at hget
      · cases hget
        exact hnamed.resolve_soundIn hresolve
      · exact hhooks other step hget

theorem hooks_soundIn (hnamed : scope.Named) {value : Option Json} {hooked : Hooks}
    (h : hooks scope value = .ok hooked) :
    ∀ key step, hooked.get? key = some step → step.SoundIn scope := by
  unfold hooks at h
  split at h
  · cases h
    rintro key step ⟨⟩
  · refine hooksFrom_soundIn hnamed ?_ h
    rintro key step ⟨⟩
  · cases h

theorem required_eq_ok_iff {entries : List (String × Json)} {key : String} {value : Json} :
    (required entries key).result = .ok value ↔ Table.find key entries = some value := by
  unfold required
  split
  · rename_i found hfind
    rw [hfind, Load.result_pure, Except.ok.injEq, Option.some.injEq]
  · rename_i hfind
    rw [hfind]
    constructor
    · rintro ⟨⟩
    · rintro ⟨⟩

/-! ### What a document loads to -/

/-- A document with sections that make declarations: the commands, and the items of both access
lists. -/
structure HasSections (entries : List (String × Json)) (commands : Json)
    (restricted unrestricted : List Json) : Prop where
  commandsAt : Table.find "commands" entries = some commands
  form : commands.IsCollection
  restrictedAt : Table.find "restricted" entries = some (.array restricted)
  unrestrictedAt : Table.find "public" entries = some (.array unrestricted)

/-- What these sections come to: all their declarations can be made in one go, keys are the names of
their entries, and each access list has names only that were introduced before. -/
structure Declares (classes : ClassNames) (commands : Json) (restricted unrestricted : List Json)
    (scope : Scope) (bot : Bot) : Prop where
  declared : (declareAll (.ofClasses classes)
    (commandEntries commands ++ inPlace restricted ++ inPlace unrestricted)).result = .ok scope
  keys : HasKeys commands
  restrictedNames : restricted.map listedName? = bot.restricted.map some
  restrictedAfter : Introduced (commandEntries commands) restricted
  unrestrictedNames : unrestricted.map listedName? = bot.unrestricted.map some
  unrestrictedAfter : Introduced (commandEntries commands ++ inPlace restricted) unrestricted

/-- What the other sections of a document make of a bot. -/
structure Completes (entries : List (String × Json)) (scope : Scope) (bot : Bot) : Prop where
  commands : bot.commands = scope.commands
  disjoint : bot.restricted.find? bot.unrestricted.contains = none
  hooked : hooks scope (Table.find "on_state_change" entries) = .ok bot.hooks
  approved : ∃ users, Table.find "approved_users" entries = some users ∧
    textList "approved_users" users = .ok bot.approved
  store : values (Table.find "state" entries) = .ok bot.store
  mark : bot.mark = Bot.defaultMark

theorem declares_iff {classes : ClassNames} {commands : Json} {restricted unrestricted : List Json}
    {bot : Bot} :
    (commands.IsCollection ∧ Declares classes commands restricted unrestricted scope bot) ↔
      ∃ declared middle, (declareCommands (.ofClasses classes) commands).result = .ok declared ∧
        (listed declared "restricted" restricted).result = .ok (middle, bot.restricted) ∧
        (listed middle "public" unrestricted).result = .ok (scope, bot.unrestricted) := by
  have hknown {scope : Scope} {made : List Json}
      (hdeclared : (declareAll (.ofClasses classes) made).result = .ok scope) :
      scope.Sound ∧ scope.commands.keys.map some = made.map carriedName? :=
    ⟨sound_declareAll (Scope.sound_ofClasses classes) hdeclared,
      keys_declareAll (Scope.sound_ofClasses classes) hdeclared⟩
  constructor
  · rintro ⟨hform, hall⟩
    obtain ⟨middle, hboth, hscope⟩ := declareAll_append_iff.1 hall.declared
    obtain ⟨declared, hdeclared, hmiddle⟩ := declareAll_append_iff.1 hboth
    obtain ⟨hsound, hnames⟩ := hknown hdeclared
    obtain ⟨hmiddleSound, hmiddleNames⟩ := hknown hboth
    exact ⟨declared, middle, declareCommands_eq_ok_iff.2 ⟨hform, hall.keys, hdeclared⟩,
      (listed_eq_ok_iff hsound hnames).2 ⟨hmiddle, hall.restrictedNames, hall.restrictedAfter⟩,
      (listed_eq_ok_iff hmiddleSound hmiddleNames).2
        ⟨hscope, hall.unrestrictedNames, hall.unrestrictedAfter⟩⟩
  · rintro ⟨declared, middle, hcommands, hlists, hopens⟩
    obtain ⟨hform, hkeys, hdeclared⟩ := declareCommands_eq_ok_iff.1 hcommands
    obtain ⟨hsound, hnames⟩ := hknown hdeclared
    obtain ⟨hmiddle, hrestricted, hrestrictedAfter⟩ := (listed_eq_ok_iff hsound hnames).1 hlists
    have hboth := declareAll_append_iff.2 ⟨declared, hdeclared, hmiddle⟩
    obtain ⟨hsound, hnames⟩ := hknown hboth
    obtain ⟨hscope, hunrestricted, hunrestrictedAfter⟩ := (listed_eq_ok_iff hsound hnames).1 hopens
    exact ⟨hform, declareAll_append_iff.2 ⟨middle, hboth, hscope⟩, hkeys, hrestricted,
      hrestrictedAfter, hunrestricted, hunrestrictedAfter⟩

/-- A document loads to a bot exactly if its class names can be read, its declarations can be made
and listed, and the other sections complete the bot. -/
theorem loadEntries_eq_ok_iff {entries : List (String × Json)} {bot : Bot} :
    (loadEntries entries).result = .ok bot ↔
      ∃ commands restricted unrestricted, HasSections entries commands restricted unrestricted ∧
        ∃ value classes scope, Table.find "classes" entries = some value ∧
          ClassNames.ofJson value = .ok classes ∧
          Declares classes commands restricted unrestricted scope bot ∧
          Completes entries scope bot := by
  unfold loadEntries
  simp only [Load.result_bind, Load.result_ofExcept, bind_eq_ok_iff, required_eq_ok_iff]
  constructor
  · rintro ⟨value, hvalue, users, husers, _, hrestricted, _, hpublic, commands, hcommands, classes,
      hclasses, declared, hdeclared, ⟨middle, restrictedNames⟩, hlists, ⟨scope, publicNames⟩,
      hopens, h⟩
    obtain ⟨restricted, rfl, hlisted⟩ := accessList_eq_ok_iff.1 hlists
    obtain ⟨unrestricted, rfl, hopen⟩ := accessList_eq_ok_iff.1 hopens
    dsimp only at hopen h
    split at h
    · cases h
    · rename_i hdisjoint
      simp only [Load.result_bind, Load.result_ofExcept, Load.result_pure, bind_eq_ok_iff] at h
      obtain ⟨hooked, hhooks, _, _, approved, happroved, store, hstore, _, _, h⟩ := h
      cases h
      obtain ⟨hform, _⟩ := declareCommands_eq_ok_iff.1 hdeclared
      refine ⟨commands, restricted, unrestricted, ⟨hcommands, hform, hrestricted, hpublic⟩, value,
        classes, scope, hvalue, hclasses, ?_,
        ⟨rfl, hdisjoint, hhooks, ⟨users, husers, happroved⟩, hstore, rfl⟩⟩
      exact (declares_iff.2 ⟨declared, middle, hdeclared, hlisted, hopen⟩).2
  · rintro ⟨commands, restricted, unrestricted, hsections, value, classes, scope, hvalue, hclasses,
      hdeclares, hcompletes⟩
    obtain ⟨declared, middle, hdeclared, hlists, hopens⟩ :=
      declares_iff.1 ⟨hsections.form, hdeclares⟩
    obtain ⟨users, husers, happroved⟩ := hcompletes.approved
    refine ⟨value, hvalue, users, husers, _, hsections.restrictedAt, _, hsections.unrestrictedAt, _,
      hsections.commandsAt, classes, hclasses, declared, hdeclared, _,
      accessList_eq_ok_iff.2 ⟨restricted, rfl, hlists⟩, _,
      accessList_eq_ok_iff.2 ⟨unrestricted, rfl, hopens⟩, ?_⟩
    dsimp only
    rw [hcompletes.disjoint]
    simp only [Load.result_bind, Load.result_ofExcept, Load.result_pure, bind_eq_ok_iff]
    refine ⟨bot.hooks, hcompletes.hooked, (), rfl, bot.approved, happroved, bot.store,
      hcompletes.store, (), rfl, ?_⟩
    rw [← hcompletes.commands, ← hcompletes.mark]

/-- A document has one way only to be cut into sections. -/
theorem HasSections.loadEntries_eq_ok_iff {entries : List (String × Json)} {commands : Json}
    {restricted unrestricted : List Json}
    (h : HasSections entries commands restricted unrestricted) {bot : Bot} :
    (loadEntries entries).result = .ok bot ↔
      ∃ value classes scope, Table.find "classes" entries = some value ∧
        ClassNames.ofJson value = .ok classes ∧
        Declares classes commands restricted unrestricted scope bot ∧
        Completes entries scope bot := by
  rw [Document.loadEntries_eq_ok_iff]
  constructor
  · rintro ⟨otherCommands, otherRestricted, otherUnrestricted, hother, hloads⟩
    cases hother.commandsAt.symm.trans h.commandsAt
    cases hother.restrictedAt.symm.trans h.restrictedAt
    cases hother.unrestrictedAt.symm.trans h.unrestrictedAt
    exact hloads
  · intro hloads
    exact ⟨commands, restricted, unrestricted, h, hloads⟩

/-- The declarations of a document are read off its sections. -/
theorem HasSections.declarations_eq {entries : List (String × Json)} {commands : Json}
    {restricted unrestricted : List Json}
    (h : HasSections entries commands restricted unrestricted) :
    declarations entries =
      commandEntries commands ++ inPlace restricted ++ inPlace unrestricted := by
  unfold declarations
  rw [h.commandsAt, h.restrictedAt, h.unrestrictedAt]
  rfl

/-- What a bot has of the document that it was loaded from: the class names and the declarations
make its scope, and the other sections are read in that scope. -/
structure Origin (entries : List (String × Json)) (classes : ClassNames) (scope : Scope)
    (bot : Bot) : Prop where
  names : ∃ value, Table.find "classes" entries = some value ∧ ClassNames.ofJson value = .ok classes
  form : ∃ value, Table.find "commands" entries = some value ∧ value.IsCollection
  declared : (declareAll (.ofClasses classes) (declarations entries)).result = .ok scope
  commands : bot.commands = scope.commands
  restricted : ∀ name ∈ bot.restricted, ∃ command, scope.commands.get? name = some command
  unrestricted : ∀ name ∈ bot.unrestricted, ∃ command, scope.commands.get? name = some command
  disjoint : ∀ name ∈ bot.restricted, name ∉ bot.unrestricted
  hooked : hooks scope (Table.find "on_state_change" entries) = .ok bot.hooks

/-- Every bot that loads has an origin in its document. What is known of it is known from there. -/
theorem loadEntries_eq_ok {entries : List (String × Json)} {bot : Bot}
    (h : (loadEntries entries).result = .ok bot) :
    ∃ classes scope, Origin entries classes scope bot := by
  obtain ⟨commands, restricted, unrestricted, hsections, value, classes, scope, hvalue, hclasses,
    hdeclares, hcompletes⟩ := loadEntries_eq_ok_iff.1 h
  have hnames := keys_declareAll (Scope.sound_ofClasses classes) hdeclares.declared
  have hcarried {made : List Json} {name : String}
      (hmade : made ⊆ commandEntries commands ++ inPlace restricted ++ inPlace unrestricted)
      (h : ∃ entry ∈ made, carriedName? entry = some name) :
      ∃ command, scope.commands.get? name = some command := by
    obtain ⟨entry, hentry, hname⟩ := h
    exact Option.isSome_iff_exists.1
      ((contains_iff_carried hnames).2 ⟨entry, hmade hentry, hname⟩)
  refine ⟨classes, scope, ⟨value, hvalue, hclasses⟩,
    ⟨commands, hsections.commandsAt, hsections.form⟩, ?_, hcompletes.commands, ?_, ?_, ?_,
    hcompletes.hooked⟩
  · rw [hsections.declarations_eq]
    exact hdeclares.declared
  · intro name hname
    obtain ⟨item, hitem, hlisted⟩ := exists_listed hdeclares.restrictedNames hname
    exact hcarried (List.subset_append_left _ _)
      (hdeclares.restrictedAfter.exists_carried hitem hlisted)
  · intro name hname
    obtain ⟨item, hitem, hlisted⟩ := exists_listed hdeclares.unrestrictedNames hname
    exact hcarried (List.Subset.refl _)
      (hdeclares.unrestrictedAfter.exists_carried hitem hlisted)
  · intro name hname
    simpa using List.find?_eq_none.1 hcompletes.disjoint name hname

theorem load_eq_ok {document : Json} {bot : Bot} (h : (load document).result = .ok bot) :
    ∃ entries, document = .object entries ∧ (loadEntries entries).result = .ok bot := by
  unfold load at h
  rw [Load.result_tellFailure] at h
  split at h
  · exact ⟨_, rfl, h⟩
  · cases h

/-- The scope of a document is sound, because every declaration keeps it so. -/
theorem Origin.scope_sound {entries : List (String × Json)} {classes : ClassNames} {bot : Bot}
    (h : Origin entries classes scope bot) : scope.Sound :=
  sound_declareAll (Scope.sound_ofClasses classes) h.declared

/-- The names of a bot are those of the scope that its document made. -/
theorem Origin.scope_eq {entries : List (String × Json)} {classes : ClassNames} {bot : Bot}
    (h : Origin entries classes scope bot) : bot.scope classes = scope := by
  have hclasses : scope.classes = classes := (extends_declareAll h.declared).classes
  unfold Bot.scope
  rw [h.commands, ← hclasses]

/-- A loaded bot is sound: its commands by their scope, and its access lists because a name in both
is refused. -/
theorem Origin.sound {entries : List (String × Json)} {classes : ClassNames} {bot : Bot}
    (h : Origin entries classes scope bot) : bot.Sound classes where
  named := by
    rw [h.commands]
    exact h.scope_sound.named
  command := by
    rw [h.scope_eq, h.commands]
    exact h.scope_sound.command
  hook := by
    rw [h.scope_eq]
    exact hooks_soundIn h.scope_sound.named h.hooked
  restricted := by
    rw [h.commands]
    exact h.restricted
  unrestricted := by
    rw [h.commands]
    exact h.unrestricted
  disjoint := h.disjoint

/-- The names of a bot are those that its declarations carry, in their order. -/
theorem Origin.keys {entries : List (String × Json)} {classes : ClassNames} {bot : Bot}
    (h : Origin entries classes scope bot) :
    bot.commands.keys.map some = (declarations entries).map carriedName? := by
  rw [h.commands]
  exact keys_declareAll (Scope.sound_ofClasses classes) h.declared

/-- References lead to names declared before, so following them never comes back. -/
theorem Origin.rank_lt {entries : List (String × Json)} {classes : ClassNames} {bot : Bot}
    (h : Origin entries classes scope bot) {name target : String}
    (hrefers : bot.Refers name target) :
    bot.commands.keys.idxOf target < bot.commands.keys.idxOf name := by
  obtain ⟨command, hget, referred, hreferred, rfl⟩ := hrefers
  rw [h.commands] at hget ⊢
  exact h.scope_sound.rank name command hget referred hreferred

/-- Ranks fall along references, so no command refers to itself, however many others are between. -/
theorem Origin.acyclic {entries : List (String × Json)} {classes : ClassNames} {bot : Bot}
    (h : Origin entries classes scope bot) (name : String) :
    ¬ Relation.TransGen bot.Refers name name := by
  have hrank (first last : String) (hpath : Relation.TransGen bot.Refers first last) :
      bot.commands.keys.idxOf last < bot.commands.keys.idxOf first := by
    induction hpath with
    | single hrefers => exact h.rank_lt hrefers
    | tail _ hrefers ih => exact Nat.lt_trans (h.rank_lt hrefers) ih
  intro hpath
  exact Nat.lt_irrefl _ (hrank name name hpath)

/-- Every bot that a document loads to is sound for the class names of that document: at every depth
a reference holds the very command that the table holds, what is written in place has no name, and
class names, keys and triggers are as declared. Its names are those that the declarations carry, and
their order, in which a command comes after all that it refers to, leaves no cycle. -/
theorem load_sound {document : Json} {bot : Bot} (hload : (load document).result = .ok bot) :
    ∃ entries value classes, document = .object entries ∧
      Table.find "classes" entries = some value ∧ ClassNames.ofJson value = .ok classes ∧
      bot.Sound classes ∧
      bot.commands.keys.map some = (declarations entries).map carriedName? ∧
      (∀ name target, bot.Refers name target →
        bot.commands.keys.idxOf target < bot.commands.keys.idxOf name) ∧
      ∀ name, ¬ Relation.TransGen bot.Refers name name := by
  obtain ⟨entries, rfl, hentries⟩ := load_eq_ok hload
  obtain ⟨classes, scope, horigin⟩ := loadEntries_eq_ok hentries
  obtain ⟨value, hfind, hnames⟩ := horigin.names
  exact ⟨entries, value, classes, rfl, hfind, hnames, horigin.sound, horigin.keys,
    fun name target => horigin.rank_lt, horigin.acyclic⟩

/-- A document in which a sequence refers to a command, and a restricted command is declared where
it is listed. -/
def sample : Json :=
  .object [("classes", .object [("Seq", .string "SequenceCommand")]),
    ("approved_users", .array []),
    ("restricted", .array [.array [.string "StateCommand", .string "hp", .string "hp"]]),
    ("public", .array [.string "greet"]),
    ("commands", .array [
      .array [.string "InfoCommand", .string "greet", .string "hello!"],
      .array [.string "Seq", .string "both", .string "greet",
        .array [.string "InfoCommand", .string "bye"]]])]

/-- The sample loads, its commands in the order of their declarations, and none comes back to
itself. -/
theorem sample_sound :
    ∃ bot, (load sample).result = .ok bot ∧ bot.commands.keys = ["greet", "both", "hp"] ∧
      ∃ classes, bot.Sound classes ∧ ∀ name, ¬ Relation.TransGen bot.Refers name name := by
  have hkeys : (load sample).result.toOption.map (·.commands.keys) =
      some ["greet", "both", "hp"] := by
    decide +kernel
  cases hload : (load sample).result with
  | error error =>
    rw [hload] at hkeys
    cases hkeys
  | ok bot =>
    rw [hload] at hkeys
    obtain ⟨_, _, classes, _, _, _, hsound, _, _, hacyclic⟩ := load_sound hload
    exact ⟨bot, rfl, Option.some.inj hkeys, classes, hsound, hacyclic⟩

end Document

end CommandBot
