import CommandBot.Proofs.Document.Loaded
import CommandBot.Proofs.Document.Vocabulary
import CommandBot.Proofs.Scope.Canonical
import CommandBot.Proofs.Session.Canonical

namespace CommandBot

namespace Document

/-- A section with canonical class names. The commands come first, then the declarations made in the
access lists, then the hooks, whatever the order of the sections in the document. -/
def canonicalSection (classes : ClassNames) (entries : List (String × Json)) (key : String)
    (value : Json) : Json :=
  let start : Vocabulary := ⟨classes, []⟩
  let commands := ((Table.find "commands" entries).map commandEntries).getD []
  let restricted := ((Table.find "restricted" entries).map accessEntries).getD []
  match key with
  | "classes" => .object []
  | "commands" => start.canonicalCommands value
  | "restricted" => (start.after commands).canonicalAccess value
  | "public" => (start.after (commands ++ restricted)).canonicalAccess value
  | "on_state_change" => (start.after (declarations entries)).canonicalHooks value
  | _ => value

/-- The entries of a document with canonical class names and without aliases. -/
def canonicalEntries (classes : ClassNames) (entries : List (String × Json)) :
    List (String × Json) :=
  entries.map fun (key, value) => (key, canonicalSection classes entries key value)

/-- The document with canonical class names and without aliases, if its aliases can be read.
Wherever the document reads a word as a class name, the canonical name of that class is put in its
place. -/
def canonical : Json → Json
  | .object entries =>
    match (Table.find "classes" entries).map ClassNames.ofJson with
    | some (.ok classes) => .object (canonicalEntries classes entries)
    | _ => .object entries
  | found => found

/-- A section stands under its own key and is respelled there. -/
theorem find_canonicalEntries (classes : ClassNames) (entries : List (String × Json))
    (key : String) :
    Table.find key (canonicalEntries classes entries) =
      (Table.find key entries).map (canonicalSection classes entries key) :=
  Table.find_map (canonicalSection classes entries) key entries

theorem find_canonicalEntries_of_eq {classes : ClassNames} {entries : List (String × Json)}
    {key : String} (hsame : canonicalSection classes entries key = id) :
    Table.find key (canonicalEntries classes entries) = Table.find key entries := by
  rw [find_canonicalEntries, hsame, Option.map_id_fun, id]

/-! ### Declarations and hooks -/

variable {scope later : Scope}

/-- What words mean behind a list of declarations that can be made. -/
theorem vocabulary_of_declareAll {entries : List Json} (hscope : scope.Sound)
    (h : (declareAll scope entries).result = .ok later) :
    later.vocabulary = scope.vocabulary.after entries := by
  have hclasses := (extends_declareAll h).classes
  have hkeys : later.commands.keys = scope.commands.keys ++ entries.filterMap carriedName? := by
    simpa [List.filterMap_map] using congrArg (List.filterMap id) (keys_declareAll hscope h)
  unfold Scope.vocabulary Vocabulary.after
  rw [hclasses, hkeys]

/-- Declarations made one after the other are respelled one after the other, each in the words of
those before it. -/
theorem declareAll_canonical (hscope : scope.Sound) (entries : List Json) :
    Mirrors Scope.canonical (declareAll scope entries).result
      (declareAll scope.canonical (scope.vocabulary.canonicalDeclarations entries)).result := by
  induction entries generalizing scope with
  | nil => exact .ok Scope.canonical scope
  | cons entry entries ih =>
    rw [Vocabulary.canonicalDeclarations, declareAll, declareAll, Load.result_bind,
      Load.result_bind]
    refine (scope.declare_canonical entry).bind fun declared hdeclare => ?_
    obtain ⟨next, command⟩ := declared
    have hnext : next.vocabulary = scope.vocabulary.after [entry] := by
      apply vocabulary_of_declareAll hscope
      exact declareAll_cons.2 ⟨next, command, hdeclare, rfl⟩
    rw [← hnext]
    exact ih (hscope.declare hdeclare)

/-- Hooks are read in one scope, so each of them is respelled by itself. -/
theorem hooksFrom_canonical (hooks : Hooks) (entries : List (String × Json)) :
    Mirrors Hooks.canonical (hooksFrom scope hooks entries)
      (hooksFrom scope.canonical hooks.canonical
        (entries.map fun (key, entry) => (key, scope.vocabulary.canonicalEntry entry))) := by
  induction entries generalizing hooks with
  | nil => exact .ok Hooks.canonical hooks
  | cons entry entries ih =>
    obtain ⟨key, entry⟩ := entry
    have hplace : scope.canonical.commands.size + hooks.canonical.size =
        scope.commands.size + hooks.size :=
      congrArg₂ (· + ·) (Table.size_map _ _) (Table.size_map _ _)
    rw [List.map_cons, hooksFrom, hooksFrom, hplace]
    split
    · exact .error _ _ _
    · refine (scope.resolve_canonical _ entry).bind fun step _ => ?_
      have hinsert : hooks.canonical.insert key step.canonical =
          Hooks.canonical (hooks.insert key step) :=
        (Table.map_insert _ _ _ _).symm
      rw [hinsert]
      exact ih (hooks.insert key step)

theorem hooks_canonical (value : Option Json) :
    Mirrors Hooks.canonical (hooks scope value)
      (hooks scope.canonical (value.map scope.vocabulary.canonicalHooks)) := by
  match value with
  | none => exact .ok Hooks.canonical Table.empty
  | some (.object entries) => exact hooksFrom_canonical Table.empty entries
  | some .null | some (.bool _) | some (.number _) | some (.string _) | some (.array _) =>
    exact .error _ _ _

/-! ### The whole document -/

section Sections

variable {entries : List (String × Json)} {commands : Json} {restricted unrestricted : List Json}
  {classes : ClassNames}

/-- The sections that make declarations, with canonical class names. -/
theorem HasSections.canonical (h : HasSections entries commands restricted unrestricted)
    (classes : ClassNames) :
    let start : Vocabulary := ⟨classes, []⟩
    let known := commandEntries commands
    HasSections (canonicalEntries classes entries) (start.canonicalCommands commands)
      ((start.after known).canonicalDeclarations restricted)
      ((start.after (known ++ inPlace restricted)).canonicalDeclarations unrestricted) where
  commandsAt := by
    rw [find_canonicalEntries, h.commandsAt]
    rfl
  form := (Vocabulary.isCollection_canonicalCommands commands).2 h.form
  restrictedAt := by
    rw [find_canonicalEntries, h.restrictedAt, Option.map_some, canonicalSection, h.commandsAt]
    rfl
  unrestrictedAt := by
    rw [find_canonicalEntries, h.unrestrictedAt, Option.map_some, canonicalSection, h.commandsAt,
      h.restrictedAt]
    rfl

theorem HasSections.of_canonical {listed unlisted : List Json}
    (h : HasSections (canonicalEntries classes entries) commands listed unlisted) :
    ∃ commands restricted unrestricted,
      HasSections entries commands restricted unrestricted := by
  have haccess {vocabulary : Vocabulary} {value : Json} {items : List Json}
      (h : vocabulary.canonicalAccess value = .array items) :
      ∃ written, value = .array written := by
    cases value with
    | array written => exact ⟨written, rfl⟩
    | null | bool | number | string | object => cases h
  obtain ⟨hcommands, hform, hrestricted, hunrestricted⟩ := h
  rw [find_canonicalEntries, Option.map_eq_some_iff] at hcommands hrestricted hunrestricted
  obtain ⟨written, hcommands, rfl⟩ := hcommands
  obtain ⟨_, hrestricted, hlisted⟩ := hrestricted
  obtain ⟨_, hunrestricted, hunlisted⟩ := hunrestricted
  obtain ⟨restricted, rfl⟩ := haccess hlisted
  obtain ⟨unrestricted, rfl⟩ := haccess hunlisted
  exact ⟨written, restricted, unrestricted, hcommands,
    (Vocabulary.isCollection_canonicalCommands written).1 hform, hrestricted, hunrestricted⟩

theorem canonicalDeclarations_all (vocabulary : Vocabulary) (commands : Json)
    (restricted unrestricted : List Json) :
    let known := commandEntries commands
    commandEntries (vocabulary.canonicalCommands commands) ++
        inPlace ((vocabulary.after known).canonicalDeclarations restricted) ++
        inPlace ((vocabulary.after (known ++ inPlace restricted)).canonicalDeclarations
          unrestricted) =
      vocabulary.canonicalDeclarations (known ++ inPlace restricted ++ inPlace unrestricted) := by
  dsimp only
  rw [Vocabulary.commandEntries_canonicalCommands, Vocabulary.inPlace_canonicalDeclarations,
    Vocabulary.inPlace_canonicalDeclarations, Vocabulary.canonicalDeclarations_append,
    Vocabulary.canonicalDeclarations_append]

/-- Declarations only look at the access lists of a bot. -/
theorem Declares.of_lists_eq {bot : Bot}
    (h : Declares classes commands restricted unrestricted scope bot) (other : Bot)
    (hrestricted : other.restricted = bot.restricted)
    (hunrestricted : other.unrestricted = bot.unrestricted) :
    Declares classes commands restricted unrestricted scope other where
  declared := h.declared
  keys := h.keys
  restrictedNames := hrestricted ▸ h.restrictedNames
  restrictedAfter := h.restrictedAfter
  unrestrictedNames := hunrestricted ▸ h.unrestrictedNames
  unrestrictedAfter := h.unrestrictedAfter

/-- The declarations can be made exactly if they can be made with canonical class names, and they
carry the same names, so the access lists make no difference either. -/
theorem declares_canonical {final : Scope} {bot : Bot} :
    let start : Vocabulary := ⟨classes, []⟩
    let known := commandEntries commands
    Declares Table.empty (start.canonicalCommands commands)
        ((start.after known).canonicalDeclarations restricted)
        ((start.after (known ++ inPlace restricted)).canonicalDeclarations unrestricted) final bot ↔
      ∃ scope, Declares classes commands restricted unrestricted scope bot ∧
        scope.canonical = final := by
  intro start known
  have hdeclared := (declareAll_canonical (Scope.sound_ofClasses classes)
    (known ++ inPlace restricted ++ inPlace unrestricted)).eq_ok_iff (b := final)
  have hknown : (commandEntries (start.canonicalCommands commands)).map carriedName? =
      known.map carriedName? := by
    rw [Vocabulary.commandEntries_canonicalCommands,
      Vocabulary.map_carriedName?_canonicalDeclarations]
  have hmore : (commandEntries (start.canonicalCommands commands) ++
        inPlace ((start.after known).canonicalDeclarations restricted)).map carriedName? =
      (known ++ inPlace restricted).map carriedName? := by
    rw [List.map_append, List.map_append, hknown, Vocabulary.inPlace_canonicalDeclarations,
      Vocabulary.map_carriedName?_canonicalDeclarations]
  constructor
  · rintro ⟨hmade, hkeys, hrestricted, hrestrictedAfter, hunrestricted, hunrestrictedAfter⟩
    rw [canonicalDeclarations_all] at hmade
    rw [Vocabulary.map_listedName?_canonicalDeclarations] at hrestricted hunrestricted
    obtain ⟨scope, hscope, rfl⟩ := hdeclared.1 hmade
    exact ⟨scope, ⟨hscope, (Vocabulary.hasKeys_canonicalCommands commands).1 hkeys, hrestricted,
      (Vocabulary.introduced_canonicalDeclarations hknown).1 hrestrictedAfter, hunrestricted,
      (Vocabulary.introduced_canonicalDeclarations hmore).1 hunrestrictedAfter⟩, rfl⟩
  · rintro ⟨scope, ⟨hmade, hkeys, hrestricted, hrestrictedAfter, hunrestricted,
      hunrestrictedAfter⟩, rfl⟩
    rw [← Vocabulary.map_listedName?_canonicalDeclarations] at hrestricted hunrestricted
    have hagain := hdeclared.2 ⟨scope, hmade, rfl⟩
    refine ⟨?_, (Vocabulary.hasKeys_canonicalCommands commands).2 hkeys, hrestricted,
      (Vocabulary.introduced_canonicalDeclarations hknown).2 hrestrictedAfter, hunrestricted,
      (Vocabulary.introduced_canonicalDeclarations hmore).2 hunrestrictedAfter⟩
    rw [canonicalDeclarations_all]
    exact hagain

/-- The sections that declare nothing hold no class names, but for the hooks. -/
theorem completes_canonical {bot : Bot} (hvocabulary :
      scope.vocabulary = Vocabulary.after ⟨classes, []⟩ (declarations entries)) :
    Completes (canonicalEntries classes entries) scope.canonical bot ↔
      ∃ spelled, Completes entries scope spelled ∧ spelled.canonical = bot := by
  have hhooks : Table.find "on_state_change" (canonicalEntries classes entries) =
      (Table.find "on_state_change" entries).map scope.vocabulary.canonicalHooks := by
    rw [find_canonicalEntries, hvocabulary]
    rfl
  have hhooked := (hooks_canonical (Table.find "on_state_change" entries)).eq_ok_iff
    (x := hooks scope _) (b := bot.hooks)
  have husers : Table.find "approved_users" (canonicalEntries classes entries) =
      Table.find "approved_users" entries := find_canonicalEntries_of_eq rfl
  have hvalues : Table.find "state" (canonicalEntries classes entries) =
      Table.find "state" entries := find_canonicalEntries_of_eq rfl
  constructor
  · rintro ⟨hcommands, hdisjoint, hresolved, happroved, hstore, hmark⟩
    rw [hhooks, hhooked] at hresolved
    rw [husers] at happroved
    rw [hvalues] at hstore
    obtain ⟨hooked, hspelled, hcanonical⟩ := hresolved
    refine ⟨{ bot with commands := scope.commands, hooks := hooked }, ?_, ?_⟩
    · exact ⟨rfl, hdisjoint, hspelled, happroved, hstore, hmark⟩
    · have hsame : scope.commands.map Command.canonical = bot.commands := hcommands.symm
      unfold Bot.canonical
      rw [hcanonical, hsame]
  · rintro ⟨spelled, ⟨hcommands, hdisjoint, hresolved, happroved, hstore, hmark⟩, rfl⟩
    refine ⟨congrArg (Table.map Command.canonical) hcommands, hdisjoint, ?_, ?_, ?_, hmark⟩
    · rw [hhooks]
      exact hhooked.2 ⟨spelled.hooks, hresolved, rfl⟩
    · rw [husers]
      exact happroved
    · rw [hvalues]
      exact hstore

end Sections

/-- Once the aliases are read, loading needs them no more. -/
theorem loadEntries_canonical {classes : ClassNames} {entries : List (String × Json)}
    {value : Json} (hvalue : Table.find "classes" entries = some value)
    (hclasses : ClassNames.ofJson value = .ok classes) :
    Mirrors Bot.canonical (loadEntries entries).result
      (loadEntries (canonicalEntries classes entries)).result := by
  have hnone : Table.find "classes" (canonicalEntries classes entries) = some (.object []) := by
    rw [find_canonicalEntries, hvalue]
    rfl
  refine .of_eq_ok_iff fun bot => ?_
  by_cases hform : ∃ commands restricted unrestricted,
      HasSections entries commands restricted unrestricted
  · obtain ⟨commands, restricted, unrestricted, hsections⟩ := hform
    have hvocabulary {scope : Scope} {spelled : Bot}
        (hdeclares : Declares classes commands restricted unrestricted scope spelled) :
        scope.vocabulary = Vocabulary.after ⟨classes, []⟩ (declarations entries) := by
      rw [hsections.declarations_eq]
      exact vocabulary_of_declareAll (Scope.sound_ofClasses classes) hdeclares.declared
    rw [(hsections.canonical classes).loadEntries_eq_ok_iff]
    constructor
    · rintro ⟨_, _, final, hempty, hread, hdeclares, hcompletes⟩
      cases hnone.symm.trans hempty
      cases hread
      obtain ⟨scope, hmade, rfl⟩ := declares_canonical.1 hdeclares
      obtain ⟨spelled, hmakes, rfl⟩ := (completes_canonical (hvocabulary hmade)).1 hcompletes
      exact ⟨spelled, hsections.loadEntries_eq_ok_iff.2 ⟨value, classes, scope, hvalue, hclasses,
        hmade.of_lists_eq spelled rfl rfl, hmakes⟩, rfl⟩
    · rintro ⟨spelled, hload, rfl⟩
      obtain ⟨_, _, scope, hfound, hread, hdeclares, hcompletes⟩ :=
        hsections.loadEntries_eq_ok_iff.1 hload
      cases hvalue.symm.trans hfound
      cases hclasses.symm.trans hread
      have hlists := hdeclares.of_lists_eq spelled.canonical rfl rfl
      exact ⟨_, _, scope.canonical, hnone, rfl, declares_canonical.2 ⟨scope, hlists, rfl⟩,
        (completes_canonical (hvocabulary hdeclares)).2 ⟨spelled, hcompletes, rfl⟩⟩
  · refine iff_of_false ?_ ?_
    · intro hload
      obtain ⟨_, _, _, hsections, _⟩ := loadEntries_eq_ok_iff.1 hload
      exact hform hsections.of_canonical
    · rintro ⟨spelled, hload, _⟩
      obtain ⟨commands, restricted, unrestricted, hsections, _⟩ := loadEntries_eq_ok_iff.1 hload
      exact hform ⟨commands, restricted, unrestricted, hsections⟩

/-- A document loads exactly if its respelling does, also where its aliases cannot be read: then it
stays as it is. -/
theorem mirrors_load (document : Json) :
    Mirrors Bot.canonical (load document).result (load (canonical document)).result := by
  unfold canonical
  split
  · rename_i entries
    split
    · rename_i classes hread
      obtain ⟨value, hvalue, hclasses⟩ := Option.map_eq_some_iff.1 hread
      unfold load
      rw [Load.result_tellFailure, Load.result_tellFailure]
      exact loadEntries_canonical hvalue hclasses
    · rename_i hunread
      refine .self fun bot hload => ?_
      obtain ⟨_, ⟨⟩, hentries⟩ := load_eq_ok hload
      obtain ⟨classes, scope, horigin⟩ := loadEntries_eq_ok hentries
      obtain ⟨value, hvalue, hclasses⟩ := horigin.names
      exact absurd (Option.map_eq_some_iff.2 ⟨value, hvalue, hclasses⟩) (hunread classes)
  · rename_i hfound
    refine .self fun bot hload => ?_
    obtain ⟨entries, rfl, _⟩ := load_eq_ok hload
    exact absurd rfl (hfound entries)

/-- Aliases of classes are abbreviations and nothing else. Take any document and put the canonical
name of its class in place of each word that is read as a class name, leaving selectors, references,
names and arguments alone, and leave the aliases out. The document loads exactly if this one does,
and the bots are the same but for the class names that their commands record. Whatever bot it is,
with any mark and files, the other names make no difference to a script: each message is answered by
the same lines, and the values, files, approved users and listeners are the same afterwards. -/
theorem load_canonical (document : Json) :
    (load (canonical document)).result.toOption =
        (load document).result.toOption.map Bot.canonical ∧
      ∀ (bot : Bot) (mark : String) (files : Files) (script : List Input),
        let spelled := (Session.start (bot.withMark mark) files).play script
        let renamed := (Session.start (bot.canonical.withMark mark) files).play script
        renamed.replies = spelled.replies ∧
          renamed.session.world.store = spelled.session.world.store ∧
          renamed.session.world.files = spelled.session.world.files ∧
          renamed.session.approved = spelled.session.approved ∧
          renamed.session.world.listeners =
            spelled.session.world.listeners.map Listener.canonical := by
  refine ⟨mirrors_load document, ?_⟩
  intro bot mark files script spelled renamed
  have hplay : renamed = spelled.canonical :=
    Session.play_canonical (Session.start (bot.withMark mark) files) script
  rw [hplay]
  exact ⟨rfl, rfl, rfl, rfl, rfl⟩

-- One alias has the name of a command, and another one gives a canonical name to a different class.
-- The word `hp` is a class name where an array starts with it, behind a selector too, unless it
-- stands there alone.
example :
    let shadowing : Json :=
      .object [("classes", .object [("hp", .string "InfoCommand"),
          ("InfoCommand", .string "SequenceCommand"), ("Pick", .string "OptionCommand")]),
        ("approved_users", .array []), ("restricted", .array []), ("public", .array []),
        ("commands", .array [
          .array [.string "StateCommand", .string "hp"],
          .array [.string "InfoCommand", .string "both", .array [.string "hp", .string "hi"],
            .string "hp"],
          .array [.string "Pick", .string "pick", .array [.string "hp", .string "hp"],
            .array [.string "key", .string "hp", .string "hp"],
            .array [.string "key", .string "hp"], .array [.string "both", .string "hp"]]])]
    (load shadowing).result.toOption.isSome = true ∧
      ((canonical shadowing).entries?.bind (Table.find "commands")).map Json.compact =
        some ("[[\"StateCommand\",\"hp\"]," ++
          "[\"SequenceCommand\",\"both\",[\"InfoCommand\",\"hi\"],\"hp\"]," ++
          "[\"OptionCommand\",\"pick\",[\"InfoCommand\",\"hp\"]," ++
          "[\"key\",\"InfoCommand\",\"hp\"],[\"key\",\"hp\"],[\"both\",\"hp\"]]]") := by
  decide +kernel

end Document

end CommandBot
