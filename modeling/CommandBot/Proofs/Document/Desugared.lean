import CommandBot.Proofs.Document.Loaded

namespace CommandBot.Document

variable {scope : Scope}

/-- An item of an access list, a declaration being replaced by the name that it carries. -/
def namedItem (item : Json) : Json :=
  match carriedName? item with
  | some name => .string name
  | none => item

/-- An access list with names in place of declarations. -/
def namedItems : Json → Json
  | .array items => .array (items.map namedItem)
  | found => found

/-- A section of the document with all its declarations in the list of commands. -/
def desugaredSection (entries : List (String × Json)) (key : String) (value : Json) : Json :=
  match key with
  | "commands" => .array (declarations entries)
  | "restricted" | "public" => namedItems value
  | _ => value

/-- The document with all its declarations in the list of commands, and names in the places where
they were made in access lists. -/
def desugared (entries : List (String × Json)) : List (String × Json) :=
  entries.map fun (key, value) => (key, desugaredSection entries key value)

/-- A section stands under its own key and is replaced there. -/
theorem find_desugared (entries : List (String × Json)) (key : String) :
    Table.find key (desugared entries) =
      (Table.find key entries).map (desugaredSection entries key) :=
  Table.find_map (desugaredSection entries) key entries

theorem find_desugared_of_eq {entries : List (String × Json)} {key : String}
    (hsame : desugaredSection entries key = id) :
    Table.find key (desugared entries) = Table.find key entries := by
  rw [find_desugared, hsame, Option.map_id_fun, id]

/-- The sections that declare nothing are the same in both documents. -/
theorem completes_desugared {entries : List (String × Json)} {bot : Bot} :
    Completes (desugared entries) scope bot ↔ Completes entries scope bot := by
  have hhooks : Table.find "on_state_change" (desugared entries) =
      Table.find "on_state_change" entries := find_desugared_of_eq rfl
  have husers : Table.find "approved_users" (desugared entries) =
      Table.find "approved_users" entries := find_desugared_of_eq rfl
  have hvalues : Table.find "state" (desugared entries) = Table.find "state" entries :=
    find_desugared_of_eq rfl
  constructor
  · rintro ⟨hcommands, hdisjoint, hhooked, happroved, hstore, hmark⟩
    rw [hhooks] at hhooked
    rw [husers] at happroved
    rw [hvalues] at hstore
    exact ⟨hcommands, hdisjoint, hhooked, happroved, hstore, hmark⟩
  · rintro ⟨hcommands, hdisjoint, hhooked, happroved, hstore, hmark⟩
    rw [← hhooks] at hhooked
    rw [← husers] at happroved
    rw [← hvalues] at hstore
    exact ⟨hcommands, hdisjoint, hhooked, happroved, hstore, hmark⟩

/-! ### Access lists -/

/-- A declaration is listed under the name that it carries, so the name may be listed in its place.
-/
theorem listedName?_namedItem (item : Json) : listedName? (namedItem item) = listedName? item := by
  unfold namedItem
  split
  · rename_i name hname
    cases item with
    | array items => exact hname.symm
    | null | bool | number | string | object => cases hname
  · rfl

/-- Where each declaration carries a name, all of them are replaced. -/
theorem inPlace_namedItem {items : List Json}
    (hnamed : ∀ item ∈ inPlace items, ∃ name, carriedName? item = some name) :
    inPlace (items.map namedItem) = [] := by
  refine List.filter_eq_nil_iff.2 ?_
  intro item hitem
  obtain ⟨written, hwritten, rfl⟩ := List.mem_map.1 hitem
  cases written with
  | array entry =>
    obtain ⟨name, hname⟩ := hnamed (.array entry) (List.mem_filter.2 ⟨hwritten, rfl⟩)
    rw [namedItem, hname]
    exact Bool.false_ne_true
  | null | bool | number | string | object => exact Bool.false_ne_true

/-- Once everything is declared, names may be listed in any order. -/
theorem Introduced.namedItem {known all items : List Json} (h : Introduced known items)
    (hall : known ++ inPlace items ⊆ all) : Introduced all (items.map namedItem) := by
  rintro before name after hsplit
  have hname : .string name ∈ items.map Document.namedItem := by
    rw [hsplit]
    exact List.mem_append_right _ List.mem_cons_self
  obtain ⟨item, hitem, hsame⟩ := List.mem_map.1 hname
  have hlisted : listedName? item = some name := by
    rw [← listedName?_namedItem, hsame]
    rfl
  obtain ⟨entry, hentry, hcarried⟩ := h.exists_carried hitem hlisted
  exact ⟨entry, List.mem_append_left _ (hall hentry), hcarried⟩

theorem map_listedName?_namedItem (items : List Json) :
    (items.map namedItem).map listedName? = items.map listedName? := by
  rw [List.map_map]
  exact List.map_congr_left fun item _ => listedName?_namedItem item

/-! ### The whole document -/

section Sections

variable {entries : List (String × Json)} {commands : Json} {restricted unrestricted : List Json}

/-- The desugared document has all declarations in its list of commands and names in its access
lists. -/
theorem HasSections.desugared (h : HasSections entries commands restricted unrestricted) :
    HasSections (desugared entries) (.array (declarations entries)) (restricted.map namedItem)
      (unrestricted.map namedItem) where
  commandsAt := by
    rw [find_desugared, h.commandsAt]
    rfl
  form := trivial
  restrictedAt := by
    rw [find_desugared, h.restrictedAt]
    rfl
  unrestrictedAt := by
    rw [find_desugared, h.unrestrictedAt]
    rfl

/-- The declarations stay the same, in the same order, so only the order of names matters. -/
theorem declares_desugared {classes : ClassNames} {bot : Bot}
    (h : HasSections entries commands restricted unrestricted)
    (hnamed : ∀ item ∈ inPlace restricted ++ inPlace unrestricted,
      ∃ name, carriedName? item = some name) :
    Declares classes commands restricted unrestricted scope bot ↔
      Declares classes (.array (declarations entries)) (restricted.map namedItem)
          (unrestricted.map namedItem) scope bot ∧
        HasKeys commands ∧ Introduced (commandEntries commands) restricted ∧
        Introduced (commandEntries commands ++ inPlace restricted) unrestricted := by
  obtain ⟨hrestricted, hunrestricted⟩ := List.forall_mem_append.1 hnamed
  have hmoved : commandEntries (.array (declarations entries)) ++
      inPlace (restricted.map namedItem) ++ inPlace (unrestricted.map namedItem) =
        commandEntries commands ++ inPlace restricted ++ inPlace unrestricted := by
    rw [inPlace_namedItem hrestricted, inPlace_namedItem hunrestricted, List.append_nil,
      List.append_nil]
    exact h.declarations_eq
  constructor
  · intro hdeclares
    refine ⟨?_, hdeclares.keys, hdeclares.restrictedAfter, hdeclares.unrestrictedAfter⟩
    constructor
    case declared =>
      rw [hmoved]
      exact hdeclares.declared
    case keys =>
      rintro _ ⟨⟩
    case restrictedNames =>
      rw [map_listedName?_namedItem]
      exact hdeclares.restrictedNames
    case restrictedAfter =>
      apply hdeclares.restrictedAfter.namedItem
      rw [commandEntries, h.declarations_eq]
      exact List.subset_append_left _ _
    case unrestrictedNames =>
      rw [map_listedName?_namedItem]
      exact hdeclares.unrestrictedNames
    case unrestrictedAfter =>
      apply hdeclares.unrestrictedAfter.namedItem
      rw [commandEntries, h.declarations_eq]
      exact List.subset_append_left _ _
  · rintro ⟨hdeclares, hkeys, hrestrictedAfter, hunrestrictedAfter⟩
    obtain ⟨hdeclared, _, hrestrictedNames, _, hunrestrictedNames, _⟩ := hdeclares
    rw [hmoved] at hdeclared
    rw [map_listedName?_namedItem] at hrestrictedNames hunrestrictedNames
    exact ⟨hdeclared, hkeys, hrestrictedNames, hrestrictedAfter, hunrestrictedNames,
      hunrestrictedAfter⟩

/-- Desugaring. Take a document whose commands are a list or an object and whose access lists are
lists, each declaration in them carrying a name. Move all declarations, in their order, to the list
of commands, and leave the names in their places. The document loads to a bot exactly if the
desugared one loads to the same bot and three things hold: the entries of an object carry their keys
as names, and a name in either access list is carried by a command or by a declaration in place that
stands before it. -/
theorem load_desugared (hsections : HasSections entries commands restricted unrestricted)
    (hnamed : ∀ item ∈ inPlace restricted ++ inPlace unrestricted,
      ∃ name, carriedName? item = some name) (bot : Bot) :
    (load (.object entries)).result = .ok bot ↔
      (load (.object (desugared entries))).result = .ok bot ∧ HasKeys commands ∧
        Introduced (commandEntries commands) restricted ∧
        Introduced (commandEntries commands ++ inPlace restricted) unrestricted := by
  have hclasses : Table.find "classes" (desugared entries) = Table.find "classes" entries :=
    find_desugared_of_eq rfl
  unfold load
  rw [Load.result_tellFailure, Load.result_tellFailure]
  dsimp only
  rw [hsections.loadEntries_eq_ok_iff, hsections.desugared.loadEntries_eq_ok_iff, hclasses]
  constructor
  · rintro ⟨value, classes, scope, hvalue, hnames, hdeclares, hcompletes⟩
    obtain ⟨hmoved, horder⟩ := (declares_desugared hsections hnamed).1 hdeclares
    have hcompleted := completes_desugared.2 hcompletes
    exact ⟨⟨value, classes, scope, hvalue, hnames, hmoved, hcompleted⟩, horder⟩
  · rintro ⟨⟨value, classes, scope, hvalue, hnames, hmoved, hcompletes⟩, horder⟩
    have hdeclares := (declares_desugared hsections hnamed).2 ⟨hmoved, horder⟩
    exact ⟨value, classes, scope, hvalue, hnames, hdeclares, completes_desugared.1 hcompletes⟩

end Sections

/-- A document with its commands in an object and with declarations in both access lists, the second
of which refers to the first one. -/
def sugared : List (String × Json) :=
  [("classes", .object []), ("approved_users", .array [.string "host"]),
    ("commands", .object [("hp", .array [.string "StateCommand", .string "hp"])]),
    ("restricted", .array [.string "hp",
      .array [.string "SequenceCommand", .string "both", .string "hp",
        .array [.string "InfoCommand", .string "done"]]]),
    ("public", .array [
      .array [.string "ListenerCommand", .string "watch",
        .object [("trigger", .string "gg"), ("command", .string "both")]],
      .string "watch"])]

/-- A document with declarations in an access list loads, and its desugared form loads to the same
bot. -/
theorem sugared_loads :
    ∃ bot, (load (.object sugared)).result = .ok bot ∧
      (load (.object (desugared sugared))).result = .ok bot ∧
      bot.commands.keys = ["hp", "both", "watch"] ∧ bot.restricted = ["hp", "both"] ∧
      bot.unrestricted = ["watch", "watch"] := by
  have hchecked : (load (.object sugared)).result.toOption.any (fun bot =>
      bot.commands.keys = ["hp", "both", "watch"] ∧ bot.restricted = ["hp", "both"] ∧
        bot.unrestricted = ["watch", "watch"]) = true := by
    decide +kernel
  obtain ⟨bot, hload, hlists⟩ := exists_of_any_toOption hchecked
  have hsections : HasSections sugared _ _ _ := ⟨rfl, trivial, rfl, rfl⟩
  have hloads := load_desugared hsections (List.forall_mem_cons.2
    ⟨⟨"both", rfl⟩, List.forall_mem_singleton.2 ⟨"watch", rfl⟩⟩) bot
  obtain ⟨hsame, _⟩ := hloads.1 hload
  exact ⟨bot, hload, hsame, of_decide_eq_true hlists⟩

-- A name that is listed before its declaration is not known yet. The desugared document declares it
-- first.
example :
    let early : List (String × Json) :=
      [("classes", .object []), ("approved_users", .array []), ("commands", .array []),
        ("restricted", .array []),
        ("public", .array [.string "hi",
          .array [.string "InfoCommand", .string "hi", .string "hi!"]])]
    (load (.object early)).result.toOption.isSome = false ∧
      (load (.object (desugared early))).result.toOption.isSome = true := by
  decide +kernel

end CommandBot.Document
