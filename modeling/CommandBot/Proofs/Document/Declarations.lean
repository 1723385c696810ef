import CommandBot.Document
import CommandBot.Proofs.Scope.Growth

namespace CommandBot

/-- A list or an object. -/
def Json.IsCollection : Json → Prop
  | .array _ | .object _ => True
  | _ => False

namespace Document

/-- The entries of the section that declares commands. -/
def commandEntries : Json → List Json
  | .array entries => entries
  | .object entries => entries.map Prod.snd
  | _ => []

/-- The declarations among the items of an access list. -/
def inPlace (items : List Json) : List Json := items.filter (·.items?.isSome)

theorem inPlace_cons (item : Json) (items : List Json) :
    inPlace (item :: items) = inPlace [item] ++ inPlace items :=
  List.filter_append [item] items

/-- The declarations that an access list makes. -/
def accessEntries : Json → List Json
  | .array items => inPlace items
  | _ => []

/-- Every declaration of a document: the commands, then those made in the list of restricted names,
then those made in the public one. All that a document declares comes to declaring these entries in
order. -/
def declarations (entries : List (String × Json)) : List Json :=
  ((Table.find "commands" entries).map commandEntries).getD [] ++
    ((Table.find "restricted" entries).map accessEntries).getD [] ++
    ((Table.find "public" entries).map accessEntries).getD []

variable {scope later : Scope}

theorem declareAll_cons {entry : Json} {entries : List Json} :
    (declareAll scope (entry :: entries)).result = .ok later ↔
      ∃ next command, (scope.declare entry).result = .ok (next, command) ∧
        (declareAll next entries).result = .ok later := by
  rw [declareAll, Load.result_bind, bind_eq_ok_iff]
  constructor
  · rintro ⟨⟨next, command⟩, hdeclare, hrest⟩
    exact ⟨next, command, hdeclare, hrest⟩
  · rintro ⟨next, command, hdeclare, hrest⟩
    exact ⟨⟨next, command⟩, hdeclare, hrest⟩

theorem declareAll_append_iff {entries more : List Json} :
    (declareAll scope (entries ++ more)).result = .ok later ↔
      ∃ middle, (declareAll scope entries).result = .ok middle ∧
        (declareAll middle more).result = .ok later := by
  induction entries generalizing scope with
  | nil =>
    constructor
    · intro h
      exact ⟨scope, rfl, h⟩
    · rintro ⟨_, ⟨⟩, h⟩
      exact h
  | cons entry entries ih =>
    rw [List.cons_append, declareAll_cons]
    simp only [ih, declareAll_cons]
    constructor
    · rintro ⟨next, command, hdeclare, middle, hentries, hmore⟩
      exact ⟨middle, ⟨next, command, hdeclare, hentries⟩, hmore⟩
    · rintro ⟨middle, ⟨next, command, hdeclare, hentries⟩, hmore⟩
      exact ⟨next, command, hdeclare, middle, hentries, hmore⟩

/-! ### What a list of declarations does to a scope -/

theorem extends_declareAll {entries : List Json}
    (h : (declareAll scope entries).result = .ok later) : scope.Extends later := by
  induction entries generalizing scope with
  | nil =>
    cases h
    exact .refl _
  | cons entry entries ih =>
    obtain ⟨next, command, hdeclare, hrest⟩ := declareAll_cons.1 h
    exact (Scope.extends_register (Scope.declare_eq_ok hdeclare).2).trans (ih hrest)

/-- Each entry of a list is declared in a scope that the last one extends. -/
theorem exists_declared {entries : List Json} (h : (declareAll scope entries).result = .ok later)
    {entry : Json} (hentry : entry ∈ entries) :
    ∃ (before : Scope) (command : Command), before.Extends later ∧
      before.declared entry = .ok command ∧ later.commands.get? command.name = some command := by
  induction entries generalizing scope with
  | nil => cases hentry
  | cons first entries ih =>
    obtain ⟨next, command, hdeclare, hrest⟩ := declareAll_cons.1 h
    rcases List.mem_cons.1 hentry with rfl | hentry
    · obtain ⟨hdeclared, hregister⟩ := Scope.declare_eq_ok hdeclare
      have hextends := extends_declareAll hrest
      exact ⟨scope, command, (Scope.extends_register hregister).trans hextends, hdeclared,
        hextends.commands _ _ (Scope.get?_register hregister)⟩
    · exact ih hrest hentry

theorem sound_declareAll {entries : List Json} (hscope : scope.Sound)
    (h : (declareAll scope entries).result = .ok later) : later.Sound := by
  induction entries generalizing scope with
  | nil =>
    cases h
    exact hscope
  | cons entry entries ih =>
    obtain ⟨next, command, hdeclare, hrest⟩ := declareAll_cons.1 h
    exact ih (hscope.declare hdeclare) hrest

/-- A declared command has the name that its entry carries, so names can be read off a document
before it is loaded. -/
theorem carriedName?_of_declare {entry : Json} {command : Command} (hnamed : scope.Named)
    (h : (scope.declare entry).result = .ok (later, command)) :
    carriedName? entry = some command.name := by
  obtain ⟨hdeclared, _⟩ := Scope.declare_eq_ok h
  obtain ⟨head, name, args, body, rfl, _, rfl, _⟩ := hnamed.reads_soundIn.declared hdeclared
  rfl

/-- The keys of the table are the names that the entries carry, in the order of the entries. -/
theorem keys_declareAll {entries : List Json} (hscope : scope.Sound)
    (h : (declareAll scope entries).result = .ok later) :
    later.commands.keys.map some = scope.commands.keys.map some ++ entries.map carriedName? := by
  induction entries generalizing scope with
  | nil =>
    cases h
    exact (List.append_nil _).symm
  | cons entry entries ih =>
    obtain ⟨next, command, hdeclare, hrest⟩ := declareAll_cons.1 h
    have hkeys := Scope.keys_register (Scope.declare_eq_ok hdeclare).2
    rw [ih (hscope.declare hdeclare) hrest, hkeys, List.map_cons,
      carriedName?_of_declare hscope.named hdeclare, List.map_append, List.append_assoc]
    rfl

/-! ### Sections -/

/-- Each command of an object stands under the name that it carries. -/
def Keyed (entries : List (String × Json)) : Prop :=
  ∀ entry ∈ entries, carriedName? entry.2 = some entry.1

/-- Declarations in an object are declarations in a list, if each key is the name that its entry
carries. -/
theorem declareNamed_eq_ok_iff {entries : List (String × Json)} :
    (declareNamed scope entries).result = .ok later ↔
      Keyed entries ∧ (declareAll scope (entries.map Prod.snd)).result = .ok later := by
  induction entries generalizing scope with
  | nil => exact (and_iff_right nofun).symm
  | cons entry entries ih =>
    obtain ⟨key, value⟩ := entry
    have hkeyed : Keyed ((key, value) :: entries) ↔
        carriedName? value = some key ∧ Keyed entries :=
      List.forall_mem_cons
    rw [hkeyed, declareNamed, List.map_cons, declareAll_cons]
    split
    · rename_i hname
      rw [Load.result_bind, bind_eq_ok_iff, and_assoc, and_iff_right hname]
      simp only [ih, Prod.exists]
      constructor
      · rintro ⟨next, command, hdeclare, hlater, hrest⟩
        exact ⟨hlater, next, command, hdeclare, hrest⟩
      · rintro ⟨hlater, next, command, hdeclare, hrest⟩
        exact ⟨next, command, hdeclare, hlater, hrest⟩
    · rename_i hname
      constructor
      · rintro ⟨⟩
      · rintro ⟨⟨hmatches, _⟩, _⟩
        exact absurd hmatches hname

/-- A section that declares commands names each of them as its key, if it has keys. -/
def HasKeys (commands : Json) : Prop := ∀ entries, commands = .object entries → Keyed entries

theorem hasKeys_object_iff {entries : List (String × Json)} :
    HasKeys (.object entries) ↔ Keyed entries := by
  constructor
  · intro h
    exact h entries rfl
  · rintro h _ ⟨⟩
    exact h

/-- Either form of the section comes to declaring its entries in order. -/
theorem declareCommands_eq_ok_iff {commands : Json} :
    (declareCommands scope commands).result = .ok later ↔
      commands.IsCollection ∧ HasKeys commands ∧
        (declareAll scope (commandEntries commands)).result = .ok later := by
  cases commands with
  | array entries =>
    have hkeys : HasKeys (.array entries) := by
      rintro _ ⟨⟩
    exact ⟨fun h => ⟨trivial, hkeys, h⟩, fun h => h.2.2⟩
  | object entries =>
    rw [hasKeys_object_iff]
    exact declareNamed_eq_ok_iff.trans (and_iff_right trivial).symm
  | null | bool | number | string =>
    constructor
    · rintro ⟨⟩
    · rintro ⟨⟨⟩, _⟩

/-! ### Access lists -/

/-- The name under which an access list lists an item: the item itself, or the name that a
declaration carries. -/
def listedName? : Json → Option String
  | .string name => some name
  | item => carriedName? item

/-- Each name among the items is carried by one of these declarations or by one made in place
before it. -/
def Introduced (known items : List Json) : Prop :=
  ∀ before name after, items = before ++ .string name :: after →
    ∃ entry ∈ known ++ inPlace before, carriedName? entry = some name

theorem introduced_nil (known : List Json) : Introduced known [] := by
  intro before name after h
  cases before <;> cases h

/-- A name is asked for at its place in the list, and a declaration made in place counts for what
follows it. -/
theorem introduced_cons {known items : List Json} {item : Json} :
    Introduced known (item :: items) ↔
      (∀ name, item = .string name → ∃ entry ∈ known, carriedName? entry = some name) ∧
        Introduced (known ++ inPlace [item]) items := by
  constructor
  · intro h
    constructor
    · rintro name rfl
      obtain ⟨entry, hentry, hname⟩ := h [] name items rfl
      exact ⟨entry, (List.append_nil known) ▸ hentry, hname⟩
    · rintro before name after rfl
      rw [List.append_assoc, ← inPlace_cons]
      exact h (item :: before) name after rfl
  · rintro ⟨hitem, hitems⟩ before name after h
    cases before with
    | nil =>
      cases h
      obtain ⟨entry, hentry, hname⟩ := hitem name rfl
      exact ⟨entry, List.mem_append_left _ hentry, hname⟩
    | cons first before =>
      cases h
      rw [inPlace_cons, ← List.append_assoc]
      exact hitems before name after rfl

/-- A scope knows a name exactly if some declaration carried it. -/
theorem contains_iff_carried {known : List Json}
    (hknown : scope.commands.keys.map some = known.map carriedName?) {name : String} :
    scope.commands.contains name = true ↔ ∃ entry ∈ known, carriedName? entry = some name := by
  have hmem : some name ∈ scope.commands.keys.map some ↔ some name ∈ known.map carriedName? := by
    rw [hknown]
  rw [Table.contains_iff, ← List.mem_map, ← hmem]
  simp

section Listed

variable {list : String} {items : List Json} {names : List String}

theorem listed_string_iff {name : String} :
    (listed scope list (.string name :: items)).result = .ok (later, names) ↔
      scope.commands.contains name = true ∧ ∃ others, names = name :: others ∧
        (listed scope list items).result = .ok (later, others) := by
  rw [listed]
  split
  · rename_i hcontains
    rw [Load.result_bind, bind_eq_ok_iff, and_iff_right hcontains]
    constructor
    · rintro ⟨⟨last, others⟩, hrest, ⟨⟩⟩
      exact ⟨others, rfl, hrest⟩
    · rintro ⟨others, rfl, hrest⟩
      exact ⟨_, hrest, rfl⟩
  · rename_i hmissing
    constructor
    · rintro ⟨⟩
    · rintro ⟨hcontains, _⟩
      exact absurd hcontains hmissing

/-- A declaration is listed under the name of the command that it declares, and the items after it
are read in the scope with that command. -/
theorem listed_array_iff {entry : List Json} :
    (listed scope list (.array entry :: items)).result = .ok (later, names) ↔
      ∃ next command, (scope.declare (.array entry)).result = .ok (next, command) ∧
        ∃ others, names = command.name :: others ∧
          (listed next list items).result = .ok (later, others) := by
  rw [listed, Load.result_bind, bind_eq_ok_iff]
  constructor
  · rintro ⟨⟨next, command⟩, hdeclare, h⟩
    rw [Load.result_bind] at h
    obtain ⟨⟨last, others⟩, hrest, ⟨⟩⟩ := bind_eq_ok_iff.1 h
    exact ⟨next, command, hdeclare, others, rfl, hrest⟩
  · rintro ⟨next, command, hdeclare, others, rfl, hrest⟩
    refine ⟨_, hdeclare, ?_⟩
    rw [Load.result_bind, hrest]
    rfl

theorem map_listedName?_cons {item : Json} :
    (item :: items).map listedName? = names.map some ↔
      ∃ name others, listedName? item = some name ∧ names = name :: others ∧
        items.map listedName? = others.map some := by
  constructor
  · intro h
    cases names with
    | nil => cases h
    | cons name others =>
      obtain ⟨hname, hothers⟩ := List.cons.inj h
      exact ⟨name, others, hname, rfl, hothers⟩
  · rintro ⟨name, others, hname, rfl, hothers⟩
    rw [List.map_cons, hname, hothers, List.map_cons]

/-- An access list is read exactly if what it declares in place can be declared, each item has a
name to be listed under, and each name that is listed without its declaration was introduced. -/
theorem listed_eq_ok_iff (hscope : scope.Sound) {known : List Json}
    (hknown : scope.commands.keys.map some = known.map carriedName?) :
    (listed scope list items).result = .ok (later, names) ↔
      (declareAll scope (inPlace items)).result = .ok later ∧
        items.map listedName? = names.map some ∧ Introduced known items := by
  induction items generalizing scope known names with
  | nil =>
    have hnil : (listed scope list []).result = .ok (later, names) ↔
        scope = later ∧ [] = names := by
      rw [listed, Load.result_pure, Except.ok.injEq, Prod.mk.injEq]
    have hnames : ([] : List (Option String)) = names.map some ↔ [] = names := by
      cases names <;> simp
    rw [hnil, List.map_nil, hnames]
    constructor
    · rintro ⟨rfl, hempty⟩
      exact ⟨rfl, hempty, introduced_nil known⟩
    · rintro ⟨⟨⟩, hempty, _⟩
      exact ⟨rfl, hempty⟩
  | cons item items ih =>
    rw [introduced_cons]
    cases item with
    | string name =>
      have hempty : inPlace [Json.string name] = [] := rfl
      rw [listed_string_iff, contains_iff_carried hknown, map_listedName?_cons, hempty,
        List.append_nil]
      constructor
      · rintro ⟨hcarried, others, rfl, hrest⟩
        obtain ⟨hdeclared, hothers, hintroduced⟩ := (ih hscope hknown).1 hrest
        refine ⟨hdeclared, ⟨name, others, rfl, rfl, hothers⟩, ?_, hintroduced⟩
        rintro _ ⟨⟩
        exact hcarried
      · rintro ⟨hdeclared, ⟨_, others, ⟨⟩, rfl, hothers⟩, hcarried, hintroduced⟩
        have hrest := (ih hscope hknown).2 ⟨hdeclared, hothers, hintroduced⟩
        exact ⟨hcarried name rfl, others, rfl, hrest⟩
    | array entry =>
      have hself : inPlace [Json.array entry] = [.array entry] := rfl
      have hdeclares : (declareAll scope (inPlace (Json.array entry :: items))).result = .ok later ↔
          ∃ next command, (scope.declare (.array entry)).result = .ok (next, command) ∧
            (declareAll next (inPlace items)).result = .ok later :=
        declareAll_cons
      have hnext {next : Scope} {command : Command}
          (hdeclare : (scope.declare (.array entry)).result = .ok (next, command)) :
          next.commands.keys.map some = (known ++ [Json.array entry]).map carriedName? := by
        rw [Scope.keys_register (Scope.declare_eq_ok hdeclare).2, List.map_append, hknown,
          List.map_append, List.map_singleton, List.map_singleton,
          carriedName?_of_declare hscope.named hdeclare]
      rw [listed_array_iff, map_listedName?_cons, hself, hdeclares]
      constructor
      · rintro ⟨next, command, hdeclare, others, rfl, hrest⟩
        obtain ⟨hdeclared, hothers, hintroduced⟩ :=
          (ih (hscope.declare hdeclare) (hnext hdeclare)).1 hrest
        have hname : listedName? (.array entry) = some command.name :=
          carriedName?_of_declare hscope.named hdeclare
        exact ⟨⟨next, command, hdeclare, hdeclared⟩, ⟨_, others, hname, rfl, hothers⟩, nofun,
          hintroduced⟩
      · rintro ⟨⟨next, command, hdeclare, hdeclared⟩, ⟨name, others, hname, rfl, hothers⟩, _,
          hintroduced⟩
        have hcarried := carriedName?_of_declare hscope.named hdeclare
        have hsame : some name = some command.name := hname.symm.trans hcarried
        cases hsame
        exact ⟨next, command, hdeclare, others, rfl,
          (ih (hscope.declare hdeclare) (hnext hdeclare)).2 ⟨hdeclared, hothers, hintroduced⟩⟩
    | null | bool | number | object =>
      constructor
      · rintro ⟨⟩
      · rintro ⟨_, hlisted, _⟩
        cases names <;> cases hlisted

end Listed

theorem exists_listed {items : List Json} {names : List String}
    (h : items.map listedName? = names.map some) {name : String} (hname : name ∈ names) :
    ∃ item ∈ items, listedName? item = some name := by
  have hmem : some name ∈ items.map listedName? := by
    rw [h]
    exact List.mem_map_of_mem hname
  exact List.mem_map.1 hmem

/-- What is listed once it is introduced is carried by one of the declarations. -/
theorem Introduced.exists_carried {known items : List Json} (h : Introduced known items)
    {item : Json} (hitem : item ∈ items) {name : String} (hname : listedName? item = some name) :
    ∃ entry ∈ known ++ inPlace items, carriedName? entry = some name := by
  cases item with
  | string text =>
    cases hname
    obtain ⟨before, after, rfl⟩ := List.append_of_mem hitem
    obtain ⟨entry, hentry, hcarried⟩ := h before name after rfl
    refine ⟨entry, ?_, hcarried⟩
    have hsublist : inPlace before ⊆ inPlace (before ++ .string name :: after) :=
      ((List.sublist_append_left _ _).filter _).subset
    rcases List.mem_append.1 hentry with hentry | hentry
    · exact List.mem_append_left _ hentry
    · exact List.mem_append_right _ (hsublist hentry)
  | array entry =>
    have hmem : .array entry ∈ inPlace items := List.mem_filter.2 ⟨hitem, rfl⟩
    exact ⟨.array entry, List.mem_append_right _ hmem, hname⟩
  | null | bool | number | object => cases hname

/-- An access list is an array, and its items are read in order. -/
theorem accessList_eq_ok_iff {list : String} {value : Json} {names : List String} :
    (accessList scope list value).result = .ok (later, names) ↔
      ∃ items, value = .array items ∧ (listed scope list items).result = .ok (later, names) := by
  cases value with
  | array items =>
    constructor
    · intro h
      exact ⟨items, rfl, h⟩
    · rintro ⟨_, ⟨⟩, h⟩
      exact h
  | null | bool | number | string | object =>
    constructor
    · rintro ⟨⟩
    · rintro ⟨_, ⟨⟩, _⟩

end Document

end CommandBot
