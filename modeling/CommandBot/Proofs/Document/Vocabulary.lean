import CommandBot.Proofs.Document.Declarations
import CommandBot.Proofs.Scope.Vocabulary

namespace CommandBot

open Document

namespace Vocabulary

variable (vocabulary : Vocabulary)

/-- What words mean behind these entries: the names that they carry are declared. -/
def after (entries : List Json) : Vocabulary :=
  { vocabulary with names := vocabulary.names ++ entries.filterMap carriedName? }

/-- Declarations with canonical class names, each of them read after those before it, since what a
word means depends on the names that these carry. What is no declaration among them stays. -/
def canonicalDeclarations (vocabulary : Vocabulary) : List Json → List Json
  | [] => []
  | entry :: entries =>
    vocabulary.canonicalDeclaration entry ::
      (vocabulary.after [entry]).canonicalDeclarations entries

/-- The declarations of an object with canonical class names, under their keys. -/
def canonicalNamed (vocabulary : Vocabulary) : List (String × Json) → List (String × Json)
  | [] => []
  | (key, entry) :: entries =>
    (key, vocabulary.canonicalDeclaration entry) ::
      (vocabulary.after [entry]).canonicalNamed entries

/-- The commands of a document with canonical class names. -/
def canonicalCommands : Json → Json
  | .array entries => .array (vocabulary.canonicalDeclarations entries)
  | .object entries => .object (vocabulary.canonicalNamed entries)
  | found => found

/-- An access list with canonical class names. -/
def canonicalAccess : Json → Json
  | .array items => .array (vocabulary.canonicalDeclarations items)
  | found => found

/-- Hooks with canonical class names. -/
def canonicalHooks : Json → Json
  | .object entries =>
    .object (entries.map fun (key, entry) => (key, vocabulary.canonicalEntry entry))
  | found => found

variable {vocabulary : Vocabulary}

/-! ### Names -/

theorem after_nil : vocabulary.after [] = vocabulary := by
  unfold after
  rw [List.filterMap_nil, List.append_nil]

/-- Words mean behind two lists what they mean behind the second one, read behind the first. -/
theorem after_append (entries more : List Json) :
    vocabulary.after (entries ++ more) = (vocabulary.after entries).after more := by
  unfold after
  rw [List.filterMap_append, List.append_assoc]

theorem carriedName?_canonicalDeclaration (entry : Json) :
    carriedName? (vocabulary.canonicalDeclaration entry) = carriedName? entry := by
  unfold canonicalDeclaration
  split
  · rename_i head rest
    split
    · cases rest with
      | nil => rfl
      | cons name args => cases name <;> rfl
    · rfl
  · rfl

theorem exists_canonicalDeclaration_array (items : List Json) :
    ∃ again, vocabulary.canonicalDeclaration (.array items) = .array again := by
  unfold canonicalDeclaration
  split
  · split
    · exact ⟨_, rfl⟩
    · exact ⟨_, rfl⟩
  · exact ⟨items, rfl⟩

theorem listedName?_canonicalDeclaration (item : Json) :
    listedName? (vocabulary.canonicalDeclaration item) = listedName? item := by
  cases item with
  | array items =>
    have hcarried := vocabulary.carriedName?_canonicalDeclaration (.array items)
    obtain ⟨again, hagain⟩ := vocabulary.exists_canonicalDeclaration_array items
    rw [hagain] at hcarried ⊢
    exact hcarried
  | null | bool | number | string | object => rfl

/-! ### Lists of declarations -/

/-- A list may be respelled in two parts, the second in the words of the first. -/
theorem canonicalDeclarations_append (entries more : List Json) :
    vocabulary.canonicalDeclarations (entries ++ more) =
      vocabulary.canonicalDeclarations entries ++
        (vocabulary.after entries).canonicalDeclarations more := by
  induction entries generalizing vocabulary with
  | nil => rw [after_nil]; rfl
  | cons entry entries ih =>
    have hafter : vocabulary.after (entry :: entries) =
        (vocabulary.after [entry]).after entries :=
      after_append [entry] entries
    rw [List.cons_append, canonicalDeclarations, canonicalDeclarations, ih, hafter,
      List.cons_append]

theorem map_listedName?_canonicalDeclarations (items : List Json) :
    (vocabulary.canonicalDeclarations items).map listedName? = items.map listedName? := by
  induction items generalizing vocabulary with
  | nil => rfl
  | cons item items ih =>
    rw [canonicalDeclarations, List.map_cons, List.map_cons, ih,
      listedName?_canonicalDeclaration]

theorem map_carriedName?_canonicalDeclarations (entries : List Json) :
    (vocabulary.canonicalDeclarations entries).map carriedName? = entries.map carriedName? := by
  induction entries generalizing vocabulary with
  | nil => rfl
  | cons entry entries ih =>
    rw [canonicalDeclarations, List.map_cons, List.map_cons, ih,
      carriedName?_canonicalDeclaration]

/-- Names among the items of an access list declare nothing, so they may be left out before or
after. -/
theorem inPlace_canonicalDeclarations (items : List Json) :
    inPlace (vocabulary.canonicalDeclarations items) =
      vocabulary.canonicalDeclarations (inPlace items) := by
  induction items generalizing vocabulary with
  | nil => rfl
  | cons item items ih =>
    cases item with
    | array entry =>
      have hkept (entry items : List Json) :
          inPlace (.array entry :: items) = .array entry :: inPlace items := rfl
      obtain ⟨again, hagain⟩ := vocabulary.exists_canonicalDeclaration_array entry
      rw [canonicalDeclarations, hagain, hkept, hkept, canonicalDeclarations, hagain, ih]
    | null | bool | number | string | object =>
      rw [canonicalDeclarations]
      exact ih.trans (congrArg (canonicalDeclarations · (inPlace items)) after_nil)

/-- A name is introduced exactly if it was, because names and their order stay. -/
theorem introduced_canonicalDeclarations {known again items : List Json}
    (hknown : again.map carriedName? = known.map carriedName?) :
    Introduced again (vocabulary.canonicalDeclarations items) ↔ Introduced known items := by
  induction items generalizing vocabulary known again with
  | nil => exact iff_of_true (introduced_nil again) (introduced_nil known)
  | cons item items ih =>
    have hcarried (name : String) : (∃ entry ∈ again, carriedName? entry = some name) ↔
        ∃ entry ∈ known, carriedName? entry = some name := by
      rw [← List.mem_map, ← List.mem_map, hknown]
    have hitem (name : String) :
        vocabulary.canonicalDeclaration item = .string name ↔ item = .string name := by
      cases item with
      | array entry =>
        obtain ⟨again, hagain⟩ := vocabulary.exists_canonicalDeclaration_array entry
        rw [hagain]
        exact iff_of_false nofun nofun
      | null | bool | number | string | object => rfl
    have hnext : (again ++ inPlace [vocabulary.canonicalDeclaration item]).map carriedName? =
        (known ++ inPlace [item]).map carriedName? := by
      have hinPlace := vocabulary.inPlace_canonicalDeclarations [item]
      rw [canonicalDeclarations, canonicalDeclarations] at hinPlace
      rw [List.map_append, List.map_append, hknown, hinPlace,
        map_carriedName?_canonicalDeclarations]
    rw [canonicalDeclarations, introduced_cons, introduced_cons, ih hnext]
    simp only [hitem, hcarried]

/-! ### Sections -/

theorem map_snd_canonicalNamed (entries : List (String × Json)) :
    (vocabulary.canonicalNamed entries).map Prod.snd =
      vocabulary.canonicalDeclarations (entries.map Prod.snd) := by
  induction entries generalizing vocabulary with
  | nil => rfl
  | cons entry entries ih =>
    rw [canonicalNamed, List.map_cons, List.map_cons, ih, canonicalDeclarations]

/-- Both forms of the section are respelled alike. -/
theorem commandEntries_canonicalCommands (commands : Json) :
    commandEntries (vocabulary.canonicalCommands commands) =
      vocabulary.canonicalDeclarations (commandEntries commands) := by
  cases commands with
  | array entries => rfl
  | object entries => exact map_snd_canonicalNamed entries
  | null | bool | number | string => rfl

theorem isCollection_canonicalCommands (commands : Json) :
    (vocabulary.canonicalCommands commands).IsCollection ↔ commands.IsCollection := by
  cases commands <;> rfl

theorem keyed_canonicalNamed (entries : List (String × Json)) :
    Keyed (vocabulary.canonicalNamed entries) ↔ Keyed entries := by
  induction entries generalizing vocabulary with
  | nil => rfl
  | cons entry entries ih =>
    unfold Keyed at ih ⊢
    rw [canonicalNamed, List.forall_mem_cons, List.forall_mem_cons, ih,
      carriedName?_canonicalDeclaration]

theorem hasKeys_canonicalCommands (commands : Json) :
    HasKeys (vocabulary.canonicalCommands commands) ↔ HasKeys commands := by
  cases commands with
  | object entries =>
    rw [canonicalCommands, hasKeys_object_iff, hasKeys_object_iff, keyed_canonicalNamed]
  | array | null | bool | number | string => exact iff_of_true nofun nofun

end Vocabulary

end CommandBot
