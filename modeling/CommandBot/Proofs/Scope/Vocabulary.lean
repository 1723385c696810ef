import CommandBot.Scope.Basic
import CommandBot.Scope.ListenerFields

namespace CommandBot

/-- The words that mean something where an entry stands: the class names, and the names of the
commands declared before it. They decide whether the first word of an array is a class name, a
reference or a selector. -/
structure Vocabulary where
  classes : ClassNames
  names : List String

/-- The arguments of a command of a class, given what they are when they are steps, branches or what
a listener runs. All other arguments are texts. -/
def ClassTag.arguments (tag : ClassTag) (texts steps branches listened : List Json) : List Json :=
  match tag with
  | .sequence => steps
  | .option => branches
  | .listener => listened
  | _ => texts

namespace Vocabulary

/-- The word is a class name or the name of a command. -/
def means (vocabulary : Vocabulary) (word : String) : Bool :=
  (vocabulary.classes.lookup? word).isSome || vocabulary.names.contains word

mutual

/-- An entry with canonical class names. -/
def canonicalEntry (vocabulary : Vocabulary) : Json → Json
  | .array items => .array (vocabulary.canonicalItems items)
  | entry => entry

/-- The items of an entry: a class name and its arguments, or a reference, which stays. -/
def canonicalItems (vocabulary : Vocabulary) : List Json → List Json
  | .string head :: args =>
    match vocabulary.classes.lookup? head with
    | some tag =>
      .string tag.name :: tag.arguments args (vocabulary.canonicalSteps args)
        (vocabulary.canonicalBranches args) (vocabulary.canonicalListened args)
    | none => .string head :: args
  | items => items

def canonicalSteps (vocabulary : Vocabulary) : List Json → List Json
  | [] => []
  | entry :: entries => vocabulary.canonicalEntry entry :: vocabulary.canonicalSteps entries

def canonicalBranches (vocabulary : Vocabulary) : List Json → List Json
  | [] => []
  | entry :: entries => vocabulary.canonicalBranch entry :: vocabulary.canonicalBranches entries

/-- A branch of an option. A first word that means nothing is a selector and stays; behind it stands
an entry, or the items of one if there are several. -/
def canonicalBranch (vocabulary : Vocabulary) : Json → Json
  | .array items =>
    let whole := vocabulary.canonicalItems items
    match items with
    | .string head :: rest =>
      if vocabulary.means head then .array whole
      else
        match rest with
        | [entry] => .array [.string head, vocabulary.canonicalEntry entry]
        | rest => .array (.string head :: vocabulary.canonicalItems rest)
    | items => .array items
  | entry => entry

/-- The argument of a listener, whose command is a field or the fourth item. -/
def canonicalListened (vocabulary : Vocabulary) : List Json → List Json
  | [.object fields] => [.object (vocabulary.canonicalFields fields)]
  | [.array (trigger :: user :: temporary :: command :: more)] =>
    [.array (trigger :: user :: temporary :: vocabulary.canonicalEntry command :: more)]
  | args => args

def canonicalFields (vocabulary : Vocabulary) : List (String × Json) → List (String × Json)
  | [] => []
  | (field, value) :: fields =>
    (field, if field = "command" then vocabulary.canonicalEntry value else value) ::
      vocabulary.canonicalFields fields

end

variable (vocabulary : Vocabulary)

/-- What stands behind a selector. -/
def canonicalKeyed : List Json → List Json
  | [entry] => [vocabulary.canonicalEntry entry]
  | rest => vocabulary.canonicalItems rest

/-- The arguments of a command of a class. -/
def canonicalArguments (tag : ClassTag) (args : List Json) : List Json :=
  tag.arguments args (vocabulary.canonicalSteps args) (vocabulary.canonicalBranches args)
    (vocabulary.canonicalListened args)

/-- What stands behind the class name of a declaration: its name, which stays, and arguments. -/
def canonicalDeclared (tag : ClassTag) : List Json → List Json
  | [] => []
  | name :: args => name :: vocabulary.canonicalArguments tag args

/-- A declaration with canonical class names. -/
def canonicalDeclaration : Json → Json
  | .array (.string head :: rest) =>
    match vocabulary.classes.lookup? head with
    | some tag => .array (.string tag.name :: vocabulary.canonicalDeclared tag rest)
    | none => .array (.string head :: rest)
  | entry => entry

variable {vocabulary}

/-- A class name is replaced, and its arguments are respelled as the class reads them. -/
theorem canonicalItems_of_class {head : String} {tag : ClassTag} (args : List Json)
    (hclass : vocabulary.classes.lookup? head = some tag) :
    vocabulary.canonicalItems (.string head :: args) =
      .string tag.name :: vocabulary.canonicalArguments tag args := by
  rw [canonicalItems, hclass]
  rfl

/-- Any other first word is a reference, and its arguments are texts: nothing is respelled. -/
theorem canonicalItems_of_not_class {head : String} (args : List Json)
    (hclass : vocabulary.classes.lookup? head = none) :
    vocabulary.canonicalItems (.string head :: args) = .string head :: args := by
  rw [canonicalItems, hclass]

/-- A branch whose first word means something is respelled as an entry. -/
theorem canonicalBranch_of_means {head : String} (rest : List Json)
    (hmeans : vocabulary.means head = true) :
    vocabulary.canonicalBranch (.array (.string head :: rest)) =
      .array (vocabulary.canonicalItems (.string head :: rest)) := by
  unfold canonicalBranch
  dsimp only
  rw [if_pos hmeans]

/-- A selector stays, and what stands behind it is respelled. -/
theorem canonicalBranch_of_not_means {head : String} (rest : List Json)
    (hmeans : vocabulary.means head = false) :
    vocabulary.canonicalBranch (.array (.string head :: rest)) =
      .array (.string head :: vocabulary.canonicalKeyed rest) := by
  unfold canonicalBranch
  dsimp only
  rw [if_neg (Bool.not_eq_true _ ▸ hmeans)]
  match rest with
  | [] => rfl
  | [_] => rfl
  | _ :: _ :: _ => rfl

/-! ### Lengths -/

theorem length_canonicalSteps (entries : List Json) :
    (vocabulary.canonicalSteps entries).length = entries.length := by
  induction entries with
  | nil => rfl
  | cons entry entries ih => rw [canonicalSteps, List.length_cons, ih, List.length_cons]

theorem length_canonicalBranches (entries : List Json) :
    (vocabulary.canonicalBranches entries).length = entries.length := by
  induction entries with
  | nil => rfl
  | cons entry entries ih => rw [canonicalBranches, List.length_cons, ih, List.length_cons]

theorem length_canonicalListened (args : List Json) :
    (vocabulary.canonicalListened args).length = args.length := by
  unfold canonicalListened
  split <;> rfl

/-- No item is added or left out, so an array has as many items as before. -/
theorem length_canonicalItems (items : List Json) :
    (vocabulary.canonicalItems items).length = items.length := by
  unfold canonicalItems
  split
  · rename_i head args
    split
    · rename_i tag _
      rw [List.length_cons, List.length_cons]
      cases tag with
      | sequence => exact congrArg (· + 1) (length_canonicalSteps args)
      | option => exact congrArg (· + 1) (length_canonicalBranches args)
      | listener => exact congrArg (· + 1) (length_canonicalListened args)
      | echo | shorthand | state | file | info | format => rfl
    · rfl
  · rfl

/-! ### Listeners -/

/-- A respelled listener has the same trigger and user, and lasts as long. -/
theorem addAll_canonicalFields (fields : List (String × Json)) (draft : ListenerFields.Draft) :
    draft.addAll (vocabulary.canonicalFields fields) = draft.addAll fields := by
  induction fields generalizing draft with
  | nil => rfl
  | cons entry fields ih =>
    obtain ⟨field, value⟩ := entry
    have hadd : draft.add field
        (if field = "command" then vocabulary.canonicalEntry value else value) =
          draft.add field value := by
      by_cases hfield : field = "command"
      · subst hfield
        rfl
      · rw [if_neg hfield]
    simp only [canonicalFields, ListenerFields.Draft.addAll, hadd, ih]

theorem map_ofJson_canonicalListened (args : List Json) :
    (vocabulary.canonicalListened args).map ListenerFields.ofJson =
      args.map ListenerFields.ofJson := by
  unfold canonicalListened
  split
  · rename_i fields
    simp only [List.map_singleton, ListenerFields.ofJson, addAll_canonicalFields]
  · rename_i more
    cases more <;> rfl
  · rfl

end Vocabulary

end CommandBot
