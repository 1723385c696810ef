import CommandBot.Proofs.Command.Canonical
import CommandBot.Proofs.Scope.Growth
import CommandBot.Proofs.Scope.Vocabulary
import CommandBot.Proofs.Table

namespace CommandBot

namespace Scope

/-- What words mean in a scope. -/
def vocabulary (scope : Scope) : Vocabulary := ⟨scope.classes, scope.commands.keys⟩

/-- The scope without aliases, and with canonical class names in its commands. In it an entry with
canonical class names comes to what the entry came to before, and it fails where the entry fails. -/
def canonical (scope : Scope) : Scope := ⟨Table.empty, scope.commands.map Command.canonical⟩

variable (scope : Scope)

/-! ### Words -/

/-- A canonical class name means its class in every scope, since aliases never stand for one. -/
theorem class?_canonical_name (tag : ClassTag) : scope.canonical.class? tag.name = some tag :=
  tag.ofName?_name

variable {scope}

/-- A word that means no class means none without aliases. -/
theorem class?_canonical_of_none {word : String} (h : scope.class? word = none) :
    scope.canonical.class? word = none := by
  have hneither : scope.classes.get? word = none ∧ ClassTag.ofName? word = none := by
    simpa [class?, ClassNames.lookup?] using h
  exact hneither.2

/-- What a word means is asked of the class names and of the commands, in the vocabulary as in the
scope. -/
theorem means_vocabulary (word : String) :
    scope.vocabulary.means word =
      ((scope.class? word).isSome || scope.commands.contains word) := by
  have hnames : scope.commands.keys.contains word = scope.commands.contains word := by
    rw [Bool.eq_iff_iff, List.contains_iff_mem, Table.contains_iff]
  unfold Vocabulary.means vocabulary
  rw [hnames]
  rfl

/-- The names of commands stay, so the same words are free for selectors. -/
theorem contains_canonical (word : String) :
    scope.canonical.commands.contains word = scope.commands.contains word :=
  Table.contains_map _ _ _

/-- A reference leads to the respelled command where it led to the command before, and nowhere else.
-/
theorem reference_canonical (word : String) :
    Mirrors Command.canonical (scope.reference word) (scope.canonical.reference word) := by
  unfold reference canonical
  rw [Table.get?_map]
  cases scope.commands.get? word with
  | none => rfl
  | some command => rfl

/-! ### Bodies -/

/-- A body is of the class that it is read as. -/
theorem classTag_of_body {place : Place} {tag : ClassTag} {name : String} {args : List Json}
    {body : Body} (h : scope.body place tag name args (scope.parts place args) = .ok body) :
    body.classTag = tag := by
  have hreads : scope.Reads fun _ _ => True :=
    ⟨fun _ _ _ _ => trivial, fun _ _ _ _ _ _ => trivial, fun _ _ _ _ _ => trivial⟩
  exact (body_readIn (hreads.resolveSteps place 0 args) (hreads.resolveBranches place 0 args)
    (hreads.resolveListened place args) h).1

/-- An alias refers to the respelled target; its fixed arguments are no class names. -/
theorem shorthandBody_canonical (args : List Json) :
    Mirrors Body.canonical (scope.shorthandBody args) (scope.canonical.shorthandBody args) := by
  unfold shorthandBody
  split
  · exact .error _ _ _
  · rename_i target rest
    have htexts : Mirrors id (argumentTexts target rest) (argumentTexts target rest) :=
      .self fun _ _ => rfl
    refine htexts.bind fun texts _ => (scope.reference_canonical target).bind fun known _ => ?_
    exact .ok Body.canonical (.shorthand known (texts.flatMap Text.words))
  · exact .error _ _ _

/-- A listener is read from the fields beside its command and from how the command resolves. -/
theorem listenerBody_canonical {place : Place} {name : String} {args again : List Json}
    {listened relistened : Unit → Except Error Step}
    (hfields : again.map ListenerFields.ofJson = args.map ListenerFields.ofJson)
    (hlistened : Mirrors Step.canonical (listened ()) (relistened ())) :
    Mirrors Body.canonical (listenerBody place name args listened)
      (listenerBody place name again relistened) := by
  match args, again, hfields with
  | [], [], _ | _ :: _ :: _, _ :: _ :: _, _ => exact .error _ _ _
  | [_], _ :: _ :: _, hfields | _ :: _ :: _, [_], hfields => simp at hfields
  | [value], [other], hfields =>
    have hsame : ListenerFields.ofJson other = ListenerFields.ofJson value := by
      simpa using hfields
    simp only [listenerBody, hsame]
    cases ListenerFields.ofJson value with
    | error fault => exact .error _ _ _
    | ok fields =>
      dsimp only
      split
      · exact .error _ _ _
      · refine hlistened.bind fun step _ => ?_
        exact .ok Body.canonical
          (.listener ⟨place, fields.trigger, fields.user, fields.temporary, step⟩)

/-- The arguments are rewritten as the class reads them, so it is enough that the reading which the
class asks for is mirrored. -/
theorem body_canonical {place : Place} (tag : ClassTag) (name : String) {args : List Json}
    (hsteps : Mirrors Step.canonicalAll (scope.resolveSteps place 0 args)
      (scope.canonical.resolveSteps place 0 (scope.vocabulary.canonicalSteps args)))
    (hbranches : Mirrors Branch.canonicalAll (scope.resolveBranches place 0 args)
      (scope.canonical.resolveBranches place 0 (scope.vocabulary.canonicalBranches args)))
    (hlistened : Mirrors Step.canonical (scope.resolveListened place args)
      (scope.canonical.resolveListened place (scope.vocabulary.canonicalListened args))) :
    let again := scope.vocabulary.canonicalArguments tag args
    Mirrors Body.canonical (scope.body place tag name args (scope.parts place args))
      (scope.canonical.body place tag name again (scope.canonical.parts place again)) := by
  cases tag with
  | shorthand => exact scope.shorthandBody_canonical args
  | listener =>
    exact listenerBody_canonical (Vocabulary.map_ofJson_canonicalListened args) hlistened
  | sequence => exact hsteps.map fun _ _ => rfl
  | option => exact hbranches.map fun _ _ => rfl
  | state =>
    refine Mirrors.self fun body hbody => ?_
    have htag : body.classTag = .state := scope.classTag_of_body hbody
    cases body with
    | state => rfl
    | _ => cases htag
  | echo | file | info | format =>
    refine Mirrors.self fun body hbody => ?_
    obtain ⟨text, _, rfl⟩ := map_eq_ok_iff.1 hbody
    rfl

/-! ### Entries -/

/-- What is put in the place of a word that means something means something, too. -/
theorem exists_canonicalItems {head : String} (hmeans : scope.vocabulary.means head = true)
    (rest : List Json) :
    ∃ word others,
      scope.vocabulary.canonicalItems (.string head :: rest) = .string word :: others ∧
        scope.canonical.vocabulary.means word = true := by
  rw [means_vocabulary] at hmeans
  cases hclass : scope.class? head with
  | some tag =>
    have hword := scope.class?_canonical_name tag
    refine ⟨tag.name, _, Vocabulary.canonicalItems_of_class rest hclass, ?_⟩
    rw [means_vocabulary, hword]
    rfl
  | none =>
    rw [hclass] at hmeans
    refine ⟨head, rest, Vocabulary.canonicalItems_of_not_class rest hclass, ?_⟩
    rw [means_vocabulary, contains_canonical, class?_canonical_of_none hclass]
    exact hmeans

/-- A word that means nothing goes on meaning nothing, so a selector stays a selector. -/
theorem means_canonical_of_not {head : String} (hmeans : scope.vocabulary.means head = false) :
    scope.canonical.vocabulary.means head = false := by
  rw [means_vocabulary, Bool.or_eq_false_iff] at hmeans ⊢
  have hclass : scope.class? head = none := by simpa using hmeans.1
  rw [class?_canonical_of_none hclass, contains_canonical]
  exact ⟨rfl, hmeans.2⟩

/-- Behind a selector two items or more are read as the items of an entry. A single item is an entry
by itself, so the number of items must not change. -/
theorem resolveKeyed_of_length {place : Place} {head : String} {items : List Json}
    (h : 2 ≤ items.length) :
    scope.resolveKeyed place head items = scope.resolveItems place items := by
  match items, h with
  | _ :: _ :: _, _ => rfl

mutual

/-- By induction over the entry: what it comes to with canonical class names in it, in the scope
without aliases. -/
theorem resolve_canonical (place : Place) : ∀ entry : Json,
    Mirrors Step.canonical (scope.resolve place entry)
      (scope.canonical.resolve place (scope.vocabulary.canonicalEntry entry))
  | .string name => by
    simp only [Vocabulary.canonicalEntry, resolve]
    refine (scope.reference_canonical name).bind fun known _ => ?_
    exact .ok Step.canonical (.reference known [])
  | .array items => by
    rw [Vocabulary.canonicalEntry, resolve, resolve]
    exact resolveItems_canonical place items
  | .null | .bool _ | .number _ | .object _ => .error _ _ _

/-- The items of an entry: an array that starts with a class name, or a reference with arguments. -/
theorem resolveItems_canonical (place : Place) : ∀ items : List Json,
    Mirrors Step.canonical (scope.resolveItems place items)
      (scope.canonical.resolveItems place (scope.vocabulary.canonicalItems items))
  | .string head :: args => by
    have hsteps := resolveSteps_canonical place 0 args
    have hbranches := resolveBranches_canonical place 0 args
    have hlistened := resolveListened_canonical place args
    cases hclass : scope.class? head with
    | none =>
      have hfree : scope.vocabulary.classes.lookup? head = none := hclass
      rw [Vocabulary.canonicalItems_of_not_class args hfree, resolveItems, resolveItems, hclass,
        class?_canonical_of_none hclass]
      have htexts : Mirrors id (argumentTexts head args) (argumentTexts head args) :=
        .self fun _ _ => rfl
      refine (scope.reference_canonical head).bind fun known _ => htexts.bind fun texts _ => ?_
      exact .ok Step.canonical (.reference known texts)
    | some tag =>
      have hmeans : scope.vocabulary.classes.lookup? head = some tag := hclass
      rw [Vocabulary.canonicalItems_of_class args hmeans, resolveItems_of_class hclass,
        resolveItems_of_class (scope.class?_canonical_name tag)]
      refine (body_canonical tag "" hsteps hbranches hlistened).map fun body hbody => ?_
      rw [Step.canonical, Command.canonical, classTag_of_body hbody]
  | [] | .null :: _ | .bool _ :: _ | .number _ :: _ | .array _ :: _ | .object _ :: _ =>
    .error _ _ _

theorem resolveSteps_canonical (place : Place) (position : Nat) : ∀ entries : List Json,
    Mirrors Step.canonicalAll (scope.resolveSteps place position entries)
      (scope.canonical.resolveSteps place position (scope.vocabulary.canonicalSteps entries))
  | [] => .ok Step.canonicalAll []
  | entry :: entries => by
    have hentry := resolve_canonical (position :: place) entry
    have hentries := resolveSteps_canonical place (position + 1) entries
    rw [Vocabulary.canonicalSteps, resolveSteps, resolveSteps]
    refine hentry.bind fun step _ => hentries.bind fun steps _ => ?_
    exact .ok Step.canonicalAll (step :: steps)

theorem resolveBranches_canonical (place : Place) (position : Nat) : ∀ entries : List Json,
    Mirrors Branch.canonicalAll (scope.resolveBranches place position entries)
      (scope.canonical.resolveBranches place position (scope.vocabulary.canonicalBranches entries))
  | [] => .ok Branch.canonicalAll []
  | entry :: entries => by
    have hentry := resolveBranch_canonical (position :: place) entry
    have hentries := resolveBranches_canonical place (position + 1) entries
    rw [Vocabulary.canonicalBranches, resolveBranches, resolveBranches]
    refine hentry.bind fun ⟨selector, step⟩ _ => hentries.bind fun branches _ => ?_
    exact .ok Branch.canonicalAll (⟨selector, step⟩ :: branches)

/-- The first word of an array means something exactly if what is put in its place does, so an array
with a selector stays one. -/
theorem resolveBranch_canonical (place : Place) : ∀ entry : Json,
    Mirrors Branch.canonical (scope.resolveBranch place entry)
      (scope.canonical.resolveBranch place (scope.vocabulary.canonicalBranch entry))
  | .string name => by
    simp only [Vocabulary.canonicalBranch, resolveBranch]
    refine (scope.reference_canonical name).bind fun known _ => ?_
    exact .ok Branch.canonical ⟨none, .reference known []⟩
  | .array (.string head :: rest) => by
    have hwhole := resolveItems_canonical place (.string head :: rest)
    have hkeyed : Mirrors Step.canonical (scope.resolveKeyed place head rest)
        (scope.canonical.resolveKeyed place head (scope.vocabulary.canonicalKeyed rest)) := by
      match rest with
      | [] => exact .error _ _ _
      | [entry] => exact resolve_canonical place entry
      | first :: second :: others =>
        have hlength : 2 ≤ (first :: second :: others).length := Nat.le_add_left 2 _
        have hitems := resolveItems_canonical place (first :: second :: others)
        rw [← resolveKeyed_of_length hlength] at hitems
        rw [← Vocabulary.length_canonicalItems] at hlength
        rw [← resolveKeyed_of_length hlength] at hitems
        exact hitems
    cases hmeans : scope.vocabulary.means head with
    | true =>
      obtain ⟨word, others, hitems, hword⟩ := exists_canonicalItems hmeans rest
      rw [Vocabulary.canonicalBranch_of_means rest hmeans]
      rw [hitems] at hwhole ⊢
      rw [means_vocabulary] at hmeans hword
      rw [resolveBranch_of_meant hmeans, resolveBranch_of_meant hword]
      exact hwhole.map fun _ _ => rfl
    | false =>
      have hfree := means_canonical_of_not hmeans
      rw [Vocabulary.canonicalBranch_of_not_means rest hmeans]
      rw [means_vocabulary] at hmeans hfree
      rw [resolveBranch_of_not_meant (Bool.not_eq_true _ ▸ hmeans),
        resolveBranch_of_not_meant (Bool.not_eq_true _ ▸ hfree)]
      exact hkeyed.map fun _ _ => rfl
  | .array [] | .array (.null :: _) | .array (.bool _ :: _) | .array (.number _ :: _)
  | .array (.array _ :: _) | .array (.object _ :: _) => .error _ _ _
  | .null | .bool _ | .number _ | .object _ => .error _ _ _

theorem resolveListened_canonical (place : Place) : ∀ args : List Json,
    Mirrors Step.canonical (scope.resolveListened place args)
      (scope.canonical.resolveListened place (scope.vocabulary.canonicalListened args))
  | [.object fields] => by
    rw [Vocabulary.canonicalListened, resolveListened, resolveListened]
    exact resolveField_canonical place fields
  | [.array (_ :: _ :: _ :: command :: _)] => by
    rw [Vocabulary.canonicalListened, resolveListened, resolveListened]
    exact resolve_canonical (0 :: place) command
  | _ :: _ :: _ => by
    rw [Vocabulary.canonicalListened, resolveListened, resolveListened]
    · exact .error _ _ _
    all_goals nofun
  | [] | [.null] | [.bool _] | [.number _] | [.string _] | [.array []] | [.array [_]]
  | [.array [_, _]] | [.array [_, _, _]] => .error _ _ _

theorem resolveField_canonical (place : Place) : ∀ fields : List (String × Json),
    Mirrors Step.canonical (scope.resolveField place fields)
      (scope.canonical.resolveField place (scope.vocabulary.canonicalFields fields))
  | [] => .error _ _ _
  | (field, value) :: fields => by
    rw [Vocabulary.canonicalFields, resolveField, resolveField]
    by_cases hfield : field = "command"
    · rw [if_pos hfield, if_pos hfield, if_pos hfield]
      exact resolve_canonical (0 :: place) value
    · rw [if_neg hfield, if_neg hfield]
      exact resolveField_canonical place fields

end

/-! ### Declarations -/

/-- A command of a class is put together from a body of that class, whichever name the class went
by. -/
theorem construct_canonical (place : Place) (tag : ClassTag) (head name : String)
    (args : List Json) :
    Mirrors Command.canonical (scope.construct place tag head name args)
      (scope.canonical.construct place tag tag.name name
        (scope.vocabulary.canonicalArguments tag args)) := by
  have hbody := scope.body_canonical tag name (scope.resolveSteps_canonical place 0 args)
    (scope.resolveBranches_canonical place 0 args) (scope.resolveListened_canonical place args)
  refine hbody.bind fun body hbody => ?_
  rw [← classTag_of_body hbody]
  exact .ok Command.canonical ⟨name, head, body⟩

/-- The command that a declaration writes stands at the same place, because as many commands are
declared before it. -/
theorem declared_canonical (entry : Json) :
    Mirrors Command.canonical (scope.declared entry)
      (scope.canonical.declared (scope.vocabulary.canonicalDeclaration entry)) := by
  have hsize : scope.canonical.commands.size = scope.commands.size := Table.size_map _ _
  match entry with
  | .array (.string head :: rest) =>
    have hclasses : scope.vocabulary.classes.lookup? head = scope.class? head := rfl
    rw [Vocabulary.canonicalDeclaration, hclasses]
    cases hclass : scope.class? head with
    | none =>
      simp only [declared, hclass, class?_canonical_of_none hclass]
      exact .error _ _ _
    | some tag =>
      simp only [declared, hclass, scope.class?_canonical_name]
      match rest with
      | .string name :: args =>
        simp only [Vocabulary.canonicalDeclared, hsize]
        split
        · exact .error _ _ _
        · exact scope.construct_canonical _ tag head name args
      | [] | .null :: _ | .bool _ :: _ | .number _ :: _ | .array _ :: _ | .object _ :: _ =>
        exact .error _ _ _
  | .array [] | .array (.null :: _) | .array (.bool _ :: _) | .array (.number _ :: _)
  | .array (.array _ :: _) | .array (.object _ :: _) => exact .error _ _ _
  | .null | .bool _ | .number _ | .object _ | .string _ => exact .error _ _ _

theorem register_canonical (command : Command) :
    Mirrors Scope.canonical (scope.register command).result
      (scope.canonical.register command.canonical).result := by
  have hanonymous : command.canonical.isAnonymous = command.isAnonymous := by
    unfold Command.isAnonymous
    rw [command.canonical_name]
  unfold register
  rw [hanonymous, command.canonical_name, contains_canonical]
  split
  · exact .error _ _ _
  · split
    · exact .error _ _ _
    · have hadded : canonical { scope with
          commands := scope.commands.insert command.name command } =
            { scope.canonical with
              commands := scope.canonical.commands.insert command.name command.canonical } := by
        unfold canonical
        rw [Table.map_insert]
      rw [← hadded]
      exact .ok _ _

/-- A respelled declaration adds the respelled command to the scope without aliases, and is refused
where the declaration is. -/
theorem declare_canonical (entry : Json) :
    Mirrors (Prod.map Scope.canonical Command.canonical) (scope.declare entry).result
      (scope.canonical.declare (scope.vocabulary.canonicalDeclaration entry)).result := by
  unfold declare
  simp only [Load.result_bind, Load.result_ofExcept, Load.result_pure]
  refine (declared_canonical entry).bind fun command _ => ?_
  refine (register_canonical command).bind fun later _ => ?_
  exact .ok (Prod.map Scope.canonical Command.canonical) (later, command)

end Scope

end CommandBot
