import CommandBot.Proofs.Command.Height
import CommandBot.Proofs.Document.Loaded
import CommandBot.Proofs.Scope.Known
import CommandBot.Proofs.Scope.Places

namespace CommandBot

/-- The listeners of the listener commands that a bot has, in its commands and in its hooks. -/
def Bot.specs (bot : Bot) : List Listener :=
  bot.commands.entries.flatMap (·.2.specs) ++ bot.hooks.entries.flatMap (·.2.specs)

/-- The commands that a bot has, those nested in them, and those nested in its hooks. -/
def Bot.written (bot : Bot) : List Command :=
  bot.commands.entries.flatMap (·.2.written) ++ bot.hooks.entries.flatMap (·.2.nested)

/-- The listeners of a bot are those of the listener commands written in it. -/
theorem Bot.specs_eq (bot : Bot) : bot.specs = bot.written.filterMap (·.body.listener?) := by
  unfold specs written
  rw [List.filterMap_append, List.filterMap_flatMap, List.filterMap_flatMap]
  rfl

theorem Json.nodup_keys_of_collapsed {value : Json} {entries : List (String × Json)}
    (h : value.collapsed = .object entries) : (entries.map Prod.fst).Nodup := by
  cases value with
  | object written =>
    cases h
    exact (Table.ofList (collapsedEntries written)).distinct
  | null | bool | number | string | array => cases h

theorem Json.find_collapsed {document value : Json} {entries : List (String × Json)} {key : String}
    (h : document.collapsed = .object entries) (hfind : Table.find key entries = some value) :
    ∃ written : Json, value = written.collapsed := by
  cases document with
  | object written =>
    cases h
    have hget : (Table.ofList (collapsedEntries written)).get? key = some value := hfind
    rw [Table.get?_ofList] at hget
    have hmem := List.mem_reverse.1 (Table.mem_of_find hget)
    rw [collapsedEntries_eq_map] at hmem
    obtain ⟨⟨_, found⟩, _, heq⟩ := List.mem_map.1 hmem
    exact ⟨found, (congrArg Prod.snd heq).symm⟩
  | null | bool | number | string | array => cases h

namespace Document

variable {scope later : Scope}

/-- Declarations number their listeners one after the other, so no two lists of them share a place.
-/
theorem numbered_declareAll {entries : List Json}
    (hscope : Scope.Numbered scope.commands.size scope.specs)
    (h : (declareAll scope entries).result = .ok later) :
    Scope.Numbered later.commands.size later.specs := by
  induction entries generalizing scope with
  | nil =>
    cases h
    exact hscope
  | cons entry entries ih =>
    obtain ⟨next, command, hdeclare, hrest⟩ := declareAll_cons.1 h
    exact ih (hscope.declare hdeclare) hrest

/-- Hooks go on with the numbers where the declarations ended, as long as no key comes twice. -/
theorem numbered_hooksFrom {entries : List (String × Json)} {hooks hooked : Hooks}
    (hbefore : Scope.Numbered (scope.commands.size + hooks.size)
      (scope.specs ++ hooks.entries.flatMap (·.2.specs)))
    (hdistinct : (entries.map Prod.fst).Nodup)
    (hfresh : ∀ key ∈ entries.map Prod.fst, hooks.get? key = none)
    (h : hooksFrom scope hooks entries = .ok hooked) :
    Scope.Numbered (scope.commands.size + hooked.size)
      (scope.specs ++ hooked.entries.flatMap (·.2.specs)) := by
  induction entries generalizing hooks with
  | nil =>
    cases h
    exact hbefore
  | cons entry entries ih =>
    obtain ⟨key, value⟩ := entry
    obtain ⟨hnew, hdistinct⟩ := List.nodup_cons.1 hdistinct
    rw [hooksFrom] at h
    split at h
    · cases h
    · obtain ⟨step, hresolve, h⟩ := bind_eq_ok_iff.1 h
      -- The key is new, so the hook comes last, where its number says.
      have hentries : (hooks.insert key step).entries = hooks.entries ++ [(key, step)] :=
        Table.put_of_find_eq_none step (hfresh key List.mem_cons_self)
      have happend := hbefore.append (scope.reads_specsAt.resolve _ value step hresolve)
      refine ih ?_ hdistinct ?_ h
      · unfold Table.size
        rw [hentries, List.flatMap_append, List.length_append, ← List.append_assoc,
          ← Nat.add_assoc]
        simpa [Table.size] using happend
      · intro other hother
        have hne : key ≠ other := by
          rintro rfl
          exact hnew hother
        rw [Table.get?_insert, if_neg hne]
        exact hfresh other (List.mem_cons_of_mem _ hother)

/-- The hooks of a document go on with the numbers of its declarations. -/
theorem numbered_hooks {value : Option Json} {hooked : Hooks}
    (hscope : Scope.Numbered scope.commands.size scope.specs)
    (hdistinct : ∀ entries, value = some (.object entries) → (entries.map Prod.fst).Nodup)
    (h : hooks scope value = .ok hooked) :
    Scope.Numbered (scope.commands.size + hooked.size)
      (scope.specs ++ hooked.entries.flatMap (·.2.specs)) := by
  have hempty : Scope.Numbered (scope.commands.size + Table.size (α := Step) .empty)
      (scope.specs ++ (Table.empty (α := Step)).entries.flatMap (·.2.specs)) := by
    simpa [Table.empty, Table.size] using hscope
  unfold hooks at h
  split at h
  · cases h
    exact hempty
  · rename_i entries
    exact numbered_hooksFrom hempty (hdistinct entries rfl) (fun _ _ => rfl) h
  · cases h

section Written

variable {entries : List (String × Json)} {classes : ClassNames} {bot : Bot}

/-- Whatever a loaded bot may be asked to run is known to its document. -/
theorem Origin.knows (h : Origin entries classes scope bot) :
    (∀ name command, bot.commands.get? name = some command →
      scope.Knows bot.written command) ∧
    (∀ key step, bot.hooks.get? key = some step → scope.Knows bot.written step.command) ∧
    Command.Hereditary (scope.Knows bot.written) := by
  have hscope := h.scope_sound
  have hknown : scope.written ⊆ bot.written := by
    unfold Bot.written
    rw [h.commands]
    exact List.subset_append_left _ _
  refine ⟨?_, ?_, hscope.knows_hereditary hknown⟩
  · intro name command hget
    rw [h.commands] at hget
    exact hscope.knows hknown hget
  · intro key step hget
    refine hscope.knows_step hknown (hooks_soundIn hscope.named h.hooked key step hget) ?_
    intro inner hinner
    exact List.mem_append_right _ (List.mem_flatMap.2 ⟨_, Table.mem_of_find hget, hinner⟩)

/-- Every listener that a loaded bot can bring about is that of a known command. -/
theorem Origin.knows_listener (h : Origin entries classes scope bot) {spec : Listener}
    (hspec : spec ∈ bot.listeners) :
    ∃ command, scope.Knows bot.written command ∧ command.body = .listener spec := by
  obtain ⟨hcommands, hhooks, hparts⟩ := h.knows
  rcases List.mem_append.1 hspec with hspec | hspec
  · obtain ⟨⟨name, command⟩, hentry, hspec⟩ := List.mem_flatMap.1 hspec
    have hcommand := hcommands name command (Table.mem_entries_iff.1 hentry)
    exact Command.exists_of_mem_listeners hparts command hcommand hspec
  · obtain ⟨⟨key, step⟩, hentry, hspec⟩ := List.mem_flatMap.1 hspec
    have hstep := hhooks key step (Table.mem_entries_iff.1 hentry)
    exact Step.exists_of_mem_listeners hparts step hstep hspec

/-- Whatever a bot can bring about is written in its document. -/
theorem Origin.listeners_subset (h : Origin entries classes scope bot) :
    bot.listeners ⊆ bot.specs := by
  intro spec hspec
  obtain ⟨command, hcommand, hbody⟩ := h.knows_listener hspec
  rw [Bot.specs_eq]
  refine List.mem_filterMap.2 ⟨command, hcommand.written List.mem_cons_self, ?_⟩
  rw [hbody]
  rfl

end Written

/-- A document that was read as a value, so that its objects have each key once, gives every
listener in it a place of its own, and the bot that it loads to has no listeners but these. -/
theorem load_specs {document : Json} {bot : Bot}
    (hload : (load document.collapsed).result = .ok bot) :
    (bot.specs.map Listener.place).Nodup ∧ bot.listeners ⊆ bot.specs := by
  obtain ⟨entries, hdocument, hentries⟩ := load_eq_ok hload
  obtain ⟨classes, scope, horigin⟩ := loadEntries_eq_ok hentries
  have hdistinct (inner : List (String × Json))
      (hfind : Table.find "on_state_change" entries = some (.object inner)) :
      (inner.map Prod.fst).Nodup := by
    obtain ⟨written, hwritten⟩ := Json.find_collapsed hdocument hfind
    exact Json.nodup_keys_of_collapsed hwritten.symm
  have hempty : Scope.Numbered (Scope.ofClasses classes).commands.size
      (Scope.ofClasses classes).specs := ⟨.nil, fun spec hspec => absurd hspec List.not_mem_nil⟩
  have hscope := numbered_declareAll hempty horigin.declared
  have hnumbered := numbered_hooks hscope hdistinct horigin.hooked
  refine ⟨?_, horigin.listeners_subset⟩
  unfold Bot.specs
  rw [horigin.commands]
  exact hnumbered.distinct

end Document

end CommandBot
