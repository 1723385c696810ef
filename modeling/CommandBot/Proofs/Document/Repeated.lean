import CommandBot.Proofs.Document.Loaded

namespace CommandBot

theorem Json.isCollection_collapsed {value : Json} :
    value.collapsed.IsCollection ↔ value.IsCollection := by
  cases value <;> simp [collapsed, IsCollection]

namespace Document

/-- A document repeats a name: one of the keyed sections is given twice, or an object that is given
for it holds a key twice. -/
def Repeats (entries : List (String × Json)) : Prop :=
  ∃ name ∈ keyedSections, 1 < (entries.map Prod.fst).count name ∨
    ∃ inner, (name, .object inner) ∈ entries ∧ ¬ (inner.map Prod.fst).Nodup

instance (entries : List (String × Json)) : Decidable (Repeats entries) :=
  decidable_of_iff (∃ name ∈ keyedSections, 1 < (entries.map Prod.fst).count name ∨
      ∃ entry ∈ entries, entry.1 = name ∧
        ∃ inner ∈ entry.2.entries?, ¬ (inner.map Prod.fst).Nodup) <| by
    unfold Repeats
    refine exists_congr fun name => and_congr_right fun _ => or_congr_right ?_
    constructor
    · rintro ⟨⟨_, value⟩, hmem, rfl, inner, hinner, hrepeated⟩
      cases value with
      | object found =>
        cases hinner
        exact ⟨inner, hmem, hrepeated⟩
      | null | bool | number | string | array => cases hinner
    · rintro ⟨inner, hmem, hrepeated⟩
      exact ⟨_, hmem, rfl, inner, rfl, hrepeated⟩

/-! ### The search for repeated keys -/

/-- The search for a repeated key finds none exactly if the keys differ from each other and from
those seen before. -/
theorem firstRepeated?_eq_none_iff {seen : List String} {entries : List (String × Json)} :
    firstRepeated? seen entries = none ↔
      (∀ key ∈ seen, key ∉ entries.map Prod.fst) ∧ (entries.map Prod.fst).Nodup := by
  induction entries generalizing seen with
  | nil => simp [firstRepeated?]
  | cons entry entries ih =>
    obtain ⟨key, value⟩ := entry
    by_cases hseen : key ∈ seen
    · simp only [firstRepeated?, List.contains_iff_mem, hseen, if_true, List.map_cons]
      constructor
      · rintro ⟨⟩
      · rintro ⟨hfresh, _⟩
        exact absurd List.mem_cons_self (hfresh key hseen)
    · simp only [firstRepeated?, List.contains_iff_mem, hseen, if_false, ih, List.map_cons,
        List.nodup_cons, List.mem_cons, forall_eq_or_imp, not_or]
      constructor
      · rintro ⟨⟨hkey, hfresh⟩, hnodup⟩
        exact ⟨fun other hother => ⟨fun heq => hseen (heq ▸ hother), hfresh other hother⟩,
          hkey, hnodup⟩
      · rintro ⟨hfresh, hkey, hnodup⟩
        exact ⟨⟨hkey, fun other hother => (hfresh other hother).2⟩, hnodup⟩

theorem sectionFault?_object_eq_none_iff {entries : List (String × Json)} :
    sectionFault? (.object entries) = none ↔ (entries.map Prod.fst).Nodup := by
  rw [sectionFault?, Option.map_eq_none_iff, firstRepeated?_eq_none_iff]
  simp

theorem sectionFault?_eq_none {value : Json} (hvalue : value.IsCollection)
    (hdistinct : ∀ entries, value = .object entries → (entries.map Prod.fst).Nodup) :
    sectionFault? value = none := by
  cases value with
  | array items => rfl
  | object entries => exact sectionFault?_object_eq_none_iff.2 (hdistinct entries rfl)
  | null | bool | number | string => cases hvalue

/-- A keyed section must be the first of its name, and have no fault. -/
theorem firstFault?_cons {seen : List String} {key : String} {value : Json}
    {entries : List (String × Json)} (hkeyed : key ∈ keyedSections) :
    firstFault? seen ((key, value) :: entries) = none ↔
      key ∉ seen ∧ sectionFault? value = none ∧ firstFault? (key :: seen) entries = none := by
  rw [firstFault?, if_pos (List.contains_iff_mem.2 hkeyed)]
  by_cases hseen : key ∈ seen
  · simp [hseen]
  · simp [hseen]

theorem firstFault?_cons_of_notMem {seen : List String} {key : String} {value : Json}
    {entries : List (String × Json)} (hkeyed : key ∉ keyedSections) :
    firstFault? seen ((key, value) :: entries) = firstFault? seen entries := by
  rw [firstFault?, if_neg (by simpa using hkeyed)]

/-- The search finds nothing if each keyed section is given once at most, none of them among those
seen before, and has no fault. -/
theorem firstFault?_eq_none_iff {seen : List String} {entries : List (String × Json)} :
    firstFault? seen entries = none ↔
      ∀ name ∈ keyedSections, (name ∈ seen → name ∉ entries.map Prod.fst) ∧
        (entries.map Prod.fst).count name ≤ 1 ∧
        ∀ value, (name, value) ∈ entries → sectionFault? value = none := by
  induction entries generalizing seen with
  | nil => simp [firstFault?]
  | cons entry entries ih =>
    obtain ⟨key, value⟩ := entry
    by_cases hkeyed : key ∈ keyedSections
    · rw [firstFault?_cons hkeyed, ih]
      constructor
      · rintro ⟨hseen, hfault, hlater⟩ name hname
        obtain ⟨hfresh, honce, hsections⟩ := hlater name hname
        refine ⟨?_, ?_, ?_⟩
        · intro hbefore hmem
          rcases List.mem_cons.1 hmem with rfl | hmem
          · exact hseen hbefore
          · exact hfresh (List.mem_cons_of_mem _ hbefore) hmem
        · rw [List.map_cons, List.count_cons]
          by_cases hkey : key = name
          · have hnone := List.count_eq_zero.2 (hfresh (hkey ▸ List.mem_cons_self))
            simp [hkey, hnone]
          · simpa [hkey] using honce
        · intro found hfound
          rcases List.mem_cons.1 hfound with heq | hfound
          · cases heq
            exact hfault
          · exact hsections found hfound
      · intro h
        obtain ⟨hseen, honce, hsections⟩ := h key hkeyed
        refine ⟨fun hbefore => hseen hbefore List.mem_cons_self, hsections value List.mem_cons_self,
          ?_⟩
        intro name hname
        obtain ⟨hfresh, hlater, hothers⟩ := h name hname
        refine ⟨?_, ?_, fun found hfound => hothers found (List.mem_cons_of_mem _ hfound)⟩
        · intro hbefore hmem
          rcases List.mem_cons.1 hbefore with rfl | hbefore
          · have hpos := List.count_pos_iff.2 hmem
            rw [List.map_cons, List.count_cons_self] at honce
            omega
          · exact hfresh hbefore (List.mem_cons_of_mem _ hmem)
        · exact Nat.le_trans (List.count_le_count_cons ..) hlater
    · rw [firstFault?_cons_of_notMem hkeyed, ih]
      have hne (name : String) (hname : name ∈ keyedSections) : key ≠ name := by
        rintro rfl
        exact hkeyed hname
      refine forall_congr' fun name => forall_congr' fun hname => ?_
      simp [hne name hname, (hne name hname).symm]

/-- Without repetitions, loading sees each keyed section as it is given. -/
theorem get?_section {entries : List (String × Json)} {name : String} {value : Json}
    (hmem : (name, value) ∈ entries) (honce : (entries.map Prod.fst).count name ≤ 1) :
    (Table.ofList (Json.collapsedEntries entries)).get? name = some value.collapsed := by
  have hkeys : (Json.collapsedEntries entries).map Prod.fst = entries.map Prod.fst := by
    rw [Json.collapsedEntries_eq_map, List.map_map]
    rfl
  rw [Table.get?_ofList]
  apply Table.find_of_mem
  · rw [List.mem_reverse, Json.collapsedEntries_eq_map]
    exact List.mem_map_of_mem hmem
  · rw [List.map_reverse, List.count_reverse, hkeys]
    exact honce

/-- Whatever loads has a list or an object for each keyed section that it gives. -/
theorem isCollection_section {entries : List (String × Json)} {bot : Bot}
    (h : (loadEntries entries).result = .ok bot) {name : String} (hname : name ∈ keyedSections)
    {value : Json} (hfind : Table.find name entries = some value) : value.IsCollection := by
  obtain ⟨classes, scope, horigin⟩ := loadEntries_eq_ok h
  have hnames : name = "commands" ∨ name = "on_state_change" := by
    simpa [keyedSections] using hname
  rcases hnames with rfl | rfl
  · obtain ⟨found, hfound, hcollection⟩ := horigin.form
    rw [hfind] at hfound
    cases hfound
    exact hcollection
  · have hhooked := horigin.hooked
    rw [hfind] at hhooked
    cases value with
    | object inner => trivial
    | null | bool | number | string | array => cases hhooked

theorem not_repeats {entries : List (String × Json)} (h : firstFault? [] entries = none) :
    ¬ Repeats entries := by
  rintro ⟨name, hname, hrepeated⟩
  obtain ⟨_, honce, hsections⟩ := firstFault?_eq_none_iff.1 h name hname
  rcases hrepeated with htwice | ⟨inner, hinner, hrepeated⟩
  · omega
  · exact hrepeated (sectionFault?_object_eq_none_iff.1 (hsections _ hinner))

/-- Beside repetitions, the search objects to sections of a wrong type only, and these do not load.
Null, which it lets pass, does not load either. -/
theorem firstFault?_eq_none_of_load {entries : List (String × Json)} {bot : Bot}
    (hload : (load (Json.object entries).collapsed).result = .ok bot)
    (hrepeats : ¬ Repeats entries) : firstFault? [] entries = none := by
  obtain ⟨loaded, hloaded, hentries⟩ := load_eq_ok hload
  rw [Json.collapsed] at hloaded
  cases hloaded
  apply firstFault?_eq_none_iff.2
  intro name hname
  have honce : (entries.map Prod.fst).count name ≤ 1 := by
    apply Nat.le_of_not_lt
    intro htwice
    exact hrepeats ⟨name, hname, .inl htwice⟩
  refine ⟨by rintro ⟨⟩, honce, ?_⟩
  intro value hmem
  have hcollection := isCollection_section hentries hname (get?_section hmem honce)
  apply sectionFault?_eq_none (Json.isCollection_collapsed.1 hcollection)
  rintro inner rfl
  apply Decidable.byContradiction
  intro hrepeated
  exact hrepeats ⟨name, hname, .inr ⟨inner, hmem, hrepeated⟩⟩

/-- The check passes exactly if the search finds nothing. -/
theorem checkRepeated_eq_ok_iff {entries : List (String × Json)} :
    (checkRepeated (.object entries)).result = .ok () ↔ firstFault? [] entries = none := by
  cases hfault : firstFault? [] entries with
  | none => simp [checkRepeated, hfault]
  | some fault => simp [checkRepeated, hfault, Load.fail]

/-- A text that is JSON is loaded just as its value is, but for repeated keys. If it is not an
object, both fail alike. If it is one, then it loads to the bots that its value loads to, as long as
neither keyed section is given twice or, as an object, holds a key twice. -/
theorem loadText_agrees {text : String} {written : Json}
    (hread : Json.ofText? text = some written) :
    ((∀ entries, written ≠ .object entries) → loadText text = load written.collapsed ∧
        (load written.collapsed).result = .error (.malformed .documentNotObject)) ∧
      ∀ entries, written = .object entries → ∀ bot,
        (loadText text).result = .ok bot ↔
          (load written.collapsed).result = .ok bot ∧ ¬ Repeats entries := by
  unfold loadText
  rw [hread]
  dsimp only
  constructor
  · intro hother
    cases written with
    | object entries => exact absurd rfl (hother entries)
    | null | bool | number | string | array => exact ⟨rfl, rfl⟩
  · rintro entries rfl bot
    rw [Load.result_bind, bind_eq_ok_iff]
    constructor
    · rintro ⟨_, hchecked, hload⟩
      exact ⟨hload, not_repeats (checkRepeated_eq_ok_iff.1 hchecked)⟩
    · rintro ⟨hload, hrepeats⟩
      have hfault := firstFault?_eq_none_of_load hload hrepeats
      exact ⟨(), checkRepeated_eq_ok_iff.2 hfault, hload⟩

/-- A document that declares a command twice, under two spellings of its name. -/
def redeclared : String :=
  "\x7b\"classes\": \x7b\x7d, \"approved_users\": [], \"restricted\": [], \"public\": [], " ++
    "\"commands\": \x7b\"hi\": [\"InfoCommand\", \"hi\", \"hello\"], " ++
    "\"\\u0068i\": [\"InfoCommand\", \"hi\", \"bye\"]\x7d\x7d"

/-- The value of the text shows the second declaration only and loads; the text does not. -/
theorem redeclared_refused :
    ∃ entries, Json.ofText? redeclared = some (.object entries) ∧ Repeats entries ∧
      (∃ bot, (load (Json.object entries).collapsed).result = .ok bot) ∧
      ∀ bot, (loadText redeclared).result ≠ .ok bot := by
  have hchecked : ((Json.ofText? redeclared).bind Json.entries?).any (fun entries =>
      Repeats entries ∧ (load (Json.object entries).collapsed).result.isOk) = true := by
    decide +kernel
  obtain ⟨entries, hentries, hboth⟩ := (Option.any_eq_true _ _).1 hchecked
  obtain ⟨hrepeats, hloads⟩ := of_decide_eq_true hboth
  obtain ⟨written, hread, hobject⟩ := Option.bind_eq_some_iff.1 hentries
  cases written with
  | object inner =>
    cases hobject
    refine ⟨entries, hread, hrepeats, ?_, ?_⟩
    · cases hload : (load (Json.object entries).collapsed).result with
      | error error =>
        rw [hload] at hloads
        cases hloads
      | ok bot => exact ⟨bot, rfl⟩
    · intro bot hloaded
      obtain ⟨_, hagrees⟩ := loadText_agrees hread
      exact ((hagrees entries rfl bot).1 hloaded).2 hrepeats
  | null | bool | number | string | array => cases hobject

end Document

end CommandBot
