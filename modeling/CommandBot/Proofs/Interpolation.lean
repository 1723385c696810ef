import CommandBot.Proofs.Template
import CommandBot.Proofs.Text.Cut
import CommandBot.Settings
import Mathlib.Data.Nat.Find

namespace CommandBot.Interpolation

/-- The name of a variable: ASCII letters, digits and underscores, of which the first is no
digit. -/
def IsName (name : String) : Prop :=
  Template.IsKey name ∧ ∀ c ∈ name.toList.head?, ¬ ('0' ≤ c ∧ c ≤ '9')

theorem isName_iff {name : String} :
    IsName name ↔ (∀ c ∈ name.toList, isNameChar c = true) ∧
      name.toList.head?.all Char.isDigit = false := by
  have hdigit (c : Char) : c.isDigit = false ↔ ¬ ('0' ≤ c ∧ c ≤ '9') := by
    have hrange : c.isDigit = decide ('0' ≤ c ∧ c ≤ '9') := by
      simp [Char.isDigit, Char.le_def]
    simp [hrange]
  rw [IsName, Template.isKey_iff]
  cases name.toList with
  | nil => simp
  | cons c cs =>
    simp only [List.head?_cons, Option.mem_some_iff, forall_eq', Option.all_some, hdigit, ne_eq,
      reduceCtorEq, not_false_eq_true, true_and]
    rfl

/-- The name characters at a place are a name, unless they begin with a digit. -/
theorem isName_takeWhile {cs : List Char}
    (h : (cs.takeWhile isNameChar).head?.all Char.isDigit = false) :
    IsName (String.ofList (cs.takeWhile isNameChar)) := by
  rw [isName_iff, String.toList_ofList]
  exact ⟨fun c => List.mem_takeWhile_imp, h⟩

/-- A name is on one line, so a message can give it a line of its own. -/
theorem feed_notMem_of_isName {name : String} (h : IsName name) : '\n' ∉ name.toList := by
  intro hfeed
  exact absurd ((isName_iff.1 h).1 _ hfeed) (by decide)

/-! ### Placeholders -/

namespace Placeholder

/-- The characters of a placeholder behind its dollar sign. -/
def behind (placeholder : Placeholder) : List Char :=
  '{' :: placeholder.name.toList ++
    (match placeholder.fallback with
      | none => []
      | some fallback => ':' :: '-' :: fallback) ++ ['}']

/-- A placeholder as it stands in a text. -/
def written (placeholder : Placeholder) : String :=
  "$" ++ String.ofList placeholder.behind

theorem toList_written (placeholder : Placeholder) :
    placeholder.written.toList = '$' :: placeholder.behind := by
  simp [written]

/-- A placeholder that can be written: its name is one, and its fallback does not hold the brace
that would end it. -/
structure WellFormed (placeholder : Placeholder) : Prop where
  name : IsName placeholder.name
  fallback : ∀ fallback ∈ placeholder.fallback, '}' ∉ fallback

end Placeholder

/-- A placeholder that can be written is read, whatever follows it. -/
theorem placeholder?_behind {placeholder : Placeholder} (h : placeholder.WellFormed)
    (rest : List Char) :
    placeholder? (placeholder.behind ++ rest) =
      some (placeholder, placeholder.behind.length) := by
  obtain ⟨name, fallback⟩ := placeholder
  obtain ⟨hname, hfallback⟩ := h
  obtain ⟨hchars, hhead⟩ := isName_iff.1 hname
  have htaken {c : Char} (hc : isNameChar c = false) := Text.takeWhile_append_cons hchars hc
  have hdropped {c : Char} (hc : isNameChar c = false) := Text.dropWhile_append_cons hchars hc
  cases fallback with
  | none =>
    have hclose : isNameChar '}' = false := by decide
    simp [placeholder?, Placeholder.behind, htaken hclose, hdropped hclose, hhead]
  | some fallback =>
    have hcolon : isNameChar ':' = false := by decide
    have hopen : ∀ c ∈ fallback, (c != '}') = true := by
      intro c hc
      simpa using ne_of_mem_of_not_mem hc (hfallback _ rfl)
    have hended := Text.takeWhile_append_cons hopen (bne_self_eq_false '}') rest
    simp [placeholder?, Placeholder.behind, htaken hcolon, hdropped hcolon, hhead, hended]
    omega

/-- What is read behind a dollar sign is a placeholder that can be written, and it is written
there. -/
theorem behind_of_placeholder? {cs : List Char} {placeholder : Placeholder} {length : Nat}
    (h : placeholder? cs = some (placeholder, length)) :
    placeholder.WellFormed ∧ placeholder.behind <+: cs := by
  unfold placeholder? at h
  split at h
  · rename_i cs
    dsimp only at h
    split at h
    · cases h
    · rename_i hhead
      have hsplit := List.takeWhile_append_dropWhile (p := isNameChar) (l := cs)
      have hname := isName_takeWhile (by simpa using hhead)
      split at h
      · -- The brace follows the name.
        rename_i rest hrest
        cases h
        refine ⟨⟨hname, by simp⟩, rest, ?_⟩
        conv_rhs => rw [← hsplit, hrest]
        simp [Placeholder.behind]
      · -- A fallback follows it, and counts only if a brace follows that.
        rename_i more hmore
        split at h
        · rename_i hends
          cases h
          obtain ⟨c, rest, hc, hfallback⟩ := Text.exists_of_length_takeWhile_lt hends
          obtain rfl : c = '}' := by simpa using hc
          refine ⟨⟨hname, ?_⟩, rest, ?_⟩
          · rintro _ ⟨⟩ hbrace
            exact absurd (List.mem_takeWhile_imp hbrace) (by decide)
          · conv_rhs => rw [← hsplit, hmore, hfallback]
            simp [Placeholder.behind]
        · cases h
      · cases h
  · cases h

/-! ### Pieces -/

/-- The scan goes on behind what is passed over. -/
theorem piecesFrom_length_append (passed cs : List Char) :
    piecesFrom passed.length (passed ++ cs) = piecesFrom 0 cs := by
  induction passed with
  | nil => rfl
  | cons c passed ih => exact ih

/-- A placeholder is found where it is written, whatever follows it. -/
theorem piecesFrom_written {placeholder : Placeholder} (h : placeholder.WellFormed)
    (rest : List Char) :
    piecesFrom 0 (placeholder.written.toList ++ rest) =
      .variable placeholder :: piecesFrom 0 rest := by
  rw [Placeholder.toList_written, List.cons_append, piecesFrom]
  simp [placeholder?_behind h, piecesFrom_length_append]

/-- Where no placeholder begins, every character stands for itself. -/
theorem piecesFrom_literal {before rest : List Char}
    (h : ∀ earlier cs, earlier.length < before.length → before ++ rest = earlier ++ '$' :: cs →
      placeholder? cs = none) :
    piecesFrom 0 (before ++ rest) = before.map .char ++ piecesFrom 0 rest := by
  induction before with
  | nil => rfl
  | cons c before ih =>
    have hlater := ih fun earlier cs hshorter hsplit =>
      h (c :: earlier) cs (Nat.succ_lt_succ hshorter) (congrArg (c :: ·) hsplit)
    have hnone : (if c == '$' then placeholder? (before ++ rest) else none) = none := by
      split
      · rename_i hdollar
        obtain rfl : c = '$' := by simpa using hdollar
        exact h [] _ (Nat.succ_pos _) rfl
      · rfl
    rw [List.cons_append, piecesFrom, hnone, hlater]
    rfl

/-! ### Readings -/

/-- A placeholder stands in a text, between what is before it and what is after it. -/
structure Stands (text before : String) (placeholder : Placeholder) (after : String) : Prop where
  wellFormed : placeholder.WellFormed
  split : text = before ++ placeholder.written ++ after

/-- A part of a text as it is read: text that stands for itself, or a placeholder. -/
inductive Segment where
  | literal (text : String)
  | hole (placeholder : Placeholder)

/-- How a text is read: up to the leftmost placeholder it stands for itself, and what is behind that
placeholder is read in the same way. -/
inductive Reads : String → List Segment → Prop
  | last {text : String} : (∀ before placeholder after, ¬ Stands text before placeholder after) →
      Reads text [.literal text]
  | next {text before after : String} {placeholder : Placeholder} {segments : List Segment} :
      Stands text before placeholder after →
      (∀ earlier other more, Stands text earlier other more → before.length ≤ earlier.length) →
      Reads after segments → Reads text (.literal before :: .hole placeholder :: segments)

namespace Stands

variable {text before after : String} {placeholder : Placeholder}

theorem toList_eq (h : Stands text before placeholder after) :
    text.toList = before.toList ++ (placeholder.written.toList ++ after.toList) := by
  simp [h.split]

theorem length_lt (h : Stands text before placeholder after) : after.length < text.length := by
  have hlength := congrArg List.length h.toList_eq
  simp only [Placeholder.toList_written, List.length_append, List.length_cons,
    String.length_toList] at hlength
  omega

/-- At a place of a text stands one placeholder only, and it ends at one place. -/
theorem unique (h : Stands text before placeholder after) {other more : String}
    {found : Placeholder} (hfound : Stands text other found more)
    (hlength : before.length = other.length) :
    before = other ∧ placeholder = found ∧ after = more := by
  have hsplit := h.toList_eq.symm.trans hfound.toList_eq
  obtain ⟨hbefore, hrest⟩ := List.append_inj hsplit (by simpa only [String.length_toList])
  simp only [Placeholder.toList_written, List.cons_append, List.cons.injEq, true_and] at hrest
  have hread := placeholder?_behind h.wellFormed after.toList
  rw [hrest, placeholder?_behind hfound.wellFormed] at hread
  cases hread
  exact ⟨String.toList_inj.1 hbefore, rfl, String.toList_inj.1 (List.append_cancel_left hrest)⟩

/-- Of the placeholders in a text one is leftmost. -/
theorem exists_leftmost (h : Stands text before placeholder after) :
    ∃ before placeholder after, Stands text before placeholder after ∧
      ∀ earlier other more, Stands text earlier other more → before.length ≤ earlier.length := by
  classical
  have hexists : ∃ length before placeholder after,
      Stands text before placeholder after ∧ before.length = length :=
    ⟨_, before, placeholder, after, h, rfl⟩
  obtain ⟨before, placeholder, after, hstands, hlength⟩ := Nat.find_spec hexists
  refine ⟨before, placeholder, after, hstands, ?_⟩
  intro earlier other more hother
  rw [hlength]
  exact Nat.find_min' hexists ⟨earlier, other, more, hother, rfl⟩

end Stands

/-- What the scan finds behind a dollar sign stands in the text. -/
theorem exists_stands {text : String} {before cs : List Char} {found : Placeholder × Nat}
    (hsplit : text.toList = before ++ '$' :: cs) (hread : placeholder? cs = some found) :
    ∃ after, Stands text (String.ofList before) found.1 after := by
  obtain ⟨hplaceholder, after, rfl⟩ := behind_of_placeholder? hread
  refine ⟨String.ofList after, hplaceholder, ?_⟩
  rw [← String.toList_inj, hsplit]
  simp [Placeholder.toList_written]

/-- A text can be read, by induction on its length: what is behind a placeholder is shorter. -/
theorem exists_reads (text : String) : ∃ segments, Reads text segments := by
  induction hlength : text.length using Nat.strongRecOn generalizing text with
  | _ length ih =>
    by_cases hsome : ∃ before placeholder after, Stands text before placeholder after
    · obtain ⟨_, _, _, hsome⟩ := hsome
      obtain ⟨before, placeholder, after, hstands, hleftmost⟩ := hsome.exists_leftmost
      obtain ⟨segments, hrest⟩ := ih after.length (hlength ▸ hstands.length_lt) after rfl
      exact ⟨_, .next hstands hleftmost hrest⟩
    · refine ⟨_, .last ?_⟩
      intro before placeholder after hstands
      exact hsome ⟨before, placeholder, after, hstands⟩

/-- The pieces of a segment. -/
def Segment.pieces : Segment → List Piece
  | .literal text => text.toList.map .char
  | .hole placeholder => [.variable placeholder]

namespace Reads

variable {text : String} {segments : List Segment}

/-- A text is read in one way only, because its leftmost placeholder is one and ends at one place.
-/
theorem unique (h : Reads text segments) {others : List Segment} (hothers : Reads text others) :
    segments = others := by
  induction h generalizing others with
  | last hnone =>
    cases hothers with
    | last => rfl
    | next hstands => exact absurd hstands (hnone _ _ _)
  | next hstands hleftmost _ ih =>
    cases hothers with
    | last hnone => exact absurd hstands (hnone _ _ _)
    | next hother hfirst hrest =>
      have hlength := Nat.le_antisymm (hleftmost _ _ _ hother) (hfirst _ _ _ hstands)
      obtain ⟨rfl, rfl, rfl⟩ := hstands.unique hother hlength
      rw [ih hrest]

theorem wellFormed (h : Reads text segments) {placeholder : Placeholder}
    (hmem : .hole placeholder ∈ segments) : placeholder.WellFormed := by
  induction h with
  | last => simp at hmem
  | next hstands _ _ ih =>
    simp only [List.mem_cons, reduceCtorEq, false_or, Segment.hole.injEq] at hmem
    rcases hmem with rfl | hmem
    · exact hstands.wellFormed
    · exact ih hmem

/-- The scan finds the segments of the reading, the literal ones character by character. -/
theorem pieces_eq (h : Reads text segments) : pieces text = segments.flatMap Segment.pieces := by
  induction h with
  | @last text hnone =>
    have hliteral := @piecesFrom_literal text.toList [] fun earlier cs _ hsplit => by
      cases hread : placeholder? cs with
      | none => rfl
      | some found =>
        rw [List.append_nil] at hsplit
        obtain ⟨after, hstands⟩ := exists_stands hsplit hread
        exact absurd hstands (hnone _ _ _)
    simpa [pieces, Segment.pieces, piecesFrom] using hliteral
  | @next text before after placeholder segments hstands hleftmost _ ih =>
    have hliteral := @piecesFrom_literal before.toList (placeholder.written.toList ++ after.toList)
      fun earlier cs hshorter hsplit => by
        cases hread : placeholder? cs with
        | none => rfl
        | some found =>
          rw [← hstands.toList_eq] at hsplit
          obtain ⟨more, hother⟩ := exists_stands hsplit hread
          have hfirst := hleftmost _ _ _ hother
          simp only [String.length_toList, String.length_ofList] at hshorter hfirst
          omega
    rw [pieces, hstands.toList_eq, hliteral, piecesFrom_written hstands.wellFormed]
    exact congrArg _ (congrArg _ ih)

end Reads

/-! ### Putting values in -/

namespace Segment

/-- There is something to put in: the variable is set, or the placeholder has a fallback. -/
def isAnswered (env : Table String) : Segment → Bool
  | literal _ => true
  | hole placeholder => env.contains placeholder.name || placeholder.fallback.isSome

/-- What is put in: the value of the variable, or else the fallback. -/
def filled (env : Table String) : Segment → String
  | literal text => text
  | hole placeholder =>
    (env.get? placeholder.name).getD (String.ofList (placeholder.fallback.getD []))

/-- The variable of a placeholder. -/
def name? : Segment → Option String
  | literal _ => none
  | hole placeholder => some placeholder.name

variable {env : Table String}

/-- A segment misses its variable if there is nothing to put in for it. -/
theorem missing_pieces (segment : Segment) :
    segment.pieces.filterMap (·.missing? env) =
      if segment.isAnswered env then [] else segment.name?.toList := by
  cases segment with
  | literal text => simp [pieces, isAnswered, Piece.missing?]
  | hole placeholder =>
    cases hget : env.get? placeholder.name with
    | some value =>
      simp [pieces, isAnswered, Piece.missing?, Piece.value?, Table.contains, hget]
    | none =>
      cases hfallback : placeholder.fallback with
      | none =>
        simp [pieces, isAnswered, name?, Piece.missing?, Piece.value?, Table.contains, hget,
          hfallback]
      | some fallback =>
        simp [pieces, isAnswered, Piece.missing?, Piece.value?, hfallback]

theorem values_pieces (segment : Segment) :
    (segment.pieces.flatMap fun piece => (piece.value? env).getD []) =
      (segment.filled env).toList := by
  cases segment with
  | literal text => simp [pieces, filled, Piece.value?, List.flatMap_map]
  | hole placeholder =>
    cases hget : env.get? placeholder.name with
    | some value => simp [pieces, filled, Piece.value?, hget]
    | none => simp [pieces, filled, Piece.value?, hget]

end Segment

/-- The variables of the placeholders that have nothing to put in, in order. -/
def missing (env : Table String) (segments : List Segment) : List String :=
  (segments.filter (!·.isAnswered env)).filterMap Segment.name?

section Missing

variable {env : Table String} {segments : List Segment}

theorem missing_flatMap_pieces :
    (segments.flatMap Segment.pieces).filterMap (·.missing? env) = missing env segments := by
  induction segments with
  | nil => rfl
  | cons segment segments ih =>
    rw [List.flatMap_cons, List.filterMap_append, ih, Segment.missing_pieces]
    cases hanswered : segment.isAnswered env with
    | true => simp [missing, hanswered]
    | false => cases hname : segment.name? <;> simp [missing, hanswered, hname]

theorem values_flatMap_pieces :
    String.ofList ((segments.flatMap Segment.pieces).flatMap fun piece =>
      (piece.value? env).getD []) = String.join (segments.map (·.filled env)) := by
  rw [← String.toList_inj, String.toList_ofList, String.toList_join, List.flatMap_assoc]
  simp only [Segment.values_pieces, List.flatMap_map]

/-- Nothing is missing exactly if there is something to put in everywhere. -/
theorem missing_eq_nil_iff :
    missing env segments = [] ↔ ∀ segment ∈ segments, segment.isAnswered env = true := by
  constructor
  · intro hnone segment hsegment
    cases hanswered : segment.isAnswered env with
    | true => rfl
    | false =>
      have hleft : segment ∈ segments.filter (!·.isAnswered env) := by simp [hsegment, hanswered]
      have hname := List.filterMap_eq_nil_iff.1 hnone segment hleft
      cases segment with
      | literal text => cases hanswered
      | hole placeholder => cases hname
  · intro hall
    have hfiltered : segments.filter (!·.isAnswered env) = [] := by simpa using hall
    rw [missing, hfiltered, List.filterMap_nil]

theorem Reads.isName_of_mem_missing {text : String} (h : Reads text segments) {name : String}
    (hname : name ∈ missing env segments) : IsName name := by
  obtain ⟨segment, hsegment, hname⟩ := List.mem_filterMap.1 hname
  cases segment with
  | literal text => cases hname
  | hole placeholder =>
    cases hname
    exact (h.wellFormed (List.mem_filter.1 hsegment).1).name

/-- Interpolation in terms of the reading: the segments filled in, or the variables that are
missing. -/
theorem Reads.interpolate_eq {text : String} (h : Reads text segments) :
    interpolate env text =
      if (missing env segments).isEmpty then .ok (String.join (segments.map (·.filled env)))
      else .error (missing env segments) := by
  simp only [interpolate, h.pieces_eq, missing_flatMap_pieces, values_flatMap_pieces]

end Missing

/-! ### The message -/

/-- A message about missing variables has a line for each of them. -/
theorem lines_missingVariables {names : List String} (h : ∀ name ∈ names, IsName name) :
    (Text.splitOn '\n' (Settings.Error.missingVariables names).message.toList).map String.ofList =
      "Missing environment variables:" ::
        names.map fun name => "  - Environment variable '" ++ name ++ "' is not set" := by
  have hlead : "\n  - Environment variable '" = "\n" ++ "  - Environment variable '" := by decide
  have hline (name : String) : s!"\n  - Environment variable '{name}' is not set" =
      "\n" ++ ("  - Environment variable '" ++ name ++ "' is not set") := by
    change "\n  - Environment variable '" ++ name ++ "' is not set" = _
    simp only [hlead, String.append_assoc]
  have hmessage : (Settings.Error.missingVariables names).message =
      "Missing environment variables:" ++ String.join
        ((names.map fun name => "  - Environment variable '" ++ name ++ "' is not set").map
          ("\n" ++ ·)) := by
    simp only [List.map_map, Function.comp_def, ← hline]
    rfl
  rw [hmessage]
  refine Text.splitOn_append_join_feed (by decide) ?_
  intro line hmem
  obtain ⟨name, hname, rfl⟩ := List.mem_map.1 hmem
  simpa using feed_notMem_of_isName (h name hname)

/-! ### The whole text -/

/-- Interpolation goes by the one reading that a text has. If each placeholder in it has something
to put in, the result is the text with each replaced by the value of its variable, or by its
fallback where the variable is not set. Otherwise it fails, no settings are read, and the message
has a line for each placeholder that has nothing to put in, in order and with repetitions. -/
theorem interpolate_by_reading (env : Table String) (text : String) :
    ∃ segments, Reads text segments ∧ (∀ others, Reads text others → others = segments) ∧
      ((∀ segment ∈ segments, segment.isAnswered env = true) →
        interpolate env text = .ok (String.join (segments.map (·.filled env)))) ∧
      ((∃ segment ∈ segments, segment.isAnswered env = false) →
        interpolate env text = .error (missing env segments) ∧
          (Text.splitOn '\n'
              (Settings.Error.missingVariables (missing env segments)).message.toList).map
            String.ofList =
            "Missing environment variables:" :: (missing env segments).map
              (fun name => "  - Environment variable '" ++ name ++ "' is not set") ∧
          ∀ (files : Files) (path : String), files.readText path = .ok text →
            Settings.ofFile files env path =
              .error (.missingVariables (missing env segments))) := by
  obtain ⟨segments, hreads⟩ := exists_reads text
  refine ⟨segments, hreads, fun others hothers => hothers.unique hreads, ?_, ?_⟩
  · intro hall
    have hnone := missing_eq_nil_iff.2 hall
    rw [hreads.interpolate_eq, if_pos (by simpa using hnone)]
  · rintro ⟨segment, hsegment, hunanswered⟩
    have hsome : missing env segments ≠ [] := by
      intro hnone
      have hanswered := missing_eq_nil_iff.1 hnone segment hsegment
      rw [hunanswered] at hanswered
      cases hanswered
    have hfails : interpolate env text = .error (missing env segments) := by
      rw [hreads.interpolate_eq, if_neg (by simpa using hsome)]
    refine ⟨hfails, lines_missingVariables fun name => hreads.isName_of_mem_missing, ?_⟩
    intro files path hfile
    simp [Settings.ofFile, hfile, hfails, Except.mapError, bind, Except.bind]

-- A value that looks like a placeholder, a fallback over two lines with an opening brace in it, and
-- a placeholder that is not ended.
example :
    let opened := String.ofList ['$', '{', 'A']
    let a := Placeholder.written ⟨"A", none⟩
    let b := Placeholder.written ⟨"B", none⟩
    let lines := Placeholder.written ⟨"B", some ('\n' :: opened.toList)⟩
    interpolate (.ofList [("A", b)]) ("$" ++ a ++ lines ++ opened) =
        .ok ("$" ++ b ++ "\n" ++ opened ++ opened) ∧
      interpolate .empty (b ++ a ++ b) = .error ["B", "A", "B"] := by
  decide

end CommandBot.Interpolation
