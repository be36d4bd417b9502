import BootChain.Proofs.Toml.Value

namespace BootChain.Toml

variable {c : Char} {chars rest : List Char} {key name : String}

/-- A key that stands without quotes. -/
structure IsBare (key : String) : Prop where
  nonempty : key.toList ≠ []
  isKeyChar : ∀ c ∈ key.toList, isKeyChar c = true

instance : DecidablePred IsBare := fun key =>
  decidable_of_iff (key.toList ≠ [] ∧ key.toList.all isKeyChar = true)
    ⟨fun ⟨hnonempty, hchars⟩ => ⟨hnonempty, List.all_eq_true.1 hchars⟩,
      fun hbare => ⟨hbare.nonempty, List.all_eq_true.2 hbare.isKeyChar⟩⟩

section Keys

theorem notMem_of_isKeyChar (hc : isKeyChar c = true) (hchars : chars.any isKeyChar = false) :
    c ∉ chars :=
  fun hmem => List.any_eq_false.1 hchars c hmem hc

theorem isBlank_of_isKeyChar (hc : isKeyChar c = true) : isBlank c = false := by
  have hmem : c ∉ [' ', '\t'] := notMem_of_isKeyChar hc (by decide)
  simpa [isBlank] using hmem

theorem skipBlanks_cons (hc : isBlank c = false) : skipBlanks (c :: chars) = c :: chars :=
  List.dropWhile_cons_of_neg (by simp [hc])

theorem IsBare.exists_eq_cons (hbare : IsBare key) :
    ∃ c others, key.toList = c :: others ∧ Toml.isKeyChar c = true := by
  have hchars := hbare.isKeyChar
  cases heq : key.toList with
  | nil => exact absurd heq hbare.nonempty
  | cons c others => exact ⟨c, others, rfl, hchars c (by simp [heq])⟩

theorem IsBare.append_ne (hbare : IsBare key) (hc : Toml.isKeyChar c = false) (chars : List Char) :
    key.toList ++ rest ≠ c :: chars := by
  obtain ⟨first, others, hfirst, hkey⟩ := hbare.exists_eq_cons
  intro heq
  rw [hfirst, List.cons_append] at heq
  rw [List.head_eq_of_cons_eq heq, hc] at hkey
  cases hkey

theorem keyPart?_append (hbare : IsBare key)
    (hrest : ∀ c, rest.head? = some c → isKeyChar c = false) :
    keyPart? (key.toList ++ rest) = some (key, rest) := by
  rw [keyPart?, span_append hbare.isKeyChar hrest]
  split
  next heq => exact absurd (congrArg Prod.fst heq) hbare.nonempty
  next heq =>
    cases heq
    rw [String.ofList_toList]

/-- A key without quotes is read up to the blanks after it. -/
theorem key?_append (hbare : IsBare key) (hrest : ∀ c, rest.head? = some c → isKeyChar c = false)
    (hdot : (skipBlanks rest).head? ≠ some '.') :
    key? (key.toList ++ rest) = some ([key], skipBlanks rest) := by
  have hskip : skipBlanks (key.toList ++ rest) = key.toList ++ rest := by
    obtain ⟨c, others, heq, hc⟩ := hbare.exists_eq_cons
    rw [heq]
    exact skipBlanks_cons (isBlank_of_isKeyChar hc)
  rw [key?, keyLimit, keyFrom, hskip, keyPart?_append hbare hrest]
  dsimp only
  split
  next heq =>
    rw [heq] at hdot
    exact absurd rfl hdot
  next => rfl

end Keys

section Lines

theorem exists_chars_eq_cons (setting : Setting) :
    ∃ c others, setting.chars = c :: others ∧ isBlank c = false := by
  cases setting with
  | text content =>
    obtain ⟨quote, others, heq, hquote⟩ := exists_quoted_eq_cons content.toList
    refine ⟨quote, others, heq, ?_⟩
    obtain rfl | rfl := hquote <;> rfl
  | number n =>
    have hne : Nat.toDigits 10 n ≠ [] := Nat.toDigits_ne_nil
    obtain ⟨c, others, heq⟩ := List.exists_cons_of_ne_nil hne
    have hc := Text.isDigit_of_mem_toDigits (heq ▸ List.mem_cons_self)
    refine ⟨c, others, ?_, ?_⟩
    · rw [Setting.chars, Nat.toString_eq_repr, Nat.toList_repr, heq]
    · simp [isBlank, ne_of_isDigit hc]
  | flag b => cases b <;> exact ⟨_, _, rfl, rfl⟩
  | texts items => exact ⟨'[', _, rfl, rfl⟩

/-- A line that gives a key a value is read back up to its end. -/
theorem statement?_settingLine (hbare : IsBare key) (setting : Setting) (rest : List Char) :
    statement? (settingLine key setting ++ rest) =
      some (.assign [key] setting.value, '\n' :: rest) := by
  have hline : settingLine key setting ++ rest =
      key.toList ++ ' ' :: '=' :: ' ' :: (setting.chars ++ '\n' :: rest) := by
    simp [settingLine]
  have hkey : assigned? (settingLine key setting ++ rest) =
      some ([key], setting.chars ++ '\n' :: rest) := by
    obtain ⟨c, others, heq, hblank⟩ := exists_chars_eq_cons setting
    have hskip : skipBlanks (' ' :: (setting.chars ++ '\n' :: rest)) =
        setting.chars ++ '\n' :: rest := by
      rw [heq]
      exact skipBlanks_cons hblank
    rw [hline, assigned?, key?_append hbare (by simp; decide) (by simp [skipBlanks, isBlank])]
    exact congrArg (fun chars => some ([key], chars)) hskip
  rw [statement?, hkey]
  · exact congrArg (Option.map _) (value?_setting setting rest)
  · exact fun after => hline ▸ hbare.append_ne (by decide) ('[' :: after)
  · exact fun after => hline ▸ hbare.append_ne (by decide) after

/-- The header of a table is read back. -/
theorem statement?_header (hbare : IsBare name) (rest : List Char) :
    statement? ('[' :: (name.toList ++ ']' :: rest)) = some (.table [name], rest) := by
  have hkey : key? (name.toList ++ ']' :: rest) = some ([name], ']' :: rest) :=
    key?_append hbare (by simp; decide) (by simp [skipBlanks, isBlank])
  rw [statement?, hkey]
  · rfl
  · exact hbare.append_ne (by decide)

end Lines

section Statements

/-- The values of settings under their keys. -/
def valuesOf (settings : List (String × Setting)) : Members :=
  settings.map fun (key, setting) => (key, setting.value)

def assignments (settings : List (String × Setting)) : List Statement :=
  settings.map fun (key, setting) => .assign [key] setting.value

/-- The statements that tables are written as. -/
def statements (tables : List (String × List (String × Setting))) : List Statement :=
  tables.flatMap fun (name, settings) => .table [name] :: assignments settings

theorem statementsFrom_feed (fuel : Nat) (read : List Statement) (chars : List Char) :
    statementsFrom fuel read ('\n' :: chars) = statementsFrom fuel read chars := by
  cases fuel with
  | zero => rfl
  | succ fuel =>
    rw [statementsFrom, statementsFrom]
    rfl

/-- A statement on a line of its own is read in one step. -/
theorem statementsFrom_line {statement : Statement} (hgaps : skipGaps false chars = some chars)
    (hstatement : statement? chars = some (statement, '\n' :: rest)) (fuel : Nat)
    (read : List Statement) :
    statementsFrom (fuel + 1) read chars = statementsFrom fuel (statement :: read) rest := by
  rw [statementsFrom, hgaps]
  split
  next heq => cases heq
  next heq =>
    cases heq
    cases hstatement
  next heq =>
    cases heq
    rw [hstatement]
    rfl

variable {settings : List (String × Setting)}

theorem statementsFrom_settings (hbare : ∀ setting ∈ settings, IsBare setting.1) (fuel : Nat)
    (read : List Statement) (rest : List Char) :
    statementsFrom (fuel + settings.length) read
        ((settings.flatMap fun (key, setting) => settingLine key setting) ++ rest) =
      statementsFrom fuel ((assignments settings).reverse ++ read) rest := by
  induction settings generalizing read with
  | nil => rfl
  | cons entry settings ih =>
    obtain ⟨key, setting⟩ := entry
    have hkey : IsBare key := hbare _ List.mem_cons_self
    have hgaps : ∀ chars, skipGaps false (settingLine key setting ++ chars) =
        some (settingLine key setting ++ chars) := by
      obtain ⟨c, others, heq, hc⟩ := hkey.exists_eq_cons
      intro chars
      rw [settingLine, heq]
      exact skipGaps_cons (notMem_of_isKeyChar hc (by decide))
    rw [List.flatMap_cons, List.append_assoc, List.length_cons, ← Nat.add_assoc,
      statementsFrom_line (hgaps _) (statement?_settingLine hkey setting _),
      ih fun setting hmem => hbare setting (List.mem_cons_of_mem _ hmem)]
    simp [assignments]

/-- A table is read in one step for its header and one for each of its settings. -/
theorem statementsFrom_table (hname : IsBare name) (hbare : ∀ setting ∈ settings, IsBare setting.1)
    (fuel : Nat) (read : List Statement) (rest : List Char) :
    statementsFrom (fuel + (settings.length + 1)) read (tableText name settings ++ rest) =
      statementsFrom fuel ((.table [name] :: assignments settings).reverse ++ read) rest := by
  have htext : tableText name settings ++ rest = '[' :: (name.toList ++ ']' :: '\n' ::
      ((settings.flatMap fun (key, setting) => settingLine key setting) ++ rest)) := by
    simp [tableText]
  rw [htext, ← Nat.add_assoc, statementsFrom_line (skipGaps_cons (by decide))
    (statement?_header hname _), statementsFrom_settings hbare]
  simp

/-- What the names and the keys of tables must be for a document to be read. -/
structure WellNamed (tables : List (String × List (String × Setting))) : Prop where
  bare_name : ∀ table ∈ tables, IsBare table.1
  bare_key : ∀ table ∈ tables, ∀ setting ∈ table.2, IsBare setting.1
  nodup_names : (tables.map Prod.fst).Nodup
  nodup_keys : ∀ table ∈ tables, (table.2.map Prod.fst).Nodup

theorem WellNamed.of_keys {tables : List (String × List (String × Setting))}
    (hbare : ∀ name ∈ tables.map Prod.fst, IsBare name) (hnodup : (tables.map Prod.fst).Nodup)
    (hkeys : ∀ keys ∈ tables.map fun table => table.2.map Prod.fst,
      keys.Nodup ∧ ∀ key ∈ keys, IsBare key) : WellNamed tables where
  bare_name _ hmem := hbare _ (List.mem_map_of_mem hmem)
  bare_key table hmem _ hsetting :=
    (hkeys _ (List.mem_map.2 ⟨table, hmem, rfl⟩)).2 _ (List.mem_map_of_mem hsetting)
  nodup_names := hnodup
  nodup_keys table hmem := (hkeys _ (List.mem_map.2 ⟨table, hmem, rfl⟩)).1

theorem WellNamed.tail {table : String × List (String × Setting)}
    {tables : List (String × List (String × Setting))} (hnamed : WellNamed (table :: tables)) :
    WellNamed tables where
  bare_name other hmem := hnamed.bare_name other (List.mem_cons_of_mem _ hmem)
  bare_key other hmem := hnamed.bare_key other (List.mem_cons_of_mem _ hmem)
  nodup_names := (List.nodup_cons.1 hnamed.nodup_names).2
  nodup_keys other hmem := hnamed.nodup_keys other (List.mem_cons_of_mem _ hmem)

theorem length_statements_cons (name : String) (settings : List (String × Setting))
    (tables : List (String × List (String × Setting))) :
    (statements ((name, settings) :: tables)).length =
      (statements tables).length + (settings.length + 1) := by
  simp only [statements, assignments, List.flatMap_cons, List.length_append, List.length_cons,
    List.length_map]
  omega

theorem statementsFrom_tables {tables : List (String × List (String × Setting))}
    (hnamed : WellNamed tables) (fuel : Nat) (read : List Statement) :
    statementsFrom (fuel + (statements tables).length) read
        (['\n'].intercalate (tables.map fun (name, settings) => tableText name settings)) =
      statementsFrom fuel ((statements tables).reverse ++ read) [] := by
  induction tables generalizing read with
  | nil => rfl
  | cons table tables ih =>
    obtain ⟨name, settings⟩ := table
    have htable := statementsFrom_table (hnamed.bare_name _ List.mem_cons_self)
      (hnamed.bare_key _ List.mem_cons_self)
    rw [length_statements_cons, ← Nat.add_assoc]
    cases tables with
    | nil =>
      have hlast := htable fuel read []
      rw [List.append_nil] at hlast
      rw [List.map_singleton, List.intercalate_singleton]
      simpa [statements] using hlast
    | cons next tables =>
      rw [List.map_cons, List.map_cons, List.intercalate_cons_cons, List.append_assoc, htable,
        List.singleton_append, statementsFrom_feed]
      refine (ih hnamed.tail _).trans ?_
      simp [statements]

theorem length_statements_le (tables : List (String × List (String × Setting))) :
    (statements tables).length ≤
      (tables.flatMap fun (name, settings) => tableText name settings).length := by
  induction tables with
  | nil => exact Nat.zero_le _
  | cons table tables ih =>
    obtain ⟨name, settings⟩ := table
    have hlines := length_le_length_flatMap
      (fun (entry : String × Setting) => (by simp [settingLine] :
        settingLine entry.1 entry.2 ≠ [])) settings
    have htable : settings.length + 1 ≤ (tableText name settings).length := by
      simp only [tableText, List.cons_append, List.length_cons, List.length_append]
      omega
    rw [length_statements_cons, List.flatMap_cons, List.length_append, Nat.add_comm]
    exact Nat.add_le_add htable ih

/-- A document is read as the statements that it was written from. -/
theorem statements?_written {tables : List (String × List (String × Setting))}
    (hnamed : WellNamed tables) :
    statements? (written tables).toList = some (statements tables) := by
  have hlength := length_statements_le tables
  have hdocument := length_flatMap_le_intercalate
    (fun (name, settings) => tableText name settings) ['\n'] tables
  obtain ⟨fuel, hfuel⟩ := Nat.exists_eq_add_of_le' (Nat.le_trans hlength hdocument)
  rw [written, String.toList_ofList, statements?, hfuel, Nat.add_right_comm,
    statementsFrom_tables hnamed]
  simp [statementsFrom, skipGaps]

end Statements

section Drafts

variable {before : Members} {settings : List (String × Setting)}

theorem lookup_eq_none (hkey : key ∉ before.map Prod.fst) : before.lookup key = none := by
  rw [List.lookup_eq_none_iff]
  intro entry hmem
  rw [bne_iff_ne]
  rintro rfl
  exact hkey (List.mem_map_of_mem hmem)

theorem lookup_append (hname : name ∉ before.map Prod.fst) (value : Value) :
    (before ++ [(name, value)]).lookup name = some value := by
  rw [List.lookup_append, lookup_eq_none hname]
  simp

theorem put_append (hname : name ∉ before.map Prod.fst) (old new : Value) :
    Members.put (before ++ [(name, old)]) name new = before ++ [(name, new)] := by
  have hsame : before.map (fun member => if member.1 = name then (name, new) else member) =
      before := by
    refine (List.map_congr_left fun member hmem => ?_).trans (List.map_id before)
    refine if_neg ?_
    rintro rfl
    exact hname (List.mem_map_of_mem hmem)
  rw [Members.put, lookup_append hname, List.map_append, hsame]
  simp

/-- A header that is new opens an empty table. -/
theorem apply_table (header : List String) (hname : name ∉ before.map Prod.fst) :
    Draft.apply ⟨header, before⟩ (.table [name]) =
      some ⟨[name], before ++ [(name, .table .headed [])]⟩ := by
  have hlookup := lookup_eq_none hname
  simp [Draft.apply, Members.openTable, Members.alter, Members.put, hlookup]

/-- A key that is new is added to the table that was opened last. -/
theorem apply_assign {inner : Members} (hname : name ∉ before.map Prod.fst)
    (hkey : key ∉ inner.map Prod.fst) (value : Value) :
    Draft.apply ⟨[name], before ++ [(name, .table .headed inner)]⟩ (.assign [key] value) =
      some ⟨[name], before ++ [(name, .table .headed (inner ++ [(key, value)]))]⟩ := by
  have hassign : Members.assign inner .headed [key] value = some (inner ++ [(key, value)]) := by
    simp [Members.assign, Members.alter, lookup_eq_none hkey]
  simp [Draft.apply, Members.alter, lookup_append hname, hassign, put_append hname]

theorem foldlM_assignments (inner : Members) (hname : name ∉ before.map Prod.fst)
    (hkeys : (inner.map Prod.fst ++ settings.map Prod.fst).Nodup) :
    (assignments settings).foldlM Draft.apply
        ⟨[name], before ++ [(name, .table .headed inner)]⟩ =
      some ⟨[name], before ++ [(name, .table .headed (inner ++ valuesOf settings))]⟩ := by
  induction settings generalizing inner with
  | nil => rw [valuesOf, List.map_nil, List.append_nil]; rfl
  | cons entry settings ih =>
    obtain ⟨key, setting⟩ := entry
    have hkey : key ∉ inner.map Prod.fst := by
      intro hmem
      exact (List.nodup_append.1 hkeys).2.2 key hmem key List.mem_cons_self rfl
    have hothers : ((inner ++ [(key, setting.value)]).map Prod.fst ++
        settings.map Prod.fst).Nodup := by
      simpa using hkeys
    rw [assignments, List.map_cons, List.foldlM_cons, apply_assign hname hkey]
    refine (ih _ hothers).trans ?_
    simp [valuesOf]

/-- The members of a document that is read from tables. -/
def membersOf (tables : List (String × List (String × Setting))) : Members :=
  tables.map fun (name, settings) => (name, .table .headed (valuesOf settings))

theorem foldlM_statements {tables : List (String × List (String × Setting))}
    (hnamed : WellNamed tables) (header : List String) (before : Members)
    (hnames : (before.map Prod.fst ++ tables.map Prod.fst).Nodup) :
    ∃ last, (statements tables).foldlM Draft.apply ⟨header, before⟩ =
      some ⟨last, before ++ membersOf tables⟩ := by
  induction tables generalizing header before with
  | nil => exact ⟨header, by rw [membersOf, List.map_nil, List.append_nil]; rfl⟩
  | cons table tables ih =>
    obtain ⟨name, settings⟩ := table
    have hname : name ∉ before.map Prod.fst := by
      intro hmem
      exact (List.nodup_append.1 hnames).2.2 name hmem name List.mem_cons_self rfl
    have hothers : ((before ++ [(name, Value.table .headed (valuesOf settings))]).map Prod.fst ++
        tables.map Prod.fst).Nodup := by
      simpa using hnames
    have hsettings := foldlM_assignments [] hname (hnamed.nodup_keys _ List.mem_cons_self)
    obtain ⟨last, hfold⟩ := ih hnamed.tail [name] _ hothers
    have hstatements : statements ((name, settings) :: tables) =
        .table [name] :: (assignments settings ++ statements tables) := rfl
    refine ⟨last, ?_⟩
    rw [hstatements, List.foldlM_cons, apply_table header hname]
    refine List.foldlM_append.trans ?_
    rw [hsettings]
    refine hfold.trans ?_
    simp [membersOf]

/-- No byte order mark stands before a document that is written. -/
theorem written_ne_mark (tables : List (String × List (String × Setting))) (rest : List Char) :
    (written tables).toList ≠ '\uFEFF' :: rest := by
  rw [written, String.toList_ofList]
  cases tables with
  | nil => nofun
  | cons table tables =>
    obtain ⟨name, settings⟩ := table
    intro heq
    simp only [List.map_cons, tableText, List.cons_append, List.intercalate_cons_cons_left] at heq
    exact absurd (List.head_eq_of_cons_eq heq) (by decide)

/-- A document is read back as the tables that it was written from. -/
theorem read?_written {tables : List (String × List (String × Setting))}
    (hnamed : WellNamed tables) : read? (written tables) = some (membersOf tables) := by
  obtain ⟨last, hfold⟩ := foldlM_statements hnamed [] [] hnamed.nodup_names
  unfold read?
  split
  next heq => exact absurd heq (written_ne_mark tables _)
  next =>
    dsimp only
    rw [statements?_written hnamed, Option.bind_eq_bind, Option.bind_some, hfold]
    rfl

end Drafts

end BootChain.Toml
