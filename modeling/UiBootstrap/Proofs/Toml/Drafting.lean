import UiBootstrap.Proofs.KeyedUpdates
import UiBootstrap.Proofs.Toml.Writing

/-!
# Tables are put together again

A document is carried out line by line, and each header changes which table the assignments behind
it go into (`Toml.Leads`). So the tables that are written under one parent, each behind a header of
its own, come to stand in it in their order (`Toml.foldlM_tables`), and the tables that are written
for one list come to stand in it in theirs (`Toml.foldlM_elements`).
-/

namespace UiBootstrap.Toml

variable {parent name key : Text} {fields : Keyed Atom} {before e root : Entries}
  {current : List Text} {rebuild : Entries → Entries} {done : List Entries}

/-! ## What is written -/

/-- The fields that are there, of some that may be missing. -/
def present (fields : Keyed (Option Atom)) : Keyed Atom :=
  fields.filterMap fun p => p.2.map fun v => (p.1, v)

/-- The lines of the fields of a table. -/
def fieldLines (fields : Keyed Atom) : List Line := fields.map fun p => .assign p.1 p.2

/-- The lines of a table inside another. -/
def tableLines (parent : Text) (p : Text × Keyed Atom) : List Line :=
  .table parent p.1 :: fieldLines p.2

/-- The lines of a table of a list. -/
def elementLines (name : Text) (fields : Keyed Atom) : List Line :=
  .element name :: fieldLines fields

/-- The entries of a table with these fields. -/
def fieldNodes (fields : Keyed Atom) : Entries := fields.map fun p => (p.1, .value p.2.value)

/-- Those that are there have their keys in the same order. -/
theorem keys_present (fields : Keyed (Option Atom)) :
    (Keyed.keys (present fields)).Sublist (Keyed.keys fields) := by
  induction fields with
  | nil => exact List.Sublist.slnil
  | cons p fields ih =>
    obtain ⟨key, v⟩ := p
    cases v with
    | none => exact ih.cons key
    | some v => exact ih.cons_cons key

/-- A field is found if it is there. -/
theorem get?_present {fields : Keyed (Option Atom)} (hnd : (Keyed.keys fields).Nodup)
    {v : Option Atom} (h : (key, v) ∈ fields) : Keyed.get? key (present fields) = v := by
  induction fields with
  | nil => cases h
  | cons p fields ih =>
    obtain ⟨k, w⟩ := p
    obtain ⟨hk, hrest⟩ := List.nodup_cons.1 hnd
    rcases List.mem_cons.1 h with heq | hmem
    · obtain ⟨rfl, rfl⟩ := Prod.mk.inj heq
      cases v with
      | none => exact Keyed.get?_eq_none_iff.2 fun hkey => hk ((keys_present fields).subset hkey)
      | some v => exact if_pos rfl
    · have hne : k ≠ key := by
        rintro rfl
        exact hk (List.mem_map.2 ⟨_, hmem, rfl⟩)
      cases w with
      | none => exact ih hrest hmem
      | some w => exact (if_neg hne).trans (ih hrest hmem)

/-- The entries have the keys of the fields. -/
theorem keys_fieldNodes (fields : Keyed Atom) :
    Keyed.keys (fieldNodes fields) = Keyed.keys fields := by
  rw [Keyed.keys, fieldNodes, List.map_map]
  rfl

/-! ## Assignments -/

/-- A path leads to a part of the root: what is changed there is changed in it. -/
def Leads (current : List Text) (rebuild : Entries → Entries) : Prop :=
  ∀ f e, Entries.modify? f current (rebuild e) = (f e).map rebuild

/-- A new key goes to the end of the table that the path leads to. -/
theorem run?_assign (h : Leads current rebuild) (hkey : key ∉ Keyed.keys e) (v : Value) :
    Draft.run? ⟨rebuild e, current⟩ (.assign [] key v) =
      some ⟨rebuild (e ++ [(key, .value v)]), current⟩ := by
  have hadd : Entries.assign? [] key v e = some (e ++ [(key, .value v)]) := by
    rw [Entries.assign?, Entries.add?, Keyed.get?_eq_none_iff.2 hkey, Keyed.put_of_not_mem hkey]
  rw [Draft.run?, h, hadd]
  rfl

/-- **New fields go to the end of the table that the path leads to**, in their order. -/
theorem foldlM_fieldLines (h : Leads current rebuild)
    (hnd : (Keyed.keys (e ++ fieldNodes fields)).Nodup) :
    ((fieldLines fields).map Line.statement).foldlM Draft.run? ⟨rebuild e, current⟩ =
      some ⟨rebuild (e ++ fieldNodes fields), current⟩ := by
  induction fields generalizing e with
  | nil =>
    rw [fieldNodes, List.map_nil, List.append_nil]
    rfl
  | cons p fields ih =>
    -- The first field goes to the end of the table, and the others behind it.
    have hkey : p.1 ∉ Keyed.keys e := Keyed.not_mem_keys_of_nodup hnd
    have hnodes : e ++ fieldNodes (p :: fields) =
        e ++ [(p.1, .value p.2.value)] ++ fieldNodes fields := by
      simp [fieldNodes]
    rw [hnodes] at hnd ⊢
    have hrun : Draft.run? ⟨rebuild e, current⟩ (Line.statement (.assign p.1 p.2)) = _ :=
      run?_assign h hkey p.2.value
    rw [fieldLines, List.map_cons, List.map_cons, List.foldlM_cons, hrun]
    exact ih hnd

/-- **The fields of a new table come to be its entries.** -/
theorem foldlM_fieldLines_nil (h : Leads current rebuild) (hnd : (Keyed.keys fields).Nodup) :
    ((fieldLines fields).map Line.statement).foldlM Draft.run? ⟨rebuild [], current⟩ =
      some ⟨rebuild (fieldNodes fields), current⟩ := by
  have hnodes : (Keyed.keys ([] ++ fieldNodes fields)).Nodup := by
    rwa [List.nil_append, keys_fieldNodes]
  exact foldlM_fieldLines h hnodes

/-! ## Tables under a parent -/

/-- The root with tables under a parent, which is implied by their headers. -/
def under (parent : Text) (tables : Entries) : Entries :=
  if tables.isEmpty then [] else [(parent, .table .implied tables)]

/-- With one table there is a parent. -/
theorem under_concat (parent : Text) (before : Entries) (p : Text × Node) :
    under parent (before ++ [p]) = [(parent, .table .implied (before ++ [p]))] :=
  if_neg (by simp)

/-- The path of a table at the end leads to it. -/
theorem leads_under (parent : Text) (hkey : key ∉ Keyed.keys before) :
    Leads [parent, key] fun e => under parent (before ++ [(key, .table .header e)]) := by
  intro f e
  simp only [under_concat]
  rw [Entries.modify?, Keyed.get?, if_pos rfl]
  simp only [Entries.modify?, Keyed.get?_concat_self hkey, Option.map_map]
  refine congrArg (Option.map · (f e)) (funext fun inner => ?_)
  simp only [Function.comp_apply, Keyed.put_concat_self hkey]
  rw [Keyed.put, if_pos rfl]

/-- A header starts a new table under the parent. -/
theorem run?_table (parent : Text) (hkey : key ∉ Keyed.keys before) :
    Draft.run? ⟨under parent before, current⟩ (.table [parent] key) =
      some ⟨under parent (before ++ [(key, .table .header [])]), [parent, key]⟩ := by
  have hopen : Entries.open? key before = some (before ++ [(key, .table .header [])]) := by
    rw [Entries.open?, Keyed.get?_eq_none_iff.2 hkey, Keyed.put_of_not_mem hkey]
  have hmodify : Entries.modify? (Entries.open? key) [parent] (under parent before) =
      some (under parent (before ++ [(key, .table .header [])])) := by
    rw [under_concat, under]
    cases before with
    | nil => rfl
    | cons p before =>
      rw [if_neg (by simp), Entries.modify?, Keyed.get?, if_pos rfl]
      simp only [Entries.modify?, hopen, Option.map_some, Keyed.put, if_pos]
  rw [Draft.run?, hmodify]
  rfl

/-- **A table that is written under a parent stands in it**, behind those that were there before. -/
theorem foldlM_tableLines (parent : Text) {p : Text × Keyed Atom} (hkey : p.1 ∉ Keyed.keys before)
    (hnd : (Keyed.keys p.2).Nodup) :
    ((tableLines parent p).map Line.statement).foldlM Draft.run? ⟨under parent before, current⟩ =
      some ⟨under parent (before ++ [(p.1, .table .header (fieldNodes p.2))]), [parent, p.1]⟩ := by
  rw [tableLines, List.map_cons, List.foldlM_cons, Line.statement, run?_table parent hkey]
  exact foldlM_fieldLines_nil (leads_under parent hkey) hnd

/-- The entries of a parent of these tables. -/
def tableNodes (tables : Keyed (Keyed Atom)) : Entries :=
  tables.map fun p => (p.1, .table .header (fieldNodes p.2))

/-- **The tables that are written under a parent stand in it in their order.** -/
theorem foldlM_tables (parent : Text) (current : List Text) {tables : Keyed (Keyed Atom)}
    (hnd : (Keyed.keys (before ++ tableNodes tables)).Nodup)
    (hfields : ∀ p ∈ tables, (Keyed.keys p.2).Nodup) : ∃ last,
    ((tables.flatMap (tableLines parent)).map Line.statement).foldlM Draft.run?
        ⟨under parent before, current⟩ =
      some ⟨under parent (before ++ tableNodes tables), last⟩ := by
  induction tables generalizing before current with
  | nil =>
    rw [tableNodes, List.map_nil, List.append_nil]
    exact ⟨current, rfl⟩
  | cons p tables ih =>
    have hkey : p.1 ∉ Keyed.keys before := Keyed.not_mem_keys_of_nodup hnd
    have hnodes : before ++ tableNodes (p :: tables) =
        before ++ [(p.1, .table .header (fieldNodes p.2))] ++ tableNodes tables := by
      simp [tableNodes]
    rw [hnodes] at hnd ⊢
    rw [List.flatMap_cons, List.map_append, List.foldlM_append,
      foldlM_tableLines parent hkey (hfields p List.mem_cons_self)]
    exact ih [parent, p.1] hnd fun q hq => hfields q (List.mem_cons_of_mem p hq)

/-! ## Tables of a list -/

/-- The root with the tables of a list, of which the last may still grow. -/
def listed (root : Entries) (name : Text) (elements : List Entries) : Entries :=
  -- A list under construction has its last table apart from the older ones.
  match elements.getLast? with
  | none => root
  | some last => root ++ [(name, .tables elements.dropLast last)]

/-- With one table there is a list. -/
theorem listed_concat (root : Entries) (name : Text) (done : List Entries) (e : Entries) :
    listed root name (done ++ [e]) = root ++ [(name, .tables done e)] := by
  simp [listed]

/-- The path of a list leads to its last table. -/
theorem leads_listed (hname : name ∉ Keyed.keys root) (done : List Entries) :
    Leads [name] fun e => listed root name (done ++ [e]) := by
  intro f e
  simp only [listed_concat]
  rw [Entries.modify?, Keyed.get?_concat_self hname]
  simp only [Entries.modify?, Keyed.put_concat_self hname]

/-- A header starts a further table of the list. -/
theorem run?_element (hname : name ∉ Keyed.keys root) (done : List Entries) :
    Draft.run? ⟨listed root name done, current⟩ (.element [] name) =
      some ⟨listed root name (done ++ [[]]), [name]⟩ := by
  have happend : Entries.append? name (listed root name done) =
      some (listed root name (done ++ [[]])) := by
    rw [listed_concat]
    rcases List.eq_nil_or_concat done with rfl | ⟨older, last, rfl⟩
    · rw [listed, List.getLast?_nil, Entries.append?, Keyed.get?_eq_none_iff.2 hname]
      simp only [Keyed.put_of_not_mem hname]
    · rw [List.concat_eq_append, listed_concat, Entries.append?, Keyed.get?_concat_self hname]
      simp only [Keyed.put_concat_self hname]
  rw [Draft.run?, Entries.modify?, happend]
  rfl

/-- **A table that is written for a list stands in it**, behind those that were there before. -/
theorem foldlM_elementLines (hname : name ∉ Keyed.keys root) (hnd : (Keyed.keys fields).Nodup) :
    ((elementLines name fields).map Line.statement).foldlM Draft.run?
        ⟨listed root name done, current⟩ =
      some ⟨listed root name (done ++ [fieldNodes fields]), [name]⟩ := by
  rw [elementLines, List.map_cons, List.foldlM_cons, Line.statement, run?_element hname]
  exact foldlM_fieldLines_nil (leads_listed hname done) hnd

/-- **The tables that are written for a list stand in it in their order.** -/
theorem foldlM_elements (done : List Entries) (current : List Text)
    (hname : name ∉ Keyed.keys root) {elements : List (Keyed Atom)}
    (hfields : ∀ fields ∈ elements, (Keyed.keys fields).Nodup) : ∃ last,
    ((elements.flatMap (elementLines name)).map Line.statement).foldlM Draft.run?
        ⟨listed root name done, current⟩ =
      some ⟨listed root name (done ++ elements.map fieldNodes), last⟩ := by
  induction elements generalizing done current with
  | nil =>
    rw [List.map_nil, List.append_nil]
    exact ⟨current, rfl⟩
  | cons fields elements ih =>
    have hdone : done ++ (fields :: elements).map fieldNodes =
        done ++ [fieldNodes fields] ++ elements.map fieldNodes := by
      simp
    rw [hdone, List.flatMap_cons, List.map_append, List.foldlM_append,
      foldlM_elementLines hname (hfields fields List.mem_cons_self)]
    exact ih _ [name] fun q hq => hfields q (List.mem_cons_of_mem fields hq)

/-! ## Documents -/

/-- These keys may stand without quotes, and none stands twice. -/
structure Proper (keys : List Text) : Prop where
  bare : ∀ key ∈ keys, isBare key = true
  nodup : keys.Nodup

/-- Fields that may be missing have proper keys without those that are. -/
theorem Proper.present {fields : Keyed (Option Atom)} (h : Proper (Keyed.keys fields)) :
    Proper (Keyed.keys (present fields)) where
  bare key hkey := h.bare key ((keys_present fields).subset hkey)
  nodup := h.nodup.sublist (keys_present fields)

/-- Fields with their values. -/
def fieldValues (fields : Keyed Atom) : Keyed Value := fields.map fun p => (p.1, p.2.value)

/-- The table with these fields, as a value. -/
def record (fields : Keyed Atom) : Value := .table (fieldValues fields)

/-- A field is found with its value if it is there. -/
theorem get?_fieldValues {fields : Keyed (Option Atom)} (h : Proper (Keyed.keys fields))
    {v : Option Atom} (hmem : (key, v) ∈ fields) :
    Keyed.get? key (fieldValues (Toml.present fields)) = v.map Atom.value := by
  rw [fieldValues, Keyed.get?_map, get?_present h.nodup hmem]

/-- The lines of tables under a parent, and then of the tables of a list. -/
def recordLines (parent : Text) (tables : Keyed (Keyed Atom)) (name : Text)
    (elements : List (Keyed Atom)) : List Line :=
  tables.flatMap (tableLines parent) ++ elements.flatMap (elementLines name)

/-- The entries of a table, read as values one by one. -/
theorem entryValues_eq_map (entries : Entries) :
    entryValues entries = entries.map fun p => (p.1, p.2.toValue) := by
  induction entries with
  | nil => rfl
  | cons p entries ih => rw [entryValues, ih, List.map_cons]

/-- The tables of a list, read as values one by one. -/
theorem tableValues_eq_map (elements : List Entries) :
    tableValues elements = elements.map fun e => .table (entryValues e) := by
  induction elements with
  | nil => rfl
  | cons e elements ih => rw [tableValues, ih, List.map_cons]

/-- Fields are read as the record of them. -/
theorem table_entryValues_fieldNodes (fields : Keyed Atom) :
    Value.table (entryValues (fieldNodes fields)) = record fields := by
  rw [entryValues_eq_map, fieldNodes, List.map_map]
  rfl

/-- The tables under a parent, read as values. -/
theorem get?_under (parent : Text) (tables : Keyed (Keyed Atom)) :
    (Keyed.get? parent (under parent (tableNodes tables))).map Node.toValue =
      if tables.isEmpty then none else some (.table (tables.map fun p => (p.1, record p.2))) := by
  have hnodes : entryValues (tableNodes tables) = tables.map fun p => (p.1, record p.2) := by
    rw [entryValues_eq_map, tableNodes, List.map_map]
    refine List.map_congr_left fun p _ => ?_
    exact congrArg (Prod.mk p.1) (table_entryValues_fieldNodes p.2)
  cases tables with
  | nil => rfl
  | cons p tables =>
    rw [← hnodes, under, if_neg (by simp [tableNodes]), if_neg (by simp), Keyed.get?, if_pos rfl]
    rfl

/-- The tables of a list, read as values. -/
theorem get?_listed_self (hname : name ∉ Keyed.keys root) (elements : List (Keyed Atom)) :
    (Keyed.get? name (listed root name (elements.map fieldNodes))).map Node.toValue =
      if elements.isEmpty then none else some (.array (elements.map record)) := by
  have hvalue : ∀ fields, Value.table (entryValues (fieldNodes fields)) = record fields :=
    table_entryValues_fieldNodes
  rcases List.eq_nil_or_concat elements with rfl | ⟨older, last, rfl⟩
  · rw [List.map_nil, listed, List.getLast?_nil, Keyed.get?_eq_none_iff.2 hname]
    rfl
  · rw [List.concat_eq_append, List.map_append, List.map_singleton, listed_concat,
      Keyed.get?_concat_self hname, if_neg (by simp)]
    simp [Node.toValue, tableValues_eq_map, hvalue, Function.comp_def]

/-- Other keys than that of the list are found where they were. -/
theorem get?_listed_of_ne {k : Text} (hk : k ≠ name) (elements : List Entries) :
    Keyed.get? k (listed root name elements) = Keyed.get? k root := by
  rcases List.eq_nil_or_concat elements with rfl | ⟨older, last, rfl⟩
  · rfl
  · rw [List.concat_eq_append, listed_concat, Keyed.get?_append, Keyed.get?, if_neg hk.symm,
      Keyed.get?, Option.or_none]

/-- The keys without quotes in such a document are that of the parent, that of the list and those of
the fields. -/
theorem isBare_of_mem_recordLines {tables : Keyed (Keyed Atom)} {elements : List (Keyed Atom)}
    (hparent : isBare parent = true) (hname : isBare name = true)
    (htables : ∀ p ∈ tables, Proper (Keyed.keys p.2))
    (helements : ∀ fields ∈ elements, Proper (Keyed.keys fields)) :
    ∀ l ∈ recordLines parent tables name elements, isBare l.bare = true := by
  have hfields : ∀ {fields}, Proper (Keyed.keys fields) →
      ∀ l ∈ fieldLines fields, isBare l.bare = true := by
    intro fields h l hl
    obtain ⟨p, hp, rfl⟩ := List.mem_map.1 hl
    exact h.bare p.1 (List.mem_map_of_mem hp)
  intro l hl
  rcases List.mem_append.1 hl with hl | hl
  · obtain ⟨p, hp, hl⟩ := List.mem_flatMap.1 hl
    rcases List.mem_cons.1 hl with rfl | hl
    · exact hparent
    · exact hfields (htables p hp) l hl
  · obtain ⟨fields, hmem, hl⟩ := List.mem_flatMap.1 hl
    rcases List.mem_cons.1 hl with rfl | hl
    · exact hname
    · exact hfields (helements fields hmem) l hl

/-- A document of tables has no byte order mark in front. -/
theorem skipMark_document (s : Spelling) (parent name : Text) (tables : Keyed (Keyed Atom))
    (elements : List (Keyed Atom)) :
    skipMark (s.document (recordLines parent tables name elements)) =
      s.document (recordLines parent tables name elements) := by
  cases tables with
  | nil => cases elements <;> rfl
  | cons p tables => rfl

/-- **Tables under a parent and tables of a list are read back from their document.** -/
theorem parse?_document (s : Spelling) {tables : Keyed (Keyed Atom)} {elements : List (Keyed Atom)}
    (hparent : isBare parent = true) (hname : isBare name = true) (hne : parent ≠ name)
    (hnd : (Keyed.keys tables).Nodup) (htables : ∀ p ∈ tables, Proper (Keyed.keys p.2))
    (helements : ∀ fields ∈ elements, Proper (Keyed.keys fields)) : ∃ values : Keyed Value,
    parse? (s.document (recordLines parent tables name elements)) = some values ∧
      values.get? parent = (if tables.isEmpty then none
        else some (.table (tables.map fun p => (p.1, record p.2)))) ∧
      values.get? name = (if elements.isEmpty then none
        else some (.array (elements.map record))) := by
  have hlines := isBare_of_mem_recordLines hparent hname htables helements
  have hnodes : (Keyed.keys ([] ++ tableNodes tables)).Nodup := by
    rw [List.nil_append, Keyed.keys, tableNodes, List.map_map]
    exact hnd
  have hroot : name ∉ Keyed.keys (under parent (tableNodes tables)) := by
    rw [under]
    split
    · exact List.not_mem_nil
    · simpa using hne.symm
  obtain ⟨current, htablesRun⟩ : ∃ current,
      ((tables.flatMap (tableLines parent)).map Line.statement).foldlM Draft.run? {} =
        some ⟨under parent (tableNodes tables), current⟩ :=
    foldlM_tables parent [] hnodes fun p hp => (htables p hp).nodup
  obtain ⟨last, helementsRun⟩ := foldlM_elements [] current hroot
    fun fields h => (helements fields h).nodup
  refine ⟨entryValues (listed (under parent (tableNodes tables)) name (elements.map fieldNodes)),
    ?_, ?_, ?_⟩
  · have hrun : ((recordLines parent tables name elements).map Line.statement).foldlM
        Draft.run? {} = some ⟨listed (under parent (tableNodes tables)) name
          (elements.map fieldNodes), last⟩ := by
      rw [recordLines, List.map_append, List.foldlM_append, htablesRun]
      exact helementsRun
    rw [parse?, skipMark_document, statements?_document hlines, Option.bind_eq_bind,
      Option.bind_some, hrun]
    rfl
  · rw [entryValues_eq_map, Keyed.get?_map, get?_listed_of_ne hne, get?_under]
  · rw [entryValues_eq_map, Keyed.get?_map, get?_listed_self hroot]

end UiBootstrap.Toml
