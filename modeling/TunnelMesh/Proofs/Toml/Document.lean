/-
Documents come back from their texts.

What is written are sections under headers of their own, each with plain entries.  A
reader takes such a text line by line: a header opens one more table behind the tables
that are there, and a setting adds one more entry to the last table, for no name comes
twice.  So a value comes back in its document as soon as it comes back from its own
text.
-/
import TunnelMesh.Proofs.Toml.Number
import TunnelMesh.Toml.Document

namespace TunnelMesh.Toml

open Toml.Tree

variable {rest : List Char}

/-! ### Values -/

/-- A value that a reader finds in a line where the value's text was written. -/
structure ReadsBack (v : Toml) : Prop where
  start (rest : List Char) : skipSpace ((valueText v).toList ++ rest) = (valueText v).toList ++ rest
  read (fuel : Nat) {rest : List Char} (hrest : EndsLine rest) :
    readValue (fuel + 1) ((valueText v).toList ++ rest) = some (v, rest)

theorem readsBack_str (s : String) : ReadsBack (.str s) := by
  obtain ⟨q, cs, htext, hq⟩ : ∃ q cs, (strText s).toList = q :: cs ∧ (q = '"' ∨ q = '\'') := by
    rw [strText]
    dsimp only
    split
    · split
      · exact ⟨'\'', _, by simp only [String.toList_append]; rfl, .inr rfl⟩
      · split
        · exact ⟨'\'', _, by simp only [String.toList_append]; rfl, .inr rfl⟩
        · exact ⟨'\'', _, by simp only [String.toList_append]; rfl, .inr rfl⟩
    · split
      · exact ⟨'"', _, by simp only [String.toList_append]; rfl, .inl rfl⟩
      · exact ⟨'"', _, by simp only [String.toList_append]; rfl, .inl rfl⟩
  constructor
  · intro rest
    rw [valueText, htext, List.cons_append, skipSpace, List.dropWhile_cons_of_neg]
    rcases hq with rfl | rfl <;> decide
  · intro fuel rest hrest
    have hread := readStr_strText s hrest
    rw [htext, List.cons_append] at hread
    rw [valueText, htext, List.cons_append]
    unfold readValue
    rw [if_pos hq, hread]
    rfl

theorem readsBack_bool (b : Bool) : ReadsBack (.bool b) := by
  cases b with
  | true => exact ⟨fun _ => rfl, fun _ _ _ => rfl⟩
  | false => exact ⟨fun _ => rfl, fun _ _ _ => rfl⟩

/-- Whether a number may start with a character. -/
def startsNumber (c : Char) : Bool := c.isDigit || c == '-' || c == 'n' || c == 'i'

theorem readValue_number {c : Char} (hc : startsNumber c = true) (fuel : Nat) (cs : List Char) :
    readValue (fuel + 1) (c :: cs) = readNumber (c :: cs) := by
  have hquote : ¬(c = '"' ∨ c = '\'') :=
    not_or.mpr ⟨ne_of_kind hc rfl, ne_of_kind hc rfl⟩
  unfold readValue
  rw [if_neg hquote, if_neg (ne_of_kind hc rfl), if_neg (ne_of_kind hc rfl),
    if_neg (ne_of_kind hc rfl), if_neg (ne_of_kind hc rfl)]

/-- No blank is skipped before a character of a kind that no blank is of. -/
theorem skipSpace_of_kind {kind : Char → Bool} {c : Char} (hc : kind c = true)
    (hblank : kind ' ' = false) (htab : kind '\t' = false) (cs : List Char) :
    skipSpace (c :: cs) = c :: cs := by
  refine List.dropWhile_cons_of_neg fun hspace => ?_
  rw [isSpace, Bool.or_eq_true, beq_iff_eq, beq_iff_eq] at hspace
  exact hspace.elim (ne_of_kind hc hblank) (ne_of_kind hc htab)

/-- A number comes back as soon as it is read from its text. -/
theorem readsBack_of_readNumber {v : Toml}
    (hstart : ∃ c cs, (valueText v).toList = c :: cs ∧ startsNumber c = true)
    (hread : ∀ {rest}, EndsLine rest → readNumber ((valueText v).toList ++ rest) = some (v, rest)) :
    ReadsBack v := by
  obtain ⟨c, cs, htext, hc⟩ := hstart
  constructor
  · intro rest
    rw [htext, List.cons_append, skipSpace_of_kind hc rfl rfl]
  · intro fuel rest hrest
    have h := hread hrest
    rw [htext, List.cons_append] at h ⊢
    rw [readValue_number hc, h]

theorem startsNumber_of_digits {ds : List Char} (hds : Digits ds) (hne : ds ≠ [])
    (rest : List Char) : ∃ c cs, ds ++ rest = c :: cs ∧ startsNumber c = true := by
  obtain ⟨c, cs, rfl⟩ := List.exists_cons_of_ne_nil hne
  exact ⟨c, cs ++ rest, rfl, by simp [startsNumber, hds c (by simp)]⟩

theorem readsBack_int {n : Nat} (hn : n < Nat.pow 2 63) : ReadsBack (.int n) := by
  have htext : valueText (.int n) = toString n := by
    rw [valueText]
    rfl
  refine readsBack_of_readNumber ?_ ?_
  · have h := startsNumber_of_digits (digits_toString n) (whole_toString n).1.ne_nil []
    rwa [List.append_nil, ← htext] at h
  · intro rest hrest
    rw [htext, readNumber_toString hn hrest]

theorem readsBack_float {x : Float} (h : Stands x) : ReadsBack (.float x) := by
  refine readsBack_of_readNumber ?_ ?_
  · rw [valueText]
    have htext := floatText_text x
    generalize (floatForm.text x).toList = cs at htext
    cases htext with
    | nan => exact ⟨_, _, rfl, rfl⟩
    | inf negative => cases negative <;> exact ⟨_, _, rfl, rfl⟩
    | point negative hds hds' =>
        cases negative with
        | true => exact ⟨_, _, rfl, rfl⟩
        | false => exact startsNumber_of_digits hds hds' _
  · intro rest hrest
    rw [valueText, readNumber_text h hrest]

/-! ### Tables -/

/-- The entries of a table as they are kept while a document is read. -/
def leaves (es : List (String × Toml)) : Entries := es.map fun e => (e.1, .leaf e.2)

theorem leaves_concat (es : List (String × Toml)) (e : String × Toml) :
    leaves (es ++ [e]) = leaves es ++ [(e.1, .leaf e.2)] :=
  List.map_append

/-- The table of a section as it is kept while a document is read. -/
def Section.tree (s : Section) : String × Tree := (s.name, .table .header (leaves s.entries))

theorem closeEntries_leaves (es : List (String × Toml)) : closeEntries (leaves es) = es := by
  induction es with
  | nil => rfl
  | cons e es ih =>
      rw [leaves, List.map_cons, closeEntries, ← leaves, ih]
      rfl

theorem closeEntries_trees (ss : List Section) :
    table (closeEntries (ss.map Section.tree)) = ofSections ss := by
  rw [ofSections]
  congr 1
  induction ss with
  | nil => rfl
  | cons s ss ih =>
      rw [List.map_cons, List.map_cons, Section.tree, closeEntries, close, closeEntries_leaves, ih]

theorem find?_eq_none {key : String} {es : Entries} (h : key ∉ es.map (·.1)) :
    find? key es = none := by
  rw [find?, Option.map_eq_none_iff, List.find?_eq_none]
  intro e he heq
  exact h (List.mem_map.mpr ⟨e, he, beq_iff_eq.mp heq⟩)

theorem find?_concat {key : String} {es : Entries} (h : key ∉ es.map (·.1)) (t : Tree) :
    find? key (es ++ [(key, t)]) = some t := by
  have hnone := find?_eq_none h
  rw [find?, Option.map_eq_none_iff] at hnone
  simp [find?, List.find?_append, hnone]

theorem put_concat {key : String} {es : Entries} (h : key ∉ es.map (·.1)) (t t' : Tree) :
    put key t' (es ++ [(key, t)]) = es ++ [(key, t')] := by
  have hkeep : es.map (fun e => if e.1 == key then (key, t') else e) = es := by
    conv_rhs => rw [← List.map_id es]
    refine List.map_congr_left fun e he => if_neg fun heq => ?_
    exact h (List.mem_map.mpr ⟨e, he, beq_iff_eq.mp heq⟩)
  rw [put, find?_concat h, Option.isSome_some, if_pos rfl, List.map_append, hkeep]
  simp

/-! ### Keys -/

/-- A name that is written without quotes. -/
def Bare (k : String) : Prop := k.toList ≠ [] ∧ ∀ c ∈ k.toList, isBare c = true

instance (k : String) : Decidable (Bare k) :=
  decidable_of_iff ((!k.toList.isEmpty && k.toList.all isBare) = true) (by simp [Bare])

theorem Bare.keyText {k : String} (h : Bare k) : keyText k = k := by
  have hempty : k.isEmpty = false := by
    rw [← Bool.not_eq_true, String.isEmpty_iff, ← String.toList_eq_nil_iff]
    exact h.1
  have hall : k.toList.all (fun c => c.isAlphanum || c == '-' || c == '_') = true :=
    List.all_eq_true.mpr h.2
  rw [Toml.keyText, hempty, hall]
  rfl

theorem Bare.exists_cons {k : String} (h : Bare k) (rest : List Char) :
    ∃ c cs, k.toList ++ rest = c :: cs ∧ isBare c = true := by
  obtain ⟨c, cs, hk⟩ := List.exists_cons_of_ne_nil h.1
  exact ⟨c, cs ++ rest, by rw [hk, List.cons_append], h.2 c (by rw [hk]; simp)⟩

theorem readPart_bare {k : String} (h : Bare k) (hrest : ∀ c ∈ rest.head?, isBare c = false) :
    readPart (k.toList ++ rest) = some (k, rest) := by
  have htake : (k.toList ++ rest).takeWhile isBare = k.toList := by
    rw [List.takeWhile_append_of_pos h.2]
    cases rest with
    | nil => simp
    | cons c rest => simp [hrest c (by simp)]
  have hdrop : (k.toList ++ rest).dropWhile isBare = rest := by
    rw [List.dropWhile_append_of_pos h.2]
    cases rest with
    | nil => rfl
    | cons c rest => simp [hrest c (by simp)]
  obtain ⟨c, cs, heq, hc⟩ := h.exists_cons rest
  unfold readPart
  split
  · rename_i hquote
    exact absurd (List.cons.inj (heq.symm.trans hquote)).1 (ne_of_kind hc rfl)
  · rename_i hquote
    exact absurd (List.cons.inj (heq.symm.trans hquote)).1 (ne_of_kind hc rfl)
  · rw [htake, hdrop, if_neg (by simpa using h.1), String.ofList_toList]

/-- A name is read as a key of one part. -/
theorem readKey_bare {k : String} (h : Bare k) (hrest : ∀ c ∈ rest.head?, isBare c = false)
    (hpoint : (skipSpace rest).head? ≠ some '.') (fuel : Nat) :
    readKey (fuel + 1) (k.toList ++ rest) = some ([k], skipSpace rest) := by
  have hskip : skipSpace (k.toList ++ rest) = k.toList ++ rest := by
    obtain ⟨c, cs, heq, hc⟩ := h.exists_cons rest
    rw [heq, skipSpace_of_kind hc rfl rfl]
  rw [readKey, hskip, readPart_bare h hrest]
  dsimp only
  split
  · rename_i heq
    rw [heq] at hpoint
    exact absurd rfl hpoint
  · rfl

/-! ### Lines -/

/-- The text of an entry. -/
def entryText (e : String × Toml) : List Char :=
  e.1.toList ++ ' ' :: '=' :: ' ' :: ((valueText e.2).toList ++ ['\n'])

/-- A setting adds an entry to the last table. -/
theorem readSetting_entry {e : String × Toml} (hkey : Bare e.1) (hvalue : ReadsBack e.2)
    {es : Entries} (hnew : e.1 ∉ es.map (·.1)) {root : Entries} {name : String}
    (hname : name ∉ root.map (·.1)) (rest : List Char) :
    readSetting ⟨root ++ [(name, .table .header es)], [name]⟩ (entryText e ++ rest) =
      some (⟨root ++ [(name, .table .header (es ++ [(e.1, .leaf e.2)]))], [name]⟩,
        '\n' :: rest) := by
  have htext : entryText e ++ rest =
      e.1.toList ++ ' ' :: '=' :: ' ' :: ((valueText e.2).toList ++ '\n' :: rest) := by
    simp [entryText]
  have hskip : skipSpace (' ' :: ((valueText e.2).toList ++ '\n' :: rest)) =
      (valueText e.2).toList ++ '\n' :: rest :=
    hvalue.start _
  have hset : setKey e.2 [e.1] es = some (es ++ [(e.1, .leaf e.2)]) := by
    rw [setKey, find?_eq_none hnew]
    rfl
  have hline : EndsLine ('\n' :: rest) := by simp [EndsLine]
  have hequals (cs : List Char) : skipSpace (' ' :: '=' :: cs) = '=' :: cs := rfl
  rw [htext, readSetting, readKey_bare hkey (by simp [isBare]) (by simp [hequals]), hequals]
  split
  · rename_i path cs heq
    obtain ⟨rfl, hcs⟩ := Prod.mk.inj (Option.some.inj heq)
    rw [← (List.cons.inj hcs).2, hskip, hvalue.read _ hline]
    dsimp only
    rw [alongHeader, find?_concat hname]
    dsimp only
    rw [alongHeader, hset, Option.map_some, put_concat hname]
    rfl
  · rename_i hnone
    exact absurd rfl (hnone _ _)

/-- A header opens one more table. -/
theorem readHeader_name {name : String} (hbare : Bare name) {root : Entries}
    (hname : name ∉ root.map (·.1)) (path : List String) (rest : List Char) :
    readHeader ⟨root, path⟩ (name.toList ++ ']' :: rest) =
      some (⟨root ++ [(name, .table .header [])], [name]⟩, rest) := by
  have hopen : openTable name root = some (root ++ [(name, .table .header [])]) := by
    rw [openTable, find?_eq_none hname]
  have hskip : skipSpace (']' :: rest) = ']' :: rest := rfl
  rw [readHeader]
  · dsimp only
    rw [readKey_bare hbare (by simp [isBare]) (by simp [hskip]), hskip]
    simp [alongHeader, hopen]
  · intro r hbracket
    obtain ⟨c, cs, heq, hc⟩ := hbare.exists_cons (']' :: rest)
    exact ne_of_kind (d := '[') hc rfl (List.cons.inj (heq.symm.trans hbracket)).1

/-- A line starts neither with a blank or a comment nor with a line ending. -/
def startsLine (c : Char) : Bool := isBare c || c == '['

theorem skipLines_start {c : Char} (hc : startsLine c = true) (fuel : Nat) (cs : List Char) :
    skipLines (fuel + 1) (c :: cs) = c :: cs := by
  have hcomment : skipComment (c :: cs) = c :: cs := by
    unfold skipComment
    split
    · rename_i heq
      exact absurd (List.cons.inj heq).1 (ne_of_kind hc rfl)
    · rfl
  rw [skipLines, skipSpace_of_kind hc rfl rfl, hcomment,
    newline?_of_ne (ne_of_kind hc rfl) (ne_of_kind hc rfl)]

/-- A line that is read up to its end is followed by the next one. -/
theorem readLines_line {s s' : Reading} {c : Char} (hc : startsLine c = true) {cs rest : List Char}
    (hread : (if c = '[' then readHeader s cs else readSetting s (c :: cs)) =
      some (s', '\n' :: rest)) (fuel : Nat) :
    readLines s (fuel + 1) (c :: cs) = readLines s' fuel rest := by
  rw [readLines, List.length_cons, skipLines_start hc]
  dsimp only
  rw [hread]
  rfl

/-- An empty line says nothing. -/
theorem readLines_empty (s : Reading) (fuel : Nat) (cs : List Char) :
    readLines s (fuel + 1) ('\n' :: cs) = readLines s (fuel + 1) cs := by
  rw [readLines, readLines, List.length_cons]
  rfl

/-- Settings add their entries to the last table. -/
theorem readLines_entries {root : Entries} {name : String} (hname : name ∉ root.map (·.1))
    (es done : List (String × Toml)) (hkeys : ∀ e ∈ es, Bare e.1)
    (hvalues : ∀ e ∈ es, ReadsBack e.2) (hnodup : ((done ++ es).map (·.1)).Nodup) (fuel : Nat)
    (rest : List Char) :
    readLines ⟨root ++ [(name, .table .header (leaves done))], [name]⟩ (fuel + es.length)
        (es.flatMap entryText ++ rest) =
      readLines ⟨root ++ [(name, .table .header (leaves (done ++ es)))], [name]⟩ fuel rest := by
  induction es generalizing done with
  | nil => simp
  | cons e es ih =>
      have hkey := hkeys e (by simp)
      have hnew : e.1 ∉ (leaves done).map (·.1) := by
        rw [List.map_append, List.map_cons, List.nodup_append] at hnodup
        simp only [leaves, List.map_map, Function.comp_def]
        exact fun h => hnodup.2.2 _ h _ (by simp) rfl
      obtain ⟨c, cs, heq, hc⟩ := hkey.exists_cons
        (' ' :: '=' :: ' ' :: ((valueText e.2).toList ++ ['\n']) ++ (es.flatMap entryText ++ rest))
      have hset := readSetting_entry hkey (hvalues e (by simp)) hnew hname
        (es.flatMap entryText ++ rest)
      rw [List.flatMap_cons, List.append_assoc, List.length_cons, ← Nat.add_assoc]
      rw [entryText, List.append_assoc, heq] at hset ⊢
      rw [readLines_line (by rw [startsLine, hc]; rfl) (by rw [if_neg (ne_of_kind hc rfl), hset])]
      have hnext := ih (done ++ [e]) (fun e he => hkeys e (by simp [he]))
        (fun e he => hvalues e (by simp [he])) (by rwa [List.append_assoc])
      rw [leaves_concat, List.append_assoc] at hnext
      exact hnext

/-- The lines of a section. -/
def Section.text (s : Section) : List Char :=
  '[' :: (s.name.toList ++ ']' :: '\n' :: s.entries.flatMap entryText)

/-- A section that comes back from its lines: names are bare and come once, and values come back. -/
structure Section.ReadsBack (s : Section) : Prop where
  name : Bare s.name
  keys : ∀ e ∈ s.entries, Bare e.1
  values : ∀ e ∈ s.entries, Toml.ReadsBack e.2
  nodup : (s.entries.map (·.1)).Nodup

/-- The lines of a section add its table. -/
theorem readLines_section {s : Section} (h : s.ReadsBack) {ss : List Section}
    (hname : s.name ∉ ss.map (·.name)) (path : List String) (fuel : Nat) (rest : List Char) :
    readLines ⟨ss.map Section.tree, path⟩ (fuel + s.entries.length + 1) (s.text ++ rest) =
      readLines ⟨(ss ++ [s]).map Section.tree, [s.name]⟩ fuel rest := by
  have hroot : s.name ∉ (ss.map Section.tree).map (·.1) := by
    rw [List.map_map]
    exact hname
  have htext : s.text ++ rest =
      '[' :: (s.name.toList ++ ']' :: '\n' :: (s.entries.flatMap entryText ++ rest)) := by
    simp [Section.text]
  have hentries := readLines_entries hroot s.entries [] h.keys h.values h.nodup fuel rest
  rw [htext, readLines_line rfl (by rw [if_pos rfl, readHeader_name h.name hroot]), List.map_append]
  exact hentries

/-- The lines of sections, an empty line before each. -/
def textAfter (ss : List Section) : List Char := ss.flatMap fun s => '\n' :: s.text

theorem textAfter_cons (s : Section) (ss : List Section) :
    textAfter (s :: ss) = '\n' :: (s.text ++ textAfter ss) := by
  rw [textAfter, List.flatMap_cons, List.cons_append, ← textAfter]

/-- The number of headers and settings. -/
def lineCount (ss : List Section) : Nat := (ss.flatMap (·.entries)).length + ss.length

theorem lineCount_cons (s : Section) (ss : List Section) :
    lineCount (s :: ss) = lineCount ss + s.entries.length + 1 := by
  rw [lineCount, lineCount, List.flatMap_cons, List.length_append, List.length_cons]
  omega

/-- Sections with an empty line before each add their tables. -/
theorem readLines_sections (ss done : List Section) (h : ∀ s ∈ ss, s.ReadsBack)
    (hnodup : ((done ++ ss).map (·.name)).Nodup) (path : List String) (fuel : Nat) :
    readLines ⟨done.map Section.tree, path⟩ (fuel + lineCount ss + 1) (textAfter ss) =
      some ((done ++ ss).map Section.tree) := by
  induction ss generalizing done path with
  | nil =>
      rw [List.append_nil]
      rfl
  | cons s ss ih =>
      have hname : s.name ∉ done.map (·.name) := by
        rw [List.map_append, List.map_cons, List.nodup_append] at hnodup
        exact fun hmem => hnodup.2.2 _ hmem _ (by simp) rfl
      have hfuel : fuel + lineCount (s :: ss) + 1 =
          fuel + lineCount ss + 1 + s.entries.length + 1 := by
        rw [lineCount_cons]
        omega
      have hnext := ih (done ++ [s]) (fun s hs => h s (by simp [hs])) (by rwa [List.append_assoc])
        [s.name]
      rw [List.append_assoc] at hnext
      rw [textAfter_cons, readLines_empty, hfuel, readLines_section (h s (by simp)) hname]
      exact hnext

/-! ### Whole documents -/

theorem toList_settings {es : List (String × Toml)} (hkeys : ∀ e ∈ es, Bare e.1) :
    (settings es).toList = es.flatMap entryText := by
  rw [settings, String.toList_join, List.flatMap_map]
  refine List.flatMap_congr fun e he => ?_
  simp [entryText, (hkeys e he).keyText]

/-- The text of sections is that of the first one, and those of the others after an empty line. -/
theorem toList_sectionsText {s : Section} {ss : List Section} (h : ∀ t ∈ s :: ss, t.ReadsBack) :
    (sectionsText (s :: ss)).toList = s.text ++ textAfter ss := by
  have hsection {t : Section} (ht : t.ReadsBack) :
      ("[" ++ keyText t.name ++ "]\n" ++ settings t.entries).toList = t.text := by
    simp [Section.text, ht.name.keyText, toList_settings ht.keys]
  induction ss generalizing s with
  | nil =>
      rw [← hsection (h s (by simp)), textAfter, List.flatMap_nil, List.append_nil]
      rfl
  | cons t ss ih =>
      have hnext := ih fun u hu => h u (List.mem_cons_of_mem s hu)
      have hfirst := hsection (h s (by simp))
      have hlines : sectionsText (s :: t :: ss) =
          "[" ++ keyText s.name ++ "]\n" ++ settings s.entries ++ "\n" ++ sectionsText (t :: ss) :=
        String.intercalate_cons_cons
      rw [hlines, String.toList_append, String.toList_append, hfirst, hnext, textAfter_cons]
      simp

theorem length_le_entries (es : List (String × Toml)) :
    es.length ≤ (es.flatMap entryText).length := by
  induction es with
  | nil => exact Nat.le_refl _
  | cons e es ih =>
      rw [List.flatMap_cons, List.length_append, List.length_cons, entryText, List.length_append,
        List.length_cons]
      omega

/-- There are no more lines than characters, not counting the empty ones. -/
theorem lineCount_le_length (ss : List Section) :
    lineCount ss + ss.length ≤ (textAfter ss).length := by
  induction ss with
  | nil => exact Nat.le_refl _
  | cons s ss ih =>
      have hsection : s.entries.length + 1 ≤ s.text.length := by
        have hentries := length_le_entries s.entries
        rw [Section.text, List.length_cons, List.length_append, List.length_cons, List.length_cons]
        omega
      rw [lineCount_cons, textAfter_cons, List.length_cons, List.length_cons, List.length_append]
      omega

/-- **A document comes back from the text of its sections.** -/
theorem ofText?_sectionsText (ss : List Section) (h : ∀ s ∈ ss, s.ReadsBack)
    (hnodup : (ss.map (·.name)).Nodup) : ofText? (sectionsText ss) = some (ofSections ss) := by
  cases ss with
  | nil => rfl
  | cons s ss =>
      have htext := toList_sectionsText h
      have hafter : textAfter (s :: ss) = '\n' :: (sectionsText (s :: ss)).toList := by
        rw [textAfter_cons, htext]
      have hlines := lineCount_le_length (s :: ss)
      rw [hafter, List.length_cons, List.length_cons] at hlines
      obtain ⟨fuel, hfuel⟩ : ∃ fuel, (sectionsText (s :: ss)).toList.length + 1 =
          fuel + lineCount (s :: ss) + 1 :=
        ⟨(sectionsText (s :: ss)).toList.length - lineCount (s :: ss), by omega⟩
      have hread := readLines_sections (s :: ss) [] h hnodup [] fuel
      rw [hafter, ← hfuel, readLines_empty] at hread
      have hmark : ∀ rest, (sectionsText (s :: ss)).toList ≠ '\uFEFF' :: rest := by
        intro rest hmark
        exact absurd (List.cons.inj (htext.symm.trans hmark)).1 (by decide)
      rw [ofText?]
      split
      · rename_i heq
        exact absurd heq (hmark _)
      · rw [show readLines ⟨[], []⟩ _ _ = _ from hread, Option.map_some, List.nil_append,
          closeEntries_trees]

end TunnelMesh.Toml
