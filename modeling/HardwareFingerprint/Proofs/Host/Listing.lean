import HardwareFingerprint.Host.Mac
import Mathlib.Logic.Basic

/-!
# Adapter listings read back

A table of adapters is written as a listing, one row a line, with a quote at each end of a field and
a comma between two fields. A line is read without all the quotes at its two ends, so an empty field
there takes the mark beside it apart. A row without a transport name is then read with the rest of
that mark in its address, and a row without a connection name as one of another name. A listing is
read as its table where no such row is reached.
-/
namespace HardwareFingerprint.Mac

set_option autoImplicit false

/-- A row of a table of adapters. -/
structure Row where
  name : List Char
  adapter : List Char
  address : List Char
  transport : List Char
  plain : ∀ field ∈ [name, adapter, address, transport], '"' ∉ field ∧ '\n' ∉ field

/-- How a line ends. -/
inductive Ending where
  | lineFeed
  | returnLineFeed

def Ending.text : Ending → List Char
  | lineFeed => ['\n']
  | returnLineFeed => ['\r', '\n']

namespace Row

/-- A row as it is written. -/
def text (r : Row) : List Char :=
  '"' :: (r.name ++ (fieldMark ++ (r.adapter ++ (fieldMark ++ (r.address ++
    (fieldMark ++ (r.transport ++ ['"'])))))))

/-- The row is of the connection. -/
def IsOf (connection : List Char) (r : Row) : Prop :=
  Text.sameIgnoringCase r.name connection = true

/-- The row is of the connection and has an address. -/
structure Lists (connection : List Char) (r : Row) : Prop where
  isOf : r.IsOf connection
  visible : Text.trimChars r.address ≠ []
  available : Text.sameIgnoringCase (Text.trimChars r.address) "N/A".toList = false

instance (connection : List Char) (r : Row) : Decidable (r.Lists connection) :=
  decidable_of_iff (Text.sameIgnoringCase r.name connection = true ∧
      Text.trimChars r.address ≠ [] ∧
      Text.sameIgnoringCase (Text.trimChars r.address) "N/A".toList = false)
    ⟨fun h => ⟨h.1, h.2.1, h.2.2⟩, fun h => ⟨h.isOf, h.visible, h.available⟩⟩

/-- The address that the row has for the connection. -/
def address? (connection : List Char) (r : Row) : Option (List Char) :=
  if r.Lists connection then some (Text.trimChars r.address) else none

/-- The row is taken for something else when the connection is looked for: it has no transport name,
or only the comma of a lone adapter is left of its first two fields. -/
inductive Misread (connection : List Char) (r : Row) : Prop
  | unended : r.IsOf connection → r.transport = [] → Misread connection r
  | shifted : connection = [','] → r.name = [] → r.adapter = [','] → Misread connection r

end Row

/-- The listing of a table. -/
def listing (table : List (Row × Ending)) : List Char :=
  table.flatMap fun line => line.1.text ++ line.2.text

/-- The address that the first row to list one has for the connection. -/
def tableAddress? (table : List (Row × Ending)) (connection : String) : Option String :=
  ((table.map Prod.fst).findSome? (Row.address? connection.toList)).map String.ofList

instance (connection : List Char) (r : Row) : Decidable (r.Misread connection) :=
  decidable_of_iff ((Text.sameIgnoringCase r.name connection = true ∧ r.transport = []) ∨
      (connection = [','] ∧ r.name = [] ∧ r.adapter = [',']))
    ⟨fun h => h.elim (fun h => .unended h.1 h.2) fun h => .shifted h.1 h.2.1 h.2.2, fun h => by
      cases h with
      | unended hof htransport => exact .inl ⟨hof, htransport⟩
      | shifted hlone hname hadapter => exact .inr ⟨hlone, hname, hadapter⟩⟩

/-- Every row that is misread comes after one that lists an address for the connection. -/
def Reliable (connection : List Char) (rows : List Row) : Prop :=
  ∀ before r after, rows = before ++ r :: after → r.Misread connection →
    ∃ r' ∈ before, r'.Lists connection

/-! ## Fields of a row -/

theorem sameIgnoringCase_of_lone {c : Char} (hc : ¬ ('a' ≤ c ∧ c ≤ 'z'))
    (hself : Text.lowerChar c = c) {cs : List Char} (h : Text.sameIgnoringCase [c] cs = true) : cs = [c] := by
  have hmap : cs.map Text.lowerChar = [c] := by
    have hsame := beq_iff_eq.mp h
    rw [List.map_singleton, hself] at hsame
    exact hsame.symm
  obtain ⟨d, rest, rfl, hd, hrest⟩ := List.map_eq_cons_iff.mp hmap
  rw [Text.eq_of_lowerChar_eq hc hd, List.map_eq_nil_iff.mp hrest]

theorem not_sameIgnoringCase_of_quoted {cs connection : List Char} (hcs : '"' ∈ cs)
    (hconnection : '"' ∉ connection) : Text.sameIgnoringCase cs connection = false := by
  apply Bool.eq_false_iff.mpr
  intro h
  have hquote : '"' ∈ connection.map Text.lowerChar := by
    rw [← beq_iff_eq.mp h]
    exact List.mem_map.mpr ⟨'"', hcs, by decide⟩
  obtain ⟨d, hd, hlower⟩ := List.mem_map.mp hquote
  rw [Text.eq_of_lowerChar_eq (by decide) hlower] at hd
  exact hconnection hd

theorem splitOnMark_field {field : List Char} (h : '"' ∉ field) (rest : List Char) :
    Text.splitOnMark fieldMark 0 (field ++ (fieldMark ++ rest)) =
      field :: Text.splitOnMark fieldMark 0 rest := by
  have hmark : Text.splitOnMark fieldMark 0 (fieldMark ++ rest) =
      [] :: Text.splitOnMark fieldMark 0 rest := Text.splitOnMark_mark '"' [',', '"'] rest
  rw [fieldMark, Text.splitOnMark_append h, ← fieldMark, hmark, List.modifyHead_cons,
    List.append_nil]

/-- A field at the end. -/
theorem splitOnMark_last {field : List Char} (h : '"' ∉ field) :
    Text.splitOnMark fieldMark 0 field = [field] := by
  have hend : Text.splitOnMark fieldMark 0 (field ++ []) = [field ++ []] :=
    Text.splitOnMark_append h [',', '"'] []
  rwa [List.append_nil] at hend

/-- The rest of a mark at the end belongs to the field before it. -/
theorem splitOnMark_cut {field : List Char} (h : '"' ∉ field) :
    Text.splitOnMark fieldMark 0 (field ++ ['"', ',']) = [field ++ ['"', ',']] :=
  Text.splitOnMark_append h [',', '"'] ['"', ',']

namespace Row

variable {connection : List Char} (r : Row)

theorem not_mem_quote : '"' ∉ r.name ∧ '"' ∉ r.adapter ∧ '"' ∉ r.address ∧ '"' ∉ r.transport :=
  ⟨(r.plain _ (by simp)).1, (r.plain _ (by simp)).1, (r.plain _ (by simp)).1,
    (r.plain _ (by simp)).1⟩

theorem getLast?_text : r.text.getLast? = some '"' := by
  simp only [text, ← List.append_assoc, ← List.cons_append, List.getLast?_concat]

theorem trimChars_text : Text.trimChars r.text = r.text := by
  apply Text.trimChars_of_visible_ends
  · rintro c ⟨⟩
    decide
  · rw [getLast?_text]
    rintro c ⟨⟩
    decide

/-- What is left of the address and the transport name at the end of a line. -/
def ending : List Char :=
  if r.transport = [] then r.address ++ ['"', ','] else r.address ++ (fieldMark ++ r.transport)

theorem exists_getLast?_ending : ∃ c, r.ending.getLast? = some c ∧ c ≠ '"' := by
  rw [ending]
  split
  · exact ⟨',', by simp, by decide⟩
  · next h =>
    obtain ⟨_, _, _, htransport⟩ := r.not_mem_quote
    refine ⟨r.transport.getLast h, ?_, ?_⟩
    · rw [← List.append_assoc, List.getLast?_append, List.getLast?_eq_some_getLast h, Option.some_or]
    · rintro hquote
      exact htransport (hquote ▸ List.getLast_mem h)

/-- The quotes at the end of a line are taken off. -/
theorem exists_quotes : ∃ quotes, (∀ c ∈ quotes, c = '"') ∧
    r.address ++ (fieldMark ++ (r.transport ++ ['"'])) = r.ending ++ quotes := by
  rw [ending]
  split
  · next h =>
    refine ⟨['"', '"'], by simp, ?_⟩
    rw [h, List.append_assoc]
    rfl
  · exact ⟨['"'], by simp, by simp only [List.append_assoc]⟩

/-- What the fields are made of, once the start of a line is without its quotes. -/
theorem fields_text {quotes start : List Char} {c : Char} (hquotes : ∀ x ∈ quotes, x = '"')
    (hc : c ≠ '"') (hstart : '"' :: (r.name ++ fieldMark) = quotes ++ c :: start) :
    fields r.text =
      Text.splitOnMark fieldMark 0 (c :: start ++ (r.adapter ++ (fieldMark ++ r.ending))) := by
  obtain ⟨quotes', hquotes', hend⟩ := r.exists_quotes
  have htext : r.text = quotes ++
      ((c :: start ++ (r.adapter ++ (fieldMark ++ r.ending))) ++ quotes') := by
    have hfront : r.text = '"' :: (r.name ++ fieldMark) ++
        (r.adapter ++ (fieldMark ++ (r.address ++ (fieldMark ++ (r.transport ++ ['"']))))) := by
      simp only [text, List.append_assoc, List.cons_append]
    rw [hfront, hstart, hend]
    simp only [List.append_assoc, List.cons_append]
  have hlast : (c :: start ++ (r.adapter ++ (fieldMark ++ r.ending))).getLast? ≠ some '"' := by
    obtain ⟨d, hd, hne⟩ := r.exists_getLast?_ending
    rw [← List.append_assoc, ← List.append_assoc, List.getLast?_append, hd, Option.some_or]
    simpa using hne
  rw [fields, trimChars_text, htext,
    Text.stripChar_append hquotes (by simp) (by simpa using hc) hlast hquotes']

theorem splitOnMark_ending : Text.splitOnMark fieldMark 0 r.ending =
    if r.transport = [] then [r.address ++ ['"', ',']] else [r.address, r.transport] := by
  obtain ⟨_, _, haddress, htransport⟩ := r.not_mem_quote
  rw [ending]
  split
  · exact splitOnMark_cut haddress
  · rw [splitOnMark_field haddress, splitOnMark_last htransport]

theorem fields_of_name (h : r.name ≠ []) : fields r.text = r.name :: r.adapter ::
    if r.transport = [] then [r.address ++ ['"', ',']] else [r.address, r.transport] := by
  obtain ⟨hname, hadapter, _, _⟩ := r.not_mem_quote
  obtain ⟨c, rest, hcs⟩ := List.exists_cons_of_ne_nil h
  have hc : c ≠ '"' := by
    rintro rfl
    rw [hcs] at hname
    exact hname List.mem_cons_self
  have hstart : '"' :: (r.name ++ fieldMark) = ['"'] ++ c :: (rest ++ fieldMark) := by
    rw [hcs]
    rfl
  rw [r.fields_text (by simp) hc hstart, ← List.cons_append, ← hcs, List.append_assoc,
    splitOnMark_field hname, splitOnMark_field hadapter, splitOnMark_ending]

/-- Without a name, the first field starts with the comma after it, and has the quote of the mark
after the comma, unless this quote is taken for the start of another mark. -/
theorem fields_of_no_name (h : r.name = []) : ∃ first rest, fields r.text = first :: rest ∧
    ('"' ∈ first ∨ first = [','] ∧ r.adapter = [',']) := by
  have hadapter := r.not_mem_quote.2.1
  have hstart : '"' :: (r.name ++ fieldMark) = ['"', '"'] ++ ',' :: ['"'] := by
    rw [h]
    rfl
  rw [r.fields_text (by simp) (by decide) hstart]
  by_cases hcomma : r.adapter = [',']
  · rw [hcomma]
    exact ⟨[','], _, rfl, .inr ⟨rfl, rfl⟩⟩
  · -- The quote is not the start of another mark, since more than a comma follows it in its field.
    have hafter : Text.after? fieldMark ('"' :: (r.adapter ++ (fieldMark ++ r.ending))) = none := by
      match hcs : r.adapter with
      | [] => rfl
      | [c] =>
        have hc : ',' ≠ c := by
          rintro rfl
          exact hcomma hcs
        simp [Text.after?, fieldMark, hc]
      | c :: d :: cs =>
        have hd : '"' ≠ d := by
          rintro rfl
          rw [hcs] at hadapter
          simp at hadapter
        simp [Text.after?, fieldMark, hd]
    have hsplit : Text.splitOnMark fieldMark 0
        (',' :: '"' :: (r.adapter ++ (fieldMark ++ r.ending))) =
        ((Text.splitOnMark fieldMark 0 (r.adapter ++ (fieldMark ++ r.ending))).modifyHead
          ('"' :: ·)).modifyHead (',' :: ·) := by
      rw [Text.splitOnMark_cons rfl, Text.splitOnMark_cons hafter]
    change ∃ first rest, Text.splitOnMark fieldMark 0
      (',' :: '"' :: (r.adapter ++ (fieldMark ++ r.ending))) = first :: rest ∧ _
    rw [hsplit]
    cases hparts : Text.splitOnMark fieldMark 0 (r.adapter ++ (fieldMark ++ r.ending)) with
    | nil => exact absurd hparts (Text.splitOnMark_ne_nil _ _ _)
    | cons part parts => exact ⟨',' :: '"' :: part, parts, rfl, .inl (by simp)⟩

/-! ## Addresses of a row -/

variable {connection : List Char}

theorem rowAddress?_of_not_named {line first : List Char} {rest : List (List Char)}
    (hfields : fields line = first :: rest)
    (hnamed : Text.sameIgnoringCase first connection = false) :
    rowAddress? connection line = none := by
  rw [rowAddress?, hfields]
  split
  · next name _ address _ h =>
    obtain ⟨rfl, _⟩ := List.cons.inj h
    simp [hnamed]
  · rfl

theorem address?_of_not_isOf {r : Row} (h : ¬ r.IsOf connection) : r.address? connection = none :=
  if_neg fun hlists => h hlists.isOf

/-- A row that is not misread is read as it was written. -/
theorem rowAddress?_text {r : Row} (hne : connection ≠ []) (hquote : '"' ∉ connection)
    (h : ¬ r.Misread connection) : rowAddress? connection r.text = r.address? connection := by
  by_cases hname : r.name = []
  · obtain ⟨first, rest, hfields, hfirst⟩ := r.fields_of_no_name hname
    have hnamed : Text.sameIgnoringCase first connection = false := by
      rcases hfirst with hfirst | ⟨rfl, hadapter⟩
      · exact not_sameIgnoringCase_of_quoted hfirst hquote
      · apply Bool.eq_false_iff.mpr
        intro hsame
        exact h (.shifted (sameIgnoringCase_of_lone (by decide) (by decide) hsame) hname hadapter)
    have hother : ¬ r.IsOf connection := by
      intro hsame
      rw [IsOf, hname, Text.sameIgnoringCase, beq_iff_eq] at hsame
      exact hne (List.map_eq_nil_iff.mp hsame.symm)
    rw [rowAddress?_of_not_named hfields hnamed, address?_of_not_isOf hother]
  · have hfields := r.fields_of_name hname
    by_cases hof : r.IsOf connection
    · have htransport : r.transport ≠ [] := fun hempty => h (.unended hof hempty)
      rw [if_neg htransport] at hfields
      rw [rowAddress?, hfields]
      refine if_congr ⟨?_, ?_⟩ rfl rfl
      · rintro ⟨hsame, hvisible, havailable⟩
        exact ⟨hsame, by simpa using hvisible, Bool.eq_false_iff.mpr havailable⟩
      · rintro ⟨hsame, hvisible, havailable⟩
        exact ⟨hsame, by simpa using hvisible, Bool.eq_false_iff.mp havailable⟩
    · rw [rowAddress?_of_not_named hfields (Bool.eq_false_iff.mpr hof), address?_of_not_isOf hof]

/-- Without a transport name, the rest of a mark is taken for a part of the address. -/
theorem rowAddress?_of_no_transport {r : Row} (hne : connection ≠ []) (hof : r.IsOf connection)
    (htransport : r.transport = []) :
    rowAddress? connection r.text = some (Text.trimChars (r.address ++ ['"', ','])) := by
  have hname : r.name ≠ [] := by
    intro hname
    rw [IsOf, hname, Text.sameIgnoringCase, beq_iff_eq] at hof
    exact hne (List.map_eq_nil_iff.mp hof.symm)
  have hfields := r.fields_of_name hname
  rw [if_pos htransport] at hfields
  have hquote : '"' ∈ Text.trimChars (r.address ++ ['"', ',']) :=
    Text.mem_trimChars (by simp) (by decide)
  have havailable := not_sameIgnoringCase_of_quoted hquote (show '"' ∉ ['N', '/', 'A'] by decide)
  rw [rowAddress?, hfields]
  refine if_pos ⟨hof, ?_, Bool.eq_false_iff.mp havailable⟩
  simpa using List.ne_nil_of_mem hquote

end Row

/-! ## Lines of a listing -/

theorem Row.not_mem_lineFeed (r : Row) : '\n' ∉ r.text := by
  obtain ⟨hname, hadapter, haddress, htransport⟩ :
      '\n' ∉ r.name ∧ '\n' ∉ r.adapter ∧ '\n' ∉ r.address ∧ '\n' ∉ r.transport :=
    ⟨(r.plain _ (by simp)).2, (r.plain _ (by simp)).2, (r.plain _ (by simp)).2,
      (r.plain _ (by simp)).2⟩
  simp [text, fieldMark, hname, hadapter, haddress, htransport]

/-- A line without its line feed. -/
def rawLine : Row × Ending → List Char
  | (r, .lineFeed) => r.text
  | (r, .returnLineFeed) => r.text ++ ['\r']

theorem splitAt_listing (table : List (Row × Ending)) :
    Text.splitAt '\n' (listing table) = table.map rawLine ++ [[]] := by
  induction table with
  | nil => rfl
  | cons line table ih =>
    obtain ⟨r, ending⟩ := line
    have hraw : '\n' ∉ rawLine (r, ending) := by
      cases ending with
      | lineFeed => exact r.not_mem_lineFeed
      | returnLineFeed => simp [rawLine, r.not_mem_lineFeed]
    have hline : listing ((r, ending) :: table) = rawLine (r, ending) ++ '\n' :: listing table := by
      cases ending <;> simp [listing, rawLine, Ending.text]
    rw [hline, Text.splitAt_append_cons, Text.splitAt_of_not_mem hraw, ih]
    rfl

theorem dropReturn_rawLine (line : Row × Ending) : Text.dropReturn (rawLine line) = line.1.text := by
  obtain ⟨r, ending⟩ := line
  cases ending with
  | lineFeed => rw [rawLine, Text.dropReturn, r.getLast?_text, if_neg (by decide)]
  | returnLineFeed =>
    rw [rawLine, Text.dropReturn, List.getLast?_concat, if_pos rfl, List.dropLast_concat]

theorem lines_listing (table : List (Row × Ending)) :
    Text.lines (listing table) = table.map fun line => line.1.text := by
  simp only [Text.lines, splitAt_listing, List.dropLast_concat, List.getLastD_concat,
    List.isEmpty_nil, if_true, List.append_nil, List.map_map]
  exact List.map_congr_left fun line _ => dropReturn_rawLine line

/-! ## Tables -/

section Table

variable {connection : List Char}

theorem reliable_nil : Reliable connection [] := by
  intro before r after h
  simp at h

theorem reliable_cons_iff {r : Row} {rows : List Row} :
    Reliable connection (r :: rows) ↔
      ¬ r.Misread connection ∧ (r.Lists connection ∨ Reliable connection rows) := by
  constructor
  · intro h
    have hfirst : ¬ r.Misread connection := by
      intro hmisread
      obtain ⟨r', hr', _⟩ := h [] r rows rfl hmisread
      cases hr'
    refine ⟨hfirst, Classical.or_iff_not_imp_left.mpr fun hlists => ?_⟩
    intro before r' after hrows hmisread
    obtain ⟨r'', hmem, hlists'⟩ := h (r :: before) r' after (by rw [hrows]; rfl) hmisread
    rcases List.mem_cons.mp hmem with rfl | hmem
    · exact absurd hlists' hlists
    · exact ⟨r'', hmem, hlists'⟩
  · rintro ⟨hfirst, hrest⟩ before r' after hrows hmisread
    cases before with
    | nil =>
      obtain ⟨rfl, _⟩ := List.cons.inj hrows
      exact absurd hmisread hfirst
    | cons b before =>
      obtain ⟨rfl, htail⟩ := List.cons.inj hrows
      rcases hrest with hlists | hrest
      · exact ⟨r, List.mem_cons_self, hlists⟩
      · obtain ⟨r'', hmem, hlists⟩ := hrest before r' after htail hmisread
        exact ⟨r'', List.mem_cons_of_mem r hmem, hlists⟩

/-- What is listed has no quotes. -/
theorem not_mem_quote_of_findSome? {rows : List Row} {a : List Char}
    (h : rows.findSome? (Row.address? connection) = some a) : '"' ∉ a := by
  obtain ⟨r, _, hr⟩ := List.exists_of_findSome?_eq_some h
  rw [Row.address?, Option.ite_none_right_eq_some] at hr
  obtain ⟨_, hr⟩ := hr
  obtain ⟨_, _, haddress, _⟩ := r.not_mem_quote
  rw [← Option.some.inj hr]
  exact fun hquote => haddress (Text.mem_of_mem_trimChars hquote)

/-- Rows are read as they were written, up to the one that decides. -/
theorem Reliable.findSome?_eq {rows : List Row} (hne : connection ≠ []) (hquote : '"' ∉ connection)
    (h : Reliable connection rows) :
    rows.findSome? (fun r => rowAddress? connection r.text) =
      rows.findSome? (Row.address? connection) := by
  induction rows with
  | nil => rfl
  | cons r rows ih =>
    obtain ⟨hr, hrest⟩ := reliable_cons_iff.mp h
    rw [List.findSome?_cons, List.findSome?_cons, Row.rowAddress?_text hne hquote hr]
    rcases hrest with hlists | hrest
    · rw [Row.address?, if_pos hlists]
    · rw [ih hrest]

/-- The address that is read of a row without a transport name is in no table. -/
theorem reliable_of_findSome?_eq {rows : List Row} (hne : connection ≠ [])
    (hquote : '"' ∉ connection) (hcomma : connection ≠ [','])
    (h : rows.findSome? (fun r => rowAddress? connection r.text) =
      rows.findSome? (Row.address? connection)) : Reliable connection rows := by
  induction rows with
  | nil => exact reliable_nil
  | cons r rows ih =>
    by_cases hr : r.Misread connection
    · cases hr with
      | shifted hlone _ _ => exact absurd hlone hcomma
      | unended hof htransport =>
        rw [List.findSome?_cons, Row.rowAddress?_of_no_transport hne hof htransport] at h
        have hmem : '"' ∈ Text.trimChars (r.address ++ ['"', ',']) :=
          Text.mem_trimChars (by simp) (by decide)
        exact absurd hmem (not_mem_quote_of_findSome? h.symm)
    · rw [List.findSome?_cons, List.findSome?_cons, Row.rowAddress?_text hne hquote hr] at h
      refine reliable_cons_iff.mpr ⟨hr, ?_⟩
      by_cases hlists : r.Lists connection
      · exact .inl hlists
      · rw [Row.address?, if_neg hlists] at h
        exact .inr (ih h)

end Table

theorem listedAddress?_listing (table : List (Row × Ending)) (connection : String) :
    listedAddress? (String.ofList (listing table)) connection =
      ((table.map Prod.fst).findSome? fun r => rowAddress? connection.toList r.text).map
        String.ofList := by
  rw [listedAddress?, String.toList_ofList, lines_listing, List.findSome?_map, List.findSome?_map]
  rfl

/-- In a listing, the address of a connection is read as the table has it, if every row that is
misread comes after one that lists the address. Unless a lone comma is looked for, it is read so in
no other listing. -/
theorem listing_restored {connection : String} (hne : connection ≠ "")
    (hquote : '"' ∉ connection.toList) (table : List (Row × Ending)) :
    (Reliable connection.toList (table.map Prod.fst) →
      listedAddress? (String.ofList (listing table)) connection = tableAddress? table connection) ∧
    (connection ≠ "," →
      listedAddress? (String.ofList (listing table)) connection = tableAddress? table connection →
      Reliable connection.toList (table.map Prod.fst)) := by
  have hnil : connection.toList ≠ [] := mt String.toList_eq_nil_iff.mp hne
  constructor
  · intro h
    rw [listedAddress?_listing, h.findSome?_eq hnil hquote, tableAddress?]
  · intro hcomma h
    have hlone : connection.toList ≠ [','] := by
      intro hlone
      exact hcomma (String.toList_inj.mp hlone)
    rw [listedAddress?_listing, tableAddress?] at h
    exact reliable_of_findSome?_eq hnil hquote hlone
      (Option.map_injective (fun _ _ => String.ofList_injective) h)

/-- Three rows of one connection: one without an address, one without an adapter, and one without a
transport name, which is not reached. -/
def duplicated : List (Row × Ending) :=
  [(⟨"Ethernet".toList, "Hyper-V, Virtual".toList, " n/a".toList, "Tcpip".toList, by decide⟩,
      .returnLineFeed),
    (⟨"ETHERNET".toList, [], " 0A-1B".toList, [','], by decide⟩, .lineFeed),
    (⟨"ethernet".toList, [','], "FF-FF".toList, [], by decide⟩, .returnLineFeed)]

theorem duplicated_restored :
    "Ethernet" ≠ "" ∧ '"' ∉ "Ethernet".toList ∧
      Reliable "Ethernet".toList (duplicated.map Prod.fst) ∧
      tableAddress? duplicated "Ethernet" = some "0A-1B" ∧
      listedAddress? (String.ofList (listing duplicated)) "Ethernet" =
        tableAddress? duplicated "Ethernet" := by
  have hne : "Ethernet" ≠ "" := by decide
  have hquote : '"' ∉ "Ethernet".toList := by decide
  have hreliable : Reliable "Ethernet".toList (duplicated.map Prod.fst) :=
    reliable_cons_iff.mpr ⟨by decide, .inr (reliable_cons_iff.mpr ⟨by decide, .inl (by decide)⟩)⟩
  exact ⟨hne, hquote, hreliable, by decide +kernel,
    (listing_restored hne hquote duplicated).1 hreliable⟩

/-- A row that ends with an empty field. -/
def unended : List (Row × Ending) :=
  [(⟨"Ethernet".toList, "Adapter".toList, "0A-1B-2C-3D-4E-5F".toList, [], by decide⟩,
    .returnLineFeed)]

/-- A row that starts with an empty field and a lone comma. -/
def shifted : List (Row × Ending) :=
  [(⟨[], [','], "0A-1B-2C-3D-4E-5F".toList, "Tcpip".toList, by decide⟩, .returnLineFeed)]

/-- A part of a mark is left in the address, and the second and fourth field are taken for the first
and third. -/
theorem emptyField_misread :
    (tableAddress? unended "Ethernet" = some "0A-1B-2C-3D-4E-5F" ∧
      listedAddress? (String.ofList (listing unended)) "Ethernet" =
        some "0A-1B-2C-3D-4E-5F\",") ∧
    tableAddress? shifted "," = none ∧
      listedAddress? (String.ofList (listing shifted)) "," = some "Tcpip" := by
  decide +kernel

end HardwareFingerprint.Mac
