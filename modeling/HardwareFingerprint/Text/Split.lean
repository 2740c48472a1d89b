/-!
# Cutting a text into parts

Parts between separators, lines and parts between places of a text, over lists of characters. A
text always has at least one part. A line ends with a line feed, and a carriage return right before
it belongs to the ending; a last line without a line feed counts if it is not empty. A place is
given by the bytes before it, and there is no place inside a character.
-/
namespace HardwareFingerprint.Text

set_option autoImplicit false

/-- The parts of a text between the occurrences of one separating character. -/
def splitAt (sep : Char) : List Char → List (List Char)
  | [] => [[]]
  | c :: cs =>
    if c = sep then [] :: splitAt sep cs
    else match splitAt sep cs with
      | [] => [[c]]
      | part :: parts => (c :: part) :: parts

/-- What follows `mark` in a text that starts with it. -/
def after? : List Char → List Char → Option (List Char)
  | [], cs => some cs
  | _ :: _, [] => none
  | m :: ms, c :: cs => if m = c then after? ms cs else none

/-- The text before the last occurrence of a mark, and the text after it. -/
def splitLast? (mark : List Char) : List Char → Option (List Char × List Char)
  | [] => (after? mark []).map ([], ·)
  | c :: cs =>
    match splitLast? mark cs with
    | some (before, rest) => some (c :: before, rest)
    | none => (after? mark (c :: cs)).map ([], ·)

/-- The parts of a text between the occurrences of a nonempty separator, taken from the left
without overlap. `skip` counts the separator characters still to pass. -/
def splitOnMark (mark : List Char) : Nat → List Char → List (List Char)
  | _, [] => [[]]
  | skip + 1, _ :: cs => splitOnMark mark skip cs
  | 0, c :: cs =>
    if (after? mark (c :: cs)).isSome then [] :: splitOnMark mark (mark.length - 1) cs
    else match splitOnMark mark 0 cs with
      | [] => [[c]]
      | part :: parts => (c :: part) :: parts

/-- A line without the carriage return of its ending. -/
def dropReturn (line : List Char) : List Char :=
  if line.getLast? = some '\r' then line.dropLast else line

/-- The lines of a text. A carriage return at the end of the text is kept when no line feed
follows it. -/
def lines (cs : List Char) : List (List Char) :=
  let parts := splitAt '\n' cs
  let last := parts.getLastD []
  parts.dropLast.map dropReturn ++ (if last.isEmpty then [] else [last])

/-- The text without the run of `c` at either end. -/
def stripChar (c : Char) (cs : List Char) : List Char :=
  ((cs.dropWhile (· == c)).reverse.dropWhile (· == c)).reverse

/-- The text before a place and the text after it. -/
def cutAt? : Nat → List Char → Option (List Char × List Char)
  | 0, cs => some ([], cs)
  | _ + 1, [] => none
  | n + 1, c :: cs =>
    if c.utf8Size ≤ n + 1 then
      (cutAt? (n + 1 - c.utf8Size) cs).map fun (before, after) => (c :: before, after)
    else none

/-- The text from one place to another. -/
def between? (start stop : Nat) (cs : List Char) : Option (List Char) := do
  let (_, rest) ← cutAt? start cs
  let (part, _) ← cutAt? (stop - start) rest
  pure part

/-- The text from a place on. -/
def from? (start : Nat) (cs : List Char) : Option (List Char) :=
  (cutAt? start cs).map Prod.snd

/-- The parts joined by a separator. -/
def joinChars (sep : List Char) : List (List Char) → List Char
  | [] => []
  | [part] => part
  | part :: parts => part ++ sep ++ joinChars sep parts

/-- Characters of one byte can be cut at every place. -/
theorem cutAt?_of_utf8Size {cs : List Char} (h : ∀ c ∈ cs, c.utf8Size = 1) {n : Nat}
    (hn : n ≤ cs.length) : cutAt? n cs = some (cs.take n, cs.drop n) := by
  induction cs generalizing n with
  | nil =>
    rw [Nat.le_zero.mp hn]
    rfl
  | cons c cs ih =>
    obtain ⟨hc, hcs⟩ := List.forall_mem_cons.mp h
    cases n with
    | zero => rfl
    | succ n =>
      rw [cutAt?, hc, if_pos (Nat.le_add_left 1 n), Nat.add_sub_cancel,
        ih hcs (Nat.le_of_succ_le_succ hn)]
      rfl

theorem between?_of_utf8Size {cs : List Char} (h : ∀ c ∈ cs, c.utf8Size = 1) {start stop : Nat}
    (hstart : start ≤ stop) (hstop : stop ≤ cs.length) :
    between? start stop cs = some ((cs.drop start).take (stop - start)) := by
  have hrest : stop - start ≤ (cs.drop start).length := by
    rw [List.length_drop]
    omega
  have hsize : ∀ c ∈ cs.drop start, c.utf8Size = 1 := fun c hc => h c (List.mem_of_mem_drop hc)
  rw [between?, cutAt?_of_utf8Size h (Nat.le_trans hstart hstop)]
  simp only [Option.bind_eq_bind, Option.bind_some, cutAt?_of_utf8Size hsize hrest,
    Option.pure_def]

theorem splitAt_ne_nil (sep : Char) (cs : List Char) : splitAt sep cs ≠ [] := by
  induction cs with
  | nil => simp [splitAt]
  | cons c cs ih => by_cases h : c = sep <;> simp [splitAt, h]; split <;> simp

/-- Joining the parts with the separator gives back the text. -/
theorem joinChars_splitAt (sep : Char) (cs : List Char) :
    joinChars [sep] (splitAt sep cs) = cs := by
  induction cs with
  | nil => rfl
  | cons c cs ih =>
    by_cases h : c = sep
    · subst h
      cases hp : splitAt c cs with
      | nil => exact absurd hp (splitAt_ne_nil c cs)
      | cons part parts => rw [hp] at ih; simp [splitAt, hp, joinChars, ih]
    · cases hp : splitAt sep cs with
      | nil => exact absurd hp (splitAt_ne_nil sep cs)
      | cons part parts =>
        rw [hp] at ih
        cases parts <;> simp_all [splitAt, joinChars]

theorem not_mem_of_mem_splitAt {sep : Char} {cs part : List Char} (h : part ∈ splitAt sep cs) :
    sep ∉ part := by
  induction cs generalizing part with
  | nil =>
    rw [splitAt, List.mem_singleton] at h
    simp [h]
  | cons c cs ih =>
    rw [splitAt] at h
    by_cases hc : c = sep
    · rw [if_pos hc] at h
      rcases List.mem_cons.mp h with rfl | h
      · simp
      · exact ih h
    · rw [if_neg hc] at h
      cases hp : splitAt sep cs with
      | nil => exact absurd hp (splitAt_ne_nil sep cs)
      | cons first rest =>
        rw [hp] at h ih
        rcases List.mem_cons.mp h with rfl | h
        · intro hm
          rcases List.mem_cons.mp hm with he | hm
          · exact hc he.symm
          · exact ih List.mem_cons_self hm
        · exact ih (List.mem_cons_of_mem first h)

theorem length_splitAt (sep : Char) (cs : List Char) :
    (splitAt sep cs).length = cs.count sep + 1 := by
  induction cs with
  | nil => rfl
  | cons c cs ih =>
    rw [splitAt, List.count_cons]
    by_cases h : c = sep
    · rw [if_pos h, List.length_cons, ih, if_pos (beq_iff_eq.mpr h)]
    · rw [if_neg h, if_neg (mt beq_iff_eq.mp h), ← ih]
      cases hp : splitAt sep cs with
      | nil => exact absurd hp (splitAt_ne_nil sep cs)
      | cons part parts => rfl

theorem splitAt_of_not_mem {sep : Char} {cs : List Char} (h : sep ∉ cs) :
    splitAt sep cs = [cs] := by
  induction cs with
  | nil => rfl
  | cons c cs ih =>
    have hc : c ≠ sep := fun he => h (he ▸ List.mem_cons_self)
    rw [splitAt, if_neg hc, ih fun hm => h (List.mem_cons_of_mem c hm)]

/-- Without a separator in it, what is added to a text is added to its last part. -/
theorem splitAt_append (sep : Char) (cs : List Char) :
    ∃ parts last, splitAt sep cs = parts ++ [last] ∧
      ∀ suffix, sep ∉ suffix → splitAt sep (cs ++ suffix) = parts ++ [last ++ suffix] := by
  induction cs with
  | nil => exact ⟨[], [], rfl, fun suffix h => splitAt_of_not_mem h⟩
  | cons c cs ih =>
    obtain ⟨parts, last, hparts, hsuffix⟩ := ih
    by_cases h : c = sep
    · refine ⟨[] :: parts, last, by rw [splitAt, if_pos h, hparts]; rfl, fun suffix hs => ?_⟩
      rw [List.cons_append, splitAt, if_pos h, hsuffix suffix hs]
      rfl
    · cases parts with
      | nil =>
        refine ⟨[], c :: last, by rw [splitAt, if_neg h, hparts]; rfl, fun suffix hs => ?_⟩
        rw [List.cons_append, splitAt, if_neg h, hsuffix suffix hs]
        rfl
      | cons part parts =>
        refine ⟨(c :: part) :: parts, last, by rw [splitAt, if_neg h, hparts]; rfl, ?_⟩
        intro suffix hs
        rw [List.cons_append, splitAt, if_neg h, hsuffix suffix hs]
        rfl

/-- The parts before a separator and those after it. -/
theorem splitAt_append_cons (sep : Char) (cs rest : List Char) :
    splitAt sep (cs ++ sep :: rest) = splitAt sep cs ++ splitAt sep rest := by
  induction cs with
  | nil => simp [splitAt]
  | cons c cs ih =>
    rw [List.cons_append, splitAt, splitAt, ih]
    by_cases h : c = sep
    · rw [if_pos h, if_pos h]; rfl
    · rw [if_neg h, if_neg h]
      cases hp : splitAt sep cs with
      | nil => exact absurd hp (splitAt_ne_nil sep cs)
      | cons part parts => rfl

theorem after?_append (mark cs : List Char) : after? mark (mark ++ cs) = some cs := by
  induction mark with
  | nil => cases cs <;> rfl
  | cons m mark ih => rw [List.cons_append, after?, if_pos rfl, ih]

theorem splitOnMark_ne_nil (mark : List Char) (skip : Nat) (cs : List Char) :
    splitOnMark mark skip cs ≠ [] := by
  induction cs generalizing skip with
  | nil => cases skip <;> exact List.cons_ne_nil _ _
  | cons c cs ih =>
    cases skip with
    | succ skip => exact ih skip
    | zero =>
      rw [splitOnMark]
      split
      · exact List.cons_ne_nil _ _
      · split <;> exact List.cons_ne_nil _ _

/-- What is still to be passed leaves no trace. -/
theorem splitOnMark_skip (mark passed cs : List Char) :
    splitOnMark mark passed.length (passed ++ cs) = splitOnMark mark 0 cs := by
  induction passed with
  | nil => rfl
  | cons c passed ih => rw [List.cons_append, List.length_cons, splitOnMark, ih]

/-- A separator ends a part. -/
theorem splitOnMark_mark (m : Char) (ms cs : List Char) :
    splitOnMark (m :: ms) 0 (m :: (ms ++ cs)) = [] :: splitOnMark (m :: ms) 0 cs := by
  have hafter : after? (m :: ms) (m :: (ms ++ cs)) = some cs := after?_append (m :: ms) cs
  rw [splitOnMark, hafter, if_pos Option.isSome_some, List.length_cons, Nat.add_sub_cancel,
    splitOnMark_skip]

/-- A character at which the separator is not found goes to the first part. -/
theorem splitOnMark_cons {mark : List Char} {c : Char} {cs : List Char}
    (h : after? mark (c :: cs) = none) :
    splitOnMark mark 0 (c :: cs) = (splitOnMark mark 0 cs).modifyHead (c :: ·) := by
  rw [splitOnMark, h, if_neg (by decide)]
  cases hp : splitOnMark mark 0 cs with
  | nil => exact absurd hp (splitOnMark_ne_nil mark 0 cs)
  | cons part parts => rfl

/-- Without the separator's first character in it, a text goes to the first part. -/
theorem splitOnMark_append {m : Char} {text : List Char} (h : m ∉ text) (ms cs : List Char) :
    splitOnMark (m :: ms) 0 (text ++ cs) =
      (splitOnMark (m :: ms) 0 cs).modifyHead (text ++ ·) := by
  induction text with
  | nil =>
    cases hp : splitOnMark (m :: ms) 0 cs with
    | nil => exact absurd hp (splitOnMark_ne_nil (m :: ms) 0 cs)
    | cons part parts => rw [List.nil_append, hp]; rfl
  | cons c text ih =>
    obtain ⟨hc, htext⟩ := not_or.mp (mt List.mem_cons.mpr h)
    have hafter : after? (m :: ms) (c :: (text ++ cs)) = none := by rw [after?, if_neg hc]
    rw [List.cons_append, splitOnMark_cons hafter, ih htext, List.modifyHead_modifyHead]
    rfl

/-- Runs of the character around a text that neither starts nor ends with it. -/
theorem stripChar_append {c : Char} {front cs back : List Char} (hfront : ∀ x ∈ front, x = c)
    (hne : cs ≠ []) (hhead : cs.head? ≠ some c) (hlast : cs.getLast? ≠ some c)
    (hback : ∀ x ∈ back, x = c) : stripChar c (front ++ (cs ++ back)) = cs := by
  have drop_self : ∀ {l rest : List Char}, l ≠ [] → l.head? ≠ some c →
      (l ++ rest).dropWhile (· == c) = l ++ rest := by
    intro l rest hl hc
    cases l with
    | nil => exact absurd rfl hl
    | cons x l =>
      rw [List.cons_append, List.dropWhile_cons_of_neg]
      simpa using hc
  have hstart : (front ++ (cs ++ back)).dropWhile (· == c) = cs ++ back := by
    rw [List.dropWhile_append_of_pos (by simpa using hfront), drop_self hne hhead]
  have hend : (back.reverse ++ cs.reverse).dropWhile (· == c) = cs.reverse := by
    have hcs := @drop_self cs.reverse [] (by simpa using hne) (by simpa using hlast)
    rw [List.append_nil] at hcs
    rw [List.dropWhile_append_of_pos (by simpa using hback), hcs]
  rw [stripChar, hstart, List.reverse_append, hend, List.reverse_reverse]

end HardwareFingerprint.Text
