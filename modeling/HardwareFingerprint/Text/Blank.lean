/-!
# Blank characters and trimming

The blank characters are those with the Unicode property `White_Space`. Trimming removes the
longest blank run at each end of a text and leaves the inside alone. The lemmas say what trimming
does to a text that already starts and ends with a visible character, as a trimmed text does.
-/
namespace HardwareFingerprint.Text

set_option autoImplicit false

/-- The first and last code point of each range of blank characters. -/
def blankRanges : List (Nat × Nat) :=
  [(0x09, 0x0d), (0x20, 0x20), (0x85, 0x85), (0xa0, 0xa0), (0x1680, 0x1680), (0x2000, 0x200a),
   (0x2028, 0x2029), (0x202f, 0x202f), (0x205f, 0x205f), (0x3000, 0x3000)]

/-- A character with the property `White_Space`. -/
def isBlank (c : Char) : Bool :=
  blankRanges.any fun r => r.1 ≤ c.toNat && c.toNat ≤ r.2

/-- The characters without the blank runs at both ends. -/
def trimChars (cs : List Char) : List Char :=
  ((cs.dropWhile isBlank).reverse.dropWhile isBlank).reverse

/-- The text without the blank runs at both ends. -/
def trim (s : String) : String :=
  String.ofList (trimChars s.toList)

/-- A text with no visible character. -/
def isAllBlank (s : String) : Bool :=
  s.toList.all isBlank

@[simp] theorem toList_trim (s : String) : (trim s).toList = trimChars s.toList := by
  simp [trim]

/-- No digit is blank. -/
theorem not_isDigit_of_isBlank {c : Char} (h : isBlank c = true) : c.isDigit = false := by
  cases hd : c.isDigit with
  | false => rfl
  | true =>
    rw [Char.isDigit, Bool.and_eq_true, decide_eq_true_eq, decide_eq_true_eq] at hd
    have hlow : 48 ≤ c.toNat := hd.1
    have hhigh : c.toNat ≤ 57 := hd.2
    simp only [isBlank, blankRanges, List.any_cons, List.any_nil, Bool.or_false, Bool.or_eq_true,
      Bool.and_eq_true, decide_eq_true_eq] at h
    omega

/-- A blank text trims to nothing. -/
theorem trimChars_of_all_blank {cs : List Char} (h : ∀ c ∈ cs, isBlank c = true) :
    trimChars cs = [] := by
  have hd : cs.dropWhile isBlank = [] := by
    induction cs with
    | nil => rfl
    | cons c cs ih => simp [h c (by simp), ih fun d hd => h d (by simp [hd])]
  simp [trimChars, hd]

/-- A text that starts and ends with a visible character is its own trimmed form. -/
theorem trimChars_of_visible_ends {cs : List Char}
    (hhead : ∀ c ∈ cs.head?, isBlank c = false) (hlast : ∀ c ∈ cs.getLast?, isBlank c = false) :
    trimChars cs = cs := by
  have drop_self : ∀ {l : List Char}, (∀ c ∈ l.head?, isBlank c = false) →
      l.dropWhile isBlank = l := by
    intro l h
    cases l with
    | nil => rfl
    | cons c r => simp [h c (by simp)]
  rw [trimChars, drop_self hhead, drop_self, List.reverse_reverse]
  simpa using hlast

theorem isBlank_of_mem_head?_dropWhile {cs : List Char} {c : Char}
    (h : c ∈ (cs.dropWhile isBlank).head?) : isBlank c = false := by
  have hnot := List.head?_dropWhile_not isBlank cs
  rwa [Option.mem_def.mp h] at hnot

/-- A trimmed text starts and ends with a visible character, if it is not empty. -/
theorem visible_ends_trimChars (cs : List Char) :
    (∀ c ∈ (trimChars cs).head?, isBlank c = false) ∧
      ∀ c ∈ (trimChars cs).getLast?, isBlank c = false := by
  constructor
  · intro c hc
    -- What is left of the text after its second cut is a prefix of what was left after the first.
    obtain ⟨rest, hrest⟩ := List.dropWhile_suffix isBlank (l := (cs.dropWhile isBlank).reverse)
    have hprefix : trimChars cs ++ rest.reverse = cs.dropWhile isBlank := by
      rw [trimChars, ← List.reverse_append, hrest, List.reverse_reverse]
    have hhead : c ∈ (cs.dropWhile isBlank).head? := by
      rw [← hprefix, List.head?_append, Option.mem_def.mp hc]
      rfl
    exact isBlank_of_mem_head?_dropWhile hhead
  · intro c hc
    rw [trimChars, List.getLast?_reverse] at hc
    exact isBlank_of_mem_head?_dropWhile hc

/-- Only blanks are lost. -/
theorem mem_trimChars {c : Char} {cs : List Char} (h : c ∈ cs) (hc : isBlank c = false) :
    c ∈ trimChars cs := by
  have mem_dropWhile : ∀ {l : List Char}, c ∈ l → c ∈ l.dropWhile isBlank := by
    intro l hl
    rw [← List.takeWhile_append_dropWhile (p := isBlank) (l := l)] at hl
    rcases List.mem_append.mp hl with hl | hl
    · have hblank := List.all_eq_true.mp List.all_takeWhile c hl
      rw [hc] at hblank
      cases hblank
    · exact hl
  rw [trimChars, List.mem_reverse]
  exact mem_dropWhile (List.mem_reverse.mpr (mem_dropWhile h))

theorem mem_of_mem_trimChars {c : Char} {cs : List Char} (h : c ∈ trimChars cs) : c ∈ cs := by
  rw [trimChars, List.mem_reverse] at h
  have hrest := (List.dropWhile_suffix isBlank).mem h
  exact (List.dropWhile_suffix isBlank).mem (List.mem_reverse.mp hrest)

theorem trimChars_trimChars (cs : List Char) : trimChars (trimChars cs) = trimChars cs := by
  obtain ⟨hhead, hlast⟩ := visible_ends_trimChars cs
  exact trimChars_of_visible_ends hhead hlast

theorem trim_trim (s : String) : trim (trim s) = trim s := by
  rw [trim, toList_trim, trimChars_trimChars, trim]

end HardwareFingerprint.Text
