import ParityGames.Text.Blank
import ParityGames.Text.Decimal
import Mathlib

/-!
# Texts as lists of characters

The readers cut, trim and split their input with the string library.  This
module says what each of those operations does to the list of characters of a
text, and proves the facts a reader needs to take back what a writer wrote:

* trimming a text whose ends are not blank leaves it as it is;
* splitting at a separator undoes joining with it;
* splitting at blanks gives back the non-empty words that were joined with
  single spaces;
* a decimal numeral of a number that fits in 64 bits reads back as the number.
-/

namespace ParityGames

namespace Text

/-! ## Dropping characters at the ends -/

/-- A list cut into a prefix of characters that pass a test and a rest that
does not start with one loses exactly the prefix. -/
theorem dropWhile_of_append {p : Char → Bool} {l a b : List Char} (split : a ++ b = l)
    (all : a.all p = true) (stop : b.head?.any p = false) : l.dropWhile p = b := by
  subst split
  rw [List.dropWhile_append, List.dropWhile_eq_nil_iff.2 (by simpa using all)]
  cases b with
  | nil => rfl
  | cons c rest => simp_all

/-- The mirror of `dropWhile_of_append`, for characters dropped at the end. -/
theorem dropLastWhile_of_append {p : Char → Bool} {l a b : List Char} (split : a ++ b = l)
    (all : b.all p = true) (stop : a.getLast?.any p = false) :
    (l.reverse.dropWhile p).reverse = a := by
  apply List.reverse_injective
  rw [List.reverse_reverse]
  apply dropWhile_of_append (a := b.reverse)
  · rw [← split, List.reverse_append]
  · simpa using all
  · simpa [List.head?_reverse] using stop

theorem toList_dropWhile (s : String) (p : Char → Bool) :
    (s.dropWhile p).copy.toList = s.toList.dropWhile p := by
  symm
  apply dropWhile_of_append (a := (s.takeWhile p).copy.toList)
  · rw [← String.toList_append, String.takeWhile_append_dropWhile]
  · rw [← String.Slice.all_bool_eq]
    exact String.Slice.all_takeWhile
  · rw [← String.Slice.startsWith_bool_eq_head?, ← String.dropWhile_toSlice]
    exact String.Slice.startsWith_dropWhile

theorem toList_dropEndWhile (t : String.Slice) (p : Char → Bool) :
    (t.dropEndWhile p).copy.toList = (t.copy.toList.reverse.dropWhile p).reverse := by
  symm
  apply dropLastWhile_of_append (b := (t.takeEndWhile p).copy.toList)
  · rw [← String.toList_append, String.Slice.dropEndWhile_append_takeEndWhile]
  · rw [← String.Slice.revAll_bool_eq]
    exact String.Slice.revAll_takeEndWhile
  · rw [← String.Slice.endsWith_bool_eq_getLast?]
    exact String.Slice.endsWith_dropEndWhile

/-- Trimming drops the blanks at the front and then those at the back. -/
theorem toList_trimBlanks (s : String) :
    (trimBlanks s).toList = ((s.toList.dropWhile isBlank).reverse.dropWhile isBlank).reverse := by
  simp only [trimBlanks, String.Slice.toString_eq, toList_dropEndWhile, toList_dropWhile]

/-- A text that neither starts nor ends with a blank is its own trimming. -/
theorem trimBlanks_of_ends {s : String} (first : s.toList.head?.any isBlank = false)
    (last : s.toList.getLast?.any isBlank = false) : trimBlanks s = s := by
  apply String.toList_injective
  have front : s.toList.dropWhile isBlank = s.toList := dropWhile_of_append (a := []) rfl rfl first
  rw [toList_trimBlanks, front]
  exact dropLastWhile_of_append (b := []) (List.append_nil _) rfl last

/-- Trimming a text that is a blank and then a core with no blank at its ends
gives the core. -/
theorem toList_trimBlanks_of_blank_cons {s : String} {core : List Char} (chars : s.toList = ' ' :: core)
    (first : core.head?.any isBlank = false) (last : core.getLast?.any isBlank = false) :
    (trimBlanks s).toList = core := by
  have front : core.dropWhile isBlank = core := dropWhile_of_append (a := []) rfl rfl first
  rw [toList_trimBlanks, chars, List.dropWhile_cons_of_pos (by decide), front]
  exact dropLastWhile_of_append (b := []) (List.append_nil _) rfl last

/-- A text with no blank at all is its own trimming. -/
theorem trimBlanks_of_solid {s : String} (solid : ∀ c ∈ s.toList, isBlank c = false) :
    trimBlanks s = s := by
  apply trimBlanks_of_ends
  · cases first : s.toList.head? with
    | none => rfl
    | some c => exact solid c (List.mem_of_mem_head? first)
  · cases last : s.toList.getLast? with
    | none => rfl
    | some c => exact solid c (List.mem_of_getLast? last)

/-- A text ends with a one-character text exactly when its list ends with
that character. -/
theorem endsWith_iff_getLast? {s t : String} {c : Char} (single : t.toList = [c]) :
    s.endsWith t = true ↔ s.toList.getLast? = some c := by
  obtain rfl : t = String.singleton c := String.toList_injective (by simpa using single)
  simp [← String.endsWith_toSlice, List.singleton_suffix_iff_getLast?_eq_some]

/-- A text without its last character. -/
theorem toList_dropEnd_one (s : String) :
    (s.dropEnd 1).toString.toList = s.toList.dropLast := by
  simp [List.dropLast_eq_take]

/-! ## Splitting at a separator -/

/-- Splitting at a separator undoes joining with it, as long as no piece
holds the separator. -/
theorem splitChar_intercalate {sep : Char} {joint : String} (single : joint.toList = [sep])
    {ws : List String} (clean : ∀ w ∈ ws, sep ∉ w.toList) (nonempty : ws ≠ []) :
    splitChar sep (joint.intercalate ws) = ws := by
  rw [splitChar, String.toList_intercalate, single, List.splitOn_intercalate sep
    (by simpa using clean) (by simpa using nonempty), List.map_map]
  conv => rhs; rw [← List.map_id ws]
  exact List.map_congr_left fun w _ => String.ofList_toList

/-- Lines each closed by a terminator, as one list: the lines joined with it,
then an empty last piece. -/
theorem flatMap_terminated {α : Type} (t : α) (ls : List (List α)) :
    ls.flatMap (· ++ [t]) = [t].intercalate (ls ++ [[]]) := by
  induction ls with
  | nil => rfl
  | cons l ls ih =>
    rw [List.flatMap_cons, ih, List.cons_append]
    cases ls with
    | nil => simp
    | cons l' ls => simp [List.intercalate_cons_cons]

/-- Splitting a text of terminated lines at the terminator gives the lines and
an empty piece after the last one. -/
theorem splitChar_terminated {sep : Char} {term : String} (single : term.toList = [sep])
    {ls : List String} (clean : ∀ l ∈ ls, sep ∉ l.toList) :
    splitChar sep (String.join (ls.map (· ++ term))) = ls ++ [""] := by
  have chars : (String.join (ls.map (· ++ term))).toList =
      [sep].intercalate (ls.map String.toList ++ [[]]) := by
    rw [← flatMap_terminated, String.toList_join, List.flatMap_map, List.flatMap_map]
    simp [single]
  have cleanLists : ∀ l ∈ ls.map String.toList ++ [[]], sep ∉ l := by
    simp only [List.mem_append, List.mem_map, List.mem_singleton]
    rintro l (⟨w, mem, rfl⟩ | rfl)
    exacts [clean w mem, List.not_mem_nil]
  rw [splitChar, chars, List.splitOn_intercalate sep cleanLists (by simp)]
  simp [Function.comp_def]

/-- A character of a joined list is a separator character or a character of
one of the pieces. -/
theorem mem_intercalate {c : Char} {sep : List Char} {ls : List (List Char)}
    (mem : c ∈ sep.intercalate ls) : c ∈ sep ∨ ∃ l ∈ ls, c ∈ l := by
  induction ls with
  | nil => simp at mem
  | cons l ls ih =>
    cases ls with
    | nil => exact .inr ⟨l, List.mem_cons_self, by simpa using mem⟩
    | cons l' ls =>
      rw [List.intercalate_cons_cons, List.mem_append, List.mem_append] at mem
      rcases mem with (inL | inSep) | inRest
      · exact .inr ⟨l, List.mem_cons_self, inL⟩
      · exact .inl inSep
      · rcases ih inRest with inSep | ⟨w, inWords, inW⟩
        · exact .inl inSep
        · exact .inr ⟨w, List.mem_cons_of_mem l inWords, inW⟩

/-- The first occurrence of a character after a prefix without it. -/
theorem idxOf?_append_of_not_mem {a : Char} {xs ys : List Char} (absent : a ∉ xs) :
    (xs ++ ys).idxOf? a = (ys.idxOf? a).map (· + xs.length) := by
  induction xs with
  | nil => simp
  | cons x xs ih =>
    simp only [List.mem_cons, not_or] at absent
    rw [List.cons_append, List.idxOf?_cons, if_neg (by simpa using Ne.symm absent.1), ih absent.2]
    simp [Option.map_map, Function.comp_def, Nat.add_assoc]

/-! ## Splitting at blanks -/

/-- The state of `fields` after its pending word. -/
def flushWord (cur : List Char) (acc : List String) : List String :=
  if cur.isEmpty then acc else String.ofList cur.reverse :: acc

/-- A word without blanks is collected into the pending word. -/
theorem fields_go_word {w : List Char} (solid : ∀ c ∈ w, isBlank c = false) (rest cur : List Char)
    (acc : List String) : fields.go (w ++ rest) cur acc = fields.go rest (w.reverse ++ cur) acc := by
  induction w generalizing cur with
  | nil => rfl
  | cons c w ih =>
    have solidC : isBlank c = false := solid c List.mem_cons_self
    rw [List.cons_append, fields.go, if_neg (by simp [solidC]),
      ih (fun d mem => solid d (List.mem_cons_of_mem c mem))]
    simp

/-- A space ends the pending word. -/
theorem fields_go_space (rest cur : List Char) (acc : List String) :
    fields.go (' ' :: rest) cur acc = fields.go rest [] (flushWord cur acc) := by
  rw [fields.go, if_pos isBlank_space]
  rfl

theorem fields_go_nil (cur : List Char) (acc : List String) :
    fields.go [] cur acc = (flushWord cur acc).reverse := by
  rw [fields.go]
  rfl

/-- Words without blanks joined by single spaces split back into the
non-empty ones among them. -/
theorem fields_go_intercalate {ws : List (List Char)} (solid : ∀ w ∈ ws, ∀ c ∈ w, isBlank c = false)
    (acc : List String) :
    fields.go ([' '].intercalate ws) [] acc =
      acc.reverse ++ (ws.filter (· ≠ [])).map String.ofList := by
  induction ws generalizing acc with
  | nil => simp [fields_go_nil, flushWord]
  | cons w ws ih =>
    have solidW := solid w List.mem_cons_self
    have solidRest := fun v mem => solid v (List.mem_cons_of_mem w mem)
    cases ws with
    | nil =>
      rw [List.intercalate_singleton, ← List.append_nil w, fields_go_word solidW, fields_go_nil]
      cases w with
      | nil => simp [flushWord]
      | cons c w => simp [flushWord]
    | cons v ws =>
      rw [List.intercalate_cons_cons, List.append_assoc, fields_go_word solidW, List.singleton_append,
        fields_go_space, ih solidRest]
      cases w with
      | nil => simp [flushWord]
      | cons c w => simp [flushWord]

theorem fields_intercalate {ws : List (List Char)} (solid : ∀ w ∈ ws, ∀ c ∈ w, isBlank c = false) :
    fields (String.ofList ([' '].intercalate ws)) = (ws.filter (· ≠ [])).map String.ofList := by
  rw [fields, String.toList_ofList, fields_go_intercalate solid]
  rfl

/-! ## Decimal numerals -/

/-- No decimal digit is blank. -/
theorem isBlank_of_isDigit {c : Char} (digit : c.isDigit = true) : isBlank c = false := by
  simp only [Char.isDigit, Bool.and_eq_true, decide_eq_true_eq] at digit
  have low : 48 ≤ c.toNat := digit.1
  have high : c.toNat ≤ 57 := digit.2
  simp only [isBlank, Bool.or_eq_false_iff, Bool.and_eq_false_imp, decide_eq_true_eq,
    beq_eq_false_iff_ne, decide_eq_false_iff_not]
  omega

theorem isDigit_of_mem_toString {n : Nat} {c : Char} (mem : c ∈ (toString n).toList) :
    c.isDigit = true := by
  rw [Nat.toString_eq_repr, Nat.toList_repr] at mem
  exact Nat.isDigit_of_mem_toDigits (by decide) (by decide) mem

/-- The characters of a numeral are digits, hence neither blanks nor
punctuation. -/
theorem ne_of_mem_toString {n : Nat} {c d : Char} (mem : c ∈ (toString n).toList)
    (other : d.isDigit = false) : c ≠ d := by
  rintro rfl
  rw [isDigit_of_mem_toString mem] at other
  contradiction

theorem toString_ne_nil (n : Nat) : (toString n).toList ≠ [] := by
  rw [Nat.toString_eq_repr, Nat.toList_repr]
  exact Nat.toDigits_ne_nil

/-- A numeral followed by anything starts with a digit, so not with a blank. -/
theorem head?_toString_append (n : Nat) (rest : List Char) :
    ((toString n).toList ++ rest).head?.any isBlank = false := by
  obtain ⟨c, cs, chars⟩ := List.exists_cons_of_ne_nil (toString_ne_nil n)
  have digit : c.isDigit = true := isDigit_of_mem_toString (chars ▸ List.mem_cons_self)
  rw [chars, List.cons_append, List.head?_cons, Option.any_some]
  exact isBlank_of_isDigit digit

/-- The characters of an integer's numeral: digits and a minus sign. -/
theorem mem_intToString {z : Int} {c : Char} (mem : c ∈ (toString z).toList) :
    c.isDigit = true ∨ c = '-' := by
  rw [Int.toString_eq_repr, Int.repr_eq_if] at mem
  split at mem
  · exact .inl (isDigit_of_mem_toString (by simpa using mem))
  · simp only [String.toList_append, List.mem_append] at mem
    rcases mem with sign | digits
    · exact .inr (by simpa using sign)
    · exact .inl (isDigit_of_mem_toString (by simpa using digits))

theorem intToString_ne_nil (z : Int) : (toString z).toList ≠ [] := by
  rw [Int.toString_eq_repr, Int.repr_eq_if]
  split <;> simp

theorem digitsValue_toDigits (n : Nat) : digitsValue (Nat.toDigits 10 n) = some n := by
  have digits : (Nat.toDigits 10 n).all Char.isDigit = true :=
    List.all_eq_true.2 fun _ mem => Nat.isDigit_of_mem_toDigits (by decide) (by decide) mem
  have value : (Nat.toDigits 10 n).foldl (fun m c => m * 10 + (c.toNat - 48)) 0 = n := by
    calc (Nat.toDigits 10 n).foldl (fun m c => m * 10 + (c.toNat - 48)) 0
        = Nat.ofDigitChars 10 (Nat.toDigits 10 n) 0 := by
          rw [Nat.ofDigitChars_eq_foldl]
          congr 1
          funext m c
          rw [Nat.mul_comm]
          rfl
      _ = n := Nat.ofDigitChars_ten_toDigits
  rw [digitsValue, if_neg (by simp [digits, Nat.toDigits_ne_nil]), value]

/-- A numeral of a number that fits in 64 signed bits reads back as it. -/
theorem parseInt?_toString {n : Nat} (fits : (n : Int) ≤ int64Max) :
    parseInt? (toString n) = some (n : Int) := by
  obtain ⟨c, rest, chars⟩ := List.exists_cons_of_ne_nil (toString_ne_nil n)
  have first : c ∈ (toString n).toList := chars ▸ List.mem_cons_self
  have plus : c ≠ '+' := ne_of_mem_toString first rfl
  have minus : c ≠ '-' := ne_of_mem_toString first rfl
  have digits : digitsValue (toString n).toList = some n := by
    rw [Nat.toString_eq_repr, Nat.toList_repr]
    exact digitsValue_toDigits n
  have inRange : fitsInt64 (n : Int) = true := by
    simp only [fitsInt64, Bool.and_eq_true]
    exact ⟨decide_eq_true (by unfold int64Min; omega), decide_eq_true fits⟩
  unfold parseInt?
  rw [chars]
  split
  next neg unsigned sign =>
    -- the numeral starts with a digit, so it carries no sign
    split at sign
    · exact absurd (List.head_eq_of_cons_eq ‹_›) plus
    · exact absurd (List.head_eq_of_cons_eq ‹_›) minus
    · obtain ⟨rfl, rfl⟩ := Prod.mk.inj sign
      rw [← chars, digits]
      simp [inRange]

end Text

end ParityGames
