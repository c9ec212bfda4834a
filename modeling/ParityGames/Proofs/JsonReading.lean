import ParityGames.Json.Parse
import ParityGames.Proofs.TextLists
import ParityGames.Proofs.QuotedLabels

/-!
# Reading written JSON

`Json.readFirst_encodeIndented` says that the reader of the first value of a
text gives back every value that the indenting encoder wrote, as long as its
numbers are integers: strings and keys with any characters, arrays and
objects of any length and depth.

The reader is fuelled.  It spends a unit of fuel on each value it enters and
on each element and member it reads, and the text has a character for each of
them, so a fuel above the length of the text is enough.  The proofs follow the
printer: one lemma for a value, one for the elements of an array and one for
the members of an object, by recursion on the value.  A number is read as long
as digits follow, so what comes after a value must not continue one
(`Delimits`); in indented text a value is always followed by a comma, a blank
or a closing bracket.
-/

namespace ParityGames

namespace Json

/-- The values whose numbers are the decimal numerals of integers. -/
inductive Integral : Json → Prop
  | null : Integral .null
  | bool (b : Bool) : Integral (.bool b)
  | num (z : Int) : Integral (.num (toString z))
  | str (s : String) : Integral (.str s)
  | arr {items : List Json} : (∀ x ∈ items, Integral x) → Integral (.arr items)
  | obj {members : List (String × Json)} : (∀ m ∈ members, Integral m.2) → Integral (.obj members)

/-- What may follow a value in a text: nothing, a blank, a comma or a closing
bracket.  None of them continues a number. -/
def Delimits : List Char → Prop
  | [] => True
  | c :: _ => isBlank c = true ∨ c = ',' ∨ c = ']' ∨ c = '}'

/-! ## Blanks -/

theorem skipBlanks_cons_blank {c : Char} (blank : isBlank c = true) (cs : List Char) :
    skipBlanks (c :: cs) = skipBlanks cs := by
  simp [skipBlanks, blank]

theorem skipBlanks_cons_solid {c : Char} (solid : isBlank c = false) (cs : List Char) :
    skipBlanks (c :: cs) = c :: cs := by
  simp [skipBlanks, solid]

theorem skipBlanks_append_blanks {bs : List Char} (blank : ∀ c ∈ bs, isBlank c = true)
    (cs : List Char) : skipBlanks (bs ++ cs) = skipBlanks cs :=
  List.dropWhile_append_of_pos blank

theorem skipBlanks_skipBlanks (cs : List Char) : skipBlanks (skipBlanks cs) = skipBlanks cs := by
  induction cs with
  | nil => rfl
  | cons c cs ih =>
    cases blank : isBlank c with
    | true => rw [skipBlanks_cons_blank blank, ih]
    | false => rw [skipBlanks_cons_solid blank, skipBlanks_cons_solid blank]

theorem blank_of_mem_pad {level : Nat} {c : Char} (mem : c ∈ (pad level).toList) :
    isBlank c = true := by
  simp only [pad, String.toList_ofList, List.mem_replicate] at mem
  rw [mem.2]
  rfl

theorem length_pad (level : Nat) : (pad level).toList.length = 2 * level := by
  simp [pad]

theorem blank_of_mem_newline_pad {level : Nat} {c : Char} (mem : c ∈ '\n' :: (pad level).toList) :
    isBlank c = true := by
  rcases List.mem_cons.1 mem with rfl | mem
  · rfl
  · exact blank_of_mem_pad mem

theorem Delimits.of_blank {c : Char} (blank : isBlank c = true) (cs : List Char) :
    Delimits (c :: cs) :=
  .inl blank

/-- What may follow a value is no digit, no decimal point and no exponent mark. -/
theorem Delimits.stops {rest : List Char} (delimits : Delimits rest) :
    ∀ c ∈ rest.head?, c.isDigit = false ∧ c ≠ '.' ∧ c ≠ 'e' ∧ c ≠ 'E' := by
  intro c mem
  cases rest with
  | nil => cases mem
  | cons d rest =>
    obtain rfl : d = c := Option.some.inj mem
    rcases delimits with blank | rfl | rfl | rfl
    · simp only [isBlank, Bool.or_eq_true, beq_iff_eq] at blank
      rcases blank with ((rfl | rfl) | rfl) | rfl <;> decide
    all_goals decide

/-! ## What a reader does after blanks -/

theorem readValue_skipBlanks (fuel : Nat) (cs : List Char) :
    readValue fuel (skipBlanks cs) = readValue fuel cs := by
  cases fuel with
  | zero => simp only [readValue]
  | succ fuel => simp only [readValue, skipBlanks_skipBlanks]

theorem readValue_blanks {bs : List Char} (blank : ∀ c ∈ bs, isBlank c = true) (fuel : Nat)
    (cs : List Char) : readValue fuel (bs ++ cs) = readValue fuel cs := by
  rw [← readValue_skipBlanks, skipBlanks_append_blanks blank, readValue_skipBlanks]

theorem readElements_skipBlanks (fuel : Nat) (cs : List Char) (acc : List Json) :
    readElements fuel (skipBlanks cs) acc = readElements fuel cs acc := by
  cases fuel with
  | zero => simp only [readElements]
  | succ fuel => simp only [readElements, readValue_skipBlanks]

theorem readMembers_skipBlanks (fuel : Nat) (cs : List Char) (acc : List (String × Json)) :
    readMembers fuel (skipBlanks cs) acc = readMembers fuel cs acc := by
  cases fuel with
  | zero => simp only [readMembers]
  | succ fuel => simp only [readMembers, skipBlanks_skipBlanks]

/-- An array whose first element starts after blanks is read element by element. -/
theorem readArray_of_head {cs rest : List Char} {c : Char} (first : skipBlanks cs = c :: rest)
    (open_ : c ≠ ']') (fuel : Nat) : readArray (fuel + 1) cs = readElements fuel cs [] := by
  rw [readArray, first, ← readElements_skipBlanks fuel cs, first]
  split
  · next closing => exact absurd (List.head_eq_of_cons_eq closing) open_
  · rfl

/-- An object whose first key starts after blanks is read member by member. -/
theorem readObject_of_head {cs rest : List Char} {c : Char} (first : skipBlanks cs = c :: rest)
    (open_ : c ≠ '}') (fuel : Nat) : readObject (fuel + 1) cs = readMembers fuel cs [] := by
  rw [readObject, first, ← readMembers_skipBlanks fuel cs, first]
  split
  · next closing => exact absurd (List.head_eq_of_cons_eq closing) open_
  · rfl

/-! ## Literals and numbers -/

theorem readWord_go (word : String) (w rest : List Char) :
    readWord.go word w (w ++ rest) = .ok ((), rest) := by
  induction w with
  | nil => simp only [List.nil_append, readWord.go]
  | cons c w ih => simp only [List.cons_append, readWord.go, beq_self_eq_true, if_true, ih]

/-- Digits followed by something that is no digit are read whole. -/
theorem readDigits_append {ds rest : List Char} (digits : ∀ c ∈ ds, c.isDigit = true)
    (stop : ∀ c ∈ rest.head?, c.isDigit = false) : readDigits (ds ++ rest) = (ds, rest) := by
  have none : rest.takeWhile Char.isDigit = [] := by
    cases rest with
    | nil => rfl
    | cons c rest => simp [stop c rfl]
  have all : rest.dropWhile Char.isDigit = rest := by
    cases rest with
    | nil => rfl
    | cons c rest => simp [stop c rfl]
  simp only [readDigits, List.takeWhile_append_of_pos digits, none, List.append_nil,
    List.dropWhile_append_of_pos digits, all]

theorem readFraction_of_delimits {rest : List Char} (delimits : Delimits rest) :
    readFraction rest = .ok ([], rest) := by
  cases rest with
  | nil => rfl
  | cons c rest => simp [readFraction, (delimits.stops c rfl).2.1]

theorem readExponent_of_delimits {rest : List Char} (delimits : Delimits rest) :
    readExponent rest = .ok ([], rest) := by
  cases rest with
  | nil => rfl
  | cons c rest =>
    obtain ⟨-, -, small, large⟩ := delimits.stops c rfl
    simp [readExponent, small, large]

/-- The numeral of a positive number does not start with `0`. -/
theorem toDigits_head {n : Nat} (pos : 0 < n) :
    ∃ d ds, Nat.toDigits 10 n = d :: ds ∧ d ≠ '0' := by
  induction n using Nat.strong_induction_on with
  | _ n ih =>
    by_cases single : n < 10
    · have digit : ∀ k < 10, 0 < k → k.digitChar ≠ '0' := by decide
      exact ⟨_, [], Nat.toDigits_of_lt_base single, digit n single pos⟩
    · have split : Nat.toDigits 10 (n / 10) ++ Nat.toDigits 10 (n % 10) = Nat.toDigits 10 n := by
        rw [Nat.toDigits_append_toDigits (by decide) (by omega) (Nat.mod_lt _ (by decide)),
          Nat.div_add_mod]
      obtain ⟨d, ds, lead, nonzero⟩ := ih (n / 10) (by omega) (by omega)
      exact ⟨d, ds ++ Nat.toDigits 10 (n % 10), by rw [← split, lead, List.cons_append], nonzero⟩

theorem readIntPart_toString (n : Nat) {rest : List Char} (delimits : Delimits rest) :
    readIntPart ((toString n).toList ++ rest) = .ok ((toString n).toList, rest) := by
  rw [Nat.toString_eq_repr, Nat.toList_repr]
  rcases Nat.eq_zero_or_pos n with rfl | pos
  · rfl
  · obtain ⟨d, ds, lead, nonzero⟩ := toDigits_head pos
    have digits : ∀ c ∈ Nat.toDigits 10 n, c.isDigit = true :=
      fun _ mem => Nat.isDigit_of_mem_toDigits (by decide) (by decide) mem
    have digit : d.isDigit = true := digits d (by rw [lead]; exact List.mem_cons_self)
    rw [lead, List.cons_append]
    simp only [readIntPart, digit, if_true]
    rw [← List.cons_append, ← lead, readDigits_append digits fun c mem => (delimits.stops c mem).1]

/-- A numeral after its sign is read whole when nothing that continues a
number follows it. -/
theorem readNumber_signed {sign : List Char} (n : Nat) {rest : List Char} (delimits : Delimits rest)
    (signed : readSign (sign ++ (toString n).toList ++ rest) = (sign, (toString n).toList ++ rest)) :
    readNumber (sign ++ (toString n).toList ++ rest) =
      .ok (String.ofList (sign ++ (toString n).toList), rest) := by
  simp only [readNumber, signed, readIntPart_toString n delimits, bind, Except.bind,
    readFraction_of_delimits delimits, readExponent_of_delimits delimits, pure, Except.pure,
    List.append_nil]

theorem readNumber_toString (z : Int) {rest : List Char} (delimits : Delimits rest) :
    readNumber ((toString z).toList ++ rest) = .ok (toString z, rest) := by
  rw [Int.toString_eq_repr, Int.repr_eq_if]
  obtain ⟨d, ds, lead⟩ := List.exists_cons_of_ne_nil (Text.toString_ne_nil (if 0 ≤ z then z.toNat else (-z).toNat))
  split
  · next nonneg =>
    have minus : d ≠ '-' := by
      rw [if_pos nonneg] at lead
      exact Text.ne_of_mem_toString (lead ▸ List.mem_cons_self) rfl
    have signed : readSign ([] ++ (toString z.toNat).toList ++ rest) =
        ([], (toString z.toNat).toList ++ rest) := by
      rw [if_pos nonneg] at lead
      rw [List.nil_append, lead, List.cons_append]
      simp [readSign, minus]
    simpa [← Nat.toString_eq_repr] using readNumber_signed z.toNat delimits signed
  · have signed : readSign (['-'] ++ (toString (-z).toNat).toList ++ rest) =
        (['-'], (toString (-z).toNat).toList ++ rest) := rfl
    simpa [← Nat.toString_eq_repr] using readNumber_signed (-z).toNat delimits signed

/-! ## Strings -/

theorem readHex4_go_hexDigits (n k : Nat) (rest : List Char) (acc : Nat) :
    readHex4.go k (Text.hexDigits n k ++ rest) acc = .ok (acc * 16 ^ k + n % 16 ^ k, rest) := by
  induction k generalizing acc with
  | zero => simp [Text.hexDigits, readHex4.go, Nat.mod_one]
  | succ k ih =>
    rw [Text.hexDigits_succ, List.cons_append, readHex4.go,
      Text.hexValue_hexDigit _ (Nat.mod_lt _ (by decide))]
    simp only [ih, Nat.mod_pow_succ]
    congr 2
    rw [Nat.pow_succ]
    ring

/-- A `\u` escape of a character below `U+10000` reads back as that character:
it is no surrogate. -/
theorem readStringBody_unicode {c : Char} (small : c.toNat < 0x10000) (fuel : Nat)
    (cs acc : List Char) :
    readStringBody (fuel + 1) ('\\' :: 'u' :: (Text.hexDigits c.toNat 4 ++ cs)) acc =
      readStringBody fuel cs (c :: acc) := by
  have whole : c.toNat % 16 ^ 4 = c.toNat := Nat.mod_eq_of_lt small
  have scalar : c.toNat < 0xD800 ∨ 0xDFFF < c.toNat := by
    have valid := c.valid
    simp only [Char.toNat] at valid ⊢
    omega
  simp only [readStringBody, readHex4, readHex4_go_hexDigits, Nat.zero_mul, Nat.zero_add, whole]
  rw [if_neg (by simp only [Bool.and_eq_true, decide_eq_true_eq]; omega),
    if_neg (by simp only [Bool.and_eq_true, decide_eq_true_eq]; omega), Char.ofNat_toNat]

/-- A printable character other than the quote and the backslash reads as itself. -/
theorem readStringBody_plain {c : Char} (quote : c ≠ '"') (backslash : c ≠ '\\')
    (printable : ¬c.toNat < 0x20) (fuel : Nat) (cs acc : List Char) :
    readStringBody (fuel + 1) (c :: cs) acc = readStringBody fuel cs (c :: acc) := by
  rw [readStringBody, if_neg printable]
  · exact quote
  · exact backslash

/-- Every escape reads back as the character it stands for, whatever follows. -/
theorem readStringBody_escapeChar (html : Bool) (c : Char) (fuel : Nat) (cs acc : List Char) :
    readStringBody (fuel + 1) (escapeChar html c ++ cs) acc = readStringBody fuel cs (c :: acc) := by
  unfold escapeChar
  split
  · rfl
  · rfl
  · rfl
  · rfl
  · rfl
  · rfl
  · rfl
  · next quote backslash back feed newline ret tab =>
    split
    · next unicode =>
      have small : c.toNat < 0x10000 := by
        simp only [Bool.or_eq_true, decide_eq_true_eq, Bool.and_eq_true, beq_iff_eq] at unicode
        rcases unicode with low | ⟨-, (rfl | rfl) | rfl⟩ <;> first | omega | decide
      exact readStringBody_unicode small fuel cs acc
    · next other =>
      split
      · next separator =>
        have small : c.toNat < 0x10000 := by
          simp only [Bool.or_eq_true, beq_iff_eq] at separator
          rcases separator with rfl | rfl <;> decide
        exact readStringBody_unicode small fuel cs acc
      · simp only [Bool.or_eq_true, decide_eq_true_eq, not_or] at other
        exact readStringBody_plain quote backslash other.1 fuel cs acc

theorem escapeChar_ne_nil (html : Bool) (c : Char) : escapeChar html c ≠ [] := by
  unfold escapeChar
  split
  all_goals try simp
  split
  · simp
  · split <;> simp

theorem length_le_flatMap_escapeChar (html : Bool) (s : List Char) :
    s.length ≤ (s.flatMap (escapeChar html)).length := by
  induction s with
  | nil => simp
  | cons c s ih =>
    have one : 0 < (escapeChar html c).length := List.length_pos_iff.2 (escapeChar_ne_nil html c)
    simp only [List.flatMap_cons, List.length_append, List.length_cons]
    omega

theorem readStringBody_escaped (html : Bool) (s : List Char) (rest acc : List Char) {fuel : Nat}
    (enough : s.length < fuel) :
    readStringBody fuel (s.flatMap (escapeChar html) ++ '"' :: rest) acc =
      .ok (String.ofList (acc.reverse ++ s), rest) := by
  obtain ⟨fuel, rfl⟩ : ∃ f, fuel = f + 1 := ⟨fuel - 1, by omega⟩
  induction s generalizing acc fuel with
  | nil => simp [readStringBody]
  | cons c s ih =>
    obtain ⟨fuel, rfl⟩ : ∃ f, fuel = f + 1 := ⟨fuel - 1, by simp at enough; omega⟩
    rw [List.flatMap_cons, List.append_assoc, readStringBody_escapeChar,
      ih (c :: acc) fuel (by simp at enough; omega)]
    simp

/-- A string literal reads back as the string it quotes. -/
theorem readString_escaped (html : Bool) (s : String) (rest : List Char) :
    readString (s.toList.flatMap (escapeChar html) ++ '"' :: rest) = .ok (s, rest) := by
  have longer := length_le_flatMap_escapeChar html s.toList
  rw [readString, readStringBody_escaped html s.toList rest []
    (by simp only [List.length_append, List.length_cons]; omega)]
  simp

/-! ## The indented text -/

theorem toList_quote (html : Bool) (s : String) :
    (quote html s).toList = '"' :: (s.toList.flatMap (escapeChar html) ++ ['"']) := by
  simp [quote]

theorem toList_indented_arr_cons (level : Nat) (x : Json) (xs : List Json) :
    (indented true level (.arr (x :: xs))).toList =
      '[' :: '\n' :: ((indentedItems true (level + 1) (x :: xs)).toList ++
        '\n' :: ((pad level).toList ++ [']'])) := by
  simp [indented]

theorem toList_indented_obj_cons (level : Nat) (m : String × Json) (ms : List (String × Json)) :
    (indented true level (.obj (m :: ms))).toList =
      '{' :: '\n' :: ((indentedMembers true (level + 1) (m :: ms)).toList ++
        '\n' :: ((pad level).toList ++ ['}'])) := by
  simp [indented]

theorem toList_indentedItems_single (level : Nat) (x : Json) :
    (indentedItems true level [x]).toList = (pad level).toList ++ (indented true level x).toList := by
  simp [indentedItems]

theorem toList_indentedItems_cons_cons (level : Nat) (x y : Json) (ys : List Json) :
    (indentedItems true level (x :: y :: ys)).toList = (pad level).toList ++
      ((indented true level x).toList ++ ',' :: '\n' :: (indentedItems true level (y :: ys)).toList) := by
  simp [indentedItems]

theorem toList_indentedMembers_single (level : Nat) (k : String) (v : Json) :
    (indentedMembers true level [(k, v)]).toList = (pad level).toList ++
      ('"' :: (k.toList.flatMap (escapeChar true) ++ '"' :: ':' :: ' ' :: (indented true level v).toList)) := by
  simp [indentedMembers, quote]

theorem toList_indentedMembers_cons_cons (level : Nat) (k : String) (v : Json) (m : String × Json)
    (ms : List (String × Json)) :
    (indentedMembers true level ((k, v) :: m :: ms)).toList = (pad level).toList ++
      ('"' :: (k.toList.flatMap (escapeChar true) ++ '"' :: ':' :: ' ' ::
        ((indented true level v).toList ++ ',' :: '\n' :: (indentedMembers true level (m :: ms)).toList))) := by
  simp [indentedMembers, quote]
/-- No digit is a JSON blank. -/
theorem isBlank_of_isDigit {c : Char} (digit : c.isDigit = true) : isBlank c = false := by
  cases blank : isBlank c with
  | false => rfl
  | true =>
    -- every blank lies below the digit zero
    have below : c.toNat < 48 := by
      simp only [isBlank, Bool.or_eq_true, beq_iff_eq] at blank
      rcases blank with ((rfl | rfl) | rfl) | rfl <;> decide
    simp only [Char.isDigit, Bool.and_eq_true, decide_eq_true_eq] at digit
    have low : 48 ≤ c.toNat := digit.1
    omega

/-- The indented text of a value starts with a character that is no blank and
closes nothing. -/
theorem indented_head {v : Json} (integral : v.Integral) (level : Nat) :
    ∃ c cs, (indented true level v).toList = c :: cs ∧ isBlank c = false ∧ c ≠ ']' ∧ c ≠ '}' := by
  cases integral with
  | null => exact ⟨'n', ['u', 'l', 'l'], by simp [indented, compact], rfl, by decide, by decide⟩
  | bool b =>
    cases b
    · exact ⟨'f', ['a', 'l', 's', 'e'], by simp [indented, compact], rfl, by decide, by decide⟩
    · exact ⟨'t', ['r', 'u', 'e'], by simp [indented, compact], rfl, by decide, by decide⟩
  | num z =>
    obtain ⟨c, cs, lead⟩ := List.exists_cons_of_ne_nil (Text.intToString_ne_nil z)
    have text : (indented true level (.num (toString z))).toList = c :: cs := by
      simpa [indented, compact] using lead
    rcases Text.mem_intToString (lead ▸ List.mem_cons_self : c ∈ (toString z).toList) with digit | rfl
    · refine ⟨c, cs, text, isBlank_of_isDigit digit, ?_, ?_⟩ <;>
        rintro rfl <;> exact absurd digit (by decide)
    · exact ⟨_, cs, text, rfl, by decide, by decide⟩
  | str s =>
    exact ⟨'"', s.toList.flatMap (escapeChar true) ++ ['"'], by simp [indented, compact, quote], rfl,
      by decide, by decide⟩
  | @arr items _ =>
    cases items with
    | nil => exact ⟨'[', [']'], by simp [indented], rfl, by decide, by decide⟩
    | cons x xs => exact ⟨'[', _, toList_indented_arr_cons level x xs, rfl, by decide, by decide⟩
  | @obj members _ =>
    cases members with
    | nil => exact ⟨'{', ['}'], by simp [indented], rfl, by decide, by decide⟩
    | cons m ms => exact ⟨'{', _, toList_indented_obj_cons level m ms, rfl, by decide, by decide⟩

/-- After the indentation, the elements of an array start with the first one. -/
theorem skipBlanks_indentedItems {x : Json} (integral : x.Integral) (level : Nat) (xs : List Json)
    (tail : List Char) :
    ∃ c cs, skipBlanks ((indentedItems true level (x :: xs)).toList ++ tail) = c :: cs ∧ c ≠ ']' := by
  obtain ⟨c, cs, first, solid, open_, -⟩ := indented_head integral level
  cases xs with
  | nil =>
    rw [toList_indentedItems_single, List.append_assoc,
      skipBlanks_append_blanks (fun _ => blank_of_mem_pad), first, List.cons_append,
      skipBlanks_cons_solid solid]
    exact ⟨c, _, rfl, open_⟩
  | cons y ys =>
    rw [toList_indentedItems_cons_cons, List.append_assoc,
      skipBlanks_append_blanks (fun _ => blank_of_mem_pad), first, List.cons_append,
      List.cons_append, skipBlanks_cons_solid solid]
    exact ⟨c, _, rfl, open_⟩

/-- After the indentation, the members of an object start with a key. -/
theorem skipBlanks_indentedMembers (level : Nat) (m : String × Json) (ms : List (String × Json))
    (tail : List Char) :
    ∃ cs, skipBlanks ((indentedMembers true level (m :: ms)).toList ++ tail) = '"' :: cs := by
  obtain ⟨k, v⟩ := m
  cases ms with
  | nil =>
    rw [toList_indentedMembers_single, List.append_assoc,
      skipBlanks_append_blanks (fun _ => blank_of_mem_pad), List.cons_append, skipBlanks_cons_solid rfl]
    exact ⟨_, rfl⟩
  | cons m ms =>
    rw [toList_indentedMembers_cons_cons, List.append_assoc,
      skipBlanks_append_blanks (fun _ => blank_of_mem_pad), List.cons_append, skipBlanks_cons_solid rfl]
    exact ⟨_, rfl⟩

theorem readValue_blank_cons {c : Char} (blank : isBlank c = true) (fuel : Nat) (cs : List Char) :
    readValue fuel (c :: cs) = readValue fuel cs := by
  rw [← readValue_skipBlanks, skipBlanks_cons_blank blank, readValue_skipBlanks]

theorem readElements_blank_cons {c : Char} (blank : isBlank c = true) (fuel : Nat) (cs : List Char)
    (acc : List Json) : readElements fuel (c :: cs) acc = readElements fuel cs acc := by
  rw [← readElements_skipBlanks, skipBlanks_cons_blank blank, readElements_skipBlanks]

theorem readMembers_blank_cons {c : Char} (blank : isBlank c = true) (fuel : Nat) (cs : List Char)
    (acc : List (String × Json)) : readMembers fuel (c :: cs) acc = readMembers fuel cs acc := by
  rw [← readMembers_skipBlanks, skipBlanks_cons_blank blank, readMembers_skipBlanks]

/-! ## Values, elements and members -/

theorem readValue_null (fuel : Nat) (cs : List Char) :
    readValue (fuel + 1) ('n' :: cs) = (readWord "null" cs).map fun p => (.null, p.2) := rfl

theorem readValue_true (fuel : Nat) (cs : List Char) :
    readValue (fuel + 1) ('t' :: cs) = (readWord "true" cs).map fun p => (.bool true, p.2) := rfl

theorem readValue_false (fuel : Nat) (cs : List Char) :
    readValue (fuel + 1) ('f' :: cs) = (readWord "false" cs).map fun p => (.bool false, p.2) := rfl

theorem readValue_string (fuel : Nat) (cs : List Char) :
    readValue (fuel + 1) ('"' :: cs) = (readString cs).map fun p => (.str p.1, p.2) := rfl

theorem readValue_array (fuel : Nat) (cs : List Char) :
    readValue (fuel + 1) ('[' :: cs) = readArray fuel cs := rfl

theorem readValue_object (fuel : Nat) (cs : List Char) :
    readValue (fuel + 1) ('{' :: cs) = readObject fuel cs := rfl

/-- A value that starts with a digit or a minus sign is a number. -/
theorem readValue_number {c : Char} (start : c.isDigit = true ∨ c = '-') (fuel : Nat)
    (cs : List Char) :
    readValue (fuel + 1) (c :: cs) = (readNumber (c :: cs)).map fun p => (.num p.1, p.2) := by
  have solid : isBlank c = false := by
    rcases start with digit | rfl
    · exact isBlank_of_isDigit digit
    · rfl
  have sign : (c == '-' || c.isDigit) = true := by
    rcases start with digit | rfl
    · simp [digit]
    · rfl
  rw [readValue, skipBlanks_cons_solid solid]
  dsimp only
  -- the letters and brackets that open other values are neither digits nor signs
  split
  all_goals first
    | exact absurd start (by decide)
    | rw [if_pos sign]

/-- What follows the last element or member: blanks, then the closing bracket. -/
theorem delimits_closing {closing : List Char} (blank : ∀ c ∈ closing, isBlank c = true) (close : Char)
    (bracket : close = ']' ∨ close = '}') (rest : List Char) : Delimits (closing ++ close :: rest) := by
  cases closing with
  | nil => rcases bracket with rfl | rfl <;> simp [Delimits]
  | cons c cs => exact .inl (blank c List.mem_cons_self)

theorem skipBlanks_closing {closing : List Char} (blank : ∀ c ∈ closing, isBlank c = true)
    {close : Char} (bracket : close = ']' ∨ close = '}') (rest : List Char) :
    skipBlanks (closing ++ close :: rest) = close :: rest := by
  rw [skipBlanks_append_blanks blank, skipBlanks_cons_solid (by rcases bracket with rfl | rfl <;> rfl)]

mutual

/-- The indented text of a value reads back as the value, given more fuel than
it has characters and followed by anything that ends a number. -/
theorem readValue_indented (level : Nat) (v : Json) (integral : v.Integral) {rest : List Char}
    (delimits : Delimits rest) (fuel : Nat) (enough : (indented true level v).toList.length < fuel) :
    readValue fuel ((indented true level v).toList ++ rest) = .ok (v, rest) := by
  obtain ⟨fuel, rfl⟩ : ∃ f, fuel = f + 1 := ⟨fuel - 1, by omega⟩
  -- matching with the hypotheses on `v` in the context would compare their types
  -- by unfolding the printer; in the goal they are rewritten with the match
  revert integral enough
  match v with
  | .null =>
    intro integral enough
    have text : (indented true level .null).toList = 'n' :: ['u', 'l', 'l'] := by
      simp [indented, compact]
    rw [text, List.cons_append, readValue_null, readWord, show "null".toList.drop 1 = ['u', 'l', 'l'] from rfl,
      readWord_go]
    rfl
  | .bool true =>
    intro integral enough
    have text : (indented true level (.bool true)).toList = 't' :: ['r', 'u', 'e'] := by
      simp [indented, compact]
    rw [text, List.cons_append, readValue_true, readWord, show "true".toList.drop 1 = ['r', 'u', 'e'] from rfl,
      readWord_go]
    rfl
  | .bool false =>
    intro integral enough
    have text : (indented true level (.bool false)).toList = 'f' :: ['a', 'l', 's', 'e'] := by
      simp [indented, compact]
    rw [text, List.cons_append, readValue_false, readWord, show "false".toList.drop 1 = ['a', 'l', 's', 'e'] from rfl,
      readWord_go]
    rfl
  | .num literal =>
    intro integral enough
    obtain ⟨z, rfl⟩ : ∃ z : Int, literal = toString z := by
      cases integral with
      | num z => exact ⟨z, rfl⟩
    have text : (indented true level (.num (toString z))).toList = (toString z).toList := by
      simp [indented, compact]
    obtain ⟨c, cs, lead⟩ := List.exists_cons_of_ne_nil (Text.intToString_ne_nil z)
    have start := Text.mem_intToString (lead ▸ List.mem_cons_self : c ∈ (toString z).toList)
    rw [text, lead, List.cons_append, readValue_number start, ← List.cons_append, ← lead,
      readNumber_toString z delimits]
    rfl
  | .str s =>
    intro integral enough
    have text : (indented true level (.str s)).toList =
        '"' :: (s.toList.flatMap (escapeChar true) ++ ['"']) := by
      simp [indented, compact, quote]
    rw [text, List.cons_append, readValue_string, List.append_assoc, List.singleton_append,
      readString_escaped]
    rfl
  | .arr [] =>
    intro integral enough
    have text : (indented true level (.arr [])).toList = ['[', ']'] := by simp [indented]
    rw [text] at enough ⊢
    obtain ⟨fuel, rfl⟩ : ∃ f, fuel = f + 1 := ⟨fuel - 1, by simp at enough; omega⟩
    rfl
  | .arr (x :: xs) =>
    intro integral enough
    have all : ∀ y ∈ x :: xs, y.Integral := by
      cases integral with
      | arr all => exact all
    rw [toList_indented_arr_cons] at enough ⊢
    simp only [List.length_cons, List.length_append] at enough
    obtain ⟨fuel, rfl⟩ : ∃ f, fuel = f + 1 := ⟨fuel - 1, by omega⟩
    obtain ⟨c, cs, first, open_⟩ :=
      skipBlanks_indentedItems (all x List.mem_cons_self) (level + 1) xs ('\n' :: ((pad level).toList ++ ']' :: rest))
    have items := readElements_indentedItems (level + 1) (x :: xs) all ('\n' :: (pad level).toList)
      (fun _ => blank_of_mem_newline_pad) rest [] fuel (Nat.succ_pos level) (by omega) (List.cons_ne_nil x xs)
    rw [List.cons_append] at items
    rw [List.cons_append, readValue_array, List.cons_append, List.append_assoc, List.cons_append,
      List.append_assoc, List.singleton_append,
      readArray_of_head (by rw [skipBlanks_cons_blank rfl]; exact first) open_, readElements_blank_cons rfl,
      items]
    rfl
  | .obj [] =>
    intro integral enough
    have text : (indented true level (.obj [])).toList = ['{', '}'] := by simp [indented]
    rw [text] at enough ⊢
    obtain ⟨fuel, rfl⟩ : ∃ f, fuel = f + 1 := ⟨fuel - 1, by simp at enough; omega⟩
    rfl
  | .obj (m :: ms) =>
    intro integral enough
    have all : ∀ n ∈ m :: ms, n.2.Integral := by
      cases integral with
      | obj all => exact all
    rw [toList_indented_obj_cons] at enough ⊢
    simp only [List.length_cons, List.length_append] at enough
    obtain ⟨fuel, rfl⟩ : ∃ f, fuel = f + 1 := ⟨fuel - 1, by omega⟩
    obtain ⟨cs, first⟩ :=
      skipBlanks_indentedMembers (level + 1) m ms ('\n' :: ((pad level).toList ++ '}' :: rest))
    have members := readMembers_indentedMembers (level + 1) (m :: ms) all ('\n' :: (pad level).toList)
      (fun _ => blank_of_mem_newline_pad) rest [] fuel (by omega) (List.cons_ne_nil m ms)
    rw [List.cons_append] at members
    rw [List.cons_append, readValue_object, List.cons_append, List.append_assoc, List.cons_append,
      List.append_assoc, List.singleton_append,
      readObject_of_head (by rw [skipBlanks_cons_blank rfl]; exact first) (by decide),
      readMembers_blank_cons rfl, members]
    rfl

/-- The indented elements of an array read back, whatever the elements read
before them, up to the closing bracket. -/
theorem readElements_indentedItems (level : Nat) (items : List Json)
    (integral : ∀ x ∈ items, x.Integral) (closing : List Char) (blank : ∀ c ∈ closing, isBlank c = true)
    (rest : List Char) (acc : List Json) (fuel : Nat) (indent : 0 < level)
    (enough : (indentedItems true level items).toList.length < fuel) (nonempty : items ≠ []) :
    readElements fuel ((indentedItems true level items).toList ++ (closing ++ ']' :: rest)) acc =
      .ok (.arr (acc.reverse ++ items), rest) := by
  obtain ⟨fuel, rfl⟩ : ∃ f, fuel = f + 1 := ⟨fuel - 1, by omega⟩
  revert integral nonempty enough
  match items with
  | [] =>
    intro _ nonempty _
    exact absurd rfl nonempty
  | [x] =>
    intro integral nonempty enough
    rw [toList_indentedItems_single] at enough ⊢
    simp only [List.length_append, length_pad] at enough
    have value := readValue_indented level x (integral x List.mem_cons_self)
      (delimits_closing blank ']' (.inl rfl) rest) fuel (by omega)
    rw [List.append_assoc, readElements, readValue_blanks (fun _ => blank_of_mem_pad), value]
    simp only [skipBlanks_closing blank (.inl rfl) rest, List.reverse_cons]
  | x :: y :: ys =>
    intro integral nonempty enough
    rw [toList_indentedItems_cons_cons] at enough ⊢
    simp only [List.length_append, List.length_cons] at enough
    have value := readValue_indented level x (integral x List.mem_cons_self)
      (show Delimits (',' :: '\n' :: ((indentedItems true level (y :: ys)).toList ++ (closing ++ ']' :: rest)))
        from .inr (.inl rfl)) fuel (by omega)
    rw [List.append_assoc, List.append_assoc, List.cons_append, List.cons_append, readElements,
      readValue_blanks (fun _ => blank_of_mem_pad), value]
    simp only [skipBlanks_cons_solid (show isBlank ',' = false from rfl)]
    rw [readElements_blank_cons rfl, readElements_indentedItems level (y :: ys)
      (fun z mem => integral z (List.mem_cons_of_mem x mem)) closing blank rest (x :: acc) fuel indent (by omega)
      (List.cons_ne_nil y ys)]
    simp

/-- The indented members of an object read back, whatever the members read
before them, up to the closing brace. -/
theorem readMembers_indentedMembers (level : Nat) (members : List (String × Json))
    (integral : ∀ m ∈ members, m.2.Integral) (closing : List Char) (blank : ∀ c ∈ closing, isBlank c = true)
    (rest : List Char) (acc : List (String × Json)) (fuel : Nat)
    (enough : (indentedMembers true level members).toList.length < fuel) (nonempty : members ≠ []) :
    readMembers fuel ((indentedMembers true level members).toList ++ (closing ++ '}' :: rest)) acc =
      .ok (.obj (acc.reverse ++ members), rest) := by
  obtain ⟨fuel, rfl⟩ : ∃ f, fuel = f + 1 := ⟨fuel - 1, by omega⟩
  revert integral nonempty enough
  match members with
  | [] =>
    intro _ nonempty _
    exact absurd rfl nonempty
  | [(k, v)] =>
    intro integral nonempty enough
    rw [toList_indentedMembers_single] at enough ⊢
    simp only [List.length_append, List.length_cons] at enough
    have value := readValue_indented level v (integral (k, v) List.mem_cons_self)
      (delimits_closing blank '}' (.inr rfl) rest) fuel (by omega)
    rw [List.append_assoc, readMembers, skipBlanks_append_blanks (fun _ => blank_of_mem_pad),
      List.cons_append, skipBlanks_cons_solid rfl]
    simp only [List.append_assoc, List.cons_append, readString_escaped,
      skipBlanks_cons_solid (show isBlank ':' = false from rfl)]
    rw [readValue_blank_cons rfl, value]
    simp only [skipBlanks_closing blank (.inr rfl) rest, List.reverse_cons]
  | (k, v) :: m :: ms =>
    intro integral nonempty enough
    rw [toList_indentedMembers_cons_cons] at enough ⊢
    simp only [List.length_append, List.length_cons] at enough
    have value := readValue_indented level v (integral (k, v) List.mem_cons_self)
      (show Delimits (',' :: '\n' :: ((indentedMembers true level (m :: ms)).toList ++ (closing ++ '}' :: rest)))
        from .inr (.inl rfl)) fuel (by omega)
    rw [List.append_assoc, readMembers, skipBlanks_append_blanks (fun _ => blank_of_mem_pad),
      List.cons_append, skipBlanks_cons_solid rfl]
    simp only [List.append_assoc, List.cons_append, readString_escaped,
      skipBlanks_cons_solid (show isBlank ':' = false from rfl)]
    rw [readValue_blank_cons rfl, value]
    simp only [skipBlanks_cons_solid (show isBlank ',' = false from rfl)]
    rw [readMembers_blank_cons rfl, readMembers_indentedMembers level (m :: ms)
      (fun n mem => integral n (List.mem_cons_of_mem (k, v) mem)) closing blank rest ((k, v) :: acc) fuel
      (by omega) (List.cons_ne_nil m ms)]
    simp

end

/-! ## The first value of a text -/

/-- The indenting encoder's text of a value whose numbers are integers holds
that value first. -/
theorem readFirst_encodeIndented {v : Json} (integral : v.Integral) :
    readFirst (encodeIndented v) = .ok v := by
  obtain ⟨c, cs, first, solid, -, -⟩ := indented_head integral 0
  have text : (encodeIndented v).toList = (indented true 0 v).toList ++ ['\n'] := by
    simp [encodeIndented]
  have value : readValue (2 * (encodeIndented v).toList.length + 2) (encodeIndented v).toList =
      .ok (v, ['\n']) := by
    rw [text]
    exact readValue_indented 0 v integral (Delimits.of_blank (c := '\n') rfl []) _
      (by rw [List.length_append]; omega)
  have present : (skipBlanks (encodeIndented v).toList).isEmpty = false := by
    rw [text, first, List.cons_append, skipBlanks_cons_solid solid]
    rfl
  unfold readFirst
  dsimp only
  rw [present, value]
  rfl

end Json

end ParityGames
