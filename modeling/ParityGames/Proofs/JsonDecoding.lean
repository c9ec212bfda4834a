import ParityGames.Json.Decode
import ParityGames.Proofs.TextLists

/-!
# Decoding JSON that fits its record

A decoding *yields* a value when it returns that value from every scope,
keeps whatever mismatch was noted before it, and does not stop
(`Json.Yields`).  Decoding a whole value that yields gives that value
(`Json.decodeAll_of_yields`).  The lemmas here say when each field reader
yields: a literal of the field's type, a string its parser accepts, a record
whose keys all name fields, and a list filled from fresh storage.

A fresh list is filled element by element into a buffer that grows as the
allocator grows it.  Each element starts from the blank entry, because
storage that the buffer has never used is blank (`Buffer.Fresh`) and the
grown block always has room for the next element (`Buffer.le_grownCapacity`),
so the list comes out as the elements filled from blank, in order.
-/

namespace ParityGames

namespace Buffer

variable {α : Type} {b : Buffer α} {blank : α} {es : List α}

/-! ## Fresh buffers -/

/-- A buffer whose elements are `es` and whose spare room holds `blank` only. -/
structure Fresh (b : Buffer α) (blank : α) (es : List α) : Prop where
  length_eq : b.length = es.length
  store_eq : b.store.toList = es ++ List.replicate (b.capacity - es.length) blank

theorem fresh_empty (blank : α) : ({} : Buffer α).Fresh blank [] := ⟨rfl, rfl⟩

theorem Fresh.length_le (fresh : b.Fresh blank es) : es.length ≤ b.capacity := by
  have size := congrArg List.length fresh.store_eq
  simp only [Array.length_toList, List.length_append, List.length_replicate] at size
  unfold capacity
  omega

theorem Fresh.items_eq (fresh : b.Fresh blank es) : b.items = es.toArray := by
  apply Array.toList_inj.1
  rw [items, Array.toList_extract, fresh.store_eq, fresh.length_eq]
  simp [List.extract]

theorem Fresh.setLength_eq (fresh : b.Fresh blank es) : b.setLength es.length = b := by
  rw [setLength, Nat.min_eq_left fresh.length_le, ← fresh.length_eq]

/-- Growth by a quarter plus 192 reaches twice the capacity within four steps,
so within the 64 that are allowed. -/
theorem repeat_grow (cap need : Nat) (k : Nat) :
    need ≤ Nat.repeat (fun c => if c ≥ need then c else c + (c + 768) / 4) k cap ∨
      cap + k * ((cap + 768) / 4) ≤ Nat.repeat (fun c => if c ≥ need then c else c + (c + 768) / 4) k cap := by
  induction k with
  | zero => exact .inr (by simp [Nat.repeat])
  | succ k ih =>
    show need ≤ (if _ ≥ need then _ else _) ∨ _ ≤ (if _ ≥ need then _ else _)
    split
    · next reached => exact .inl reached
    · next short =>
      rcases ih with reached | grown
      · omega
      · right
        have step : (cap + 768) / 4 ≤ (Nat.repeat (fun c => if c ≥ need then c else c + (c + 768) / 4) k cap + 768) / 4 :=
          Nat.div_le_div_right (Nat.add_le_add_right (Nat.le_trans (Nat.le_add_right cap _) grown) 768)
        rw [Nat.succ_mul]
        omega

theorem le_wantedCapacity (cap need : Nat) : need ≤ wantedCapacity cap need := by
  unfold wantedCapacity
  split
  · exact le_rfl
  · split
    · omega
    · next within large =>
      rcases repeat_grow cap need 64 with reached | grown
      · exact reached
      · omega

theorem le_blockBytes (refs : Bool) (bytes : Nat) : bytes ≤ blockBytes refs bytes := by
  unfold blockBytes
  split
  · -- with or without a header, the size class found has room for the bytes
    split
    all_goals
      dsimp only
      split
      · next c found =>
        have fits := List.find?_some found
        simp only [ge_iff_le, decide_eq_true_eq] at fits
        omega
      · exact le_rfl
  · omega

/-- A block that grows for `need` elements holds them. -/
theorem le_grownCapacity (size : Nat) (refs : Bool) (cap need : Nat) :
    need ≤ grownCapacity size refs cap need := by
  have wanted := le_wantedCapacity cap need
  unfold grownCapacity
  split
  · exact wanted
  · next nonzero =>
    calc need ≤ wantedCapacity cap need := wanted
      _ = wantedCapacity cap need * size / size :=
        (Nat.mul_div_cancel _ (Nat.pos_of_ne_zero nonzero)).symm
      _ ≤ blockBytes refs (wantedCapacity cap need * size) / size :=
        Nat.div_le_div_right (le_blockBytes refs _)

/-- Reserving keeps a fresh buffer fresh and makes room for what is needed. -/
theorem Fresh.reserve (fresh : b.Fresh blank es) (size : Nat) (refs : Bool) (need : Nat) :
    (b.reserve size refs blank need).Fresh blank es ∧ need ≤ (b.reserve size refs blank need).capacity := by
  unfold Buffer.reserve
  split
  · next enough => exact ⟨fresh, enough⟩
  · have grown := le_grownCapacity size refs b.capacity need
    have within := fresh.length_le
    refine ⟨⟨fresh.length_eq, ?_⟩, ?_⟩
    · simp only [capacity, fresh.items_eq, fresh.length_eq, Array.toList_append, Array.toList_replicate,
        Array.size_append, List.size_toArray, Array.size_replicate]
      congr 2
      omega
    · simp only [capacity, fresh.items_eq, fresh.length_eq, Array.size_append, List.size_toArray,
        Array.size_replicate] at grown ⊢
      omega

/-- The entry after the elements of a fresh buffer with room for it is blank,
and setting it adds one element. -/
theorem Fresh.next (fresh : b.Fresh blank es) (room : es.length < b.capacity) (x : α) :
    (b.setLength (es.length + 1)).get blank es.length = blank ∧
      ((b.setLength (es.length + 1)).set es.length x).Fresh blank (es ++ [x]) := by
  -- the spare room starts with a blank entry
  obtain ⟨k, spare⟩ : ∃ k, b.capacity - es.length = k + 1 := ⟨b.capacity - es.length - 1, by omega⟩
  have store := fresh.store_eq
  rw [spare, List.replicate_succ] at store
  constructor
  · simp only [get, setLength, Array.getD_eq_getD_getElem?, ← Array.getElem?_toList, store,
      List.getElem?_append_right (Nat.le_refl _), Nat.sub_self, List.getElem?_cons_zero,
      Option.getD_some]
  · constructor
    · simp only [set, setLength, Nat.min_eq_left room, List.length_append, List.length_singleton]
    · simp only [set, setLength, capacity, Array.set!_eq_setIfInBounds, Array.toList_setIfInBounds,
        Array.size_setIfInBounds, store]
      rw [List.set_append_right _ _ (Nat.le_refl _), Nat.sub_self, List.set_cons_zero]
      simp only [capacity] at spare
      simp only [List.length_append, List.length_singleton, List.append_assoc, List.singleton_append]
      congr 3
      omega

end Buffer

namespace Json

/-! ## Decodings that yield -/

/-- A decoding that returns `a` from every scope, keeps the mismatch noted
before it, and does not stop. -/
def Yields {α : Type} (d : Decoding α) (a : α) : Prop :=
  ∀ scope kept, (d.run scope).run kept = .ok (a, kept)

variable {α β : Type}

theorem yields_pure (a : α) : Yields (pure a : Decoding α) a := fun _ _ => rfl

theorem Yields.bind {d : Decoding α} {a : α} {f : α → Decoding β} {b : β}
    (first : Yields d a) (next : Yields (f a) b) : Yields (d >>= f) b := by
  intro scope kept
  have ran := first scope kept
  simp only [ReaderT.run, StateT.run] at ran
  simp only [ReaderT.run, StateT.run, Bind.bind, ReaderT.bind, StateT.bind, ran]
  exact next scope kept

theorem Yields.map {d : Decoding α} {a : α} (yields : Yields d a) (f : α → β) :
    Yields (f <$> d) (f a) := by
  rw [← bind_pure_comp]
  exact yields.bind (yields_pure _)

theorem Yields.withReader {d : Decoding α} {a : α} (yields : Yields d a) (g : Scope → Scope) :
    Yields (withReader g d) a :=
  fun scope kept => yields (g scope) kept

/-- A decoding that yields decodes to what it yields, with no mismatch left. -/
theorem decodeAll_of_yields {d : Decoding α} {a : α} (yields : Yields d a) : decodeAll d = .ok a := by
  unfold decodeAll
  rw [yields {} none]

/-! ## Fields -/

theorem intField_yields {target : String} {old : Int} {s : String} {n : Int}
    (literal : intLiteral? s = some n) : Yields (intField target old (.num s)) n := by
  simp only [intField, literal]
  exact yields_pure n

/-- The numeral of a natural number in 64 bits is an integer literal. -/
theorem intLiteral?_toString {n : Nat} (fits : (n : Int) ≤ Text.int64Max) :
    intLiteral? (toString n) = some (n : Int) := by
  -- a numeral starts with a digit, so the reader's check for a plus sign fails
  have unsigned : (toString n).startsWith "+" = false := by
    rw [Bool.eq_false_iff]
    intro signed
    rw [String.startsWith_string_iff] at signed
    obtain ⟨c, cs, lead⟩ := List.exists_cons_of_ne_nil (Text.toString_ne_nil n)
    obtain ⟨rest, split⟩ := signed
    rw [lead, show "+".toList = ['+'] from rfl, List.singleton_append] at split
    exact Text.ne_of_mem_toString (lead ▸ List.mem_cons_self) rfl (List.head_eq_of_cons_eq split).symm
  rw [intLiteral?, unsigned, if_neg Bool.false_ne_true, Text.parseInt?_toString fits]

theorem intField_nat_yields {target : String} {old : Int} {n : Nat} (fits : (n : Int) ≤ Text.int64Max) :
    Yields (intField target old (Json.nat n)) n :=
  intField_yields (intLiteral?_toString fits)

theorem textField_yields (target old s : String) : Yields (textField target old (.str s)) s :=
  yields_pure s

theorem parsedField_yields {target : String} {parse : String → Except String α} {old a : α} {s : String}
    (parsed : parse s = .ok a) : Yields (parsedField target parse old (.str s)) a := by
  simp only [parsedField, parsed]
  exact yields_pure a

theorem optionField_yields {target : String} {parse : String → Except String α} {old : Option α} {a : α}
    {s : String} (parsed : parse s = .ok a) : Yields (optionField target parse old (.str s)) (some a) := by
  simp only [optionField, parsed]
  exact yields_pure _

theorem listField_null_yields (target : String) (kind : ElementKind α) (old : Option (Buffer α)) :
    Yields (listField target kind old .null) none :=
  yields_pure none

variable {γ : Type}

/-- Filling elements into a fresh buffer yields a fresh buffer that holds, after
the elements it had, an element filled from blank for each value. -/
theorem fillElements_fresh {kind : ElementKind α} (f : γ → Json) {R : γ → α → Prop} (xs : List γ)
    (fills : ∀ x ∈ xs, ∃ e, Yields (kind.fill kind.blank (f x)) e ∧ R x e) {b : Buffer α} {es : List α}
    (fresh : b.Fresh kind.blank es) :
    ∃ b' es', Yields (fillElements kind b es.length (xs.map f)) b' ∧ b'.Fresh kind.blank (es ++ es') ∧
      List.Forall₂ R xs es' := by
  induction xs generalizing b es with
  | nil => exact ⟨b, [], yields_pure b, by simpa using fresh, .nil⟩
  | cons x rest ih =>
    obtain ⟨e, filled, related⟩ := fills x List.mem_cons_self
    -- the buffer grows before each element, and stays fresh, so the element starts from blank
    obtain ⟨reserved, room⟩ := fresh.reserve kind.size kind.refs (es.length + 1)
    obtain ⟨blankNext, extended⟩ := reserved.next (by omega) e
    obtain ⟨b', es', yields, fresh', all⟩ :=
      ih (fun y mem => fills y (List.mem_cons_of_mem _ mem)) extended
    refine ⟨b', e :: es', ?_, by simpa using fresh', .cons related all⟩
    have longer : es.length ≥ (b.reserve kind.size kind.refs kind.blank (es.length + 1)).length :=
      Nat.le_of_eq reserved.length_eq
    rw [List.map_cons, fillElements, if_pos longer, blankNext]
    exact filled.bind (by simpa using yields)

/-- A list read into a field that holds no list yields the elements filled
from blank, in order. -/
theorem listField_fresh (target : String) (kind : ElementKind α) (f : γ → Json) {R : γ → α → Prop}
    (xs : List γ) (fills : ∀ x ∈ xs, ∃ e, Yields (kind.fill kind.blank (f x)) e ∧ R x e) :
    ∃ b, Yields (listField target kind none (.arr (xs.map f))) (some b) ∧ List.Forall₂ R xs b.items.toList := by
  cases xs with
  | nil => exact ⟨{}, yields_pure _, by simp [Buffer.items]⟩
  | cons x rest =>
    obtain ⟨b, es, yields, fresh, all⟩ := fillElements_fresh f (x :: rest) fills (Buffer.fresh_empty kind.blank)
    rw [List.nil_append] at fresh
    refine ⟨b, ?_, by rw [fresh.items_eq]; exact all⟩
    have setLength : b.setLength ((x :: rest).map f).length = b := by
      rw [List.length_map, all.length_eq]
      exact fresh.setLength_eq
    have done : Yields (pure (some (b.setLength ((x :: rest).map f).length)) : Decoding _) (some b) := by
      rw [setLength]
      exact yields_pure _
    exact yields.bind done

/-! ## Records -/

theorem recordField_nil_yields (record target : String) (fields : List String)
    (fill : α → String → Json → Decoding α) (old : α) :
    Yields (recordField record target fields fill old (.obj [])) old :=
  yields_pure old

/-- A member whose key names a field fills it, and the record goes on from there. -/
theorem recordField_cons_yields {record target key : String} {fields : List String}
    {fill : α → String → Json → Decoding α} {old e r : α} {value : Json} {ms : List (String × Json)}
    (named : fieldOf fields key = some key) (first : Yields (fill old key value) e)
    (rest : Yields (recordField record target fields fill e (.obj ms)) r) :
    Yields (recordField record target fields fill old (.obj ((key, value) :: ms))) r := by
  simp only [recordField, List.foldlM_cons, named]
  exact (first.withReader _).bind rest

end Json

end ParityGames
