import ScriptHost.Json.Reader
import ScriptHost.Proofs.Text.Numeral
import ScriptHost.Proofs.Toml.Reader

/-!
# Reading back what was written

The compact text of a value is a JSON text, and it is read as that value.

* `string_stringText`: a string is read back, whatever its characters are.
* `number_toString`: an integer is read back.
* **`read?_write`**: a value that is not nested too deeply is read back.
* `Value.plain_text`: the text of a value holds no character below U+0020, so it is one line.
-/

namespace ScriptHost.Json

open Toml (Reader)
open Toml.Reader

/-! ## 1. Strings -/

/-- A hexadecimal digit is read as its value. -/
theorem digit?_hexDigit : ∀ {d : Nat}, d < 16 → Numeral.digit? 16 (Nat.digitChar d) = some d := by
  decide

/-- A control character is read back from its number. -/
theorem readFrom_control {n : Nat} (h : n < 0x20) :
    Numeral.readFrom 16 0 ['0', '0', Nat.digitChar (n / 16), Nat.digitChar (n % 16)] = some n := by
  have hzero : Numeral.digit? 16 '0' = some 0 := by decide
  have hhigh : Numeral.digit? 16 (Nat.digitChar (n / 16)) = some (n / 16) :=
    digit?_hexDigit (by omega)
  have hlow : Numeral.digit? 16 (Nat.digitChar (n % 16)) = some (n % 16) :=
    digit?_hexDigit (by omega)
  simp only [Numeral.readFrom, hzero, hhigh, hlow, Option.bind_some]
  congr 1
  omega

/-- What an escape is read as: the piece in front of those behind it. -/
def ReadAs (written : List Char) (piece : Piece) : Prop :=
  ∀ rest, piecesFrom (written ++ rest) =
    (piecesFrom rest).map fun more => (piece :: more.1, more.2)

/-- **A character of a string is read back**, as itself or by its number. -/
theorem readAs_escaped (c : Char) : ∃ piece, ReadAs (escaped c) piece ∧
    ∀ pieces, chars? (piece :: pieces) = (chars? pieces).map (c :: ·) := by
  unfold escaped
  split
  · exact ⟨.char '"', fun rest => rfl, fun pieces => rfl⟩
  · exact ⟨.char '\\', fun rest => rfl, fun pieces => rfl⟩
  · exact ⟨.char '\x08', fun rest => rfl, fun pieces => rfl⟩
  · exact ⟨.char '\t', fun rest => rfl, fun pieces => rfl⟩
  · exact ⟨.char '\n', fun rest => rfl, fun pieces => rfl⟩
  · exact ⟨.char '\x0c', fun rest => rfl, fun pieces => rfl⟩
  · exact ⟨.char '\r', fun rest => rfl, fun pieces => rfl⟩
  · next hquote hbackslash _ _ _ _ _ =>
    split
    · next hcontrol =>
      refine ⟨.unit c.toNat, fun rest => ?_, fun pieces => ?_⟩
      · show (Numeral.readFrom 16 0 _).bind _ = _
        rw [readFrom_control hcontrol]
        rfl
      · have hvalid : c.toNat.isValidChar := .inl (by omega)
        rw [chars?.eq_def]
        simp only [hvalid, if_true, Char.ofNat_toNat]
    · next hcontrol =>
      refine ⟨.char c, fun rest => ?_, fun pieces => rfl⟩
      have hne : ¬ c = '\\' := hbackslash
      have hc : (c.toNat < 0x20 || c == '\\') = false := by simp [hcontrol, hne]
      rw [List.singleton_append, piecesFrom]
      · simp [hc]
      · exact hquote
      · rintro a b c' d r rfl
        exact absurd rfl hbackslash
      · rintro letter r rfl
        exact absurd rfl hbackslash

/-- The characters of a string are read back up to the quote behind them. -/
theorem piecesFrom_escaped (rest : List Char) : ∀ cs : List Char,
    ∃ pieces, piecesFrom (cs.flatMap escaped ++ '"' :: rest) = some (pieces, rest) ∧
      chars? pieces = some cs
  | [] => ⟨[], rfl, rfl⟩
  | c :: cs => by
    obtain ⟨pieces, hread, hchars⟩ := piecesFrom_escaped rest cs
    obtain ⟨piece, hpiece, hchar⟩ := readAs_escaped c
    refine ⟨piece :: pieces, ?_, ?_⟩
    · rw [List.flatMap_cons, List.append_assoc, hpiece, hread, Option.map_some]
    · rw [hchar, hchars, Option.map_some]

/-- **A written string is read back.** -/
theorem string_stringText (s : String) (rest : List Char) :
    string (stringText s ++ rest) = some (s, rest) := by
  obtain ⟨pieces, hread, hchars⟩ := piecesFrom_escaped rest s.toList
  have htext : stringText s ++ rest = '"' :: (s.toList.flatMap escaped ++ '"' :: rest) := by
    rw [stringText, List.append_assoc]
    rfl
  have hlift : ((chars? pieces : Option (List Char)) : Reader (List Char)) rest =
      some (s.toList, rest) := by
    rw [hchars]
    rfl
  rw [htext, string, bind_of_some (char_cons '"' _), bind_of_some hread, bind_of_some hlift,
    String.ofList_toList]
  rfl

/-! ## 2. Integers -/

theorem range_of_isDigit {c : Char} (h : c.isDigit = true) : '0' ≤ c ∧ c ≤ '9' := by
  simpa [Char.isDigit, Char.le_def] using h

theorem isDigit_of_isDigit {c : Char} (h : c.isDigit = true) : Numeral.isDigit c = true := by
  have hrange := range_of_isDigit h
  have hvalue : c.toNat - '0'.toNat < 10 := by
    have hnine : c.toNat ≤ '9'.toNat := hrange.2
    have : '9'.toNat = 57 ∧ '0'.toNat = 48 := by decide
    omega
  simp only [Numeral.isDigit, Numeral.digit?, if_pos hrange, if_pos hvalue, Option.isSome_some]

/-- The digits of a number, with no digit behind them, are read as the number. -/
theorem takeWhile_digits (n : Nat) {rest : List Char}
    (hrest : ∀ c ∈ rest.head?, Numeral.isDigit c = false) :
    takeWhile Numeral.isDigit (Nat.toDigits 10 n ++ rest) = some (Nat.toDigits 10 n, rest) := by
  have hdigits : ∀ c ∈ Nat.toDigits 10 n, Numeral.isDigit c = true := fun c hc =>
    isDigit_of_isDigit (Nat.isDigit_of_mem_toDigits (by decide) (by decide) hc)
  have htake : rest.takeWhile Numeral.isDigit = [] := by
    cases rest with
    | nil => rfl
    | cons c r => simp [hrest c rfl]
  have hdrop : rest.dropWhile Numeral.isDigit = rest := by
    cases rest with
    | nil => rfl
    | cons c r => simp [hrest c rfl]
  rw [takeWhile, List.takeWhile_append_of_pos hdigits, List.dropWhile_append_of_pos hdigits, htake,
    hdrop, List.append_nil]

/-- No number but zero itself begins with a zero. -/
theorem head?_toDigits (n : Nat) (hn : 0 < n) : (Nat.toDigits 10 n).head? ≠ some '0' := by
  induction n using Nat.strongRecOn with
  | ind n ih =>
    by_cases h : n < 10
    · rw [Nat.toDigits_of_lt_base h, List.head?_cons]
      intro hzero
      have hvalue := Numeral.digit?_digitChar h
      rw [Option.some.inj hzero, show Numeral.digit? 10 '0' = some 0 from by decide] at hvalue
      cases hvalue
      omega
    · have hsplit := Nat.toDigits_append_toDigits (b := 10) (by decide)
        (show 0 < n / 10 by omega) (Nat.mod_lt n (by decide : 0 < 10))
      rw [Nat.div_add_mod] at hsplit
      obtain ⟨c, r, hcons, -⟩ := Numeral.toDigits_eq_cons (n / 10)
      have hhead := ih (n / 10) (by omega) (by omega)
      rw [← hsplit, hcons, List.cons_append, List.head?_cons]
      rwa [hcons, List.head?_cons] at hhead

theorem isTight_toDigits (n : Nat) : isTight (Nat.toDigits 10 n) = true := by
  by_cases hn : n = 0
  · subst hn
    decide
  · have hhead := head?_toDigits n (Nat.pos_of_ne_zero hn)
    simp [isTight, hhead]

/-- **A written integer is read back** where no digit follows. -/
theorem number_toString (i : Int) {rest : List Char}
    (hrest : ∀ c ∈ rest.head?, Numeral.isDigit c = false) :
    number ((toString i).toList ++ rest) = some (i, rest) := by
  have hdigits : ∀ n, takeWhile Numeral.isDigit (Nat.toDigits 10 n ++ rest) =
      some (Nat.toDigits 10 n, rest) := fun n => takeWhile_digits n hrest
  have hvalue : ∀ n, ((Numeral.natural? 10 (Nat.toDigits 10 n) : Option Nat) : Reader Nat) rest =
      some (n, rest) := by
    intro n
    obtain ⟨c, r, hcons, -⟩ := Numeral.toDigits_eq_cons n
    have hread := Numeral.readFrom_toDigits n
    rw [hcons] at hread ⊢
    rw [Numeral.natural?, hread]
    rfl
  cases i with
  | ofNat n =>
    have hminus : optional (char '-') (Nat.toDigits 10 n ++ rest) =
        some (none, Nat.toDigits 10 n ++ rest) := by
      refine optional_of_none (char_of_head? ?_)
      obtain ⟨c, r, hcons, hc⟩ := Numeral.toDigits_eq_cons n
      rw [hcons, List.cons_append, List.head?_cons]
      rintro ⟨⟩
      cases hc
    rw [Numeral.toList_toString_ofNat, number, bind_of_some hminus, bind_of_some (hdigits n),
      bind_of_some (hvalue n), if_pos (isTight_toDigits n)]
    rfl
  | negSucc n =>
    have hminus : optional (char '-') ('-' :: (Nat.toDigits 10 (n + 1) ++ rest)) =
        some (some (), Nat.toDigits 10 (n + 1) ++ rest) := optional_of_some (char_cons '-' _)
    rw [Numeral.toList_toString_negSucc, List.cons_append, number, bind_of_some hminus,
      bind_of_some (hdigits (n + 1)), bind_of_some (hvalue (n + 1)),
      if_pos (isTight_toDigits (n + 1))]
    rfl

/-! ## 3. Depth -/

mutual

/-- How many arrays and objects stand around each other in the value. -/
def Value.depth : Value → Nat
  | .array elements => elementsDepth elements + 1
  | .object fields => fieldsDepth fields + 1
  | _ => 0

/-- The depth of the deepest element. -/
def elementsDepth : List Value → Nat
  | [] => 0
  | v :: rest => max v.depth (elementsDepth rest)

/-- The depth of the deepest field. -/
def fieldsDepth : List (String × Value) → Nat
  | [] => 0
  | (_, v) :: rest => max v.depth (fieldsDepth rest)

end

theorem depth_le_elementsDepth {v : Value} : ∀ {elements : List Value}, v ∈ elements →
    v.depth ≤ elementsDepth elements
  | w :: rest, h => by
    rw [elementsDepth]
    rcases List.mem_cons.1 h with rfl | h
    · exact Nat.le_max_left _ _
    · exact Nat.le_trans (depth_le_elementsDepth h) (Nat.le_max_right _ _)

theorem depth_le_fieldsDepth {f : String × Value} : ∀ {fields : List (String × Value)},
    f ∈ fields → f.2.depth ≤ fieldsDepth fields
  | (_, w) :: rest, h => by
    rw [fieldsDepth]
    rcases List.mem_cons.1 h with rfl | h
    · exact Nat.le_max_left _ _
    · exact Nat.le_trans (depth_le_fieldsDepth h) (Nat.le_max_right _ _)

/-! ## 4. Members -/

/-- The text of a field. -/
def fieldText (f : String × Value) : List Char := stringText f.1 ++ ':' :: f.2.text

theorem elementsText_eq : ∀ elements : List Value,
    elementsText elements = Text.joined ',' (elements.map Value.text)
  | [] => rfl
  | [_] => rfl
  | v :: w :: rest => by
    rw [elementsText, elementsText_eq (w :: rest)]
    · rfl
    · exact List.cons_ne_nil _ _

theorem fieldsText_eq : ∀ fields : List (String × Value),
    fieldsText fields = Text.joined ',' (fields.map fieldText)
  | [] => rfl
  | [_] => rfl
  | (name, v) :: f :: rest => by
    rw [fieldsText, fieldsText_eq (f :: rest)]
    · show _ = fieldText (name, v) ++ _
      rw [fieldText, List.append_assoc]
    · exact List.cons_ne_nil _ _

/-- What can follow a value: nothing, or the character that ends it. -/
def Ends (rest : List Char) : Prop := ∀ c ∈ rest.head?, c = ',' ∨ c = ']' ∨ c = '\x7d' ∨ c = ':'

theorem Ends.not_digit {rest : List Char} (h : Ends rest) :
    ∀ c ∈ rest.head?, Numeral.isDigit c = false := by
  intro c hc
  rcases h c hc with rfl | rfl | rfl | rfl <;> decide

/-- There are no blanks to be read. -/
theorem blanks_of_head? {s : List Char} (h : ∀ c ∈ s.head?, isBlank c = false) :
    blanks s = some ((), s) := by
  have htake : takeWhile isBlank s = some ([], s) := by
    cases s with
    | nil => rfl
    | cons c r => simp [takeWhile, h c rfl]
  rw [blanks, bind_of_some htake]
  rfl

theorem Ends.blanks {rest : List Char} (h : Ends rest) : blanks rest = some ((), rest) := by
  refine blanks_of_head? fun c hc => ?_
  rcases h c hc with rfl | rfl | rfl | rfl <;> decide

/-- Without blanks, only the reader itself takes something. -/
theorem between_of_some {α : Type} {read : Char → Reader α} {c : Char} {s rest : List Char} {a : α}
    (hc : isBlank c = false) (h : read c (c :: s) = some (a, rest)) (hrest : Ends rest) :
    between read (c :: s) = some (a, rest) := by
  have hblanks : blanks (c :: s) = some ((), c :: s) :=
    blanks_of_head? (by rintro d ⟨⟩; exact hc)
  have hpeek : peek (c :: s) = some (c, c :: s) := rfl
  rw [between, bind_of_some hblanks, bind_of_some hpeek, bind_of_some h, bind_of_some hrest.blanks]
  rfl

/-- **Members between two brackets are read back**, if each of them is read before what can follow
it. -/
theorem list_joined {α : Type} (opening : Char) {closing : Char} {member : Reader α}
    {text : α → List Char} (hclosing : closing = ']' ∨ closing = '\x7d')
    (hnone : ∀ r, member (closing :: r) = none) (rest : List Char) (members : List α)
    (h : ∀ a ∈ members, ∀ r, Ends r → member (text a ++ r) = some (a, r)) :
    list opening closing member
        (opening :: (Text.joined ',' (members.map text) ++ closing :: rest)) =
      some (members, rest) := by
  have hends : Ends (closing :: rest) := by
    rintro c ⟨⟩
    rcases hclosing with rfl | rfl <;> simp
  have hmembers : ∃ found, optional (separated ',' member)
      (Text.joined ',' (members.map text) ++ closing :: rest) = some (found, closing :: rest) ∧
      found.getD [] = members := by
    by_cases hne : members = []
    · subst hne
      exact ⟨none, optional_of_none (bind_of_none (hnone rest)), rfl⟩
    · have hhead : (closing :: rest).head? ≠ some ',' := by
        rcases hclosing with rfl | rfl <;> simp
      have hcomma : ∀ r, Ends (',' :: r) := by
        rintro r c ⟨⟩
        exact .inl rfl
      exact ⟨_, optional_of_some (separated_joined hcomma hends hhead hne h), rfl⟩
  obtain ⟨found, hread, hfound⟩ := hmembers
  rw [list, bind_of_some (char_cons opening _), bind_of_some hread, bind_of_some hends.blanks,
    bind_of_some (char_cons closing rest), hfound]
  rfl

/-- A field is read back if its value is. -/
theorem field_fieldText {value : Reader Value} {f : String × Value} {rest : List Char}
    (h : value (f.2.text ++ rest) = some (f.2, rest)) :
    field value (fieldText f ++ rest) = some (f, rest) := by
  have hends : Ends (':' :: (f.2.text ++ rest)) := by
    rintro c ⟨⟩
    simp
  have htext : fieldText f ++ rest = stringText f.1 ++ ':' :: (f.2.text ++ rest) := by
    rw [fieldText, List.append_assoc, List.cons_append]
  have hname : between (fun _ => string) (fieldText f ++ rest) =
      some (f.1, ':' :: (f.2.text ++ rest)) := by
    have hstring := string_stringText f.1 (':' :: (f.2.text ++ rest))
    rw [htext]
    exact between_of_some (by decide) hstring hends
  rw [field, bind_of_some hname, bind_of_some (char_cons ':' _), bind_of_some h]
  rfl

/-! ## 5. Values -/

/-- An integer begins with a digit or a minus sign. -/
theorem toString_eq_cons (i : Int) :
    ∃ c r, (toString i).toList = c :: r ∧ (c.isDigit = true ∨ c = '-') := by
  cases i with
  | ofNat n =>
    obtain ⟨c, r, hcons, hc⟩ := Numeral.toDigits_eq_cons n
    exact ⟨c, r, (Numeral.toList_toString_ofNat n).trans hcons, .inl hc⟩
  | negSucc n => exact ⟨'-', Nat.toDigits 10 (n + 1), Numeral.toList_toString_negSucc n, .inr rfl⟩

/-- A value without parts is read at every depth like at none. -/
theorem valueWithin_scalar (depth : Nat) {c : Char} {s rest : List Char} {v : Value}
    (hc : isBlank c = false ∧ c ≠ '[' ∧ c ≠ '\x7b') (h : scalar c (c :: s) = some (v, rest))
    (hrest : Ends rest) : valueWithin depth (c :: s) = some (v, rest) := by
  obtain ⟨hblank, hbracket, hbrace⟩ := hc
  cases depth with
  | zero => exact between_of_some hblank h hrest
  | succ depth =>
    refine between_of_some hblank ?_ hrest
    simp only [beq_iff_eq, hbracket, hbrace, if_false]
    exact h

/-- The end of an array or an object is the beginning of no value and of no field. -/
theorem between_closing {α : Type} {read : Char → Reader α} {c : Char} (r : List Char)
    (hc : isBlank c = false) (h : read c (c :: r) = none) : between read (c :: r) = none := by
  have hblanks : blanks (c :: r) = some ((), c :: r) :=
    blanks_of_head? (by rintro d ⟨⟩; exact hc)
  have hpeek : peek (c :: r) = some (c, c :: r) := rfl
  rw [between, bind_of_some hblanks, bind_of_some hpeek, bind_of_none h]

theorem valueWithin_closing (depth : Nat) (r : List Char) :
    valueWithin depth (']' :: r) = none := by
  have hscalar : scalar ']' (']' :: r) = none := by
    have htake : takeWhile Numeral.isDigit (']' :: r) = some ([], ']' :: r) := by
      simp [takeWhile, show Numeral.isDigit ']' = false from by decide]
    have hminus : optional (char '-') (']' :: r) = some (none, ']' :: r) :=
      optional_of_none (char_of_head? (by simp))
    exact map_of_none ((bind_of_some hminus).trans ((bind_of_some htake).trans rfl))
  cases depth with
  | zero => exact between_closing r (by decide) hscalar
  | succ depth => exact between_closing r (by decide) hscalar

theorem field_closing (value : Reader Value) (r : List Char) :
    field value ('\x7d' :: r) = none := by
  have hstring : string ('\x7d' :: r) = none := bind_of_none (char_of_head? (by simp))
  exact bind_of_none (between_closing r (by decide) hstring)

/-- An integer is read back as a value. -/
theorem valueWithin_number (i : Int) (depth : Nat) {rest : List Char} (hrest : Ends rest) :
    valueWithin depth ((toString i).toList ++ rest) = some (.number i, rest) := by
  obtain ⟨c, r, hcons, hc⟩ := toString_eq_cons i
  have hnumber := number_toString i hrest.not_digit
  have hc : isBlank c = false ∧ c ≠ '[' ∧ c ≠ '\x7b' ∧
      c ≠ '"' ∧ c ≠ 'n' ∧ c ≠ 't' ∧ c ≠ 'f' := by
    rcases hc with hc | rfl
    · refine ⟨?_, ?_, ?_, ?_, ?_, ?_, ?_⟩
      · rw [Bool.eq_false_iff]
        intro hblank
        simp only [isBlank, Bool.or_eq_true, beq_iff_eq] at hblank
        rcases hblank with ((rfl | rfl) | rfl) | rfl <;> cases hc
      all_goals
        rintro rfl
        cases hc
    · decide
  obtain ⟨hblank, hbracket, hbrace, hquote, hn, ht, hf⟩ := hc
  rw [hcons] at hnumber ⊢
  refine valueWithin_scalar depth ⟨hblank, hbracket, hbrace⟩ ?_ hrest
  simp only [scalar, beq_iff_eq, hquote, hn, ht, hf, if_false]
  exact map_of_some hnumber

/-- An array is read back if each of its elements is. -/
theorem valueWithin_array {depth : Nat} {elements : List Value}
    (h : ∀ v ∈ elements, ∀ r, Ends r → valueWithin depth (v.text ++ r) = some (v, r))
    {rest : List Char} (hrest : Ends rest) :
    valueWithin (depth + 1) ((Value.array elements).text ++ rest) =
      some (.array elements, rest) := by
  have hlist := list_joined '[' (.inl rfl) (valueWithin_closing depth) rest elements h
  rw [Value.text, elementsText_eq, List.cons_append, List.cons_append, List.append_assoc]
  exact between_of_some (by decide) (map_of_some hlist) hrest

/-- An object is read back if each of its fields is. -/
theorem valueWithin_object {depth : Nat} {fields : List (String × Value)}
    (h : ∀ f ∈ fields, ∀ r, Ends r →
      field (valueWithin depth) (fieldText f ++ r) = some (f, r))
    {rest : List Char} (hrest : Ends rest) :
    valueWithin (depth + 1) ((Value.object fields).text ++ rest) =
      some (.object fields, rest) := by
  have hlist := list_joined '\x7b' (.inr rfl) (field_closing _) rest fields h
  rw [Value.text, fieldsText_eq, List.cons_append, List.cons_append, List.append_assoc]
  exact between_of_some (by decide) (map_of_some hlist) hrest

/-- **A value is read back before what can follow it**, by a reader that goes as deep as it is
nested. The recursion is on the value: its members are smaller, and nested less deeply. -/
theorem valueWithin_text : ∀ (v : Value) (depth : Nat) (rest : List Char), v.depth ≤ depth →
    Ends rest → valueWithin depth (v.text ++ rest) = some (v, rest)
  | .null, depth, rest, _, hrest => valueWithin_scalar depth (by decide) rfl hrest
  | .bool true, depth, rest, _, hrest => valueWithin_scalar depth (by decide) rfl hrest
  | .bool false, depth, rest, _, hrest => valueWithin_scalar depth (by decide) rfl hrest
  | .number i, depth, rest, _, hrest => valueWithin_number i depth hrest
  | .string s, depth, rest, _, hrest =>
    valueWithin_scalar depth (by decide) (map_of_some (string_stringText s rest)) hrest
  | .array elements, depth + 1, rest, hdepth, hrest => by
    refine valueWithin_array (fun v hv r hr => ?_) hrest
    have hlt := List.sizeOf_lt_of_mem hv
    have hle := depth_le_elementsDepth hv
    rw [Value.depth] at hdepth
    exact valueWithin_text v depth r (by omega) hr
  | .object fields, depth + 1, rest, hdepth, hrest => by
    refine valueWithin_object (fun f hf r hr => field_fieldText ?_) hrest
    have hlt := List.sizeOf_lt_of_mem hf
    have hle := depth_le_fieldsDepth hf
    rw [Value.depth] at hdepth
    exact valueWithin_text f.2 depth r (by omega) hr
termination_by v => sizeOf v
decreasing_by
  · simp only [Value.array.sizeOf_spec]
    omega
  · obtain ⟨name, w⟩ := f
    simp only [Prod.mk.sizeOf_spec] at hlt
    simp only [Value.object.sizeOf_spec]
    omega

/-- **A value that is not nested too deeply is read back from its text.** -/
theorem read?_write {v : Value} (h : v.depth ≤ depthLimit) : read? v.write = some v := by
  have hread := valueWithin_text v depthLimit [] h (fun c hc => by cases hc)
  rw [List.append_nil] at hread
  unfold read? Value.write
  simp only [String.toList_ofList, bind_of_some hread]
  rfl

/-! ## 6. One line -/

/-- The character is no control character. -/
def Plain (c : Char) : Prop := 0x20 ≤ c.toNat

instance (c : Char) : Decidable (Plain c) := Nat.decLe 0x20 c.toNat

theorem forall_plain {l : List Char} (h : l.all (decide <| Plain ·) = true) : ∀ c ∈ l, Plain c :=
  fun c hc => of_decide_eq_true (List.all_eq_true.1 h c hc)

theorem plain_digitChar : ∀ {d : Nat}, d < 16 → Plain (Nat.digitChar d) := by decide

theorem plain_escaped (c : Char) : ∀ d ∈ escaped c, Plain d := by
  unfold escaped
  split
  case h_8 =>
    split
    · next hcontrol =>
      have hhigh : Plain (Nat.digitChar (c.toNat / 16)) := plain_digitChar (by omega)
      have hlow : Plain (Nat.digitChar (c.toNat % 16)) := plain_digitChar (by omega)
      have hescape : ∀ d ∈ ['\\', 'u', '0', '0'], Plain d := forall_plain rfl
      exact List.forall_mem_append.2
        ⟨hescape, List.forall_mem_cons.2 ⟨hhigh, List.forall_mem_singleton.2 hlow⟩⟩
    · next hcontrol => exact List.forall_mem_singleton.2 (Nat.le_of_not_lt hcontrol)
  all_goals exact forall_plain rfl

theorem plain_stringText (s : String) : ∀ c ∈ stringText s, Plain c := by
  refine List.forall_mem_append.2
    ⟨List.forall_mem_cons.2 ⟨by decide, fun c hc => ?_⟩, forall_plain rfl⟩
  obtain ⟨d, -, hd⟩ := List.mem_flatMap.1 hc
  exact plain_escaped d c hd

theorem plain_toString (i : Int) : ∀ c ∈ (toString i).toList, Plain c := by
  have hdigits : ∀ n, ∀ c ∈ Nat.toDigits 10 n, Plain c := by
    intro n c hc
    have hdigit := Nat.isDigit_of_mem_toDigits (by decide) (by decide) hc
    have hzero : '0'.toNat ≤ c.toNat := (range_of_isDigit hdigit).1
    exact Nat.le_trans (by decide) hzero
  cases i with
  | ofNat n =>
    rw [Numeral.toList_toString_ofNat]
    exact hdigits n
  | negSucc n =>
    rw [Numeral.toList_toString_negSucc]
    exact List.forall_mem_cons.2 ⟨by decide, hdigits (n + 1)⟩

/-- Joined parts without control characters hold none. -/
theorem plain_joined : ∀ parts : List (List Char), (∀ part ∈ parts, ∀ c ∈ part, Plain c) →
    ∀ c ∈ Text.joined ',' parts, Plain c
  | [], _ => by simp [Text.joined]
  | part :: parts, h => by
    obtain ⟨hpart, hparts⟩ := List.forall_mem_cons.1 h
    rw [Text.joined_cons]
    refine List.forall_mem_append.2 ⟨hpart, fun c hc => ?_⟩
    obtain ⟨other, hother, hc⟩ := List.mem_flatMap.1 hc
    rcases List.mem_cons.1 hc with rfl | hc
    · decide
    · exact hparts other hother c hc

/-- **The text of a value holds no control character.** -/
theorem Value.plain_text : ∀ v : Value, ∀ c ∈ v.text, Plain c
  | .null => forall_plain rfl
  | .bool true => forall_plain rfl
  | .bool false => forall_plain rfl
  | .number i => plain_toString i
  | .string s => plain_stringText s
  | .array elements => by
    rw [Value.text, elementsText_eq]
    refine List.forall_mem_append.2
      ⟨List.forall_mem_cons.2 ⟨by decide, plain_joined _ ?_⟩, forall_plain rfl⟩
    refine List.forall_mem_map.2 fun v hv => ?_
    have hlt := List.sizeOf_lt_of_mem hv
    exact Value.plain_text v
  | .object fields => by
    rw [Value.text, fieldsText_eq]
    refine List.forall_mem_append.2
      ⟨List.forall_mem_cons.2 ⟨by decide, plain_joined _ ?_⟩, forall_plain rfl⟩
    refine List.forall_mem_map.2 fun f hf => ?_
    have hlt := List.sizeOf_lt_of_mem hf
    exact List.forall_mem_append.2 ⟨plain_stringText f.1,
      List.forall_mem_cons.2 ⟨by decide, Value.plain_text f.2⟩⟩
termination_by v => sizeOf v
decreasing_by
  · simp only [Value.array.sizeOf_spec]
    omega
  · obtain ⟨name, w⟩ := f
    simp only [Prod.mk.sizeOf_spec] at hlt
    simp only [Value.object.sizeOf_spec]
    omega

end ScriptHost.Json
