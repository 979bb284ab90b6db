import TicketCore.DecimalText
import TicketCore.Json

/-!
# What the text of a JSON value tells

`dumps_inj`: two values have the same text under `json.dumps(value, sort_keys=True)` exactly when
they are equal up to the order of the fields of their objects.

* `unescape` reads back one escaped character.
* `sorted` puts the fields of all objects in the order of their keys, and `text` is the plain text
  of a value; `dumps` is the plain text of the sorted value.
* `text_cancel`: a plain text ends where it ends, whatever comes after it.
-/

namespace TicketCore.Json

/-! ## Characters -/

/-- The value of a hexadecimal digit. -/
def hexVal (c : Char) : Nat := if c.isDigit then c.toNat - 48 else c.toNat - 87

theorem hexVal_digitChar {d : Nat} (below : d < 16) : hexVal d.digitChar = d := by
  have all : ∀ d < 16, hexVal (Nat.digitChar d) = d := by decide
  exact all d below

/-- Four hexadecimal digits. -/
def readUnit : List Char → Option (Nat × List Char)
  | a :: b :: c :: d :: rest =>
      some (((hexVal a * 16 + hexVal b) * 16 + hexVal c) * 16 + hexVal d, rest)
  | _ => none

/-- The rest of a `\uXXXX` escape, with a second one if the first is half of a surrogate pair. -/
def readUnicode (text : List Char) : Option (Char × List Char) :=
  match readUnit text with
  | none => none
  | some (unit, rest) =>
      if unit < 0xd800 ∨ 0xdc00 ≤ unit then some (Char.ofNat unit, rest)
      else
        match readUnit (rest.drop 2) with
        | none => none
        | some (low, rest) =>
            some (Char.ofNat (0x10000 + (unit - 0xd800) * 0x400 + (low - 0xdc00)), rest)

/-- The character of a short escape. -/
def shortEscape (c : Char) : Char :=
  if c = 'n' then '\n'
  else if c = 'r' then '\r'
  else if c = 't' then '\t'
  else if c = 'b' then Char.ofNat 8
  else if c = 'f' then Char.ofNat 12
  else c

/-- One character inside a string literal. -/
def unescape : List Char → Option (Char × List Char)
  | [] => none
  | c :: rest =>
      if c ≠ '\\' then some (c, rest)
      else
        match rest with
        | [] => none
        | d :: rest => if d = 'u' then readUnicode rest else some (shortEscape d, rest)

theorem readUnit_unicodeEscape {unit : Nat} (bounded : unit < 0x10000) (rest : List Char) :
    ∃ digits, (unicodeEscape unit).toList = '\\' :: 'u' :: digits ∧
      readUnit (digits ++ rest) = some (unit, rest) := by
  refine ⟨[(unit / 4096 % 16).digitChar, (unit / 256 % 16).digitChar, (unit / 16 % 16).digitChar,
    (unit / 1 % 16).digitChar], ?_, ?_⟩
  · have prefix' : "\\u".toList = ['\\', 'u'] := rfl
    unfold unicodeEscape
    rw [String.toList_append, prefix', String.toList_ofList]
    rfl
  · have digit : ∀ n, hexVal (n % 16).digitChar = n % 16 := fun n =>
      hexVal_digitChar (Nat.mod_lt n (by decide))
    simp only [List.cons_append, List.nil_append, readUnit, digit, Option.some.injEq, Prod.mk.injEq,
      and_true]
    omega

/-- The code points that are no characters. -/
theorem toNat_valid (c : Char) : c.toNat < 0xd800 ∨ 0xdfff < c.toNat ∧
    c.toNat < 0x110000 := c.valid

/-- **Round trip.** -/
theorem unescape_escape (c : Char) (rest : List Char) :
    unescape ((escape c).toList ++ rest) = some (c, rest) := by
  unfold escape
  split_ifs with quotes backslash newline return' tab backspace feed plain basic
  · subst quotes; rfl
  · subst backslash; rfl
  · subst newline; rfl
  · subst return'; rfl
  · subst tab; rfl
  · subst backspace; rfl
  · subst feed; rfl
  · have single : c.toString.toList = [c] := String.toList_singleton c
    rw [single]
    exact if_pos backslash
  · obtain ⟨digits, text, read⟩ := readUnit_unicodeEscape basic rest
    rw [text]
    show readUnicode (digits ++ rest) = _
    unfold readUnicode
    rw [read]
    have valid : c.toNat < 0xd800 ∨ 0xdc00 ≤ c.toNat := by
      rcases toNat_valid c with low | high
      · exact .inl low
      · exact .inr (by omega)
    dsimp only
    rw [if_pos valid, Char.ofNat_toNat]
  · have bound : c.toNat < 0x110000 := by
      rcases toNat_valid c with low | high
      · omega
      · exact high.2
    have highUnit : 0xd800 + (c.toNat - 0x10000) / 0x400 < 0xdc00 := by omega
    have lowUnit : 0xdc00 + (c.toNat - 0x10000) % 0x400 < 0x10000 := by omega
    obtain ⟨low, lowText, lowRead⟩ := readUnit_unicodeEscape lowUnit rest
    obtain ⟨high, highText, highRead⟩ :=
      readUnit_unicodeEscape (highUnit.trans (by decide)) ('\\' :: 'u' :: (low ++ rest))
    rw [String.toList_append, highText, lowText, List.append_assoc]
    show readUnicode (high ++ '\\' :: 'u' :: (low ++ rest)) = _
    unfold readUnicode
    rw [highRead]
    dsimp only
    rw [if_neg (by omega)]
    show (match readUnit (low ++ rest) with
      | none => none
      | some (unit, rest) => _) = _
    rw [lowRead]
    dsimp only
    have whole : 0x10000 + (0xd800 + (c.toNat - 0x10000) / 0x400 - 0xd800) * 0x400 +
        (0xdc00 + (c.toNat - 0x10000) % 0x400 - 0xdc00) = c.toNat := by omega
    rw [whole, Char.ofNat_toNat]

/-! ## Strings -/

/-- An escaped character does not begin like the end of a literal. -/
theorem escape_ne (c : Char) (rest after : List Char) :
    (escape c).toList ++ rest ≠ '"' :: after := by
  intro same
  have read := unescape_escape c rest
  rw [same] at read
  have first : ('"', after) = (c, rest) := Option.some.inj read
  obtain rfl := (Prod.mk.inj first).1
  have head : '\\' = '"' := (List.cons.inj (show '\\' :: '"' :: rest = '"' :: after from same)).1
  exact absurd head (by decide)

theorem toList_quote (s : String) :
    (quote s).toList = '"' :: (s.toList.flatMap fun c => (escape c).toList) ++ ['"'] := by
  have mark : "\"".toList = ['"'] := rfl
  unfold quote
  rw [String.toList_append, String.toList_append, mark, String.toList_join, List.flatMap_map]
  rfl

theorem escaped_cancel {cs cs' r r' : List Char}
    (same : (cs.flatMap fun c => (escape c).toList) ++ '"' :: r =
      (cs'.flatMap fun c => (escape c).toList) ++ '"' :: r') : cs = cs' ∧ r = r' := by
  induction cs generalizing cs' with
  | nil =>
      cases cs' with
      | nil => exact ⟨rfl, (List.cons.inj same).2⟩
      | cons c' cs' =>
          rw [List.flatMap_cons, List.append_assoc] at same
          exact (escape_ne _ _ _ same.symm).elim
  | cons c cs ih =>
      cases cs' with
      | nil =>
          rw [List.flatMap_cons, List.append_assoc] at same
          exact (escape_ne _ _ _ same).elim
      | cons c' cs' =>
          rw [List.flatMap_cons, List.flatMap_cons, List.append_assoc, List.append_assoc] at same
          have first := unescape_escape c ((cs.flatMap fun c => (escape c).toList) ++ '"' :: r)
          rw [same, unescape_escape] at first
          obtain ⟨rfl, rest⟩ := Prod.mk.inj (Option.some.inj first)
          obtain ⟨rfl, after⟩ := ih rest.symm
          exact ⟨rfl, after⟩

theorem quote_cancel {s s' : String} {r r' : List Char}
    (same : (quote s).toList ++ r = (quote s').toList ++ r') : s = s' ∧ r = r' := by
  rw [toList_quote, toList_quote, List.cons_append, List.cons_append, List.cons_append,
    List.cons_append, List.append_assoc, List.append_assoc] at same
  obtain ⟨text, after⟩ := escaped_cancel (List.cons.inj same).2
  exact ⟨String.toList_inj.mp text, after⟩

/-! ## Integers -/

/-- The text goes on with no character of an integer. -/
def Ends (r : List Char) : Prop := ∀ c ∈ r.head?, c.isDigit = false ∧ c ≠ '-'

/-- A character of an integer. -/
def ofInt (c : Char) : Bool := c.isDigit || c = '-'

theorem ofInt_toString (n : Int) : ∀ c ∈ (toString n).toList, ofInt c = true := by
  intro c mem
  by_contra other
  have apart : c.isDigit = false ∧ c ≠ '-' := by
    unfold ofInt at other
    rw [Bool.or_eq_true, not_or, decide_eq_true_iff, Bool.not_eq_true] at other
    exact other
  exact DecimalText.not_mem_toString n apart.1 apart.2 mem

theorem takeWhile_int {n : Int} {r : List Char} (ends : Ends r) :
    ((toString n).toList ++ r).takeWhile ofInt = (toString n).toList := by
  rw [List.takeWhile_append_of_pos (ofInt_toString n)]
  cases r with
  | nil => exact List.append_nil _
  | cons c r =>
      obtain ⟨notDigit, notMinus⟩ := ends c rfl
      have other : ¬ ofInt c = true := by
        unfold ofInt
        rw [notDigit, Bool.false_or, decide_eq_true_iff]
        exact notMinus
      rw [List.takeWhile_cons_of_neg other, List.append_nil]

theorem int_cancel {m n : Int} {r r' : List Char} (ends : Ends r) (ends' : Ends r')
    (same : (toString m).toList ++ r = (toString n).toList ++ r') : m = n ∧ r = r' := by
  have number := congrArg (List.takeWhile ofInt) same
  rw [takeWhile_int ends, takeWhile_int ends'] at number
  rw [number] at same
  exact ⟨DecimalText.toString_injective (String.toList_inj.mp number),
    List.append_cancel_left same⟩

/-! ## Values -/

mutual

/-- The value with the fields of every object in the order of their keys. -/
def sorted : Json → Json
  | .arr items => .arr (sortedItems items)
  | .obj fields => .obj ((sortedFields fields).insertionSort fun a b => a.1 ≤ b.1)
  | value => value

/-- The items of an array, sorted inside. -/
def sortedItems : List Json → List Json
  | [] => []
  | item :: items => sorted item :: sortedItems items

/-- The fields of an object, sorted inside. -/
def sortedFields : List (String × Json) → List (String × Json)
  | [] => []
  | (key, value) :: fields => (key, sorted value) :: sortedFields fields

end

/-- What stands before an item or a field. -/
def comma (first : Bool) : List Char := if first then [] else [',', ' ']

mutual

/-- The text of a value, with the fields of its objects as they come. -/
def text : Json → List Char
  | .null => ['n', 'u', 'l', 'l']
  | .bool true => ['t', 'r', 'u', 'e']
  | .bool false => ['f', 'a', 'l', 's', 'e']
  | .int value => (toString value).toList
  | .str value => (quote value).toList
  | .arr items => '[' :: textItems true items
  | .obj fields => '\x7b' :: textFields true fields

/-- The items of an array up to its end. -/
def textItems (first : Bool) : List Json → List Char
  | [] => [']']
  | item :: items => comma first ++ (text item ++ textItems false items)

/-- The fields of an object up to its end. -/
def textFields (first : Bool) : List (String × Json) → List Char
  | [] => ['\x7d']
  | (key, value) :: fields =>
      comma first ++ ((quote key).toList ++ ':' :: ' ' :: (text value ++ textFields false fields))

end

/-! ## The text under `sort_keys` -/

/-- Parts with commas between them, up to a closing character. -/
def enclosed (close : Char) : Bool → List String → List Char
  | _, [] => [close]
  | first, part :: parts => comma first ++ (part.toList ++ enclosed close false parts)

theorem enclosed_eq {close : Char} (parts : List String) :
    enclosed close true parts = (", ".intercalate parts).toList ++ [close] := by
  induction parts with
  | nil =>
      rw [String.intercalate_nil]
      rfl
  | cons part parts ih =>
      cases parts with
      | nil =>
          rw [String.intercalate_singleton]
          rfl
      | cons next parts =>
          have space : ", ".toList = [',', ' '] := rfl
          rw [String.intercalate_cons_cons, String.toList_append, String.toList_append, space,
            List.append_assoc, List.append_assoc, ← ih]
          rfl

theorem textItems_eq {items : List Json} {first : Bool} :
    textItems first items = enclosed ']' first
      (items.map fun item => String.ofList (text item)) := by
  induction items generalizing first with
  | nil => rfl
  | cons item items ih =>
      rw [textItems, ih, List.map_cons, enclosed, String.toList_ofList]

/-- The text of a field. -/
def member (field : String × String) : String := quote field.1 ++ ": " ++ field.2

theorem textFields_eq {fields : List (String × Json)} {first : Bool} :
    textFields first fields = enclosed '\x7d' first
      (fields.map fun field => member (field.1, String.ofList (text field.2))) := by
  induction fields generalizing first with
  | nil => rfl
  | cons field fields ih =>
      have colon : ": ".toList = [':', ' '] := rfl
      rw [textFields, ih, List.map_cons, enclosed, member, String.toList_append,
        String.toList_append,
        colon, String.toList_ofList, List.append_assoc, List.append_assoc]
      rfl

theorem sortKeys_map (fields : List (String × Json)) :
    sortKeys (fields.map fun field => (field.1, String.ofList (text field.2))) =
      (fields.insertionSort fun a b => a.1 ≤ b.1).map fun field =>
        (field.1, String.ofList (text field.2)) := by
  unfold sortKeys
  exact (List.map_insertionSort (r := fun a b : String × Json => a.1 ≤ b.1)
    (s := fun a b : String × String => a.1 ≤ b.1) _ fields fun _ _ _ _ => Iff.rfl).symm

mutual

/-- The text under `sort_keys` is that of the sorted value. -/
theorem dumps_eq : ∀ value : Json, dumps value = String.ofList (text (sorted value))
  | .null | .bool true | .bool false => rfl
  | .int value => (String.ofList_toList).symm
  | .str value => (String.ofList_toList).symm
  | .arr items => by
      have bracket : "[".toList = ['['] := rfl
      have bracket' : "]".toList = [']'] := rfl
      rw [← String.toList_inj, String.toList_ofList, sorted, text, textItems_eq,
        enclosed_eq, dumps,
        dumpsItems_eq items, String.toList_append, String.toList_append, bracket, bracket']
      rfl
  | .obj fields => by
      have brace : "\x7b".toList = ['\x7b'] := rfl
      have brace' : "\x7d".toList = ['\x7d'] := rfl
      rw [← String.toList_inj, String.toList_ofList, sorted, text, textFields_eq,
        enclosed_eq, dumps,
        dumpsFields_eq fields, sortKeys_map, String.toList_append, String.toList_append,
        brace, brace']
      rw [List.map_map]
      rfl

theorem dumpsItems_eq : ∀ items : List Json,
    dumpsItems items = (sortedItems items).map fun item => String.ofList (text item)
  | [] => rfl
  | item :: items =>
      by rw [dumpsItems, sortedItems, List.map_cons, dumps_eq item, dumpsItems_eq items]

theorem dumpsFields_eq : ∀ fields : List (String × Json),
    dumpsFields fields = (sortedFields fields).map fun field =>
      (field.1, String.ofList (text field.2))
  | [] => rfl
  | (key, value) :: fields => by
      rw [dumpsFields, sortedFields, List.map_cons, dumps_eq value, dumpsFields_eq fields]

end

/-! ## A text ends where it ends -/

/-- What the first character of a text says about the value. -/
inductive Shape
  | null | true | false | int | str | arr | obj | close
deriving DecidableEq

/-- The shape that a first character announces. -/
def shapeOf (c : Char) : Shape :=
  if c = 'n' then .null
  else if c = 't' then .true
  else if c = 'f' then .false
  else if c = '"' then .str
  else if c = '[' then .arr
  else if c = '\x7b' then .obj
  else if c = ']' ∨ c = '\x7d' then .close
  else .int

/-- The shape of a value. -/
def shape : Json → Shape
  | .null => .null
  | .bool true => .true
  | .bool false => .false
  | .int _ => .int
  | .str _ => .str
  | .arr _ => .arr
  | .obj _ => .obj

theorem shapeOf_int {c : Char} (int : ofInt c = true) : shapeOf c = .int := by
  have apart : ∀ d : Char, ofInt d = false → c ≠ d := fun d other same => by
    rw [same, other] at int
    cases int
  unfold shapeOf
  rw [if_neg (apart _ (by decide)), if_neg (apart _ (by decide)), if_neg (apart _ (by decide)),
    if_neg (apart _ (by decide)), if_neg (apart _ (by decide)), if_neg (apart _ (by decide)),
    if_neg fun close => close.elim (apart _ (by decide)) (apart _ (by decide))]

/-- The text of a value begins with its shape. -/
theorem exists_head (value : Json) : ∃ c rest, text value = c :: rest ∧
  shapeOf c = shape value := by
  cases value with
  | null => exact ⟨_, _, rfl, rfl⟩
  | bool b =>
      cases b with
      | true => exact ⟨_, _, rfl, rfl⟩
      | false => exact ⟨_, _, rfl, rfl⟩
  | int n =>
      cases digits : (toString n).toList with
      | nil =>
          have read := DecimalText.readInt_toString n
          rw [digits] at read
          cases read
      | cons c rest =>
          refine ⟨c, rest, digits, shapeOf_int (ofInt_toString n c ?_)⟩
          rw [digits]
          exact List.mem_cons_self ..
  | str s =>
      refine ⟨'"', (s.toList.flatMap fun c => (escape c).toList) ++ ['"'], ?_, rfl⟩
      rw [text, toList_quote, List.cons_append]
  | arr items => exact ⟨_, _, rfl, rfl⟩
  | obj fields => exact ⟨_, _, rfl, rfl⟩

theorem shape_eq {v w : Json} {r r' : List Char} (same : text v ++ r = text w ++ r') :
    shape v = shape w := by
  obtain ⟨c, rest, head, first⟩ := exists_head v
  obtain ⟨c', rest', head', first'⟩ := exists_head w
  rw [head, head'] at same
  rw [← first, ← first', (List.cons.inj same).1]

/-- No value begins like the end of an array or an object. -/
theorem text_ne_close {v : Json} {c : Char} {r r' : List Char} (close : shapeOf c = .close) :
    text v ++ r ≠ c :: r' := by
  intro same
  obtain ⟨c', rest, head, first⟩ := exists_head v
  rw [head] at same
  rw [(List.cons.inj same).1, close] at first
  cases v with
  | bool b => cases b <;> cases first
  | _ => cases first

theorem ends_of_head {c : Char} {r : List Char} (other : ofInt c = false) : Ends (c :: r) := by
  intro c' mem
  cases mem
  unfold ofInt at other
  rw [Bool.or_eq_false_iff, decide_eq_false_iff_not] at other
  exact other

theorem ends_items {items : List Json} {r : List Char} : Ends (textItems false items ++ r) := by
  cases items with
  | nil => exact ends_of_head (by decide)
  | cons item items => exact ends_of_head (by decide)

theorem ends_fields {fields : List (String × Json)} {r : List Char} :
    Ends (textFields false fields ++ r) := by
  cases fields with
  | nil => exact ends_of_head (by decide)
  | cons field fields => exact ends_of_head (by decide)

mutual

/-- **The text of a value ends where it ends.** -/
theorem text_cancel : ∀ (v w : Json) (r r' : List Char), Ends r → Ends r' →
    text v ++ r = text w ++ r' → v = w ∧ r = r'
  | v, w, r, r', ends, ends', same => by
      have shapes := shape_eq same
      cases v with
      | null =>
          cases w with
          | null => exact ⟨rfl, List.append_cancel_left same⟩
          | bool b => cases b <;> cases shapes
          | _ => cases shapes
      | bool b =>
          cases w with
          | bool b' =>
              cases b with
              | true =>
                  cases b' with
                  | true => exact ⟨rfl, List.append_cancel_left same⟩
                  | false => cases shapes
              | false =>
                  cases b' with
                  | true => cases shapes
                  | false => exact ⟨rfl, List.append_cancel_left same⟩
          | _ => cases b <;> cases shapes
      | int n =>
          cases w with
          | int n' =>
              obtain ⟨rfl, after⟩ := int_cancel ends ends' same
              exact ⟨rfl, after⟩
          | bool b => cases b <;> cases shapes
          | _ => cases shapes
      | str s =>
          cases w with
          | str s' =>
              obtain ⟨rfl, after⟩ := quote_cancel same
              exact ⟨rfl, after⟩
          | bool b => cases b <;> cases shapes
          | _ => cases shapes
      | arr items =>
          cases w with
          | arr items' =>
              obtain ⟨rfl, after⟩ := items_cancel items items' true r r' (List.cons.inj same).2
              exact ⟨rfl, after⟩
          | bool b => cases b <;> cases shapes
          | _ => cases shapes
      | obj fields =>
          cases w with
          | obj fields' =>
              obtain ⟨rfl, after⟩ :=
                fields_cancel fields fields' true r r' (List.cons.inj same).2
              exact ⟨rfl, after⟩
          | bool b => cases b <;> cases shapes
          | _ => cases shapes

theorem items_cancel : ∀ (items items' : List Json) (first : Bool) (r r' : List Char),
    textItems first items ++ r = textItems first items' ++ r' → items = items' ∧ r = r'
  | [], [], _, _, _, same => ⟨rfl, (List.cons.inj same).2⟩
  | [], _ :: _, true, _, _, same => by
      rw [textItems, textItems, comma, if_pos rfl, List.nil_append, List.append_assoc] at same
      exact (text_ne_close rfl same.symm).elim
  | [], _ :: _, false, _, _, same => absurd (List.cons.inj same).1 (by decide)
  | _ :: _, [], true, _, _, same => by
      rw [textItems, textItems, comma, if_pos rfl, List.nil_append, List.append_assoc] at same
      exact (text_ne_close rfl same).elim
  | _ :: _, [], false, _, _, same => absurd (List.cons.inj same).1 (by decide)
  | item :: items, item' :: items', first, r, r', same => by
      rw [textItems, textItems, List.append_assoc, List.append_assoc, List.append_assoc,
        List.append_assoc] at same
      obtain ⟨rfl, rest⟩ := text_cancel item item' _ _ ends_items ends_items
        (List.append_cancel_left same)
      obtain ⟨rfl, after⟩ := items_cancel items items' false r r' rest
      exact ⟨rfl, after⟩

theorem fields_cancel :
    ∀ (fields fields' : List (String × Json)) (first : Bool) (r r' : List Char),
    textFields first fields ++ r = textFields first fields' ++ r' → fields = fields' ∧ r = r'
  | [], [], _, _, _, same => ⟨rfl, (List.cons.inj same).2⟩
  | [], (key, value) :: _, true, _, _, same => by
      rw [textFields, textFields, comma, if_pos rfl, List.nil_append, toList_quote] at same
      exact absurd (List.cons.inj same).1 (by decide)
  | [], _ :: _, false, _, _, same => absurd (List.cons.inj same).1 (by decide)
  | (key, value) :: _, [], true, _, _, same => by
      rw [textFields, textFields, comma, if_pos rfl, List.nil_append, toList_quote] at same
      exact absurd (List.cons.inj same).1 (by decide)
  | _ :: _, [], false, _, _, same => absurd (List.cons.inj same).1 (by decide)
  | (key, value) :: fields, (key', value') :: fields', first, r, r', same => by
      rw [textFields, textFields, List.append_assoc, List.append_assoc, List.append_assoc,
        List.append_assoc] at same
      obtain ⟨rfl, rest⟩ := quote_cancel (List.append_cancel_left same)
      have values := (List.cons.inj (List.cons.inj rest).2).2
      rw [List.append_eq, List.append_eq, List.append_assoc, List.append_assoc] at values
      obtain ⟨rfl, more⟩ := text_cancel value value' _ _ ends_fields ends_fields values
      obtain ⟨rfl, after⟩ := fields_cancel fields fields' false r r' more
      exact ⟨rfl, after⟩

end

/-- **Two values have the same text exactly when they are equal up to the order of fields.** -/
theorem dumps_inj {v w : Json} : dumps v = dumps w ↔ sorted v = sorted w := by
  rw [dumps_eq, dumps_eq]
  constructor
  · intro same
    have texts : text (sorted v) = text (sorted w) := by
      rw [← String.toList_ofList (l := text (sorted v)), same, String.toList_ofList]
    refine (text_cancel _ _ [] [] nofun nofun ?_).1
    rw [List.append_nil, List.append_nil, texts]
  · intro same
    rw [same]

end TicketCore.Json
