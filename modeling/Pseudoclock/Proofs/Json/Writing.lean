import Mathlib
import Pseudoclock.Json.Decoder
import Pseudoclock.Proofs.Decimal.Document
import Pseudoclock.Proofs.Json.Literal
import Pseudoclock.Proofs.Json.Quotation

/-!
Written documents are read back part by part. Finite numbers are read as their literals, and other ones are missing.
-/

namespace Pseudoclock.Json

/-- The number that a literal is read as. -/
def literalOf (text : List Char) : Numeral :=
  ((numeral? text).map (·.1)).getD (Numeral.ofNat 0)

theorem IsLiteral.literalOf_eq {text : List Char} {numeral : Numeral} (hliteral : IsLiteral text numeral) :
    literalOf text = numeral := by
  have hread := hliteral.numeral?_append [] (by simp [Closes])
  rw [List.append_nil] at hread
  rw [literalOf, hread]
  rfl

mutual

/-- What a written value is read as. -/
def Value.reading : Value → Reading
  | .null => .null
  | .bool value => .bool value
  | .natural n => .number (Numeral.ofNat n)
  | .float x => if x.isFinite then .number (literalOf (floatText x)) else .null
  | .string s => .string (some s)
  | .array items => .array (itemReadings items)
  | .object fields => .object (fieldReadings fields)

def itemReadings : List Value → List Reading
  | [] => []
  | item :: items => item.reading :: itemReadings items

def fieldReadings : List (String × Value) → List (Option String × Reading)
  | [] => []
  | (name, value) :: fields => (some name, value.reading) :: fieldReadings fields

end

@[simp] theorem itemReadings_eq_map (items : List Value) : itemReadings items = items.map Value.reading := by
  induction items with
  | nil => rfl
  | cons item items ih => rw [itemReadings, ih, List.map_cons]

@[simp] theorem fieldReadings_eq_map (fields : List (String × Value)) :
    fieldReadings fields = fields.map fun field => (some field.1, field.2.reading) := by
  induction fields with
  | nil => rfl
  | cons field fields ih => rw [fieldReadings, ih, List.map_cons]

section Blanks

private theorem skipBlanks_lineBreak (spacing : Spacing) (depth : Nat) (s : List Char) :
    skipBlanks (spacing.lineBreak depth ++ s) = skipBlanks s := by
  refine List.dropWhile_append_of_pos fun c hc => ?_
  cases spacing with
  | compact => cases hc
  | indented =>
    rcases List.mem_cons.mp hc with rfl | hc
    · rfl
    · rw [List.eq_of_mem_replicate hc]
      rfl

private theorem skipBlanks_cons {c : Char} (hc : isBlank c = false) (s : List Char) :
    skipBlanks (c :: s) = c :: s := by
  simp [skipBlanks, hc]

/-- Blanks in front of a value do not matter. -/
private theorem readValue_congr {s t : List Char} (hblanks : skipBlanks s = skipBlanks t) (fuel : Nat) :
    readValue fuel s = readValue fuel t := by
  cases fuel with
  | zero => rfl
  | succ fuel => rw [readValue, readValue, hblanks]

private theorem readItems_congr {s t : List Char} (hblanks : skipBlanks s = skipBlanks t) (fuel : Nat) :
    readItems fuel s = readItems fuel t := by
  cases fuel with
  | zero => rfl
  | succ fuel => rw [readItems, readItems, readValue_congr hblanks]

private theorem readFields_congr {s t : List Char} (hblanks : skipBlanks s = skipBlanks t) (fuel : Nat) :
    readFields fuel s = readFields fuel t := by
  cases fuel with
  | zero => rfl
  | succ fuel => rw [readFields, readFields, hblanks]

end Blanks

/-- A literal begins with no other character that means something. -/
private theorem IsLiteral.head_ne {text : List Char} {numeral : Numeral} (hliteral : IsLiteral text numeral) :
    ∃ c digits, text = c :: digits ∧ isBlank c = false ∧
      c ∉ ['"', '[', ']', '{', '}', 'n', 't', 'f'] := by
  obtain ⟨c, digits, rfl, hc⟩ := hliteral.head
  refine ⟨c, digits, rfl, ?_, ?_⟩
  · rcases hc with hc | rfl
    · by_contra hblank
      simp only [isBlank, Bool.not_eq_false, Bool.or_eq_true, beq_iff_eq] at hblank
      rcases hblank with ((rfl | rfl) | rfl) | rfl <;> cases hc
    · rfl
  · intro hmem
    rcases hc with hc | rfl
    · simp only [List.mem_cons, List.not_mem_nil, or_false] at hmem
      rcases hmem with rfl | rfl | rfl | rfl | rfl | rfl | rfl | rfl <;> cases hc
    · revert hmem
      decide

private theorem readValue_literal {text : List Char} {numeral : Numeral} (hliteral : IsLiteral text numeral)
    {rest : List Char} (hcloses : Closes rest) (fuel : Nat) :
    readValue (fuel + 1) (text ++ rest) = (.number numeral, rest) := by
  have hread := hliteral.numeral?_append rest hcloses
  obtain ⟨c, digits, rfl, hblank, hother⟩ := hliteral.head_ne
  simp only [List.mem_cons, List.not_mem_nil, or_false, not_or] at hother
  rw [List.cons_append] at hread ⊢
  rw [readValue, skipBlanks_cons hblank]
  split <;> simp_all

/-- A value is read back wherever it stands, if there is fuel for its text. -/
def ReadsBack (spacing : Spacing) (value : Value) : Prop :=
  ∀ depth fuel rest, 2 * (value.write spacing depth).length ≤ fuel → Closes rest →
    readValue fuel (value.write spacing depth ++ rest) = (value.reading, rest)

private theorem closes_lineBreak (spacing : Spacing) (depth : Nat) {c : Char} (hc : c = ']' ∨ c = '}')
    (rest : List Char) : Closes (spacing.lineBreak depth ++ c :: rest) := by
  cases spacing with
  | compact =>
    rintro _ ⟨⟩
    rcases hc with rfl | rfl <;> simp
  | indented =>
    rintro _ ⟨⟩
    simp

/-- The items of a list are read one after the other up to its bracket. -/
private theorem readItems_write {spacing : Spacing} {item : Value} {items : List Value}
    (hitems : ∀ value ∈ item :: items, ReadsBack spacing value) (depth outer : Nat) {fuel : Nat}
    (hfuel : 2 * ((item.write spacing depth).length + (writeItems spacing depth items).length) + 1 ≤ fuel)
    (rest : List Char) :
    readItems fuel (item.write spacing depth ++ (writeItems spacing depth items ++
      (spacing.lineBreak outer ++ ']' :: rest))) = ((item :: items).map Value.reading, rest) := by
  induction items generalizing item fuel with
  | nil =>
    obtain ⟨fuel, rfl⟩ := Nat.exists_eq_add_one_of_ne_zero (by omega : fuel ≠ 0)
    have hitem := hitems item (by simp) depth fuel _ (by simp [writeItems] at hfuel; omega)
      (closes_lineBreak spacing outer (.inl rfl) rest)
    rw [readItems, writeItems, List.nil_append, hitem]
    simp only
    rw [skipBlanks_lineBreak, skipBlanks_cons rfl]
    rfl
  | cons next items ih =>
    obtain ⟨fuel, rfl⟩ := Nat.exists_eq_add_one_of_ne_zero (by omega : fuel ≠ 0)
    simp only [writeItems, List.length_append, List.length_cons] at hfuel
    simp only [writeItems, List.cons_append, List.append_assoc]
    have hitem := hitems item (by simp) depth fuel
      (',' :: (spacing.lineBreak depth ++ (next.write spacing depth ++ (writeItems spacing depth items ++
        (spacing.lineBreak outer ++ ']' :: rest))))) (by omega) (by rintro _ ⟨⟩; simp)
    have hrest := @ih next (fun value hvalue => hitems value (List.mem_cons_of_mem _ hvalue)) fuel (by omega)
    rw [readItems, hitem]
    simp only
    rw [skipBlanks_cons rfl]
    simp only
    rw [readItems_congr (skipBlanks_lineBreak spacing depth _), hrest]
    rfl

private theorem colon_append (spacing : Spacing) (s : List Char) :
    ∃ rest, spacing.colon ++ s = ':' :: rest ∧ skipBlanks rest = skipBlanks s := by
  cases spacing with
  | compact => exact ⟨s, rfl, rfl⟩
  | indented => exact ⟨' ' :: s, rfl, rfl⟩

/-- A field with a value that is read back is read up to what follows it. -/
private theorem readFields_field {spacing : Spacing} {value : Value} (hvalue : ReadsBack spacing value)
    (name : String) (depth : Nat) {fuel : Nat} (hfuel : 2 * (value.write spacing depth).length ≤ fuel)
    {rest : List Char} (hcloses : Closes rest) :
    readFields (fuel + 1) (quote name ++ (spacing.colon ++ (value.write spacing depth ++ rest))) =
      match skipBlanks rest with
      | ',' :: rest =>
        let (fields, rest) := readFields fuel rest
        ((some name, value.reading) :: fields, rest)
      | '}' :: rest => ([(some name, value.reading)], rest)
      | _ => ([(some name, value.reading), (none, .broken)], []) := by
  obtain ⟨body, pieces, hquote, hpieces, hcontent⟩ :=
    stringPieces_quote name (spacing.colon ++ (value.write spacing depth ++ rest))
  obtain ⟨behind, hcolon, hblanks⟩ := colon_append spacing (value.write spacing depth ++ rest)
  rw [hcolon] at hpieces
  rw [readFields, hquote, skipBlanks_cons rfl]
  simp only [hpieces, hcontent]
  rw [skipBlanks_cons rfl]
  simp only
  have hread := (readValue_congr hblanks fuel).trans (hvalue depth fuel rest hfuel hcloses)
  exact hread ▸ rfl

/-- The fields of an object are read one after the other up to its brace. -/
private theorem readFields_write {spacing : Spacing} {name : String} {value : Value}
    {fields : List (String × Value)} (hfields : ∀ field ∈ (name, value) :: fields, ReadsBack spacing field.2)
    (depth outer : Nat) {fuel : Nat}
    (hfuel : 2 * ((value.write spacing depth).length + (writeFields spacing depth fields).length) + 1 ≤ fuel)
    (rest : List Char) :
    readFields fuel (quote name ++ (spacing.colon ++ (value.write spacing depth ++
      (writeFields spacing depth fields ++ (spacing.lineBreak outer ++ '}' :: rest))))) =
      (((name, value) :: fields).map fun field => (some field.1, field.2.reading), rest) := by
  induction fields generalizing name value fuel with
  | nil =>
    obtain ⟨fuel, rfl⟩ := Nat.exists_eq_add_one_of_ne_zero (by omega : fuel ≠ 0)
    rw [writeFields, List.nil_append, readFields_field (hfields (name, value) (by simp)) name depth
      (by simp [writeFields] at hfuel; omega) (closes_lineBreak spacing outer (.inr rfl) rest),
      skipBlanks_lineBreak, skipBlanks_cons rfl]
    rfl
  | cons next fields ih =>
    obtain ⟨fuel, rfl⟩ := Nat.exists_eq_add_one_of_ne_zero (by omega : fuel ≠ 0)
    simp only [writeFields, List.length_append, List.length_cons] at hfuel
    simp only [writeFields, List.cons_append, List.append_assoc]
    have hvalue : ReadsBack spacing value := hfields (name, value) (by simp)
    have hrest := @ih next.1 next.2 (fun field hfield => hfields field (List.mem_cons_of_mem _ hfield)) fuel
      (by omega)
    rw [readFields_field hvalue name depth (by omega) (by rintro _ ⟨⟩; simp), skipBlanks_cons rfl]
    simp only
    rw [readFields_congr (skipBlanks_lineBreak spacing depth _), hrest]
    rfl

/-- A written value begins with no blank and with no closing bracket. -/
private theorem write_head (value : Value) (spacing : Spacing) (depth : Nat) :
    ∃ c rest, value.write spacing depth = c :: rest ∧ isBlank c = false ∧ c ≠ ']' := by
  cases value with
  | null => exact ⟨_, _, rfl, rfl, by decide⟩
  | bool value => cases value <;> exact ⟨_, _, rfl, rfl, by decide⟩
  | natural n =>
    obtain ⟨c, digits, hwrite, hblank, hother⟩ := (isLiteral_toDigits n).head_ne
    exact ⟨c, digits, hwrite, hblank, by simp_all⟩
  | float x =>
    rw [Value.write]
    cases hfinite : x.isFinite with
    | false => exact ⟨_, _, Decimal.floatText_of_not_isFinite hfinite, rfl, by decide⟩
    | true =>
      obtain ⟨numeral, hliteral⟩ := Decimal.exists_isLiteral_document hfinite
      obtain ⟨c, digits, hwrite, hblank, hother⟩ := hliteral.head_ne
      exact ⟨c, digits, hwrite, hblank, by simp_all⟩
  | string s => exact ⟨_, _, rfl, rfl, by decide⟩
  | array items => cases items <;> exact ⟨_, _, rfl, rfl, by decide⟩
  | object fields => cases fields <;> exact ⟨_, _, rfl, rfl, by decide⟩

/-- No value has an empty text, so that there is always fuel for a first step. -/
private theorem readsBack_of_succ {spacing : Spacing} {value : Value}
    (hread : ∀ depth fuel rest, 2 * (value.write spacing depth).length ≤ fuel + 1 → Closes rest →
      readValue (fuel + 1) (value.write spacing depth ++ rest) = (value.reading, rest)) :
    ReadsBack spacing value := by
  intro depth fuel rest hfuel hcloses
  obtain ⟨c, text, hwrite, _⟩ := write_head value spacing depth
  have hlength : (value.write spacing depth).length = text.length + 1 := by rw [hwrite, List.length_cons]
  obtain ⟨fuel, rfl⟩ := Nat.exists_eq_add_one_of_ne_zero (by omega : fuel ≠ 0)
  exact hread depth fuel rest hfuel hcloses

private theorem readsBack_string (spacing : Spacing) (s : String) : ReadsBack spacing (.string s) := by
  refine readsBack_of_succ fun depth fuel rest hfuel hcloses => ?_
  obtain ⟨body, pieces, hquote, hpieces, hcontent⟩ := stringPieces_quote s rest
  rw [Value.write, hquote, readValue, skipBlanks_cons rfl]
  simp only [hpieces, hcontent, Value.reading]

private theorem readsBack_array {spacing : Spacing} {items : List Value}
    (hitems : ∀ item ∈ items, ReadsBack spacing item) : ReadsBack spacing (.array items) := by
  refine readsBack_of_succ fun depth fuel rest hfuel hcloses => ?_
  cases items with
  | nil => rfl
  | cons item items =>
    simp only [Value.write, List.length_append, List.length_cons, List.length_nil] at hfuel
    have hread := readItems_write hitems (depth + 1) depth (by omega : _ ≤ fuel) rest
    obtain ⟨c, text, hwrite, hblank, hbracket⟩ := write_head item spacing (depth + 1)
    simp only [Value.write, List.cons_append, List.append_assoc, List.nil_append]
    rw [readValue, skipBlanks_cons rfl]
    simp only
    rw [skipBlanks_lineBreak, hwrite, List.cons_append, skipBlanks_cons hblank, ← List.cons_append, ← hwrite]
    split
    · next heq =>
      rw [hwrite, List.cons_append] at heq
      exact absurd (List.cons.inj heq).1 hbracket
    · rw [hread]
      simp [Value.reading]

private theorem readsBack_object {spacing : Spacing} {fields : List (String × Value)}
    (hfields : ∀ field ∈ fields, ReadsBack spacing field.2) : ReadsBack spacing (.object fields) := by
  refine readsBack_of_succ fun depth fuel rest hfuel hcloses => ?_
  cases fields with
  | nil => rfl
  | cons field fields =>
    obtain ⟨name, value⟩ := field
    simp only [Value.write, List.length_append, List.length_cons, List.length_nil] at hfuel
    have hread := readFields_write hfields (depth + 1) depth (by omega : _ ≤ fuel) rest
    have hquote : ∀ s, skipBlanks (quote name ++ s) = quote name ++ s := fun s => skipBlanks_cons rfl _
    simp only [Value.write, List.cons_append, List.append_assoc, List.nil_append]
    rw [readValue, skipBlanks_cons rfl]
    simp only
    rw [skipBlanks_lineBreak, hquote]
    split
    · next heq => cases heq
    · rw [hread]
      simp [Value.reading]

/-- A number is read as its literal, or as a missing one. -/
private theorem readsBack_float (spacing : Spacing) (x : Float) : ReadsBack spacing (.float x) := by
  refine readsBack_of_succ fun depth fuel rest hfuel hcloses => ?_
  rw [Value.write, Value.reading]
  cases hfinite : x.isFinite with
  | false =>
    rw [Decimal.floatText_of_not_isFinite hfinite]
    rfl
  | true =>
    obtain ⟨numeral, hliteral⟩ := Decimal.exists_isLiteral_document hfinite
    rw [if_pos rfl, hliteral.literalOf_eq]
    exact readValue_literal hliteral hcloses fuel

theorem readsBack (spacing : Spacing) (value : Value) : ReadsBack spacing value := by
  match value with
  | .null => exact readsBack_of_succ fun _ _ _ _ _ => rfl
  | .bool true => exact readsBack_of_succ fun _ _ _ _ _ => rfl
  | .bool false => exact readsBack_of_succ fun _ _ _ _ _ => rfl
  | .natural n =>
    exact readsBack_of_succ fun _ fuel _ _ hcloses => readValue_literal (isLiteral_toDigits n) hcloses fuel
  | .float x => exact readsBack_float spacing x
  | .string s => exact readsBack_string spacing s
  | .array items => exact readsBack_array fun item hitem => readsBack spacing item
  | .object fields => exact readsBack_object fun field hfield => readsBack spacing field.2
termination_by sizeOf value
decreasing_by
  · have hlt := List.sizeOf_lt_of_mem hitem
    simp only [Value.array.sizeOf_spec]
    omega
  · have hlt := List.sizeOf_lt_of_mem hfield
    obtain ⟨name, value⟩ := field
    simp only [Value.object.sizeOf_spec, Prod.mk.sizeOf_spec] at hlt ⊢
    omega

/-- The text of a value is a whole document, and is read as the value. -/
theorem read_text (value : Value) (spacing : Spacing) : read (value.text spacing) = ⟨value.reading, false⟩ := by
  have hread := readsBack spacing value 0 (2 * (value.write spacing 0).length + 2) [] (by omega) (by simp [Closes])
  rw [List.append_nil] at hread
  simp only [read, Value.text, String.length_ofList, String.toList_ofList, hread]
  rfl

/-- Decoding the text of a value is decoding what it is read as. -/
theorem decode_text {α : Type} (decoder : Decoder α) (value : Value) (spacing : Spacing) :
    decode decoder (value.text spacing) = decoder value.reading := by
  rw [decode, read_text value spacing]
  cases decoder value.reading <;> rfl

end Pseudoclock.Json
