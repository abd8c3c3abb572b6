import LifeStory.Json.Reader
import LifeStory.Proofs.Json.Numbers

/-!
# Reading what was written

Every datum reads back from its text (`read?_pretty`), as the same tree with each part in it read
back from its own text (`Datum.reread`). Texts, truth values, null and the integers that a 64-bit
word holds read back as themselves. Whether a floating-point number does depends on the number: its
text may be read a unit in the last place off.

    Json.read? (pretty d) = some d.reread                                          (read?_pretty)
    -2^63 ≤ n → n < 2^64 → (.integer n).reread = .integer n                     (reread_integer)
-/

namespace LifeStory

namespace Datum

mutual

/-- What the text of a datum reads as. -/
def reread : Datum → Datum
  | .list items => .list (rereadItems items)
  | .table members => .table (rereadMembers members)
  | d => (Json.read? (String.ofList (Json.scalar d))).getD .unreadable

/-- What the texts of items read as. -/
def rereadItems : List Datum → List Datum
  | [] => []
  | d :: rest => d.reread :: rereadItems rest

/-- What the texts of members read as. -/
def rereadMembers : List (String × Datum) → List (String × Datum)
  | [] => []
  | (name, d) :: rest => (name, d.reread) :: rereadMembers rest

end

theorem rereadItems_eq_map (items : List Datum) : rereadItems items = items.map reread := by
  induction items with
  | nil => rfl
  | cons d rest ih => simp [rereadItems, ih]

theorem rereadMembers_eq_map (members : List (String × Datum)) :
    rereadMembers members = members.map fun m => (m.1, m.2.reread) := by
  induction members with
  | nil => rfl
  | cons m rest ih => simp [rereadMembers, ih]

end Datum

namespace Json

/-! ## Reader and text -/

/-- The datum that is read in the end, where the rest of the text is `cs`. -/
def Reader.readAll (r : Reader) (cs : List Char) : Option Datum :=
  (tokens? cs).bind fun tokens => (r.feedAll tokens).bind Reader.result

theorem Reader.readAll_of_tokens? {r : Reader} {cs tail : List Char} {t : Token}
    (h : tokens? cs = (tokens? tail).map (t :: ·)) :
    r.readAll cs = (r.feed t).bind fun r => r.readAll tail := by
  unfold readAll
  rw [h]
  cases tokens? tail with
  | none => cases r.feed t <;> rfl
  | some tokens =>
    show ((r.feed t).bind fun r => r.feedAll tokens).bind result = _
    cases r.feed t <;> rfl

/-- May a value come next? -/
def Reader.TakesValue (r : Reader) : Prop := r.expected = .value ∨ r.expected = .valueOrClose

/-- The value of a token that is a value by itself. -/
def Token.value? : Token → Option Datum
  | .null => some .null
  | .bool b => some (.bool b)
  | .number l => some l.toDatum
  | .text (some s) => some (.text s)
  | _ => none

theorem Reader.feed_of_value? {r : Reader} (h : r.TakesValue) {t : Token} {d : Datum}
    (ht : t.value? = some d) : r.feed t = some (deliver r.frames d) := by
  have hv : ∀ d, r.value? d = some (deliver r.frames d) := by
    intro d
    unfold value?
    rcases h with h | h <;> rw [h]
  have htext : ∀ s, r.text? (some s) = r.value? (.text s) := by
    intro s
    unfold text?
    rcases h with h | h <;> rw [h]
  cases t with
  | null => cases ht; exact hv _
  | bool b => cases ht; exact hv _
  | number l => cases ht; exact hv _
  | text s =>
    cases s with
    | none => cases ht
    | some s => cases ht; exact (htext s).trans (hv _)
  | openList | closeList | openTable | closeTable | comma | colon => cases ht

/-! ## Data without parts -/

/-- A number, or null where there is none to write. -/
theorem exists_spells_number {text : Option (List Char)}
    (h : ∀ cs, text = some cs → ∃ l, PartialNumber.read? cs = some l) :
    ∃ t v, Spells (text.getD "null".toList) t ∧ t.value? = some v := by
  cases text with
  | none => exact ⟨_, _, spells_null, rfl⟩
  | some cs =>
    obtain ⟨l, hl⟩ := h cs rfl
    exact ⟨_, _, spells_number hl, rfl⟩

/-- A datum without parts is written as one token, and that token is a value. -/
theorem exists_spells_scalar (d : Datum) :
    ∃ t v, Spells (scalar d) t ∧ t.value? = some v := by
  cases d with
  | bool b =>
    cases b with
    | false => exact ⟨_, _, spells_false, rfl⟩
    | true => exact ⟨_, _, spells_true, rfl⟩
  | integer n =>
    obtain ⟨l, hl, -⟩ := exists_spells_integer n
    exact ⟨_, _, hl, rfl⟩
  | real x => exact exists_spells_number fun cs hx => Numeral.exists_read?_write rfl hx
  | single x => exact exists_spells_number fun cs hx => Numeral.exists_read?_write rfl hx
  | text s => exact ⟨_, _, fun tail _ => tokens?_quote s tail, rfl⟩
  | null | list _ | table _ | unreadable => exact ⟨_, _, spells_null, rfl⟩

theorem read?_of_spells {cs : List Char} {t : Token} {d : Datum} (h : Spells cs t)
    (ht : t.value? = some d) : read? (String.ofList cs) = some d := by
  have hcs := h [] (by simp [Stops])
  rw [List.append_nil] at hcs
  show Reader.start.readAll (String.ofList cs).toList = _
  rw [String.toList_ofList, Reader.readAll_of_tokens? hcs, Reader.feed_of_value? (.inl rfl) ht]
  rfl

theorem Reader.readAll_scalar {r : Reader} (h : r.TakesValue) (d : Datum) {tail : List Char}
    (stops : Stops tail) :
    r.readAll (scalar d ++ tail) =
      (deliver r.frames ((read? (String.ofList (scalar d))).getD .unreadable)).readAll tail := by
  obtain ⟨t, v, ht, hv⟩ := exists_spells_scalar d
  rw [read?_of_spells ht hv, readAll_of_tokens? (ht tail stops), feed_of_value? h hv]
  rfl

end Json

namespace Datum

open Json (exists_spells_integer read?_of_spells read? spells_null spells_true spells_false
  tokens?_quote)

@[simp] theorem reread_null : null.reread = null := by
  show (read? (String.ofList "null".toList)).getD unreadable = _
  rw [read?_of_spells spells_null rfl]
  rfl

@[simp] theorem reread_bool (b : Bool) : (bool b).reread = bool b := by
  cases b with
  | false =>
    show (read? (String.ofList "false".toList)).getD unreadable = _
    rw [read?_of_spells spells_false rfl]
    rfl
  | true =>
    show (read? (String.ofList "true".toList)).getD unreadable = _
    rw [read?_of_spells spells_true rfl]
    rfl

@[simp] theorem reread_text (s : String) : (text s).reread = text s := by
  show (read? (String.ofList (Json.quote s))).getD unreadable = _
  rw [read?_of_spells (fun tail _ => tokens?_quote s tail) rfl]
  rfl

theorem reread_integer {n : Int} (least : -0x8000000000000000 ≤ n)
    (greatest : n < 0x10000000000000000) : (integer n).reread = integer n := by
  obtain ⟨l, hl, hn⟩ := exists_spells_integer n
  show (read? (String.ofList (Json.integer n))).getD unreadable = _
  rw [read?_of_spells hl rfl, hn least greatest]
  rfl

/-- A word of at most 64 bits reads back as itself. -/
theorem reread_word {α : Type} [Word α] (least : -0x8000000000000000 ≤ Word.least α)
    (greatest : Word.greatest α < 0x10000000000000000) (a : α) : (word a).reread = word a := by
  have hleast := Word.least_le_toInt a
  have hgreatest := Word.toInt_le_greatest a
  exact reread_integer (by omega) (by omega)

@[simp] theorem reread_list (items : List Datum) :
    (list items).reread = list (items.map reread) := by
  rw [reread, rereadItems_eq_map]

@[simp] theorem reread_table (members : List (String × Datum)) :
    (table members).reread = table (members.map fun m => (m.1, m.2.reread)) := by
  rw [reread, rereadMembers_eq_map]

end Datum

namespace Json

/-! ## Lists and tables -/

namespace Reader

theorem readAll_mark {c : Char} {t : Token} (h : Lexer.mark? c = some t) (r : Reader)
    (tail : List Char) : r.readAll (c :: tail) = (r.feed t).bind fun r => r.readAll tail :=
  readAll_of_tokens? (tokens?_mark h tail)

theorem readAll_newLine (r : Reader) (depth : Nat) (tail : List Char) :
    r.readAll (newLine depth ++ tail) = r.readAll tail := by
  unfold readAll
  rw [tokens?_gaps]
  intro c hc
  unfold newLine at hc
  rcases List.mem_cons.1 hc with rfl | hc
  · rfl
  · rw [List.eq_of_mem_replicate hc]
    rfl

/-- A list is opened where a value may come, -/
theorem readAll_openList {r : Reader} (h : r.TakesValue) (tail : List Char) :
    r.readAll ('[' :: tail) = readAll ⟨.list [] :: r.frames, .valueOrClose, none⟩ tail := by
  rw [readAll_mark rfl]
  show (r.open? _ _).bind _ = _
  unfold open?
  rcases h with h | h <;> rw [h] <;> rfl

/-- and so is a table. -/
theorem readAll_openTable {r : Reader} (h : r.TakesValue) (tail : List Char) :
    r.readAll ('{' :: tail) =
      readAll ⟨.table [] none true :: r.frames, .nameOrClose, none⟩ tail := by
  rw [readAll_mark rfl]
  show (r.open? _ _).bind _ = _
  unfold open?
  rcases h with h | h <;> rw [h] <;> rfl

theorem readAll_closeList {expected : Expected}
    (h : expected = .valueOrClose ∨ expected = .separator) (items : List Datum)
    (frames : List Frame) (tail : List Char) :
    readAll ⟨.list items :: frames, expected, none⟩ (']' :: tail) =
      (deliver frames (.list items.reverse)).readAll tail := by
  rw [readAll_mark rfl]
  rcases h with rfl | rfl <;> rfl

theorem readAll_closeTable {expected : Expected}
    (h : expected = .nameOrClose ∨ expected = .separator) (members : List (String × Datum))
    (frames : List Frame) (tail : List Char) :
    readAll ⟨.table members none true :: frames, expected, none⟩ ('}' :: tail) =
      (deliver frames (.table members.reverse)).readAll tail := by
  rw [readAll_mark rfl]
  rcases h with rfl | rfl <;> rfl

/-- The name of a member is followed by a colon and a blank, and then its value may come. -/
theorem readAll_name {expected : Expected} (h : expected = .nameOrClose ∨ expected = .name)
    (members : List (String × Datum)) (frames : List Frame) (name : String) (tail : List Char) :
    readAll ⟨.table members none true :: frames, expected, none⟩
        (quote name ++ ':' :: ' ' :: tail) =
      readAll ⟨.table members (some name) true :: frames, .value, none⟩ tail := by
  have hname : ∀ tail, readAll ⟨.table members none true :: frames, expected, none⟩
      (quote name ++ tail) =
        readAll ⟨.table members (some name) true :: frames, .colon, none⟩ tail := by
    intro tail
    rw [readAll_of_tokens? (tokens?_quote name tail)]
    rcases h with rfl | rfl <;> rfl
  rw [hname, readAll_mark rfl]
  show readAll _ (' ' :: tail) = _
  unfold readAll
  rw [tokens?_gap rfl]

/-! What follows a datum in a list or table ends it. -/

theorem stops_newLine (depth : Nat) (tail : List Char) : Stops (newLine depth ++ tail) := by
  intro c hc
  cases hc
  exact .inl rfl

theorem stops_prettyItems (depth : Nat) (ds : List Datum) {tail : List Char} (h : Stops tail) :
    Stops (prettyItems depth ds ++ tail) := by
  cases ds with
  | nil => exact h
  | cons d ds =>
    intro c hc
    cases hc
    exact .inr rfl

theorem stops_prettyMembers (depth : Nat) (ms : List (String × Datum)) {tail : List Char}
    (h : Stops tail) : Stops (prettyMembers depth ms ++ tail) := by
  cases ms with
  | nil => exact h
  | cons m ms =>
    intro c hc
    cases hc
    exact .inr rfl

mutual

/-- The text of a datum is read where a value may come. -/
theorem readAll_prettyAt (d : Datum) (depth : Nat) {r : Reader} (h : r.TakesValue)
    {tail : List Char} (stops : Stops tail) :
    r.readAll (prettyAt depth d ++ tail) = (deliver r.frames d.reread).readAll tail := by
  match d with
  | .list [] =>
    show r.readAll ('[' :: ']' :: tail) = _
    rw [readAll_openList h, readAll_closeList (.inl rfl)]
    rfl
  | .list (d :: rest) =>
    have hend := stops_newLine depth (']' :: tail)
    show r.readAll ('[' :: newLine (depth + 1) ++ prettyAt (depth + 1) d
      ++ prettyItems (depth + 1) rest ++ newLine depth ++ [']'] ++ tail) = _
    simp only [List.cons_append, List.append_assoc, List.nil_append]
    rw [readAll_openList h, readAll_newLine,
      readAll_prettyAt d (depth + 1) (.inr rfl) (stops_prettyItems (depth + 1) rest hend)]
    show readAll ⟨.list [d.reread] :: r.frames, .separator, none⟩ _ = _
    rw [readAll_prettyItems rest (depth + 1) [d.reread] r.frames hend, readAll_newLine,
      readAll_closeList (.inr rfl), List.reverse_append, List.reverse_reverse]
    rfl
  | .table [] =>
    show r.readAll ('{' :: '}' :: tail) = _
    rw [readAll_openTable h, readAll_closeTable (.inl rfl)]
    rfl
  | .table ((name, d) :: rest) =>
    have hend := stops_newLine depth ('}' :: tail)
    show r.readAll ('{' :: newLine (depth + 1) ++ quote name ++ [':', ' ']
      ++ prettyAt (depth + 1) d ++ prettyMembers (depth + 1) rest ++ newLine depth ++ ['}']
      ++ tail) = _
    simp only [List.cons_append, List.append_assoc, List.nil_append]
    rw [readAll_openTable h, readAll_newLine, readAll_name (.inl rfl),
      readAll_prettyAt d (depth + 1) (.inl rfl) (stops_prettyMembers (depth + 1) rest hend)]
    show readAll ⟨.table [(name, d.reread)] none true :: r.frames, .separator, none⟩ _ = _
    rw [readAll_prettyMembers rest (depth + 1) [(name, d.reread)] r.frames hend, readAll_newLine,
      readAll_closeTable (.inr rfl), List.reverse_append, List.reverse_reverse]
    rfl
  | .null => exact readAll_scalar h .null stops
  | .bool b => exact readAll_scalar h (.bool b) stops
  | .integer n => exact readAll_scalar h (.integer n) stops
  | .real x => exact readAll_scalar h (.real x) stops
  | .single x => exact readAll_scalar h (.single x) stops
  | .text s => exact readAll_scalar h (.text s) stops
  | .unreadable => exact readAll_scalar h .unreadable stops

/-- The items after the first are read after the first. -/
theorem readAll_prettyItems (ds : List Datum) (depth : Nat) (items : List Datum)
    (frames : List Frame) {tail : List Char} (stops : Stops tail) :
    readAll ⟨.list items :: frames, .separator, none⟩ (prettyItems depth ds ++ tail) =
      readAll ⟨.list ((Datum.rereadItems ds).reverse ++ items) :: frames, .separator, none⟩
        tail := by
  match ds with
  | [] => rfl
  | d :: rest =>
    show readAll _ (',' :: newLine depth ++ prettyAt depth d ++ prettyItems depth rest ++ tail) = _
    simp only [List.cons_append, List.append_assoc]
    rw [readAll_mark rfl]
    show readAll ⟨.list items :: frames, .value, none⟩ _ = _
    rw [readAll_newLine, readAll_prettyAt d depth (.inl rfl) (stops_prettyItems depth rest stops)]
    show readAll ⟨.list (d.reread :: items) :: frames, .separator, none⟩ _ = _
    rw [readAll_prettyItems rest depth (d.reread :: items) frames stops, Datum.rereadItems,
      List.reverse_cons, List.append_assoc, List.singleton_append]

/-- The members after the first are read after the first. -/
theorem readAll_prettyMembers (ms : List (String × Datum)) (depth : Nat)
    (members : List (String × Datum)) (frames : List Frame) {tail : List Char}
    (stops : Stops tail) :
    readAll ⟨.table members none true :: frames, .separator, none⟩
        (prettyMembers depth ms ++ tail) =
      readAll ⟨.table ((Datum.rereadMembers ms).reverse ++ members) none true :: frames, .separator,
        none⟩ tail := by
  match ms with
  | [] => rfl
  | (name, d) :: rest =>
    show readAll _ (',' :: newLine depth ++ quote name ++ [':', ' '] ++ prettyAt depth d
      ++ prettyMembers depth rest ++ tail) = _
    simp only [List.cons_append, List.append_assoc, List.nil_append]
    rw [readAll_mark rfl]
    show readAll ⟨.table members none true :: frames, .name, none⟩ _ = _
    rw [readAll_newLine, readAll_name (.inr rfl),
      readAll_prettyAt d depth (.inl rfl) (stops_prettyMembers depth rest stops)]
    show readAll ⟨.table ((name, d.reread) :: members) none true :: frames, .separator, none⟩ _ = _
    rw [readAll_prettyMembers rest depth ((name, d.reread) :: members) frames stops,
      Datum.rereadMembers, List.reverse_cons, List.append_assoc, List.singleton_append]

end

end Reader

/-- Every datum reads back from its text. -/
theorem read?_pretty (d : Datum) : read? (pretty d) = some d.reread := by
  have h := @Reader.readAll_prettyAt d 0 .start (.inl rfl) [] (by simp [Stops])
  rw [List.append_nil] at h
  show Reader.start.readAll (String.ofList (prettyAt 0 d)).toList = _
  rw [String.toList_ofList, h]
  rfl

end Json

end LifeStory
