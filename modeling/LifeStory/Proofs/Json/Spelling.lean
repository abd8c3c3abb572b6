import LifeStory.Json.Printer
import LifeStory.Json.Token
import Mathlib.Tactic.SplitIfs

/-!
# Texts of tokens

How the machine that cuts a text into tokens gets through the text of one token. A bracket, a comma
and a text in quotation marks end by themselves; a word and a number end where a character stands
that they cannot go on with (`Stops`).

    mark? c = some t → tokens? (c :: tail) = (tokens? tail).map (t :: ·)          (tokens?_mark)
    tokens? (quote s ++ tail) = (tokens? tail).map (.text (some s) :: ·)          (tokens?_quote)
-/

namespace LifeStory.Json

namespace Lexer

/-! ## Tokens that are read stay -/

/-- The machine with earlier tokens below its own. -/
def above (earlier : List Token) (l : Lexer) : Lexer := ⟨l.tokens ++ earlier, l.lexeme⟩

theorem feedBetween_append (tokens earlier : List Token) (c : Char) :
    feedBetween (tokens ++ earlier) c = (feedBetween tokens c).map (above earlier) := by
  unfold feedBetween
  split
  · rfl
  · cases mark? c with
    | some t => rfl
    | none =>
      dsimp only
      split
      all_goals first | rfl | (rw [Option.map_map]; rfl)

theorem feedText_append (tokens earlier : List Token) (t : PartialText) (c : Char) :
    feedText (tokens ++ earlier) t c = (feedText tokens t c).map (above earlier) := by
  unfold feedText
  split
  · split_ifs <;> rfl
  · split_ifs
    · rfl
    · rw [Option.map_map]
      rfl
  · rw [Option.map_map]
    rfl

theorem feed_above (l : Lexer) (earlier : List Token) (c : Char) :
    (l.above earlier).feed c = (l.feed c).map (above earlier) := by
  obtain ⟨tokens, lexeme⟩ := l
  cases lexeme with
  | none => exact feedBetween_append tokens earlier c
  | word rest t =>
    cases rest with
    | nil => exact feedBetween_append (t :: tokens) earlier c
    | cons e rest =>
      show (if c == e then _ else _) = Option.map _ (if c == e then _ else _)
      split_ifs <;> rfl
  | number n =>
    unfold feed above
    dsimp only
    cases n.extend? c with
    | some n => rfl
    | none =>
      dsimp only
      split_ifs
      · exact feedBetween_append (.number n.literal :: tokens) earlier c
      · rfl
  | text t => exact feedText_append tokens earlier t c

theorem feedAll_above (l : Lexer) (earlier : List Token) (cs : List Char) :
    (l.above earlier).feedAll cs = (l.feedAll cs).map (above earlier) := by
  induction cs generalizing l with
  | nil => rfl
  | cons c cs ih =>
    show ((l.above earlier).feed c).bind (fun l => l.feedAll cs) =
      ((l.feed c).bind fun l => l.feedAll cs).map (above earlier)
    rw [feed_above]
    cases l.feed c with
    | none => rfl
    | some l => exact ih l

theorem finish?_above (l : Lexer) (earlier : List Token) :
    (l.above earlier).finish? = l.finish?.map (earlier.reverse ++ ·) := by
  obtain ⟨tokens, lexeme⟩ := l
  cases lexeme with
  | none => simp [finish?, above]
  | word rest t => cases rest <;> simp [finish?, above]
  | number n =>
    simp only [finish?, above]
    split_ifs <;> simp
  | text t => rfl

/-- What is read between two tokens goes on from the tokens before. -/
theorem finish?_feedAll_between (ts : List Token) (cs : List Char) :
    (feedAll ⟨ts, .none⟩ cs).bind finish? = (tokens? cs).map (ts.reverse ++ ·) := by
  have h := feedAll_above start ts cs
  change feedAll ⟨ts, .none⟩ cs = _ at h
  rw [h]
  unfold tokens?
  cases start.feedAll cs with
  | none => rfl
  | some l => exact finish?_above l ts

end Lexer

open Lexer (isGap mark? feedBetween)

/-! ## What follows a token -/

/-- Does a character end every word and number before it? -/
def IsStop (c : Char) : Prop := isGap c = true ∨ (mark? c).isSome = true

/-- Nothing follows, or a character that ends what is before it. -/
def Stops (tail : List Char) : Prop := ∀ c ∈ tail.head?, IsStop c

/-- Before what ends it, the text `cs` is one token. -/
def Spells (cs : List Char) (t : Token) : Prop :=
  ∀ tail, Stops tail → tokens? (cs ++ tail) = (tokens? tail).map (t :: ·)

theorem isStop_iff {c : Char} :
    IsStop c ↔ c ∈ [' ', '\n', '\t', '\r', '[', ']', '{', '}', ',', ':'] := by
  constructor
  · rintro (h | h)
    · simp only [isGap, Bool.or_eq_true, beq_iff_eq] at h
      rcases h with ((rfl | rfl) | rfl) | rfl <;> decide
    · unfold mark? at h
      split at h
      all_goals first | decide | cases h
  · intro h
    simp only [List.mem_cons, List.not_mem_nil, or_false] at h
    unfold IsStop
    rcases h with rfl | rfl | rfl | rfl | rfl | rfl | rfl | rfl | rfl | rfl <;> decide

theorem tokens?_gap {c : Char} (h : isGap c = true) (tail : List Char) :
    tokens? (c :: tail) = tokens? tail := by
  show ((feedBetween [] c).bind fun l => l.feedAll tail).bind Lexer.finish? = _
  simp [feedBetween, h, tokens?, Lexer.start]

theorem tokens?_gaps {gaps : List Char} (h : ∀ c ∈ gaps, isGap c = true) (tail : List Char) :
    tokens? (gaps ++ tail) = tokens? tail := by
  induction gaps with
  | nil => rfl
  | cons c gaps ih =>
    rw [List.cons_append, tokens?_gap (h c (by simp))]
    exact ih fun c hc => h c (by simp [hc])

theorem isGap_of_mark? {c : Char} {t : Token} (h : mark? c = some t) : isGap c = false := by
  unfold mark? at h
  split at h
  all_goals first | rfl | cases h

theorem tokens?_mark {c : Char} {t : Token} (h : mark? c = some t) (tail : List Char) :
    tokens? (c :: tail) = (tokens? tail).map (t :: ·) := by
  have hc : Lexer.start.feed c = some ⟨[t], .none⟩ := by
    show feedBetween [] c = _
    simp [feedBetween, isGap_of_mark? h, h]
  show ((Lexer.start.feed c).bind fun l => l.feedAll tail).bind Lexer.finish? = _
  rw [hc]
  exact Lexer.finish?_feedAll_between [t] tail

/-- A machine that has one whole token: the text may end, and what ends the token starts anew. -/
structure Lexer.Settles (l : Lexer) (t : Token) : Prop where
  finish? : l.finish? = some [t]
  feed : ∀ c, IsStop c → l.feed c = feedBetween [t] c

theorem spells_of_settles {cs : List Char} {l : Lexer} {t : Token}
    (read : Lexer.start.feedAll cs = some l) (settles : l.Settles t) : Spells cs t := by
  intro tail hs
  show (Lexer.start.feedAll (cs ++ tail)).bind Lexer.finish? = _
  rw [Lexer.feedAll_append, read]
  cases tail with
  | nil => exact settles.finish?
  | cons c tail =>
    show ((l.feed c).bind fun l => l.feedAll tail).bind Lexer.finish? = _
    rw [settles.feed c (hs c rfl)]
    exact Lexer.finish?_feedAll_between [t] (c :: tail)

/-! ## Words -/

theorem settles_word (t : Token) : Lexer.Settles ⟨[], .word [] t⟩ t := ⟨rfl, fun _ _ => rfl⟩

theorem spells_null : Spells "null".toList .null := spells_of_settles rfl (settles_word .null)

theorem spells_true : Spells "true".toList (.bool true) :=
  spells_of_settles rfl (settles_word (.bool true))

theorem spells_false : Spells "false".toList (.bool false) :=
  spells_of_settles rfl (settles_word (.bool false))

/-! ## Texts in quotation marks -/

/-- A text of which some characters are read, none of them in part. -/
def PartialText.whole (chars : List Char) : PartialText := ⟨chars, none, false, .plain⟩

theorem hexDigit?_hexDigit (n : Nat) : Text.hexDigit? (hexDigit n) = some (n % 16) := by
  have h : ∀ k < 16, Text.hexDigit? (Nat.digitChar k) = some k := by decide
  exact h _ (Nat.mod_lt _ (by omega))

/-- A control character is written by its code unit, the first two digits of which are zero. -/
theorem feedAll_codeUnit (chars : List Char) {c : Char} (h : c.toNat < 0x20) :
    Lexer.feedAll ⟨[], .text (.whole chars)⟩
        ['\\', 'u', '0', '0', hexDigit (c.toNat / 16), hexDigit c.toNat] =
      some ⟨[], .text (.whole (c :: chars))⟩ := by
  have hfirst : Lexer.feedAll ⟨[], .text (.whole chars)⟩ ['\\', 'u', '0', '0'] =
      some ⟨[], .text ⟨chars, none, false, .unit 2 0⟩⟩ := rfl
  have hdigit : ∀ left value n,
      Lexer.feed ⟨[], .text ⟨chars, none, false, .unit left value⟩⟩ (hexDigit n) =
        some ⟨[], .text (PartialText.pushHexDigit ⟨chars, none, false, .unit left value⟩ left value
          (n % 16))⟩ := by
    intro left value n
    simp [Lexer.feed, Lexer.feedText, hexDigit?_hexDigit]
  have hunit : 16 * (c.toNat / 16 % 16) + c.toNat % 16 = c.toNat := by omega
  have hpush : ∀ part, PartialText.pushUnit ⟨chars, none, false, part⟩ c.toNat =
      .whole (c :: chars) := by
    intro part
    unfold PartialText.pushUnit
    rw [if_neg (by simp; omega), if_neg (by simp; omega), Char.ofNat_toNat]
    rfl
  show Lexer.feedAll _ (['\\', 'u', '0', '0'] ++ [hexDigit (c.toNat / 16), hexDigit c.toNat]) = _
  rw [Lexer.feedAll_append, hfirst]
  show (Lexer.feed _ _).bind (fun l => (l.feed _).bind some) = _
  rw [hdigit]
  show ((Lexer.feed ⟨[], .text ⟨chars, none, false, .unit 1 (16 * 0 + c.toNat / 16 % 16)⟩⟩
    (hexDigit c.toNat)).bind some) = _
  rw [hdigit]
  show some (Lexer.mk [] (.text (PartialText.pushUnit _ (16 * (16 * 0 + c.toNat / 16 % 16) +
    c.toNat % 16)))) = _
  rw [Nat.mul_zero, Nat.zero_add, hunit, hpush]

theorem feedAll_escape (chars : List Char) (c : Char) :
    Lexer.feedAll ⟨[], .text (.whole chars)⟩ (escape c) =
      some ⟨[], .text (.whole (c :: chars))⟩ := by
  unfold escape
  by_cases h : c ∈ ['"', '\\', '\x08', '\x0c', '\n', '\r', '\t']
  · simp only [List.mem_cons, List.not_mem_nil, or_false] at h
    rcases h with rfl | rfl | rfl | rfl | rfl | rfl | rfl <;> rfl
  · simp only [List.mem_cons, List.not_mem_nil, or_false, not_or] at h
    obtain ⟨hq, hb, h8, hc, hn, hr, ht⟩ := h
    simp only [beq_iff_eq, hq, hb, h8, hc, hn, hr, ht, if_false]
    split_ifs with hlow
    · exact feedAll_codeUnit chars hlow
    · show (Lexer.feedText [] (.whole chars) c).bind some = _
      simp [Lexer.feedText, PartialText.whole, PartialText.push, hq, hb, hlow]

theorem feedAll_escapes (chars cs : List Char) :
    Lexer.feedAll ⟨[], .text (.whole chars)⟩ (cs.flatMap escape) =
      some ⟨[], .text (.whole (cs.reverse ++ chars))⟩ := by
  induction cs generalizing chars with
  | nil => rfl
  | cons c cs ih =>
    rw [List.flatMap_cons, Lexer.feedAll_append, feedAll_escape, Option.bind_some, ih,
      List.reverse_cons, List.append_assoc, List.singleton_append]

theorem tokens?_quote (s : String) (tail : List Char) :
    tokens? (quote s ++ tail) = (tokens? tail).map (.text (some s) :: ·) := by
  have hopen : Lexer.start.feed '"' = some ⟨[], .text (.whole [])⟩ := rfl
  have hclose : Lexer.feed ⟨[], .text (.whole (s.toList.reverse ++ []))⟩ '"' =
      some ⟨[.text (some s)], .none⟩ := by
    simp [Lexer.feed, Lexer.feedText, PartialText.whole, PartialText.finish]
  have hquote : Lexer.start.feedAll (quote s) = some ⟨[.text (some s)], .none⟩ := by
    show (Lexer.start.feed '"').bind (fun l => l.feedAll (s.toList.flatMap escape ++ ['"'])) = _
    rw [hopen, Option.bind_some, Lexer.feedAll_append, feedAll_escapes, Option.bind_some]
    show (Lexer.feed ⟨[], .text (.whole (s.toList.reverse ++ []))⟩ '"').bind some = _
    rw [hclose]
    rfl
  show (Lexer.start.feedAll (quote s ++ tail)).bind Lexer.finish? = _
  rw [Lexer.feedAll_append, hquote]
  exact Lexer.finish?_feedAll_between [.text (some s)] tail

end LifeStory.Json
