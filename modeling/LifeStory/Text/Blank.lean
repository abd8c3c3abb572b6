/-!
# Blank characters

The characters with the Unicode property White_Space, and the trimming of a text: what is left
has no blank at either end (`head?_trimList`, `getLast?_trimList`), so trimming it again leaves it
as it is (`trim_trim`).
-/

namespace LifeStory.Text

/-- Has the character the property White_Space? -/
def isBlank (c : Char) : Bool :=
  let n := c.toNat
  (0x09 ≤ n && n ≤ 0x0D) || n == 0x20 || n == 0x85 || n == 0xA0 || n == 0x1680 ||
    (0x2000 ≤ n && n ≤ 0x200A) || n == 0x2028 || n == 0x2029 || n == 0x202F || n == 0x205F ||
    n == 0x3000

/-- Is it a control character: has it the property Cc? -/
def isControl (c : Char) : Bool :=
  let n := c.toNat
  n < 0x20 || (0x7F ≤ n && n < 0xA0)

/-- A text without the blanks at its end. -/
def trimEnd (cs : List Char) : List Char := (cs.reverse.dropWhile isBlank).reverse

/-- A text without the blanks at its ends. -/
def trimList (cs : List Char) : List Char := trimEnd (cs.dropWhile isBlank)

/-- A text without the blanks at its ends. -/
def trim (s : String) : String := String.ofList (trimList s.toList)

/-! ## Lemmas -/

theorem getLast?_trimEnd (cs : List Char) :
    ∀ c ∈ (trimEnd cs).getLast?, isBlank c = false := by
  intro c hc
  rw [trimEnd, List.getLast?_reverse] at hc
  have := List.head?_dropWhile_not isBlank cs.reverse
  rw [Option.mem_def.1 hc] at this
  simpa using this

theorem getLast?_trimList (cs : List Char) :
    ∀ c ∈ (trimList cs).getLast?, isBlank c = false :=
  getLast?_trimEnd _

theorem trimEnd_prefix (cs : List Char) : trimEnd cs <+: cs := by
  have h : cs.reverse.dropWhile isBlank <:+ cs.reverse := List.dropWhile_suffix _
  exact List.reverse_suffix.1 (by simpa [trimEnd] using h)

theorem head?_trimList (cs : List Char) :
    ∀ c ∈ (trimList cs).head?, isBlank c = false := by
  intro c hc
  have h := List.head?_dropWhile_not isBlank cs
  obtain ⟨rest, hrest⟩ := trimEnd_prefix (cs.dropWhile isBlank)
  rw [trimList] at hc
  have : (cs.dropWhile isBlank).head? = some c := by
    rw [← hrest, List.head?_append, Option.mem_def.1 hc]; rfl
  rw [this] at h
  simpa using h

theorem dropWhile_of_head {cs : List Char} (h : ∀ c ∈ cs.head?, isBlank c = false) :
    cs.dropWhile isBlank = cs := by
  cases cs with
  | nil => rfl
  | cons c rest =>
    have hc : isBlank c = false := h c rfl
    rw [List.dropWhile_cons_of_neg (by rw [hc]; decide)]

theorem trimEnd_of_last {cs : List Char} (h : ∀ c ∈ cs.getLast?, isBlank c = false) :
    trimEnd cs = cs := by
  have hreverse : cs.reverse.dropWhile isBlank = cs.reverse := by
    apply dropWhile_of_head
    rwa [List.head?_reverse]
  rw [trimEnd, hreverse, List.reverse_reverse]

@[simp] theorem toList_trim (s : String) : (trim s).toList = trimList s.toList :=
  String.toList_ofList

/-- What is trimmed has nothing left to trim. -/
@[simp] theorem trim_trim (s : String) : trim (trim s) = trim s := by
  have hlist : trimList (trimList s.toList) = trimList s.toList := by
    rw [trimList, dropWhile_of_head (head?_trimList _), trimEnd_of_last (getLast?_trimList _)]
  show String.ofList (trimList (trim s).toList) = _
  rw [toList_trim, hlist]
  rfl

end LifeStory.Text
