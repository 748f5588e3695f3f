/-!
# Blank characters

The characters that count as white space, and the removal of white space from both ends of
a text.

* `isBlank` — the `White_Space` property of the Unicode standard, all twenty-five characters
  of it.
* `trim` — drops blanks at both ends. What is left after trimming the start does not start with
  a blank, and a text that starts with none is left as it is.
-/

namespace Offload.Text

/-- Whether a character has the `White_Space` property. -/
def isBlank (c : Char) : Bool :=
  let n := c.toNat
  (0x09 ≤ n && n ≤ 0x0D) || n == 0x20 || n == 0x85 || n == 0xA0 || n == 0x1680 ||
    (0x2000 ≤ n && n ≤ 0x200A) || n == 0x2028 || n == 0x2029 || n == 0x202F || n == 0x205F ||
    n == 0x3000

/-- A text without the blanks at its start. -/
def trimStart (cs : List Char) : List Char :=
  cs.dropWhile isBlank

/-- A text without the blanks at its end. -/
def trimEnd (cs : List Char) : List Char :=
  (trimStart cs.reverse).reverse

/-- A text without the blanks at either end. -/
def trim (cs : List Char) : List Char :=
  trimEnd (trimStart cs)

/-- Trimming a text that starts with no blank drops nothing from its start. -/
theorem trimStart_of_head {cs : List Char} (h : ∀ c ∈ cs.head?, isBlank c = false) :
    trimStart cs = cs := by
  cases cs with
  | nil => rfl
  | cons c r =>
    have hc : isBlank c = false := h c rfl
    simp [trimStart, hc]

/-- What is left after trimming the start does not start with a blank. -/
theorem isBlank_head_trimStart (cs : List Char) :
    ∀ c ∈ (trimStart cs).head?, isBlank c = false := by
  induction cs with
  | nil => intro c hc; cases hc
  | cons d r ih =>
    intro c hc
    by_cases hd : isBlank d = true
    · rw [trimStart, List.dropWhile_cons, if_pos hd] at hc
      exact ih c hc
    · rw [trimStart, List.dropWhile_cons, if_neg hd] at hc
      cases hc
      simpa using hd

end Offload.Text
