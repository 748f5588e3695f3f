import Offload.Text.Printable

/-!
# Quoted text

A text between double quotes, on one line and without invisible characters.

* `escapeChar` — a quote and a backslash get a backslash in front, the usual controls have
  letters, and any other character without a shape is written by its number.
* `quoted` — the text in quotes. `escape_of_plain` says that a text of printable characters
  without quotes and backslashes is written as it is.
-/

namespace Offload.Text

/-- The written form of one character. -/
def escapeChar (c : Char) : List Char :=
  match c with
  | '\x00' => ['\\', '0']
  | '\t' => ['\\', 't']
  | '\n' => ['\\', 'n']
  | '\r' => ['\\', 'r']
  | '"' => ['\\', '"']
  | '\\' => ['\\', '\\']
  | c =>
    if isPrintable c then [c]
    else ['\\', 'u', '\x7b'] ++ Nat.toDigits 16 c.toNat ++ ['\x7d']

/-- The written form of a text, without the quotes. -/
def escape (cs : List Char) : List Char :=
  cs.flatMap escapeChar

/-- A text in quotes. -/
def quoted (s : String) : String :=
  "\"" ++ String.ofList (escape s.toList) ++ "\""

/-- A printable character other than a quote and a backslash is written as it is. -/
theorem escapeChar_of_isPrintable {c : Char} (h : isPrintable c = true) (hq : c ≠ '"')
    (hb : c ≠ '\\') : escapeChar c = [c] := by
  unfold escapeChar
  split <;> simp_all +decide

/-- A text of such characters is written as it is. -/
theorem escape_of_plain {cs : List Char}
    (h : ∀ c ∈ cs, isPrintable c = true ∧ c ≠ '"' ∧ c ≠ '\\') : escape cs = cs := by
  induction cs with
  | nil => rfl
  | cons c r ih =>
    obtain ⟨hp, hq, hb⟩ := h c (by simp)
    rw [escape, List.flatMap_cons, escapeChar_of_isPrintable hp hq hb]
    exact congrArg _ (ih fun d hd => h d (by simp [hd]))

end Offload.Text
