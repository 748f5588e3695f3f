import Mathlib.Data.Bool.AllAny
import Mathlib.Data.List.TakeWhile
import Offload.Device.Target
import Offload.Proofs.Numerals

/-!
# Texts that name targets

A target is named by its kind, or by its kind, a colon and an ordinal. There are several words for
some kinds, and it does not matter how a word is capitalised or what blanks stand around the text.
No other texts name targets, and none of them names two.

* `Target.Spelling` — the words for kinds of targets.
* `Target.Names` — a text in capitals names a target.
* `Target.parse_names` — targets are read from the texts that name them and from no others, and the
  canonical text of a target is one of these.
-/

namespace Offload

/-! ### Characters that stay as they are -/

namespace Text

/-- A text without blanks stays as it is when it is trimmed. -/
theorem trim_of_forall {cs : List Char} (h : ∀ c ∈ cs, isBlank c = false) : trim cs = cs := by
  have hstart : trimStart cs = cs := trimStart_of_head fun c hc => h c (List.mem_of_mem_head? hc)
  have hend : trimStart cs.reverse = cs.reverse := trimStart_of_head fun c hc =>
    h c (List.mem_reverse.mp (List.mem_of_mem_head? hc))
  rw [trim, hstart, trimEnd, hend, List.reverse_reverse]

/-- A character that is neither a blank nor changed by capitalisation. -/
def Plain (c : Char) : Prop := isBlank c = false ∧ c.toNat < 0x80 ∧ c.toUpper = c

instance (c : Char) : Decidable (Plain c) := inferInstanceAs (Decidable (_ ∧ _))

/-- A text of such characters stays as it is. -/
theorem upper_trim_of_plain {cs : List Char} (h : ∀ c ∈ cs, Plain c) : upper (trim cs) = cs := by
  rw [trim_of_forall fun c hc => (h c hc).1, upper_of_ascii fun c hc => (h c hc).2.1]
  exact (List.map_congr_left fun c hc => (h c hc).2.2).trans (List.map_id cs)

/-- Digits are such characters. -/
theorem plain_of_isDigit {c : Char} (h : c.isDigit = true) : Plain c := by
  obtain ⟨hlow, hhigh⟩ : 48 ≤ c.toNat ∧ c.toNat ≤ 57 := by
    rw [Char.isDigit, Bool.and_eq_true, decide_eq_true_iff, decide_eq_true_iff] at h
    exact h
  refine ⟨?_, by omega, ?_⟩
  · simp only [isBlank, Bool.or_eq_false_iff, Bool.and_eq_false_iff, decide_eq_false_iff_not,
      beq_eq_false_iff_ne]
    omega
  · -- digits come before the small letters
    refine dif_neg ?_
    rintro ⟨hlower, -⟩
    have : 97 ≤ c.toNat := hlower
    omega

/-! ### Texts cut at a character -/

variable {c d : Char} {cs ks vs : List Char}

/-- What comes before the first place of a character. -/
theorem takeWhile_ne_append (h : c ∉ ks) : (ks ++ c :: vs).takeWhile (· != c) = ks := by
  have hks : ∀ k ∈ ks, (k != c) = true := fun k hk => bne_iff_ne.mpr (ne_of_mem_of_not_mem hk h)
  rw [List.takeWhile_append_of_pos hks, List.takeWhile_cons_of_neg (by simp), List.append_nil]

/-- What comes from there on. -/
theorem dropWhile_ne_append (h : c ∉ ks) : (ks ++ c :: vs).dropWhile (· != c) = c :: vs := by
  have hks : ∀ k ∈ ks, (k != c) = true := fun k hk => bne_iff_ne.mpr (ne_of_mem_of_not_mem hk h)
  rw [List.dropWhile_append_of_pos hks, List.dropWhile_cons_of_neg (by simp)]

/-- A text in which a character has a place is cut at the first. -/
theorem eq_append_of_dropWhile_ne (h : cs.dropWhile (· != c) = d :: vs) :
    cs = cs.takeWhile (· != c) ++ c :: vs ∧ c ∉ cs.takeWhile (· != c) := by
  obtain rfl : d = c := by
    have hhead := List.head?_dropWhile_not (· != c) cs
    rw [h] at hhead
    simpa using hhead
  refine ⟨?_, fun hmem => by simpa using List.mem_takeWhile_imp hmem⟩
  rw [← h, List.takeWhile_append_dropWhile]

end Text

/-! ### Targets -/

namespace Target

/-- The words for kinds of targets, each with the target that it stands for together with an
ordinal. There is only one host. -/
inductive Spelling : String → Nat → Target → Prop where
  | cpu : Spelling "CPU" 0 .cpu
  | cuda (n : Nat) : Spelling "CUDA" n (.cuda n)
  | gpu (n : Nat) : Spelling "GPU" n (.cuda n)
  | ptx (n : Nat) : Spelling "PTX" n (.cuda n)
  | openCl (n : Nat) : Spelling "OPENCL" n (.openCl n)
  | cl (n : Nat) : Spelling "CL" n (.openCl n)
  | fpga (n : Nat) : Spelling "FPGA" n (.fpga n)

/-- A text in capitals names a target. -/
inductive Names : List Char → Target → Prop where
  /-- a kind alone, for the first target of the kind -/
  | kind {k : String} {t : Target} (h : Spelling k 0 t) : Names k.toList t
  /-- a kind, a colon and an ordinal that is not too large -/
  | ordinal {k : String} {n : Nat} {t : Target} {ds : List Char} (h : Spelling k n t)
      (hds : Decimal.Numeral ds n) (hn : n < Decimal.sizeBound) : Names (k.toList ++ ':' :: ds) t

variable {t : Target} {n : Nat} {cs : List Char}

theorem ofKind?_eq_some_iff : ofKind? cs n = some t ↔ Spelling (String.ofList cs) n t := by
  rw [ofKind?.eq_def]
  generalize String.ofList cs = k
  constructor
  · intro h
    split at h
    · split at h
      · rename_i hn
        cases h
        exact hn ▸ .cpu
      · cases h
    all_goals cases h
    · exact .cuda n
    · exact .gpu n
    · exact .ptx n
    · exact .openCl n
    · exact .cl n
    · exact .fpga n
  · intro h
    cases h <;> rfl

/-- No word for a kind has a colon in it. -/
theorem Spelling.colon_notMem {k : String} (h : Spelling k n t) : ':' ∉ k.toList := by
  cases h <;> decide

theorem Spelling.plain {k : String} (h : Spelling k n t) : ∀ c ∈ k.toList, Text.Plain c := by
  refine List.all_iff_forall_prop.mp ?_
  cases h <;> decide

theorem Spelling.ordinal_eq {k : String} (h : Spelling k n t) : t.key.2 = n := by
  cases h <;> rfl

/-- What is read in capitals is what names a target. -/
theorem ofCapitals?_eq_some_iff : ofCapitals? cs = some t ↔ Names cs t := by
  constructor
  case mp =>
    intro h
    rw [ofCapitals?] at h
    split at h
    · have hk := Names.kind (ofKind?_eq_some_iff.mp h)
      rwa [String.toList_ofList] at hk
    · -- the text is split at its first colon
      rename_i c ds hrest
      obtain ⟨hsplit, -⟩ := Text.eq_append_of_dropWhile_ne hrest
      obtain ⟨m, hm, hkind⟩ := Option.bind_eq_some_iff.mp h
      obtain ⟨hds, hlt⟩ := Decimal.read?_eq_some_iff.mp hm
      have hnames := Names.ordinal (ofKind?_eq_some_iff.mp hkind) hds hlt
      rwa [String.toList_ofList, ← hsplit] at hnames
  case mpr =>
    rintro (hk | ⟨hk, hds, hlt⟩)
    · rename_i k
      have hnone : k.toList.dropWhile (· != ':') = [] := List.dropWhile_eq_nil_iff.mpr
        fun c hc => bne_iff_ne.mpr (ne_of_mem_of_not_mem hc hk.colon_notMem)
      rw [ofCapitals?, hnone]
      exact ofKind?_eq_some_iff.mpr (by rwa [String.ofList_toList])
    · rw [ofCapitals?, Text.dropWhile_ne_append hk.colon_notMem,
        Text.takeWhile_ne_append hk.colon_notMem]
      dsimp only
      rw [Decimal.read?_eq_some_iff.mpr ⟨hds, hlt⟩, Option.bind_some]
      exact ofKind?_eq_some_iff.mpr (by rwa [String.ofList_toList])

theorem parse_eq_ok_iff {s : String} :
    parse s = .ok t ↔ Names (Text.upper (Text.trim s.toList)) t := by
  rw [← ofCapitals?_eq_some_iff, parse]
  rcases ofCapitals? (Text.upper (Text.trim s.toList)) with _ | t' <;> simp

/-! ### Canonical texts -/

/-- The host is named by its kind alone, and every other target by a word for its kind and its
ordinal. -/
theorem name_cases (t : Target) : t = .cpu ∨
    ∃ k, Spelling k t.key.2 t ∧ t.name.toList = k.toList ++ ':' :: Decimal.digits t.key.2 := by
  cases t with
  | cpu => exact .inl rfl
  | cuda n =>
    refine .inr ⟨"CUDA", .cuda n, ?_⟩
    rw [name, String.toList_append, Decimal.toList_text]
    rfl
  | openCl n =>
    refine .inr ⟨"OPENCL", .openCl n, ?_⟩
    rw [name, String.toList_append, Decimal.toList_text]
    rfl
  | fpga n =>
    refine .inr ⟨"FPGA", .fpga n, ?_⟩
    rw [name, String.toList_append, Decimal.toList_text]
    rfl

/-- The canonical text of a target is one of the texts that name it. -/
theorem names_name (h : t.key.2 < Decimal.sizeBound) : Names t.name.toList t := by
  obtain rfl | ⟨k, hk, hname⟩ := t.name_cases
  · exact .kind .cpu
  · exact hname ▸ .ordinal hk (Decimal.numeral_digits _) h

/-- It stays as it is when it is trimmed and put into capitals. -/
theorem upper_trim_name (t : Target) : Text.upper (Text.trim t.name.toList) = t.name.toList := by
  apply Text.upper_trim_of_plain
  obtain rfl | ⟨k, hk, hname⟩ := t.name_cases
  · exact Spelling.cpu.plain
  · rw [hname]
    have hdigits : ∀ c ∈ Decimal.digits t.key.2, Text.Plain c := fun c hc =>
      Text.plain_of_isDigit ((Decimal.digits_spec _).2.1 c hc)
    exact List.forall_mem_append.mpr
      ⟨hk.plain, List.forall_mem_cons.mpr ⟨by decide, hdigits⟩⟩

/-- The ordinal of a target that is named is not too large. -/
theorem Names.ordinal_lt (h : Names cs t) : t.key.2 < Decimal.sizeBound := by
  obtain ⟨h⟩ | ⟨h, -, hn⟩ := h
  · exact h.ordinal_eq ▸ by decide
  · exact h.ordinal_eq ▸ hn

/-- **Targets are read from the texts that name them.** The canonical text of a target is read as
that target, whatever its ordinal is, so long as it is a size. A text is read as a target if and
only if, without the blanks around it and in capitals, it names the target; then it is a word for a
kind alone, or such a word with a colon and an ordinal after it. For every other text there is an
error, which keeps the text as it was given. -/
theorem parse_names :
    (∀ t : Target, parse t.name = .ok t ↔ t.key.2 < Decimal.sizeBound) ∧
      (∀ s t, parse s = .ok t ↔ Names (Text.upper (Text.trim s.toList)) t) ∧
      ∀ s e, parse s = .error e ↔
        e = .invalidDevice s ∧ ∀ t, ¬ Names (Text.upper (Text.trim s.toList)) t := by
  refine ⟨fun t => ?_, fun s t => parse_eq_ok_iff, fun s e => ?_⟩
  · rw [parse_eq_ok_iff, upper_trim_name]
    exact ⟨Names.ordinal_lt, names_name⟩
  · simp only [← ofCapitals?_eq_some_iff, parse]
    rcases ofCapitals? (Text.upper (Text.trim s.toList)) with _ | t
    · simp [eq_comm]
    · simp

example : parse "\t gpu:+007" = .ok (.cuda 7) ∧ parse "cpu:00" = .ok .cpu ∧
    parse "cpu:1" = .error (.invalidDevice "cpu:1") ∧
    parse "cuda:" = .error (.invalidDevice "cuda:") ∧
    parse "Gpu:1:2" = .error (.invalidDevice "Gpu:1:2") := by decide +kernel

end Target

end Offload
