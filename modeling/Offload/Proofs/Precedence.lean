import Mathlib.Data.List.Basic
import Mathlib.Data.List.Induction
import Offload.Bench.Config
import Offload.Proofs.Naming

/-!
# Which setting counts

A property has the value of the last argument that sets it, and otherwise that of an environment
variable. A configuration is made of the values that are found so: each number is read from the
value that was found, and the first that cannot be read is an error.

* `Properties.Reads` — the arguments that set a property.
* `Properties.get?_ofArgs` — which argument counts, and when the environment does.
* `Environment.get?_eq_some_iff`, `Environment.Proper.get?_eq_some_iff` — what the environment says.
* `Bench.Config.ofProperties_eq` — numbers are read one after the other.
* `Bench.Config.precedence` — all of it.
-/

namespace Offload

/-! ### Capitals -/

namespace Text

/-- Only one number stands for the equals sign. -/
theorem eq_of_ofNat {n : Nat} (h : Char.ofNat n = '=') : n = 61 := by
  by_cases hvalid : n.isValidChar
  · rw [Char.ofNat, dif_pos hvalid] at h
    exact congrArg Char.toNat h
  · rw [Char.ofNat, dif_neg hvalid] at h
    cases h

/-- The equals sign is the capital of nothing but itself. -/
theorem equals_mem_upperChar {c : Char} (h : '=' ∈ upperChar c) : c = '=' := by
  have hascii : ∀ n < 0x80, (Char.ofNat n).toUpper = '=' → Char.ofNat n = '=' := by
    decide +kernel
  have hexpansions : ∀ e ∈ upperExpansions, '=' ∉ e.2.map Char.ofNat := by decide +kernel
  have hruns : ∀ r ∈ upperRuns, 61 < r.first + r.shift := by decide +kernel
  rw [upperChar] at h
  split at h
  · rename_i hc
    have hupper := hascii c.toNat hc
    rw [Char.ofNat_toNat] at hupper
    exact hupper (List.mem_singleton.mp h).symm
  · rw [upperBeyondAscii] at h
    split at h
    · rename_i n cs hfind
      exact absurd h (hexpansions (n, cs) (List.mem_of_find?_eq_some hfind))
    · split at h
      · rename_i r hfind
        have hfirst := List.find?_some hfind
        have hrun := hruns r (List.mem_of_find?_eq_some hfind)
        have heq := eq_of_ofNat (List.mem_singleton.mp h).symm
        simp only [UpperRun.contains, Bool.and_eq_true, decide_eq_true_iff] at hfirst
        omega
      · exact (List.mem_singleton.mp h).symm

/-- The capitals of a text hold an equals sign only if the text does. -/
theorem equals_mem_upper {cs : List Char} (h : '=' ∈ upper cs) : '=' ∈ cs := by
  obtain ⟨c, hc, hmem⟩ := List.mem_flatMap.mp h
  exact equals_mem_upperChar hmem ▸ hc

end Text

/-! ### The environment -/

namespace Environment

variable {env : Environment} {name value n v : String} {cs : List Char}

/-- A line is read by a name. -/
theorem isPrefixOf?_line :
    (name.toList ++ ['=']).isPrefixOf? (n.toList ++ '=' :: v.toList) = some cs ↔
      n ++ "=" ++ v = name ++ "=" ++ String.ofList cs := by
  rw [List.isPrefixOf?_eq_some_iff_append_eq, ← String.toList_inj, eq_comm]
  simp

/-- The value of a variable is found in the first line that starts with its name and an equals
sign. -/
theorem get?_eq_some_iff : env.get? name = some value ↔
    name ≠ "" ∧ '\x00' ∉ name.toList ∧
      ∃ before n v after, env = before ++ (n, v) :: after ∧ n ++ "=" ++ v = name ++ "=" ++ value ∧
        ∀ e ∈ before, ∀ w, e.1 ++ "=" ++ e.2 ≠ name ++ "=" ++ w := by
  have hnone : ∀ n v : String,
      (name.toList ++ ['=']).isPrefixOf? (n.toList ++ '=' :: v.toList) = none ↔
        ∀ w, n ++ "=" ++ v ≠ name ++ "=" ++ w := by
    intro n v
    rw [Option.eq_none_iff_forall_ne_some]
    exact ⟨fun h w hw => h w.toList (isPrefixOf?_line.mpr (by rwa [String.ofList_toList])),
      fun h cs hcs => h _ (isPrefixOf?_line.mp hcs)⟩
  rw [get?]
  split
  · rename_i h
    refine iff_of_false nofun fun ⟨hempty, hzero, _⟩ => ?_
    rw [Bool.or_eq_true, List.isEmpty_iff, String.toList_eq_nil_iff, List.contains_iff_mem] at h
    exact h.elim hempty hzero
  · rename_i h
    rw [Bool.or_eq_true, List.isEmpty_iff, String.toList_eq_nil_iff, List.contains_iff_mem,
      not_or] at h
    rw [and_iff_right h.1, and_iff_right h.2, Option.map_eq_some_iff]
    constructor
    · rintro ⟨cs, hfind, rfl⟩
      obtain ⟨before, ⟨n, v⟩, after, henv, hline, hbefore⟩ := List.findSome?_eq_some_iff.mp hfind
      exact ⟨before, n, v, after, henv, isPrefixOf?_line.mp hline,
        fun e he => (hnone e.1 e.2).mp (hbefore e he)⟩
    · rintro ⟨before, n, v, after, henv, hline, hbefore⟩
      refine ⟨value.toList, List.findSome?_eq_some_iff.mpr ⟨before, (n, v), after, henv, ?_, ?_⟩,
        String.ofList_toList⟩
      · exact isPrefixOf?_line.mpr (by rwa [String.ofList_toList])
      · exact fun e he => (hnone e.1 e.2).mpr (hbefore e he)

/-- The names of variables are names, and no two variables have the same. -/
structure Proper (env : Environment) : Prop where
  /-- a name has something in it, but no equals sign and no zero character -/
  named : ∀ e ∈ env, e.1 ≠ "" ∧ '=' ∉ e.1.toList ∧ '\x00' ∉ e.1.toList
  /-- no name stands twice -/
  nodup : (env.map Prod.fst).Nodup

/-- There, a line is read by its own name and by no other that can be one. -/
theorem line_eq_iff (hn : '=' ∉ n.toList) (hname : '=' ∉ name.toList) :
    n ++ "=" ++ v = name ++ "=" ++ value ↔ n = name ∧ v = value := by
  constructor
  · intro h
    have hsplit : n.toList ++ '=' :: v.toList = name.toList ++ '=' :: value.toList := by
      simpa using congrArg String.toList h
    have hbefore := congrArg (List.takeWhile (· != '=')) hsplit
    rw [Text.takeWhile_ne_append hn, Text.takeWhile_ne_append hname, String.toList_inj] at hbefore
    subst hbefore
    exact ⟨rfl, String.toList_inj.mp (by simpa using hsplit)⟩
  · rintro ⟨rfl, rfl⟩
    rfl

/-- There, a variable has the value that stands beside its name. -/
theorem Proper.get?_eq_some_iff (henv : env.Proper) (h : '=' ∉ name.toList) :
    env.get? name = some value ↔ (name, value) ∈ env := by
  rw [Environment.get?_eq_some_iff]
  constructor
  · rintro ⟨-, -, before, n, v, after, rfl, hline, -⟩
    have hmem : (n, v) ∈ before ++ (n, v) :: after := List.mem_append_right _ List.mem_cons_self
    obtain ⟨rfl, rfl⟩ := (line_eq_iff (henv.named _ hmem).2.1 h).mp hline
    exact hmem
  · intro hmem
    obtain ⟨hempty, -, hzero⟩ := henv.named _ hmem
    obtain ⟨before, after, rfl⟩ := List.append_of_mem hmem
    refine ⟨hempty, hzero, before, name, value, after, rfl, rfl, ?_⟩
    intro e he w hline
    obtain ⟨hname, -⟩ := (line_eq_iff (henv.named e (List.mem_append_left _ he)).2.1 h).mp hline
    have hnodup := henv.nodup
    rw [List.map_append, List.map_cons, List.nodup_append] at hnodup
    exact hnodup.2.2 _ (List.mem_map_of_mem he) _ List.mem_cons_self hname

end Environment

/-! ### Properties -/

namespace Properties

variable {arg key value : String} {args : List String} {env : Environment} {p : Properties}

/-- An argument sets a property: it is the name, an equals sign and the value, after a flag
where it starts with one. The name is not empty and ends at the first equals sign. -/
def Reads (arg key value : String) : Prop :=
  key ≠ "" ∧ '=' ∉ key.toList ∧
    (arg = "-D" ++ (key ++ "=" ++ value) ∨
      arg = key ++ "=" ++ value ∧ ∀ rest, arg ≠ "-D" ++ rest)

/-- An argument without its flag. -/
def unflagged (arg : String) : List Char :=
  match arg.toList with
  | '-' :: 'D' :: r => r
  | r => r

theorem unflagged_eq_iff {s : String} : unflagged arg = s.toList ↔
    arg = "-D" ++ s ∨ arg = s ∧ ∀ rest, arg ≠ "-D" ++ rest := by
  have hflag : ∀ {rest : String}, arg = "-D" ++ rest ↔ arg.toList = '-' :: 'D' :: rest.toList := by
    intro rest
    rw [← String.toList_inj]
    simp
  simp only [hflag, ← String.toList_inj, ne_eq]
  rw [unflagged]
  split
  · rename_i r hr
    rw [hr]
    refine ⟨fun h => .inl (by rw [h]), ?_⟩
    rintro (h | ⟨-, h⟩)
    · simpa using h
    · exact absurd (by rw [String.toList_ofList]) (h (String.ofList r))
  · rename_i hr
    exact ⟨fun h => .inr ⟨h, fun rest => hr _⟩, fun h => h.elim (fun h => absurd h (hr _)) (·.1)⟩

/-- An argument is cut at its first equals sign. -/
theorem ofArg?_eq (arg : String) :
    ofArg? arg =
      if (unflagged arg).takeWhile (· != '=') = [] ∨ (unflagged arg).dropWhile (· != '=') = []
      then none
      else some (String.ofList ((unflagged arg).takeWhile (· != '=')),
        String.ofList ((unflagged arg).dropWhile (· != '=')).tail) := by
  rw [ofArg?]
  split
  · rename_i k ks c cs hbefore hrest
    have hbefore : (unflagged arg).takeWhile (· != '=') = k :: ks := hbefore
    have hrest : (unflagged arg).dropWhile (· != '=') = c :: cs := hrest
    simp [hbefore, hrest]
  · rename_i hnone
    refine (if_pos ?_).symm
    by_contra hboth
    obtain ⟨hbefore, hrest⟩ := not_or.mp hboth
    obtain ⟨k, ks, hbefore⟩ := List.exists_cons_of_ne_nil hbefore
    obtain ⟨c, cs, hrest⟩ := List.exists_cons_of_ne_nil hrest
    exact hnone k ks c cs hbefore hrest

/-- Settings are read from the arguments that set properties, and from no others. -/
theorem ofArg?_eq_some_iff : ofArg? arg = some (key, value) ↔ Reads arg key value := by
  have hline : key.toList ++ '=' :: value.toList = (key ++ "=" ++ value).toList := by simp
  rw [Reads, ← unflagged_eq_iff, ← hline, ofArg?_eq]
  constructor
  · intro h
    split at h
    · cases h
    · rename_i hboth
      obtain ⟨hbefore, hrest⟩ := not_or.mp hboth
      obtain ⟨c, cs, hrest⟩ := List.exists_cons_of_ne_nil hrest
      obtain ⟨hsplit, hnot⟩ := Text.eq_append_of_dropWhile_ne hrest
      rw [hrest] at h
      cases h
      refine ⟨?_, ?_, ?_⟩
      · rw [ne_eq, ← String.toList_inj, String.toList_ofList]
        exact hbefore
      · rwa [String.toList_ofList]
      · rwa [String.toList_ofList, String.toList_ofList]
  · rintro ⟨hempty, hnot, hsplit⟩
    have hkey : key.toList ≠ [] := mt String.toList_eq_nil_iff.mp hempty
    rw [hsplit, Text.takeWhile_ne_append hnot, Text.dropWhile_ne_append hnot, if_neg]
    · rw [List.tail_cons, String.ofList_toList, String.ofList_toList]
    · rintro (h | h)
      · exact hkey h
      · cases h

/-- What an argument says of a property. -/
def said (key arg : String) : Option String :=
  (ofArg? arg).bind fun entry => if entry.1 = key then some entry.2 else none

theorem said_eq_some_iff : said key arg = some value ↔ Reads arg key value := by
  simp [said, Option.bind_eq_some_iff, ← ofArg?_eq_some_iff]

theorem said_eq_none_iff : said key arg = none ↔ ∀ value, ¬ Reads arg key value := by
  simp only [Option.eq_none_iff_forall_ne_some, ne_eq, said_eq_some_iff]

/-- One more argument. -/
theorem ofArgs_append (env : Environment) (args : List String) (arg : String) :
    ofArgs env (args ++ [arg]) =
      (ofArg? arg).elim (ofArgs env args) fun entry => (ofArgs env args).set entry.1 entry.2 := by
  rw [ofArgs, List.filterMap_append, List.foldl_append]
  cases h : ofArg? arg <;> simp [h, ofArgs]

/-- Later arguments count before earlier ones, and the environment counts last. -/
theorem get?_ofArgs_eq (env : Environment) (args : List String) (key : String) :
    (ofArgs env args).get? key =
      (args.reverse.findSome? (said key)).or (env.get? (variableName key)) := by
  induction args using List.reverseRecOn with
  | nil => rfl
  | append_singleton args arg ih =>
    rw [ofArgs_append, List.reverse_append, List.reverse_singleton, List.singleton_append,
      List.findSome?_cons]
    rcases h : ofArg? arg with _ | ⟨k, v⟩
    · simpa [said, h] using ih
    · by_cases hk : k = key
      · subst hk
        simp [said, h]
      · simpa [said, h, hk, get?_set_ne _ _ (Ne.symm hk)] using ih

/-- Which argument counts, and when the environment does. -/
theorem get?_ofArgs : (ofArgs env args).get? key = some value ↔
    (∃ before arg after, args = before ++ arg :: after ∧ Reads arg key value ∧
      ∀ a ∈ after, ∀ v, ¬ Reads a key v) ∨
    (∀ a ∈ args, ∀ v, ¬ Reads a key v) ∧ env.get? (variableName key) = some value := by
  rw [get?_ofArgs_eq, Option.or_eq_some_iff, List.findSome?_eq_some_iff,
    List.findSome?_eq_none_iff]
  simp only [said_eq_some_iff, said_eq_none_iff, List.mem_reverse]
  refine or_congr_left ?_
  constructor
  · rintro ⟨after, arg, before, hargs, hreads, hafter⟩
    refine ⟨before.reverse, arg, after.reverse, ?_, hreads, ?_⟩
    · rw [List.reverse_eq_append_iff] at hargs
      simpa using hargs
    · simpa using hafter
  · rintro ⟨before, arg, after, rfl, hreads, hafter⟩
    exact ⟨after.reverse, arg, before.reverse, by simp, hreads, by simpa using hafter⟩

/-- The name of a variable holds an equals sign only if the property does. -/
theorem equals_mem_variableName (h : '=' ∈ (variableName key).toList) : '=' ∈ key.toList := by
  rw [variableName, String.toList_ofList] at h
  obtain ⟨c, hc, heq⟩ := List.mem_map.mp (Text.equals_mem_upper h)
  split at heq
  · cases heq
  · exact heq ▸ hc

/-! ### Values that are read -/

variable {α : Type} {read? : String → Option α}

/-- A value without the blanks around it. -/
def trimmed (value : String) : String := String.ofList (Text.trim value.toList)

/-- Where a value was found it reads as `x`, and otherwise `x` is the default. -/
def Gives (p : Properties) (key : String) (read? : String → Option α) (default x : α) : Prop :=
  (∀ value, p.get? key = some value → read? (trimmed value) = some x) ∧
    (p.get? key = none → x = default)

/-- A value was found that cannot be read. -/
def Unreadable (p : Properties) (key : String) (reads : String → Bool) (value : String) : Prop :=
  p.get? key = some value ∧ reads (trimmed value) = false

/-- The error that the value found for a property amounts to. -/
def fault (p : Properties) (key : String) (reads : String → Bool) : Option BenchError :=
  (p.get? key).bind fun value =>
    if reads (trimmed value) then none else some (.invalidProperty key value)

theorem fault_eq_some_iff {reads : String → Bool} {e : BenchError} :
    p.fault key reads = some e ↔
      ∃ value, p.Unreadable key reads value ∧ e = .invalidProperty key value := by
  rw [fault, Option.bind_eq_some_iff]
  refine exists_congr fun value => ?_
  rw [Unreadable, and_assoc, and_congr_right_iff]
  intro _
  cases reads (trimmed value) <;> simp [eq_comm]

theorem fault_eq_none_iff {reads : String → Bool} :
    p.fault key reads = none ↔ ∀ value, ¬ p.Unreadable key reads value := by
  simp [fault, Unreadable, Option.bind_eq_none_iff]

/-- A value is read, unless it amounts to an error. -/
theorem getParsed_eq (p : Properties) (key : String) (read? : String → Option α) :
    p.getParsed key read? =
      match p.fault key fun s => (read? s).isSome with
      | some e => .error e
      | none => .ok ((p.get? key).bind fun value => read? (trimmed value)) := by
  rw [getParsed, fault]
  rcases p.get? key with _ | value
  · rfl
  · dsimp only [Option.bind_some]
    rw [← trimmed.eq_def]
    rcases read? (trimmed value) with _ | a <;> rfl

/-- What is read, or the default where nothing was found. -/
theorem gives_getD {default : α} (h : p.fault key (fun s => (read? s).isSome) = none) :
    p.Gives key read? default
      (((p.get? key).bind fun value => read? (trimmed value)).getD default) := by
  rw [fault_eq_none_iff] at h
  refine ⟨fun value hvalue => ?_, fun hnone => ?_⟩
  · rcases hread : read? (trimmed value) with _ | a
    · exact absurd ⟨hvalue, congrArg Option.isSome hread⟩ (h value)
    · rw [hvalue, Option.bind_some, hread, Option.getD_some]
  · rw [hnone]
    rfl

end Properties

/-! ### Configurations -/

namespace Bench.Config

/-- The numbers of a configuration in the order in which they are read, each with whether a text
can be read as one. -/
def numbers : List (String × (String → Bool)) := [
  ("benchmark.iterations", fun s => (Decimal.readSize? s).isSome),
  ("benchmark.maxulp", fun s => (Single.read? s).isSome),
  ("benchmark.m", fun s => (Decimal.readSize? s).isSome),
  ("benchmark.n", fun s => (Decimal.readSize? s).isSome)]

/-- The numbers of a configuration are what was found, or defaults. -/
structure Numbered (p : Properties) (c : Config) : Prop where
  iterations : p.Gives "benchmark.iterations" Decimal.readSize? 100 c.iterations
  maxDistance : p.Gives "benchmark.maxulp" Single.read? (Single.ofCount 1000) c.maxDistance
  m : p.Gives "benchmark.m" Decimal.readSize? 64 c.m
  n : p.Gives "benchmark.n" Decimal.readSize? 64 c.n

/-- Numbers are read one after the other, up to the first that cannot be read. -/
theorem ofProperties_eq (p : Properties) :
    (∃ e, numbers.findSome? (fun entry => p.fault entry.1 entry.2) = some e ∧
      ofProperties p = .error e) ∨
    numbers.findSome? (fun entry => p.fault entry.1 entry.2) = none ∧
      ∃ c, ofProperties p = .ok c ∧ Numbered p c := by
  rw [ofProperties]
  simp only [numbers, List.findSome?_cons, List.findSome?_nil, Properties.getParsed_eq]
  rcases hiterations : p.fault "benchmark.iterations" fun s => (Decimal.readSize? s).isSome
    with _ | e
  case some => exact .inl ⟨e, rfl, rfl⟩
  rcases hmax : p.fault "benchmark.maxulp" fun s => (Single.read? s).isSome with _ | e
  case some => exact .inl ⟨e, rfl, rfl⟩
  rcases hm : p.fault "benchmark.m" fun s => (Decimal.readSize? s).isSome with _ | e
  case some => exact .inl ⟨e, rfl, rfl⟩
  rcases hn : p.fault "benchmark.n" fun s => (Decimal.readSize? s).isSome with _ | e
  case some => exact .inl ⟨e, rfl, rfl⟩
  exact .inr ⟨rfl, _, rfl, Properties.gives_getD hiterations, Properties.gives_getD hmax,
    Properties.gives_getD hm, Properties.gives_getD hn⟩

/-- What is found first among the numbers that cannot be read. -/
theorem findSome?_fault_eq_some_iff {p : Properties} {e : BenchError} :
    numbers.findSome? (fun entry => p.fault entry.1 entry.2) = some e ↔
      ∃ before entry after value, numbers = before ++ entry :: after ∧
        p.Unreadable entry.1 entry.2 value ∧ e = .invalidProperty entry.1 value ∧
        ∀ b ∈ before, ∀ v, ¬ p.Unreadable b.1 b.2 v := by
  simp only [List.findSome?_eq_some_iff, Properties.fault_eq_some_iff,
    Properties.fault_eq_none_iff]
  constructor
  · rintro ⟨before, entry, after, hnumbers, ⟨value, hvalue, he⟩, hbefore⟩
    exact ⟨before, entry, after, value, hnumbers, hvalue, he, hbefore⟩
  · rintro ⟨before, entry, after, value, hnumbers, hvalue, he, hbefore⟩
    exact ⟨before, entry, after, hnumbers, ⟨value, hvalue, he⟩, hbefore⟩

/-- **The last argument counts, then the environment, then the default.** For all arguments,
environments and names: a property has the value of the last argument that sets it, and otherwise
that of the variable that stands in for it. A variable is looked up by the start of its line,
which amounts to its name where names are proper. A configuration fails exactly if a value was
found for one of its numbers that cannot be read without the blanks around it; the error names the
first such property and the value as it was found. Otherwise each number is the one that was read,
or the default where no value was found. -/
theorem precedence :
    (∀ args env key value, (Properties.ofArgs env args).get? key = some value ↔
      (∃ before arg after, args = before ++ arg :: after ∧ Properties.Reads arg key value ∧
        ∀ a ∈ after, ∀ v, ¬ Properties.Reads a key v) ∨
      (∀ a ∈ args, ∀ v, ¬ Properties.Reads a key v) ∧
        env.get? (Properties.variableName key) = some value) ∧
    (∀ (env : Environment) name value, env.get? name = some value ↔
      name ≠ "" ∧ '\x00' ∉ name.toList ∧ ∃ before n v after, env = before ++ (n, v) :: after ∧
        n ++ "=" ++ v = name ++ "=" ++ value ∧
        ∀ e ∈ before, ∀ w, e.1 ++ "=" ++ e.2 ≠ name ++ "=" ++ w) ∧
    (∀ (env : Environment) key value, env.Proper → '=' ∉ key.toList →
      (env.get? (Properties.variableName key) = some value ↔
        (Properties.variableName key, value) ∈ env)) ∧
    ∀ p : Properties,
      ((∃ e, ofProperties p = .error e) ↔
        ∃ entry ∈ numbers, ∃ value, p.Unreadable entry.1 entry.2 value) ∧
      (∀ e, ofProperties p = .error e → ∃ before entry after value,
        numbers = before ++ entry :: after ∧ p.Unreadable entry.1 entry.2 value ∧
          e = .invalidProperty entry.1 value ∧
          ∀ b ∈ before, ∀ v, ¬ p.Unreadable b.1 b.2 v) ∧
      ∀ c, ofProperties p = .ok c → Numbered p c := by
  refine ⟨fun args env key value => Properties.get?_ofArgs,
    fun env name value => Environment.get?_eq_some_iff, fun env key value henv hkey => ?_,
    fun p => ?_⟩
  · refine henv.get?_eq_some_iff (mt (fun h => ?_) hkey)
    exact Properties.equals_mem_variableName h
  · rcases ofProperties_eq p with ⟨e, hfind, he⟩ | ⟨hfind, c, hc, hnumbered⟩
    · have hfirst := findSome?_fault_eq_some_iff.mp hfind
      refine ⟨iff_of_true ⟨e, he⟩ ?_, fun e' he' => ?_, fun c hc => ?_⟩
      · obtain ⟨before, entry, after, value, hnumbers, hvalue, -⟩ := hfirst
        exact ⟨entry, hnumbers ▸ List.mem_append_right _ List.mem_cons_self, value, hvalue⟩
      · obtain rfl : e = e' := Except.error.inj (he.symm.trans he')
        exact hfirst
      · cases he.symm.trans hc
    · refine ⟨iff_of_false ?_ ?_, fun e he => ?_, fun c' hc' => ?_⟩
      · rintro ⟨e, he⟩
        cases hc.symm.trans he
      · rintro ⟨entry, hentry, value, hvalue⟩
        have hnone := List.findSome?_eq_none_iff.mp hfind entry hentry
        exact Properties.fault_eq_none_iff.mp hnone value hvalue
      · cases hc.symm.trans he
      · obtain rfl : c = c' := Except.ok.inj (hc.symm.trans hc')
        exact hnumbered

/-- A number of rows that is given twice and a number of columns from the environment. Elsewhere
neither the number of columns nor that of runs can be read, and the error is about the latter. -/
theorem precedence_repeated :
    let env : Environment := [("BENCHMARK_M", "6"), ("BENCHMARK_N", " 7 ")]
    let p := Properties.ofArgs env ["-Dbenchmark.m=8", "--verbose", "benchmark.m=9", "-D=3"]
    let q := Properties.ofArgs [] ["benchmark.n=x", "-Dbenchmark.iterations= a=b"]
    p.get? "benchmark.m" = some "9" ∧ p.get? "benchmark.n" = some " 7 " ∧
      (∃ c, ofProperties p = .ok c ∧ c.m = 9 ∧ c.n = 7 ∧ c.iterations = 100) ∧
      ∃ e, ofProperties q = .error e ∧ e = .invalidProperty "benchmark.iterations" " a=b" ∧
        ∃ entry ∈ numbers, ∃ value, e = .invalidProperty entry.1 value := by
  intro env p q
  obtain ⟨hget, -, henv, hconfig⟩ := precedence
  have hm : p.get? "benchmark.m" = some "9" := by
    refine (hget _ env _ _).mpr (.inl ⟨["-Dbenchmark.m=8", "--verbose"], "benchmark.m=9",
      ["-D=3"], rfl, Properties.said_eq_some_iff.mp (by decide), fun a ha => ?_⟩)
    obtain rfl := List.mem_singleton.mp ha
    exact Properties.said_eq_none_iff.mp (by decide)
  have hn : p.get? "benchmark.n" = some " 7 " := by
    have hproper : env.Proper := ⟨by decide, by decide⟩
    have hnone : ∀ a ∈ ["-Dbenchmark.m=8", "--verbose", "benchmark.m=9", "-D=3"],
        Properties.said "benchmark.n" a = none := by decide
    exact (hget _ env _ _).mpr (.inr ⟨fun a ha => Properties.said_eq_none_iff.mp (hnone a ha),
      (henv env "benchmark.n" " 7 " hproper (by decide)).mpr (by decide)⟩)
  obtain ⟨-, -, hnumbers⟩ := hconfig p
  obtain ⟨c, hc⟩ : ∃ c, ofProperties p = .ok c := ⟨_, rfl⟩
  have hq : ofProperties q = .error (.invalidProperty "benchmark.iterations" " a=b") := by rfl
  refine ⟨hm, hn, ⟨c, hc, ?_, ?_, (hnumbers c hc).iterations.2 (by decide)⟩, _, hq, rfl, ?_⟩
  · have hread : Decimal.readSize? (Properties.trimmed "9") = some 9 := by decide
    exact Option.some.inj (((hnumbers c hc).m.1 "9" hm).symm.trans hread)
  · have hread : Decimal.readSize? (Properties.trimmed " 7 ") = some 7 := by decide
    exact Option.some.inj (((hnumbers c hc).n.1 " 7 " hn).symm.trans hread)
  · obtain ⟨before, entry, after, value, hentry, -, he, -⟩ := (hconfig q).2.1 _ hq
    exact ⟨entry, hentry ▸ List.mem_append_right _ List.mem_cons_self, value, he⟩

end Bench.Config

end Offload
