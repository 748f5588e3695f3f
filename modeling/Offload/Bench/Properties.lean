import Offload.Bench.Error
import Offload.Environment

/-!
# Properties

Settings with dotted names. A property has the value that was set last, and otherwise that of
an environment variable, whose name is the property in capitals with underscores for dots.

* `Properties.ofArgs` — takes settings from command-line arguments.
* `Properties.get?`, `Properties.getBool`, `Properties.getParsed` — look a property up.
-/

namespace Offload

/-- Settings with the environment that they fall back on. -/
structure Properties where
  /-- what was set, the last setting first -/
  entries : List (String × String)
  /-- the environment -/
  environment : Environment

namespace Properties

/-- No settings. -/
def empty (env : Environment) : Properties := ⟨[], env⟩

/-- Set a property. -/
def set (p : Properties) (key value : String) : Properties :=
  { p with entries := (key, value) :: p.entries }

/-- The setting that an argument stands for: after at most one `-D`, a name that is not empty,
an equals sign and a value. -/
def ofArg? (arg : String) : Option (String × String) :=
  let cs := match arg.toList with
    | '-' :: 'D' :: r => r
    | r => r
  match cs.takeWhile (· != '='), cs.dropWhile (· != '=') with
  | k :: ks, _ :: value => some (String.ofList (k :: ks), String.ofList value)
  | _, _ => none

/-- The settings among command-line arguments. All other arguments are passed over. -/
def ofArgs (env : Environment) (args : List String) : Properties :=
  (args.filterMap ofArg?).foldl (fun p entry => p.set entry.1 entry.2) (empty env)

/-- The environment variable that stands in for a property. -/
def variableName (key : String) : String :=
  String.ofList (Text.upper (key.toList.map fun c => if c = '.' then '_' else c))

/-- The value of a property. -/
def get? (p : Properties) (key : String) : Option String :=
  match p.entries.find? (·.1 == key) with
  | some entry => some entry.2
  | none => p.environment.get? (variableName key)

/-- Whether a value says `true`, in any letter case. -/
def saysTrue (value : String) : Bool :=
  (Text.trim value.toList).map Char.toLower == "true".toList

/-- The value of a property as a truth value. -/
def getBool (p : Properties) (key : String) (default : Bool) : Bool :=
  (p.get? key).elim default saysTrue

/-- The value of a property as a value of another type, read without the blanks around it. -/
def getParsed {α : Type} (p : Properties) (key : String) (read? : String → Option α) :
    Except BenchError (Option α) :=
  match p.get? key with
  | none => .ok none
  | some value => match read? (String.ofList (Text.trim value.toList)) with
    | some a => .ok (some a)
    | none => .error (.invalidProperty key value)

/-- What was set last counts. -/
@[simp] theorem get?_set_self (p : Properties) (key value : String) :
    (p.set key value).get? key = some value := by
  simp [get?, set]

/-- A setting does not matter for other properties. -/
theorem get?_set_ne (p : Properties) {key key' : String} (value : String) (h : key' ≠ key) :
    (p.set key value).get? key' = p.get? key' := by
  have hne : (key == key') = false := by simpa using fun he => h he.symm
  simp [get?, set, hne]

end Properties

end Offload
