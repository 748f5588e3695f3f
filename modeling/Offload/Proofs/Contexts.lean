import Mathlib.Data.List.Induction
import Offload.Registry

/-!
# One context for each target

The context of a target is made when it is first asked for, and handed out from then on. Factories
are a parameter here: a factory may fail whenever it is used, whatever it has said before, and it
may do with the devices what it likes.

* `Conduct` — what comes of using factories, after the uses that there were.
* `ContextRegistry.getBy` — the context of a target, where factories have a conduct of their own;
  `ContextRegistry.getBy_plain` says that nothing is new about the factories that there are.
* `Inquiry`, `RegistryRequest` — a question for a context, and all that registries are asked for.
* `Responsible` — the factory that was registered last for a kind of target.
* `ContextRegistry.contexts_stay` — who has got a context gets it ever after, failing changes
  nothing, and the responsible factory is used once.
-/

namespace Offload

open Step

/-! ### Factories -/

/-- What comes of using factories. It may depend on all uses so far, so that a factory may fail at
any of them. -/
structure Conduct where
  /-- the device that a new context of a target is for -/
  use : Array (Nat × Target) → Factory → Target → Step GraphError DeviceRegistry DeviceRef

/-- What a factory says that it does with the devices. -/
def Factory.use (f : Factory) (t : Target) : Step GraphError DeviceRegistry DeviceRef :=
  match f.supply t with
  | .shared => (DeviceRegistry.get t).mapError .deviceFailure
  | .own => fun r => (.ok (r.adopt (.ofEnvironment r.environment)).1,
      (r.adopt (.ofEnvironment r.environment)).2)
  | .refused e => throw e

/-- Factories do what they say. -/
def Conduct.plain : Conduct := ⟨fun _ => Factory.use⟩

/-- A device that cannot be had changes nothing. -/
theorem DeviceRegistry.eq_of_get_error {t : Target} {e : DeviceError} {r r' : DeviceRegistry}
    (h : DeviceRegistry.get t r = (.error e, r')) : r' = r := by
  rw [DeviceRegistry.get] at h
  split at h
  · cases h
  · split at h <;> cases h
    rfl

theorem DeviceRegistry.eq_of_getNamed_error {s : String} {e : DeviceError} {r r' : DeviceRegistry}
    (h : DeviceRegistry.getNamed s r = (.error e, r')) : r' = r := by
  rw [DeviceRegistry.getNamed, bind_apply, lift_apply] at h
  rcases hparse : Target.parse s with e' | t <;> rw [hparse] at h
  · cases h
    rfl
  · exact eq_of_get_error h

/-- A factory that fails as it says changes nothing about the devices. -/
theorem Factory.eq_of_use_error {f : Factory} {t : Target} {e : GraphError}
    {r r' : DeviceRegistry} (h : f.use t r = (.error e, r')) : r' = r := by
  rcases hsupply : f.supply t with _ | _ | e' <;> rw [use, hsupply] at h
  · dsimp only at h
    rw [mapError_apply] at h
    rcases hget : DeviceRegistry.get t r with ⟨e' | d, s⟩ <;> rw [hget] at h <;> cases h
    exact DeviceRegistry.eq_of_get_error hget
  · cases h
  · cases h
    rfl

namespace ContextRegistry

/-! ### Contexts from factories with a conduct of their own -/

section

variable (x : Conduct)

/-- Use a factory. The result is the device that the new context is for. -/
def produceBy (f : Factory) (t : Target) : Step GraphError ContextRegistry DeviceRef := do
  let r ← MonadState.get
  modify fun r => { r with calls := r.calls.push (f.label, t) }
  (x.use r.calls f t).on devices fun d r => { r with devices := d }

/-- The context of a target, made on first use. -/
def getBy (t : Target) : Step GraphError ContextRegistry ContextRef := do
  let r ← MonadState.get
  match r.lookup? t with
  | some ref => return ref
  | none =>
    match r.factory? t with
    | none => throw (.unsupportedDevice t.name)
    | some f =>
      let d ← produceBy x f t
      modifyGet (shelve t d)

/-- The context of the target that a text names. -/
def getNamedBy (s : String) : Step GraphError ContextRegistry ContextRef := do
  let t ← (Step.lift (Target.parse s)).mapError .deviceFailure
  getBy x t

end

theorem produceBy_plain : produceBy .plain = produce := by
  funext f t r
  rw [produceBy, produce, Conduct.plain]
  simp only [Factory.use]
  cases f.supply t <;> rfl

theorem getBy_plain : getBy .plain = get := by
  funext t
  rw [getBy, produceBy_plain]
  rfl

theorem getNamedBy_plain : getNamedBy .plain = getNamed := by
  funext s
  rw [getNamedBy, getBy_plain]
  rfl

variable {x : Conduct} {r r' : ContextRegistry} {t t' : Target} {c : ContextRef}

/-- The four ways in which the question for a context ends. -/
inductive Answers (x : Conduct) (t : Target) (r : ContextRegistry) :
    Except GraphError ContextRef → ContextRegistry → Prop where
  /-- the context is there -/
  | found {c : ContextRef} (h : r.lookup? t = some c) : Answers x t r (.ok c) r
  /-- no factory is responsible -/
  | unsupported (h : r.lookup? t = none) (hf : r.factory? t = none) :
      Answers x t r (.error (.unsupportedDevice t.name)) r
  /-- the factory fails -/
  | failed {f : Factory} {e : GraphError} {ds : DeviceRegistry} (h : r.lookup? t = none)
      (hf : r.factory? t = some f) (hu : x.use r.calls f t r.devices = (.error e, ds)) :
      Answers x t r (.error e) { r with calls := r.calls.push (f.label, t), devices := ds }
  /-- the factory succeeds, and the context is put on the shelf -/
  | produced {f : Factory} {d : DeviceRef} {ds : DeviceRegistry} (h : r.lookup? t = none)
      (hf : r.factory? t = some f) (hu : x.use r.calls f t r.devices = (.ok d, ds)) :
      Answers x t r (.ok ⟨r.made.size⟩)
        { r with
          calls := r.calls.push (f.label, t)
          devices := ds
          made := r.made.push d
          shelf := (t, ⟨r.made.size⟩) :: r.shelf }

theorem answers_getBy (x : Conduct) (t : Target) (r : ContextRegistry) :
    Answers x t r (getBy x t r).1 (getBy x t r).2 := by
  rw [getBy, bind_apply, get_apply]
  dsimp only
  rcases hlookup : r.lookup? t with _ | c
  · rcases hfactory : r.factory? t with _ | f
    · exact .unsupported hlookup hfactory
    · dsimp only
      rw [bind_apply, produceBy, bind_apply, get_apply]
      dsimp only
      rw [bind_apply, modify_apply]
      dsimp only
      rw [on_apply]
      rcases huse : x.use r.calls f t r.devices with ⟨e | d, ds⟩
      · exact .failed hlookup hfactory huse
      · exact .produced hlookup hfactory huse
  · exact .found hlookup

end ContextRegistry

/-! ### Requests -/

/-- A question for a context. -/
inductive Inquiry where
  /-- the context of a target -/
  | target (t : Target)
  /-- the context of the target that a text names -/
  | text (s : String)

/-- The target whose context is asked for. -/
inductive Inquiry.About : Inquiry → Target → Prop where
  | target (t : Target) : About (.target t) t
  | text {s : String} {t : Target} (h : Target.parse s = .ok t) : About (.text s) t

/-- The answer to a question. -/
def Inquiry.answer : Inquiry → Step GraphError ContextRegistry ContextRef
  | target t => ContextRegistry.get t
  | text s => ContextRegistry.getNamed s

/-- The answer to a question, where factories have a conduct of their own. -/
def Inquiry.answerBy (x : Conduct) : Inquiry → Step GraphError ContextRegistry ContextRef
  | target t => ContextRegistry.getBy x t
  | text s => ContextRegistry.getNamedBy x s

/-- What a context registry and its devices are asked for. -/
inductive RegistryRequest where
  /-- a context -/
  | context (i : Inquiry)
  /-- another factory for a kind of target -/
  | register (kind : String) (f : Factory)
  /-- the device of a target -/
  | device (t : Target)
  /-- the device of the target that a text names -/
  | namedDevice (s : String)
  /-- another device for a target -/
  | insert (d : Device)

/-- A kind in capitals, for which it does not matter in what letter case the kind was given. -/
def capitals (kind : String) : String := String.ofList (Text.upper kind.toList)

/-- Another factory is asked for, for a kind in capitals. -/
inductive RegistryRequest.Registers (kind : String) : RegistryRequest → Prop where
  | intro {k : String} {f : Factory} (h : capitals k = kind) : Registers kind (.register k f)

/-- The factory that is responsible for a kind after some requests: the last that was registered for
it. For the host there is one from the start. -/
inductive Responsible (kind : String) : List RegistryRequest → Factory → Prop where
  /-- no other factory was registered for the host -/
  | standard {rs : List RegistryRequest} (hkind : kind = "CPU") (h : ∀ q ∈ rs, ¬q.Registers kind) :
      Responsible kind rs .standard
  /-- a factory was registered, and no other one later -/
  | registered {earlier later : List RegistryRequest} {k : String} {f : Factory}
      (hk : capitals k = kind) (h : ∀ q ∈ later, ¬q.Registers kind) :
      Responsible kind (earlier ++ .register k f :: later) f

theorem Responsible.append_singleton {kind : String} {rs : List RegistryRequest} {f : Factory}
    {q : RegistryRequest} (h : Responsible kind rs f) (hq : ¬q.Registers kind) :
    Responsible kind (rs ++ [q]) f := by
  have hsnoc : ∀ {later : List RegistryRequest}, (∀ q' ∈ later, ¬q'.Registers kind) →
      ∀ q' ∈ later ++ [q], ¬q'.Registers kind := fun hlater =>
    List.forall_mem_append.mpr ⟨hlater, List.forall_mem_singleton.mpr hq⟩
  cases h with
  | standard hkind hrs => exact .standard hkind (hsnoc hrs)
  | registered hk hlater =>
    rw [List.append_assoc, List.cons_append]
    exact .registered hk (hsnoc hlater)

/-- Carry out a request, whether it succeeds or not. -/
def RegistryRequest.performBy (x : Conduct) (q : RegistryRequest) (r : ContextRegistry) :
    ContextRegistry :=
  match q with
  | context i => (i.answerBy x r).2
  | register kind f => r.register kind f
  | device t => { r with devices := (DeviceRegistry.get t r.devices).2 }
  | namedDevice s => { r with devices := (DeviceRegistry.getNamed s r.devices).2 }
  | insert d => { r with devices := (r.devices.insert d).2 }

/-- Nothing is new about the answers where factories do what they say. -/
theorem Inquiry.answerBy_plain (i : Inquiry) : i.answerBy .plain = i.answer := by
  cases i with
  | target t => rw [answerBy, ContextRegistry.getBy_plain, answer]
  | text s => rw [answerBy, ContextRegistry.getNamedBy_plain, answer]

namespace ContextRegistry

variable {x : Conduct} {r r' r₀ : ContextRegistry} {t t' : Target} {c : ContextRef} {i : Inquiry}
  {q : RegistryRequest} {rs : List RegistryRequest} {o : Except GraphError ContextRef}

theorem answerBy_of_about (h : i.About t) : i.answerBy x = getBy x t := by
  cases h with
  | target => rfl
  | text h =>
    funext r
    rw [Inquiry.answerBy, getNamedBy, bind_apply, mapError_apply, lift_apply, h]
    rfl

theorem answers_answerBy (x : Conduct) (r : ContextRegistry) (h : i.About t) :
    Answers x t r (i.answerBy x r).1 (i.answerBy x r).2 := by
  rw [answerBy_of_about h]
  exact answers_getBy x t r

/-- A question is about a target, or it fails at once and changes nothing. -/
theorem answers_or_refused (x : Conduct) (i : Inquiry) (r : ContextRegistry) :
    (∃ t, i.About t ∧ Answers x t r (i.answerBy x r).1 (i.answerBy x r).2) ∨
      ∃ e, i.answerBy x r = (.error e, r) := by
  rcases i with t | s
  · exact .inl ⟨t, .target t, answers_answerBy x r (.target t)⟩
  · rcases hparse : Target.parse s with e | t
    · refine .inr ⟨.deviceFailure e, ?_⟩
      rw [Inquiry.answerBy, getNamedBy, bind_apply, mapError_apply, lift_apply, hparse]
      rfl
    · exact .inl ⟨t, .text hparse, answers_answerBy x r (.text hparse)⟩

/-- The registry after some requests, one after the other. -/
def after (x : Conduct) (rs : List RegistryRequest) (r : ContextRegistry) : ContextRegistry :=
  rs.foldl (fun r q => q.performBy x r) r

theorem after_append (x : Conduct) (rs qs : List RegistryRequest) (r : ContextRegistry) :
    after x (rs ++ qs) r = after x qs (after x rs r) :=
  List.foldl_append

theorem after_append_singleton (x : Conduct) (rs : List RegistryRequest) (q : RegistryRequest)
    (r : ContextRegistry) : after x (rs ++ [q]) r = q.performBy x (after x rs r) :=
  after_append x rs [q] r

/-- A context of the target was asked for among the requests, and there was an answer. -/
def Served (x : Conduct) (r₀ : ContextRegistry) (rs : List RegistryRequest) (t : Target) : Prop :=
  ∃ earlier i later c, rs = earlier ++ .context i :: later ∧ i.About t ∧
    (i.answerBy x (after x earlier r₀)).1 = .ok c

/-! ### What stays -/

theorem lookup?_congr (h : r'.shelf = r.shelf) : r'.lookup? t = r.lookup? t := by
  rw [lookup?, lookup?, h]

theorem lookup?_of_shelf (h : r'.shelf = (t, c) :: r.shelf) :
    r'.lookup? t' = if t = t' then some c else r.lookup? t' := by
  rw [lookup?, h, List.find?_cons]
  by_cases ht : t = t'
  · rw [if_pos ht, beq_iff_eq.mpr ht]
    rfl
  · rw [if_neg ht, beq_eq_false_iff_ne.mpr ht]
    rfl

/-- Whoever has a context keeps it, and every context keeps its device. -/
structure Keeps (r r' : ContextRegistry) : Prop where
  lookup : ∀ t c, r.lookup? t = some c → r'.lookup? t = some c
  made : ∀ (n : Nat) (d : DeviceRef), r.made[n]? = some d → r'.made[n]? = some d

namespace Keeps

protected theorem refl (r : ContextRegistry) : Keeps r r := ⟨fun _ _ h => h, fun _ _ h => h⟩

protected theorem trans {r'' : ContextRegistry} (h : Keeps r r') (h' : Keeps r' r'') :
    Keeps r r'' :=
  ⟨fun t c hc => h'.lookup t c (h.lookup t c hc), fun n d hd => h'.made n d (h.made n d hd)⟩

theorem of_eq (hshelf : r'.shelf = r.shelf) (hmade : r'.made = r.made) : Keeps r r' where
  lookup _ _ h := (lookup?_congr hshelf).trans h
  made _ _ h := by rwa [hmade]

end Keeps

/-- The contexts that there are were made. -/
def Shelved (r : ContextRegistry) : Prop := ∀ t c, r.lookup? t = some c → c.index < r.made.size

namespace Answers

theorem keeps (h : Answers x t r o r') : Keeps r r' := by
  cases h with
  | found => exact .refl r
  | unsupported => exact .refl r
  | failed => exact .of_eq rfl rfl
  | @produced f d ds hlookup =>
    refine ⟨fun t' c hc => ?_, fun n d' hd => ?_⟩
    · -- the new context is not for `t'`, which has one
      have hne : t ≠ t' := fun he => by rw [he, hc] at hlookup; cases hlookup
      exact (lookup?_of_shelf rfl).trans ((if_neg hne).trans hc)
    · have hlt := (Array.getElem?_eq_some_iff.mp hd).1
      rwa [Array.getElem?_push_lt hlt, ← Array.getElem?_eq_getElem hlt]

/-- No question has a bearing on the factories. -/
theorem factory?_eq (h : Answers x t r o r') : r'.factory? t' = r.factory? t' := by
  cases h <;> rfl

/-- Whoever has just got a context has one. -/
theorem lookup (h : Answers x t r (.ok c) r') : r'.lookup? t = some c := by
  cases h with
  | found h => exact h
  | produced => exact (lookup?_of_shelf rfl).trans (if_pos rfl)

/-- Whoever has a context had it before, or has just got it. -/
theorem origin (h : Answers x t r o r') (hc : r'.lookup? t' = some c) :
    r.lookup? t' = some c ∨ t = t' ∧ o = .ok c := by
  cases h with
  | found => exact .inl hc
  | unsupported => exact .inl hc
  | failed => exact .inl hc
  | produced =>
    rw [lookup?_of_shelf (r := r) rfl] at hc
    split at hc
    · rename_i ht
      cases hc
      exact .inr ⟨ht, rfl⟩
    · exact .inl hc

/-- The contexts that there are were made. -/
theorem shelved (h : Answers x t r o r') (hr : r.Shelved) : r'.Shelved := by
  cases h with
  | found => exact hr
  | unsupported => exact hr
  | failed => exact hr
  | @produced f d ds hlookup hf hu =>
    intro t' c hc
    have hsize : (r.made.push d).size = r.made.size + 1 := Array.size_push d
    obtain hold | ⟨-, hnew⟩ := (produced hlookup hf hu).origin hc
    · have := hr t' c hold
      dsimp only
      omega
    · cases hnew
      dsimp only
      omega

/-- Nothing changes where there is no answer, but for what the factory did and that it was used. -/
theorem eq_of_error {e : GraphError} (h : Answers x t r (.error e) r') :
    r' = { r with calls := r'.calls, devices := r'.devices } := by
  cases h with
  | unsupported => rfl
  | failed => rfl

theorem eq_of_plain_error {e : GraphError} (h : Answers .plain t r (.error e) r') :
    r' = { r with calls := r'.calls } := by
  cases h with
  | unsupported => rfl
  | failed _ _ hu =>
    cases Factory.eq_of_use_error hu
    rfl

end Answers

theorem eq_of_answerBy_error {e : GraphError} (h : i.answerBy x r = (.error e, r')) :
    r' = { r with calls := r'.calls, devices := r'.devices } := by
  obtain ⟨t, -, hanswers⟩ | ⟨e', hrefused⟩ := answers_or_refused x i r
  · rw [h] at hanswers
    exact hanswers.eq_of_error
  · cases hrefused.symm.trans h
    rfl

theorem eq_of_answer_error {e : GraphError} (h : i.answer r = (.error e, r')) :
    r' = { r with calls := r'.calls } := by
  rw [← Inquiry.answerBy_plain] at h
  obtain ⟨t, -, hanswers⟩ | ⟨e', hrefused⟩ := answers_or_refused .plain i r
  · rw [h] at hanswers
    exact hanswers.eq_of_plain_error
  · cases hrefused.symm.trans h
    rfl

/-- A request is a question for the context of a target, or has nothing to do with contexts. -/
theorem performBy_cases (x : Conduct) (q : RegistryRequest) (r : ContextRegistry) :
    (∃ i t, q = .context i ∧ i.About t ∧ Answers x t r (i.answerBy x r).1 (q.performBy x r)) ∨
      (q.performBy x r).shelf = r.shelf ∧ (q.performBy x r).made = r.made := by
  cases q with
  | context i =>
    obtain ⟨t, ht, h⟩ | ⟨e, hrefused⟩ := answers_or_refused x i r
    · exact .inl ⟨i, t, rfl, ht, h⟩
    · rw [RegistryRequest.performBy, hrefused]
      exact .inr ⟨rfl, rfl⟩
  | _ => exact .inr ⟨rfl, rfl⟩

theorem keeps_performBy (x : Conduct) (q : RegistryRequest) (r : ContextRegistry) :
    Keeps r (q.performBy x r) := by
  obtain ⟨i, t, -, -, h⟩ | ⟨hshelf, hmade⟩ := performBy_cases x q r
  · exact h.keeps
  · exact .of_eq hshelf hmade

theorem keeps_after (x : Conduct) (rs : List RegistryRequest) (r : ContextRegistry) :
    Keeps r (after x rs r) := by
  induction rs generalizing r with
  | nil => exact .refl r
  | cons q rs ih => exact (keeps_performBy x q r).trans (ih _)

theorem Shelved.performBy (hr : r.Shelved) : (q.performBy x r).Shelved := by
  obtain ⟨i, t, -, -, h⟩ | ⟨hshelf, hmade⟩ := performBy_cases x q r
  · exact h.shelved hr
  · intro t c hc
    rw [lookup?_congr hshelf] at hc
    rw [hmade]
    exact hr t c hc

theorem Shelved.after (hr : r.Shelved) : (after x rs r).Shelved := by
  induction rs generalizing r with
  | nil => exact hr
  | cons q rs ih => exact ih hr.performBy

/-! ### Where contexts come from -/

theorem Served.append_singleton (h : Served x r₀ rs t) (q : RegistryRequest) :
    Served x r₀ (rs ++ [q]) t := by
  obtain ⟨earlier, i, later, c, rfl, hc⟩ := h
  exact ⟨earlier, i, later ++ [q], c, List.append_assoc _ _ _, hc⟩

/-- There is a context for a target if and only if someone got it. -/
theorem served_iff (h₀ : r₀.shelf = []) :
    Served x r₀ rs t ↔ ∃ c, (after x rs r₀).lookup? t = some c := by
  constructor
  case mp =>
    rintro ⟨earlier, i, later, c, rfl, hi, hc⟩
    have h := answers_answerBy x (after x earlier r₀) hi
    rw [hc] at h
    rw [after_append]
    exact ⟨c, (keeps_after x later _).lookup t c h.lookup⟩
  case mpr =>
    rintro ⟨c, hc⟩
    -- the last request either got the context or is not needed
    induction rs using List.reverseRecOn with
    | nil =>
      rw [after, List.foldl_nil, lookup?, h₀] at hc
      cases hc
    | append_singleton rs q ih =>
      rw [after_append_singleton] at hc
      obtain ⟨i, t', rfl, hi, h⟩ | ⟨hshelf, -⟩ := performBy_cases x q (after x rs r₀)
      · obtain hold | ⟨rfl, hnew⟩ := h.origin hc
        · exact (ih hold).append_singleton _
        · exact ⟨rs, i, [], c, rfl, hi, hnew⟩
      · exact (ih ((lookup?_congr hshelf).symm.trans hc)).append_singleton q

/-! ### Which factory is responsible -/

theorem factory?_register {kind : String} {f : Factory} :
    (r.register kind f).factory? t = if capitals kind = t.kind then some f else r.factory? t := by
  have hfind : (r.register kind f).factory? t =
      (((capitals kind, f) :: r.factories.filter (·.1 != capitals kind)).find?
        (·.1 == t.kind)).map (·.2) := rfl
  rw [hfind, List.find?_cons]
  by_cases hkind : capitals kind = t.kind
  · rw [if_pos hkind, beq_iff_eq.mpr hkind]
    rfl
  · rw [if_neg hkind, beq_eq_false_iff_ne.mpr hkind, List.find?_filter, factory?]
    -- what was taken away is of another kind
    dsimp only
    congr 2
    funext entry
    by_cases hentry : entry.1 = t.kind
    · simp [hentry, Ne.symm hkind]
    · simp [hentry]

theorem factory?_performBy_register {kind : String} {f : Factory} (h : capitals kind = t.kind) :
    ((RegistryRequest.register kind f).performBy x r).factory? t = some f :=
  factory?_register.trans (if_pos h)

/-- A request that does not ask for another factory leaves the one that there is. -/
theorem factory?_performBy (hq : ¬q.Registers t.kind) :
    (q.performBy x r).factory? t = r.factory? t := by
  cases q with
  | context i =>
    obtain ⟨t', -, h⟩ | ⟨e, hrefused⟩ := answers_or_refused x i r
    · exact h.factory?_eq
    · rw [RegistryRequest.performBy, hrefused]
  | register kind f =>
    exact factory?_register.trans (if_neg fun hkind => hq ⟨hkind⟩)
  | _ => rfl

theorem factory?_after (h : ∀ q ∈ rs, ¬q.Registers t.kind) :
    (after x rs r).factory? t = r.factory? t := by
  induction rs generalizing r with
  | nil => rfl
  | cons q rs ih =>
    obtain ⟨hq, hrs⟩ := List.forall_mem_cons.mp h
    exact (ih hrs).trans (factory?_performBy hq)

theorem capitals_cpu : capitals "CPU" = "CPU" := by decide +kernel

/-- The factory that is used is the responsible one. -/
theorem responsible_iff {devices : DeviceRegistry} {f : Factory} :
    Responsible t.kind rs f ↔ (after x rs (ofDevices devices)).factory? t = some f := by
  have hstart : (ofDevices devices).factory? t =
      if "CPU" = t.kind then some .standard else none := by
    rw [ofDevices, factory?_register, capitals_cpu]
    rfl
  constructor
  case mp =>
    intro h
    cases h with
    | standard hkind h => rw [factory?_after h, hstart, if_pos hkind.symm]
    | registered hk h =>
      rw [after_append]
      exact (factory?_after h).trans (factory?_performBy_register hk)
  case mpr =>
    intro h
    -- the last request either registered the factory or is not needed
    induction rs using List.reverseRecOn generalizing f with
    | nil =>
      rw [after, List.foldl_nil, hstart] at h
      split at h
      · rename_i hkind
        cases h
        exact .standard hkind.symm (List.forall_mem_nil _)
      · cases h
    | append_singleton rs q ih =>
      rw [after_append_singleton] at h
      by_cases hq : q.Registers t.kind
      · obtain ⟨hk⟩ := hq
        cases (factory?_performBy_register hk).symm.trans h
        exact .registered hk (List.forall_mem_nil _)
      · exact (ih ((factory?_performBy hq).symm.trans h)).append_singleton hq

/-! ### One context -/

/-- A context is made with a factory. -/
structure MadeWith (x : Conduct) (f : Factory) (t : Target) (r : ContextRegistry) (c : ContextRef)
    (r' : ContextRegistry) : Prop where
  /-- the factory succeeds, and its device is that of the context -/
  use : x.use r.calls f t r.devices = (.ok (r'.deviceOf c), r'.devices)
  /-- no factory is used but this one, and it is used once -/
  calls : r'.calls = r.calls.push (f.label, t)
  /-- no target has had the context -/
  fresh : ∀ t', r.lookup? t' ≠ some c

theorem Answers.madeWith (h : Answers x t r (.ok c) r') (hr : r.Shelved)
    (hlookup : r.lookup? t = none) :
    ∃ f, r.factory? t = some f ∧ MadeWith x f t r c r' := by
  cases h with
  | found hfound =>
    rw [hlookup] at hfound
    cases hfound
  | @produced f d ds _ hf hu =>
    refine ⟨f, hf, ?_, rfl, fun t' ht' => Nat.lt_irrefl _ (hr t' _ ht')⟩
    rw [hu, deviceOf]
    simp

theorem getBy_of_lookup (h : r.lookup? t = some c) : getBy x t r = (.ok c, r) := by
  rw [getBy, bind_apply, get_apply]
  dsimp only
  rw [h]
  rfl

theorem Keeps.deviceOf (h : Keeps r r') (hc : c.index < r.made.size) :
    r'.deviceOf c = r.deviceOf c := by
  have hold := Array.getElem?_eq_getElem hc
  rw [ContextRegistry.deviceOf, ContextRegistry.deviceOf, Array.getD_eq_getD_getElem?,
    Array.getD_eq_getD_getElem?, h.made _ _ hold, hold]

/-- A context is made where the factory that is there succeeds. -/
theorem exists_getBy_of_use {f : Factory} {d : DeviceRef} {ds : DeviceRegistry}
    (hlookup : r.lookup? t = none) (hf : r.factory? t = some f)
    (hu : x.use r.calls f t r.devices = (.ok d, ds)) : ∃ c r', getBy x t r = (.ok c, r') := by
  have h := answers_getBy x t r
  rcases hget : getBy x t r with ⟨e | c, r'⟩
  · rw [hget] at h
    cases h with
    | unsupported _ hf' => cases hf'.symm.trans hf
    | failed _ hf' hu' =>
      cases hf'.symm.trans hf
      cases hu'.symm.trans hu
  · exact ⟨c, r', rfl⟩

/-- **One context for each target.** Registries are asked for contexts, for devices and for other
factories, in any order, and their factories may fail. Whoever has got the context of a target gets
it ever after, whatever is asked for in between and in whatever words the target is named; no
factory is used then, and nothing changes, not even the device of the context. An answer that fails
leaves contexts and factories as they are, and also the devices, but for what a factory did to them;
where factories do what they say, that is nothing. The first context of a target is there as soon as
the factory that is responsible for its kind succeeds; the factory is used once, and the context is
new. Where factories do what they say, this is about registries as they are. -/
theorem contexts_stay (x : Conduct) (devices : DeviceRegistry) (rs : List RegistryRequest) :
    let r := after x rs (ofDevices devices)
    (∀ (t : Target) (i : Inquiry) c r', i.About t → i.answerBy x r = (.ok c, r') →
      ∀ qs (j : Inquiry), j.About t →
        j.answerBy x (after x qs r') = (.ok c, after x qs r') ∧
          (after x qs r').deviceOf c = r'.deviceOf c) ∧
    (∀ (i : Inquiry) e (r' : ContextRegistry),
      (i.answerBy x r = (.error e, r') →
        r' = { r with calls := r'.calls, devices := r'.devices }) ∧
      (i.answer r = (.error e, r') → r' = { r with calls := r'.calls })) ∧
    (∀ t s e ds, (DeviceRegistry.get t r.devices = (.error e, ds) → ds = r.devices) ∧
      (DeviceRegistry.getNamed s r.devices = (.error e, ds) → ds = r.devices)) ∧
    (∀ (t : Target) (i : Inquiry), i.About t → ¬Served x (ofDevices devices) rs t →
      (∀ c r', i.answerBy x r = (.ok c, r') →
        ∃ f, Responsible t.kind rs f ∧ MadeWith x f t r c r') ∧
      (∀ f d ds, Responsible t.kind rs f → x.use r.calls f t r.devices = (.ok d, ds) →
        ∃ c r', i.answerBy x r = (.ok c, r'))) ∧
    (∀ i : Inquiry, i.answerBy .plain = i.answer) := by
  intro r
  have hshelved : r.Shelved := Shelved.after fun t c hc => by cases hc
  refine ⟨?stays, fun i e r' => ⟨eq_of_answerBy_error, eq_of_answer_error⟩, fun t s e ds =>
    ⟨DeviceRegistry.eq_of_get_error, DeviceRegistry.eq_of_getNamed_error⟩, ?first,
    Inquiry.answerBy_plain⟩
  case stays =>
    intro t i c r' hi hc qs j hj
    have h := answers_answerBy x r hi
    rw [hc] at h
    have hkeeps := keeps_after x qs r'
    rw [answerBy_of_about hj]
    exact ⟨getBy_of_lookup (hkeeps.lookup t c h.lookup),
      hkeeps.deviceOf (h.shelved hshelved t c h.lookup)⟩
  case first =>
    intro t i hi hserved
    have hlookup : r.lookup? t = none := Option.eq_none_iff_forall_ne_some.mpr fun c hc =>
      hserved ((served_iff rfl).mpr ⟨c, hc⟩)
    refine ⟨fun c r' hc => ?_, fun f d ds hf hu => ?_⟩
    · have h := answers_answerBy x r hi
      rw [hc] at h
      obtain ⟨f, hf, hmade⟩ := h.madeWith hshelved hlookup
      exact ⟨f, responsible_iff.mpr hf, hmade⟩
    · rw [answerBy_of_about hi]
      exact exists_getBy_of_use hlookup (responsible_iff.mp hf) hu

/-- A factory for boards that fails at first, and is replaced after it has made a context. -/
theorem contexts_stay_replaced :
    let x : Conduct := ⟨fun calls f t =>
      if calls.size = 0 then throw (.unsupportedDevice t.name) else f.use t⟩
    let maker : Nat → Factory := fun n => ⟨n, fun _ => .own⟩
    let rs : List RegistryRequest := [.register "fpGA" (maker 1), .context (.text "fpga:1")]
    let r := after x rs (ofDevices (.empty []))
    let r' := (getBy x (.fpga 1) r).2
    let qs : List RegistryRequest :=
      [.register "FPGA" (maker 2), .insert (.ofEnvironment []), .context (.text "fpga")]
    ¬Served x (ofDevices (.empty [])) rs (.fpga 1) ∧
      (getBy x (.fpga 1) r).1 = .ok ⟨0⟩ ∧
      (∃ f, Responsible "FPGA" rs f ∧ MadeWith x f (.fpga 1) r ⟨0⟩ r') ∧
      getNamedBy x " FPGA:01" (after x qs r') = (.ok ⟨0⟩, after x qs r') ∧
      (after x qs r').calls = #[(1, .fpga 1), (1, .fpga 1), (2, .fpga 0)] := by
  intro x maker rs r r' qs
  have hserved : ¬Served x (ofDevices (.empty [])) rs (.fpga 1) := fun h => by
    obtain ⟨c, hc⟩ := (served_iff rfl).mp h
    have hnone : (after x rs (ofDevices (.empty []))).lookup? (.fpga 1) = none := by
      decide +kernel
    cases hnone.symm.trans hc
  have hfirst : (getBy x (.fpga 1) r).1 = .ok ⟨0⟩ := by decide +kernel
  have hget : (Inquiry.target (.fpga 1)).answerBy x r = (.ok ⟨0⟩, r') := Prod.ext hfirst rfl
  have hparse : Target.parse " FPGA:01" = .ok (.fpga 1) := by decide +kernel
  obtain ⟨hstays, -, -, hmade, -⟩ := contexts_stay x (.empty []) rs
  exact ⟨hserved, hfirst, (hmade _ _ (.target _) hserved).1 _ _ hget,
    (hstays _ _ _ _ (.target _) hget qs (.text " FPGA:01") (.text hparse)).1, by decide +kernel⟩

end ContextRegistry

end Offload
