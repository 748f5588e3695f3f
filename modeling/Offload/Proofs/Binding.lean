import Offload.SlotTable

/-!
# Slots and host buffers

A slot table says in two places which buffer is in which slot: every slot holds its buffer, and
a list leads from buffers to slots. The two agree at all times.

* `SlotTable.Inverse` — each of the two is the inverse of the other.
* `SlotTable.Inverse.bind`, `SlotTable.Inverse.replace` — what changes the one changes the
  other with it.
* `SlotTable.Grows` — new slots appear, and the slots that are there stay as they are.
-/

namespace Offload

namespace SlotTable

variable {t t' : SlotTable} {h old new : HostId} {s s' : SlotId} {x : Slot}

/-- The slot was made. -/
def Has (t : SlotTable) (s : SlotId) : Prop := s.index < t.slots.size

/-- The buffers that the list leads from. -/
def boundHosts (t : SlotTable) : List HostId := t.byHost.map Prod.fst

/-- The slots and the list from buffers to slots are inverse to each other. -/
structure Inverse (t : SlotTable) : Prop where
  /-- the list leads from a buffer to a slot just where that slot holds the buffer -/
  slotOf?_iff : ∀ h s, t.slotOf? h = some s ↔ t.Has s ∧ (t.get s).host = h
  /-- the list has one entry for a buffer -/
  nodup : t.boundHosts.Nodup
  /-- there are as many entries as slots -/
  length : t.byHost.length = t.slots.size

/-! ### Looking up -/

theorem get_set_self (hs : t.Has s) : (t.set s x).get s = x := by
  have : s.index < t.slots.size := hs
  simp [get, set, Array.getD, this]

theorem get_set_ne (hne : s' ≠ s) : (t.set s x).get s' = t.get s' := by
  have hidx : s.index ≠ s'.index := fun he => hne (by cases s; cases s'; simp_all)
  simp only [get, set, Array.getD_eq_getD_getElem?]
  rw [Array.getElem?_setIfInBounds_ne hidx]

/-- A slot that was not made cannot be changed. -/
theorem set_of_not_has (hs : ¬ t.Has s) : t.set s x = t := by
  simp only [Has, Nat.not_lt] at hs
  rw [set, Array.setIfInBounds_eq_of_size_le hs]

/-- Putting a slot in its own place changes nothing. -/
theorem set_get (t : SlotTable) (s : SlotId) : t.set s (t.get s) = t := by
  by_cases hs : t.Has s
  · have hlt : s.index < t.slots.size := hs
    have hself : t.slots.setIfInBounds s.index (t.get s) = t.slots := by
      simp [get, Array.getD, hlt, Array.setIfInBounds]
    rw [set, hself]
  · exact set_of_not_has hs

/-- A slot of a table in which one was changed is the changed one or as before. -/
theorem get_set_cases (t : SlotTable) (s s' : SlotId) (x : Slot) :
    (s' = s ∧ t.Has s ∧ (t.set s x).get s' = x) ∨
      ((s' = s → ¬ t.Has s) ∧ (t.set s x).get s' = t.get s') := by
  by_cases he : s' = s
  · subst he
    by_cases hs : t.Has s'
    · exact .inl ⟨rfl, hs, get_set_self hs⟩
    · exact .inr ⟨fun _ => hs, by rw [set_of_not_has hs]⟩
  · exact .inr ⟨fun h' => absurd h' he, get_set_ne he⟩

@[simp] theorem size_set : (t.set s x).slots.size = t.slots.size := by
  simp [set]

@[simp] theorem has_set : (t.set s x).Has s' ↔ t.Has s' := by
  rw [Has, Has, size_set]

/-- A slot that was not made has no device memory and agrees with nothing. -/
theorem get_of_not_has (hs : ¬ t.Has s) : t.get s = default := by
  have : ¬ s.index < t.slots.size := hs
  simp [get, Array.getD, this]

theorem slotOf?_eq_none : t.slotOf? h = none ↔ h ∉ t.boundHosts := by
  simp only [slotOf?, boundHosts, Option.map_eq_none_iff, List.find?_eq_none, List.mem_map,
    beq_iff_eq, not_exists, not_and]

namespace Inverse

theorem has_of_slotOf? (ht : t.Inverse) (hs : t.slotOf? h = some s) : t.Has s :=
  ((ht.slotOf?_iff h s).mp hs).1

theorem host_of_slotOf? (ht : t.Inverse) (hs : t.slotOf? h = some s) : (t.get s).host = h :=
  ((ht.slotOf?_iff h s).mp hs).2

theorem slotOf?_host (ht : t.Inverse) (hs : t.Has s) : t.slotOf? (t.get s).host = some s :=
  (ht.slotOf?_iff _ s).mpr ⟨hs, rfl⟩

/-- No buffer is in two slots. -/
theorem host_injective (ht : t.Inverse) (hs : t.Has s) (hs' : t.Has s')
    (heq : (t.get s).host = (t.get s').host) : s = s' := by
  have h₁ := ht.slotOf?_host hs
  rw [heq, ht.slotOf?_host hs'] at h₁
  exact (Option.some.inj h₁).symm

theorem empty : SlotTable.empty.Inverse where
  slotOf?_iff h s := by simp [SlotTable.empty, slotOf?, Has]
  nodup := List.nodup_nil
  length := rfl

/-- A slot may change as long as it holds the same buffer. -/
theorem set (ht : t.Inverse) (hx : x.host = (t.get s).host) : (t.set s x).Inverse where
  slotOf?_iff h s' := by
    have hhost : ((t.set s x).get s').host = (t.get s').host := by
      rcases get_set_cases t s s' x with ⟨rfl, -, h'⟩ | ⟨-, h'⟩
      · rw [h', hx]
      · rw [h']
    rw [has_set, hhost]
    exact ht.slotOf?_iff h s'
  nodup := ht.nodup
  length := ht.length.trans size_set.symm

end Inverse

/-! ### Binding -/

/-- The slots of `t` are in `t'` as they were; the others in `t'` have no device memory. -/
structure Grows (t t' : SlotTable) : Prop where
  /-- no slot is lost -/
  size : t.slots.size ≤ t'.slots.size
  /-- a slot that was there is the same -/
  old : ∀ s, t.Has s → t'.get s = t.get s
  /-- a new slot has no device memory -/
  fresh : ∀ s, ¬ t.Has s → (t'.get s).allocation = none ∧ (t'.get s).synced = none

theorem Grows.refl (t : SlotTable) : Grows t t :=
  ⟨Nat.le_refl _, fun _ _ => rfl, fun s hs => by rw [get_of_not_has hs]; exact ⟨rfl, rfl⟩⟩

theorem Grows.trans {t'' : SlotTable} (h₁ : Grows t t') (h₂ : Grows t' t'') : Grows t t'' where
  size := Nat.le_trans h₁.size h₂.size
  old s hs := (h₂.old s (Nat.lt_of_lt_of_le hs h₁.size)).trans (h₁.old s hs)
  fresh s hs := by
    by_cases hs' : t'.Has s
    · rw [h₂.old s hs']
      exact h₁.fresh s hs
    · exact h₂.fresh s hs'

theorem Grows.has (hg : Grows t t') (hs : t.Has s) : t'.Has s := Nat.lt_of_lt_of_le hs hg.size

theorem bind_of_some (hs : t.slotOf? h = some s) : t.bind h = (s, t) := by
  rw [bind, hs]

theorem bind_of_none (hs : t.slotOf? h = none) :
    t.bind h = (⟨t.slots.size⟩, ⟨t.slots.push (.fresh h), (h, ⟨t.slots.size⟩) :: t.byHost⟩) := by
  rw [bind, hs]

/-- A slot that is added at the end. -/
theorem get_push (t : SlotTable) (x : Slot) (l : List (HostId × SlotId)) (s : SlotId) :
    (SlotTable.mk (t.slots.push x) l).get s =
      if s.index = t.slots.size then x else t.get s := by
  simp only [get, Array.getD_eq_getD_getElem?, Array.getElem?_push]
  split <;> rfl

theorem grows_bind (t : SlotTable) (h : HostId) : Grows t (t.bind h).2 := by
  rcases hs : t.slotOf? h with _ | s
  · rw [bind_of_none hs]
    refine ⟨by simp, ?_, ?_⟩
    · intro s hs
      rw [get_push, if_neg (Nat.ne_of_lt hs)]
    · intro s hs
      rw [get_push]
      split
      · exact ⟨rfl, rfl⟩
      · rw [get_of_not_has hs]
        exact ⟨rfl, rfl⟩
  · rw [bind_of_some hs]
    exact .refl t

/-- After a buffer was bound, it is in the slot that was returned. -/
theorem slotOf?_bind (t : SlotTable) (h : HostId) :
    (t.bind h).2.slotOf? h = some (t.bind h).1 := by
  rcases hs : t.slotOf? h with _ | s
  · rw [bind_of_none hs]
    simp [slotOf?]
  · rw [bind_of_some hs]
    exact hs

/-- Binding a buffer does not move any other. -/
theorem slotOf?_bind_of_some {h' : HostId} (hs : t.slotOf? h' = some s) :
    (t.bind h).2.slotOf? h' = some s := by
  rcases hh : t.slotOf? h with _ | s₁
  · have hne : h ≠ h' := by
      rintro rfl
      rw [hs] at hh
      cases hh
    rw [bind_of_none hh, ← hs]
    simp [slotOf?, hne]
  · rw [bind_of_some hh]
    exact hs

theorem Inverse.bind (ht : t.Inverse) (h : HostId) : (t.bind h).2.Inverse := by
  rcases hs : t.slotOf? h with _ | s
  · have hnew : ∀ s, t.Has s → (t.get s).host ≠ h := by
      rintro s hhas rfl
      rw [ht.slotOf?_host hhas] at hs
      cases hs
    rw [bind_of_none hs]
    refine ⟨fun h' s' => ?_, List.nodup_cons.mpr ⟨slotOf?_eq_none.mp hs, ht.nodup⟩,
      by simp [ht.length]⟩
    rw [get_push]
    -- the list has one more entry, which hides nothing, as `h` had none
    by_cases hh : h = h'
    · subst hh
      constructor
      · intro hsome
        obtain rfl : (⟨t.slots.size⟩ : SlotId) = s' := by simpa [slotOf?] using hsome
        exact ⟨by simp [Has], by simp [Slot.fresh]⟩
      · rintro ⟨hhas, hhost⟩
        split at hhost
        · rename_i hidx
          cases s'
          simp_all [slotOf?]
        · rename_i hidx
          have : t.Has s' := by simp only [Has, Array.size_push] at hhas ⊢; omega
          exact absurd hhost (hnew s' this)
    · have hold : (SlotTable.mk (t.slots.push (.fresh h)) ((h, ⟨t.slots.size⟩) :: t.byHost)).slotOf?
          h' = t.slotOf? h' := by simp [slotOf?, hh]
      rw [hold, ht.slotOf?_iff]
      constructor
      · rintro ⟨hhas, hhost⟩
        have hlt : s'.index < t.slots.size := hhas
        rw [if_neg (Nat.ne_of_lt hlt)]
        exact ⟨by simp only [Has, Array.size_push]; omega, hhost⟩
      · rintro ⟨hhas, hhost⟩
        split at hhost
        · exact absurd hhost hh
        · rename_i hidx
          exact ⟨by simp only [Has, Array.size_push] at hhas ⊢; omega, hhost⟩
  · rw [bind_of_some hs]
    exact ht

theorem grows_bindAll (hs : List HostId) (t : SlotTable) : Grows t (t.bindAll hs).2 := by
  induction hs generalizing t with
  | nil => exact .refl t
  | cons h r ih => exact (grows_bind t h).trans (ih _)

theorem Inverse.bindAll (hs : List HostId) (ht : t.Inverse) : (t.bindAll hs).2.Inverse := by
  induction hs generalizing t with
  | nil => exact ht
  | cons h r ih => exact ih (ht.bind h)

/-! ### Exchanging -/

@[simp] theorem get_replace : (t.replace old new s x).get s' = (t.set s x).get s' := rfl

@[simp] theorem has_replace : (t.replace old new s x).Has s' ↔ t.Has s' := has_set

/-- Where the list leads after an exchange. -/
theorem slotOf?_replace (t : SlotTable) (old new h : HostId) (s : SlotId) (x : Slot) :
    (t.replace old new s x).slotOf? h =
      if h = new then some s else if h = old then none else t.slotOf? h := by
  unfold replace slotOf?
  dsimp only
  rw [List.find?_cons]
  by_cases hnew : h = new
  · subst hnew
    simp
  · rw [if_neg hnew, List.find?_filter]
    have hne : (new == h) = false := beq_eq_false_iff_ne.mpr (Ne.symm hnew)
    rw [hne]
    by_cases hold : h = old
    · subst hold
      simp
    · rw [if_neg hold]
      have hfun : (fun e : HostId × SlotId => decide ((e.1 != old) = true ∧ (e.1 == h) = true)) =
          fun e => e.1 == h := by
        funext e
        by_cases he : e.1 = h
        · simp [he, hold]
        · simp [he]
      rw [hfun]

/-- One entry goes where the entry of a bound buffer is taken out. -/
theorem length_filter_bound (ht : t.Inverse) (hs : t.slotOf? old = some s) :
    (t.byHost.filter (·.1 != old)).length + 1 = t.byHost.length := by
  have hmem : old ∈ t.boundHosts := by
    refine Classical.byContradiction ?_
    intro hnot
    rw [slotOf?_eq_none.mpr hnot] at hs
    cases hs
  have hone : t.byHost.countP (·.1 == old) = 1 := by
    have hcount := ht.nodup.count (a := old)
    rw [if_pos hmem, boundHosts, List.count, List.countP_map] at hcount
    exact hcount
  have hall := List.length_eq_countP_add_countP (·.1 == old) (l := t.byHost)
  rw [← List.countP_eq_length_filter, hall, hone, Nat.add_comm]
  congr 2
  funext e
  by_cases he : e.1 = old <;> simp [he]

/-- An exchange keeps the list and the slots together. The new buffer is the old one, or was in
no slot. -/
theorem Inverse.replace (ht : t.Inverse) (hs : t.slotOf? old = some s)
    (hnew : new ≠ old → t.slotOf? new = none) (hx : x.host = new) :
    (t.replace old new s x).Inverse := by
  -- slot `s` is compared with the new entry, every other slot with the entries that were left
  obtain ⟨hhas, hhost⟩ := (ht.slotOf?_iff old s).mp hs
  refine ⟨?_, ?_, ?_⟩
  · intro h s'
    rw [slotOf?_replace, has_replace, get_replace]
    rcases get_set_cases t s s' x with ⟨rfl, -, hget⟩ | ⟨hne, hget⟩
    · rw [hget, hx]
      split
      · rename_i he
        exact ⟨fun _ => ⟨hhas, he.symm⟩, fun _ => rfl⟩
      · rename_i he
        refine ⟨?_, fun h' => absurd h'.2.symm he⟩
        intro h'
        split at h'
        · cases h'
        · rename_i hold
          exact absurd (hhost.symm.trans (ht.host_of_slotOf? h')).symm hold
    · have hne' : s' ≠ s := fun he => hne he hhas
      rw [hget]
      split
      · rename_i he
        subst he
        refine ⟨fun h' => absurd (Option.some.inj h').symm hne', ?_⟩
        intro h'
        have hs' := (ht.slotOf?_iff h s').mpr h'
        by_cases ho : h = old
        · rw [ho, hs] at hs'
          exact hs'
        · rw [hnew ho] at hs'
          cases hs'
      · split
        · rename_i ho
          refine ⟨nofun, ?_⟩
          intro h'
          have hs' := (ht.slotOf?_iff h s').mpr h'
          rw [ho, hs] at hs'
          exact absurd (Option.some.inj hs').symm hne'
        · exact ht.slotOf?_iff h s'
  · show (new :: (t.byHost.filter (·.1 != old)).map Prod.fst).Nodup
    refine List.nodup_cons.mpr ⟨?_, ht.nodup.sublist (List.filter_sublist.map _)⟩
    intro hmem
    obtain ⟨e, he, rfl⟩ := List.mem_map.mp hmem
    obtain ⟨he, ho⟩ := List.mem_filter.mp he
    -- an entry of `new` that is left is not that of `old`, but then `new` had no slot
    have hnone := hnew (by simpa using ho)
    exact slotOf?_eq_none.mp hnone (List.mem_map.mpr ⟨e, he, rfl⟩)
  · show (t.byHost.filter (·.1 != old)).length + 1 = (t.set s x).slots.size
    rw [length_filter_bound ht hs, ht.length, size_set]

end SlotTable

end Offload
