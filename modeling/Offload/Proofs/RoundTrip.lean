import Offload.Proofs.Elements
import Offload.Proofs.ReadBack

/-!
# There and back

What is copied to a device is there element by element, and comes back as it was. In between,
anything may become of the buffer that it came from, and anything may be done with the device,
except to what was copied.

* `Allocation.Refuses` — why a copy is refused, which changes nothing.
* `System.Operation.Spares` — what is done leaves alone what a slot holds in device memory.
* `System.Run.deviceBytes` — a slot that is left alone holds what it held.
* `System.roundTrip` — elements survive the way to the device and back.
-/

namespace Offload

/-! ### Copies that are refused -/

/-- Why `n` bytes cannot be copied to an allocation, or from it. The number of bytes is looked at
first. -/
inductive Allocation.Refuses (a : Allocation) (m : Arena) (n : Nat) : DeviceError → Prop where
  /-- it has room for another number of bytes -/
  | size (h : n ≠ a.size) : a.Refuses m n (.sizeMismatch a.size n)
  /-- it was released -/
  | released (h : n = a.size) (hblock : a.block.bind m.get? = none) : a.Refuses m n .notAllocated

namespace Arena

variable {m : Arena} {a : Allocation} {src : Bytes} {n : Nat} {e : DeviceError}

theorem upload_of_refuses (h : a.Refuses m src.size e) : m.upload a src = .error e := by
  cases h with
  | size h =>
    rw [upload, checkSize, if_neg h]
    rfl
  | released h hblock =>
    rw [upload, checkSize, if_pos h, raw, hblock]
    rfl

theorem download_of_refuses (h : a.Refuses m n e) : m.download a n = .error e := by
  cases h with
  | size h =>
    rw [download, checkSize, if_neg h]
    rfl
  | released h hblock =>
    rw [download, checkSize, if_pos h, raw, hblock]
    rfl

end Arena

namespace Device

variable {d : Device} {a : Allocation} {src : Bytes} {n : Nat} {e : DeviceError}

theorem poke_of_refuses (h : a.Refuses d.pool.arena src.size e) :
    poke a src d = (.error e, d) := by
  rw [poke, Arena.upload_of_refuses h]

/-- A step that is refused after a call leaves the call behind. Where the call fails itself, the
step is not even tried. -/
theorem call_bind_of_error {α : Type} {c : Call} {m : Step DeviceError Device α}
    (h : m (d.counted c) = (.error e, d.counted c)) :
    ∃ e', (call c >>= fun _ => m) d = (.error e', d.counted c) ∧
      (d.faults c (d.count c + 1) = false → e' = e) := by
  rw [Step.bind_apply, call_apply]
  by_cases hfault : d.faults c (d.count c + 1) = true
  · rw [if_pos hfault]
    refine ⟨_, rfl, fun hquiet => ?_⟩
    rw [hquiet] at hfault
    cases hfault
  · rw [if_neg hfault]
    exact ⟨e, h, fun _ => rfl⟩

theorem upload_of_refuses (h : a.Refuses d.pool.arena src.size e) :
    ∃ e', upload a src d = (.error e', d.counted .upload) ∧
      (d.faults .upload (d.count .upload + 1) = false → e' = e) :=
  call_bind_of_error (poke_of_refuses (d := d.counted .upload) h)

theorem download_of_refuses (h : a.Refuses d.pool.arena n e) :
    ∃ e', download a n d = (.error e', d.counted .download) ∧
      (d.faults .download (d.count .download + 1) = false → e' = e) := by
  refine call_bind_of_error ?_
  rw [Step.bind_apply, Step.get_apply]
  exact Prod.ext (Arena.download_of_refuses h) rfl

end Device

namespace System

variable {ι δ : Type} [DecidableEq ι] [DecidableEq δ]
  {f₀ f f' f₁ : System ι δ} {es : List (Event ι δ)} {u v : ι} {s : SlotId} {xs : Bytes}

/-- A slot without device memory has nothing to copy, and stays as it is. -/
theorem download_of_allocation_eq_none (h : ((f.table u).get s).allocation = none) :
    (Operation.download u s).apply f = (.error .notAllocated, f) := by
  have hself : f.setWorkspace u (f.workspace u) = f := by
    simp only [setWorkspace, workspace, Function.update_eq_self]
  have hdown : Workspace.download s (f.workspace u) = (.error .notAllocated, f.workspace u) := by
    rw [Workspace.download_apply, show ((f.workspace u).table.get s).allocation = none from h]
  rw [Operation.apply, onWorkspace, hdown, hself]
  rfl

theorem allocation_release (f : System ι δ) (u : ι) (s : SlotId) :
    ((((Operation.release u s).apply f).2.table u).get s).allocation = none := by
  have htable : ((Operation.release u s).apply f).2.table u =
      (f.table u).set s (.fresh ((f.table u).get s).host) :=
    (Function.update_self _ _ _).trans (Workspace.table_release (f.workspace u) s)
  rw [htable]
  rcases (f.table u).get_set_cases s s (.fresh ((f.table u).get s).host) with
    ⟨-, -, hget⟩ | ⟨hnot, hget⟩ <;> rw [hget]
  · rfl
  · rw [SlotTable.get_of_not_has (hnot rfl)]
    rfl

/-! ### What is left alone -/

/-- What is done leaves alone what a slot holds in device memory: the slot is not copied to the
device, its memory is not given up, its buffer is not exchanged, and no kernel writes it. -/
def Operation.Spares (f : System ι δ) (u : ι) (s : SlotId) : Operation ι δ → Prop
  | upload v t | release v t => ¬ (v = u ∧ t = s)
  | rebind v old _ => ¬ (v = u ∧ (f.table u).slotOf? old = some s)
  | releaseAll v => v ≠ u
  | launch d k args => ¬ (launch d k args).Writes f u s
  | host _ | bind _ _ | allocate _ _ | download _ _ | reset _ | configure _ _ _ => True

/-- What a user does leaves alone what a slot holds, if it does so where the slot is theirs. -/
theorem deviceBytes_onWorkspace {α : Type} {m : Step DeviceError Workspace α} (hf : f.Sound)
    (ha : Workspace.Advances (fun _ => False) (f.workspace v) (m (f.workspace v)).2)
    (hself : v = u → (m (f.workspace u)).2.deviceBytes s = some xs)
    (h : (f.workspace u).deviceBytes s = some xs) :
    ((onWorkspace v m f).2.workspace u).deviceBytes s = some xs := by
  by_cases hv : v = u
  · subst hv
    rw [onWorkspace, workspace_setWorkspace_self]
    exact hself rfl
  · have hothers := hf.undisturbed_setWorkspace ha (Ne.symm hv)
    have hblock := congrArg (SlotTable.block? · s) hothers.table
    exact (hf.workspace u).deviceBytes_of_keeps h hblock fun id b hid =>
      hothers.same s id b hid not_false

omit [DecidableEq ι] in
/-- What is done to a device leaves alone what a slot holds, if the block of the slot is on loan as
before. -/
theorem deviceBytes_onDevice {α : Type} {d : δ} {m : Step DeviceError Device α} (hf : f.Sound)
    (hlends : ∀ id b, f.home u = d → (f.table u).block? s = some id →
      (f.context d).device.pool.Lends id b → (m (f.context d).device).2.pool.Lends id b)
    (h : (f.workspace u).deviceBytes s = some xs) :
    ((onDevice d m f).2.workspace u).deviceBytes s = some xs := by
  rw [onDevice, workspace_setDevice]
  refine (hf.workspace u).deviceBytes_of_keeps h rfl fun id b hid hb => ?_
  by_cases hd : f.home u = d
  · subst hd
    simpa only [Workspace.pool, if_pos] using hlends id b rfl hid hb
  · simp only [Workspace.pool, if_neg hd]
    exact hb

/-- A slot that is left alone holds what it held. -/
theorem Operation.deviceBytes_of_spares {o : Operation ι δ} (hf : f.Sound) (ho : o.Valid f)
    (hs : o.Spares f u s) (h : (f.workspace u).deviceBytes s = some xs) :
    ((o.apply f).2.workspace u).deviceBytes s = some xs := by
  cases o with
  | host a => exact h
  | bind v x =>
    refine deviceBytes_onWorkspace hf ((hf.workspace v).bind ho).2 (fun _ => ?_) h
    have hold := ((f.table u).grows_bind x).old s (Workspace.has_of_deviceBytes h)
    exact (hf.workspace u).deviceBytes_of_keeps h
      (congrArg (·.allocation.bind Allocation.block) hold) fun _ _ _ hb => hb
  | allocate v t =>
    obtain ⟨hserves, -⟩ := Workspace.ensureAllocated_inv (s := t) (hf.workspace v) rfl
    refine deviceBytes_onWorkspace hf hserves.advances ?_ h
    rintro rfl
    exact hserves.bytes s xs not_false h
  | upload v t =>
    obtain ⟨hserves, -⟩ := Workspace.upload_inv (s := t) (hf.workspace v) rfl
    refine deviceBytes_onWorkspace hf hserves.advances ?_ h
    rintro rfl
    exact hserves.bytes s xs (fun he => hs ⟨rfl, he.symm⟩) h
  | download v t =>
    obtain ⟨hserves, -⟩ := Workspace.download_inv (s := t) (hf.workspace v) rfl
    refine deviceBytes_onWorkspace hf hserves.advances ?_ h
    rintro rfl
    exact hserves.bytes s xs not_false h
  | rebind v old new =>
    refine deviceBytes_onWorkspace hf ((hf.workspace v).rebind ho).2 ?_ h
    rintro rfl
    rcases hr : Workspace.rebind old new (f.workspace v) with ⟨r, w⟩
    obtain ⟨t, -, ht, -, -, hrev⟩ | ⟨-, rfl⟩ := Workspace.rebind_inv (hf.workspace v) ho hr
    · exact hrev.bytes_other (hf.workspace v) (fun he => hs ⟨rfl, he ▸ ht⟩) h
    · exact h
  | release v t =>
    refine deviceBytes_onWorkspace hf ((hf.workspace v).release t).2 ?_ h
    rintro rfl
    exact ((hf.workspace v).revises_release t).bytes_other (hf.workspace v)
      (fun he => hs ⟨rfl, he.symm⟩) h
  | releaseAll v =>
    exact deviceBytes_onWorkspace hf (hf.workspace v).releaseAll.2 (fun he => absurd he hs) h
  | launch d k args =>
    refine deviceBytes_onDevice hf (fun id b hd hid hb => ?_) h
    exact (Device.launch_changes (f.context d).device k args).lends_of_not hb
      fun hw => hs ⟨hd, id, hid, hw⟩
  | reset d =>
    refine deviceBytes_onDevice hf (fun id b _ _ hb => ?_) h
    rcases reset_inv (f.context d).device with hpool | hpool <;> rw [hpool]
    · exact (Pool.trim_keeps _).lends id b hb
    · exact hb
  | configure d faults capacity => exact deviceBytes_onDevice hf (fun _ _ _ _ hb => hb) h

/-- A slot that is left alone all along holds what it held. -/
theorem Run.deviceBytes (h : Run f es f') (hf : f.Sound)
    (hs : ∀ e ∈ es, e.operation.Spares e.before u s)
    (hb : (f.workspace u).deviceBytes s = some xs) : (f'.workspace u).deviceBytes s = some xs := by
  induction h with
  | start => exact hb
  | step o hrun ho ih =>
    have hmid := ih fun e he => hs e (List.mem_cons_of_mem _ he)
    exact Operation.deviceBytes_of_spares (hrun.sound hf) ho (hs _ List.mem_cons_self) hmid

end System

/-! ### Elements -/

/-- A buffer of given elements holds these elements. -/
theorem HostBuffer.toList_ofList (t : ElementType) (wide : 0 < t.bytes) (vs : List t.Value) :
    (HostBuffer.ofList t vs wide).toList = vs :=
  ElementType.valuesOf_bytesOf vs

/-- Type, length and bytes make up a buffer, up to its version. -/
theorem HostBuffer.eq_of_bytes {b b' : HostBuffer} (htype : b'.type = b.type)
    (hlen : b'.len = b.len) (hbytes : b'.bytes = b.bytes) :
    b' = { b with version := b'.version } := by
  obtain ⟨type, wide, len, bytes, version, hsize⟩ := b
  cases htype
  cases hlen
  cases hbytes
  rfl

namespace Workspace

variable {w w' : Workspace} {s : SlotId} {xs : Bytes}

/-- What a slot holds is as many bytes as the buffer in it has, and can be read element by
element. -/
theorem Sound.elements_of_deviceBytes (hw : w.Sound) {t : ElementType}
    (ht : (w.host s).type = t) (h : w.deviceBytes s = some xs) :
    xs.size = (w.host s).byteLen ∧ ∃ a, (w.table.get s).allocation = some a ∧
      w.pool.arena.elements a t = .ok (t.valuesOf xs (w.host s).len) := by
  rcases ha : (w.table.get s).allocation with _ | a
  · rw [deviceBytes, SlotTable.block?, ha] at h
    cases h
  obtain ⟨htype, hlen, id, b, hid, hb, hsize⟩ := hw.room s a ha
  have hblock : w.table.block? s = some id := block?_eq_some.mpr ⟨a, ha, hid⟩
  obtain rfl : b.content = xs := Option.some.inj ((deviceBytes_of_lends hblock hb).symm.trans h)
  refine ⟨by rw [Block.size_content, hsize], a, rfl, ?_⟩
  have hraw : w.pool.arena.raw a = .ok b := Device.raw_of_lends (d := w.device) hb hid
  rw [Arena.elements, if_neg (not_not_intro (ht.symm.trans htype.symm)), Arena.download,
    Arena.checkSize, if_pos rfl, hraw, hlen]
  rfl

/-- A slot that holds something is copied to its buffer, unless the device refuses. -/
theorem Sound.download_of_deviceBytes (hw : w.Sound) (h : w.deviceBytes s = some xs) :
    (∃ w', download s w = (.ok (), w') ∧ (w'.host s).type = (w.host s).type ∧
      (w'.host s).len = (w.host s).len ∧ (w'.host s).bytes = xs) ∨
    ∃ reason w', download s w = (.error (.transfer reason), w') ∧
      Device.Fails .download w.device w'.device := by
  rcases hr : download s w with ⟨r, w'⟩
  obtain ⟨hserves, ⟨rfl, b, hb, hsize, hhosts⟩ | ⟨⟨reason, rfl⟩, hfails, -⟩ | ⟨-, hnone, -⟩⟩ :=
    download_inv hw hr
  · obtain rfl : b = xs := Option.some.inj (hb.symm.trans h)
    have hhost := hserves.host_set hw (has_of_deviceBytes hb) hhosts
    refine .inl ⟨w', rfl, ?_, ?_, ?_⟩ <;> rw [hhost]
    · rfl
    · rfl
    · exact HostBuffer.bytes_patch (h := (w.host s).touch) hsize
  · exact .inr ⟨reason, w', rfl, hfails⟩
  · rw [deviceBytes, hnone] at h
    cases h

end Workspace

namespace System

variable {ι δ : Type} [DecidableEq ι] [DecidableEq δ]
  {f₀ f f' f₁ : System ι δ} {es : List (Event ι δ)} {u v : ι} {s : SlotId} {xs : Bytes}

/-- A slot that was copied holds the bytes of its buffer. -/
theorem deviceBytes_of_uploaded (hf : f.Sound)
    (h : (Operation.upload u s).apply f = (.ok (), f₁)) : (f.table u).Has s ∧
      (f₁.workspace u).deviceBytes s = some ((f.workspace u).host s).bytes := by
  obtain ⟨hup, -⟩ := onWorkspace_inv h
  obtain ⟨-, -, ⟨-, hs, hbytes⟩ | ⟨⟨_, hr⟩, -⟩ | ⟨⟨_, hr⟩, -⟩ | ⟨hr, -⟩⟩ :=
    Workspace.upload_inv (hf.workspace u) hup
  · exact ⟨hs, hbytes⟩
  all_goals cases hr

/-- The elements of a buffer that was copied to a slot are there, and a copy to the host turns the
buffer that is in the slot now into the one that was copied, but for its version. Nothing keeps this
copy from being made but a fault of the device. -/
structure Carries (f : System ι δ) (u : ι) (s : SlotId) (b : HostBuffer) : Prop where
  /-- the slot has room, which holds the elements -/
  elements : ∃ a, ((f.table u).get s).allocation = some a ∧
    (f.workspace u).pool.arena.elements a b.type = .ok b.toList
  /-- they can be had back -/
  download : (∃ f' n, (Operation.download u s).apply f = (.ok (), f') ∧
      (f'.workspace u).host s = { b with version := n }) ∨
    ∃ reason f', (Operation.download u s).apply f = (.error (.transfer reason), f') ∧
      Device.Fails .download (f.workspace u).device (f'.workspace u).device

theorem Sound.carries {b : HostBuffer} (hf : f.Sound)
    (htype : ((f.workspace u).host s).type = b.type)
    (hbytes : (f.workspace u).deviceBytes s = some b.bytes) : Carries f u s b := by
  have hw := hf.workspace u
  obtain ⟨hsize, a, ha, helements⟩ := hw.elements_of_deviceBytes htype hbytes
  have hlen : ((f.workspace u).host s).len = b.len := by
    refine Workspace.len_eq_of_byteLen htype ?_
    rw [← hsize, b.size_bytes]
  have happly {r : Except DeviceError Unit} {w : Workspace}
      (hdown : Workspace.download s (f.workspace u) = (r, w)) :
      (Operation.download u s).apply f = (r.map fun _ => (), f.setWorkspace u w) := by
    rw [Operation.apply, onWorkspace, hdown]
  refine ⟨⟨a, ha, ?_⟩, ?_⟩
  · rw [helements, hlen, HostBuffer.toList]
  · rcases hw.download_of_deviceBytes hbytes with ⟨w, hdown, htype', hlen', hbytes'⟩ |
      ⟨reason, w, hdown, hfails⟩
    · refine .inl ⟨_, (w.host s).version, happly hdown, ?_⟩
      rw [workspace_setWorkspace_self]
      exact HostBuffer.eq_of_bytes (htype'.trans htype) (hlen'.trans hlen) hbytes'
    · refine .inr ⟨reason, _, happly hdown, ?_⟩
      rw [workspace_setWorkspace_self]
      exact hfails

/-- What was copied to a slot stays there for as long as it is left alone. -/
theorem carries_of_uploaded {es' : List (Event ι δ)} (hf : f.Sound)
    (hup : (Operation.upload u s).apply f = (.ok (), f₁)) (hrun : Run f₁ es' f')
    (hspares : ∀ e ∈ es', e.operation.Spares e.before u s) :
    Carries f' u s ((f.workspace u).host s) := by
  obtain ⟨hf₁, hadv⟩ := Operation.advances_apply (o := .upload u s) hf trivial
  rw [hup] at hf₁ hadv
  obtain ⟨hs, hbytes⟩ := deviceBytes_of_uploaded hf hup
  have hs₁ : (f₁.table u).Has s := hadv.has u s hs
  refine (hrun.sound hf₁).carries ?_ (hrun.deviceBytes hf₁ hspares hbytes)
  exact ((hrun.advances hf₁).type u s hs₁).trans (hadv.type u s hs)

/-- **There and back.** Elements of any type and in any number that are put into a buffer are the
elements that it holds. When a slot was copied to the device, the elements of its buffer are there,
and come back bit for bit when the slot is copied to the host, whatever became of the buffer in
between and whatever else was done, for as long as device memory of the slot was left alone.

A copy of the wrong number of bytes is refused, and so is one to or from an allocation that was
released or from a slot without device memory. Nothing changes then on either side; a device counts
the call. -/
theorem roundTrip :
    (∀ (t : ElementType) (wide : 0 < t.bytes) (vs : List t.Value),
      (HostBuffer.ofList t vs wide).toList = vs) ∧
    (∀ (f₀ f f₁ f₂ : System ι δ) es es' u s, Start f₀ → Run f₀ es f →
      (Operation.upload u s).apply f = (.ok (), f₁) → Run f₁ es' f₂ →
      (∀ e ∈ es', e.operation.Spares e.before u s) → Carries f₂ u s ((f.workspace u).host s)) ∧
    (∀ (d : Device) (a : Allocation) n e, a.Refuses d.pool.arena n e →
      d.pool.arena.download a n = .error e ∧
      (∃ e', Device.download a n d = (.error e', d.counted .download) ∧
        (d.faults .download (d.count .download + 1) = false → e' = e)) ∧
      ∀ src : Bytes, src.size = n → Device.poke a src d = (.error e, d) ∧
        ∃ e', Device.upload a src d = (.error e', d.counted .upload) ∧
          (d.faults .upload (d.count .upload + 1) = false → e' = e)) ∧
    ∀ (f : System ι δ) u s,
      (((f.table u).get s).allocation = none →
        (Operation.download u s).apply f = (.error .notAllocated, f)) ∧
      ((((Operation.release u s).apply f).2.table u).get s).allocation = none := by
  refine ⟨HostBuffer.toList_ofList, fun f₀ f f₁ f₂ es es' u s h₀ h hup hrun hspares => ?_,
    fun d a n e h => ⟨Arena.download_of_refuses h, Device.download_of_refuses h, ?_⟩,
    fun f u s => ⟨download_of_allocation_eq_none, allocation_release f u s⟩⟩
  · exact carries_of_uploaded (h.sound h₀.sound) hup hrun hspares
  · rintro src rfl
    exact ⟨Device.poke_of_refuses h, Device.upload_of_refuses h⟩

/-- Twelve bytes, which end in the middle of a word, are copied to the device before some of them
are overwritten on the host. The first element is no number, and the second one is negative zero;
they come back as they were. -/
theorem roundTrip_nan :
    let b : HostBuffer := .ofList (.scalar .float32) [(⟨0x7FA00001⟩ : Single), .negZero, .one]
    let f := ((Operation.bind () ⟨0⟩).apply (single [b])).2
    let f₁ := ((Operation.upload () ⟨0⟩).apply f).2
    let f₂ := ((Operation.host (.overwrite ⟨0⟩ [1, 2, 3, 4, 5])).apply f₁).2
    let d : Device := .cpu none 0
    let a : Allocation := ⟨.scalar .float32, 3, none⟩
    b.toList = [⟨0x7FA00001⟩, .negZero, .one] ∧
      ((f₂.workspace ()).host ⟨0⟩).bytes ≠ b.bytes ∧ Carries f₂ () ⟨0⟩ b ∧
      Device.poke a (.zeros 13) d = (.error (.sizeMismatch 12 13), d) ∧
      Device.poke a (.zeros 12) d = (.error .notAllocated, d) ∧
      ((Operation.download () ⟨1⟩).apply f₂) = (.error .notAllocated, f₂) := by
  intro b f f₁ f₂ d a
  have hmade : 0 < (single [b]).hosts.buffers.size := by decide
  have hrun : Run (single [b]) _ f := .step (.bind () ⟨0⟩) .start hmade
  have hup : (Operation.upload () ⟨0⟩).apply f = (.ok (), f₁) := Prod.ext rfl rfl
  have hspares : ∀ e ∈ [(⟨f₁, .host (.overwrite ⟨0⟩ [1, 2, 3, 4, 5]), .ok ()⟩ : Event Unit Unit)],
      e.operation.Spares e.before () ⟨0⟩ := by simp [Operation.Spares]
  obtain ⟨helements, htrip, hrefused, hslot⟩ := @roundTrip Unit Unit _ _
  exact ⟨helements _ _ _, by decide,
    htrip _ f f₁ f₂ _ _ () ⟨0⟩ start_single hrun hup (.step _ .start trivial) hspares,
    ((hrefused d a 13 _ (.size (by decide))).2.2 _ rfl).1,
    ((hrefused d a 12 _ (.released rfl rfl)).2.2 _ rfl).1, (hslot f₂ () ⟨1⟩).1 rfl⟩

end System

end Offload
