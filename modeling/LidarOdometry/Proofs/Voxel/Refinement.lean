import LidarOdometry.Proofs.Voxel.Representation

/-!
# Runs of a Voxel Map

Whatever is inserted into a voxel map and pruned from it, the map behaves as points grouped by
voxel (`VoxelGroups`) on which the same calls are made, and neither the slots that voxels were
given nor the voxels that had them before can be seen.

Two choices are left open throughout. A new voxel may be given any vacant slot, and pruning may
visit the voxels in any order. `VoxelMap.Run` is the relation of all the runs that these choices
allow; the library's own `VoxelMap.insert` and `VoxelMap.prune` make one of them
(`VoxelMap.Represents.run_perform`).

## Main definitions

* `MapCall`: an insertion or a pruning, with its effect on groups `MapCall.onGroups`.
* `VoxelMap.Offers`, `VoxelMap.Performs`, `VoxelMap.Run`: runs under any choice of slots and order.
* `VoxelMap.Pending`: entries of the index that pruning has still to visit.

## Main results

* `VoxelMap.Represents.offerAt`, `VoxelMap.Represents.drop`: the two steps keep map and groups
  together.
* `VoxelMap.Represents.run`: so do whole runs.
* `VoxelMap.Represents.run_perform`: the library's own choices are allowed.
* `VoxelMap.run_shows_groups`: every run from an empty map answers and ends as the groups do.
-/

namespace LidarOdometry

variable {α : Type} [Scalar α]

/-! ### Calls -/

/-- **A call that changes a map.** -/
inductive MapCall (α : Type) where
  | insert (points : List (Vec3 α)) (density : Density α)
  | prune (place : Vec3 α) (maxDistance : α)

omit [Scalar α] in
/-- The density of a call, under the capacity of the map. -/
def Density.clamp (density : Density α) (capacity : Nat) : Density α :=
  { density with maxPoints := min density.maxPoints capacity }

/-- What a call does to groups. -/
def MapCall.onGroups (voxelSize : α) (capacity : Nat) (g : VoxelGroups α) :
    MapCall α → VoxelGroups α
  | .insert points density => g.insert voxelSize (density.clamp capacity) points
  | .prune place maxDistance => g.prune place maxDistance

omit [Scalar α] in
/-- What a call answers when it takes groups from `before` to `after`: the number of points
stored, or of voxels removed. -/
def MapCall.answer (before after : VoxelGroups α) : MapCall α → Nat
  | .insert _ _ => after.size - before.size
  | .prune _ _ => before.domain.card - after.domain.card

/-- An insertion answers by how much the number of points has grown. -/
theorem MapCall.size_add_answer (voxelSize : α) (capacity : Nat) (g : VoxelGroups α)
    (points : List (Vec3 α)) (density : Density α) :
    let call := insert points density
    g.size + call.answer g (call.onGroups voxelSize capacity g) =
      (call.onGroups voxelSize capacity g).size :=
  Nat.add_sub_cancel' (VoxelGroups.size_le_size_insert points)

/-- A pruning answers by how much the number of voxels has shrunk. -/
theorem MapCall.card_add_answer (voxelSize : α) (capacity : Nat) (g : VoxelGroups α)
    (place : Vec3 α) (maxDistance : α) :
    let call := prune place maxDistance
    (call.onGroups voxelSize capacity g).domain.card +
      call.answer g (call.onGroups voxelSize capacity g) = g.domain.card :=
  Nat.add_sub_cancel' (VoxelGroups.card_prune_le place maxDistance)

/-- The answers to calls on groups, and the groups afterwards. -/
def VoxelGroups.perform (voxelSize : α) (capacity : Nat) :
    VoxelGroups α → List (MapCall α) → List Nat × VoxelGroups α
  | g, [] => ([], g)
  | g, call :: calls =>
      let after := call.onGroups voxelSize capacity g
      let (answers, last) := VoxelGroups.perform voxelSize capacity after calls
      (call.answer g after :: answers, last)

namespace VoxelMap

/-- What a call does to a map, by the library's own choices. -/
def performCall (m : VoxelMap α) : MapCall α → Nat × VoxelMap α
  | .insert points density => m.insert points density
  | .prune place maxDistance => m.prune place maxDistance

/-- The answers to calls on a map, and the map afterwards, by the library's own choices. -/
def perform : VoxelMap α → List (MapCall α) → List Nat × VoxelMap α
  | m, [] => ([], m)
  | m, call :: calls =>
      let (answer, m) := m.performCall call
      let (answers, last) := perform m calls
      (answer :: answers, last)

/-! ### Runs under any choice -/

/-- **Points offered in order**, a new voxel going to any vacant slot, with the number of points
stored. -/
inductive Offers (density : Density α) :
    VoxelMap α → List (Vec3 α) → Nat → VoxelMap α → Prop
  | nil {m : VoxelMap α} : Offers density m [] 0 m
  | cons {m last : VoxelMap α} {p : Vec3 α} {ps : List (Vec3 α)} {stored : Nat} (slot : Nat) :
      m.arena.IsVacant slot →
      Offers density (m.offerAt slot density p).2 ps stored last →
      Offers density m (p :: ps) ((m.offerAt slot density p).1.toNat + stored) last

/-- **A call performed**, with its answer: slots are chosen freely among the vacant ones, and
pruning visits the entries of the index in any order. -/
inductive Performs : VoxelMap α → MapCall α → Nat → VoxelMap α → Prop
  | refuse {m : VoxelMap α} {points : List (Vec3 α)} {density : Density α} :
      (density.clamp m.capacity).maxPoints = 0 →
      Performs m (.insert points density) 0 m
  | insert {m last : VoxelMap α} {points : List (Vec3 α)} {density : Density α} {stored : Nat} :
      (density.clamp m.capacity).maxPoints ≠ 0 →
      Offers (density.clamp m.capacity) m points stored last →
      Performs m (.insert points density) stored last
  | prune {m : VoxelMap α} {place : Vec3 α} {maxDistance : α}
      {entries : List (VoxelKey × Nat)} :
      entries.Perm m.index.toList →
      Performs m (.prune place maxDistance)
        (m.index.size - (m.pruneIn entries place (maxDistance * maxDistance)).index.size)
        (m.pruneIn entries place (maxDistance * maxDistance))

/-- **A run**: calls performed one after the other, with their answers. -/
inductive Run : VoxelMap α → List (MapCall α) → List Nat → VoxelMap α → Prop
  | nil {m : VoxelMap α} : Run m [] [] m
  | cons {m next last : VoxelMap α} {call : MapCall α} {calls : List (MapCall α)}
      {answer : Nat} {answers : List Nat} :
      Performs m call answer next → Run next calls answers last →
      Run m (call :: calls) (answer :: answers) last

/-! ### One point -/

section Offer

variable {m : VoxelMap α} {g : VoxelGroups α} {slot : Nat} {density : Density α} {p : Vec3 α}

/-- The map admits what the groups accept. -/
theorem admits_iff (stored : List (Vec3 α)) :
    admits density stored p = true ↔ density.Accepts stored p := by
  simp [admits, Density.Accepts]

/-- All that an offer can do: the point joins its voxel, it is refused, or it opens a voxel. -/
theorem offerAt_cases (h : m.Represents g) (hroom : 0 < density.maxPoints) (slot : Nat)
    (p : Vec3 α) :
    (∃ known, m.index[m.keyOf p]? = some known ∧
      density.Accepts (g.group (m.keyOf p)) p ∧
      m.offerAt slot density p = (true, { m with arena := m.arena.append known p })) ∨
    (¬ density.Accepts (g.group (m.keyOf p)) p ∧ m.offerAt slot density p = (false, m)) ∨
    (m.index[m.keyOf p]? = none ∧ density.Accepts (g.group (m.keyOf p)) p ∧
      m.offerAt slot density p = (true, { m with
        index := m.index.insert (m.keyOf p) slot
        arena := m.arena.openAt slot (m.keyOf p) p })) := by
  cases hindex : m.index[m.keyOf p]? with
  | some known =>
      have hgroup := h.group_of_index hindex
      by_cases haccepts : density.Accepts (g.group (m.keyOf p)) p
      · have hadmits : admits density (m.arena.contents known) p = true := by
          rw [admits_iff, ← hgroup]
          exact haccepts
        refine .inl ⟨known, rfl, haccepts, ?_⟩
        simp only [offerAt, hindex, hadmits, if_true]
      · have hadmits : ¬ admits density (m.arena.contents known) p = true := by
          rw [admits_iff, ← hgroup]
          exact haccepts
        refine .inr (.inl ⟨haccepts, ?_⟩)
        simp only [offerAt, hindex, if_neg hadmits]
  | none =>
      have hgroup := h.group_of_no_index hindex
      refine .inr (.inr ⟨rfl, ?_, ?_⟩)
      · rw [hgroup]
        exact Density.accepts_nil hroom p
      · simp only [offerAt, hindex]

/-- A voxel that accepts a point has room for it. -/
theorem Represents.exists_room (h : m.Represents g) (hcap : density.maxPoints ≤ m.capacity)
    {known : Nat} (hindex : m.index[m.keyOf p]? = some known)
    (haccepts : density.Accepts (g.group (m.keyOf p)) p) :
    ∃ header, m.arena.headers[known]? = some header ∧ header.key = m.keyOf p ∧
      header.count < m.arena.capacity := by
  obtain ⟨header, hheader, hkey⟩ := h.header_of_index hindex
  have hlength := VoxelArena.length_contents h.sound hheader
  rw [← h.group_of_index hindex] at hlength
  have hlt := haccepts.1
  rw [hlength] at hlt
  exact ⟨header, hheader, hkey, Nat.lt_of_lt_of_le hlt hcap⟩

/-- A point joins its voxel. -/
theorem Represents.append (h : m.Represents g) (hcap : density.maxPoints ≤ m.capacity)
    {known : Nat} (hindex : m.index[m.keyOf p]? = some known)
    (haccepts : density.Accepts (g.group (m.keyOf p)) p) :
    ({ m with arena := m.arena.append known p } : VoxelMap α).Represents
      (g.insert m.voxelSize density [p]) := by
  obtain ⟨header, hheader, hkey, hroom⟩ := h.exists_room hcap hindex haccepts
  refine ⟨h.sound.append hheader hroom p, ?_, ?_, fun key => ?_⟩
  · intro key slot hslot
    rw [VoxelArena.getElem?_headers_append hheader]
    split
    · next heq =>
        subst heq
        obtain ⟨header', hheader', hkey'⟩ := h.header_of_index hslot
        rw [hheader] at hheader'
        cases hheader'
        exact ⟨_, rfl, hkey'⟩
    · exact h.header_of_index hslot
  · intro slot header' hheader'
    rw [VoxelArena.getElem?_headers_append hheader] at hheader'
    split at hheader'
    · next heq =>
        subst heq
        cases hheader'
        have hknown := h.index_of_header hheader
        exact hknown
    · exact h.index_of_header hheader'
  · rw [VoxelGroups.group_insert_singleton]
    change _ = ((m.index[key]?).map (m.arena.append known p).contents).getD []
    -- only the group of the point's own voxel grows
    by_cases hhome : m.keyOf p = key
    · subst hhome
      rw [if_pos ⟨rfl, haccepts⟩, hindex, h.group_of_index hindex]
      exact (VoxelArena.contents_append_self h.sound hheader hroom).symm
    · rw [if_neg (fun hand => hhome hand.1)]
      cases hother : m.index[key]? with
      | none => exact h.group_of_no_index hother
      | some other =>
          rw [h.group_of_index hother]
          exact (VoxelArena.contents_append_of_ne h.sound hheader hroom
            (h.slot_ne hindex hother hhome)).symm

/-- A point opens a voxel, in any vacant slot. -/
theorem Represents.openAt (h : m.Represents g) (hcap : 0 < m.capacity)
    (hslot : m.arena.IsVacant slot) (hindex : m.index[m.keyOf p]? = none)
    (haccepts : density.Accepts (g.group (m.keyOf p)) p) :
    ({ m with
      index := m.index.insert (m.keyOf p) slot
      arena := m.arena.openAt slot (m.keyOf p) p } : VoxelMap α).Represents
      (g.insert m.voxelSize density [p]) := by
  -- a vacant slot is none of those in use, so that opening it disturbs no other voxel
  have hfree : ∀ {key : VoxelKey} {other : Nat}, m.index[key]? = some other →
      slot ≠ other := by
    rintro key other hother rfl
    obtain ⟨header, hheader, -⟩ := h.header_of_index hother
    rw [VoxelArena.IsVacant, hheader] at hslot
    cases hslot
  refine ⟨h.sound.openAt hcap slot (m.keyOf p) p, ?_, ?_, fun key => ?_⟩
  · intro key other hother
    rw [VoxelArena.getElem?_headers_openAt]
    rw [Std.HashMap.getElem?_insert] at hother
    split at hother
    · next heq =>
        cases hother
        exact ⟨_, if_pos rfl, beq_iff_eq.mp heq⟩
    · rw [if_neg (hfree hother)]
      exact h.header_of_index hother
  · intro other header hheader
    rw [VoxelArena.getElem?_headers_openAt] at hheader
    rw [Std.HashMap.getElem?_insert]
    split at hheader
    · next heq =>
        subst heq
        cases hheader
        exact if_pos (beq_self_eq_true _)
    · have hold := h.index_of_header hheader
      have hne : ¬ (m.keyOf p == header.key) = true := by
        intro heq
        rw [← beq_iff_eq.mp heq, hindex] at hold
        cases hold
      rw [if_neg hne]
      exact hold
  · rw [VoxelGroups.group_insert_singleton]
    change _ = (((m.index.insert (m.keyOf p) slot)[key]?).map
      (m.arena.openAt slot (m.keyOf p) p).contents).getD []
    rw [Std.HashMap.getElem?_insert]
    by_cases hhome : m.keyOf p = key
    · subst hhome
      rw [if_pos ⟨rfl, haccepts⟩, if_pos (beq_self_eq_true _), h.group_of_no_index hindex]
      exact (VoxelArena.contents_openAt_self h.sound hcap).symm
    · rw [if_neg (fun hand => hhome hand.1), if_neg (fun heq => hhome (beq_iff_eq.mp heq))]
      cases hother : m.index[key]? with
      | none => exact h.group_of_no_index hother
      | some other =>
          rw [h.group_of_index hother]
          exact (VoxelArena.contents_openAt_of_ne h.sound hcap (hfree hother)).symm

/-- **One offer**, in whichever vacant slot a new voxel is opened. -/
theorem Represents.offerAt (h : m.Represents g) (hroom : 0 < density.maxPoints)
    (hcap : density.maxPoints ≤ m.capacity) (hslot : m.arena.IsVacant slot) (p : Vec3 α) :
    (m.offerAt slot density p).2.Represents (g.insert m.voxelSize density [p]) := by
  obtain ⟨known, hindex, haccepts, heq⟩ | ⟨hreject, heq⟩ | ⟨hindex, haccepts, heq⟩ :=
    offerAt_cases h hroom slot p
  · rw [heq]
    exact h.append hcap hindex haccepts
  · have hsame : g.insert m.voxelSize density [p] = g := by
      refine VoxelGroups.ext_group fun key => ?_
      rw [VoxelGroups.group_insert_singleton, if_neg]
      rintro ⟨rfl, haccepts⟩
      exact hreject haccepts
    rw [heq, hsame]
    exact h
  · rw [heq]
    exact h.openAt (Nat.lt_of_lt_of_le hroom hcap) hslot hindex haccepts

/-- An offer tells whether the number of points has grown. -/
theorem Represents.answer_offerAt (h : m.Represents g) (hroom : 0 < density.maxPoints)
    (slot : Nat) (p : Vec3 α) : (g.insert m.voxelSize density [p]).size =
      g.size + (m.offerAt slot density p).1.toNat := by
  have hsize : (g.insert m.voxelSize density [p]).size =
      g.size + if density.Accepts (g.group (m.keyOf p)) p then 1 else 0 :=
    VoxelGroups.size_insert_singleton p
  rw [hsize]
  obtain ⟨known, hindex, haccepts, heq⟩ | ⟨hreject, heq⟩ | ⟨hindex, haccepts, heq⟩ :=
    offerAt_cases h hroom slot p
  · rw [heq, if_pos haccepts]
    rfl
  · rw [heq, if_neg hreject]
    rfl
  · rw [heq, if_pos haccepts]
    rfl

/-- An offer changes neither voxel size nor capacity. -/
theorem offerAt_settings (m : VoxelMap α) (slot : Nat) (density : Density α) (p : Vec3 α) :
    (m.offerAt slot density p).2.voxelSize = m.voxelSize ∧
      (m.offerAt slot density p).2.capacity = m.capacity := by
  simp only [VoxelMap.offerAt]
  split
  · split
    · exact ⟨rfl, VoxelArena.capacity_append⟩
    · exact ⟨rfl, rfl⟩
  · exact ⟨rfl, rfl⟩

/-- Points offered in order are an insertion into the groups. -/
theorem Represents.offers {ps : List (Vec3 α)} {stored : Nat} {last : VoxelMap α}
    (hrun : Offers density m ps stored last) (h : m.Represents g)
    (hroom : 0 < density.maxPoints) (hcap : density.maxPoints ≤ m.capacity) :
    last.Represents (g.insert m.voxelSize density ps) ∧
      (g.insert m.voxelSize density ps).size = g.size + stored ∧
      last.voxelSize = m.voxelSize ∧ last.capacity = m.capacity := by
  induction hrun generalizing g with
  | nil => exact ⟨by rwa [VoxelGroups.insert_nil], by rw [VoxelGroups.insert_nil]; rfl, rfl, rfl⟩
  | @cons m last p ps stored slot hslot _ ih =>
      obtain ⟨hvoxelSize, hcapacity⟩ := m.offerAt_settings slot density p
      obtain ⟨hlast, hsize, hvoxelSize', hcapacity'⟩ :=
        ih (h.offerAt hroom hcap hslot p) (by rwa [hcapacity])
      rw [hvoxelSize] at hlast hsize
      rw [VoxelGroups.insert_cons]
      refine ⟨hlast, ?_, hvoxelSize'.trans hvoxelSize, hcapacity'.trans hcapacity⟩
      rw [hsize, h.answer_offerAt hroom slot p, Nat.add_assoc]

end Offer

/-! ### Dropped voxels -/

section Prune

variable {m : VoxelMap α} {g : VoxelGroups α} {key : VoxelKey} {slot : Nat}
  {place : Vec3 α} {distanceSq : α} {entries : List (VoxelKey × Nat)}

omit [Scalar α] in
/-- The map without the voxel that has the given key and slot. -/
def drop (m : VoxelMap α) (key : VoxelKey) (slot : Nat) : VoxelMap α :=
  { m with index := m.index.erase key, arena := m.arena.close slot }

/-- Pruning goes from entry to entry. -/
theorem pruneIn_cons : m.pruneIn ((key, slot) :: entries) place distanceSq =
    (if m.isNear place distanceSq slot then m else m.drop key slot).pruneIn entries place
      distanceSq := rfl

omit [Scalar α] in
/-- A key that is dropped is no longer indexed. -/
theorem getElem?_index_drop (other : VoxelKey) : (m.drop key slot).index[other]? =
    if key = other then none else m.index[other]? := by
  simp [drop, Std.HashMap.getElem?_erase]

omit [Scalar α] in
/-- **One voxel dropped.** -/
theorem Represents.drop (h : m.Represents g) (hindex : m.index[key]? = some slot) :
    (m.drop key slot).Represents (g.filter (key ≠ ·)) := by
  refine ⟨h.sound.close slot, ?_, ?_, fun other => ?_⟩
  · intro other slot' hother
    rw [getElem?_index_drop] at hother
    split at hother
    · cases hother
    · next hne =>
        obtain ⟨header, hheader, hkey⟩ := h.header_of_index hother
        refine ⟨header, ?_, hkey⟩
        change (m.arena.close slot).headers[slot']? = some header
        rw [VoxelArena.getElem?_headers_close, if_neg (h.slot_ne hindex hother hne)]
        exact hheader
  · intro slot' header hheader
    obtain ⟨hne, hheader⟩ := VoxelArena.header_of_close hheader
    have hother := h.index_of_header hheader
    rw [getElem?_index_drop, if_neg]
    · exact hother
    · rintro rfl
      rw [hindex] at hother
      cases hother
      exact hne rfl
  · change _ = (((m.drop key slot).index[other]?).map (m.arena.close slot).contents).getD []
    rw [getElem?_index_drop]
    by_cases hsame : key = other
    · simp [VoxelGroups.group_filter, hsame]
    · rw [if_neg hsame, VoxelGroups.group_filter, if_pos hsame]
      cases hother : m.index[other]? with
      | none => exact h.group_of_no_index hother
      | some slot' =>
          rw [h.group_of_index hother]
          exact (VoxelArena.contents_close_of_ne h.sound (h.slot_ne hindex hother hsame)).symm

/-- A slot is near exactly if its group is. -/
theorem Represents.isNear_iff (h : m.Represents g) (hindex : m.index[key]? = some slot) :
    m.isNear place distanceSq slot = true ↔ VoxelGroups.IsNear place distanceSq (g.group key) := by
  rw [h.group_of_index hindex, isNear]
  cases m.arena.contents slot <;> simp [VoxelGroups.IsNear]

omit [Scalar α] in
/-- **Entries to be visited**: all of them are in the index, and no key comes twice. -/
structure Pending (m : VoxelMap α) (entries : List (VoxelKey × Nat)) : Prop where
  nodup : (entries.map Prod.fst).Nodup
  index_of_mem : ∀ entry ∈ entries, m.index[entry.1]? = some entry.2

omit [Scalar α] in
/-- The index itself, in any order. -/
theorem pending_of_perm (hperm : entries.Perm m.index.toList) : m.Pending entries where
  nodup := by
    have hkeys := hperm.map Prod.fst
    rw [Std.HashMap.map_fst_toList_eq_keys] at hkeys
    exact hkeys.nodup_iff.mpr Std.HashMap.nodup_keys
  index_of_mem _ hmem := Std.HashMap.mem_toList_iff_getElem?_eq_some.mp (hperm.mem_iff.mp hmem)

omit [Scalar α] in
/-- The next entry is still indexed. -/
theorem Pending.index_head (h : m.Pending ((key, slot) :: entries)) :
    m.index[key]? = some slot :=
  h.index_of_mem (key, slot) List.mem_cons_self

omit [Scalar α] in
/-- The key of the first entry does not come again. -/
theorem Pending.ne_of_mem (h : m.Pending ((key, slot) :: entries)) {other : VoxelKey}
    (hmem : other ∈ entries.map Prod.fst) : key ≠ other := by
  rintro rfl
  exact (List.nodup_cons.mp h.nodup).1 hmem

omit [Scalar α] in
/-- The entries behind it are pending once it is done. -/
theorem Pending.tail (h : m.Pending ((key, slot) :: entries)) : m.Pending entries where
  nodup := (List.nodup_cons.mp h.nodup).2
  index_of_mem entry hmem := h.index_of_mem entry (List.mem_cons_of_mem _ hmem)

omit [Scalar α] in
/-- What is left to be visited stays in the index when the first entry is dropped. -/
theorem Pending.drop (h : m.Pending ((key, slot) :: entries)) :
    (m.drop key slot).Pending entries where
  nodup := h.tail.nodup
  index_of_mem entry hmem := by
    rw [getElem?_index_drop, if_neg (h.ne_of_mem (List.mem_map_of_mem hmem))]
    exact h.tail.index_of_mem entry hmem

/-- Entries of the index visited in any order: of the voxels visited those stay that are near.
The induction is on the entries; what is left of them stays in the index since no key comes
twice. -/
theorem Represents.pruneIn {pruned : VoxelGroups α} (h : m.Represents g)
    (hentries : m.Pending entries)
    (hkept : ∀ key, (key ∈ entries.map Prod.fst →
      VoxelGroups.IsNear place distanceSq (g.group key)) → pruned.group key = g.group key)
    (hdropped : ∀ key ∈ entries.map Prod.fst,
      ¬ VoxelGroups.IsNear place distanceSq (g.group key) → pruned.group key = []) :
    (m.pruneIn entries place distanceSq).Represents pruned := by
  -- on the entries that are left: they are still indexed, whatever was dropped before them
  induction entries generalizing m g with
  | nil =>
      obtain rfl : pruned = g := VoxelGroups.ext_group fun key => hkept key nofun
      exact h
  | cons entry entries ih =>
      obtain ⟨key, slot⟩ := entry
      rw [List.map_cons] at hkept hdropped
      have hindex := hentries.index_head
      rw [pruneIn_cons]
      split
      · next hnear =>
          rw [h.isNear_iff hindex] at hnear
          refine ih h hentries.tail (fun other hother => hkept other fun hmem => ?_)
            fun other hmem => hdropped other (List.mem_cons_of_mem _ hmem)
          rcases List.mem_cons.mp hmem with rfl | hmem
          · exact hnear
          · exact hother hmem
      · next hfar =>
          rw [h.isNear_iff hindex] at hfar
          have hgroup : ∀ other, key ≠ other → (g.filter (key ≠ ·)).group other = g.group other :=
            fun other hother => by rw [VoxelGroups.group_filter, if_pos hother]
          refine ih (h.drop hindex) hentries.drop (fun other hother => ?_)
            fun other hmem hother => ?_
          · by_cases hsame : key = other
            · subst hsame
              rw [VoxelGroups.group_filter, if_neg (fun h => h rfl)]
              exact hdropped key List.mem_cons_self hfar
            · rw [hgroup other hsame] at hother ⊢
              refine hkept other fun hmem => hother ?_
              exact (List.mem_cons.mp hmem).resolve_left (Ne.symm hsame)
          · rw [hgroup other (hentries.ne_of_mem hmem)] at hother
            exact hdropped other (List.mem_cons_of_mem _ hmem) hother

/-- Pruning changes neither voxel size nor capacity. -/
theorem pruneIn_settings (m : VoxelMap α) (entries : List (VoxelKey × Nat)) (place : Vec3 α)
    (distanceSq : α) : (m.pruneIn entries place distanceSq).voxelSize = m.voxelSize ∧
      (m.pruneIn entries place distanceSq).capacity = m.capacity := by
  induction entries generalizing m with
  | nil => exact ⟨rfl, rfl⟩
  | cons entry entries ih =>
      rw [pruneIn_cons]
      split
      · exact ih m
      · exact ih (m.drop entry.1 entry.2)

/-- **All voxels visited**, in any order: the groups are pruned. -/
theorem Represents.prune (h : m.Represents g) (hperm : entries.Perm m.index.toList)
    (place : Vec3 α) (maxDistance : α) :
    (m.pruneIn entries place (maxDistance * maxDistance)).Represents
      (g.prune place maxDistance) := by
  refine h.pruneIn (pending_of_perm hperm) (fun key hkey => ?_) fun key _ hfar => ?_
  · rw [VoxelGroups.prune, VoxelGroups.group_filter]
    by_cases hmem : key ∈ entries.map Prod.fst
    · rw [if_pos (hkey hmem)]
    · have hnone : m.index[key]? = none := by
        rw [(hperm.map Prod.fst).mem_iff, Std.HashMap.map_fst_toList_eq_keys,
          Std.HashMap.mem_keys, ← Std.HashMap.isSome_getElem?_iff_mem] at hmem
        simpa using hmem
      rw [h.group_of_no_index hnone, ite_self]
  · rw [VoxelGroups.prune, VoxelGroups.group_filter, if_neg hfar]

end Prune

/-! ### Whole runs -/

section Runs

variable {m next last : VoxelMap α} {g : VoxelGroups α} {call : MapCall α} {answer : Nat}
  {calls : List (MapCall α)} {answers : List Nat}

/-- **One call**: the map goes on as the groups do, with the same answer. -/
theorem Represents.performs (hrun : Performs m call answer next) (h : m.Represents g) :
    next.Represents (call.onGroups m.voxelSize m.capacity g) ∧
      answer = call.answer g (call.onGroups m.voxelSize m.capacity g) ∧
      next.voxelSize = m.voxelSize ∧ next.capacity = m.capacity := by
  cases hrun with
  | @refuse points density hroom =>
      have hsame : g.insert m.voxelSize (density.clamp m.capacity) points = g :=
        VoxelGroups.insert_of_no_room hroom points
      rw [MapCall.onGroups, hsame]
      exact ⟨h, (Nat.sub_self _).symm, rfl, rfl⟩
  | insert hroom hoffers =>
      obtain ⟨hnext, hsize, hsettings⟩ := h.offers hoffers (Nat.pos_of_ne_zero hroom)
        (Nat.min_le_right _ _)
      refine ⟨hnext, ?_, hsettings⟩
      simp only [MapCall.onGroups, MapCall.answer, hsize]
      omega
  | @prune place maxDistance entries hperm =>
      have hnext := h.prune hperm place maxDistance
      refine ⟨hnext, ?_, m.pruneIn_settings entries place (maxDistance * maxDistance)⟩
      simp only [MapCall.onGroups, MapCall.answer, h.size_index, hnext.size_index]

/-- **Whole runs**: calls on the map and on the groups are answered alike and end alike. -/
theorem Represents.run (hrun : Run m calls answers last) (h : m.Represents g) :
    answers = (g.perform m.voxelSize m.capacity calls).1 ∧
      last.Represents (g.perform m.voxelSize m.capacity calls).2 ∧
      last.capacity = m.capacity := by
  induction hrun generalizing g with
  | nil => exact ⟨rfl, h, rfl⟩
  | cons hcall _ ih =>
      obtain ⟨hnext, hanswer, hvoxelSize, hcapacity⟩ := h.performs hcall
      obtain ⟨hanswers, hlast, hcapacity'⟩ := ih hnext
      rw [hvoxelSize, hcapacity] at hanswers hlast
      exact ⟨by rw [VoxelGroups.perform, hanswers, hanswer], hlast, hcapacity'.trans hcapacity⟩

omit [Scalar α] in
/-- An empty map represents no groups. -/
theorem represents_empty (voxelSize : α) (capacity : Nat) :
    (empty voxelSize capacity).Represents VoxelGroups.empty where
  sound := VoxelArena.sound_empty capacity
  header_of_index h := by simp [empty] at h
  index_of_header h := by simp [empty, VoxelArena.empty] at h
  group_eq key := by simp [voxel?, empty, VoxelGroups.empty]

/-! ### The library's own choices -/

/-- The library's own way to offer points is one of those allowed: it gives a new voxel a vacant
slot. -/
theorem Represents.offers_offerAll {density : Density α} (h : m.Represents g)
    (ht : m.arena.Tracked) (hroom : 0 < density.maxPoints) (hcap : density.maxPoints ≤ m.capacity)
    (ps : List (Vec3 α)) : Offers density m ps (m.offerAll density ps).1 (m.offerAll density ps).2 ∧
      (m.offerAll density ps).2.arena.Tracked := by
  induction ps generalizing m g with
  | nil => exact ⟨.nil, ht⟩
  | cons p ps ih =>
      have hslot := ht.isVacant_freshSlot
      -- the next slot is vacant only as long as the slots stay tracked
      have ht' : (m.offer density p).2.arena.Tracked := by
        rw [offer]
        obtain ⟨known, hindex, -, heq⟩ | ⟨-, heq⟩ | ⟨-, -, heq⟩ :=
          offerAt_cases h hroom m.arena.freshSlot p
        · obtain ⟨header, hheader, -⟩ := h.header_of_index hindex
          rw [heq]
          exact ht.append hheader p
        · rw [heq]
          exact ht
        · rw [heq]
          exact ht.openAt _ _ _
      obtain ⟨hoffers, hlast⟩ := ih (h.offerAt hroom hcap hslot p) ht'
        (by rwa [(m.offerAt_settings _ density p).2])
      refine ⟨?_, hlast⟩
      have hcount : (m.offerAll density (p :: ps)).1 =
          (m.offer density p).1.toNat + ((m.offer density p).2.offerAll density ps).1 := by
        simp only [offerAll]
        by_cases hstored : (m.offer density p).1 = true
        · rw [if_pos hstored, hstored, Bool.toNat_true, Nat.add_comm]
        · rw [if_neg hstored, Bool.eq_false_of_not_eq_true hstored, Bool.toNat_false, Nat.zero_add]
      rw [hcount]
      exact .cons m.arena.freshSlot hslot hoffers

/-- Pruning keeps the slots tracked. -/
theorem Represents.tracked_pruneIn {entries : List (VoxelKey × Nat)} {place : Vec3 α}
    {distanceSq : α} (h : m.Represents g) (ht : m.arena.Tracked) (hentries : m.Pending entries) :
    (m.pruneIn entries place distanceSq).arena.Tracked := by
  induction entries generalizing m g with
  | nil => exact ht
  | cons entry entries ih =>
      obtain ⟨key, slot⟩ := entry
      have hindex := hentries.index_head
      rw [pruneIn_cons]
      split
      · exact ih h ht hentries.tail
      · obtain ⟨header, hheader, -⟩ := h.header_of_index hindex
        exact ih (h.drop hindex) (ht.close hheader) hentries.drop

/-- **The program's own call is one that may be performed.** -/
theorem Represents.performs_performCall (h : m.Represents g) (ht : m.arena.Tracked)
    (call : MapCall α) : Performs m call (m.performCall call).1 (m.performCall call).2 ∧
      (m.performCall call).2.arena.Tracked := by
  cases call with
  | insert points density =>
      by_cases hroom : (density.clamp m.capacity).maxPoints = 0
      · have hinsert : m.performCall (.insert points density) = (0, m) := if_pos hroom
        rw [hinsert]
        exact ⟨.refuse hroom, ht⟩
      · have hinsert : m.performCall (.insert points density) =
            m.offerAll (density.clamp m.capacity) points := if_neg hroom
        obtain ⟨hoffers, hlast⟩ := h.offers_offerAll ht (Nat.pos_of_ne_zero hroom)
          (Nat.min_le_right _ _) points
        rw [hinsert]
        exact ⟨.insert hroom hoffers, hlast⟩
  | prune place maxDistance =>
      exact ⟨.prune (List.Perm.refl _), h.tracked_pruneIn ht (pending_of_perm (List.Perm.refl _))⟩

/-- **The library's own run** is one of those allowed. -/
theorem Represents.run_perform (h : m.Represents g) (ht : m.arena.Tracked)
    (calls : List (MapCall α)) : Run m calls (m.perform calls).1 (m.perform calls).2 := by
  induction calls generalizing m g with
  | nil => exact .nil
  | cons call calls ih =>
      obtain ⟨hcall, ht'⟩ := h.performs_performCall ht call
      exact .cons hcall (ih (h.performs hcall).1 ht')

/-- **Voxel maps are points grouped by voxel.** In every run from an empty map, whichever vacant
slot each new voxel is given and in whichever order pruning visits the voxels, the calls are
answered as by the groups, and the map reached shows the groups reached. The library's own run is
one of these. -/
theorem run_shows_groups (voxelSize : α) (capacity : Nat) (calls : List (MapCall α)) :
    Run (empty voxelSize capacity) calls ((empty voxelSize capacity).perform calls).1
        ((empty voxelSize capacity).perform calls).2 ∧
      ∀ answers last, Run (empty voxelSize capacity) calls answers last →
        answers = (VoxelGroups.empty.perform voxelSize capacity calls).1 ∧
          last.capacity = capacity ∧
          last.Shows (VoxelGroups.empty.perform voxelSize capacity calls).2 := by
  have hempty := represents_empty voxelSize capacity
  refine ⟨hempty.run_perform (VoxelArena.tracked_empty capacity) calls, ?_⟩
  intro answers last hrun
  obtain ⟨hanswers, hlast, hcapacity⟩ := hempty.run hrun
  exact ⟨hanswers, hcapacity, hlast.shows⟩

/-- In a run that gives the seventh slot to the first voxel, the voxel is found and then
dropped. -/
theorem run_shows_groups_slot_seven : ∃ stored last : VoxelMap Float,
    Run (empty 1 2) [.insert [⟨0.5, 0.5, 0.5⟩] ⟨3, 0⟩] [1] stored ∧
      stored.voxel? ⟨0, 0, 0⟩ = some [⟨0.5, 0.5, 0.5⟩] ∧
      Run (empty 1 2) [.insert [⟨0.5, 0.5, 0.5⟩] ⟨3, 0⟩, .prune ⟨9, 0, 0⟩ 1] [1, 1] last ∧
      last.voxel? ⟨0, 0, 0⟩ = none := by
  obtain ⟨answer, stored, hinsert⟩ : ∃ answer stored, Performs (empty (1 : Float) 2)
      (.insert [⟨0.5, 0.5, 0.5⟩] ⟨3, 0⟩) answer stored :=
    ⟨_, _, .insert (by decide) (.cons 7 (VoxelArena.isVacant_empty 2 7) .nil)⟩
  obtain ⟨answer', last, hprune⟩ : ∃ answer' last, Performs stored (.prune ⟨9, 0, 0⟩ 1)
      answer' last :=
    ⟨_, _, .prune (List.Perm.refl _)⟩
  have hstored := Run.cons hinsert .nil
  have hlast := Run.cons hinsert (.cons hprune .nil)
  obtain ⟨hanswer, -, hshows⟩ := (run_shows_groups 1 2 _).2 _ _ hstored
  obtain ⟨hanswers, -, hshows'⟩ := (run_shows_groups 1 2 _).2 _ _ hlast
  rw [hanswer.trans (by decide +kernel : _ = [1])] at hstored
  rw [hanswers.trans (by decide +kernel : _ = [1, 1])] at hlast
  refine ⟨stored, last, hstored, ?_, hlast, ?_⟩
  · rw [hshows.voxel?_eq]
    decide +kernel
  · rw [hshows'.voxel?_eq]
    decide +kernel

end Runs

end VoxelMap

end LidarOdometry
