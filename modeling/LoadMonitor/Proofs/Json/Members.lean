import LoadMonitor.Json.Value

/-!
# Members as maps

What is found under a key does not depend on the order of members whose keys differ. Members that are
set one after the other are a map: under every key is what was set there last, and where the same is
found under all keys the members are the same, whatever the order in which they were set.
-/

namespace LoadMonitor.Json

/-! ## Members that stand once -/

section Lookup

variable {β : Type} {key : String} {ms ms' : List (String × β)}

theorem lookup_ne {key' : String} (h : key ≠ key') (value : β) (ms : List (String × β)) :
    ((key', value) :: ms).lookup key = ms.lookup key := by
  rw [List.lookup_cons, beq_eq_false_iff_ne.mpr h]

theorem lookup_eq_some_iff (h : (ms.map Prod.fst).count key ≤ 1) {value : β} :
    ms.lookup key = some value ↔ (key, value) ∈ ms := by
  induction ms with
  | nil => simp
  | cons m ms ih =>
      obtain ⟨key', value'⟩ := m
      rw [List.map_cons] at h
      by_cases hkey : key = key'
      · subst hkey
        rw [List.count_cons_self] at h
        -- The key stands here already, so it stands nowhere behind.
        have hnone : ∀ value, (key, value) ∉ ms := by
          intro value hmem
          have hcount : 0 < (ms.map Prod.fst).count key :=
            List.count_pos_iff.mpr (List.mem_map_of_mem hmem)
          omega
        simp [hnone, eq_comm]
      · rw [List.count_cons_of_ne (Ne.symm hkey)] at h
        rw [lookup_ne hkey, ih h]
        simp [hkey]

theorem lookup_perm (hperm : ms.Perm ms') (h : (ms.map Prod.fst).count key ≤ 1) :
    ms.lookup key = ms'.lookup key := by
  refine Option.ext fun value => ?_
  rw [lookup_eq_some_iff h, lookup_eq_some_iff ((hperm.map Prod.fst).count_eq key ▸ h),
    hperm.mem_iff]

end Lookup

end LoadMonitor.Json

/-! ## Members that are set -/

namespace LoadMonitor.JsonMembers

variable {key : String} {value : JsonValue} {ms ms' : JsonMembers}

/-- Setting a member finds the same under every key as writing it in front does. -/
theorem lookup_insert (key' : String) :
    (ms.insert key value).lookup key' = List.lookup key' ((key, value) :: ms) := by
  induction ms with
  | nil => rfl
  | cons m ms ih =>
      obtain ⟨k, v⟩ := m
      rw [insert]
      split
      next hkey =>
        subst hkey
        cases hkey' : key' == key <;> simp [List.lookup_cons, hkey']
      next hkey =>
      split
      next => rfl
      next =>
        rw [List.lookup_cons, ih, List.lookup_cons, List.lookup_cons, List.lookup_cons]
        cases hkey' : key' == k with
        | true =>
            -- The key is that of the member in front, so it is not the one that is set.
            have hne : (key' == key) = false := by
              rw [beq_iff_eq.mp hkey']
              exact beq_eq_false_iff_ne.mpr (Ne.symm hkey)
            rw [hne]
        | false => rfl

/-- Under every key is what was set there last. -/
theorem lookup_ofList (entries : List (String × JsonValue)) (key : String) :
    (ofList entries).lookup key = entries.reverse.lookup key := by
  have hstart : ∀ start : JsonMembers,
      (entries.foldl (fun ms m => ms.insert m.1 m.2) start).lookup key =
        (entries.reverse ++ start).lookup key := by
    induction entries with
    | nil => exact fun _ => rfl
    | cons m entries ih =>
        intro start
        rw [List.foldl_cons, ih, List.lookup_append, lookup_insert, ← List.lookup_append,
          List.reverse_cons, List.append_assoc, List.singleton_append]
  rw [ofList, hstart, List.append_nil]

/-! ### Order -/

/-- The keys ascend. -/
def Ascending (ms : JsonMembers) : Prop := ms.Pairwise fun m n => m.1 < n.1

theorem mem_insert {m : String × JsonValue} (h : m ∈ ms.insert key value) :
    m = (key, value) ∨ m ∈ ms := by
  induction ms with
  | nil => exact .inl (List.mem_singleton.mp h)
  | cons n ms ih =>
      rw [insert] at h
      split at h
      · exact (List.mem_cons.mp h).imp_right (List.mem_cons_of_mem _)
      split at h
      · exact List.mem_cons.mp h
      · obtain rfl | h := List.mem_cons.mp h
        · exact .inr List.mem_cons_self
        · exact (ih h).imp_right (List.mem_cons_of_mem _)

theorem Ascending.insert (h : Ascending ms) : Ascending (ms.insert key value) := by
  induction ms with
  | nil => exact List.pairwise_singleton _ _
  | cons m ms ih =>
      obtain ⟨k, v⟩ := m
      obtain ⟨hbehind, htail⟩ := List.pairwise_cons.mp h
      rw [JsonMembers.insert]
      split
      next hkey =>
        subst hkey
        exact List.pairwise_cons.mpr ⟨hbehind, htail⟩
      next hkey =>
      split
      next hlt =>
        refine List.pairwise_cons.mpr ⟨fun n hn => ?_, h⟩
        obtain rfl | hn := List.mem_cons.mp hn
        · exact hlt
        · exact String.lt_trans hlt (hbehind n hn)
      next hnlt =>
        have hlt : k < key := String.not_le.mp fun hle =>
          hkey (String.le_antisymm hle (String.not_lt.mp hnlt))
        -- Behind the first member stand the others and the new one.
        refine List.pairwise_cons.mpr ⟨fun n hn => ?_, ih htail⟩
        obtain rfl | hn := mem_insert hn
        · exact hlt
        · exact hbehind n hn

theorem ofList_ascending (entries : List (String × JsonValue)) : Ascending (ofList entries) := by
  have hstart : ∀ start : JsonMembers, Ascending start →
      Ascending (entries.foldl (fun ms m => ms.insert m.1 m.2) start) := by
    induction entries with
    | nil => exact fun _ h => h
    | cons m entries ih => exact fun start h => ih _ h.insert
  exact hstart [] .nil

theorem Ascending.nodup_keys (h : Ascending ms) : (ms.map Prod.fst).Nodup := by
  refine List.pairwise_map.mpr (h.imp fun hlt heq => ?_)
  rw [heq] at hlt
  exact String.lt_irrefl _ hlt

theorem Ascending.nodup (h : Ascending ms) : ms.Nodup :=
  List.Pairwise.of_map Prod.fst (fun _ _ hne heq => hne (congrArg Prod.fst heq)) h.nodup_keys

/-- Members in order are determined by what is found under the keys. -/
theorem Ascending.ext (h : Ascending ms) (h' : Ascending ms')
    (hlookup : ∀ key, ms.lookup key = ms'.lookup key) : ms = ms' := by
  -- Lookups tell which members there are, and the order of the keys tells where they stand.
  have hmem : ∀ m, m ∈ ms ↔ m ∈ ms' := by
    rintro ⟨key, value⟩
    rw [← Json.lookup_eq_some_iff (List.nodup_iff_count.mp h.nodup_keys key), hlookup,
      Json.lookup_eq_some_iff (List.nodup_iff_count.mp h'.nodup_keys key)]
  have hperm : ms.Perm ms' := (List.perm_ext_iff_of_nodup h.nodup h'.nodup).mpr hmem
  exact List.Perm.eq_of_pairwise (fun m n _ _ hlt hgt => absurd hlt (String.lt_asymm hgt)) h h' hperm

/-- The order in which members with different keys are set makes no difference. -/
theorem ofList_perm {entries entries' : List (String × JsonValue)}
    (hkeys : (entries.map Prod.fst).Nodup) (hperm : entries.Perm entries') :
    ofList entries = ofList entries' := by
  refine (ofList_ascending entries).ext (ofList_ascending entries') fun key => ?_
  have hreverse : entries.reverse.Perm entries'.reverse :=
    (List.reverse_perm entries).trans (hperm.trans (List.reverse_perm entries').symm)
  -- What was set last under a key is all that was set there.
  have hcount : (entries.reverse.map Prod.fst).count key ≤ 1 := by
    rw [((List.reverse_perm entries).map Prod.fst).count_eq key]
    exact List.nodup_iff_count.mp hkeys key
  rw [lookup_ofList, lookup_ofList, Json.lookup_perm hreverse hcount]

end LoadMonitor.JsonMembers
