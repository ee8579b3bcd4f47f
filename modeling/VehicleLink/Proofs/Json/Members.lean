import Mathlib.Data.String.Basic
import VehicleLink.Json.Value

namespace VehicleLink.Json

/-- Every key is less than the keys after it, so none comes twice. -/
def Ascending (members : List (String × Json)) : Prop := members.Pairwise (·.1 < ·.1)

/-- Members put one after the other among those already there. -/
def insertAll (kept members : List (String × Json)) : List (String × Json) :=
  members.foldl (fun kept m => insert m.1 m.2 kept) kept

section Lookup

variable {α : Type} {members : List (String × α)} {key k : String} {value : α}

theorem lookup_cons_ite {rest : List (String × α)} :
    List.lookup k ((key, value) :: rest) = if k = key then some value else rest.lookup k := by
  by_cases same : k = key
  · simp [same]
  · simp only [List.lookup_cons, beq_eq_false_iff_ne.mpr same, if_neg same]

theorem mem_of_lookup (found : members.lookup key = some value) : (key, value) ∈ members := by
  obtain ⟨before, after, split, _⟩ := List.lookup_eq_some_iff.mp found
  rw [split]
  simp

theorem key_ne_of_lookup_none {m : String × α} (absent : members.lookup key = none)
    (member : m ∈ members) : m.1 ≠ key := by
  rintro rfl
  have differs := List.lookup_eq_none_iff.mp absent m member
  simp at differs

theorem lookup_none_of_forall_ne (differ : ∀ m ∈ members, m.1 ≠ key) : members.lookup key = none := by
  refine List.lookup_eq_none_iff.mpr fun m member => ?_
  simpa [beq_eq_false_iff_ne] using (differ m member).symm

theorem distinct_cons {m : String × α} {rest : List (String × α)} :
    ((m :: rest).map Prod.fst).Nodup ↔ rest.lookup m.1 = none ∧ (rest.map Prod.fst).Nodup := by
  rw [List.map_cons, List.nodup_cons]
  refine and_congr_left fun _ => ⟨fun first => ?_, fun absent member => ?_⟩
  · refine lookup_none_of_forall_ne fun n member same => first ?_
    rw [← same]
    exact List.mem_map_of_mem member
  · obtain ⟨n, later, same⟩ := List.mem_map.mp member
    exact key_ne_of_lookup_none absent later same

/-- With distinct keys a member is what is found at its key. -/
theorem lookup_of_mem (distinct : (members.map Prod.fst).Nodup) (member : (key, value) ∈ members) :
    members.lookup key = some value := by
  induction members with
  | nil => simp at member
  | cons m rest ih =>
    obtain ⟨k, v⟩ := m
    obtain ⟨absent, distinct⟩ := distinct_cons.mp distinct
    rcases List.mem_cons.mp member with same | later
    · cases same
      exact List.lookup_cons_self
    · have other : key ≠ k := key_ne_of_lookup_none absent later
      rw [lookup_cons_ite, if_neg other]
      exact ih distinct later

/-- With distinct keys the order of the members plays no part. -/
theorem lookup_of_perm {members' : List (String × α)} (distinct : (members.map Prod.fst).Nodup)
    (perm : members.Perm members') (key : String) : members.lookup key = members'.lookup key := by
  have distinct' : (members'.map Prod.fst).Nodup := (perm.map Prod.fst).nodup_iff.mp distinct
  cases found : members.lookup key with
  | some value => exact (lookup_of_mem distinct' (perm.mem_iff.mp (mem_of_lookup found))).symm
  | none =>
    exact (lookup_none_of_forall_ne fun m member => key_ne_of_lookup_none found (perm.mem_iff.mpr member)).symm

end Lookup

variable {members kept : List (String × Json)} {key : String} {value : Json}

theorem Ascending.distinct (sorted : Ascending members) : (members.map Prod.fst).Nodup :=
  List.pairwise_map.mpr (sorted.imp fun less => less.ne)

theorem Ascending.nodup (sorted : Ascending members) : members.Nodup :=
  sorted.imp fun less same => less.ne (congrArg Prod.fst same)

/-- A member that is put in is found at its key, and the others at theirs. -/
theorem lookup_insert (k : String) :
    (insert key value members).lookup k = if k = key then some value else members.lookup k := by
  induction members with
  | nil => exact lookup_cons_ite
  | cons m rest ih =>
    obtain ⟨key', value'⟩ := m
    unfold insert
    split
    · rename_i same
      subst same
      simp only [lookup_cons_ite]
      split <;> rfl
    · rename_i differ
      split
      · exact lookup_cons_ite
      · simp only [lookup_cons_ite, ih]
        split
        · rename_i atOld
          rw [if_neg (fun atNew => differ (atNew.symm.trans atOld))]
        · rfl

theorem mem_insert {m : String × Json} (member : m ∈ insert key value members) :
    m = (key, value) ∨ m ∈ members := by
  induction members with
  | nil => simpa [insert] using member
  | cons n rest ih =>
    obtain ⟨key', value'⟩ := n
    unfold insert at member
    split at member
    · rcases List.mem_cons.mp member with new | old
      · exact Or.inl new
      · exact Or.inr (List.mem_cons_of_mem _ old)
    · split at member
      · rcases List.mem_cons.mp member with new | old
        · exact Or.inl new
        · exact Or.inr old
      · rcases List.mem_cons.mp member with first | later
        · exact Or.inr (first ▸ List.mem_cons_self)
        · exact (ih later).imp_right (List.mem_cons_of_mem _)

/-- Sorted members stay sorted when one is put in. -/
theorem Ascending.insert (sorted : Ascending members) : Ascending (insert key value members) := by
  induction members with
  | nil => exact List.pairwise_singleton _ _
  | cons m rest ih =>
    obtain ⟨key', value'⟩ := m
    obtain ⟨first, later⟩ := List.pairwise_cons.mp sorted
    unfold Json.insert
    split
    · rename_i same
      subst same
      exact List.pairwise_cons.mpr ⟨first, later⟩
    · rename_i differ
      split
      · rename_i less
        refine List.pairwise_cons.mpr ⟨fun n member => ?_, sorted⟩
        rcases List.mem_cons.mp member with same | behind
        · exact same ▸ less
        · exact less.trans (first n behind)
      · rename_i notLess
        have greater : key' < key := lt_of_le_of_ne (not_lt.mp notLess) (Ne.symm differ)
        refine List.pairwise_cons.mpr ⟨fun n member => ?_, ih later⟩
        rcases mem_insert member with new | old
        · exact new ▸ greater
        · exact first n old

/-- Two sorted lists of members are the same when the same is found in them at every key. -/
theorem Ascending.ext {others : List (String × Json)} (sorted : Ascending members)
    (sorted' : Ascending others) (same : ∀ key, members.lookup key = others.lookup key) :
    members = others := by
  have perm : members.Perm others := by
    refine (List.perm_ext_iff_of_nodup sorted.nodup sorted'.nodup).mpr ?_
    rintro ⟨key, value⟩
    constructor
    · intro member
      exact mem_of_lookup ((same key).symm.trans (lookup_of_mem sorted.distinct member))
    · intro member
      exact mem_of_lookup ((same key).trans (lookup_of_mem sorted'.distinct member))
  exact perm.eq_of_pairwise (fun a b _ _ less less' => absurd less less'.asymm) sorted sorted'

theorem Ascending.insertAll (sorted : Ascending kept) : Ascending (insertAll kept members) := by
  induction members generalizing kept with
  | nil => exact sorted
  | cons m rest ih => exact ih sorted.insert

/-- What has been put in was there before, or is one of the new members. -/
theorem mem_insertAll {m : String × Json} (member : m ∈ insertAll kept members) :
    m ∈ members ∨ m ∈ kept := by
  induction members generalizing kept with
  | nil => exact Or.inr member
  | cons n rest ih =>
    rcases ih member with later | before
    · exact Or.inl (List.mem_cons_of_mem _ later)
    · rcases mem_insert before with new | old
      · exact Or.inl (new ▸ List.mem_cons_self)
      · exact Or.inr old

/-- What is put in later wins. -/
theorem lookup_insertAll (distinct : (members.map Prod.fst).Nodup) (k : String) :
    (insertAll kept members).lookup k = (members.lookup k).or (kept.lookup k) := by
  induction members generalizing kept with
  | nil => rfl
  | cons m rest ih =>
    obtain ⟨key, value⟩ := m
    simp only [List.map_cons, List.nodup_cons] at distinct
    change (Json.insertAll (Json.insert key value kept) rest).lookup k = _
    rw [ih distinct.2, lookup_insert, lookup_cons_ite]
    by_cases same : k = key
    · subst same
      have absent : rest.lookup k = none :=
        lookup_none_of_forall_ne fun m member equal => distinct.1 (equal ▸ List.mem_map_of_mem member)
      simp [absent]
    · simp only [if_neg same]

/-- Members that are sorted already stay as they are. -/
theorem Ascending.insertAll_nil (sorted : Ascending members) : Json.insertAll [] members = members := by
  refine Ascending.ext (Ascending.insertAll List.Pairwise.nil) sorted fun key => ?_
  rw [lookup_insertAll sorted.distinct]
  simp

/-- Sorted members stay sorted without one of them. -/
theorem Ascending.erase (sorted : Ascending members) : Ascending (erase key members) :=
  sorted.filter _

theorem lookup_filter (p : String → Bool) (members : List (String × Json)) (k : String) :
    (members.filter fun m => p m.1).lookup k = if p k then members.lookup k else none := by
  induction members with
  | nil => simp
  | cons m rest ih =>
    obtain ⟨key, value⟩ := m
    rw [List.filter_cons]
    by_cases keep : p key = true
    · rw [if_pos keep]
      simp only [lookup_cons_ite, ih]
      split
      · rename_i same
        rw [if_pos (same ▸ keep)]
      · rfl
    · rw [if_neg keep, ih, lookup_cons_ite]
      split
      · rename_i kept
        have other : k ≠ key := fun same => keep (same ▸ kept)
        rw [if_neg other]
      · rfl

theorem lookup_erase (k : String) :
    (erase key members).lookup k = if k = key then none else members.lookup k := by
  have filtered := lookup_filter (fun k => decide (k ≠ key)) members k
  unfold erase
  rw [filtered]
  by_cases same : k = key <;> simp [same]

end VehicleLink.Json
