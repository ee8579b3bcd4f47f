import VehicleLink.Proofs.Json.Values

namespace VehicleLink.Json

/-- Two values are the same but for the member at a path: the objects on the way there have the same members
otherwise. The member itself may be there in both values, in one of them or in none. -/
inductive SameBut : List String → Json → Json → Prop
  | member {members members' : List (String × Json)} (key : String)
      (others : ∀ k, k ≠ key → members'.lookup k = members.lookup k) :
      SameBut [key] (.object members) (.object members')
  | inside {members members' : List (String × Json)} {u u' : Json} {path : List String} (key : String)
      (others : ∀ k, k ≠ key → members'.lookup k = members.lookup k)
      (before : members.lookup key = some u) (after : members'.lookup key = some u')
      (inner : SameBut path u u') : SameBut (key :: path) (.object members) (.object members')

/-- What is found at a key is found there in normal form when the members have been sorted. -/
theorem lookup_insertAll_normal {members : List (String × Json)} (distinct : (members.map Prod.fst).Nodup)
    (k : String) : (insertAll [] (normalMembers members)).lookup k = (members.lookup k).map normal := by
  have keys : ((normalMembers members).map Prod.fst).Nodup := by rwa [keys_normalMembers]
  rw [lookup_insertAll keys, lookup_normalMembers, List.lookup_nil, Option.or_none]

/-- Values that are the same but at a path have normal forms that are the same but there, so the order in which
members are written plays no part. -/
theorem SameBut.normal {path : List String} {u v : Json} (same : SameBut path u v)
    (distinct : ∀ members, .object members ∈ u.parts → (members.map Prod.fst).Nodup)
    (distinct' : ∀ members, .object members ∈ v.parts → (members.map Prod.fst).Nodup) :
    SameBut path u.normal v.normal := by
  induction same with
  | @member members members' key others =>
    have here := distinct members (mem_parts_object.mpr (Or.inl rfl))
    have here' := distinct' members' (mem_parts_object.mpr (Or.inl rfl))
    refine .member key fun k other => ?_
    rw [lookup_insertAll_normal here', lookup_insertAll_normal here, others k other]
  | @inside members members' u u' path key others before after inner ih =>
    have here := distinct members (mem_parts_object.mpr (Or.inl rfl))
    have here' := distinct' members' (mem_parts_object.mpr (Or.inl rfl))
    have deeper : SameBut path u.normal u'.normal := by
      refine ih (fun inner part => distinct inner ?_) fun inner part => distinct' inner ?_
      · exact mem_parts_object.mpr (Or.inr ⟨_, mem_of_lookup before, part⟩)
      · exact mem_parts_object.mpr (Or.inr ⟨_, mem_of_lookup after, part⟩)
    refine .inside key (fun k other => ?_) ?_ ?_ deeper
    · rw [lookup_insertAll_normal here', lookup_insertAll_normal here, others k other]
    · rw [lookup_insertAll_normal here, before, Option.map_some]
    · rw [lookup_insertAll_normal here', after, Option.map_some]

end VehicleLink.Json
