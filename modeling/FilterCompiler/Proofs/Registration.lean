import FilterCompiler.Catalog

/-!
Catalogs as the result of registrations made one after the other. A registration adds one entry at
the end, or none if the name is blank, so a catalog is the list of what was registered.
-/

namespace FilterCompiler

namespace Catalog

/-- The entry that a registration adds. -/
def added? (registration : String × Handler) : Option (String × Handler) :=
  let key := Text.lower (Text.trim registration.1)
  if key.isEmpty then none else some (key, registration.2)

/-- The catalog after a sequence of registrations. -/
def registerAll (registrations : List (String × Handler)) : Catalog :=
  registrations.foldl (fun c r => c.register r.1 r.2) .empty

theorem register_entries (c : Catalog) (r : String × Handler) :
    (c.register r.1 r.2).entries = c.entries ++ (added? r).toList := by
  unfold register added?
  dsimp only
  split <;> simp

theorem foldl_register_entries (c : Catalog) (registrations : List (String × Handler)) :
    (registrations.foldl (fun c r => c.register r.1 r.2) c).entries =
      c.entries ++ registrations.filterMap added? := by
  induction registrations generalizing c with
  | nil => simp
  | cons r rest ih =>
      rw [List.foldl_cons, ih, register_entries, List.filterMap_cons, List.append_assoc]
      cases added? r <;> rfl

theorem registerAll_entries (registrations : List (String × Handler)) :
    (registerAll registrations).entries = registrations.filterMap added? := by
  rw [registerAll, foldl_register_entries]
  rfl

theorem mem_registerAll_entries {registrations : List (String × Handler)} {entry : String × Handler}
    (h : entry ∈ (registerAll registrations).entries) :
    ∃ r ∈ registrations, entry = (Text.lower (Text.trim r.1), r.2) := by
  rw [registerAll_entries] at h
  obtain ⟨r, hmember, hentry⟩ := List.mem_filterMap.mp h
  unfold added? at hentry
  dsimp only at hentry
  split at hentry
  · cases hentry
  · exact ⟨r, hmember, (Option.some.inj hentry).symm⟩

theorem mem_entries_of_mem_handlers {c : Catalog} {name : String} {h : Handler}
    (hmember : h ∈ c.handlers name) : (Text.lower name, h) ∈ c.entries := by
  obtain ⟨entry, hentry, rfl⟩ := List.mem_map.mp hmember
  obtain ⟨hentry, hkey⟩ := List.mem_filter.mp hentry
  rwa [← eq_of_beq hkey]

end Catalog

/-- The registrations that fields stand for: each field under all its names. -/
def Field.registrations (fields : List Field) (resolver : Resolver) (now : Option Int) :
    List (String × Handler) :=
  fields.flatMap fun f => f.names.map fun name => (name, f.handler resolver now)

namespace Catalog

variable {fields : List Field} {resolver : Resolver} {now : Option Int}

theorem ofFields_of_validateAll (h : Field.validateAll fields = .ok ()) :
    ofFields fields resolver now = .ok (registerAll (Field.registrations fields resolver now)) := by
  rw [ofFields, h, registerAll, Field.registrations, List.foldl_flatMap]
  simp only [List.foldl_map]
  rfl

theorem eq_registerAll_of_ofFields {catalog : Catalog}
    (h : ofFields fields resolver now = .ok catalog) :
    catalog = registerAll (Field.registrations fields resolver now) := by
  cases hvalid : Field.validateAll fields with
  | error fault => simp [ofFields, hvalid, Except.map] at h
  | ok =>
      rw [ofFields_of_validateAll hvalid] at h
      exact (Except.ok.inj h).symm

end Catalog

end FilterCompiler
