/-! Objects under names, so that what is done to an object can be written down. -/

namespace SmbBrowser

/-- Objects under names; no name stands for two objects. -/
structure Registry (Object : Type) where
  /-- Each name with its object. -/
  entries : List (String × Object) := []
  /-- No name comes twice. -/
  distinct : (entries.map (·.1)).Nodup := by exact List.nodup_nil

namespace Registry

variable {Object : Type}

/-- The object under a name, if there is one. -/
def get? (registry : Registry Object) (name : String) : Option Object :=
  registry.entries.lookup name

/-- The registry without a name. -/
def erase (registry : Registry Object) (name : String) : Registry Object where
  entries := registry.entries.filter (·.1 ≠ name)
  distinct := registry.distinct.sublist (List.filter_sublist.map _)

/-- The registry with an object under a name, in place of one that was there. -/
def put (registry : Registry Object) (name : String) (object : Object) : Registry Object where
  entries := (name, object) :: (registry.erase name).entries
  distinct := by
    simp only [List.map_cons, List.nodup_cons]
    exact ⟨by simp [erase], (registry.erase name).distinct⟩

/-- The names in use, in ascending order. -/
def names (registry : Registry Object) : List String :=
  (registry.entries.map (·.1)).mergeSort fun first second => decide (first ≤ second)

end Registry

end SmbBrowser
