import Gazetteer.Proofs.Filter.Normal

/-!
Filters key by key.  What stands under a key can be replaced without touching what stands under any other, and
filters that hold the same under every key are the same.
-/

namespace Gazetteer

open Gazetteer.Filter

abbrev Filter.Key.Held : Key → Type
  | .list _ => List String
  | .text _ => Option String
  | .lifecycle => Option Lifecycle
  | .dateMatch _ => Option DateMatch
  | .relation => Option Relation
  | .limit => Nat

namespace Filters

def get (f : Filters) : (key : Key) → key.Held
  | .list key => f.list key
  | .text key => f.text key
  | .lifecycle => f.lifecycle
  | .dateMatch column => f.dateMatch column
  | .relation => f.relation
  | .limit => f.limit

def set (f : Filters) : (key : Key) → key.Held → Filters
  | .list key, values => f.setList values key
  | .text key, value => f.setText value key
  | .lifecycle, lifecycle => { f with lifecycle }
  | .dateMatch column, matching => f.setDateMatch matching column
  | .relation, relation => { f with relation }
  | .limit, limit => { f with limit }

theorem get_set_self (f : Filters) (key : Key) (held : key.Held) : (f.set key held).get key = held := by
  rcases key with ⟨⟨⟩⟩ | ⟨⟨⟨⟩, ⟨⟩⟩⟩ | _ | ⟨⟨⟩⟩ | _ | _
  all_goals rfl

theorem get_set_of_ne (f : Filters) {key other : Key} (different : other ≠ key) (held : key.Held) :
    (f.set key held).get other = f.get other := by
  rcases key with ⟨⟨⟩⟩ | ⟨⟨⟨⟩, ⟨⟩⟩⟩ | _ | ⟨⟨⟩⟩ | _ | _ <;>
    rcases other with ⟨⟨⟩⟩ | ⟨⟨⟨⟩, ⟨⟩⟩⟩ | _ | ⟨⟨⟩⟩ | _ | _
  all_goals first | rfl | exact absurd rfl different

theorem ext_get {f g : Filters} (same : ∀ key, f.get key = g.get key) : f = g :=
  eq_of_keys (fun key => same (.list key)) (fun key => same (.text key)) (same .lifecycle)
    (fun column => same (.dateMatch column)) (same .relation) (same .limit)

end Filters

end Gazetteer
