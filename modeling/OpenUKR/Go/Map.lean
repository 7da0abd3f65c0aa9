import OpenUKR.Go.Result

/-!
# Go maps

A Go `map[string]V` is a `Finmap`: unordered, one value per key, equal when every lookup agrees.
-/

namespace OpenUKR

/-- A Go `map[string]V`. -/
abbrev GoMap (V : Type) := Finmap (fun _ : String => V)

namespace GoMap

/-- `m[k]` for a `map[string]string`: the value, or `""` when the key is absent. -/
def get (m : GoMap String) (k : String) : String := (m.lookup k).getD ""

/-- A map literal. -/
def ofList {V : Type} (kvs : List (String × V)) : GoMap V :=
  List.toFinmap (kvs.map fun kv => (⟨kv.1, kv.2⟩ : Sigma fun _ : String => V))

/-- `for k, v := range src { dst[k] = v }`: the entries of `src` over those of `dst`. -/
def assign {V : Type} (dst src : GoMap V) : GoMap V := src ∪ dst

theorem lookup_assign {V : Type} (dst src : GoMap V) (k : String) :
    (dst.assign src).lookup k = (src.lookup k).or (dst.lookup k) := by
  by_cases h : k ∈ src
  · obtain ⟨v, hv⟩ := Finmap.mem_iff.1 h
    rw [assign, Finmap.lookup_union_left h, hv]
    rfl
  · rw [assign, Finmap.lookup_union_right h, Finmap.lookup_eq_none.2 h]
    rfl

end GoMap

end OpenUKR
