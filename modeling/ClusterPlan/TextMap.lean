/-!
# Maps from texts to texts

Labels and component settings are maps from texts to texts. The order of their entries is kept,
because the first bad entry is the one that gets reported, and no key occurs twice.
-/

namespace ClusterPlan

/-- A map from texts to texts, with its entries in the order in which their keys were put in. -/
structure TextMap (τ : Type := String) where
  entries : List (τ × τ)
  distinct : (entries.map Prod.fst).Nodup
  deriving DecidableEq, Repr

namespace TextMap

variable {τ : Type}

/-- The map without entries. -/
def empty : TextMap τ := ⟨[], List.nodup_nil⟩

instance : Inhabited (TextMap τ) := ⟨empty⟩

variable [DecidableEq τ]

/-- Entries with a value for a key: in the key's place, or at the end if the key is new. -/
def putEntry (key value : τ) : List (τ × τ) → List (τ × τ)
  | [] => [(key, value)]
  | (k, v) :: rest => if k = key then (k, value) :: rest else (k, v) :: putEntry key value rest

theorem keys_putEntry (key value : τ) (entries : List (τ × τ)) :
    (putEntry key value entries).map Prod.fst =
      if key ∈ entries.map Prod.fst then entries.map Prod.fst
      else entries.map Prod.fst ++ [key] := by
  induction entries with
  | nil => simp [putEntry]
  | cons e rest ih =>
    obtain ⟨k, v⟩ := e
    by_cases h : k = key
    · simp [putEntry, h]
    · by_cases hr : key ∈ rest.map Prod.fst
      · simp only [hr, if_true] at ih
        simp only [putEntry, h, if_false, List.map_cons, ih, List.mem_cons, hr, or_true, if_true]
      · simp only [hr, if_false] at ih
        simp only [putEntry, h, if_false, List.map_cons, ih, List.mem_cons, hr, or_false,
          Ne.symm h, List.cons_append]

/-- The map with a value for a key. -/
def put (key value : τ) (m : TextMap τ) : TextMap τ where
  entries := putEntry key value m.entries
  distinct := by
    rw [keys_putEntry]
    split
    · exact m.distinct
    · rename_i h
      exact List.nodup_append.2 ⟨m.distinct, by simp, fun a ha b hb => by
        rw [List.mem_singleton] at hb
        exact fun hab => h (hb ▸ hab ▸ ha)⟩

/-- The map of some entries, of which the last one counts for each key. -/
def ofList (entries : List (τ × τ)) : TextMap τ :=
  entries.foldl (fun m (key, value) => m.put key value) empty

/-- The value of a key. -/
def get? (m : TextMap) (key : String) : Option String :=
  m.entries.lookup key

end TextMap

end ClusterPlan
