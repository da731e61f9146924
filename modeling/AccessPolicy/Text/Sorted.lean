/-!
Sets of texts as sorted lists without repetition.
-/

namespace AccessPolicy.Text

/-- Puts a text into a sorted list, unless it is there already. -/
def insertSorted (s : String) : List String → List String
  | [] => [s]
  | t :: ts => if s < t then s :: t :: ts else if s == t then t :: ts else t :: insertSorted s ts

/-- The different texts of a list, by code points. -/
def sortedSet (ts : List String) : List String := ts.foldr insertSorted []

theorem mem_insertSorted {a s : String} {ts : List String} : a ∈ insertSorted s ts ↔ a = s ∨ a ∈ ts := by
  induction ts with
  | nil => simp [insertSorted]
  | cons t ts ih =>
    unfold insertSorted
    split
    · simp
    · split
      · rename_i h
        have : s = t := by simpa using h
        simp [this]
      · simp only [List.mem_cons, ih]
        exact ⟨fun h => by rcases h with h | h | h <;> simp [h], fun h => by rcases h with h | h | h <;> simp [h]⟩

@[simp] theorem mem_sortedSet {a : String} {ts : List String} : a ∈ sortedSet ts ↔ a ∈ ts := by
  induction ts with
  | nil => simp [sortedSet]
  | cons t ts ih =>
    have : sortedSet (t :: ts) = insertSorted t (sortedSet ts) := rfl
    rw [this, mem_insertSorted, ih, List.mem_cons]

end AccessPolicy.Text
