import Mathlib.Algebra.GroupWithZero.Nat

namespace DepthRelay

/-!
# Lists by places

Everything in a relay is named by its place in a list.  What is needed about replacing the element
at one place:

* `getElem?_set_cases`, `getElem?_set_of_some`, `getElem?_modify_of_some`, `getElem?_modify_cases`,
  `of_getElem?_modify` — what is found afterwards, and where.
* `map_set_of_eq`, `map_modify_of_eq` — a view of the list that does not see the replacement.
* `map_modify_of_comm` — a view that sees it as a change of its own.
* `getElem?_of_map_eq`, `getD_of_map_eq` — what is found in lists of which a view is the same.
* `sum_set` — what it does to a sum.
* `findSome?_cons_or` — a search answers what is found first.
* `lookup_filter_self`, `lookup_filter_ne`, `mem_of_lookup` — lists of entries, by their keys.
-/

variable {α β : Type} {f : α → β} {l : List α} {i j : Nat} {a b : α}

/-- Putting an element where it is changes nothing. -/
theorem set_of_getElem? (h : l[i]? = some a) : l.set i a = l := by
  obtain ⟨hi, rfl⟩ := List.getElem?_eq_some_iff.mp h
  exact List.set_getElem_self hi

/-- A change of what is at a place. -/
theorem modify_of_getElem? (g : α → α) (h : l[i]? = some a) : l.modify i g = l.set i (g a) := by
  apply List.ext_getElem?
  intro j
  rw [List.getElem?_modify, List.getElem?_set]
  by_cases hij : i = j
  · subst hij
    obtain ⟨hi, rfl⟩ := List.getElem?_eq_some_iff.mp h
    simp [hi]
  · simp [hij]

/-- Where nothing is, nothing changes. -/
theorem modify_of_getElem?_eq_none (g : α → α) (h : l[i]? = none) : l.modify i g = l := by
  apply List.ext_getElem?
  intro j
  rw [List.getElem?_modify]
  by_cases hij : i = j
  · subst hij
    simp [h]
  · simp [hij]

/-- An element of a list of which one place was replaced. -/
theorem getElem?_set_cases (h : (l.set i a)[j]? = some b) :
    j = i ∧ b = a ∨ j ≠ i ∧ l[j]? = some b := by
  rw [List.getElem?_set] at h
  by_cases hij : i = j
  · rw [if_pos hij] at h
    by_cases hj : j < l.length
    · rw [if_pos (hij ▸ hj)] at h
      exact .inl ⟨hij.symm, (Option.some.inj h).symm⟩
    · rw [if_neg (hij ▸ hj)] at h
      exact absurd h (by simp)
  · rw [if_neg hij] at h
    exact .inr ⟨fun hji => hij hji.symm, h⟩

theorem getElem?_set_of_some (h : l[i]? = some b) : (l.set i a)[i]? = some a :=
  List.getElem?_set_self (List.getElem?_eq_some_iff.mp h).1

/-- A change at a place where something is. -/
theorem getElem?_modify_of_some {g : α → α} (h : l[i]? = some a) :
    (l.modify i g)[i]? = some (g a) := by
  rw [List.getElem?_modify_eq, h]
  rfl

/-- What was at a place is still there, or has been changed. -/
theorem getElem?_modify_cases (g : α → α) (j : Nat) (h : l[i]? = some a) :
    (l.modify j g)[i]? = some a ∨ (l.modify j g)[i]? = some (g a) := by
  rw [List.getElem?_modify, h]
  by_cases hij : j = i
  · exact .inr (by simp [hij])
  · exact .inl (by simp [hij])

/-- An element of a list of which one place was changed. -/
theorem of_getElem?_modify {g : α → α} (h : (l.modify j g)[i]? = some b) :
    ∃ a, l[i]? = some a ∧ (i ≠ j ∧ b = a ∨ i = j ∧ b = g a) := by
  rw [List.getElem?_modify] at h
  obtain ⟨a, ha, rfl⟩ := Option.map_eq_some_iff.mp h
  refine ⟨a, ha, ?_⟩
  by_cases hij : i = j
  · exact .inr ⟨hij, if_pos hij.symm⟩
  · exact .inl ⟨hij, if_neg (Ne.symm hij)⟩

/-- An element of a list that has got one more. -/
theorem getElem?_concat_cases (h : (l ++ [a])[i]? = some b) : l[i]? = some b ∨ b = a := by
  by_cases hi : i < l.length
  · rw [List.getElem?_append_left hi] at h
    exact .inl h
  · rw [List.getElem?_append_right (by omega)] at h
    exact .inr (List.mem_singleton.mp (List.mem_of_getElem? h))

theorem map_set_of_eq (h : l[i]? = some a) (hab : f b = f a) : (l.set i b).map f = l.map f := by
  rw [List.map_set, hab]
  exact set_of_getElem? (by simp [h])

/-- A change that a view does not show. -/
theorem map_modify_of_eq {g : α → α} (h : ∀ a, l[i]? = some a → f (g a) = f a) :
    (l.modify i g).map f = l.map f := by
  cases hi : l[i]? with
  | none => rw [modify_of_getElem?_eq_none g hi]
  | some a => rw [modify_of_getElem? g hi, map_set_of_eq hi (h a hi)]

/-- A view of the list that sees the change as one of its own. -/
theorem map_modify_of_comm {g : α → α} {g' : β → β} (h : ∀ a, f (g a) = g' (f a)) :
    (l.modify i g).map f = (l.map f).modify i g' := by
  cases hi : l[i]? with
  | none =>
    rw [modify_of_getElem?_eq_none g hi, modify_of_getElem?_eq_none g' (by simp [hi])]
  | some a =>
    rw [modify_of_getElem? g hi, modify_of_getElem? (a := f a) g' (by simp [hi]), List.map_set, h]

/-- Lists that agree in a view agree in it place by place. -/
theorem getElem?_of_map_eq {l' : List α} (h : l'.map f = l.map f) (ha : l[i]? = some a) :
    ∃ a', l'[i]? = some a' ∧ f a' = f a := by
  have hi := congrArg (fun bs => bs[i]?) h
  simp only [List.getElem?_map, ha, Option.map_some] at hi
  exact Option.map_eq_some_iff.mp hi

/-- What a view shows at a place. -/
theorem getD_of_map_eq {l' : List α} (h : l'.map f = l.map f) (i : Nat) (d : α) :
    f (l'.getD i d) = f (l.getD i d) := by
  rw [List.getD_eq_getElem?_getD, List.getD_eq_getElem?_getD, ← Option.getD_map f,
    ← Option.getD_map f, ← List.getElem?_map, ← List.getElem?_map, h]

/-- A sum of which one term was replaced. -/
theorem sum_set {l : List Nat} {i n : Nat} (h : l[i]? = some n) (m : Nat) :
    (l.set i m).sum + n = l.sum + m := by
  induction l generalizing i with
  | nil => exact absurd h (by simp)
  | cons a l ih =>
    cases i with
    | zero =>
      obtain rfl : a = n := by simpa using h
      simp only [List.set_cons_zero, List.sum_cons]
      omega
    | succ i =>
      have htail := ih (i := i) (by simpa using h)
      simp only [List.set_cons_succ, List.sum_cons]
      omega

/-- A search that begins with one thing. -/
theorem findSome?_cons_or (f : α → Option β) (a : α) (l : List α) :
    (a :: l).findSome? f = (f a).or (l.findSome? f) := by
  rw [List.findSome?_cons]
  cases f a <;> rfl

/-! ### Entries with keys -/

section

variable {κ : Type} [DecidableEq κ] {m n : κ} {v : β}

/-- A name that has been filtered out is not found. -/
theorem lookup_filter_self (n : κ) (l : List (κ × β)) : (l.filter (·.1 ≠ n)).lookup n = none := by
  rw [List.lookup_eq_none_iff]
  intro x hx
  have hne : x.1 ≠ n := by simpa using (List.mem_filter.mp hx).2
  simp [hne.symm]

/-- A lookup does not see that another name is gone. -/
theorem lookup_filter_ne (h : n ≠ m) (l : List (κ × β)) :
    (l.filter (·.1 ≠ m)).lookup n = l.lookup n := by
  induction l with
  | nil => rfl
  | cons x l ih =>
    obtain ⟨x, v⟩ := x
    by_cases hx : x = m
    · have hn : (n == m) = false := by simp [h]
      simpa [List.lookup_cons, hx, hn] using ih
    · simp only [List.lookup_cons, ne_eq, hx, not_false_eq_true, decide_true,
        List.filter_cons_of_pos, ← ih]

theorem mem_of_lookup {l : List (κ × β)} (h : l.lookup n = some v) : (n, v) ∈ l := by
  obtain ⟨l₁, l₂, rfl, -⟩ := List.lookup_eq_some_iff.1 h
  simp

end

end DepthRelay
